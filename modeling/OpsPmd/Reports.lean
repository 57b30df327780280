import OpsPmd.Histories
import OpsPmd.Publish

/-!
# Reports in the database

At the end of a pass every module of a known kind has been read and reported, and the report
is in the database unless the transaction that carried it has failed.
-/

namespace OpsPmd

open Lib

/-- The record follows its history, and the reports that were committed are in the database. -/
structure Delivered (db : Database) (port : PmPort) (h : History) : Prop where
  follows : FollowsHistory port h
  delivered : ∀ info, (info, true) ∈ h.reports → db.pmInfo port.uuid = info

lemma kept_delivered {pf : Platform} (hhw : pf.simulation = false) (db : Database) :
    Kept pf (fun _ _ => True) (Delivered db) where
  create := by
    intro intf subName yamlPort
    exact ⟨(kept_followsHistory hhw).create intf subName yamlPort, by simp⟩
  modify := by
    intro intf port h hd
    refine ⟨(kept_followsHistory hhw).modify intf port h hd.follows, ?_⟩
    obtain ⟨enable, hport⟩ := ovsdbIfIntfModify_port pf intf port
    rw [hport]
    exact hd.delivered
  scan := by
    intro hw port h _ hd
    refine ⟨hd.follows.scan hhw hw, ?_⟩
    have hreports : ((pmReadModuleState pf hw port).calls.foldl
        (History.step port.inst port.uuid) h).reports = h.reports := by
      refine foldl_invariant (I := fun h' : History => h'.reports = h.reports) ?_ rfl
      rintro h' call hcall hh'
      rcases mem_calls_pmReadModuleState hcall with ⟨rc, page, rfl⟩ | rfl | rfl
      · show (if port.inst = port.inst then _ else _ : History).reports = _
        rw [if_pos rfl]
        exact hh'
      · exact hh'
      · exact hh'
    have huuid : (pmReadModuleState pf hw port).port.uuid = port.uuid :=
      congrArg PmPort.Config.uuid (config_pmReadModuleState pf hw port)
    rw [hreports, huuid]
    exact hd.delivered

/-- A report that is committed reaches the database, and no other row is touched. -/
lemma Delivered.publish {replica : Replica} {db : Database} {s : Pmd} {committed : Bool}
    (htable : TableInv replica s.ovsIntfs) {name : String} {port : PmPort} {h : History}
    (hmem : (name, port) ∈ s.ovsIntfs) (hd : Delivered db port h) :
    Delivered (if committed then db.apply (updateTxn replica s) else db)
      (publishPort replica port).1
      ((publishPort replica port).2.toList.foldl (History.report port.uuid committed) h) := by
  have hone : ∀ name' port', (name', port') ∈ s.ovsIntfs → port'.uuid = port.uuid →
      port' = port := fun name' port' hmem' huuid =>
    congrArg Prod.snd (htable.eq_of_uuid_eq hmem' hmem huuid)
  refine ⟨hd.follows.publish committed, ?_⟩
  by_cases hp : port.Pending replica
  · rw [publishPort_of_pending hp]
    intro info hinfo
    have hreports : History.report port.uuid committed h
        (port.uuid, pmInfoOf port.ovsModuleColumns) =
        { h with reports := h.reports ++ [(pmInfoOf port.ovsModuleColumns, committed)] } :=
      if_pos rfl
    have hinfo' : (info, true) ∈ (History.report port.uuid committed h
        (port.uuid, pmInfoOf port.ovsModuleColumns)).reports := hinfo
    rw [hreports] at hinfo'
    have hfirst : h.reports = [] := by
      cases hd.follows with
      | unread => rfl
      | unreported => rfl
      | reported page committed' hk hport =>
        have hchanged := hp.2
        rw [hport] at hchanged
        contradiction
    rw [hfirst] at hinfo'
    obtain ⟨rfl, rfl⟩ := Prod.mk.inj (List.mem_singleton.mp hinfo')
    show ((lastWrite some port.uuid (updateTxn replica s).pmInfo).getD _ : PmInfo) = _
    rw [(lastWrite_updateTxn_of_only hmem hone).1 hp]
    rfl
  · rw [publishPort_of_not_pending hp]
    intro info hinfo
    have hsame : (if committed then db.apply (updateTxn replica s) else db).pmInfo port.uuid =
        db.pmInfo port.uuid := by
      split
      · show ((lastWrite some port.uuid (updateTxn replica s).pmInfo).getD _ : PmInfo) = _
        rw [(lastWrite_updateTxn_of_only hmem hone).2 hp]
        rfl
      · rfl
    exact hsame.trans (hd.delivered info hinfo)

/-- The server between two passes: nothing is left to read or to publish. -/
structure ReportInv (pf : Platform) (s : Server) : Prop where
  synced : Synced pf s.world
  delivered : Records (Delivered s.db) s.world.pmd
  read : ∀ name port, (name, port) ∈ s.world.pmd.ovsIntfs →
    port.moduleDevice.isKnown = true → port.unread = false
  published : ∀ name port, (name, port) ∈ s.world.pmd.ovsIntfs → port.moduleInfoChanged = false

lemma reportInv_start (pf : Platform) (reads : YamlReads) (seqno : UInt32) (db : Database) :
    ReportInv pf ⟨World.start pf reads seqno, db⟩ where
  synced := synced_start pf reads seqno
  delivered := by simp [Records, pmd_start]
  read := by simp [pmd_start]
  published := by simp [pmd_start]

lemma moduleInfoChanged_publishPort {replica : Replica} {port : PmPort}
    (hrow : ∃ intf ∈ replica.interfaces, intf.uuid = port.uuid) :
    (publishPort replica port).1.moduleInfoChanged = false := by
  by_cases hp : port.Pending replica
  · rw [publishPort_of_pending hp]
  · rw [publishPort_of_not_pending hp]
    cases hc : port.moduleInfoChanged with
    | false => rfl
    | true => exact absurd ⟨hrow, hc⟩ hp

lemma unread_publishPort (replica : Replica) (port : PmPort) :
    (publishPort replica port).1.unread = port.unread := by
  have hrec := record_publishPort replica port
  unfold PmPort.unread
  rw [show (publishPort replica port).1.present = port.present from
    congrArg PmPort.Record.present hrec,
    show (publishPort replica port).1.retry = port.retry from congrArg PmPort.Record.retry hrec]

section BeforeUpdate

variable {pf : Platform} {w : World} {pass : Pass}

lemma tableInv_beforeUpdate (h : Synced pf w) (hf : Follows w.idl pass.idl) :
    TableInv pass.idl.replica (beforeUpdate pf pass w.pmd).ovsIntfs := by
  have hsync : Synced pf (w.step pf (.reconfigure pass.reads pass.idl)) := synced_step h hf
  have hscan : Synced pf ((w.step pf (.reconfigure pass.reads pass.idl)).step pf
    (.readState pass.hw)) := synced_step hsync trivial
  exact hscan.table

lemma Kept.beforeUpdate {hardware : String → ScanHw → Prop} {P : PmPort → History → Prop}
    (hP : Kept pf hardware P) (h : Synced pf w) (hf : Follows w.idl pass.idl)
    (hrec : Records P w.pmd) (hhw : ∀ name, hardware name (pass.hw name)) :
    Records P (beforeUpdate pf pass w.pmd) := by
  have hsync : Synced pf (w.step pf (.reconfigure pass.reads pass.idl)) := synced_step h hf
  exact hP.pmReadState hsync.table (hP.pmdReconfigure h hf hrec) hhw

end BeforeUpdate

lemma reportInv_serverStep {pf : Platform} (hhw : pf.simulation = false) {s : Server} {pass : Pass}
    (h : ReportInv pf s) (hf : pass.runs = true → Follows s.world.idl pass.idl) :
    ReportInv pf (serverStep pf s pass) := by
  cases hr : pass.runs with
  | false =>
    rw [serverStep_of_not_runs pf s hr]
    exact h
  | true =>
    have htable : TableInv pass.idl.replica (beforeUpdate pf pass s.world.pmd).ovsIntfs :=
      tableInv_beforeUpdate h.synced (hf hr)
    have hbefore : Records (Delivered s.db) (beforeUpdate pf pass s.world.pmd) :=
      (kept_delivered hhw s.db).beforeUpdate h.synced (hf hr) h.delivered fun _ => trivial
    have hread : ∀ name port, (name, port) ∈ (beforeUpdate pf pass s.world.pmd).ovsIntfs →
        port.moduleDevice.isKnown = true → port.unread = false := by
      intro name port hmem hk
      obtain ⟨old, hold, rfl⟩ := Shash.mem_map.mp hmem
      rw [moduleDevice_pmReadModuleState] at hk
      exact unread_pmReadModuleState pf (pass.hw name) hk
    have hpmd : (serverStep pf s pass).world.pmd = _ := pmd_pass pf s.world hr
    refine ⟨synced_pass h.synced hf, ?_, ?_, ?_⟩
    · rw [hpmd, db_serverStep pf s hr]
      exact records_pmOvsdbUpdate htable hbefore fun name port hmem h' hd => hd.publish htable hmem
    · rw [hpmd]
      intro name port hmem hk
      obtain ⟨old, hold, rfl⟩ := Shash.mem_map.mp hmem
      have hdev : (publishPort pass.idl.replica old).1.moduleDevice = old.moduleDevice :=
        congrArg PmPort.Config.moduleDevice (config_publishPort pass.idl.replica old)
      rw [unread_publishPort]
      exact hread name old hold (hdev ▸ hk)
    · rw [hpmd]
      intro name port hmem
      obtain ⟨old, hold, rfl⟩ := Shash.mem_map.mp hmem
      obtain ⟨intf, hintf, -, huuid⟩ := htable.row name old hold
      exact moduleInfoChanged_publishPort ⟨intf, hintf, huuid⟩

/-- Every record is accounted for: a module of a known kind has been read once and reported
once, as its device has it read, and the report is in the database if it was committed; of
the others nothing is known and nothing is said. -/
structure Accounted (s : Server) : Prop where
  known : ∀ name port, (name, port) ∈ s.world.pmd.ovsIntfs → port.moduleDevice.isKnown = true →
    ∃ page committed, port = { identified page port.blank with moduleInfoChanged := false } ∧
      history name port.uuid s.world.pmd.calls =
        ⟨[page], [(pmInfoOf (identified page port.blank).ovsModuleColumns, committed)]⟩ ∧
      (committed = true →
        s.db.pmInfo port.uuid = pmInfoOf (identified page port.blank).ovsModuleColumns)
  unknown : ∀ name port, (name, port) ∈ s.world.pmd.ovsIntfs →
    port.moduleDevice.isKnown = false →
    port = port.blank ∧ history name port.uuid s.world.pmd.calls = {}

lemma accounted_of_reportInv {pf : Platform} {s : Server} (h : ReportInv pf s) : Accounted s := by
  refine ⟨fun name port hmem hk => ?_, fun name port hmem hk => ?_⟩
  · obtain ⟨hfollows, hdelivered⟩ := h.delivered name port hmem
    have hread := h.read name port hmem hk
    have hpublished := h.published name port hmem
    generalize history name port.uuid s.world.pmd.calls = log at hfollows hdelivered ⊢
    cases hfollows with
    | unread hport =>
      rw [hport] at hread
      contradiction
    | unreported page hk' hport =>
      have hpluggable : port.blank.moduleDevice.pluggable = true :=
        h.synced.table.pluggable name port hmem
      have hknown : port.blank.moduleDevice.isKnown = true := hk'
      have hchanged := moduleInfoChanged_identified hknown hpluggable page
      rw [← hport, hpublished] at hchanged
      contradiction
    | reported page committed hk' hport =>
      have hcol : port.ovsModuleColumns = (identified page port.blank).ovsModuleColumns := by
        conv_lhs => rw [hport]
      refine ⟨page, committed, hport, by rw [hcol], ?_⟩
      rintro rfl
      rw [← hcol]
      exact hdelivered _ (List.mem_singleton.mpr rfl)
  · obtain ⟨hfollows, -⟩ := h.delivered name port hmem
    generalize history name port.uuid s.world.pmd.calls = log at hfollows ⊢
    cases hfollows with
    | unread hport => exact ⟨hport, rfl⟩
    | unreported page hk' => exact absurd (hk.symm.trans hk') (by decide)
    | reported page committed hk' => exact absurd (hk.symm.trans hk') (by decide)

lemma mem_reports_foldl_report {uuid : Uuid} {committed : Bool} {entries : List (Uuid × PmInfo)}
    {h : History} {report : PmInfo × Bool}
    (hmem : report ∈ (entries.foldl (History.report uuid committed) h).reports) :
    report ∈ h.reports ∨ report.2 = committed := by
  refine foldl_invariant (I := fun h' : History =>
    ∀ r ∈ h'.reports, r ∈ h.reports ∨ r.2 = committed) ?_ (fun _ hr => .inl hr) report hmem
  intro h' entry _ hI r hr
  unfold History.report at hr
  split at hr
  · rcases List.mem_append.mp hr with hr | hr
    · exact hI r hr
    · rw [List.mem_singleton.mp hr]
      exact .inr rfl
  · exact hI r hr

/-- Every report was part of a transaction with this outcome. -/
lemma exists_commitBlock {name : String} {uuid : Uuid} {calls : List Call}
    {report : PmInfo × Bool} (h : report ∈ (history name uuid calls).reports) :
    ∃ txn, Call.commitBlock txn report.2 ∈ calls := by
  induction calls using List.reverseRecOn with
  | nil => exact absurd h List.not_mem_nil
  | append_singleton calls call ih =>
    rw [history_append] at h
    have hold : report ∈ (history name uuid calls).reports →
        ∃ txn, Call.commitBlock txn report.2 ∈ calls ++ [call] := by
      intro hmem
      obtain ⟨txn, htxn⟩ := ih hmem
      exact ⟨txn, List.mem_append_left _ htxn⟩
    cases call with
    | intfCreate subsystem inst =>
      have h' : report ∈
          (if inst = name then {} else history name uuid calls : History).reports := h
      split at h'
      · exact absurd h' List.not_mem_nil
      · exact hold h'
    | readA0 inst rc page =>
      have h' : report ∈ (if inst = name then _ else _ : History).reports := h
      split at h'
      · exact hold h'
      · exact hold h'
    | commitBlock txn committed =>
      rcases mem_reports_foldl_report h with h' | h'
      · exact hold h'
      · exact ⟨txn, List.mem_append_right _ (by rw [h']; exact List.mem_singleton_self _)⟩
    | _ => exact hold h

/-- The server between two passes of which none has failed to commit. -/
structure CommitInv (pf : Platform) (s : Server) : Prop where
  reports : ReportInv pf s
  committed : ∀ txn committed, Call.commitBlock txn committed ∈ s.world.pmd.calls →
    committed = true

lemma commitInv_serverStep {pf : Platform} (hhw : pf.simulation = false) {s : Server} {pass : Pass}
    (h : CommitInv pf s) (hf : pass.runs = true →
      Follows s.world.idl pass.idl ∧ pass.committed = true) :
    CommitInv pf (serverStep pf s pass) := by
  refine ⟨reportInv_serverStep hhw h.reports fun hr => (hf hr).1, ?_⟩
  intro txn committed hmem
  cases hr : pass.runs with
  | false =>
    rw [serverStep_of_not_runs pf s hr] at hmem
    exact h.committed txn committed hmem
  | true =>
    obtain ⟨before, hbefore, hcalls⟩ := calls_pass pf s.world hr
    have hmem' : Call.commitBlock txn committed ∈ (s.world.pass pf pass).pmd.calls := hmem
    rw [hcalls] at hmem'
    rcases List.mem_append.mp hmem' with hold | hnew
    · exact h.committed txn committed hold
    rcases List.mem_append.mp hnew with hc | hc
    · exact absurd rfl (hbefore _ hc)
    · have hlast := List.mem_singleton.mp hc
      injection hlast with _ hcommitted
      rw [hcommitted]
      exact (hf hr).2

lemma commitInv_of_passes {pf : Platform} (hhw : pf.simulation = false) {reads : YamlReads}
    {seqno : UInt32} {db : Database} {passes : List Pass}
    (hok : Along (serverStep pf) (fun s pass => pass.runs = true →
      Follows s.world.idl pass.idl ∧ pass.committed = true)
      ⟨World.start pf reads seqno, db⟩ passes) :
    CommitInv pf (run (serverStep pf) ⟨World.start pf reads seqno, db⟩ passes) :=
  Along.invariant (fun _ _ hI hf => commitInv_serverStep hhw hI hf)
    ⟨reportInv_start pf reads seqno db, by simp [pmd_start]⟩ hok

/-- The one report of a module of a known kind is in the database. -/
lemma CommitInv.known {pf : Platform} {s : Server} (h : CommitInv pf s) {name : String}
    {port : PmPort} (hmem : (name, port) ∈ s.world.pmd.ovsIntfs)
    (hk : port.moduleDevice.isKnown = true) :
    ∃ page, port = { identified page port.blank with moduleInfoChanged := false } ∧
      (history name port.uuid s.world.pmd.calls).pages = [page] ∧
      s.db.pmInfo port.uuid = pmInfoOf (identified page port.blank).ovsModuleColumns := by
  obtain ⟨page, committed, hport, hhistory, hdb⟩ :=
    (accounted_of_reportInv h.reports).known name port hmem hk
  have hreport : (pmInfoOf (identified page port.blank).ovsModuleColumns, committed) ∈
      (history name port.uuid s.world.pmd.calls).reports := by
    rw [hhistory]
    exact List.mem_singleton_self _
  obtain ⟨txn, htxn⟩ := exists_commitBlock hreport
  have hpages : (history name port.uuid s.world.pmd.calls).pages = [page] := by
    rw [hhistory]
  exact ⟨page, hport, hpages, hdb (h.committed txn committed htxn)⟩

/-- Interfaces of one device that have shown one page have records with the same contents, and
the two databases say the same of them. -/
def SameReports (s s' : Server) : Prop :=
  ∀ name port, (name, port) ∈ s.world.pmd.ovsIntfs →
    ∀ name' port', (name', port') ∈ s'.world.pmd.ovsIntfs →
      port.moduleDevice = port'.moduleDevice → port.moduleDevice.isKnown = true →
      (history name port.uuid s.world.pmd.calls).pages =
        (history name' port'.uuid s'.world.pmd.calls).pages →
      port.contents = port'.contents ∧ s.db.pmInfo port.uuid = s'.db.pmInfo port'.uuid

lemma contents_identified (page : Page) {port port' : PmPort}
    (h : port.moduleDevice = port'.moduleDevice) :
    (identified page port.blank).contents = (identified page port'.blank).contents := by
  obtain ⟨g, hg⟩ := exists_identified port.moduleDevice page
  rw [hg port.blank rfl, hg port'.blank h.symm]
  rfl

lemma sameReports_of_commitInv {pf pf' : Platform} {s s' : Server} (h : CommitInv pf s)
    (h' : CommitInv pf' s') : SameReports s s' := by
  intro name port hmem name' port' hmem' hdev hk hpages
  obtain ⟨page, hport, hread, hdb⟩ := h.known hmem hk
  obtain ⟨page', hport', hread', hdb'⟩ := h'.known hmem' (hdev ▸ hk)
  rw [hread, hread'] at hpages
  obtain rfl : page = page' := List.singleton_inj.mp hpages
  have hcontents := contents_identified page hdev
  have hcolumns : (identified page port.blank).ovsModuleColumns =
      (identified page port'.blank).ovsModuleColumns :=
    congrArg PmPort.Contents.columns hcontents
  constructor
  · calc port.contents
        = { (identified page port.blank).contents with moduleInfoChanged := false } := by
          conv_lhs => rw [hport]
          rfl
      _ = { (identified page port'.blank).contents with moduleInfoChanged := false } := by
          rw [hcontents]
      _ = port'.contents := by
          conv_rhs => rw [hport']
          rfl
  · rw [hdb, hdb', hcolumns]

/-- What daemons on hardware say of a module depends on its page and the device alone: another
daemon, after any other passes and on any other database, says the same. -/
theorem sameReports_of_passes (pf pf' : Platform) (hhw : pf.simulation = false)
    (hhw' : pf'.simulation = false) (reads reads' : YamlReads) (seqno seqno' : UInt32)
    (db db' : Database) {passes passes' : List Pass}
    (hok : Along (serverStep pf) (fun s pass => pass.runs = true →
      Follows s.world.idl pass.idl ∧ pass.committed = true)
      ⟨World.start pf reads seqno, db⟩ passes)
    (hok' : Along (serverStep pf') (fun s pass => pass.runs = true →
      Follows s.world.idl pass.idl ∧ pass.committed = true)
      ⟨World.start pf' reads' seqno', db'⟩ passes') :
    SameReports (run (serverStep pf) ⟨World.start pf reads seqno, db⟩ passes)
      (run (serverStep pf') ⟨World.start pf' reads' seqno', db'⟩ passes') :=
  sameReports_of_commitInv (commitInv_of_passes hhw hok) (commitInv_of_passes hhw' hok')

/-- The daemon is started again. -/
theorem sameReports_of_passes_restart :
    SameReports
      (run (serverStep Switch.platform)
        ⟨World.start Switch.platform Switch.reads 0, ⟨fun _ => [], false⟩⟩
        [Switch.firstPass true])
      (run (serverStep Switch.platform)
        ⟨World.start Switch.platform Switch.reads 5, (run (serverStep Switch.platform)
          ⟨World.start Switch.platform Switch.reads 0, ⟨fun _ => [], false⟩⟩
          [Switch.firstPass true]).db⟩ [Switch.firstPass true]) := by
  apply sameReports_of_passes Switch.platform Switch.platform rfl rfl
  · exact ⟨fun _ => ⟨⟨by decide, by decide, by decide, by decide⟩, rfl⟩, trivial⟩
  · exact ⟨fun _ => ⟨⟨by decide, by decide, by decide, by decide⟩, rfl⟩, trivial⟩

end OpsPmd
