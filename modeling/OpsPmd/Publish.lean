import OpsPmd.Changes
import OpsPmd.Reconfigure

/-!
# Status on its way to the database

`pm_ovsdb_update` clears the change flags and sets `cur_hw_set` before the transaction is
committed, and never looks at the outcome. The database is followed next to the daemon
here: what the daemon believes to be written is written exactly as long as no commit with
something to write fails.
-/

namespace OpsPmd

open Lib

/-- The transaction that `pm_ovsdb_update` builds. -/
def updateTxn (replica : Replica) (s : Pmd) : Txn where
  pmInfo := s.ovsIntfs.filterMap (fun node : String × PmPort => (publishPort replica node.2).2)
  curHw := !s.curHwSet && replica.daemons.any (fun row => row.name = nameInDaemonTable)

lemma calls_pmOvsdbUpdate (replica : Replica) (committed : Bool) (s : Pmd) :
    (pmOvsdbUpdate replica committed s).calls =
      s.calls ++ [.commitBlock (updateTxn replica s) committed] := rfl

/-- The port has a row and a change to publish. -/
def PmPort.Pending (replica : Replica) (port : PmPort) : Prop :=
  (∃ intf ∈ replica.interfaces, intf.uuid = port.uuid) ∧ port.moduleInfoChanged = true

lemma publishPort_of_pending {replica : Replica} {port : PmPort} (h : port.Pending replica) :
    publishPort replica port = ({ port with moduleInfoChanged := false },
      some (port.uuid, pmInfoOf port.ovsModuleColumns)) := by
  obtain ⟨intf, hintf, huuid⟩ := h.1
  have hrow : replica.interfaces.any (fun intf => intf.uuid = port.uuid) = true :=
    List.any_eq_true.mpr ⟨intf, hintf, by simpa using huuid⟩
  unfold publishPort
  rw [hrow, h.2]
  rfl

lemma publishPort_of_not_pending {replica : Replica} {port : PmPort} (h : ¬port.Pending replica) :
    publishPort replica port = (port, none) := by
  unfold publishPort
  split
  · rfl
  rename_i hrow
  split
  · rfl
  rename_i hchanged
  have hrow' : ∃ intf ∈ replica.interfaces, intf.uuid = port.uuid := by simpa using hrow
  exact absurd ⟨hrow', by simpa using hchanged⟩ h

lemma mem_updateTxn {replica : Replica} {s : Pmd} {uuid : Uuid} {info : PmInfo} :
    (uuid, info) ∈ (updateTxn replica s).pmInfo ↔ ∃ name port, (name, port) ∈ s.ovsIntfs ∧
      port.Pending replica ∧ port.uuid = uuid ∧ pmInfoOf port.ovsModuleColumns = info := by
  unfold updateTxn
  simp only [List.mem_filterMap, Prod.exists]
  constructor
  · rintro ⟨name, port, hmem, hpublish⟩
    by_cases hp : port.Pending replica
    · rw [publishPort_of_pending hp] at hpublish
      obtain ⟨huuid, hinfo⟩ := Prod.mk.inj (Option.some.inj hpublish)
      exact ⟨name, port, hmem, hp, huuid, hinfo⟩
    · rw [publishPort_of_not_pending hp] at hpublish
      exact absurd hpublish (by simp)
  · rintro ⟨name, port, hmem, hp, rfl, rfl⟩
    refine ⟨name, port, hmem, ?_⟩
    rw [publishPort_of_pending hp]

/-- The state of the daemon when a pass reaches `pm_ovsdb_update`. -/
def beforeUpdate (pf : Platform) (pass : Pass) (s : Pmd) : Pmd :=
  pmReadState pf pass.hw (pmdReconfigure pf pass.reads pass.idl s)

lemma pmd_pass (pf : Platform) (w : World) {pass : Pass} (h : pass.runs = true) :
    (w.pass pf pass).pmd =
      pmOvsdbUpdate pass.idl.replica pass.committed (beforeUpdate pf pass w.pmd) := by
  rw [pass_of_runs pf w h]
  rfl

lemma calls_pass (pf : Platform) (w : World) {pass : Pass} (h : pass.runs = true) :
    ∃ before, (∀ call ∈ before, call.kind ≠ .transaction) ∧
      (w.pass pf pass).pmd.calls = w.pmd.calls ++ (before ++
        [.commitBlock (updateTxn pass.idl.replica (beforeUpdate pf pass w.pmd))
          pass.committed]) := by
  obtain ⟨new, hnew, hcalls⟩ := calls_pmdReconfigure pf pass.reads pass.idl w.pmd
  refine ⟨new ++ scanCalls pf pass.hw (pmdReconfigure pf pass.reads pass.idl w.pmd), ?_, ?_⟩
  · intro call hcall
    rcases List.mem_append.mp hcall with hc | hc
    · exact hnew call hc
    · rw [(quiet_scanCalls hc).1]
      decide
  · rw [pmd_pass pf w h, calls_pmOvsdbUpdate]
    unfold beforeUpdate
    rw [calls_pmReadState, hcalls]
    simp only [List.append_assoc]

/-- The columns that only this daemon writes. -/
structure Database where
  pmInfo : Uuid → PmInfo
  curHw : Bool

def Database.apply (db : Database) (txn : Txn) : Database where
  pmInfo := fun uuid => (lastWrite some uuid txn.pmInfo).getD (db.pmInfo uuid)
  curHw := db.curHw || txn.curHw

/-- A commit that does not succeed leaves the database as it was. -/
def Database.commit (db : Database) : Call → Database
  | .commitBlock txn true => db.apply txn
  | _ => db

/-- The daemon and the database that it writes to. -/
structure Server where
  world : World
  db : Database

def serverStep (pf : Platform) (s : Server) (pass : Pass) : Server where
  world := s.world.pass pf pass
  db := (newCalls s.world.pmd (s.world.pass pf pass).pmd).foldl Database.commit s.db

lemma foldl_commit_eq_self (db : Database) {calls : List Call}
    (h : ∀ call ∈ calls, call.kind ≠ .transaction) : calls.foldl Database.commit db = db := by
  refine foldl_invariant (I := fun db' => db' = db) ?_ rfl
  rintro _ call hcall rfl
  cases call with
  | commitBlock txn committed => exact absurd rfl (h _ hcall)
  | _ => rfl

lemma db_serverStep (pf : Platform) (s : Server) {pass : Pass} (h : pass.runs = true) :
    (serverStep pf s pass).db = if pass.committed then
      s.db.apply (updateTxn pass.idl.replica (beforeUpdate pf pass s.world.pmd)) else s.db := by
  obtain ⟨before, hbefore, hcalls⟩ := calls_pass pf s.world h
  unfold serverStep
  rw [newCalls_eq hcalls, List.foldl_append, foldl_commit_eq_self s.db hbefore,
    List.foldl_cons, List.foldl_nil]
  cases pass.committed
  · rfl
  · rfl

lemma serverStep_of_not_runs (pf : Platform) (s : Server) {pass : Pass} (h : pass.runs = false) :
    serverStep pf s pass = s := by
  have hcalls : newCalls s.world.pmd s.world.pmd = [] := newCalls_eq (List.append_nil _).symm
  unfold serverStep
  rw [pass_of_not_runs pf s.world h, hcalls]
  rfl

/-- What the daemon believes to be written is in the database. -/
structure Written (replica : Replica) (s : Pmd) (db : Database) : Prop where
  pmInfo : ∀ name port, (name, port) ∈ s.ovsIntfs → port.present = true →
    (∃ intf ∈ replica.interfaces, intf.uuid = port.uuid) → port.moduleInfoChanged = false →
    db.pmInfo port.uuid = pmInfoOf port.ovsModuleColumns
  curHw : s.curHwSet = true → db.curHw = true

def WrittenAfter (pf : Platform) (s : Server) (pass : Pass) : Prop :=
  Written pass.idl.replica (serverStep pf s pass).world.pmd (serverStep pf s pass).db

/-- All that `pm_ovsdb_update` is about to write is in the database already. -/
structure NothingToWrite (replica : Replica) (s : Pmd) (db : Database) : Prop where
  pmInfo : ∀ name port, (name, port) ∈ s.ovsIntfs → port.Pending replica →
    db.pmInfo port.uuid = pmInfoOf port.ovsModuleColumns
  curHw : s.curHwSet = false → (∃ row ∈ replica.daemons, row.name = nameInDaemonTable) →
    db.curHw = true

/-- A pass whose commit fails had nothing to write. -/
def LosesNothing (pf : Platform) (s : Server) (pass : Pass) : Prop :=
  pass.runs = true → pass.committed = false →
    NothingToWrite pass.idl.replica (beforeUpdate pf pass s.world.pmd) s.db

/-- The database gives a row its name once and for all. -/
def KeepsNames (nameOf : Uuid → String) (replica : Replica) : Prop :=
  ∀ intf ∈ replica.interfaces, nameOf intf.uuid = intf.name

structure PortSaved (nameOf : Uuid → String) (db : Database) (name : String) (port : PmPort) :
    Prop where
  name : nameOf port.uuid = name
  pluggable : port.moduleDevice.pluggable = true
  scanned : port.moduleInfoChanged = true → port.present = true
  saved : port.present = true → port.moduleInfoChanged = false →
    db.pmInfo port.uuid = pmInfoOf port.ovsModuleColumns

structure Saved (nameOf : Uuid → String) (db : Database) (s : Pmd) : Prop where
  nodup : s.ovsIntfs.keys.Nodup
  port : ∀ name port, (name, port) ∈ s.ovsIntfs → PortSaved nameOf db name port

section Saved

variable {nameOf : Uuid → String} {db : Database} {pf : Platform}

lemma eq_of_uuid_eq {s : Pmd} (h : Saved nameOf db s) {name name' : String} {port port' : PmPort}
    (hmem : (name, port) ∈ s.ovsIntfs) (hmem' : (name', port') ∈ s.ovsIntfs)
    (huuid : port'.uuid = port.uuid) : port' = port := by
  have hname : name' = name := by
    rw [← (h.port name' port' hmem').name, huuid]
    exact (h.port name port hmem).name
  subst hname
  exact Shash.eq_of_mem_of_nodup h.nodup hmem' hmem

lemma saved_createdPort (intf : OvsrecInterface) (subName : String) {yamlPort : YamlPort}
    (hname : nameOf intf.uuid = intf.name) (hp : yamlPort.pluggable = true) :
    PortSaved nameOf db intf.name (createdPort pf intf subName yamlPort) := by
  obtain ⟨enable, h⟩ := pmConfigurePort_port pf (newPort pf intf subName yamlPort)
  unfold createdPort
  rw [h]
  refine ⟨hname, hp, fun hchanged => ?_, fun hpresent _ => ?_⟩
  · exact absurd hchanged (by simp [newPort])
  · exact absurd hpresent (by simp [newPort])

lemma saved_pmdReconfigure {reads : YamlReads} {idl : Idl} {s : Pmd} (h : Saved nameOf db s)
    (hnames : KeepsNames nameOf idl.replica) :
    Saved nameOf db (pmdReconfigure pf reads idl s) := by
  have hboth := records_pmdReconfigure pf reads idl (P := PortSaved nameOf db) h.nodup h.port
    (fun intf hintf subName yamlPort hp => saved_createdPort intf subName (hnames intf hintf) hp)
    (fun name port hwEnable enable hsaved =>
      ⟨hsaved.name, hsaved.pluggable, hsaved.scanned, hsaved.saved⟩)
  exact ⟨hboth.1, hboth.2⟩

lemma moduleInfoChanged_pmParse {port : PmPort} (hk : port.moduleDevice.isKnown = true)
    (hp : port.moduleDevice.pluggable = true) (page : Page) :
    (pmParse page port).2.1.moduleInfoChanged = true := by
  have hconn := connector_ne_none_of_isKnown hk
  unfold pmParse
  dsimp only
  rw [if_neg (by simp [hp]), if_neg hconn, if_neg (by simp [hk])]
  -- every case ends in a macro that raises the flag blindly
  split
  · rfl
  split
  · rfl
  · rfl

lemma moduleInfoChanged_identified {port : PmPort} (hk : port.moduleDevice.isKnown = true)
    (hp : port.moduleDevice.pluggable = true) (page : Page) :
    (identified page port).moduleInfoChanged = true := by
  have hparse := moduleInfoChanged_pmParse hk hp page
  unfold identified setA2ReadRequest
  repeat' split
  all_goals exact hparse

/-- A scan either leaves a port alone or asks for its publication. -/
lemma pmReadModuleState_cases (pf : Platform) (hw : ScanHw) {port : PmPort}
    (hp : port.moduleDevice.pluggable = true) :
    (pmReadModuleState pf hw port).port = port ∨
      (pmReadModuleState pf hw port).port.present = true ∧
        (pmReadModuleState pf hw port).port.moduleInfoChanged = true := by
  cases hk : port.moduleDevice.isKnown with
  | false =>
    rw [pmReadModuleState_of_not_isKnown pf hw hk]
    exact .inl rfl
  | true =>
    rw [pmReadModuleState_eq pf hw hk]
    split
    · exact .inr ⟨(present_identified _ port).1, moduleInfoChanged_identified hk hp _⟩
    · exact .inl rfl

lemma saved_pmReadModuleState {name : String} {port : PmPort} (hw : ScanHw)
    (h : PortSaved nameOf db name port) :
    PortSaved nameOf db name (pmReadModuleState pf hw port).port := by
  rcases pmReadModuleState_cases pf hw h.pluggable with hsame | ⟨hpresent, hchanged⟩
  · rw [hsame]
    exact h
  · have hc := config_pmReadModuleState pf hw port
    refine ⟨?_, ?_, fun _ => hpresent, fun _ hclear => ?_⟩
    · rw [show (pmReadModuleState pf hw port).port.uuid = port.uuid from
        congrArg PmPort.Config.uuid hc]
      exact h.name
    · rw [moduleDevice_pmReadModuleState]
      exact h.pluggable
    · rw [hchanged] at hclear
      contradiction

lemma saved_beforeUpdate {pass : Pass} {s : Pmd} (h : Saved nameOf db s)
    (hnames : KeepsNames nameOf pass.idl.replica) :
    Saved nameOf db (beforeUpdate pf pass s) := by
  have hreconfigure : Saved nameOf db (pmdReconfigure pf pass.reads pass.idl s) :=
    saved_pmdReconfigure h hnames
  refine ⟨?_, fun name port hmem => ?_⟩
  · rw [beforeUpdate, keys_pmReadState]
    exact hreconfigure.nodup
  · obtain ⟨old, hold, rfl⟩ := Shash.mem_map.mp hmem
    exact saved_pmReadModuleState (pass.hw name) (hreconfigure.port name old hold)

/-- The transaction writes the row of a pending port, and of no other port. -/
lemma lastWrite_updateTxn_of_only {replica : Replica} {s : Pmd} {name : String} {port : PmPort}
    (hmem : (name, port) ∈ s.ovsIntfs)
    (hone : ∀ name' port', (name', port') ∈ s.ovsIntfs → port'.uuid = port.uuid → port' = port) :
    (port.Pending replica → lastWrite some port.uuid (updateTxn replica s).pmInfo =
      some (pmInfoOf port.ovsModuleColumns)) ∧
    (¬port.Pending replica → lastWrite some port.uuid (updateTxn replica s).pmInfo = none) := by
  have hown : ∀ info, (port.uuid, info) ∈ (updateTxn replica s).pmInfo →
      port.Pending replica ∧ pmInfoOf port.ovsModuleColumns = info := by
    intro info hinfo
    obtain ⟨name', port', hmem', hp, huuid, hinfo'⟩ := mem_updateTxn.mp hinfo
    obtain rfl := hone name' port' hmem' huuid
    exact ⟨hp, hinfo'⟩
  cases hlast : lastWrite some port.uuid (updateTxn replica s).pmInfo with
  | none =>
    refine ⟨fun hp => ?_, fun _ => rfl⟩
    have hin : (port.uuid, pmInfoOf port.ovsModuleColumns) ∈ (updateTxn replica s).pmInfo :=
      mem_updateTxn.mpr ⟨name, port, hmem, hp, rfl, rfl⟩
    exact absurd hlast (lastWrite_ne_none hin rfl)
  | some info =>
    obtain ⟨entry, hentry, he⟩ := exists_of_lastWrite_eq_some hlast
    obtain rfl := Option.some.inj he
    obtain ⟨hp, hinfo⟩ := hown info hentry
    exact ⟨fun _ => congrArg some hinfo.symm, fun hnot => absurd hp hnot⟩

lemma lastWrite_updateTxn {replica : Replica} {s : Pmd} (h : Saved nameOf db s) {name : String}
    {port : PmPort} (hmem : (name, port) ∈ s.ovsIntfs) :
    (port.Pending replica → lastWrite some port.uuid (updateTxn replica s).pmInfo =
      some (pmInfoOf port.ovsModuleColumns)) ∧
    (¬port.Pending replica → lastWrite some port.uuid (updateTxn replica s).pmInfo = none) :=
  lastWrite_updateTxn_of_only hmem fun _ _ hmem' huuid => eq_of_uuid_eq h hmem hmem' huuid

lemma saved_pmOvsdbUpdate {replica : Replica} {committed : Bool} {s : Pmd} {db' : Database}
    (h : Saved nameOf db s)
    (hpending : ∀ name port, (name, port) ∈ s.ovsIntfs → port.Pending replica →
      db'.pmInfo port.uuid = pmInfoOf port.ovsModuleColumns)
    (hother : ∀ name port, (name, port) ∈ s.ovsIntfs → ¬port.Pending replica →
      db'.pmInfo port.uuid = db.pmInfo port.uuid) :
    Saved nameOf db' (pmOvsdbUpdate replica committed s) := by
  refine ⟨?_, fun name port hmem => ?_⟩
  · rw [keys_pmOvsdbUpdate]
    exact h.nodup
  · obtain ⟨old, hold, rfl⟩ := Shash.mem_map.mp hmem
    have hsaved := h.port name old hold
    by_cases hp : old.Pending replica
    · rw [publishPort_of_pending hp]
      refine ⟨hsaved.name, hsaved.pluggable, fun _ => hsaved.scanned hp.2, fun _ _ => ?_⟩
      exact hpending name old hold hp
    · rw [publishPort_of_not_pending hp]
      refine ⟨hsaved.name, hsaved.pluggable, hsaved.scanned, fun hpresent hclear => ?_⟩
      rw [hother name old hold hp]
      exact hsaved.saved hpresent hclear

end Saved

lemma curHwSet_pmdReconfigure (pf : Platform) (reads : YamlReads) (idl : Idl) (s : Pmd) :
    (pmdReconfigure pf reads idl s).curHwSet = s.curHwSet := by
  by_cases he : idl.seqno = s.idlSeqno
  · rw [pmdReconfigure_of_eq he]
  apply pmdReconfigure_rule (J := fun s' : Pmd => s'.curHwSet = s.curHwSet) he
  · rfl
  · intro s' sub _ _ hs'
    exact hs'
  · intro s' sub _ intf _ _ _ hs'
    rcases ovsdbIfIntfCreate_cases pf s' intf sub.name with ⟨yamlPort, -, -, hc⟩ | ⟨-, hc⟩
    · rw [hc]
      exact hs'
    · rw [hc]
      exact hs'
  · intro s' intf _ hs'
    rcases modifyInterface_cases pf s' intf with ⟨-, hc⟩ | ⟨old, -, hc⟩
    · rw [hc]
      exact hs'
    · rw [hc]
      exact hs'

lemma curHwSet_beforeUpdate (pf : Platform) (pass : Pass) (s : Pmd) :
    (beforeUpdate pf pass s).curHwSet = s.curHwSet :=
  curHwSet_pmdReconfigure pf pass.reads pass.idl s

lemma curHw_updateTxn {replica : Replica} {s : Pmd} :
    (updateTxn replica s).curHw = true ↔
      s.curHwSet = false ∧ ∃ row ∈ replica.daemons, row.name = nameInDaemonTable := by
  simp [updateTxn]

lemma curHwSet_pmOvsdbUpdate (replica : Replica) (committed : Bool) (s : Pmd) :
    (pmOvsdbUpdate replica committed s).curHwSet =
      (s.curHwSet || (updateTxn replica s).curHw) := rfl

/-! ## Runs with failing commits -/

/-- Nothing that the daemon has ceased to keep track of is missing in the database. -/
structure ServerInv (nameOf : Uuid → String) (s : Server) : Prop where
  saved : Saved nameOf s.db s.world.pmd
  curHw : s.world.pmd.curHwSet = true → s.db.curHw = true

lemma serverInv_start (nameOf : Uuid → String) (pf : Platform) (reads : YamlReads) (seqno : UInt32)
    (db : Database) : ServerInv nameOf ⟨World.start pf reads seqno, db⟩ := by
  constructor
  · constructor
    · exact List.nodup_nil
    · intro name port hmem
      exact absurd hmem List.not_mem_nil
  · intro hset
    exact absurd hset (by simp [pmd_start])

section Run

variable {nameOf : Uuid → String} {pf : Platform} {s : Server} {pass : Pass}

lemma writtenAfter_of_serverInv (h : ServerInv nameOf (serverStep pf s pass)) :
    WrittenAfter pf s pass := by
  constructor
  · intro name port hmem hpresent _ hclear
    exact (h.saved.port name port hmem).saved hpresent hclear
  · exact h.curHw

lemma serverInv_serverStep (h : ServerInv nameOf s) (hnames : KeepsNames nameOf pass.idl.replica)
    (hloses : LosesNothing pf s pass) : ServerInv nameOf (serverStep pf s pass) := by
  cases hr : pass.runs with
  | false =>
    rw [serverStep_of_not_runs pf s hr]
    exact h
  | true =>
    have hsaved : Saved nameOf s.db (beforeUpdate pf pass s.world.pmd) :=
      saved_beforeUpdate h.saved hnames
    have hset := curHwSet_beforeUpdate pf pass s.world.pmd
    have hdb := db_serverStep pf s hr
    have hpmd : (serverStep pf s pass).world.pmd = _ := pmd_pass pf s.world hr
    cases hcommit : pass.committed with
    | true =>
      rw [hcommit, if_pos rfl] at hdb
      constructor
      · rw [hpmd, hdb]
        apply saved_pmOvsdbUpdate hsaved
        · intro name port hmem hp
          have hlast := (lastWrite_updateTxn hsaved hmem).1 hp
          simp only [Database.apply, hlast, Option.getD_some]
        · intro name port hmem hp
          have hlast := (lastWrite_updateTxn hsaved hmem).2 hp
          simp only [Database.apply, hlast, Option.getD_none]
      · rw [hpmd, hdb, curHwSet_pmOvsdbUpdate, hset]
        intro hor
        rcases Bool.or_eq_true_iff.mp hor with hold | hnew
        · simp [Database.apply, h.curHw hold]
        · simp [Database.apply, hnew]
    | false =>
      have hnothing := hloses hr hcommit
      rw [hcommit, if_neg (by decide)] at hdb
      constructor
      · rw [hpmd, hdb]
        exact saved_pmOvsdbUpdate hsaved hnothing.pmInfo fun _ _ _ _ => rfl
      · rw [hpmd, hdb, curHwSet_pmOvsdbUpdate]
        intro hor
        rcases Bool.or_eq_true_iff.mp hor with hold | hnew
        · exact h.curHw (hset.symm.trans hold)
        · obtain ⟨hclear, hrow⟩ := curHw_updateTxn.mp hnew
          exact hnothing.curHw hclear hrow

/-- A failing commit that had something to write leaves a difference. -/
lemma losesNothing_of_writtenAfter (h : ServerInv nameOf s)
    (hnames : KeepsNames nameOf pass.idl.replica) (hw : WrittenAfter pf s pass) :
    LosesNothing pf s pass := by
  intro hr hcommit
  have hsaved : Saved nameOf s.db (beforeUpdate pf pass s.world.pmd) :=
    saved_beforeUpdate h.saved hnames
  have hdb : (serverStep pf s pass).db = s.db := by
    rw [db_serverStep pf s hr, hcommit]
    rfl
  have hpmd : (serverStep pf s pass).world.pmd = _ := pmd_pass pf s.world hr
  unfold WrittenAfter at hw
  rw [hdb, hpmd] at hw
  constructor
  · intro name port hmem hp
    have hpublish := publishPort_of_pending hp
    have hmem' : (name, { port with moduleInfoChanged := false }) ∈
        (pmOvsdbUpdate pass.idl.replica pass.committed
          (beforeUpdate pf pass s.world.pmd)).ovsIntfs :=
      Shash.mem_map.mpr ⟨port, hmem, congrArg Prod.fst hpublish⟩
    have hpresent := (hsaved.port name port hmem).scanned hp.2
    exact hw.pmInfo name { port with moduleInfoChanged := false } hmem' hpresent hp.1 rfl
  · intro hclear hrow
    apply hw.curHw
    rw [curHwSet_pmOvsdbUpdate, curHw_updateTxn.mpr ⟨hclear, hrow⟩, Bool.or_true]

end Run

/-- No status is lost in a run exactly when every commit that fails had nothing to write. -/
theorem written_iff_losesNothing (pf : Platform) (reads : YamlReads) (seqno : UInt32)
    (db : Database) (nameOf : Uuid → String) (passes : List Pass)
    (hnames : Along (serverStep pf) (fun _ pass => KeepsNames nameOf pass.idl.replica)
      ⟨World.start pf reads seqno, db⟩ passes) :
    Along (serverStep pf) (WrittenAfter pf) ⟨World.start pf reads seqno, db⟩ passes ↔
      Along (serverStep pf) (LosesNothing pf) ⟨World.start pf reads seqno, db⟩ passes := by
  apply along_congr_of_invariant (I := ServerInv nameOf) _ _
    (serverInv_start nameOf pf reads seqno db) hnames
  · intro s pass h hn
    constructor
    · exact losesNothing_of_writtenAfter h hn
    · intro hloses
      exact writtenAfter_of_serverInv (serverInv_serverStep h hn hloses)
  · intro s pass h hn hw
    exact serverInv_serverStep h hn (losesNothing_of_writtenAfter h hn hw)

namespace Switch

/-- The first pass, with an LR4 module plugged in. -/
def firstPass (committed : Bool) : Pass where
  idl := idlOf (intf "1" 1 "true") 1
  reads := reads
  hw := fun _ => hwOf lr4Page
  committed := committed

lemma keepsNames_firstPass (committed : Bool) :
    KeepsNames (fun _ => "1") (firstPass committed).idl.replica := by
  intro intf hintf
  rw [List.mem_singleton.mp hintf]
  rfl

end Switch

theorem written_iff_losesNothing_committed :
    Along (serverStep Switch.platform) (WrittenAfter Switch.platform)
      ⟨World.start Switch.platform Switch.reads 0, ⟨fun _ => [], false⟩⟩
      [Switch.firstPass true] := by
  apply (written_iff_losesNothing Switch.platform Switch.reads 0 ⟨fun _ => [], false⟩
    (fun _ => "1") [Switch.firstPass true]
    ⟨Switch.keepsNames_firstPass true, trivial⟩).mpr
  refine ⟨fun _ hfailed => ?_, trivial⟩
  exact absurd hfailed (by decide)

/-- The first commit fails, and the module never reaches the database. -/
theorem not_written_failedCommit :
    KeepsNames (fun _ => "1") (Switch.firstPass false).idl.replica ∧
    ¬Along (serverStep Switch.platform) (WrittenAfter Switch.platform)
      ⟨World.start Switch.platform Switch.reads 0, ⟨fun _ => [], false⟩⟩
      [Switch.firstPass false] := by
  refine ⟨Switch.keepsNames_firstPass false, fun h => ?_⟩
  have hlost := h.1.pmInfo "1" _ List.mem_cons_self (by decide) ⟨_, List.mem_cons_self, by decide⟩
    (by decide)
  exact absurd hlost (by decide)

end OpsPmd
