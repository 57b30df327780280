import OpsPmd.Reports

/-!
# Several daemons over one database

Daemons come and go and take over from each other, and the database stays. As long as the
modules and their description stay what they are, no daemon takes back what another one has
said, no matter which of them holds the lock when.
-/

namespace OpsPmd

open Lib

/-- What stays the same under all daemons: the names of the rows, the subsystem of each interface,
the ports that are described, and what the module of an interface shows there. -/
structure Site where
  nameOf : Uuid → String
  subOf : Uuid → String
  port : String → String → Option YamlPort
  page : String → YamlPort → Page

namespace Site

/-- The port of the interface with this row. -/
def device (site : Site) (uuid : Uuid) : Option YamlPort :=
  site.port (site.subOf uuid) (site.nameOf uuid)

/-- A scan of the interface gets what its module shows. -/
def Shows (site : Site) (name : String) (hw : ScanHw) : Prop :=
  ∀ (subsystem : String) (device : YamlPort),
    (hw.serialId subsystem device.moduleEeprom (serialIdOffset device) 0).data =
      site.page name device

/-- The pass finds nothing that contradicts the site. Its reads may fail or find a part of the
ports only. -/
structure Fits (site : Site) (pass : Pass) : Prop where
  names : KeepsNames site.nameOf pass.idl.replica
  subs : ∀ sub ∈ pass.idl.replica.subsystems, ∀ intf ∈ sub.interfaces,
    site.subOf intf.uuid = sub.name
  ports : ∀ sub ∈ pass.idl.replica.subsystems, ∀ port ∈ (pass.reads sub).ports,
    site.port sub.name port.name = some port
  page : ∀ name, site.Shows name (pass.hw name)

end Site

/-- A record of a port with this device, when it is new. -/
def newRecord (device : YamlPort) : PmPort :=
  { inst := "", uuid := 0, moduleDevice := device, subsystem := "" }

/-- What is reported of a module that shows the page on a port of this device. -/
def moduleStatus (device : YamlPort) (page : Page) : PmInfo :=
  pmInfoOf (identified page (newRecord device)).ovsModuleColumns

lemma pmInfoOf_identified (page : Page) (port : PmPort) :
    pmInfoOf (identified page port.blank).ovsModuleColumns =
      moduleStatus port.moduleDevice page := by
  have hdevice : port.moduleDevice = (newRecord port.moduleDevice).moduleDevice := rfl
  have hcontents := contents_identified page hdevice
  exact congrArg (fun c => pmInfoOf c.columns) hcontents

/-- The row has a port of a known kind, and this is what is reported of its module. -/
def Site.Says (site : Site) (uuid : Uuid) (info : PmInfo) : Prop :=
  ∃ device, site.device uuid = some device ∧ device.isKnown = true ∧
    info = moduleStatus device (site.page (site.nameOf uuid) device)

/-- A row has kept its value or says what is reported of its module. -/
def Site.Stable (site : Site) (db db' : Database) : Prop :=
  ∀ uuid, db'.pmInfo uuid = db.pmInfo uuid ∨ site.Says uuid (db'.pmInfo uuid)

structure Cluster (ι : Type*) where
  daemons : ι → World
  db : Database

/-- A daemon makes a pass, or it is started again after it has been stopped between two passes. -/
inductive ClusterInput (ι : Type*)
  | pass (i : ι) (pass : Pass)
  | restart (i : ι) (reads : YamlReads) (seqno : UInt32)

section Cluster

variable {ι : Type*} [DecidableEq ι]

def Cluster.start (pf : Platform) (reads : ι → YamlReads) (seqno : ι → UInt32) (db : Database) :
    Cluster ι := ⟨fun i => World.start pf (reads i) (seqno i), db⟩

def clusterStep (pf : Platform) (c : Cluster ι) : ClusterInput ι → Cluster ι
  | .pass i pass =>
    let s := serverStep pf ⟨c.daemons i, c.db⟩ pass
    ⟨Function.update c.daemons i s.world, s.db⟩
  | .restart i reads seqno =>
    { c with daemons := Function.update c.daemons i (World.start pf reads seqno) }

/-- Daemons may hold the lock at the same time, as far as this goes. -/
def Site.Admits (site : Site) (c : Cluster ι) : ClusterInput ι → Prop
  | .pass i pass => pass.runs = true → Follows (c.daemons i).idl pass.idl ∧ site.Fits pass
  | .restart .. => True

end Cluster

/-- What the module of this record shows. -/
def Site.pageOf (site : Site) (port : PmPort) : Page := site.page port.inst port.moduleDevice

/-- The record belongs to an interface of the site. -/
structure Site.Has (site : Site) (port : PmPort) : Prop where
  inst : site.nameOf port.uuid = port.inst
  subsystem : site.subOf port.uuid = port.subsystem
  device : site.device port.uuid = some port.moduleDevice

/-- The ports of the daemon are those of the site. -/
structure Site.Found (site : Site) (s : Pmd) : Prop where
  nodup : s.ovsIntfs.keys.Nodup
  yaml : ∀ sub, ∀ port ∈ s.yaml sub, site.port sub port.name = some port
  port : ∀ name port, (name, port) ∈ s.ovsIntfs → site.Has port

/-- All that has been read of the module is the page it shows. -/
def Site.Read (site : Site) (port : PmPort) (h : History) : Prop :=
  ∀ page ∈ h.pages, page = site.pageOf port

section Daemon

variable {pf : Platform} {site : Site} {pass : Pass}

lemma Site.Has.of_config {port port' : PmPort} (h : site.Has port)
    (hconfig : port'.config = port.config) : site.Has port' := by
  have hinst : port'.inst = port.inst := congrArg PmPort.Config.inst hconfig
  have huuid : port'.uuid = port.uuid := congrArg PmPort.Config.uuid hconfig
  have hsub : port'.subsystem = port.subsystem := congrArg PmPort.Config.subsystem hconfig
  have hdevice : port'.moduleDevice = port.moduleDevice :=
    congrArg PmPort.Config.moduleDevice hconfig
  exact ⟨by rw [huuid, hinst, h.inst], by rw [huuid, hsub, h.subsystem],
    by rw [huuid, hdevice, h.device]⟩

lemma pageOf_of_config {port port' : PmPort} (hconfig : port'.config = port.config) :
    site.pageOf port' = site.pageOf port := by
  unfold Site.pageOf
  rw [show port'.inst = port.inst from congrArg PmPort.Config.inst hconfig,
    show port'.moduleDevice = port.moduleDevice from
      congrArg PmPort.Config.moduleDevice hconfig]

/-- A table whose records have the configuration of those of another. -/
lemma Site.Found.map {s s' : Pmd} (h : site.Found s) (hyaml : s'.yaml = s.yaml)
    {f : String × PmPort → PmPort} (hf : ∀ n, (f n).config = n.2.config)
    (htable : s'.ovsIntfs = s.ovsIntfs.map (fun n => (n.1, f n))) : site.Found s' where
  nodup := by
    rw [htable, Shash.keys_map]
    exact h.nodup
  yaml := hyaml ▸ h.yaml
  port := by
    intro name port hmem
    rw [htable] at hmem
    obtain ⟨old, hold, rfl⟩ := Shash.mem_map.mp hmem
    exact (h.port name old hold).of_config (hf (name, old))

lemma Site.Found.loadSubsystem {s : Pmd} (h : site.Found s) {reads : YamlReads}
    {sub : OvsrecSubsystem}
    (hports : ∀ port ∈ (reads sub).ports, site.port sub.name port.name = some port) :
    site.Found (loadSubsystem reads s sub) where
  nodup := h.nodup
  yaml := by
    intro name port hmem
    have hyaml : (OpsPmd.loadSubsystem reads s sub).yaml =
        Function.update s.yaml sub.name (reads sub).ports := rfl
    rw [hyaml] at hmem
    by_cases hname : name = sub.name
    · subst hname
      rw [Function.update_self] at hmem
      exact hports port hmem
    · rw [Function.update_of_ne hname] at hmem
      exact h.yaml name port hmem
  port := h.port

lemma Site.Found.ovsdbIfIntfCreate {s : Pmd} (h : site.Found s) {intf : OvsrecInterface}
    {subName : String} (hnew : intf.name ∉ s.ovsIntfs.keys)
    (hname : site.nameOf intf.uuid = intf.name) (hsub : site.subOf intf.uuid = subName) :
    site.Found (ovsdbIfIntfCreate pf s intf subName) := by
  rcases ovsdbIfIntfCreate_cases pf s intf subName with ⟨yamlPort, hfind, -, hc⟩ | ⟨-, hc⟩
  · have hfound : site.port subName yamlPort.name = some yamlPort :=
      h.yaml subName yamlPort (List.mem_of_find?_eq_some hfind)
    have hnamed : yamlPort.name = intf.name := by simpa using List.find?_some hfind
    rw [hc]
    refine ⟨Shash.nodup_add h.nodup hnew, h.yaml, fun name port hmem => ?_⟩
    rcases Shash.mem_add.mp hmem with hold | ⟨-, rfl⟩
    · exact h.port name port hold
    · have hport : site.Has (newPort pf intf subName yamlPort) := by
        refine ⟨hname, hsub, ?_⟩
        show site.port (site.subOf intf.uuid) (site.nameOf intf.uuid) = some yamlPort
        rw [hsub, hname, ← hnamed, hfound]
      exact hport.of_config (config_createdPort pf intf subName yamlPort)
  · rw [hc]
    exact ⟨h.nodup, h.yaml, h.port⟩

lemma Site.Found.modifyInterface {s : Pmd} (h : site.Found s) (intf : OvsrecInterface) :
    site.Found (modifyInterface pf s intf) := by
  rcases modifyInterface_cases pf s intf with ⟨-, hc⟩ | ⟨old, hold, hc⟩
  · rw [hc]
    exact h
  · obtain ⟨enable, hport⟩ := ovsdbIfIntfModify_port pf intf old
    rw [hc, hport]
    refine ⟨by simpa [Pmd.log] using h.nodup, h.yaml, fun name port hmem => ?_⟩
    rcases (Shash.mem_set h.nodup).mp hmem with ⟨-, hother⟩ | ⟨rfl, rfl, -⟩
    · exact h.port name port hother
    · have hhas := h.port intf.name old hold
      exact ⟨hhas.inst, hhas.subsystem, hhas.device⟩

lemma found_pmdReconfigure {s : Pmd} (h : site.Found s) (hfits : site.Fits pass) :
    site.Found (pmdReconfigure pf pass.reads pass.idl s) := by
  by_cases he : pass.idl.seqno = s.idlSeqno
  · rw [pmdReconfigure_of_eq he]
    exact h
  apply pmdReconfigure_rule he
  · have hsub := afterDeletes_sublist pass.idl s
    exact ⟨(hsub.map Prod.fst).nodup h.nodup, h.yaml,
      fun name port hmem => h.port name port (hsub.subset hmem)⟩
  · intro s sub hsub _ hs
    exact hs.loadSubsystem (hfits.ports sub hsub)
  · intro s sub hsub intf hintf hnew _ hs
    exact hs.ovsdbIfIntfCreate hnew
      (hfits.names intf (pass.idl.replica.mem_interfaces sub hsub intf hintf))
      (hfits.subs sub hsub intf hintf)
  · intro s intf _ hs
    exact hs.modifyInterface intf

lemma found_beforeUpdate {s : Pmd} (h : site.Found s) (hfits : site.Fits pass) :
    site.Found (beforeUpdate pf pass s) :=
  (found_pmdReconfigure h hfits).map rfl
    (f := fun n => (pmReadModuleState pf (pass.hw n.1) n.2).port)
    (fun n => config_pmReadModuleState pf (pass.hw n.1) n.2) rfl

lemma found_pmOvsdbUpdate {s : Pmd} (h : site.Found s) (replica : Replica) (committed : Bool) :
    site.Found (pmOvsdbUpdate replica committed s) :=
  h.map rfl (f := fun n => (publishPort replica n.2).1)
    (fun n => config_publishPort replica n.2) rfl

lemma page_of_mem_calls (hhw : pf.simulation = false) {hw : ScanHw} {port : PmPort}
    (hshows : site.Shows port.inst hw) {inst : String} {rc : Int} {page : Page}
    (h : .readA0 inst rc page ∈ (pmReadModuleState pf hw port).calls) :
    page = site.pageOf port := by
  cases hk : port.moduleDevice.isKnown with
  | false =>
    rw [pmReadModuleState_of_not_isKnown pf hw hk] at h
    simp at h
  | true =>
    have hcalls : (pmReadA0 pf hw 0 port).2 = [.readA0 port.inst (pmReadA0 pf hw 0 port).1.rc
        (site.pageOf port)] := by
      unfold pmReadA0 Site.pageOf
      simp [hhw, hshows port.subsystem port.moduleDevice]
    rw [pmReadModuleState_eq pf hw hk, hcalls] at h
    split at h
    · rcases List.mem_cons.mp h with hread | hmark
      · injection hread
      · simp at hmark
    · simp at h

lemma kept_read (hhw : pf.simulation = false) : Kept pf site.Shows site.Read where
  create := by
    intro intf subName yamlPort page hpage
    exact absurd hpage List.not_mem_nil
  modify := by
    intro intf port h hread
    obtain ⟨enable, hport⟩ := ovsdbIfIntfModify_port pf intf port
    rw [hport]
    exact hread
  scan := by
    intro hw port h hshows hread
    unfold Site.Read
    rw [pageOf_of_config (config_pmReadModuleState pf hw port)]
    refine foldl_invariant (I := fun h' : History => ∀ page ∈ h'.pages,
      page = site.pageOf port) ?_ hread
    intro h' call hcall hh'
    rcases mem_calls_pmReadModuleState hcall with ⟨rc, page, rfl⟩ | rfl | rfl
    · show ∀ page' ∈ (if port.inst = port.inst then _ else _ : History).pages, page' = _
      rw [if_pos rfl]
      intro page' hpage'
      rcases List.mem_append.mp hpage' with hold | hnew
      · exact hh' page' hold
      · rw [List.mem_singleton.mp hnew]
        exact page_of_mem_calls hhw hshows hcall
    · exact hh'
    · exact hh'

lemma read_publishPort {replica : Replica} {committed : Bool} {port : PmPort} {h : History}
    (hread : site.Read port h) : site.Read (publishPort replica port).1
      ((publishPort replica port).2.toList.foldl (History.report port.uuid committed) h) := by
  unfold Site.Read
  rw [pageOf_of_config (config_publishPort replica port)]
  refine foldl_invariant (I := fun h' : History => ∀ page ∈ h'.pages, page = site.pageOf port)
    ?_ hread
  intro h' entry _ hh'
  unfold History.report
  split
  · exact hh'
  · exact hh'

/-- A report is what is said of the module at that port. -/
lemma report_of_follows {port : PmPort} {h : History} (hf : FollowsHistory port h)
    (hread : site.Read port h) {report : PmInfo × Bool} (hmem : report ∈ h.reports) :
    port.moduleDevice.isKnown = true ∧
      report.1 = moduleStatus port.moduleDevice (site.pageOf port) := by
  cases hf with
  | unread hport => exact absurd hmem List.not_mem_nil
  | unreported page hk hport => exact absurd hmem List.not_mem_nil
  | reported page committed hk hport =>
    refine ⟨hk, ?_⟩
    have hpage : page = site.pageOf port := hread page (List.mem_singleton_self page)
    have hcolumns : port.ovsModuleColumns = (identified page port.blank).ovsModuleColumns := by
      conv_lhs => rw [hport]
    rw [List.mem_singleton.mp hmem, ← hpage]
    show pmInfoOf port.ovsModuleColumns = _
    rw [hcolumns, pmInfoOf_identified]

/-- What is about to be published is what is said of the module. -/
lemma pmInfoOf_of_changed {port : PmPort} {h : History} (hf : FollowsHistory port h)
    (hread : site.Read port h) (hchanged : port.moduleInfoChanged = true) :
    port.moduleDevice.isKnown = true ∧ pmInfoOf port.ovsModuleColumns =
      moduleStatus port.moduleDevice (site.pageOf port) := by
  cases hf with
  | unread hport =>
    rw [hport] at hchanged
    contradiction
  | unreported page hk hport =>
    have hpage : page = site.pageOf port := hread page (List.mem_singleton_self page)
    have hcolumns : port.ovsModuleColumns = (identified page port.blank).ovsModuleColumns := by
      conv_lhs => rw [hport]
    rw [hcolumns, pmInfoOf_identified, hpage]
    exact ⟨hk, rfl⟩
  | reported page committed hk hport =>
    rw [hport] at hchanged
    contradiction

/-- What a daemon knows and has said, over the database of all. -/
structure Site.Inv (site : Site) (pf : Platform) (w : World) (db : Database) : Prop where
  reports : ReportInv pf ⟨w, db⟩
  found : site.Found w.pmd
  read : Records site.Read w.pmd

/-- Every entry of a transaction is what is said of a module. -/
lemma says_updateTxn (hhw : pf.simulation = false) {w : World} {db : Database}
    (h : site.Inv pf w db) (hf : Follows w.idl pass.idl) (hfits : site.Fits pass) {uuid : Uuid}
    {info : PmInfo}
    (hmem : (uuid, info) ∈ (updateTxn pass.idl.replica (beforeUpdate pf pass w.pmd)).pmInfo) :
    site.Says uuid info := by
  have hsynced := h.reports.synced
  have hfollows := (kept_followsHistory hhw).beforeUpdate hsynced hf
    (fun name port hmem => (h.reports.delivered name port hmem).follows) fun _ => trivial
  have hread := (kept_read hhw).beforeUpdate hsynced hf h.read hfits.page
  obtain ⟨name, port, hport, hpending, rfl, rfl⟩ := mem_updateTxn.mp hmem
  obtain ⟨hk, hinfo⟩ := pmInfoOf_of_changed (hfollows name port hport) (hread name port hport)
    hpending.2
  have hhas := (found_beforeUpdate h.found hfits).port name port hport
  refine ⟨port.moduleDevice, hhas.device, hk, ?_⟩
  rw [hhas.inst]
  exact hinfo

lemma stable_serverStep (hhw : pf.simulation = false) {w : World} {db : Database}
    (h : site.Inv pf w db)
    (hf : pass.runs = true → Follows w.idl pass.idl ∧ site.Fits pass) :
    site.Stable db (serverStep pf ⟨w, db⟩ pass).db := by
  intro uuid
  cases hr : pass.runs with
  | false =>
    rw [serverStep_of_not_runs pf _ hr]
    exact .inl rfl
  | true =>
    obtain ⟨hfollows, hfits⟩ := hf hr
    rw [db_serverStep pf _ hr]
    split
    · unfold Database.apply
      dsimp only
      cases hlast : lastWrite some uuid
          (updateTxn pass.idl.replica (beforeUpdate pf pass w.pmd)).pmInfo with
      | none => exact .inl rfl
      | some info =>
        obtain ⟨entry, hentry, he⟩ := exists_of_lastWrite_eq_some hlast
        rw [Option.some.inj he] at hentry
        exact .inr (says_updateTxn hhw h hfollows hfits hentry)
    · exact .inl rfl

/-- What other daemons say does not take back what this one has said. -/
lemma Site.Inv.of_stable {w : World} {db db' : Database} (h : site.Inv pf w db)
    (hstable : site.Stable db db') : site.Inv pf w db' := by
  refine ⟨⟨h.reports.synced, ?_, h.reports.read, h.reports.published⟩, h.found, h.read⟩
  intro name port hmem
  have hd := h.reports.delivered name port hmem
  refine ⟨hd.follows, fun info hinfo => ?_⟩
  obtain ⟨hk, hstatus⟩ := report_of_follows hd.follows (h.read name port hmem) hinfo
  rcases hstable port.uuid with hsame | ⟨device, hdevice, -, hsays⟩
  · exact hsame.trans (hd.delivered info hinfo)
  · have hhas := h.found.port name port hmem
    obtain rfl := Option.some.inj (hhas.device.symm.trans hdevice)
    rw [hhas.inst] at hsays
    exact hsays.trans hstatus.symm

lemma inv_serverStep (hhw : pf.simulation = false) {w : World} {db : Database}
    (h : site.Inv pf w db)
    (hf : pass.runs = true → Follows w.idl pass.idl ∧ site.Fits pass) :
    site.Inv pf (serverStep pf ⟨w, db⟩ pass).world (serverStep pf ⟨w, db⟩ pass).db := by
  have hreports := reportInv_serverStep hhw h.reports fun hr => (hf hr).1
  cases hr : pass.runs with
  | false =>
    rw [serverStep_of_not_runs pf _ hr]
    exact h
  | true =>
    obtain ⟨hfollows, hfits⟩ := hf hr
    have htable := tableInv_beforeUpdate h.reports.synced hfollows
    have hread := (kept_read hhw).beforeUpdate h.reports.synced hfollows h.read hfits.page
    refine ⟨hreports, ?_, ?_⟩
    · show site.Found (w.pass pf pass).pmd
      rw [pmd_pass pf w hr]
      exact found_pmOvsdbUpdate (found_beforeUpdate h.found hfits) _ _
    · show Records site.Read (w.pass pf pass).pmd
      rw [pmd_pass pf w hr]
      exact records_pmOvsdbUpdate htable hread fun _ _ _ _ hp => read_publishPort hp

variable (site) in
lemma inv_start (pf : Platform) (reads : YamlReads) (seqno : UInt32) (db : Database) :
    site.Inv pf (World.start pf reads seqno) db where
  reports := reportInv_start pf reads seqno db
  found := ⟨List.nodup_nil, by simp [pmd_start], by simp [pmd_start]⟩
  read := by simp [Records, pmd_start]

end Daemon

/-! ## All daemons -/

/-- Each daemon has read the page of every module of a known kind and reported what is said of it
once, and if that was committed, the database still says so. -/
def Site.Coherent {ι : Type*} (site : Site) (c : Cluster ι) : Prop :=
  ∀ i name port, (name, port) ∈ (c.daemons i).pmd.ovsIntfs → port.moduleDevice.isKnown = true →
    site.Has port ∧ ∃ committed,
      history name port.uuid (c.daemons i).pmd.calls = ⟨[site.pageOf port],
        [(moduleStatus port.moduleDevice (site.pageOf port), committed)]⟩ ∧
      (committed = true → c.db.pmInfo port.uuid =
        moduleStatus port.moduleDevice (site.pageOf port))

section Cluster

variable {ι : Type*} {pf : Platform} {site : Site}

lemma coherent_of_inv {c : Cluster ι} (h : ∀ i, site.Inv pf (c.daemons i) c.db) :
    site.Coherent c := by
  intro i name port hmem hk
  obtain ⟨page, committed, -, hhistory, hdb⟩ :=
    (accounted_of_reportInv (h i).reports).known name port hmem hk
  obtain rfl : page = site.pageOf port := by
    apply (h i).read name port hmem
    rw [hhistory]
    exact List.mem_singleton_self page
  rw [pmInfoOf_identified] at hhistory hdb
  exact ⟨(h i).found.port name port hmem, committed, hhistory, hdb⟩

lemma Site.Stable.trans {db db' db'' : Database} (h : site.Stable db db')
    (h' : site.Stable db' db'') : site.Stable db db'' := by
  intro uuid
  rcases h' uuid with hsame | hsays
  · rw [hsame]
    exact h uuid
  · exact .inr hsays

variable [DecidableEq ι]

/-- An input of one daemon keeps what is known of it and what the others have said. -/
lemma inv_clusterStep (hhw : pf.simulation = false) {c : Cluster ι} {input : ClusterInput ι}
    (h : ∀ i, site.Inv pf (c.daemons i) c.db) (hf : site.Admits c input) :
    (∀ i, site.Inv pf ((clusterStep pf c input).daemons i) (clusterStep pf c input).db) ∧
      site.Stable c.db (clusterStep pf c input).db := by
  cases input with
  | pass i pass =>
    have hstable : site.Stable c.db (serverStep pf ⟨c.daemons i, c.db⟩ pass).db :=
      stable_serverStep hhw (h i) hf
    refine ⟨fun j => ?_, hstable⟩
    show site.Inv pf (Function.update c.daemons i _ j) (serverStep pf ⟨c.daemons i, c.db⟩ pass).db
    by_cases hj : j = i
    · subst hj
      rw [Function.update_self]
      exact inv_serverStep hhw (h j) hf
    · rw [Function.update_of_ne hj]
      exact (h j).of_stable hstable
  | restart i reads seqno =>
    refine ⟨fun j => ?_, fun uuid => .inl rfl⟩
    show site.Inv pf (Function.update c.daemons i _ j) c.db
    by_cases hj : j = i
    · subst hj
      rw [Function.update_self]
      exact inv_start site pf reads seqno c.db
    · rw [Function.update_of_ne hj]
      exact h j

/-- On hardware whose modules and description do not change, daemons that make their passes and
are started again in any order, whoever holds the lock, say the same of every module, and what
has been said stays in the database. -/
theorem coherent_of_inputs (pf : Platform) (hhw : pf.simulation = false) (site : Site)
    (reads : ι → YamlReads) (seqno : ι → UInt32) (db : Database)
    {inputs more : List (ClusterInput ι)}
    (hok : Along (clusterStep pf) site.Admits (Cluster.start pf reads seqno db) (inputs ++ more)) :
    site.Coherent (run (clusterStep pf) (Cluster.start pf reads seqno db) (inputs ++ more)) ∧
      site.Stable (run (clusterStep pf) (Cluster.start pf reads seqno db) inputs).db
        (run (clusterStep pf) (Cluster.start pf reads seqno db) (inputs ++ more)).db := by
  obtain ⟨hinputs, hmore⟩ := along_append.mp hok
  have hfirst : ∀ i, site.Inv pf
      ((run (clusterStep pf) (Cluster.start pf reads seqno db) inputs).daemons i)
      (run (clusterStep pf) (Cluster.start pf reads seqno db) inputs).db :=
    Along.invariant (I := fun c : Cluster ι => ∀ i, site.Inv pf (c.daemons i) c.db)
      (fun _ _ hI hf => (inv_clusterStep hhw hI hf).1)
      (fun i => inv_start site pf (reads i) (seqno i) db) hinputs
  rw [run_append]
  generalize run (clusterStep pf) (Cluster.start pf reads seqno db) inputs = c at hfirst hmore ⊢
  have hboth := Along.invariant (I := fun c' : Cluster ι =>
    (∀ i, site.Inv pf (c'.daemons i) c'.db) ∧ site.Stable c.db c'.db) ?_
    ⟨hfirst, fun uuid => .inl rfl⟩ hmore
  · exact ⟨coherent_of_inv hboth.1, hboth.2⟩
  · rintro c' input ⟨hI, hstable⟩ hf
    obtain ⟨hinv, hstep⟩ := inv_clusterStep hhw hI hf
    exact ⟨hinv, hstable.trans hstep⟩

end Cluster

namespace Switch

/-- The switch with an LR4 module in every port. -/
def site : Site where
  nameOf := fun _ => "1"
  subOf := fun _ => "base"
  port := fun _ name => ports.find? (fun port => port.name = name)
  page := fun _ _ => lr4Page

lemma fits_firstPass (committed : Bool) : site.Fits (firstPass committed) where
  names := keepsNames_firstPass committed
  subs := by
    intro sub hsub intf hintf
    rw [List.mem_singleton.mp hsub]
    rfl
  ports := by
    intro sub hsub
    show ∀ port ∈ ports, ports.find? (fun port' => port'.name = port.name) = some port
    decide
  page := fun _ _ _ => rfl

end Switch

/-- The first daemon fails to commit, the second takes over, and the first comes back. -/
theorem coherent_of_inputs_handover :
    Switch.site.Coherent (run (clusterStep Switch.platform)
        (Cluster.start Switch.platform (fun _ : Bool => Switch.reads) (fun _ => 0)
          ⟨fun _ => [], false⟩)
        ([.pass false (Switch.firstPass false), .pass true (Switch.firstPass true)] ++
          [.restart false Switch.reads 0, .pass false (Switch.firstPass true)])) ∧
      Switch.site.Stable
        (run (clusterStep Switch.platform)
          (Cluster.start Switch.platform (fun _ : Bool => Switch.reads) (fun _ => 0)
            ⟨fun _ => [], false⟩)
          [.pass false (Switch.firstPass false), .pass true (Switch.firstPass true)]).db
        (run (clusterStep Switch.platform)
          (Cluster.start Switch.platform (fun _ : Bool => Switch.reads) (fun _ => 0)
            ⟨fun _ => [], false⟩)
          ([.pass false (Switch.firstPass false), .pass true (Switch.firstPass true)] ++
            [.restart false Switch.reads 0, .pass false (Switch.firstPass true)])).db := by
  apply coherent_of_inputs Switch.platform rfl
  exact ⟨fun _ => ⟨⟨by decide, by decide, by decide, by decide⟩, Switch.fits_firstPass false⟩,
    fun _ => ⟨⟨by decide, by decide, by decide, by decide⟩, Switch.fits_firstPass true⟩, trivial,
    fun _ => ⟨⟨by decide, by decide, by decide, by decide⟩, Switch.fits_firstPass true⟩, trivial⟩

end OpsPmd
