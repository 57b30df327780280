import OpsPmd.Origins
import OpsPmd.Publish

/-!
# The end of the initialization

Other daemons wait for `cur_hw`. Whichever pass sets it has first brought the table up to
the snapshot, then scanned every record of a known kind, and publishes in the very same
transaction what had not been published before. A record counts by the YAML port that it
was created from, which for an interface that two subsystems list is that of the first. Where
an interface has only ever been listed by one subsystem, and the files keep saying the same,
that is the YAML port that the subsystem has for it now.
-/

namespace OpsPmd

open Lib

/-- The interface has been scanned, and its status was put in a transaction. -/
structure Initialized (calls : List Call) (name : String) (uuid : Uuid) : Prop where
  scanned : .readModuleState name uuid 0 ∈ calls
  placed : ∃ txn committed info, .commitBlock txn committed ∈ calls ∧ (uuid, info) ∈ txn.pmInfo

lemma Initialized.mono {calls calls' : List Call} {name : String} {uuid : Uuid}
    (h : Initialized calls name uuid) (hsub : ∀ call ∈ calls, call ∈ calls') :
    Initialized calls' name uuid := by
  obtain ⟨txn, committed, info, hcommit, hinfo⟩ := h.placed
  exact ⟨hsub _ h.scanned, txn, committed, info, hsub _ hcommit, hinfo⟩

/-- Every listed interface with a port of a known kind is in the table and initialized. -/
def ListedInitialized (replica : Replica) (s : Pmd) : Prop :=
  ∀ sub ∈ replica.subsystems, ∀ intf ∈ sub.interfaces, ∀ yamlPort,
    pmGetYamlPort s.yaml sub.name intf.name = some yamlPort → yamlPort.pluggable = true →
    yamlPort.isKnown = true →
    intf.name ∈ s.ovsIntfs.keys ∧ Initialized s.calls intf.name intf.uuid

/-- Every listed interface with a pluggable port is in the table, with a record that is made
from such a port of a subsystem that lists it, and it is initialized if the kind of that port
is known. -/
def RecordsInitialized (describes : String → YamlPort → Prop) (lists : Uuid → String → Prop)
    (replica : Replica) (s : Pmd) : Prop :=
  ∀ sub ∈ replica.subsystems, ∀ intf ∈ sub.interfaces, ∀ yamlPort,
    pmGetYamlPort s.yaml sub.name intf.name = some yamlPort → yamlPort.pluggable = true →
    ∃ port, (intf.name, port) ∈ s.ovsIntfs ∧ port.uuid = intf.uuid ∧
      MadeFrom describes intf.name port ∧ lists intf.uuid port.subsystem ∧
      (port.moduleDevice.isKnown = true → Initialized s.calls intf.name intf.uuid)

/-- In the pass whose transaction sets `cur_hw`, initialization is complete. -/
def SetsCurHwWhen (pf : Platform) (complete : Replica → Pmd → Prop) (w : World) (pass : Pass) :
    Prop :=
  ∀ txn committed, .commitBlock txn committed ∈ newCalls w.pmd (w.pass pf pass).pmd →
    txn.curHw = true → complete pass.idl.replica (w.pass pf pass).pmd

def Call.failedRead : Call → Bool
  | .readYamlFiles _ rc => rc ≠ 0
  | _ => false

/-- The database keeps its promises, and every YAML read succeeds. -/
def Orderly (pf : Platform) (w : World) (pass : Pass) : Prop :=
  pass.runs = true → Follows w.idl pass.idl ∧
    ∀ call ∈ newCalls w.pmd (w.pass pf pass).pmd, call.failedRead = false

/-- The rows that the subsystems of the snapshot list, by the names of the subsystems. -/
def ListedBy (lists : Uuid → String → Prop) (idl : Idl) : Prop :=
  ∀ sub ∈ idl.replica.subsystems, ∀ intf ∈ sub.interfaces, lists intf.uuid sub.name

/-- What the files say is in the set of descriptions, and what the subsystems list is in the
relation of rows and subsystems. -/
def Documented (describes : String → YamlPort → Prop) (lists : Uuid → String → Prop) (_ : World)
    (pass : Pass) : Prop :=
  pass.runs = true → DescribedBy describes pass.reads pass.idl ∧ ListedBy lists pass.idl

/-- The row of an interface is listed by subsystems of one name only, and files that are read
again say the same. -/
def OneSource (subOf : Uuid → String) (w : World) (pass : Pass) : Prop :=
  pass.runs = true → ListedBy (fun uuid subName => subOf uuid = subName) pass.idl ∧
    StableYaml w (.reconfigure pass.reads pass.idl)

lemma rc_of_lastRead {calls : List Call} (h : ∀ call ∈ calls, call.failedRead = false)
    {name : String} {rc : Int} (hlast : lastRead name calls = some rc) : rc = 0 := by
  obtain ⟨call, hcall, hread⟩ := exists_of_lastWrite_eq_some hlast
  cases call with
  | readYamlFiles n rc' =>
    obtain ⟨-, rfl⟩ := Prod.mk.inj (Option.some.inj hread)
    have hok := h _ hcall
    simpa [Call.failedRead] using hok
  | _ => exact absurd hread (by simp [readOutcome])

/-! ## One pass -/

/-- A record of a known kind is initialized, or the next scan will read its module. -/
def Underway (calls : List Call) (name : String) (port : PmPort) : Prop :=
  port.moduleDevice.isKnown = true → Initialized calls name port.uuid ∨ port.unread = true

/-- At the end of a pass the records of known kinds are initialized. -/
structure InitInv (pf : Platform) (w : World) : Prop where
  synced : Synced pf w
  reads : ∀ call ∈ w.pmd.calls, call.failedRead = false
  listed : ∀ sub ∈ w.idl.replica.subsystems, Listed w.pmd sub
  initialized : ∀ name port, (name, port) ∈ w.pmd.ovsIntfs → port.moduleDevice.isKnown = true →
    Initialized w.pmd.calls name port.uuid

lemma initInv_start (pf : Platform) (reads : YamlReads) (seqno : UInt32) :
    InitInv pf (World.start pf reads seqno) where
  synced := synced_start pf reads seqno
  reads := by simp [pmd_start]
  listed := by simp [World.start, Replica.empty]
  initialized := by simp [pmd_start]

lemma unread_createdPort (pf : Platform) (intf : OvsrecInterface) (subName : String)
    (yamlPort : YamlPort) : (createdPort pf intf subName yamlPort).unread = true := by
  obtain ⟨enable, hport⟩ := pmConfigurePort_port pf (newPort pf intf subName yamlPort)
  unfold createdPort
  rw [hport]
  rfl

section Pass

variable {pf : Platform} {w : World}

/-- Records that survive a reconfiguration stay initialized, and new ones are unread. -/
lemma underway_pmdReconfigure {reads : YamlReads} {idl : Idl} (h : InitInv pf w) {name : String}
    {port : PmPort} (hmem : (name, port) ∈ (pmdReconfigure pf reads idl w.pmd).ovsIntfs) :
    Underway (pmdReconfigure pf reads idl w.pmd).calls name port := by
  obtain ⟨new, -, hcalls⟩ := calls_pmdReconfigure pf reads idl w.pmd
  have hboth := records_pmdReconfigure pf reads idl (P := Underway w.pmd.calls)
    h.synced.table.nodup (fun name port hold hk => .inl (h.initialized name port hold hk))
    (fun intf _ subName yamlPort _ _ => .inr (unread_createdPort pf intf subName yamlPort))
    (fun name port hwEnable enable hu => hu)
  intro hk
  apply (hboth.2 name port hmem hk).imp_left
  intro hinit
  rw [hcalls]
  exact hinit.mono fun call hcall => List.mem_append_left new hcall

/-- A scan reads the module of an unread port, and then its status waits for publication. -/
lemma underway_scanned {name : String} {port : PmPort} (hw : String → ScanHw)
    {calls scans : List Call} (h : Underway calls name port) (hinst : port.inst = name)
    (hp : port.moduleDevice.pluggable = true) (hk : port.moduleDevice.isKnown = true)
    (hscans : ∀ call ∈ (pmReadModuleState pf (hw name) port).calls, call ∈ scans) :
    Initialized (calls ++ scans) name port.uuid ∨
      .readModuleState name port.uuid 0 ∈ calls ++ scans ∧
        (pmReadModuleState pf (hw name) port).port.moduleInfoChanged = true := by
  rcases h hk with hinit | hunread
  · exact .inl (hinit.mono fun call hcall => List.mem_append_left scans hcall)
  · have heq := pmReadModuleState_eq pf (hw name) hk
    rw [if_pos hunread] at heq
    refine .inr ⟨?_, ?_⟩
    · apply List.mem_append_right calls
      apply hscans
      rw [heq, hinst]
      exact List.mem_append_right _ List.mem_cons_self
    · rw [heq]
      exact moduleInfoChanged_identified hk hp _

lemma listed_pass {pass : Pass} (h : InitInv pf w) (hf : Follows w.idl pass.idl)
    (hr : pass.runs = true)
    (hreads : ∀ call ∈ (w.pass pf pass).pmd.calls, call.failedRead = false) :
    ∀ sub ∈ pass.idl.replica.subsystems, Listed (w.pass pf pass).pmd sub := by
  intro sub hsub
  have hpmd := pmd_pass pf w hr
  have hcalls : (w.pass pf pass).pmd.calls =
      (pmdReconfigure pf pass.reads pass.idl w.pmd).calls ++
        (scanCalls pf pass.hw (pmdReconfigure pf pass.reads pass.idl w.pmd) ++
          [.commitBlock (updateTxn pass.idl.replica (beforeUpdate pf pass w.pmd))
            pass.committed]) := by
    rw [hpmd, calls_pmOvsdbUpdate]
    unfold beforeUpdate
    rw [calls_pmReadState, List.append_assoc]
  have hreconfigured : Listed (pmdReconfigure pf pass.reads pass.idl w.pmd) sub := by
    by_cases he : pass.idl.seqno = w.pmd.idlSeqno
    · rw [pmdReconfigure_of_eq he]
      rw [replica_eq_of_seqno_eq h.synced hf.intfs he] at hsub
      exact h.listed sub hsub
    · apply listed_pmdReconfigure hf.subNames he sub hsub
      intro rc hlast
      apply rc_of_lastRead _ hlast
      intro call hcall
      apply hreads
      rw [hcalls]
      exact List.mem_append_left _ hcall
  rw [hpmd]
  have hscanned : Listed (beforeUpdate pf pass w.pmd) sub :=
    (extends_pmReadState sub.name pass.hw).listed hreconfigured
  exact (extends_pmOvsdbUpdate sub.name pass.idl.replica pass.committed).listed hscanned

lemma initialized_pass {pass : Pass} (h : InitInv pf w) (hf : Follows w.idl pass.idl)
    (hr : pass.runs = true) {name : String} {port : PmPort}
    (hmem : (name, port) ∈ (w.pass pf pass).pmd.ovsIntfs)
    (hk : port.moduleDevice.isKnown = true) :
    Initialized (w.pass pf pass).pmd.calls name port.uuid := by
  have htable : TableInv pass.idl.replica (pmdReconfigure pf pass.reads pass.idl w.pmd).ovsIntfs :=
    tableInv_pmdReconfigure h.synced hf.intfs
  rw [pmd_pass pf w hr] at hmem ⊢
  obtain ⟨scanned, hscanned, rfl⟩ := Shash.mem_map.mp hmem
  obtain ⟨old, hold, rfl⟩ := Shash.mem_map.mp hscanned
  have hc := config_pmReadModuleState pf (pass.hw name) old
  have hc' := (config_publishPort pass.idl.replica
    (pmReadModuleState pf (pass.hw name) old).port).trans hc
  have hdev : (publishPort pass.idl.replica
      (pmReadModuleState pf (pass.hw name) old).port).1.moduleDevice = old.moduleDevice :=
    congrArg PmPort.Config.moduleDevice hc'
  have huuid : (publishPort pass.idl.replica
      (pmReadModuleState pf (pass.hw name) old).port).1.uuid = old.uuid :=
    congrArg PmPort.Config.uuid hc'
  rw [hdev] at hk
  rw [huuid, calls_pmOvsdbUpdate]
  have hscans : ∀ call ∈ (pmReadModuleState pf (pass.hw name) old).calls,
      call ∈ scanCalls pf pass.hw (pmdReconfigure pf pass.reads pass.idl w.pmd) := by
    intro call hcall
    exact List.mem_flatMap.mpr ⟨(name, old), hold, hcall⟩
  have hunder := underway_pmdReconfigure h hold
  rcases underway_scanned pass.hw hunder (htable.inst name old hold)
    (htable.pluggable name old hold) hk hscans with hinit | ⟨hscan, hchanged⟩
  · exact hinit.mono fun call hcall => List.mem_append_left _ hcall
  · obtain ⟨intf, hintf, -, hrow⟩ := htable.row name old hold
    have hold' : (pmReadModuleState pf (pass.hw name) old).port.uuid = old.uuid :=
      congrArg PmPort.Config.uuid hc
    have hentry := mem_updateTxn.mpr ⟨name, _, hscanned,
      ⟨⟨intf, hintf, hrow.trans hold'.symm⟩, hchanged⟩, hold', rfl⟩
    exact ⟨List.mem_append_left _ hscan, _, pass.committed, _,
      List.mem_append_right _ List.mem_cons_self, hentry⟩

lemma initInv_pass {pass : Pass} (h : InitInv pf w) (hok : Orderly pf w pass) :
    InitInv pf (w.pass pf pass) := by
  cases hr : pass.runs with
  | false =>
    rw [pass_of_not_runs pf w hr]
    exact h
  | true =>
    obtain ⟨hf, hnew⟩ := hok hr
    obtain ⟨before, -, hcalls⟩ := calls_pass pf w hr
    have hidl : (w.pass pf pass).idl = pass.idl := if_pos hr
    have hreads : ∀ call ∈ (w.pass pf pass).pmd.calls, call.failedRead = false := by
      rw [newCalls_eq hcalls] at hnew
      intro call hcall
      rw [hcalls] at hcall
      rcases List.mem_append.mp hcall with hold | hnew'
      · exact h.reads call hold
      · exact hnew call hnew'
    refine ⟨synced_pass h.synced fun _ => hf, hreads, ?_, ?_⟩
    · rw [hidl]
      exact listed_pass h hf hr hreads
    · intro name port hmem hk
      exact initialized_pass h hf hr hmem hk

/-- The record of a listed interface. -/
lemma exists_record_of_listed (h : InitInv pf w)
    (hnames : (w.idl.replica.interfaces.map OvsrecInterface.name).Nodup) {sub : OvsrecSubsystem}
    (hsub : sub ∈ w.idl.replica.subsystems) {intf : OvsrecInterface}
    (hintf : intf ∈ sub.interfaces) {yamlPort : YamlPort}
    (hg : pmGetYamlPort w.pmd.yaml sub.name intf.name = some yamlPort)
    (hp : yamlPort.pluggable = true) :
    ∃ port, (intf.name, port) ∈ w.pmd.ovsIntfs ∧ port.uuid = intf.uuid ∧
      (port.moduleDevice.isKnown = true → Initialized w.pmd.calls intf.name intf.uuid) := by
  obtain ⟨port, hmem⟩ := Shash.mem_keys.mp (h.listed sub hsub intf hintf yamlPort hg hp)
  obtain ⟨row, hrow, hname, huuid⟩ := h.synced.table.row intf.name port hmem
  have hintf' := w.idl.replica.mem_interfaces sub hsub intf hintf
  obtain rfl := List.inj_on_of_nodup_map hnames hrow hintf' hname
  refine ⟨port, hmem, huuid.symm, fun hk => ?_⟩
  rw [huuid]
  exact h.initialized row.name port hmem hk

end Pass

section Sources

variable {pf : Platform} {w : World} {lists : Uuid → String → Prop} {subOf : Uuid → String}

/-- Every record names a subsystem that has listed its row. -/
def Sourced (lists : Uuid → String → Prop) (s : Pmd) : Prop :=
  ∀ name port, (name, port) ∈ s.ovsIntfs → lists port.uuid port.subsystem

lemma sourced_pmdReconfigure {reads : YamlReads} {idl : Idl} {s : Pmd} (h : Sourced lists s)
    (hlisted : ListedBy lists idl) : Sourced lists (pmdReconfigure pf reads idl s) := by
  by_cases he : idl.seqno = s.idlSeqno
  · rw [pmdReconfigure_of_eq he]
    exact h
  refine pmdReconfigure_rule (J := Sourced lists) he ?_ (fun s _ _ _ hs => hs) ?_ ?_
  · intro name port hmem
    exact h name port ((afterDeletes_sublist idl s).subset hmem)
  · intro s sub hsub intf hintf _ _ hs
    rcases ovsdbIfIntfCreate_cases pf s intf sub.name with ⟨yamlPort, -, -, hc⟩ | ⟨-, hc⟩
    · rw [hc]
      intro name port hmem
      rcases Shash.mem_add.mp hmem with hold | ⟨rfl, rfl⟩
      · exact hs name port hold
      · rw [subsystem_createdPort, uuid_createdPort]
        exact hlisted sub hsub intf hintf
    · rw [hc]
      exact hs
  · intro s intf _ hs
    rcases modifyInterface_cases pf s intf with ⟨-, hc⟩ | ⟨old, hold, hc⟩
    · rw [hc]
      exact hs
    · obtain ⟨enable, hport⟩ := ovsdbIfIntfModify_port pf intf old
      rw [hc, hport]
      intro name port hmem
      rcases Shash.mem_of_mem_set hmem with hmem' | ⟨-, rfl⟩
      · exact hs name port hmem'
      · exact hs intf.name old hold

lemma sourced_pass {pass : Pass} (h : Sourced lists w.pmd)
    (hlisted : pass.runs = true → ListedBy lists pass.idl) :
    Sourced lists (w.pass pf pass).pmd := by
  cases hr : pass.runs with
  | false =>
    rw [pass_of_not_runs pf w hr]
    exact h
  | true =>
    have hreconfigured : Sourced lists (pmdReconfigure pf pass.reads pass.idl w.pmd) :=
      sourced_pmdReconfigure h (hlisted hr)
    rw [pass_of_runs pf w hr]
    intro name port hmem
    obtain ⟨scanned, hscanned, rfl⟩ := Shash.mem_map.mp hmem
    obtain ⟨old, hold, rfl⟩ := Shash.mem_map.mp hscanned
    have hc := (config_publishPort pass.idl.replica
      (pmReadModuleState pf (pass.hw name) old).port).trans
      (config_pmReadModuleState pf (pass.hw name) old)
    have hsub := congrArg PmPort.Config.subsystem hc
    have huuid := congrArg PmPort.Config.uuid hc
    have hlists := hreconfigured name old hold
    rw [← show _ = old.uuid from huuid, ← show _ = old.subsystem from hsub] at hlists
    exact hlists

lemma recordsInitialized_of_initInv {describes : String → YamlPort → Prop} (h : InitInv pf w)
    (ho : Origins describes w.pmd) (hsource : Sourced lists w.pmd)
    (hnames : (w.idl.replica.interfaces.map OvsrecInterface.name).Nodup) :
    RecordsInitialized describes lists w.idl.replica w.pmd := by
  intro sub hsub intf hintf yamlPort hg hp
  obtain ⟨port, hmem, huuid, hinit⟩ := exists_record_of_listed h hnames hsub hintf hg hp
  have hlists := hsource intf.name port hmem
  rw [huuid] at hlists
  exact ⟨port, hmem, huuid, ho.device intf.name port hmem, hlists, hinit⟩

/-- The record of a listed interface is made from the port that its subsystem has for it. -/
lemma listedInitialized_of_sourced (h : InitInv pf w) (hdev : DeviceInv w.pmd)
    (hsource : Sourced (fun uuid subName => subOf uuid = subName) w.pmd)
    (hnames : (w.idl.replica.interfaces.map OvsrecInterface.name).Nodup)
    (hlisted : ListedBy (fun uuid subName => subOf uuid = subName) w.idl) :
    ListedInitialized w.idl.replica w.pmd := by
  intro sub hsub intf hintf yamlPort hg hp hk
  obtain ⟨port, hmem, huuid, hinit⟩ := exists_record_of_listed h hnames hsub hintf hg hp
  have hdevice := hdev intf.name port hmem
  have hsub' : port.subsystem = sub.name := by
    rw [← hsource intf.name port hmem, huuid, hlisted sub hsub intf hintf]
  rw [hsub', h.synced.table.inst intf.name port hmem, hg] at hdevice
  obtain rfl := Option.some.inj hdevice
  exact ⟨Shash.mem_keys_of_mem hmem, hinit hk⟩

end Sources

/-- A transaction of a pass is followed by the state at the end of the pass. -/
lemma setsCurHwWhen_of_runs {pf : Platform} {complete : Replica → Pmd → Prop} {w : World}
    {pass : Pass} (h : pass.runs = true → complete pass.idl.replica (w.pass pf pass).pmd) :
    SetsCurHwWhen pf complete w pass := by
  intro txn committed hcommit _
  cases hr : pass.runs with
  | false =>
    rw [pass_of_not_runs pf w hr, newCalls_eq (List.append_nil _).symm] at hcommit
    exact absurd hcommit List.not_mem_nil
  | true => exact h hr

/-- Whenever a transaction sets `cur_hw`, every record that the snapshot asks for is
initialized by the end of its pass; and where every interface has one source, every listed
interface of a known kind is. -/
theorem setsCurHw_whenRecordsInitialized (pf : Platform) (describes : String → YamlPort → Prop)
    (lists : Uuid → String → Prop) (reads : YamlReads) (seqno : UInt32) (passes : List Pass)
    (hok : Along (World.pass pf)
      (fun w pass => Orderly pf w pass ∧ Documented describes lists w pass)
      (World.start pf reads seqno) passes) :
    Along (World.pass pf) (SetsCurHwWhen pf (RecordsInitialized describes lists))
      (World.start pf reads seqno) passes ∧
    ∀ subOf, Along (World.pass pf) (OneSource subOf) (World.start pf reads seqno) passes →
      Along (World.pass pf) (SetsCurHwWhen pf ListedInitialized) (World.start pf reads seqno)
        passes := by
  constructor
  · apply Along.of_invariant
      (I := fun w => InitInv pf w ∧ Origins describes w.pmd ∧ Sourced lists w.pmd) _ _
      ⟨initInv_start pf reads seqno, origins_start pf reads seqno, by simp [Sourced, pmd_start]⟩ hok
    · rintro w pass ⟨h, ho, hsource⟩ ⟨horderly, hdoc⟩
      exact ⟨initInv_pass h horderly, origins_pass ho fun hr => (hdoc hr).1,
        sourced_pass hsource fun hr => (hdoc hr).2⟩
    · rintro w pass ⟨h, ho, hsource⟩ ⟨horderly, hdoc⟩
      refine setsCurHwWhen_of_runs fun hr => ?_
      have hidl : (w.pass pf pass).idl = pass.idl := if_pos hr
      rw [← hidl]
      refine recordsInitialized_of_initInv (initInv_pass h horderly)
        (origins_pass ho fun hr => (hdoc hr).1) (sourced_pass hsource fun hr => (hdoc hr).2) ?_
      rw [hidl]
      exact (horderly hr).1.names
  · intro subOf hone
    apply Along.of_invariant
      (I := fun w => InitInv pf w ∧ DeviceInv w.pmd ∧
        Sourced (fun uuid subName => subOf uuid = subName) w.pmd) _ _
      ⟨initInv_start pf reads seqno, by simp [DeviceInv, pmd_start], by simp [Sourced, pmd_start]⟩
      (hok.and hone)
    · rintro w pass ⟨h, hdev, hsource⟩ ⟨⟨horderly, -⟩, hpass⟩
      exact ⟨initInv_pass h horderly, deviceInv_pass h.synced hdev
        (fun hr => (horderly hr).1) (fun hr => (hpass hr).2),
        sourced_pass hsource fun hr => (hpass hr).1⟩
    · rintro w pass ⟨h, hdev, hsource⟩ ⟨⟨horderly, -⟩, hpass⟩
      refine setsCurHwWhen_of_runs fun hr => ?_
      have hidl : (w.pass pf pass).idl = pass.idl := if_pos hr
      rw [← hidl]
      refine listedInitialized_of_sourced (initInv_pass h horderly)
        (deviceInv_pass h.synced hdev (fun hr => (horderly hr).1) (fun hr => (hpass hr).2))
        (sourced_pass hsource fun hr => (hpass hr).1) ?_ ?_
      · rw [hidl]
        exact (horderly hr).1.names
      · rw [hidl]
        exact (hpass hr).1

namespace Switch

/-- The rows of the switch before that of the daemon arrives. -/
def earlyPass : Pass where
  idl := { replica := { single (intf "1" 1 "true") with daemons := [] }, seqno := 1 }
  reads := reads
  hw := fun _ => hwOf lr4Page
  committed := true

def daemonPass : Pass where
  idl := idlOf (intf "1" 1 "true") 2
  reads := reads
  hw := fun _ => hwOf lr4Page
  committed := true

end Switch

lemma listedBy_base : ∀ pass ∈ [Switch.earlyPass, Switch.daemonPass],
    ListedBy (fun _ subName => "base" = subName) pass.idl := by
  unfold ListedBy
  decide

theorem setsCurHw_whenRecordsInitialized_late :
    Along (World.pass Switch.platform)
        (SetsCurHwWhen Switch.platform (RecordsInitialized (fun _ port => port ∈ Switch.ports)
          fun _ subName => "base" = subName))
        (World.start Switch.platform Switch.reads 0) [Switch.earlyPass, Switch.daemonPass] ∧
      Along (World.pass Switch.platform) (SetsCurHwWhen Switch.platform ListedInitialized)
        (World.start Switch.platform Switch.reads 0) [Switch.earlyPass, Switch.daemonPass] := by
  have hboth := setsCurHw_whenRecordsInitialized Switch.platform
    (fun _ port => port ∈ Switch.ports) (fun _ subName => "base" = subName) Switch.reads 0
    [Switch.earlyPass, Switch.daemonPass] ?_
  · refine ⟨hboth.1, hboth.2 (fun _ => "base") ⟨fun _ => ⟨listedBy_base _ (by simp), ?_⟩,
      fun _ => ⟨listedBy_base _ (by simp), ?_⟩, trivial⟩⟩
    · intro sub _ inst yamlPort h
      exact absurd h (by simp [pmd_start, pmGetYamlPort])
    · intro sub hsub inst yamlPort h
      obtain rfl := List.mem_singleton.mp hsub
      exact h
  · have hdescribed : ∀ pass ∈ [Switch.earlyPass, Switch.daemonPass],
        DescribedBy (fun _ port => port ∈ Switch.ports) pass.reads pass.idl := by
      unfold DescribedBy
      decide
    refine ⟨⟨fun _ => ⟨⟨?_, ?_, ?_, ?_⟩, ?_⟩,
        fun _ => ⟨hdescribed _ (by simp), listedBy_base _ (by simp)⟩⟩,
      ⟨fun _ => ⟨⟨?_, ?_, ?_, ?_⟩, ?_⟩,
        fun _ => ⟨hdescribed _ (by simp), listedBy_base _ (by simp)⟩⟩, trivial⟩
    all_goals decide

namespace Switch

/-- Two subsystems list interface `1`, as a copper jack and as a QSFP+ port. -/
def sharedReplica : Replica where
  interfaces := [intf "1" 1 "true"]
  subsystems := [⟨8, "front", "/etc/front", [intf "1" 1 "true"]⟩,
    ⟨9, "base", "/etc", [intf "1" 1 "true"]⟩]
  daemons := [⟨7, nameInDaemonTable⟩]
  uuid_nodup := by simp
  mem_interfaces := by simp

def sharedReads : YamlReads := fun sub =>
  if sub.name = "front" then ⟨0, 0, 0, [{ jackPort with name := "1" }]⟩ else ⟨0, 0, 0, ports⟩

def sharedPass : Pass where
  idl := { replica := sharedReplica, seqno := 1 }
  reads := sharedReads
  hw := fun _ => hwOf lr4Page
  committed := true

end Switch

/-- The record of an interface that two subsystems list may be of another kind than the
port of the second, and then it is never initialized. -/
theorem not_setsCurHw_whenListedInitialized :
    Along (World.pass Switch.platform) (Orderly Switch.platform)
      (World.start Switch.platform Switch.sharedReads 0) [Switch.sharedPass] ∧
    ¬Along (World.pass Switch.platform) (SetsCurHwWhen Switch.platform ListedInitialized)
      (World.start Switch.platform Switch.sharedReads 0) [Switch.sharedPass] := by
  constructor
  · refine ⟨fun _ => ⟨⟨?_, ?_, ?_, ?_⟩, ?_⟩, trivial⟩
    all_goals decide
  · intro h
    have hcommit : .commitBlock
        (updateTxn Switch.sharedPass.idl.replica (beforeUpdate Switch.platform Switch.sharedPass
          (World.start Switch.platform Switch.sharedReads 0).pmd)) true ∈
        newCalls (World.start Switch.platform Switch.sharedReads 0).pmd
          ((World.start Switch.platform Switch.sharedReads 0).pass Switch.platform
            Switch.sharedPass).pmd := by decide
    have hall := h.1 _ _ hcommit (by decide) ⟨9, "base", "/etc", [Switch.intf "1" 1 "true"]⟩
      (by decide) (Switch.intf "1" 1 "true") (by decide) Switch.qsfpPort (by decide) (by decide)
      (by decide)
    exact absurd hall.2.scanned (by decide)

end OpsPmd
