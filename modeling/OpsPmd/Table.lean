import OpsPmd.Reconfigure

/-!
# The port table follows the database

The table is keyed by name, deletion goes by uuid, and a string hash takes duplicates.
Still the three loops of a reconfiguration restore one relation between the table and
the snapshot, whatever the difference between two snapshots was.
-/

namespace OpsPmd

open Lib

structure TableInv (replica : Replica) (intfs : Shash String PmPort) : Prop where
  nodup : intfs.keys.Nodup
  inst : ∀ name port, (name, port) ∈ intfs → port.inst = name
  row : ∀ name port, (name, port) ∈ intfs →
    ∃ intf ∈ replica.interfaces, intf.name = name ∧ intf.uuid = port.uuid
  pluggable : ∀ name port, (name, port) ∈ intfs → port.moduleDevice.pluggable = true

lemma tableInv_nil (replica : Replica) : TableInv replica [] where
  nodup := List.nodup_nil
  inst := by simp
  row := by simp
  pluggable := by simp

lemma deleteInterfaces_eq_filter {last : Replica} {s : Pmd} (h : TableInv last s.ovsIntfs)
    (replica : Replica) :
    (deleteInterfaces replica s).ovsIntfs =
      s.ovsIntfs.filter (fun n => replica.interfaces.any (fun intf => intf.uuid = n.2.uuid)) := by
  rw [← Shash.foldl_delete_self _ _ h.nodup]
  unfold deleteInterfaces
  apply List.foldl_ext
  rintro intfs ⟨name, port⟩ hmem
  rw [h.inst name port hmem]

/-- The first loop drops exactly the nodes whose rows are gone. -/
lemma mem_afterDeletes {last : Replica} {idl : Idl} {s : Pmd} (h : TableInv last s.ovsIntfs)
    {name : String} {port : PmPort} :
    (name, port) ∈ (afterDeletes idl s).ovsIntfs ↔
      (name, port) ∈ s.ovsIntfs ∧ ∃ intf ∈ idl.replica.interfaces, intf.uuid = port.uuid := by
  have heq : (afterDeletes idl s).ovsIntfs =
      (deleteInterfaces idl.replica { s with idlSeqno := idl.seqno }).ovsIntfs := rfl
  have h' : TableInv last ({ s with idlSeqno := idl.seqno } : Pmd).ovsIntfs := h
  rw [heq, deleteInterfaces_eq_filter h' idl.replica]
  simp [List.mem_filter]

lemma tableInv_afterDeletes {last idl : Idl} {s : Pmd} (h : TableInv last.replica s.ovsIntfs)
    (hf : FollowsIntfs last idl) : TableInv idl.replica (afterDeletes idl s).ovsIntfs where
  nodup := by
    have h' : TableInv last.replica ({ s with idlSeqno := idl.seqno } : Pmd).ovsIntfs := h
    have heq : (afterDeletes idl s).ovsIntfs =
        (deleteInterfaces idl.replica { s with idlSeqno := idl.seqno }).ovsIntfs := rfl
    rw [heq, deleteInterfaces_eq_filter h' idl.replica]
    exact Shash.nodup_filter h.nodup _
  inst := fun name port hmem => h.inst name port ((mem_afterDeletes h).mp hmem).1
  row := by
    intro name port hmem
    obtain ⟨hold, intf, hintf, huuid⟩ := (mem_afterDeletes h).mp hmem
    obtain ⟨intf', hintf', hname, huuid'⟩ := h.row name port hold
    have hsame := hf.immutable intf' hintf' intf hintf (huuid'.trans huuid.symm)
    exact ⟨intf, hintf, hsame.symm.trans hname, huuid⟩
  pluggable := fun name port hmem => h.pluggable name port ((mem_afterDeletes h).mp hmem).1

lemma tableInv_add {replica : Replica} {intfs : Shash String PmPort} (h : TableInv replica intfs)
    {pf : Platform} {intf : OvsrecInterface} {subName : String} {yamlPort : YamlPort}
    (hintf : intf ∈ replica.interfaces) (hnew : intf.name ∉ intfs.keys)
    (hp : yamlPort.pluggable = true) :
    TableInv replica (intfs.add intf.name (createdPort pf intf subName yamlPort)) := by
  refine ⟨Shash.nodup_add h.nodup hnew, ?_, ?_, ?_⟩
  · intro name port hmem
    rcases Shash.mem_add.mp hmem with hold | ⟨rfl, rfl⟩
    · exact h.inst name port hold
    · exact inst_createdPort pf intf subName yamlPort
  · intro name port hmem
    rcases Shash.mem_add.mp hmem with hold | ⟨rfl, rfl⟩
    · exact h.row name port hold
    · exact ⟨intf, hintf, rfl, (uuid_createdPort pf intf subName yamlPort).symm⟩
  · intro name port hmem
    rcases Shash.mem_add.mp hmem with hold | ⟨rfl, rfl⟩
    · exact h.pluggable name port hold
    · rw [moduleDevice_createdPort]
      exact hp

lemma tableInv_set {replica : Replica} {intfs : Shash String PmPort} (h : TableInv replica intfs)
    {name : String} {port port' : PmPort} (hmem : (name, port) ∈ intfs)
    (hinst : port'.inst = port.inst) (huuid : port'.uuid = port.uuid)
    (hdev : port'.moduleDevice = port.moduleDevice) :
    TableInv replica (intfs.set name port') := by
  refine ⟨by rw [Shash.keys_set]; exact h.nodup, ?_, ?_, ?_⟩
  · intro name' q hq
    rcases (Shash.mem_set h.nodup).mp hq with ⟨-, hold⟩ | ⟨rfl, rfl, -⟩
    · exact h.inst name' q hold
    · exact hinst.trans (h.inst name' port hmem)
  · intro name' q hq
    rcases (Shash.mem_set h.nodup).mp hq with ⟨-, hold⟩ | ⟨rfl, rfl, -⟩
    · exact h.row name' q hold
    · rw [huuid]
      exact h.row name' port hmem
  · intro name' q hq
    rcases (Shash.mem_set h.nodup).mp hq with ⟨-, hold⟩ | ⟨rfl, rfl, -⟩
    · exact h.pluggable name' q hold
    · rw [hdev]
      exact h.pluggable name' port hmem

lemma tableInv_map {replica : Replica} {intfs : Shash String PmPort} (h : TableInv replica intfs)
    {f : String × PmPort → PmPort} (hf : ∀ n, (f n).config = n.2.config) :
    TableInv replica (intfs.map (fun n => (n.1, f n))) := by
  have hof : ∀ name port, (name, port) ∈ intfs.map (fun n => (n.1, f n)) →
      ∃ old, (name, old) ∈ intfs ∧ port.config = old.config := by
    intro name port hmem
    obtain ⟨old, hold, rfl⟩ := Shash.mem_map.mp hmem
    exact ⟨old, hold, hf (name, old)⟩
  refine ⟨by rw [Shash.keys_map]; exact h.nodup, ?_, ?_, ?_⟩
  · intro name port hmem
    obtain ⟨old, hold, hc⟩ := hof name port hmem
    exact (congrArg PmPort.Config.inst hc).trans (h.inst name old hold)
  · intro name port hmem
    obtain ⟨old, hold, hc⟩ := hof name port hmem
    rw [show port.uuid = old.uuid from congrArg PmPort.Config.uuid hc]
    exact h.row name old hold
  · intro name port hmem
    obtain ⟨old, hold, hc⟩ := hof name port hmem
    rw [show port.moduleDevice = old.moduleDevice from congrArg PmPort.Config.moduleDevice hc]
    exact h.pluggable name old hold

lemma tableInv_ovsdbIfIntfCreate {replica : Replica} {s : Pmd} (h : TableInv replica s.ovsIntfs)
    {pf : Platform} {intf : OvsrecInterface} {subName : String} (hintf : intf ∈ replica.interfaces)
    (hnew : intf.name ∉ s.ovsIntfs.keys) :
    TableInv replica (ovsdbIfIntfCreate pf s intf subName).ovsIntfs := by
  rcases ovsdbIfIntfCreate_cases pf s intf subName with ⟨yamlPort, -, hp, he⟩ | ⟨-, he⟩
  · rw [he]
    exact tableInv_add h hintf hnew hp
  · rw [he]
    exact h

lemma tableInv_modifyInterface {replica : Replica} {s : Pmd} (h : TableInv replica s.ovsIntfs)
    (pf : Platform) (intf : OvsrecInterface) :
    TableInv replica (modifyInterface pf s intf).ovsIntfs := by
  rcases modifyInterface_cases pf s intf with ⟨-, he⟩ | ⟨port, hmem, he⟩
  · rw [he]
    exact h
  · obtain ⟨enable, hport⟩ := ovsdbIfIntfModify_port pf intf port
    rw [he, hport]
    exact tableInv_set h hmem rfl rfl rfl

/-- The table belongs to the snapshot that the daemon saw last, and every record carries the
setting of its row. -/
structure Synced (pf : Platform) (w : World) : Prop where
  seqno : w.pmd.idlSeqno = w.idl.seqno
  table : TableInv w.idl.replica w.pmd.ovsIntfs
  hwEnable : ∀ intf ∈ w.idl.replica.interfaces, ∀ port, (intf.name, port) ∈ w.pmd.ovsIntfs →
    port.hwEnable = ovsdbIfIntfGetHwEnable pf intf

/-- The database keeps its promises at this event. -/
def Admissible (w : World) : Event → Prop
  | .reconfigure _ idl => Follows w.idl idl
  | _ => True

/-- The same for the promises about the interfaces, which is all that the table needs. -/
def AdmissibleIntfs (w : World) : Event → Prop
  | .reconfigure _ idl => FollowsIntfs w.idl idl
  | _ => True

lemma Admissible.intfs {w : World} {event : Event} (h : Admissible w event) :
    AdmissibleIntfs w event := by
  cases event with
  | reconfigure reads idl => exact Follows.intfs h
  | readState hw => trivial
  | update committed => trivial

lemma synced_start (pf : Platform) (reads : YamlReads) (seqno : UInt32) :
    Synced pf (World.start pf reads seqno) where
  seqno := rfl
  table := tableInv_nil _
  hwEnable := by simp [World.start, Replica.empty]

lemma hwEnable_of_uuid {pf : Platform} {w : World} (h : Synced pf w) {name : String}
    {port : PmPort} (hmem : (name, port) ∈ w.pmd.ovsIntfs) {intf : OvsrecInterface}
    (hintf : intf ∈ w.idl.replica.interfaces) (huuid : intf.uuid = port.uuid) :
    port.hwEnable = ovsdbIfIntfGetHwEnable pf intf := by
  obtain ⟨row, hrow, hname, huuid'⟩ := h.table.row name port hmem
  have hsame : row = intf :=
    List.inj_on_of_nodup_map w.idl.replica.uuid_nodup hrow hintf (huuid'.trans huuid.symm)
  subst hsame
  exact h.hwEnable row hrow port (hname ▸ hmem)

section Reconfigure

variable {pf : Platform} {reads : YamlReads} {w : World} {idl : Idl}

/-- An unchanged sequence number means an unchanged snapshot. -/
lemma replica_eq_of_seqno_eq (h : Synced pf w) (hf : FollowsIntfs w.idl idl)
    (he : idl.seqno = w.pmd.idlSeqno) : idl.replica = w.idl.replica := by
  by_contra hne
  exact hf.seqno hne (he.trans h.seqno)

lemma idlSeqno_pmdReconfigure (s : Pmd) : (pmdReconfigure pf reads idl s).idlSeqno = idl.seqno := by
  by_cases he : idl.seqno = s.idlSeqno
  · rw [pmdReconfigure_of_eq he]
    exact he.symm
  · refine pmdReconfigure_rule (J := fun s => s.idlSeqno = idl.seqno) he rfl ?_ ?_ ?_
    · intro s sub _ _ h
      exact h
    · intro s sub _ intf _ _ _ h
      obtain ⟨_, _, _, _, _, hseqno, _⟩ := ovsdbIfIntfCreate_frame pf s intf sub.name
      exact hseqno.trans h
    · intro s intf _ h
      obtain ⟨_, _, _, _, _, hseqno, _⟩ := modifyInterface_frame pf s intf
      exact hseqno.trans h

lemma tableInv_pmdReconfigure (h : Synced pf w) (hf : FollowsIntfs w.idl idl) :
    TableInv idl.replica (pmdReconfigure pf reads idl w.pmd).ovsIntfs := by
  by_cases he : idl.seqno = w.pmd.idlSeqno
  · rw [pmdReconfigure_of_eq he, replica_eq_of_seqno_eq h hf he]
    exact h.table
  · refine pmdReconfigure_rule (J := fun s => TableInv idl.replica s.ovsIntfs) he
      (tableInv_afterDeletes h.table hf) ?_ ?_ ?_
    · intro s sub _ _ hs
      exact hs
    · intro s sub hsub intf hintf hnew _ hs
      exact tableInv_ovsdbIfIntfCreate hs (idl.replica.mem_interfaces sub hsub intf hintf) hnew
    · intro s intf _ hs
      exact tableInv_modifyInterface hs pf intf

lemma tableInv_process (h : Synced pf w) (hf : FollowsIntfs w.idl idl) :
    TableInv idl.replica (idl.replica.subsystems.foldl (ovsdbIfSubsysProcess pf reads)
      (afterDeletes idl w.pmd)).ovsIntfs := by
  refine foldl_invariant (I := fun s : Pmd => TableInv idl.replica s.ovsIntfs) ?_
    (tableInv_afterDeletes h.table hf)
  intro s sub hsub hs
  refine ovsdbIfSubsysProcess_rule (J := fun s => TableInv idl.replica s.ovsIntfs)
    (fun s _ hs => hs) ?_ hs
  intro s intf hintf hnew _ hs
  exact tableInv_ovsdbIfIntfCreate hs (idl.replica.mem_interfaces sub hsub intf hintf) hnew

/-- The last loop brings every record up to its row. -/
lemma hwEnable_modify {replica : Replica}
    (hnames : (replica.interfaces.map OvsrecInterface.name).Nodup) {s : Pmd}
    (h : TableInv replica s.ovsIntfs) :
    ∀ intf ∈ replica.interfaces, ∀ port,
      (intf.name, port) ∈ (replica.interfaces.foldl (modifyInterface pf) s).ovsIntfs →
      port.hwEnable = ovsdbIfIntfGetHwEnable pf intf := by
  have hpair : replica.interfaces.Pairwise (fun a b => a.name ≠ b.name) :=
    List.pairwise_map.mp hnames
  refine foldl_establishes
    (P := fun (intf : OvsrecInterface) (s : Pmd) => ∀ port, (intf.name, port) ∈ s.ovsIntfs →
      port.hwEnable = ovsdbIfIntfGetHwEnable pf intf)
    (I := fun s => TableInv replica s.ovsIntfs) hpair ?_ ?_ ?_ h
  · intro s intf _ hs
    exact tableInv_modifyInterface hs pf intf
  · intro s intf _ hs port hmem
    rcases modifyInterface_cases pf s intf with ⟨hno, hc⟩ | ⟨old, -, hc⟩
    · rw [hc] at hmem
      exact absurd (Shash.mem_keys_of_mem hmem) hno
    · rw [hc] at hmem
      obtain ⟨enable, hport⟩ := ovsdbIfIntfModify_port pf intf old
      rcases (Shash.mem_set hs.nodup).mp hmem with ⟨hne, -⟩ | ⟨-, rfl, -⟩
      · exact absurd rfl hne
      · rw [hport]
  · intro s intf _ intf' _ hne hs hp port hmem
    rcases modifyInterface_cases pf s intf' with ⟨-, hc⟩ | ⟨old, -, hc⟩
    · rw [hc] at hmem
      exact hp port hmem
    · rw [hc] at hmem
      rcases (Shash.mem_set hs.nodup).mp hmem with ⟨-, hold⟩ | ⟨heq, -, -⟩
      · exact hp port hold
      · exact absurd heq hne

lemma hwEnable_pmdReconfigure (h : Synced pf w) (hf : FollowsIntfs w.idl idl) :
    ∀ intf ∈ idl.replica.interfaces, ∀ port,
      (intf.name, port) ∈ (pmdReconfigure pf reads idl w.pmd).ovsIntfs →
      port.hwEnable = ovsdbIfIntfGetHwEnable pf intf := by
  by_cases he : idl.seqno = w.pmd.idlSeqno
  · rw [pmdReconfigure_of_eq he, replica_eq_of_seqno_eq h hf he]
    exact h.hwEnable
  · rw [pmdReconfigure_of_ne he]
    exact hwEnable_modify hf.names (tableInv_process h hf)

end Reconfigure

lemma synced_map {pf : Platform} {w : World} (h : Synced pf w) {s : Pmd}
    {f : String × PmPort → PmPort} (hf : ∀ n, (f n).config = n.2.config)
    (hseqno : s.idlSeqno = w.pmd.idlSeqno)
    (htable : s.ovsIntfs = w.pmd.ovsIntfs.map (fun n => (n.1, f n))) : Synced pf ⟨w.idl, s⟩ where
  seqno := hseqno.trans h.seqno
  table := by
    show TableInv w.idl.replica s.ovsIntfs
    rw [htable]
    exact tableInv_map h.table hf
  hwEnable := by
    intro intf hintf port hmem
    have hmem' : (intf.name, port) ∈ w.pmd.ovsIntfs.map (fun n => (n.1, f n)) := htable ▸ hmem
    obtain ⟨old, hold, rfl⟩ := Shash.mem_map.mp hmem'
    have hc := congrArg PmPort.Config.hwEnable (hf (intf.name, old))
    exact hc.trans (h.hwEnable intf hintf old hold)

theorem synced_step_of_intfs {pf : Platform} {w : World} {event : Event} (h : Synced pf w)
    (hok : AdmissibleIntfs w event) : Synced pf (w.step pf event) := by
  cases event with
  | reconfigure reads idl =>
    exact ⟨idlSeqno_pmdReconfigure w.pmd, tableInv_pmdReconfigure h hok,
      hwEnable_pmdReconfigure h hok⟩
  | readState hw =>
    exact synced_map h (f := fun n => (pmReadModuleState pf (hw n.1) n.2).port)
      (fun n => config_pmReadModuleState pf (hw n.1) n.2) rfl rfl
  | update committed =>
    exact synced_map h (f := fun n => (publishPort w.idl.replica n.2).1)
      (fun n => config_publishPort w.idl.replica n.2) rfl rfl

lemma synced_step {pf : Platform} {w : World} {event : Event} (h : Synced pf w)
    (hok : Admissible w event) : Synced pf (w.step pf event) :=
  synced_step_of_intfs h hok.intfs

/-- The daemon can get to this state while the database keeps its promises. -/
def Reachable (pf : Platform) (w : World) : Prop :=
  ∃ reads seqno events, Along (World.step pf) Admissible (World.start pf reads seqno) events ∧
    w = run (World.step pf) (World.start pf reads seqno) events

lemma Reachable.synced {pf : Platform} {w : World} (h : Reachable pf w) : Synced pf w := by
  obtain ⟨reads, seqno, events, hok, rfl⟩ := h
  exact Along.invariant (fun _ _ hI hw => synced_step hI hw) (synced_start pf reads seqno) hok

lemma synced_pass {pf : Platform} {w : World} {pass : Pass} (h : Synced pf w)
    (hok : pass.runs = true → Follows w.idl pass.idl) : Synced pf (w.pass pf pass) := by
  cases hr : pass.runs with
  | false =>
    rw [pass_of_not_runs pf w hr]
    exact h
  | true =>
    have hreconfigure : Synced pf (w.step pf (.reconfigure pass.reads pass.idl)) :=
      synced_step h (hok hr)
    rw [pass_of_runs pf w hr]
    exact synced_step (synced_step hreconfigure trivial) trivial

/-! ## Hardware description -/

def readOutcome : Call → Option (String × Int)
  | .readYamlFiles name rc => some (name, rc)
  | _ => none

/-- The result of the last read of a subsystem's files. -/
def lastRead (name : String) (calls : List Call) : Option Int := lastWrite readOutcome name calls

lemma lastRead_append {name : String} {xs ys : List Call}
    (h : ∀ call ∈ ys, ∀ rc, call ≠ .readYamlFiles name rc) :
    lastRead name (xs ++ ys) = lastRead name xs := by
  refine lastWrite_append_of_forall fun call hcall rc hread => ?_
  cases call with
  | readYamlFiles n rc' =>
    obtain ⟨rfl, rfl⟩ := Prod.mk.inj (Option.some.inj hread)
    exact h _ hcall rc' rfl
  | _ => exact absurd hread (by simp [readOutcome])

lemma lastRead_append_of_kind {name : String} {xs ys : List Call}
    (h : ∀ call ∈ ys, call.kind ≠ .subsystem) :
    lastRead name (xs ++ ys) = lastRead name xs := by
  apply lastRead_append
  rintro call hcall rc rfl
  exact absurd (h _ hcall) (by simp [Call.kind])

lemma lastRead_append_loadCalls (name : String) (xs : List Call) (reads : YamlReads)
    (sub : OvsrecSubsystem) :
    lastRead name (xs ++ loadCalls reads sub) =
      if sub.name = name then some (reads sub).rc else lastRead name xs := by
  split
  · rename_i h
    subst h
    have happ : xs ++ loadCalls reads sub = (xs ++ [.subsAdd sub.name]) ++
        .readYamlFiles sub.name (reads sub).rc ::
          (if (reads sub).rc = 0 then [.yamlInitDevices sub.name] else []) := by
      simp [loadCalls]
    rw [happ]
    refine lastWrite_append_cons rfl ?_
    intro call hcall
    split at hcall
    · rw [List.mem_singleton.mp hcall]
      simp [readOutcome]
    · exact absurd hcall List.not_mem_nil
  · rename_i h
    apply lastRead_append
    rintro call hcall rc rfl
    exact h (readYamlFiles_mem_loadCalls hcall).1

/-- Every interface that the subsystem lists and that has a pluggable port is in the table. -/
def Listed (s : Pmd) (sub : OvsrecSubsystem) : Prop :=
  ∀ intf ∈ sub.interfaces, ∀ yamlPort,
    pmGetYamlPort s.yaml sub.name intf.name = some yamlPort → yamlPort.pluggable = true →
    intf.name ∈ s.ovsIntfs.keys

/-- What processing another subsystem leaves alone, apart from adding to the table. -/
structure Extends (name : String) (s s' : Pmd) : Prop where
  yaml : s'.yaml name = s.yaml name
  lastRead : lastRead name s'.calls = lastRead name s.calls
  keys : ∀ inst ∈ s.ovsIntfs.keys, inst ∈ s'.ovsIntfs.keys

lemma Extends.refl (name : String) (s : Pmd) : Extends name s s := ⟨rfl, rfl, fun _ h => h⟩

lemma Extends.trans {name : String} {s s' s'' : Pmd} (h : Extends name s s')
    (h' : Extends name s' s'') : Extends name s s'' :=
  ⟨h'.yaml.trans h.yaml, h'.lastRead.trans h.lastRead, fun inst hm => h'.keys inst (h.keys inst hm)⟩

lemma Extends.listed {s s' : Pmd} {sub : OvsrecSubsystem} (h : Extends sub.name s s')
    (hl : Listed s sub) : Listed s' sub := by
  intro intf hintf yamlPort hg hp
  have hg' : pmGetYamlPort s.yaml sub.name intf.name = some yamlPort := by
    unfold pmGetYamlPort at hg ⊢
    rw [← h.yaml]
    exact hg
  exact h.keys _ (hl intf hintf yamlPort hg' hp)

section Extending

variable {pf : Platform} {reads : YamlReads} {s : Pmd}

lemma extends_ovsdbIfIntfCreate (name : String) (intf : OvsrecInterface) (subName : String) :
    Extends name s (ovsdbIfIntfCreate pf s intf subName) := by
  obtain ⟨hardware, hhw, hcalls, -, hyaml, -, hkeys⟩ := ovsdbIfIntfCreate_frame pf s intf subName
  refine ⟨congrFun hyaml name, ?_, hkeys⟩
  rw [hcalls]
  apply lastRead_append
  rintro call hcall rc rfl
  rcases List.mem_cons.mp hcall with h | h
  · exact absurd h (by simp)
  · exact absurd (hhw _ h) (by simp [Call.kind])

lemma extends_modifyInterface (name : String) (intf : OvsrecInterface) :
    Extends name s (modifyInterface pf s intf) := by
  obtain ⟨hardware, hhw, hcalls, -, hyaml, -, hkeys⟩ := modifyInterface_frame pf s intf
  refine ⟨congrFun hyaml name, ?_, fun inst hm => hkeys.symm ▸ hm⟩
  rw [hcalls]
  exact lastRead_append_of_kind (ne_subsystem_of_port hhw)

lemma extends_loadSubsystem {name : String} {sub : OvsrecSubsystem} (h : sub.name ≠ name) :
    Extends name s (loadSubsystem reads s sub) := by
  refine ⟨?_, ?_, fun _ hm => hm⟩
  · rw [yaml_loadSubsystem, Function.update_of_ne h.symm]
  · rw [calls_loadSubsystem, lastRead_append_loadCalls, if_neg h]

lemma extends_ovsdbIfSubsysProcess {name : String} {sub : OvsrecSubsystem} (h : sub.name ≠ name) :
    Extends name s (ovsdbIfSubsysProcess pf reads s sub) := by
  refine ovsdbIfSubsysProcess_rule (J := fun s' => Extends name s s') ?_ ?_ (Extends.refl name s)
  · intro s' _ hs'
    exact hs'.trans (extends_loadSubsystem h)
  · intro s' intf _ _ _ hs'
    exact hs'.trans (extends_ovsdbIfIntfCreate name intf sub.name)

lemma listed_createMissing (sub : OvsrecSubsystem) :
    Listed (sub.interfaces.foldl (createMissing pf sub.name) s) sub := by
  have hextend : ∀ s intf, Extends sub.name s (createMissing pf sub.name s intf) := by
    intro s intf
    unfold createMissing
    split
    · exact extends_ovsdbIfIntfCreate sub.name intf sub.name
    · exact Extends.refl sub.name s
  refine foldl_establishes (I := fun _ => True) (R := fun _ _ => True)
    (P := fun (intf : OvsrecInterface) (s : Pmd) => ∀ yamlPort,
      pmGetYamlPort s.yaml sub.name intf.name = some yamlPort → yamlPort.pluggable = true →
      intf.name ∈ s.ovsIntfs.keys)
    (List.pairwise_of_forall fun _ _ => trivial) (fun _ _ _ _ => trivial) ?_ ?_ trivial
  · intro s intf _ _ yamlPort hg hp
    unfold createMissing at hg ⊢
    cases hf : s.ovsIntfs.find intf.name with
    | some port => exact Shash.mem_keys_of_mem (Shash.mem_of_find_eq_some hf)
    | none =>
      simp only [hf] at hg ⊢
      rcases ovsdbIfIntfCreate_cases pf s intf sub.name with ⟨found, -, -, h⟩ | ⟨hnot, h⟩
      · rw [h]
        simp [Pmd.log]
      · rw [h] at hg
        have hfalse := hnot yamlPort hg
        rw [hp] at hfalse
        contradiction
  · intro s intf _ intf' _ _ _ hP yamlPort hg hp
    have he := hextend s intf'
    refine he.keys _ (hP yamlPort ?_ hp)
    unfold pmGetYamlPort at hg ⊢
    rw [← he.yaml]
    exact hg

/-- Processing a subsystem completes the table for it, unless reading its files has failed. -/
lemma listed_ovsdbIfSubsysProcess (sub : OvsrecSubsystem)
    (h : ∀ rc, lastRead sub.name (ovsdbIfSubsysProcess pf reads s sub).calls = some rc → rc = 0) :
    Listed (ovsdbIfSubsysProcess pf reads s sub) sub := by
  by_cases hmem : sub.name ∈ s.ovsSubs.keys
  · rw [ovsdbIfSubsysProcess_of_mem hmem]
    exact listed_createMissing sub
  · rw [ovsdbIfSubsysProcess_of_not_mem hmem] at h ⊢
    split
    · rename_i hrc
      rw [if_pos hrc] at h
      have hlast : lastRead sub.name (loadSubsystem reads s sub).calls = some (reads sub).rc := by
        rw [calls_loadSubsystem, lastRead_append_loadCalls, if_pos rfl]
      exact absurd (h _ hlast) hrc
    · exact listed_createMissing sub

lemma extends_pmReadState (name : String) (hw : String → ScanHw) :
    Extends name s (pmReadState pf hw s) := by
  refine ⟨rfl, ?_, fun inst hm => ?_⟩
  · rw [calls_pmReadState]
    exact lastRead_append_of_kind (ne_subsystem_of_port fun call hcall => (quiet_scanCalls hcall).1)
  · rw [keys_pmReadState]
    exact hm

lemma extends_pmOvsdbUpdate (name : String) (replica : Replica) (committed : Bool) :
    Extends name s (pmOvsdbUpdate replica committed s) := by
  refine ⟨rfl, lastRead_append_of_kind (by simp [Call.kind]), fun inst hm => ?_⟩
  rw [keys_pmOvsdbUpdate]
  exact hm

end Extending

lemma listed_pmdReconfigure {pf : Platform} {reads : YamlReads} {idl : Idl} {s : Pmd}
    (hsubs : (idl.replica.subsystems.map OvsrecSubsystem.name).Nodup)
    (hne : idl.seqno ≠ s.idlSeqno) :
    ∀ sub ∈ idl.replica.subsystems,
      (∀ rc, lastRead sub.name (pmdReconfigure pf reads idl s).calls = some rc → rc = 0) →
      Listed (pmdReconfigure pf reads idl s) sub := by
  have hpair : idl.replica.subsystems.Pairwise (fun a b => a.name ≠ b.name) :=
    List.pairwise_map.mp hsubs
  rw [pmdReconfigure_of_ne hne]
  have hloaded := foldl_establishes (f := ovsdbIfSubsysProcess pf reads)
    (P := fun (sub : OvsrecSubsystem) (s : Pmd) =>
      (∀ rc, lastRead sub.name s.calls = some rc → rc = 0) → Listed s sub)
    (I := fun _ => True) (s := afterDeletes idl s) hpair (fun _ _ _ _ => trivial)
    (fun s sub _ _ => listed_ovsdbIfSubsysProcess sub)
    (by
      intro s sub _ sub' _ hne _ hP hlast
      have he : Extends sub.name s (ovsdbIfSubsysProcess pf reads s sub') :=
        extends_ovsdbIfSubsysProcess hne.symm
      rw [he.lastRead] at hlast
      exact he.listed (hP hlast)) trivial
  intro sub hsub
  have hmodify : ∀ s, Extends sub.name s
      (idl.replica.interfaces.foldl (modifyInterface pf) s) := by
    intro s
    refine foldl_invariant (I := fun s' => Extends sub.name s s') ?_ (Extends.refl sub.name s)
    intro s' intf _ hs'
    exact hs'.trans (extends_modifyInterface sub.name intf)
  intro hlast
  have he := hmodify (idl.replica.subsystems.foldl (ovsdbIfSubsysProcess pf reads)
    (afterDeletes idl s))
  rw [he.lastRead] at hlast
  exact he.listed (hloaded sub hsub hlast)

/-- Every record points to the YAML port of its name in its subsystem. -/
def DeviceInv (s : Pmd) : Prop :=
  ∀ name port, (name, port) ∈ s.ovsIntfs →
    pmGetYamlPort s.yaml port.subsystem port.inst = some port.moduleDevice

/-- The ports that have been read for a subsystem name stay what they are. -/
def StableYaml (w : World) : Event → Prop
  | .reconfigure reads idl => ∀ sub ∈ idl.replica.subsystems, ∀ inst yamlPort,
      pmGetYamlPort w.pmd.yaml sub.name inst = some yamlPort →
      (reads sub).ports.find? (fun port => port.name = inst) = some yamlPort
  | _ => True

lemma deviceInv_map {s s' : Pmd} (h : DeviceInv s) {f : String × PmPort → PmPort}
    (hf : ∀ n, (f n).config = n.2.config) (hyaml : s'.yaml = s.yaml)
    (htable : s'.ovsIntfs = s.ovsIntfs.map (fun n => (n.1, f n))) : DeviceInv s' := by
  intro name port hmem
  rw [htable] at hmem
  obtain ⟨old, hold, rfl⟩ := Shash.mem_map.mp hmem
  have hc := hf (name, old)
  have hinst : (f (name, old)).inst = old.inst := congrArg PmPort.Config.inst hc
  have hsub : (f (name, old)).subsystem = old.subsystem := congrArg PmPort.Config.subsystem hc
  have hdevice : (f (name, old)).moduleDevice = old.moduleDevice :=
    congrArg PmPort.Config.moduleDevice hc
  rw [hyaml, hinst, hsub, hdevice]
  exact h name old hold

lemma deviceInv_pmdReconfigure {pf : Platform} {reads : YamlReads} {w : World} {idl : Idl}
    (h : Synced pf w) (hdev : DeviceInv w.pmd) (hf : Follows w.idl idl)
    (hstable : StableYaml w (.reconfigure reads idl)) :
    DeviceInv (pmdReconfigure pf reads idl w.pmd) := by
  by_cases he : idl.seqno = w.pmd.idlSeqno
  · rw [pmdReconfigure_of_eq he]
    exact hdev
  -- a node is as old as the call, or its subsystem is known and will not be read again
  let J : Pmd → Prop := fun s => TableInv idl.replica s.ovsIntfs ∧ ∀ name port,
    (name, port) ∈ s.ovsIntfs →
    pmGetYamlPort s.yaml port.subsystem port.inst = some port.moduleDevice ∧
    (pmGetYamlPort w.pmd.yaml port.subsystem port.inst = some port.moduleDevice ∨
      port.subsystem ∈ s.ovsSubs.keys)
  suffices hJ : J (pmdReconfigure pf reads idl w.pmd) from
    fun name port hmem => (hJ.2 name port hmem).1
  refine pmdReconfigure_rule he ⟨tableInv_afterDeletes h.table hf.intfs, ?_⟩ ?_ ?_ ?_
  · intro name port hmem
    have hold := ((mem_afterDeletes h.table).mp hmem).1
    exact ⟨hdev name port hold, .inl (hdev name port hold)⟩
  · rintro s sub hsub hnew ⟨htable, hs⟩
    refine ⟨htable, fun name port hmem => ?_⟩
    obtain ⟨hnow, hwhen⟩ := hs name port hmem
    rw [yaml_loadSubsystem, ovsSubs_loadSubsystem, Shash.keys_add, List.mem_append]
    by_cases hsame : port.subsystem = sub.name
    · have hold : pmGetYamlPort w.pmd.yaml port.subsystem port.inst = some port.moduleDevice := by
        rcases hwhen with hold | hkeys
        · exact hold
        · rw [hsame] at hkeys
          exact absurd hkeys hnew
      refine ⟨?_, .inl hold⟩
      rw [hsame] at hold ⊢
      have hports := hstable sub hsub port.inst port.moduleDevice hold
      unfold pmGetYamlPort
      rw [Function.update_self]
      exact hports
    · refine ⟨?_, hwhen.imp_right Or.inl⟩
      unfold pmGetYamlPort at hnow ⊢
      rw [Function.update_of_ne hsame]
      exact hnow
  · rintro s sub hsub intf hintf hnew hkeys ⟨htable, hs⟩
    refine ⟨tableInv_ovsdbIfIntfCreate htable
      (idl.replica.mem_interfaces sub hsub intf hintf) hnew, ?_⟩
    rcases ovsdbIfIntfCreate_cases pf s intf sub.name with ⟨yamlPort, hg, -, hc⟩ | ⟨-, hc⟩
    · rw [hc]
      intro name port hmem
      rcases Shash.mem_add.mp hmem with hold | ⟨rfl, rfl⟩
      · exact hs name port hold
      · rw [inst_createdPort, subsystem_createdPort, moduleDevice_createdPort]
        exact ⟨hg, .inr hkeys⟩
    · rw [hc]
      exact hs
  · rintro s intf _ ⟨htable, hs⟩
    refine ⟨tableInv_modifyInterface htable pf intf, ?_⟩
    rcases modifyInterface_cases pf s intf with ⟨-, hc⟩ | ⟨old, hold, hc⟩
    · rw [hc]
      exact hs
    · obtain ⟨enable, hport⟩ := ovsdbIfIntfModify_port pf intf old
      rw [hc, hport]
      intro name port hmem
      rcases (Shash.mem_set htable.nodup).mp hmem with ⟨-, hmem'⟩ | ⟨rfl, rfl, -⟩
      · exact hs name port hmem'
      · exact hs intf.name old hold

lemma deviceInv_pass {pf : Platform} {w : World} {pass : Pass} (h : Synced pf w)
    (hdev : DeviceInv w.pmd) (hf : pass.runs = true → Follows w.idl pass.idl)
    (hstable : pass.runs = true → StableYaml w (.reconfigure pass.reads pass.idl)) :
    DeviceInv (w.pass pf pass).pmd := by
  cases hr : pass.runs with
  | false =>
    rw [pass_of_not_runs pf w hr]
    exact hdev
  | true =>
    have hreconfigured : DeviceInv (pmdReconfigure pf pass.reads pass.idl w.pmd) :=
      deviceInv_pmdReconfigure h hdev (hf hr) (hstable hr)
    have hscanned : DeviceInv
        (pmReadState pf pass.hw (pmdReconfigure pf pass.reads pass.idl w.pmd)) :=
      deviceInv_map hreconfigured (f := fun n => (pmReadModuleState pf (pass.hw n.1) n.2).port)
        (fun n => config_pmReadModuleState pf (pass.hw n.1) n.2) rfl rfl
    rw [pass_of_runs pf w hr]
    exact deviceInv_map hscanned (f := fun n => (publishPort pass.idl.replica n.2).1)
      (fun n => config_publishPort pass.idl.replica n.2) rfl rfl

/-! ## The table and the database -/

/-- What the table owes to the snapshot that the daemon saw last. -/
structure FollowsDatabase (w : World) : Prop where
  nodup : w.pmd.ovsIntfs.keys.Nodup
  inst : ∀ name port, (name, port) ∈ w.pmd.ovsIntfs → port.inst = name
  row : ∀ name port, (name, port) ∈ w.pmd.ovsIntfs →
    ∃ intf ∈ w.idl.replica.interfaces, intf.name = name ∧ intf.uuid = port.uuid
  moduleDevice : ∀ name port, (name, port) ∈ w.pmd.ovsIntfs →
    port.moduleDevice ∈ w.pmd.yaml port.subsystem ∧ port.moduleDevice.name = name ∧
      port.moduleDevice.pluggable = true
  listed : ∀ sub ∈ w.idl.replica.subsystems, lastRead sub.name w.pmd.calls = some 0 →
    ∀ intf ∈ sub.interfaces, ∀ yamlPort,
      pmGetYamlPort w.pmd.yaml sub.name intf.name = some yamlPort → yamlPort.pluggable = true →
      intf.name ∈ w.pmd.ovsIntfs.keys

/-- The three parts of the relation, kept by every event. -/
structure TableFollows (pf : Platform) (w : World) : Prop where
  synced : Synced pf w
  device : DeviceInv w.pmd
  listed : ∀ sub ∈ w.idl.replica.subsystems, lastRead sub.name w.pmd.calls = some 0 →
    Listed w.pmd sub

lemma tableFollows_step {pf : Platform} {w : World} {event : Event} (h : TableFollows pf w)
    (hok : Admissible w event) (hstable : StableYaml w event) :
    TableFollows pf (w.step pf event) := by
  refine ⟨synced_step h.synced hok, ?_, ?_⟩
  · cases event with
    | reconfigure reads idl => exact deviceInv_pmdReconfigure h.synced h.device hok hstable
    | readState hw =>
      exact deviceInv_map h.device (f := fun n => (pmReadModuleState pf (hw n.1) n.2).port)
        (fun n => config_pmReadModuleState pf (hw n.1) n.2) rfl rfl
    | update committed =>
      exact deviceInv_map h.device (f := fun n => (publishPort w.idl.replica n.2).1)
        (fun n => config_publishPort w.idl.replica n.2) rfl rfl
  · cases event with
    | reconfigure reads idl =>
      have hf : Follows w.idl idl := hok
      by_cases he : idl.seqno = w.pmd.idlSeqno
      · show ∀ sub ∈ idl.replica.subsystems, _
        rw [replica_eq_of_seqno_eq h.synced hf.intfs he]
        have hs : (w.step pf (.reconfigure reads idl)).pmd = w.pmd := pmdReconfigure_of_eq he
        rw [hs]
        exact h.listed
      · intro sub hsub hlast
        apply listed_pmdReconfigure hf.subNames he sub hsub
        intro rc hrc
        exact Option.some.inj (hrc.symm.trans hlast)
    | readState hw =>
      intro sub hsub hlast
      have hext : Extends sub.name w.pmd (pmReadState pf hw w.pmd) :=
        extends_pmReadState sub.name hw
      exact hext.listed (h.listed sub hsub (hext.lastRead.symm.trans hlast))
    | update committed =>
      intro sub hsub hlast
      have hext : Extends sub.name w.pmd (pmOvsdbUpdate w.idl.replica committed w.pmd) :=
        extends_pmOvsdbUpdate sub.name w.idl.replica committed
      exact hext.listed (h.listed sub hsub (hext.lastRead.symm.trans hlast))

/-- After every run the table follows the database. -/
theorem followsDatabase_of_run (pf : Platform) (reads : YamlReads) (seqno : UInt32)
    (events : List Event)
    (hok : Along (World.step pf) (fun w event => Admissible w event ∧ StableYaml w event)
      (World.start pf reads seqno) events) :
    FollowsDatabase (run (World.step pf) (World.start pf reads seqno) events) := by
  have hstart : TableFollows pf (World.start pf reads seqno) :=
    ⟨synced_start pf reads seqno, by simp [DeviceInv, pmd_start], by
      simp [World.start, Replica.empty]⟩
  have h := Along.invariant (I := TableFollows pf)
    (fun w event hI hw => tableFollows_step hI hw.1 hw.2) hstart hok
  refine ⟨h.synced.table.nodup, h.synced.table.inst, h.synced.table.row, ?_, h.listed⟩
  intro name port hmem
  have hg := h.device name port hmem
  unfold pmGetYamlPort at hg
  have hname : port.moduleDevice.name = port.inst := by simpa using List.find?_some hg
  exact ⟨List.mem_of_find?_eq_some hg, hname.trans (h.synced.table.inst name port hmem),
    h.synced.table.pluggable name port hmem⟩

/-- A row is deleted and created again under its name between two passes, of which the second
is repeated. -/
theorem followsDatabase_of_run_recreated :
    FollowsDatabase (run (World.step Switch.platform)
      (World.start Switch.platform Switch.reads 0)
      [.reconfigure Switch.reads (Switch.idlOf (Switch.intf "1" 1 "true") 1),
        .readState (fun _ => Switch.hwOf Switch.lr4Page), .update true,
        .reconfigure Switch.reads (Switch.idlOf (Switch.intf "1" 2 "false") 2),
        .reconfigure Switch.reads (Switch.idlOf (Switch.intf "1" 2 "false") 2)]) := by
  apply followsDatabase_of_run
  refine ⟨⟨⟨by decide, by decide, by decide, by decide⟩, ?_⟩, ⟨trivial, trivial⟩,
    ⟨trivial, trivial⟩, ⟨⟨by decide, by decide, by decide, by decide⟩, ?_⟩,
    ⟨⟨by decide, by decide, by decide, by decide⟩, ?_⟩, trivial⟩
  · intro sub _ inst yamlPort h
    exact absurd h (by simp [pmd_start, pmGetYamlPort])
  · intro sub hsub inst yamlPort h
    obtain rfl := List.mem_singleton.mp hsub
    exact h
  · intro sub hsub inst yamlPort h
    obtain rfl := List.mem_singleton.mp hsub
    exact h

end OpsPmd
