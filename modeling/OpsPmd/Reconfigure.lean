import OpsPmd.Scan
import OpsPmd.Lib.LastWrite

/-!
# The phases of a reconfiguration

A reconfiguration that is not skipped deletes what the snapshot lacks, then loads
subsystems and creates interfaces, then modifies interfaces. The rule of this file says
that whatever these elementary steps keep, the reconfiguration keeps; the later files
prove each of their invariants through it.
-/

namespace OpsPmd

open Lib

lemma pmConfigurePort_port (pf : Platform) (port : PmPort) :
    ∃ enable, (pmConfigurePort pf port).1 = { port with portEnable := enable } := by
  unfold pmConfigurePort pmConfigureQsfp
  split
  · split
    · exact ⟨qsfpDisableData port, rfl⟩
    split
    · exact ⟨port.portEnable, rfl⟩
    split
    · exact ⟨port.portEnable, rfl⟩
    · exact ⟨port.portEnable, rfl⟩
  split
  · exact ⟨if port.hwEnable then 1 else 0, rfl⟩
  · split
    · exact ⟨port.portEnable, rfl⟩
    · exact ⟨port.portEnable, rfl⟩
    · exact ⟨port.portEnable, rfl⟩

@[simp] lemma config_pmConfigurePort (pf : Platform) (port : PmPort) :
    (pmConfigurePort pf port).1.config = port.config := by
  obtain ⟨enable, h⟩ := pmConfigurePort_port pf port
  rw [h]
  rfl

lemma ovsdbIfIntfModify_port (pf : Platform) (intf : OvsrecInterface) (port : PmPort) :
    ∃ enable, (ovsdbIfIntfModify pf intf port).1 =
      { port with hwEnable := ovsdbIfIntfGetHwEnable pf intf, portEnable := enable } := by
  unfold ovsdbIfIntfModify
  dsimp only
  split
  · obtain ⟨enable, h⟩ := pmConfigurePort_port pf
      { port with hwEnable := ovsdbIfIntfGetHwEnable pf intf }
    exact ⟨enable, h⟩
  · rename_i h
    have h' : port.hwEnable = ovsdbIfIntfGetHwEnable pf intf := not_not.mp h
    refine ⟨port.portEnable, ?_⟩
    rw [← h']

/-- The node that `ovsdb_if_intf_create` adds, once it has found a pluggable YAML port. -/
def createdPort (pf : Platform) (intf : OvsrecInterface) (subName : String) (yamlPort : YamlPort) :
    PmPort :=
  (pmConfigurePort pf (newPort pf intf subName yamlPort)).1

lemma config_createdPort (pf : Platform) (intf : OvsrecInterface) (subName : String)
    (yamlPort : YamlPort) :
    (createdPort pf intf subName yamlPort).config =
      (newPort pf intf subName yamlPort).config :=
  config_pmConfigurePort pf _

section CreatedPort

variable (pf : Platform) (intf : OvsrecInterface) (subName : String) (yamlPort : YamlPort)

@[simp] lemma inst_createdPort : (createdPort pf intf subName yamlPort).inst = intf.name :=
  congrArg PmPort.Config.inst (config_createdPort pf intf subName yamlPort)

@[simp] lemma uuid_createdPort : (createdPort pf intf subName yamlPort).uuid = intf.uuid :=
  congrArg PmPort.Config.uuid (config_createdPort pf intf subName yamlPort)

@[simp] lemma subsystem_createdPort :
    (createdPort pf intf subName yamlPort).subsystem = subName :=
  congrArg PmPort.Config.subsystem (config_createdPort pf intf subName yamlPort)

@[simp] lemma hwEnable_createdPort :
    (createdPort pf intf subName yamlPort).hwEnable = ovsdbIfIntfGetHwEnable pf intf :=
  congrArg PmPort.Config.hwEnable (config_createdPort pf intf subName yamlPort)

@[simp] lemma moduleDevice_createdPort :
    (createdPort pf intf subName yamlPort).moduleDevice = yamlPort :=
  congrArg PmPort.Config.moduleDevice (config_createdPort pf intf subName yamlPort)

end CreatedPort

/-- The calls of a creation, the first of which marks it in the log. -/
def createCalls (pf : Platform) (intf : OvsrecInterface) (subName : String) (yamlPort : YamlPort) :
    List Call :=
  .intfCreate subName intf.name :: ((pmConfigurePort pf (newPort pf intf subName yamlPort)).2 ++
    pmClearReset (createdPort pf intf subName yamlPort))

lemma ovsdbIfIntfCreate_of_not_pluggable {pf : Platform} {s : Pmd} {intf : OvsrecInterface}
    {subName : String} (h : ∀ yamlPort, pmGetYamlPort s.yaml subName intf.name = some yamlPort →
      yamlPort.pluggable = false) :
    ovsdbIfIntfCreate pf s intf subName = s.log [.intfCreate subName intf.name] := by
  unfold ovsdbIfIntfCreate
  have hyaml : (s.log [.intfCreate subName intf.name]).yaml = s.yaml := rfl
  simp only [hyaml]
  cases hg : pmGetYamlPort s.yaml subName intf.name with
  | none => rfl
  | some yamlPort => simp [h yamlPort hg]

lemma ovsdbIfIntfCreate_of_pluggable {pf : Platform} {s : Pmd} {intf : OvsrecInterface}
    {subName : String} {yamlPort : YamlPort}
    (hg : pmGetYamlPort s.yaml subName intf.name = some yamlPort)
    (hp : yamlPort.pluggable = true) :
    ovsdbIfIntfCreate pf s intf subName =
      ({ s with
        ovsIntfs := s.ovsIntfs.add intf.name (createdPort pf intf subName yamlPort) }).log
        (createCalls pf intf subName yamlPort) := by
  have hinst := inst_createdPort pf intf subName yamlPort
  unfold ovsdbIfIntfCreate createCalls
  have hyaml : (s.log [.intfCreate subName intf.name]).yaml = s.yaml := rfl
  simp only [hyaml, hg, hp, Bool.not_true, Bool.false_eq_true, if_false]
  unfold createdPort at hinst ⊢
  rw [hinst]
  simp [Pmd.log]

/-- Creating an interface either adds one node, or only leaves its mark in the log. -/
lemma ovsdbIfIntfCreate_cases (pf : Platform) (s : Pmd) (intf : OvsrecInterface)
    (subName : String) :
    (∃ yamlPort, pmGetYamlPort s.yaml subName intf.name = some yamlPort ∧
      yamlPort.pluggable = true ∧
      ovsdbIfIntfCreate pf s intf subName =
        ({ s with
          ovsIntfs := s.ovsIntfs.add intf.name (createdPort pf intf subName yamlPort) }).log
          (createCalls pf intf subName yamlPort)) ∨
    ((∀ yamlPort, pmGetYamlPort s.yaml subName intf.name = some yamlPort →
        yamlPort.pluggable = false) ∧
      ovsdbIfIntfCreate pf s intf subName = s.log [.intfCreate subName intf.name]) := by
  by_cases h : ∃ yamlPort, pmGetYamlPort s.yaml subName intf.name = some yamlPort ∧
      yamlPort.pluggable = true
  · obtain ⟨yamlPort, hg, hp⟩ := h
    exact .inl ⟨yamlPort, hg, hp, ovsdbIfIntfCreate_of_pluggable hg hp⟩
  · have hnot : ∀ yamlPort, pmGetYamlPort s.yaml subName intf.name = some yamlPort →
        yamlPort.pluggable = false := by
      intro yamlPort hg
      cases hp : yamlPort.pluggable
      · rfl
      · exact absurd ⟨yamlPort, hg, hp⟩ h
    exact .inr ⟨hnot, ovsdbIfIntfCreate_of_not_pluggable hnot⟩

/-- The state after both loops of deletions. -/
def afterDeletes (idl : Idl) (s : Pmd) : Pmd :=
  deleteSubsystems idl.replica (deleteInterfaces idl.replica { s with idlSeqno := idl.seqno })

/-- Adding a subsystem and reading its files, whatever comes of it. -/
def loadSubsystem (reads : YamlReads) (s : Pmd) (sub : OvsrecSubsystem) : Pmd :=
  (pmReadYamlFiles reads
    (({ s with ovsSubs := s.ovsSubs.add sub.name sub.uuid }).log [.subsAdd sub.name]) sub).2

/-- The entries of the log that loading leaves. -/
def loadCalls (reads : YamlReads) (sub : OvsrecSubsystem) : List Call :=
  .subsAdd sub.name :: .readYamlFiles sub.name (reads sub).rc ::
    if (reads sub).rc = 0 then [.yamlInitDevices sub.name] else []

@[simp] lemma ovsSubs_loadSubsystem (reads : YamlReads) (s : Pmd) (sub : OvsrecSubsystem) :
    (loadSubsystem reads s sub).ovsSubs = s.ovsSubs.add sub.name sub.uuid := rfl

@[simp] lemma yaml_loadSubsystem (reads : YamlReads) (s : Pmd) (sub : OvsrecSubsystem) :
    (loadSubsystem reads s sub).yaml = Function.update s.yaml sub.name (reads sub).ports := rfl

@[simp] lemma calls_loadSubsystem (reads : YamlReads) (s : Pmd) (sub : OvsrecSubsystem) :
    (loadSubsystem reads s sub).calls = s.calls ++ loadCalls reads sub := by
  simp [loadSubsystem, pmReadYamlFiles, Pmd.log, loadCalls]

section Rules

variable {pf : Platform} {reads : YamlReads}

lemma ovsdbIfSubsysProcess_of_mem {s : Pmd} {sub : OvsrecSubsystem}
    (h : sub.name ∈ s.ovsSubs.keys) :
    ovsdbIfSubsysProcess pf reads s sub = sub.interfaces.foldl (createMissing pf sub.name) s := by
  obtain ⟨uuid, hf⟩ := Shash.exists_find_of_mem_keys h
  unfold ovsdbIfSubsysProcess
  rw [hf]

lemma ovsdbIfSubsysProcess_of_not_mem {s : Pmd} {sub : OvsrecSubsystem}
    (h : sub.name ∉ s.ovsSubs.keys) :
    ovsdbIfSubsysProcess pf reads s sub =
      if (reads sub).rc ≠ 0 then loadSubsystem reads s sub
      else sub.interfaces.foldl (createMissing pf sub.name) (loadSubsystem reads s sub) := by
  have hf : s.ovsSubs.find sub.name = none := Shash.find_eq_none_iff.mpr h
  unfold ovsdbIfSubsysProcess
  rw [hf]
  rfl

/-- What loading and creating keep, processing a subsystem keeps. Interfaces are created only
under a subsystem that has been added. -/
theorem ovsdbIfSubsysProcess_rule {J : Pmd → Prop} {sub : OvsrecSubsystem}
    (hload : ∀ s, sub.name ∉ s.ovsSubs.keys → J s → J (loadSubsystem reads s sub))
    (hcreate : ∀ s, ∀ intf ∈ sub.interfaces, intf.name ∉ s.ovsIntfs.keys →
      sub.name ∈ s.ovsSubs.keys → J s → J (ovsdbIfIntfCreate pf s intf sub.name))
    {s : Pmd} (hs : J s) : J (ovsdbIfSubsysProcess pf reads s sub) := by
  have hsubs : ∀ s intf, (ovsdbIfIntfCreate pf s intf sub.name).ovsSubs = s.ovsSubs := by
    intro s intf
    rcases ovsdbIfIntfCreate_cases pf s intf sub.name with ⟨yamlPort, -, -, h⟩ | ⟨-, h⟩
    · rw [h]
      rfl
    · rw [h]
      rfl
  have hloop : ∀ s, sub.name ∈ s.ovsSubs.keys → J s →
      J (sub.interfaces.foldl (createMissing pf sub.name) s) := by
    intro s hmem hJ
    have hboth : sub.name ∈ (sub.interfaces.foldl (createMissing pf sub.name) s).ovsSubs.keys ∧
        J (sub.interfaces.foldl (createMissing pf sub.name) s) := by
      refine foldl_invariant (I := fun s : Pmd => sub.name ∈ s.ovsSubs.keys ∧ J s) ?_ ⟨hmem, hJ⟩
      rintro s intf hintf ⟨hm, hj⟩
      unfold createMissing
      cases hf : s.ovsIntfs.find intf.name with
      | some port => exact ⟨hm, hj⟩
      | none =>
        refine ⟨?_, hcreate s intf hintf (Shash.find_eq_none_iff.mp hf) hm hj⟩
        rw [hsubs]
        exact hm
    exact hboth.2
  by_cases hmem : sub.name ∈ s.ovsSubs.keys
  · rw [ovsdbIfSubsysProcess_of_mem hmem]
    exact hloop s hmem hs
  · rw [ovsdbIfSubsysProcess_of_not_mem hmem]
    have hJ := hload s hmem hs
    split
    · exact hJ
    · exact hloop _ (by simp) hJ

lemma pmdReconfigure_of_eq {idl : Idl} {s : Pmd} (h : idl.seqno = s.idlSeqno) :
    pmdReconfigure pf reads idl s = s := by
  unfold pmdReconfigure
  rw [if_pos h]

lemma pmdReconfigure_of_ne {idl : Idl} {s : Pmd} (h : idl.seqno ≠ s.idlSeqno) :
    pmdReconfigure pf reads idl s =
      idl.replica.interfaces.foldl (modifyInterface pf)
        (idl.replica.subsystems.foldl (ovsdbIfSubsysProcess pf reads) (afterDeletes idl s)) := by
  unfold pmdReconfigure
  rw [if_neg h]
  rfl

/-- What every elementary step keeps, a reconfiguration that is not skipped keeps. -/
theorem pmdReconfigure_rule {J : Pmd → Prop} {idl : Idl} {s : Pmd} (hne : idl.seqno ≠ s.idlSeqno)
    (hdelete : J (afterDeletes idl s))
    (hload : ∀ s, ∀ sub ∈ idl.replica.subsystems, sub.name ∉ s.ovsSubs.keys → J s →
      J (loadSubsystem reads s sub))
    (hcreate : ∀ s, ∀ sub ∈ idl.replica.subsystems, ∀ intf ∈ sub.interfaces,
      intf.name ∉ s.ovsIntfs.keys → sub.name ∈ s.ovsSubs.keys → J s →
      J (ovsdbIfIntfCreate pf s intf sub.name))
    (hmodify : ∀ s, ∀ intf ∈ idl.replica.interfaces, J s → J (modifyInterface pf s intf)) :
    J (pmdReconfigure pf reads idl s) := by
  rw [pmdReconfigure_of_ne hne]
  refine foldl_invariant hmodify (foldl_invariant ?_ hdelete)
  intro s sub hsub hJ
  exact ovsdbIfSubsysProcess_rule (fun s => hload s sub hsub)
    (fun s intf hintf => hcreate s sub hsub intf hintf) hJ

end Rules

lemma modifyInterface_cases (pf : Platform) (s : Pmd) (intf : OvsrecInterface) :
    (intf.name ∉ s.ovsIntfs.keys ∧ modifyInterface pf s intf = s) ∨
    ∃ port, (intf.name, port) ∈ s.ovsIntfs ∧ modifyInterface pf s intf =
      ({ s with
        ovsIntfs := s.ovsIntfs.set intf.name (ovsdbIfIntfModify pf intf port).1 }).log
        (ovsdbIfIntfModify pf intf port).2 := by
  unfold modifyInterface
  cases hf : s.ovsIntfs.find intf.name with
  | none => exact .inl ⟨Shash.find_eq_none_iff.mp hf, rfl⟩
  | some port => exact .inr ⟨port, Shash.mem_of_find_eq_some hf, rfl⟩

lemma afterDeletes_sublist (idl : Idl) (s : Pmd) :
    List.Sublist (afterDeletes idl s).ovsIntfs s.ovsIntfs := by
  show List.Sublist (s.ovsIntfs.foldl _ s.ovsIntfs) s.ovsIntfs
  refine foldl_invariant (I := fun intfs => List.Sublist intfs s.ovsIntfs) ?_ (List.Sublist.refl _)
  intro intfs node _ hsub
  split
  · exact hsub
  · exact (List.eraseP_sublist).trans hsub

variable (pf : Platform) (reads : YamlReads) (idl : Idl) in
/-- What holds of the old records and of new ones, and does not depend on the setting, holds
of all records after a reconfiguration. -/
theorem records_pmdReconfigure {P : String → PmPort → Prop} {s : Pmd}
    (hnodup : s.ovsIntfs.keys.Nodup) (hold : ∀ name port, (name, port) ∈ s.ovsIntfs → P name port)
    (hcreate : ∀ intf ∈ idl.replica.interfaces, ∀ subName yamlPort, yamlPort.pluggable = true →
      P intf.name (createdPort pf intf subName yamlPort))
    (hmodify : ∀ name port hwEnable enable, P name port →
      P name { port with hwEnable := hwEnable, portEnable := enable }) :
    (pmdReconfigure pf reads idl s).ovsIntfs.keys.Nodup ∧
      ∀ name port, (name, port) ∈ (pmdReconfigure pf reads idl s).ovsIntfs → P name port := by
  by_cases he : idl.seqno = s.idlSeqno
  · rw [pmdReconfigure_of_eq he]
    exact ⟨hnodup, hold⟩
  apply pmdReconfigure_rule (J := fun s : Pmd => s.ovsIntfs.keys.Nodup ∧
    ∀ name port, (name, port) ∈ s.ovsIntfs → P name port) he
  · have hsub := afterDeletes_sublist idl s
    exact ⟨(hsub.map Prod.fst).nodup hnodup,
      fun name port hmem => hold name port (hsub.subset hmem)⟩
  · intro s sub _ _ hs
    exact hs
  · rintro s sub hsub intf hintf hnew - ⟨hkeys, hs⟩
    rcases ovsdbIfIntfCreate_cases pf s intf sub.name with ⟨yamlPort, -, hp, hc⟩ | ⟨-, hc⟩
    · rw [hc]
      refine ⟨Shash.nodup_add hkeys hnew, fun name port hmem => ?_⟩
      rcases Shash.mem_add.mp hmem with hmem' | ⟨rfl, rfl⟩
      · exact hs name port hmem'
      · exact hcreate intf (idl.replica.mem_interfaces sub hsub intf hintf) sub.name yamlPort hp
    · rw [hc]
      exact ⟨hkeys, hs⟩
  · rintro s intf - ⟨hkeys, hs⟩
    rcases modifyInterface_cases pf s intf with ⟨-, hc⟩ | ⟨old, hmem, hc⟩
    · rw [hc]
      exact ⟨hkeys, hs⟩
    · obtain ⟨enable, hport⟩ := ovsdbIfIntfModify_port pf intf old
      rw [hc, hport]
      refine ⟨by simpa [Pmd.log] using hkeys, fun name port hmem' => ?_⟩
      rcases (Shash.mem_set hkeys).mp hmem' with ⟨-, hother⟩ | ⟨rfl, rfl, -⟩
      · exact hs name port hother
      · exact hmodify intf.name old _ enable (hs intf.name old hmem)

/-! ## The log -/

/-- The calls that were made between two states. -/
def newCalls (s s' : Pmd) : List Call := s'.calls.drop s.calls.length

lemma newCalls_eq {s s' : Pmd} {new : List Call} (h : s'.calls = s.calls ++ new) :
    newCalls s s' = new := by
  unfold newCalls
  rw [h, List.drop_left]

/-- What a call is about. -/
inductive CallKind
  | port
  | subsystem
  | transaction
deriving DecidableEq

def Call.kind : Call → CallKind
  | .i2cRegWrite .. => .port
  | .i2cDataWrite .. => .port
  | .nullDeref .. => .port
  | .readA0 .. => .port
  | .readModuleState .. => .port
  | .subsAdd .. => .subsystem
  | .readYamlFiles .. => .subsystem
  | .yamlInitDevices .. => .subsystem
  | .intfCreate .. => .subsystem
  | .commitBlock .. => .transaction

lemma kind_pmConfigurePort {pf : Platform} {port : PmPort} {call : Call}
    (h : call ∈ (pmConfigurePort pf port).2) : call.kind = .port := by
  unfold pmConfigurePort pmConfigureQsfp at h
  split at h
  · split at h
    · simp at h
    split at h
    · simp at h
    split at h
    · simp at h
    · rw [List.mem_singleton.mp h]
      rfl
  split at h
  · simp at h
  split at h
  all_goals
    rw [List.mem_singleton.mp h]
    rfl

lemma mem_pmClearReset {port : PmPort} {call : Call} (h : call ∈ pmClearReset port) :
    ∃ signal regOp data, call = .i2cRegWrite port.inst signal port.subsystem regOp data ∧
      (signal = .qsfppReset ∨ signal = .qsfp28pReset) := by
  unfold pmClearReset pmReset at h
  dsimp only at h
  split at h
  · split at h
    · simp at h
    · exact ⟨_, _, _, List.mem_singleton.mp h, .inl rfl⟩
  split at h
  · split at h
    · simp at h
    · exact ⟨_, _, _, List.mem_singleton.mp h, .inr rfl⟩
  · simp at h

lemma kind_pmClearReset {port : PmPort} {call : Call} (h : call ∈ pmClearReset port) :
    call.kind = .port := by
  obtain ⟨signal, regOp, data, rfl, -⟩ := mem_pmClearReset h
  rfl

/-- A modification configures the port with its new setting, if it is new. -/
lemma mem_ovsdbIfIntfModify {pf : Platform} {intf : OvsrecInterface} {port : PmPort} {call : Call}
    (h : call ∈ (ovsdbIfIntfModify pf intf port).2) :
    call ∈ (pmConfigurePort pf { port with hwEnable := ovsdbIfIntfGetHwEnable pf intf }).2 := by
  unfold ovsdbIfIntfModify at h
  dsimp only at h
  split at h
  · exact h
  · exact absurd h List.not_mem_nil

lemma kind_ovsdbIfIntfModify {pf : Platform} {intf : OvsrecInterface} {port : PmPort}
    {call : Call} (h : call ∈ (ovsdbIfIntfModify pf intf port).2) : call.kind = .port :=
  kind_pmConfigurePort (mem_ovsdbIfIntfModify h)

lemma mem_loadCalls {reads : YamlReads} {sub : OvsrecSubsystem} {call : Call}
    (h : call ∈ loadCalls reads sub) :
    call = .subsAdd sub.name ∨ call = .readYamlFiles sub.name (reads sub).rc ∨
      call = .yamlInitDevices sub.name := by
  unfold loadCalls at h
  split at h
  · simpa using h
  · have h' : call = .subsAdd sub.name ∨ call = .readYamlFiles sub.name (reads sub).rc := by
      simpa using h
    exact h'.imp_right Or.inl

lemma kind_loadCalls {reads : YamlReads} {sub : OvsrecSubsystem} {call : Call}
    (h : call ∈ loadCalls reads sub) : call.kind = .subsystem := by
  obtain rfl | rfl | rfl := mem_loadCalls h
  · rfl
  · rfl
  · rfl

lemma readYamlFiles_mem_loadCalls {reads : YamlReads} {sub : OvsrecSubsystem} {name : String}
    {rc : Int} (h : .readYamlFiles name rc ∈ loadCalls reads sub) :
    sub.name = name ∧ (reads sub).rc = rc := by
  obtain h | h | h := mem_loadCalls h
  · contradiction
  · obtain ⟨rfl, rfl⟩ := Call.readYamlFiles.inj h
    exact ⟨rfl, rfl⟩
  · contradiction

lemma ne_subsystem_of_port {calls : List Call} (h : ∀ call ∈ calls, call.kind = .port) :
    ∀ call ∈ calls, call.kind ≠ .subsystem := by
  intro call hcall
  rw [h call hcall]
  decide

/-- A creation marks the log, drives the hardware, and touches nothing but the table. -/
lemma ovsdbIfIntfCreate_frame (pf : Platform) (s : Pmd) (intf : OvsrecInterface)
    (subName : String) :
    ∃ hardware, (∀ call ∈ hardware, call.kind = .port) ∧
      (ovsdbIfIntfCreate pf s intf subName).calls =
        s.calls ++ .intfCreate subName intf.name :: hardware ∧
      (ovsdbIfIntfCreate pf s intf subName).ovsSubs = s.ovsSubs ∧
      (ovsdbIfIntfCreate pf s intf subName).yaml = s.yaml ∧
      (ovsdbIfIntfCreate pf s intf subName).idlSeqno = s.idlSeqno ∧
      ∀ inst ∈ s.ovsIntfs.keys, inst ∈ (ovsdbIfIntfCreate pf s intf subName).ovsIntfs.keys := by
  rcases ovsdbIfIntfCreate_cases pf s intf subName with ⟨yamlPort, -, -, h⟩ | ⟨-, h⟩
  · refine ⟨(pmConfigurePort pf (newPort pf intf subName yamlPort)).2 ++
      pmClearReset (createdPort pf intf subName yamlPort), ?_, ?_⟩
    · intro call hcall
      rcases List.mem_append.mp hcall with hc | hc
      · exact kind_pmConfigurePort hc
      · exact kind_pmClearReset hc
    · rw [h]
      refine ⟨rfl, rfl, rfl, rfl, ?_⟩
      intro inst hm
      simp [Pmd.log, hm]
  · refine ⟨[], by simp, ?_⟩
    rw [h]
    exact ⟨rfl, rfl, rfl, rfl, fun _ hm => hm⟩

/-- A modification drives the hardware and rewrites one record. -/
lemma modifyInterface_frame (pf : Platform) (s : Pmd) (intf : OvsrecInterface) :
    ∃ hardware, (∀ call ∈ hardware, call.kind = .port) ∧
      (modifyInterface pf s intf).calls = s.calls ++ hardware ∧
      (modifyInterface pf s intf).ovsSubs = s.ovsSubs ∧
      (modifyInterface pf s intf).yaml = s.yaml ∧
      (modifyInterface pf s intf).idlSeqno = s.idlSeqno ∧
      (modifyInterface pf s intf).ovsIntfs.keys = s.ovsIntfs.keys := by
  rcases modifyInterface_cases pf s intf with ⟨-, h⟩ | ⟨port, -, h⟩
  · refine ⟨[], by simp, ?_⟩
    rw [h]
    exact ⟨(List.append_nil _).symm, rfl, rfl, rfl, rfl⟩
  · refine ⟨(ovsdbIfIntfModify pf intf port).2,
      fun call hcall => kind_ovsdbIfIntfModify hcall, ?_⟩
    rw [h]
    exact ⟨rfl, rfl, rfl, rfl, Shash.keys_set _ _ _⟩

/-- A reconfiguration commits nothing. -/
lemma calls_pmdReconfigure (pf : Platform) (reads : YamlReads) (idl : Idl) (s : Pmd) :
    ∃ new, (∀ call ∈ new, call.kind ≠ .transaction) ∧
      (pmdReconfigure pf reads idl s).calls = s.calls ++ new := by
  let J : Pmd → Prop := fun s' =>
    ∃ new, (∀ call ∈ new, call.kind ≠ .transaction) ∧ s'.calls = s.calls ++ new
  have happ : ∀ s' s'' : Pmd, ∀ new, J s' → s''.calls = s'.calls ++ new →
      (∀ call ∈ new, call.kind ≠ .transaction) → J s'' := by
    rintro s' s'' new ⟨old, hold, hs'⟩ hs'' hnew
    refine ⟨old ++ new, ?_, by rw [hs'', hs', List.append_assoc]⟩
    intro call hcall
    rcases List.mem_append.mp hcall with h | h
    · exact hold call h
    · exact hnew call h
  by_cases he : idl.seqno = s.idlSeqno
  · rw [pmdReconfigure_of_eq he]
    exact ⟨[], by simp, (List.append_nil _).symm⟩
  refine pmdReconfigure_rule (J := J) he ⟨[], by simp, (List.append_nil _).symm⟩ ?_ ?_ ?_
  · intro s' sub _ _ hs'
    apply happ s' _ _ hs' (calls_loadSubsystem reads s' sub)
    intro call hcall
    rw [kind_loadCalls hcall]
    decide
  · intro s' sub _ intf _ _ _ hs'
    obtain ⟨hardware, hhw, hcalls, -⟩ := ovsdbIfIntfCreate_frame pf s' intf sub.name
    apply happ s' _ _ hs' hcalls
    intro call hcall
    rcases List.mem_cons.mp hcall with rfl | h
    · simp [Call.kind]
    · rw [hhw call h]
      decide
  · intro s' intf _ hs'
    obtain ⟨hardware, hhw, hcalls, -⟩ := modifyInterface_frame pf s' intf
    apply happ s' _ _ hs' hcalls
    intro call hcall
    rw [hhw call hcall]
    decide

def Call.isWrite : Call → Bool
  | .i2cRegWrite .. => true
  | .i2cDataWrite .. => true
  | _ => false

def scanCalls (pf : Platform) (hw : String → ScanHw) (s : Pmd) : List Call :=
  s.ovsIntfs.flatMap fun node => (pmReadModuleState pf (hw node.1) node.2).calls

lemma calls_pmReadState (pf : Platform) (hw : String → ScanHw) (s : Pmd) :
    (pmReadState pf hw s).calls = s.calls ++ scanCalls pf hw s := rfl

@[simp] lemma keys_pmReadState (pf : Platform) (hw : String → ScanHw) (s : Pmd) :
    (pmReadState pf hw s).ovsIntfs.keys = s.ovsIntfs.keys :=
  Shash.keys_map s.ovsIntfs fun n => (pmReadModuleState pf (hw n.1) n.2).port

@[simp] lemma keys_pmOvsdbUpdate (replica : Replica) (committed : Bool) (s : Pmd) :
    (pmOvsdbUpdate replica committed s).ovsIntfs.keys = s.ovsIntfs.keys :=
  Shash.keys_map s.ovsIntfs fun n => (publishPort replica n.2).1

/-- Scans are about ports, and write nothing. -/
lemma quiet_scanCalls {pf : Platform} {hw : String → ScanHw} {s : Pmd} {call : Call}
    (h : call ∈ scanCalls pf hw s) : call.kind = .port ∧ call.isWrite = false := by
  obtain ⟨n, -, hn⟩ := List.mem_flatMap.mp h
  rcases mem_calls_pmReadModuleState hn with ⟨rc, page, rfl⟩ | rfl | rfl
  · exact ⟨rfl, rfl⟩
  · exact ⟨rfl, rfl⟩
  · exact ⟨rfl, rfl⟩

/-! ## Runs of the daemon -/

/-- The daemon with the IDL that it saw last. -/
structure World where
  idl : Idl
  pmd : Pmd

/-- The three functions that a turn of the main loop calls. -/
inductive Event
  | reconfigure (reads : YamlReads) (idl : Idl)
  | readState (hw : String → ScanHw)
  | update (committed : Bool)

def World.step (pf : Platform) (w : World) : Event → World
  | .reconfigure reads idl => ⟨idl, pmdReconfigure pf reads idl w.pmd⟩
  | .readState hw => { w with pmd := pmReadState pf hw w.pmd }
  | .update committed => { w with pmd := pmOvsdbUpdate w.idl.replica committed w.pmd }

/-- The daemon holds the lock, so the turn of the main loop does its work. -/
def Pass.runs (pass : Pass) : Bool := !pass.idl.lockContended && pass.idl.hasLock

/-- A turn of the main loop. -/
def World.pass (pf : Platform) (w : World) (pass : Pass) : World :=
  ⟨if pass.runs then pass.idl else w.idl, pmdRun pf pass w.pmd⟩

lemma pass_of_runs (pf : Platform) (w : World) {pass : Pass} (h : pass.runs = true) :
    w.pass pf pass = ((w.step pf (.reconfigure pass.reads pass.idl)).step pf
      (.readState pass.hw)).step pf (.update pass.committed) := by
  obtain ⟨hcontended, hlock⟩ := Bool.and_eq_true_iff.mp h
  have hc : pass.idl.lockContended = false := by simpa using hcontended
  unfold World.pass pmdRun
  simp only [h, hc, hlock, if_true, Bool.not_true, Bool.false_eq_true, if_false]
  rfl

lemma pass_of_not_runs (pf : Platform) (w : World) {pass : Pass} (h : pass.runs = false) :
    w.pass pf pass = w := by
  have hskip : pmdRun pf pass w.pmd = w.pmd := by
    unfold pmdRun
    split
    · rfl
    split
    · rfl
    · rename_i hcontended hlock
      unfold Pass.runs at h
      simp_all
  unfold World.pass
  rw [h, hskip]
  rfl

/-- Initialization happens before the IDL has received anything. -/
def World.start (pf : Platform) (reads : YamlReads) (seqno : UInt32) : World :=
  let idl : Idl := { replica := Replica.empty, seqno := seqno }
  ⟨idl, pmOvsdbIfInit pf reads idl⟩

lemma pmd_start (pf : Platform) (reads : YamlReads) (seqno : UInt32) :
    (World.start pf reads seqno).pmd = { idlSeqno := seqno } := rfl

/-- What the database promises about the interfaces of the next snapshot. -/
structure FollowsIntfs (last next : Idl) : Prop where
  names : (next.replica.interfaces.map OvsrecInterface.name).Nodup
  immutable : ∀ intf ∈ last.replica.interfaces, ∀ intf' ∈ next.replica.interfaces,
    intf.uuid = intf'.uuid → intf.name = intf'.name
  seqno : next.replica ≠ last.replica → next.seqno ≠ last.seqno

/-- What the database promises about the next snapshot. -/
structure Follows (last next : Idl) : Prop where
  names : (next.replica.interfaces.map OvsrecInterface.name).Nodup
  subNames : (next.replica.subsystems.map OvsrecSubsystem.name).Nodup
  immutable : ∀ intf ∈ last.replica.interfaces, ∀ intf' ∈ next.replica.interfaces,
    intf.uuid = intf'.uuid → intf.name = intf'.name
  seqno : next.replica ≠ last.replica → next.seqno ≠ last.seqno

lemma Follows.intfs {last next : Idl} (h : Follows last next) : FollowsIntfs last next :=
  ⟨h.names, h.immutable, h.seqno⟩

end OpsPmd
