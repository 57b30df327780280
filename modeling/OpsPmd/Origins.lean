import OpsPmd.Table

/-!
# Where the records come from

A record is made from a pluggable port that the hardware description files had under its name
at the time, and keeps it. What holds of every description that is ever read holds of the
ports of the records, whatever the snapshots are.
-/

namespace OpsPmd

open Lib

variable (describes : String → YamlPort → Prop)

/-- What the files say for a subsystem is in the set of descriptions. -/
def DescribedBy (reads : YamlReads) (idl : Idl) : Prop :=
  ∀ sub ∈ idl.replica.subsystems, ∀ port ∈ (reads sub).ports, describes sub.name port

/-- Everything that the files have ever said is in the set of descriptions. -/
def Described (_ : World) : Event → Prop
  | .reconfigure reads idl => DescribedBy describes reads idl
  | _ => True

/-- The record is that of a pluggable port that the files have described under the name, in the
subsystem that the record names. -/
structure MadeFrom (name : String) (port : PmPort) : Prop where
  described : describes port.subsystem port.moduleDevice
  name : port.moduleDevice.name = name
  pluggable : port.moduleDevice.pluggable = true

/-- Every record is made from a description. -/
structure Origins (s : Pmd) : Prop where
  yaml : ∀ subName, ∀ port ∈ s.yaml subName, describes subName port
  device : ∀ name port, (name, port) ∈ s.ovsIntfs → MadeFrom describes name port

variable {describes} {s s' : Pmd}

lemma MadeFrom.of_device {name : String} {port port' : PmPort} (h : MadeFrom describes name port)
    (hsub : port'.subsystem = port.subsystem) (hdevice : port'.moduleDevice = port.moduleDevice) :
    MadeFrom describes name port' := by
  refine ⟨?_, ?_, ?_⟩
  · rw [hsub, hdevice]
    exact h.described
  · rw [hdevice]
    exact h.name
  · rw [hdevice]
    exact h.pluggable

lemma origins_start (pf : Platform) (reads : YamlReads) (seqno : UInt32) :
    Origins describes (World.start pf reads seqno).pmd := by
  rw [pmd_start]
  exact ⟨by simp, by simp⟩

lemma origins_of_config (h : Origins describes s) (hyaml : s'.yaml = s.yaml)
    (hof : ∀ name port, (name, port) ∈ s'.ovsIntfs →
      ∃ old, (name, old) ∈ s.ovsIntfs ∧ port.subsystem = old.subsystem ∧
        port.moduleDevice = old.moduleDevice) : Origins describes s' := by
  refine ⟨by rw [hyaml]; exact h.yaml, ?_⟩
  intro name port hmem
  obtain ⟨old, hold, hsub, hdevice⟩ := hof name port hmem
  exact (h.device name old hold).of_device hsub hdevice

lemma origins_map (h : Origins describes s) {f : String × PmPort → PmPort}
    (hf : ∀ n, (f n).config = n.2.config) (hyaml : s'.yaml = s.yaml)
    (htable : s'.ovsIntfs = s.ovsIntfs.map (fun n => (n.1, f n))) : Origins describes s' := by
  refine origins_of_config h hyaml fun name port hmem => ?_
  rw [htable] at hmem
  obtain ⟨old, hold, rfl⟩ := Shash.mem_map.mp hmem
  have hc := hf (name, old)
  exact ⟨old, hold, congrArg PmPort.Config.subsystem hc, congrArg PmPort.Config.moduleDevice hc⟩

lemma origins_loadSubsystem (h : Origins describes s) {reads : YamlReads} {sub : OvsrecSubsystem}
    (hd : ∀ port ∈ (reads sub).ports, describes sub.name port) :
    Origins describes (loadSubsystem reads s sub) := by
  refine ⟨?_, h.device⟩
  intro subName port hport
  rw [yaml_loadSubsystem] at hport
  by_cases hname : subName = sub.name
  · subst hname
    rw [Function.update_self] at hport
    exact hd port hport
  · rw [Function.update_of_ne hname] at hport
    exact h.yaml subName port hport

lemma origins_ovsdbIfIntfCreate (h : Origins describes s) (pf : Platform) (intf : OvsrecInterface)
    (subName : String) : Origins describes (ovsdbIfIntfCreate pf s intf subName) := by
  rcases ovsdbIfIntfCreate_cases pf s intf subName with ⟨yamlPort, hg, hp, he⟩ | ⟨-, he⟩
  · rw [he]
    refine ⟨h.yaml, ?_⟩
    intro name port hmem
    rcases Shash.mem_add.mp hmem with hold | ⟨rfl, rfl⟩
    · exact h.device name port hold
    · have hname : yamlPort.name = intf.name := by simpa [pmGetYamlPort] using List.find?_some hg
      refine ⟨?_, ?_, ?_⟩
      · rw [subsystem_createdPort, moduleDevice_createdPort]
        exact h.yaml subName yamlPort (List.mem_of_find?_eq_some hg)
      · rw [moduleDevice_createdPort]
        exact hname
      · rw [moduleDevice_createdPort]
        exact hp
  · rw [he]
    exact origins_of_config h rfl fun name port hmem => ⟨port, hmem, rfl, rfl⟩

lemma origins_modifyInterface (h : Origins describes s) (pf : Platform) (intf : OvsrecInterface) :
    Origins describes (modifyInterface pf s intf) := by
  rcases modifyInterface_cases pf s intf with ⟨-, he⟩ | ⟨old, hold, he⟩
  · rw [he]
    exact h
  · obtain ⟨enable, hport⟩ := ovsdbIfIntfModify_port pf intf old
    rw [he, hport]
    refine origins_of_config h rfl fun name port hmem => ?_
    rcases Shash.mem_of_mem_set hmem with hmem' | ⟨rfl, rfl⟩
    · exact ⟨port, hmem', rfl, rfl⟩
    · exact ⟨old, hold, rfl, rfl⟩

lemma Origins.afterDeletes (h : Origins describes s) (idl : Idl) :
    Origins describes (afterDeletes idl s) :=
  origins_of_config h rfl fun _ port hmem =>
    ⟨port, (afterDeletes_sublist idl s).subset hmem, rfl, rfl⟩

/-- Up to the last loop. -/
lemma origins_process (h : Origins describes s) (pf : Platform) {reads : YamlReads} {idl : Idl}
    (hd : DescribedBy describes reads idl) :
    Origins describes (idl.replica.subsystems.foldl (ovsdbIfSubsysProcess pf reads)
      (afterDeletes idl s)) := by
  refine foldl_invariant (I := Origins describes) ?_ (h.afterDeletes idl)
  intro s sub hsub hs
  exact ovsdbIfSubsysProcess_rule (J := Origins describes)
    (fun s _ hs => origins_loadSubsystem hs (hd sub hsub))
    (fun s intf _ _ _ hs => origins_ovsdbIfIntfCreate hs pf intf sub.name) hs

lemma origins_pmdReconfigure (h : Origins describes s) (pf : Platform) {reads : YamlReads}
    {idl : Idl} (hd : DescribedBy describes reads idl) :
    Origins describes (pmdReconfigure pf reads idl s) := by
  by_cases he : idl.seqno = s.idlSeqno
  · rw [pmdReconfigure_of_eq he]
    exact h
  · rw [pmdReconfigure_of_ne he]
    exact foldl_invariant (I := Origins describes)
      (fun s intf _ hs => origins_modifyInterface hs pf intf) (origins_process h pf hd)

lemma origins_pass {pf : Platform} {w : World} {pass : Pass} (h : Origins describes w.pmd)
    (hd : pass.runs = true → DescribedBy describes pass.reads pass.idl) :
    Origins describes (w.pass pf pass).pmd := by
  cases hr : pass.runs with
  | false =>
    rw [pass_of_not_runs pf w hr]
    exact h
  | true =>
    have hreconfigured := origins_pmdReconfigure h pf (hd hr)
    have hscanned : Origins describes
        (pmReadState pf pass.hw (pmdReconfigure pf pass.reads pass.idl w.pmd)) :=
      origins_map hreconfigured (f := fun n => (pmReadModuleState pf (pass.hw n.1) n.2).port)
        (fun n => config_pmReadModuleState pf (pass.hw n.1) n.2) rfl rfl
    rw [pass_of_runs pf w hr]
    exact origins_map hscanned (f := fun n => (publishPort pass.idl.replica n.2).1)
      (fun n => config_publishPort pass.idl.replica n.2) rfl rfl

end OpsPmd
