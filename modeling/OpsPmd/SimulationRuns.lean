import OpsPmd.Publish
import OpsPmd.Simulation

/-!
# Runs of the simulation build

The main loop of the simulation build takes passes and commands in turn. A pass that creates a
port of a known kind scans it at once, when no command has had a chance to insert a module.
-/

namespace OpsPmd

open Lib

/-- What the main loop of the simulation build goes through. -/
inductive SimInput
  | pass (pass : Pass)
  | command (files : Files) (args : SimArgs)

def simStep (pf : Platform) (w : World) : SimInput → World
  | .pass pass => w.pass pf pass
  | .command files args =>
    { w with pmd := { w.pmd with ovsIntfs := (pmdUnixctlSim files args w.pmd.ovsIntfs).1 } }

/-- A command changes the module of one port, if anything. -/
lemma pmdUnixctlSim_cases (files : Files) (args : SimArgs) (ovsIntfs : Shash String PmPort) :
    (pmdUnixctlSim files args ovsIntfs).1 = ovsIntfs ∨
      ∃ port data, (args.interface, port) ∈ ovsIntfs ∧
        (pmdUnixctlSim files args ovsIntfs).1 =
          ovsIntfs.set args.interface { port with moduleData := data } := by
  have hinsert : ∀ file, (pmdSimInsert files args.interface file ovsIntfs).ovsIntfs = ovsIntfs ∨
      ∃ port data, (args.interface, port) ∈ ovsIntfs ∧
        (pmdSimInsert files args.interface file ovsIntfs).ovsIntfs =
          ovsIntfs.set args.interface { port with moduleData := data } := by
    intro file
    unfold pmdSimInsert
    cases hf : ovsIntfs.find args.interface with
    | none => exact .inl rfl
    | some port =>
      have hmem := Shash.mem_of_find_eq_some hf
      dsimp only
      split
      · exact .inr ⟨port, none, hmem, rfl⟩
      split
      · exact .inr ⟨port, none, hmem, rfl⟩
      · rename_i data _
        exact .inr ⟨port, some data, hmem, rfl⟩
  unfold pmdUnixctlSim
  split
  · split
    · exact hinsert _
    · exact .inl rfl
  split
  · unfold pmdSimRemove
    cases hf : ovsIntfs.find args.interface with
    | none => exact .inl rfl
    | some port =>
      dsimp only
      split
      · exact .inl rfl
      · exact .inr ⟨port, none, Shash.mem_of_find_eq_some hf, rfl⟩
  · exact .inl rfl

lemma keys_pmdUnixctlSim (files : Files) (args : SimArgs) (ovsIntfs : Shash String PmPort) :
    (pmdUnixctlSim files args ovsIntfs).1.keys = ovsIntfs.keys := by
  rcases pmdUnixctlSim_cases files args ovsIntfs with h | ⟨port, data, -, h⟩
  · rw [h]
  · rw [h, Shash.keys_set]

/-- Each record after a command is one from before it, up to its module. -/
lemma mem_pmdUnixctlSim {files : Files} {args : SimArgs} {ovsIntfs : Shash String PmPort}
    (hnodup : ovsIntfs.keys.Nodup) {name : String} {port : PmPort}
    (hmem : (name, port) ∈ (pmdUnixctlSim files args ovsIntfs).1) :
    ∃ old data, (name, old) ∈ ovsIntfs ∧ port = { old with moduleData := data } := by
  rcases pmdUnixctlSim_cases files args ovsIntfs with h | ⟨old, data, hold, h⟩
  · rw [h] at hmem
    exact ⟨port, port.moduleData, hmem, rfl⟩
  · rw [h] at hmem
    rcases (Shash.mem_set hnodup).mp hmem with ⟨-, hmem'⟩ | ⟨rfl, rfl, -⟩
    · exact ⟨port, port.moduleData, hmem', rfl⟩
    · exact ⟨old, data, hold, rfl⟩

/-- A null pointer has been followed. -/
def Faulted (s : Pmd) : Prop := ∃ inst, .nullDeref inst ∈ s.calls

/-- Some port in the table takes a module of a known kind. -/
def HasKnown (s : Pmd) : Prop :=
  ∃ name port, (name, port) ∈ s.ovsIntfs ∧ port.moduleDevice.isKnown = true

lemma faulted_of_append {s s' : Pmd} {new : List Call} (hcalls : s'.calls = s.calls ++ new) :
    Faulted s' ↔ Faulted s ∨ ∃ inst, .nullDeref inst ∈ new := by
  unfold Faulted
  simp only [hcalls, List.mem_append, exists_or]

lemma hasKnown_map {s s' : Pmd} {f : String × PmPort → PmPort}
    (hf : ∀ n, (f n).config = n.2.config)
    (htable : s'.ovsIntfs = s.ovsIntfs.map (fun n => (n.1, f n))) : HasKnown s' ↔ HasKnown s := by
  have hdev : ∀ n, (f n).moduleDevice = n.2.moduleDevice := fun n =>
    congrArg PmPort.Config.moduleDevice (hf n)
  unfold HasKnown
  rw [htable]
  constructor
  · rintro ⟨name, port, hmem, hk⟩
    obtain ⟨old, hold, rfl⟩ := Shash.mem_map.mp hmem
    rw [hdev] at hk
    exact ⟨name, old, hold, hk⟩
  · rintro ⟨name, port, hmem, hk⟩
    refine ⟨name, f (name, port), Shash.mem_map.mpr ⟨port, hmem, rfl⟩, ?_⟩
    rw [hdev]
    exact hk

section Simulation

variable {pf : Platform} (hsim : pf.simulation = true)
include hsim

lemma pmConfigurePort_calls (port : PmPort) : (pmConfigurePort pf port).2 = [] := by
  unfold pmConfigurePort pmConfigureQsfp
  simp only [hsim, if_true]
  split <;> rfl

/-- The scan of a port follows a null pointer exactly if the port takes modules, has not been
read, and has no module. -/
lemma nullDeref_mem_scan_iff {hw : ScanHw} {port : PmPort} {inst : String} :
    .nullDeref inst ∈ (pmReadModuleState pf hw port).calls ↔
      port.moduleDevice.isKnown = true ∧ port.unread = true ∧ port.moduleData = none ∧
        inst = port.inst := by
  cases hk : port.moduleDevice.isKnown with
  | false =>
    rw [pmReadModuleState_of_not_isKnown pf hw hk]
    simp
  | true =>
    rw [pmReadModuleState_eq pf hw hk]
    cases hu : port.unread with
    | false => simp
    | true =>
      cases hd : port.moduleData with
      | none => simp [pmReadA0, hsim, hd]
      | some page => simp [pmReadA0, hsim, hd]

lemma faulted_pmdReconfigure (reads : YamlReads) (idl : Idl) (s : Pmd) :
    Faulted (pmdReconfigure pf reads idl s) ↔ Faulted s := by
  by_cases he : idl.seqno = s.idlSeqno
  · rw [pmdReconfigure_of_eq he]
  have hreset : ∀ port inst, .nullDeref inst ∉ pmClearReset port := by
    intro port inst hmem
    obtain ⟨_, _, _, hcall, -⟩ := mem_pmClearReset hmem
    contradiction
  refine pmdReconfigure_rule (J := fun s' : Pmd => Faulted s' ↔ Faulted s) he Iff.rfl ?_ ?_ ?_
  · intro s' sub _ _ hs'
    rw [← hs', faulted_of_append (calls_loadSubsystem reads s' sub)]
    refine or_iff_left ?_
    rintro ⟨inst, hmem⟩
    rcases mem_loadCalls hmem with h | h | h
    · contradiction
    · contradiction
    · contradiction
  · intro s' sub _ intf _ _ _ hs'
    rw [← hs']
    rcases ovsdbIfIntfCreate_cases pf s' intf sub.name with ⟨yamlPort, -, -, hc⟩ | ⟨-, hc⟩
    · rw [hc, faulted_of_append (s := s') rfl]
      refine or_iff_left ?_
      rintro ⟨inst, hmem⟩
      unfold createCalls at hmem
      rw [pmConfigurePort_calls hsim] at hmem
      rcases List.mem_cons.mp hmem with h | h
      · contradiction
      · exact hreset _ inst h
    · rw [hc, faulted_of_append (s := s') rfl]
      simp
  · intro s' intf _ hs'
    rw [← hs']
    rcases modifyInterface_cases pf s' intf with ⟨-, hc⟩ | ⟨old, -, hc⟩
    · rw [hc]
    · rw [hc, faulted_of_append (s := s') rfl]
      refine or_iff_left ?_
      rintro ⟨inst, hmem⟩
      have hconf := mem_ovsdbIfIntfModify hmem
      rw [pmConfigurePort_calls hsim] at hconf
      contradiction

/-- As long as no port takes modules, a pass faults exactly if it creates one that does. -/
lemma faulted_pass {w : World} (hnodup : w.pmd.ovsIntfs.keys.Nodup) (hnone : ¬HasKnown w.pmd)
    (pass : Pass) :
    Faulted (w.pass pf pass).pmd ↔ Faulted w.pmd ∨ HasKnown (w.pass pf pass).pmd := by
  cases hr : pass.runs with
  | false =>
    rw [pass_of_not_runs pf w hr]
    exact (or_iff_left hnone).symm
  | true =>
    rw [pass_of_runs pf w hr]
    let s := pmdReconfigure pf pass.reads pass.idl w.pmd
    have hfresh : ∀ name port, (name, port) ∈ s.ovsIntfs → port.moduleDevice.isKnown = true →
        port.unread = true ∧ port.moduleData = none := by
      refine (records_pmdReconfigure pf pass.reads pass.idl
        (P := fun _ port => port.moduleDevice.isKnown = true →
          port.unread = true ∧ port.moduleData = none) hnodup ?_ ?_ ?_).2
      · intro name port hmem hk
        exact absurd ⟨name, port, hmem, hk⟩ hnone
      · intro intf _ subName yamlPort _ _
        obtain ⟨enable, hport⟩ := pmConfigurePort_port pf (newPort pf intf subName yamlPort)
        unfold createdPort
        rw [hport]
        exact ⟨rfl, rfl⟩
      · intro name port hwEnable enable hP hk
        exact hP hk
    have hknown : HasKnown (pmOvsdbUpdate pass.idl.replica pass.committed
        (pmReadState pf pass.hw s)) ↔ HasKnown s := by
      rw [hasKnown_map (f := fun n => (publishPort pass.idl.replica n.2).1)
        (fun n => config_publishPort pass.idl.replica n.2) rfl]
      exact hasKnown_map (f := fun n => (pmReadModuleState pf (pass.hw n.1) n.2).port)
        (fun n => config_pmReadModuleState pf (pass.hw n.1) n.2) rfl
    have hscan : (∃ inst, .nullDeref inst ∈ scanCalls pf pass.hw s) ↔ HasKnown s := by
      constructor
      · rintro ⟨inst, hmem⟩
        obtain ⟨⟨name, port⟩, hnode, hcall⟩ := List.mem_flatMap.mp hmem
        exact ⟨name, port, hnode, ((nullDeref_mem_scan_iff hsim).mp hcall).1⟩
      · rintro ⟨name, port, hmem, hk⟩
        obtain ⟨hunread, hdata⟩ := hfresh name port hmem hk
        exact ⟨port.inst, List.mem_flatMap.mpr ⟨(name, port), hmem,
          (nullDeref_mem_scan_iff hsim).mpr ⟨hk, hunread, hdata, rfl⟩⟩⟩
    show Faulted (pmOvsdbUpdate pass.idl.replica pass.committed (pmReadState pf pass.hw s)) ↔
      _ ∨ HasKnown (pmOvsdbUpdate pass.idl.replica pass.committed (pmReadState pf pass.hw s))
    rw [hknown, ← hscan, ← faulted_pmdReconfigure hsim pass.reads pass.idl w.pmd,
      ← faulted_of_append (calls_pmReadState pf pass.hw s), faulted_of_append (calls_pmOvsdbUpdate
        pass.idl.replica pass.committed (pmReadState pf pass.hw s))]
    simp

end Simulation

lemma nodup_simStep {pf : Platform} {w : World} (h : w.pmd.ovsIntfs.keys.Nodup)
    (input : SimInput) : (simStep pf w input).pmd.ovsIntfs.keys.Nodup := by
  cases input with
  | command files args =>
    show (pmdUnixctlSim files args w.pmd.ovsIntfs).1.keys.Nodup
    rw [keys_pmdUnixctlSim]
    exact h
  | pass pass =>
    show (w.pass pf pass).pmd.ovsIntfs.keys.Nodup
    cases hr : pass.runs with
    | false =>
      rw [pass_of_not_runs pf w hr]
      exact h
    | true =>
      rw [pass_of_runs pf w hr]
      show (pmOvsdbUpdate _ _ (pmReadState pf pass.hw _)).ovsIntfs.keys.Nodup
      rw [keys_pmOvsdbUpdate, keys_pmReadState]
      exact (records_pmdReconfigure pf pass.reads pass.idl (P := fun _ _ => True) h
        (fun _ _ _ => trivial) (fun _ _ _ _ _ => trivial) (fun _ _ _ _ _ => trivial)).1

lemma faulted_simStep_of_faulted {pf : Platform} {w : World} (h : Faulted w.pmd)
    (input : SimInput) : Faulted (simStep pf w input).pmd := by
  cases input with
  | command files args => exact h
  | pass pass =>
    show Faulted (w.pass pf pass).pmd
    cases hr : pass.runs with
    | false =>
      rw [pass_of_not_runs pf w hr]
      exact h
    | true =>
      obtain ⟨before, -, hcalls⟩ := calls_pass pf w hr
      exact (faulted_of_append hcalls).mpr (.inl h)

/-- A command brings no port into the table. -/
lemma not_hasKnown_command {w : World} (hnodup : w.pmd.ovsIntfs.keys.Nodup)
    (hnone : ¬HasKnown w.pmd) (pf : Platform) (files : Files) (args : SimArgs) :
    ¬HasKnown (simStep pf w (.command files args)).pmd := by
  rintro ⟨name, port, hmem, hk⟩
  obtain ⟨old, data, hold, rfl⟩ := mem_pmdUnixctlSim hnodup hmem
  exact hnone ⟨name, old, hold, hk⟩

lemma faulted_simStep {pf : Platform} (hsim : pf.simulation = true) {w : World}
    (hnodup : w.pmd.ovsIntfs.keys.Nodup) (hnone : ¬HasKnown w.pmd) (hnot : ¬Faulted w.pmd)
    (input : SimInput) :
    Faulted (simStep pf w input).pmd ↔ HasKnown (simStep pf w input).pmd := by
  cases input with
  | pass pass => exact (faulted_pass hsim hnodup hnone pass).trans (or_iff_right hnot)
  | command files args =>
    exact iff_of_false hnot (not_hasKnown_command hnodup hnone pf files args)

/-- The simulation build follows a null pointer exactly if it ever has a port that takes
modules: it cannot get through the pass that creates the port. -/
theorem faulted_iff_hasKnown (pf : Platform) (hsim : pf.simulation = true) (reads : YamlReads)
    (seqno : UInt32) (inputs : List SimInput) :
    Faulted (run (simStep pf) (World.start pf reads seqno) inputs).pmd ↔
      ∃ before, before <+: inputs ∧
        HasKnown (run (simStep pf) (World.start pf reads seqno) before).pmd := by
  induction inputs using List.reverseRecOn with
  | nil =>
    constructor
    · rintro ⟨inst, hmem⟩
      exact absurd hmem (by simp [pmd_start])
    · rintro ⟨before, hprefix, name, port, hmem, -⟩
      rw [List.prefix_nil.mp hprefix] at hmem
      exact absurd hmem (by simp [pmd_start])
  | append_singleton inputs input ih =>
    have hlast : run (simStep pf) (World.start pf reads seqno) (inputs ++ [input]) =
        simStep pf (run (simStep pf) (World.start pf reads seqno) inputs) input := by
      rw [run_append]
      rfl
    by_cases hbefore : ∃ before, before <+: inputs ∧
        HasKnown (run (simStep pf) (World.start pf reads seqno) before).pmd
    · have hfault := ih.mpr hbefore
      obtain ⟨before, hprefix, hknown⟩ := hbefore
      constructor
      · intro _
        exact ⟨before, hprefix.trans (List.prefix_append inputs [input]), hknown⟩
      · intro _
        rw [hlast]
        exact faulted_simStep_of_faulted hfault input
    · have hnot : ¬Faulted (run (simStep pf) (World.start pf reads seqno) inputs).pmd :=
        fun hfault => hbefore (ih.mp hfault)
      have hnone : ¬HasKnown (run (simStep pf) (World.start pf reads seqno) inputs).pmd :=
        fun hknown => hbefore ⟨inputs, List.prefix_rfl, hknown⟩
      have hstart : (World.start pf reads seqno).pmd.ovsIntfs.keys.Nodup := List.nodup_nil
      have hnodup :
          (run (simStep pf) (World.start pf reads seqno) inputs).pmd.ovsIntfs.keys.Nodup :=
        run_invariant (I := fun w : World => w.pmd.ovsIntfs.keys.Nodup)
          (fun _ input h => nodup_simStep h input) hstart inputs
      rw [hlast, faulted_simStep hsim hnodup hnone hnot input]
      constructor
      · intro hknown
        exact ⟨inputs ++ [input], List.prefix_rfl, hlast ▸ hknown⟩
      · rintro ⟨before, hprefix, hknown⟩
        rcases List.prefix_concat_iff.mp hprefix with rfl | hold
        · exact hlast ▸ hknown
        · exact absurd ⟨before, hold, hknown⟩ hbefore

namespace Switch

/-- The simulation build on the small switch. -/
def simulated : Platform := { platform with simulation := true }

end Switch

/-- The first pass of the small switch does not come to its end. -/
theorem faulted_iff_hasKnown_firstPass :
    Faulted (run (simStep Switch.simulated) (World.start Switch.simulated Switch.reads 0)
      [.pass (Switch.firstPass true)]).pmd := by
  apply (faulted_iff_hasKnown Switch.simulated rfl Switch.reads 0 _).mpr
  exact ⟨_, List.prefix_rfl, "1", _, List.mem_cons_self, by decide⟩

end OpsPmd
