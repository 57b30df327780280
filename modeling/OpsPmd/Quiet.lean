import OpsPmd.CurHw
import OpsPmd.Subsystems

/-!
# A second pass over the same snapshot

After a reconfiguration the tables fit the snapshot so well that another one finds nothing
to do. It only tries once more to create the interfaces that have no pluggable port.
-/

namespace OpsPmd

open Lib

/-- The tables leave nothing to do for the snapshot. -/
structure Settled (pf : Platform) (replica : Replica) (s : Pmd) : Prop where
  row : ∀ name port, (name, port) ∈ s.ovsIntfs → ∃ intf ∈ replica.interfaces, intf.uuid = port.uuid
  sub : ∀ name uuid, (name, uuid) ∈ s.ovsSubs → ∃ sub ∈ replica.subsystems, sub.uuid = uuid
  known : ∀ sub ∈ replica.subsystems, sub.name ∈ s.ovsSubs.keys
  listed : ∀ sub ∈ replica.subsystems, Listed s sub
  hwEnable : ∀ intf ∈ replica.interfaces, ∀ port, (intf.name, port) ∈ s.ovsIntfs →
    port.hwEnable = ovsdbIfIntfGetHwEnable pf intf

/-- The second state is the first with failed creations in its log. -/
def Retries (s s' : Pmd) : Prop :=
  ∃ marks, (∀ call ∈ marks, ∃ sub inst, call = .intfCreate sub inst) ∧ s' = s.log marks

lemma Retries.refl (s : Pmd) : Retries s s := ⟨[], by simp, by simp [Pmd.log]⟩

lemma Retries.snoc {s s' : Pmd} (h : Retries s s') (subName inst : String) :
    Retries s (s'.log [.intfCreate subName inst]) := by
  obtain ⟨marks, hmarks, rfl⟩ := h
  refine ⟨marks ++ [.intfCreate subName inst], ?_, by simp [Pmd.log]⟩
  intro call hcall
  rcases List.mem_append.mp hcall with hold | hnew
  · exact hmarks call hold
  · exact ⟨subName, inst, List.mem_singleton.mp hnew⟩

section Settled

variable {pf : Platform} {reads : YamlReads} {idl : Idl} {replica : Replica} {s : Pmd}

lemma deleteInterfaces_of_settled (h : Settled pf replica s) : deleteInterfaces replica s = s := by
  have hfold : s.ovsIntfs.foldl (fun intfs node =>
      if replica.interfaces.any (fun intf => intf.uuid = node.2.uuid) then intfs
      else Shash.delete intfs node.2.inst) s.ovsIntfs = s.ovsIntfs := by
    refine foldl_invariant (I := fun intfs => intfs = s.ovsIntfs) ?_ rfl
    rintro intfs ⟨name, port⟩ hmem rfl
    rw [if_pos]
    simpa using h.row name port hmem
  unfold deleteInterfaces
  rw [hfold]

lemma deleteSubsystems_of_settled (h : Settled pf replica s) : deleteSubsystems replica s = s := by
  have hfold : s.ovsSubs.foldl (fun subs node =>
      if replica.subsystems.any (fun sub => sub.uuid = node.2) then subs
      else Shash.delete subs node.1) s.ovsSubs = s.ovsSubs := by
    refine foldl_invariant (I := fun subs => subs = s.ovsSubs) ?_ rfl
    rintro subs ⟨name, uuid⟩ hmem rfl
    rw [if_pos]
    simpa using h.sub name uuid hmem
  unfold deleteSubsystems
  rw [hfold]

/-- A listed interface is in the table, or cannot be created. -/
lemma createMissing_of_settled (h : Settled pf replica s) {sub : OvsrecSubsystem}
    (hsub : sub ∈ replica.subsystems) {intf : OvsrecInterface} (hintf : intf ∈ sub.interfaces)
    {s' : Pmd} (hs' : Retries s s') : Retries s (createMissing pf sub.name s' intf) := by
  unfold createMissing
  cases hf : s'.ovsIntfs.find intf.name with
  | some port => exact hs'
  | none =>
    have hnot : ∀ yamlPort, pmGetYamlPort s'.yaml sub.name intf.name = some yamlPort →
        yamlPort.pluggable = false := by
      obtain ⟨marks, -, rfl⟩ := hs'
      intro yamlPort hg
      cases hp : yamlPort.pluggable with
      | false => rfl
      | true =>
        exact absurd (h.listed sub hsub intf hintf yamlPort hg hp) (Shash.find_eq_none_iff.mp hf)
    show Retries s (ovsdbIfIntfCreate pf s' intf sub.name)
    rw [ovsdbIfIntfCreate_of_not_pluggable hnot]
    exact hs'.snoc sub.name intf.name

lemma ovsdbIfSubsysProcess_of_settled (h : Settled pf replica s) {sub : OvsrecSubsystem}
    (hsub : sub ∈ replica.subsystems) {s' : Pmd} (hs' : Retries s s') :
    Retries s (ovsdbIfSubsysProcess pf reads s' sub) := by
  have hknown : sub.name ∈ s'.ovsSubs.keys := by
    obtain ⟨marks, -, rfl⟩ := hs'
    exact h.known sub hsub
  rw [ovsdbIfSubsysProcess_of_mem hknown]
  refine foldl_invariant (I := Retries s) ?_ hs'
  intro s'' intf hintf hs''
  exact createMissing_of_settled h hsub hintf hs''

lemma modifyInterface_of_settled (h : Settled pf replica s) {intf : OvsrecInterface}
    (hintf : intf ∈ replica.interfaces) {s' : Pmd} (hs' : Retries s s') :
    modifyInterface pf s' intf = s' := by
  unfold modifyInterface
  cases hf : s'.ovsIntfs.find intf.name with
  | none => rfl
  | some port =>
    have hen : port.hwEnable = ovsdbIfIntfGetHwEnable pf intf := by
      obtain ⟨marks, -, rfl⟩ := hs'
      exact h.hwEnable intf hintf port (Shash.mem_of_find_eq_some hf)
    have hsame : ovsdbIfIntfModify pf intf port = (port, []) := by
      unfold ovsdbIfIntfModify
      simp [hen]
    simp [hsame, Shash.set_of_find hf, Pmd.log]

variable (reads) in
/-- A pass that finds its tables settled changes nothing. -/
theorem pmdReconfigure_of_settled (h : Settled pf idl.replica s) (hne : idl.seqno ≠ s.idlSeqno) :
    Retries { s with idlSeqno := idl.seqno } (pmdReconfigure pf reads idl s) := by
  have hs : Settled pf idl.replica { s with idlSeqno := idl.seqno } :=
    ⟨h.row, h.sub, h.known, h.listed, h.hwEnable⟩
  have hdelete : afterDeletes idl s = { s with idlSeqno := idl.seqno } := by
    unfold afterDeletes
    rw [deleteInterfaces_of_settled hs, deleteSubsystems_of_settled hs]
  rw [pmdReconfigure_of_ne hne, hdelete]
  refine foldl_invariant ?_ (foldl_invariant ?_ (Retries.refl _))
  · intro s' intf hintf hs'
    rw [modifyInterface_of_settled hs hintf hs']
    exact hs'
  · intro s' sub hsub hs'
    exact ovsdbIfSubsysProcess_of_settled hs hsub hs'

end Settled

lemma nodup_pmdReconfigure {pf : Platform} {reads : YamlReads} {idl : Idl} {s : Pmd}
    (h : s.ovsSubs.keys.Nodup) :
    (pmdReconfigure pf reads idl s).ovsSubs.keys.Nodup ∧ (idl.seqno ≠ s.idlSeqno →
      ∀ name uuid, (name, uuid) ∈ (pmdReconfigure pf reads idl s).ovsSubs →
        ∃ sub ∈ idl.replica.subsystems, sub.uuid = uuid) := by
  by_cases he : idl.seqno = s.idlSeqno
  · rw [pmdReconfigure_of_eq he]
    exact ⟨h, fun hne => absurd he hne⟩
  have hdelete : (afterDeletes idl s).ovsSubs =
      s.ovsSubs.filter (fun node => idl.replica.subsystems.any (fun sub => sub.uuid = node.2)) :=
    Shash.foldl_delete_self _ _ h
  let J : Pmd → Prop := fun s => s.ovsSubs.keys.Nodup ∧ ∀ name uuid, (name, uuid) ∈ s.ovsSubs →
    ∃ sub ∈ idl.replica.subsystems, sub.uuid = uuid
  suffices hJ : J (pmdReconfigure pf reads idl s) from ⟨hJ.1, fun _ => hJ.2⟩
  apply pmdReconfigure_rule he
  · show (afterDeletes idl s).ovsSubs.keys.Nodup ∧ ∀ name uuid,
      (name, uuid) ∈ (afterDeletes idl s).ovsSubs → ∃ sub ∈ idl.replica.subsystems, sub.uuid = uuid
    rw [hdelete]
    refine ⟨Shash.nodup_filter h _, fun name uuid hmem => ?_⟩
    simpa using (List.mem_filter.mp hmem).2
  · rintro s' sub hsub hnew ⟨hnodup, hs'⟩
    refine ⟨Shash.nodup_add hnodup hnew, fun name uuid hmem => ?_⟩
    rcases Shash.mem_add.mp hmem with hold | ⟨-, rfl⟩
    · exact hs' name uuid hold
    · exact ⟨sub, hsub, rfl⟩
  · rintro s' sub - intf - - - hs'
    obtain ⟨_, _, _, hsubs, _⟩ := ovsdbIfIntfCreate_frame pf s' intf sub.name
    dsimp only [J]
    rw [hsubs]
    exact hs'
  · rintro s' intf - hs'
    obtain ⟨_, _, _, hsubs, _⟩ := modifyInterface_frame pf s' intf
    dsimp only [J]
    rw [hsubs]
    exact hs'

/-- A processed pass leaves settled tables, if the reads of the files have succeeded. -/
lemma settled_pmdReconfigure {pf : Platform} {reads : YamlReads} {w : World} {idl : Idl}
    (h : Synced pf w) (hsubs : w.pmd.ovsSubs.keys.Nodup) (hf : Follows w.idl idl)
    (hne : idl.seqno ≠ w.pmd.idlSeqno)
    (hreads : ∀ call ∈ (pmdReconfigure pf reads idl w.pmd).calls, call.failedRead = false) :
    Settled pf idl.replica (pmdReconfigure pf reads idl w.pmd) where
  row := by
    intro name port hmem
    obtain ⟨intf, hintf, -, huuid⟩ := (tableInv_pmdReconfigure h hf.intfs).row name port hmem
    exact ⟨intf, hintf, huuid⟩
  sub := (nodup_pmdReconfigure hsubs).2 hne
  known := fun sub hsub => known_pmdReconfigure hne hsub
  listed := fun sub hsub => listed_pmdReconfigure hf.subNames hne sub hsub
    fun _ hlast => rc_of_lastRead hreads hlast
  hwEnable := hwEnable_pmdReconfigure h hf.intfs

lemma settled_map {pf : Platform} {replica : Replica} {s s' : Pmd} (h : Settled pf replica s)
    (hext : ∀ name, Extends name s s') (hsubs : s'.ovsSubs = s.ovsSubs)
    {f : String × PmPort → PmPort} (hf : ∀ n, (f n).config = n.2.config)
    (htable : s'.ovsIntfs = s.ovsIntfs.map (fun n => (n.1, f n))) : Settled pf replica s' where
  row := by
    intro name port hmem
    rw [htable] at hmem
    obtain ⟨old, hold, rfl⟩ := Shash.mem_map.mp hmem
    rw [show (f (name, old)).uuid = old.uuid from congrArg PmPort.Config.uuid (hf (name, old))]
    exact h.row name old hold
  sub := hsubs ▸ h.sub
  known := hsubs ▸ h.known
  listed := fun sub hsub => (hext sub.name).listed (h.listed sub hsub)
  hwEnable := by
    intro intf hintf port hmem
    rw [htable] at hmem
    obtain ⟨old, hold, rfl⟩ := Shash.mem_map.mp hmem
    exact (congrArg PmPort.Config.hwEnable (hf (intf.name, old))).trans
      (h.hwEnable intf hintf old hold)

/-- The event is a scan or a publication. -/
def Event.keepsTables : Event → Prop
  | .reconfigure .. => False
  | _ => True

lemma settled_step {pf : Platform} {replica : Replica} {w : World} {event : Event}
    (h : Settled pf replica w.pmd) (he : event.keepsTables) :
    Settled pf replica (w.step pf event).pmd := by
  cases event with
  | reconfigure reads idl => exact absurd he id
  | readState hw =>
    exact settled_map h (fun name => extends_pmReadState name hw) rfl
      (f := fun n => (pmReadModuleState pf (hw n.1) n.2).port)
      (fun n => config_pmReadModuleState pf (hw n.1) n.2) rfl
  | update committed =>
    exact settled_map h (fun name => extends_pmOvsdbUpdate name w.idl.replica committed) rfl
      (f := fun n => (publishPort w.idl.replica n.2).1)
      (fun n => config_publishPort w.idl.replica n.2) rfl

lemma nodup_step {pf : Platform} {w : World} {event : Event} (h : w.pmd.ovsSubs.keys.Nodup) :
    (w.step pf event).pmd.ovsSubs.keys.Nodup := by
  cases event with
  | reconfigure reads idl => exact (nodup_pmdReconfigure h).1
  | readState hw => exact h
  | update committed => exact h

lemma Reachable.nodup {pf : Platform} {w : World} (h : Reachable pf w) :
    w.pmd.ovsSubs.keys.Nodup := by
  obtain ⟨reads, seqno, events, -, rfl⟩ := h
  have hstart : (World.start pf reads seqno).pmd.ovsSubs.keys.Nodup := List.nodup_nil
  exact run_invariant (I := fun w : World => w.pmd.ovsSubs.keys.Nodup)
    (fun _ _ h => nodup_step h) hstart events

/-- What another pass over its snapshot does to a state. -/
structure Quiet (s s' : Pmd) : Prop where
  subs : s'.ovsSubs = s.ovsSubs
  intfs : s'.ovsIntfs = s.ovsIntfs
  calls : ∀ call ∈ newCalls s s', ∃ sub inst, call = .intfCreate sub inst

/-- A pass over the snapshot that was processed last leaves both tables as they are, reads no
file and writes to no device: all it does is to retry the creations that cannot succeed. -/
theorem quiet_of_reachable {pf : Platform} {w : World} (hw : Reachable pf w) {reads : YamlReads}
    {idl : Idl} (hf : Follows w.idl idl) (hne : idl.seqno ≠ w.pmd.idlSeqno)
    (hreads : ∀ call ∈ (pmdReconfigure pf reads idl w.pmd).calls, call.failedRead = false)
    {between : List Event} (hbetween : ∀ event ∈ between, event.keepsTables)
    (reads' : YamlReads) {idl' : Idl} (hsame : idl'.replica = idl.replica) :
    Quiet (run (World.step pf) (w.step pf (.reconfigure reads idl)) between).pmd
      (pmdReconfigure pf reads' idl'
        (run (World.step pf) (w.step pf (.reconfigure reads idl)) between).pmd) := by
  have hfirst : Settled pf idl.replica (w.step pf (.reconfigure reads idl)).pmd :=
    settled_pmdReconfigure hw.synced hw.nodup hf hne hreads
  have hlast : Settled pf idl.replica
      (run (World.step pf) (w.step pf (.reconfigure reads idl)) between).pmd :=
    foldl_invariant (I := fun w : World => Settled pf idl.replica w.pmd)
      (fun _ event hevent hw => settled_step hw (hbetween event hevent)) hfirst
  rw [← hsame] at hlast
  generalize (run (World.step pf) (w.step pf (.reconfigure reads idl)) between).pmd = s at hlast ⊢
  by_cases he : idl'.seqno = s.idlSeqno
  · rw [pmdReconfigure_of_eq he]
    refine ⟨rfl, rfl, ?_⟩
    rw [newCalls_eq (List.append_nil s.calls).symm]
    simp
  · obtain ⟨marks, hmarks, heq⟩ := pmdReconfigure_of_settled reads' hlast he
    rw [heq]
    refine ⟨rfl, rfl, ?_⟩
    rw [newCalls_eq rfl]
    exact hmarks

namespace Switch

/-- Interface `1`, and one that has no port. -/
def portless : Replica where
  interfaces := [intf "1" 1 "true", intf "4" 4 "true"]
  subsystems := [base [intf "1" 1 "true", intf "4" 4 "true"]]
  daemons := [⟨7, nameInDaemonTable⟩]
  uuid_nodup := by decide
  mem_interfaces := by decide

end Switch

/-- The modules are scanned and published between the two passes. -/
theorem quiet_of_reachable_portless :
    Quiet (run (World.step Switch.platform)
        ((World.start Switch.platform Switch.reads 0).step Switch.platform
          (.reconfigure Switch.reads { replica := Switch.portless, seqno := 1 }))
        [.readState (fun _ => Switch.hwOf Switch.lr4Page), .update true]).pmd
      (pmdReconfigure Switch.platform Switch.reads { replica := Switch.portless, seqno := 2 }
        (run (World.step Switch.platform)
          ((World.start Switch.platform Switch.reads 0).step Switch.platform
            (.reconfigure Switch.reads { replica := Switch.portless, seqno := 1 }))
          [.readState (fun _ => Switch.hwOf Switch.lr4Page), .update true]).pmd) := by
  apply quiet_of_reachable ⟨Switch.reads, 0, [], trivial, rfl⟩
  · exact ⟨by decide, by decide, by decide, by decide⟩
  · decide
  · decide
  · simp [Event.keepsTables]
  · rfl

end OpsPmd
