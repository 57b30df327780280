import OpsPmd.Table

/-!
# Which subsystems count as known

A subsystem is added to the map before its files are read, and stays there when the read
fails, so later passes take it for a subsystem whose description is loaded. The map tells
the truth exactly in the runs in which no read fails.
-/

namespace OpsPmd

open Lib

def loadedStep (name : String) (loaded : Bool) : Call → Bool
  | .subsAdd n => if n = name then false else loaded
  | .readYamlFiles n rc => if n = name ∧ rc = 0 then true else loaded
  | _ => loaded

/-- A read of the subsystem's files has succeeded since the name was added last. -/
def loadedSince (name : String) (calls : List Call) : Bool := calls.foldl (loadedStep name) false

/-- Interfaces have been created only under subsystems that were loaded at that point. -/
def CreatesLoaded (calls : List Call) : Prop :=
  ∀ before sub inst after, calls = before ++ .intfCreate sub inst :: after →
    loadedSince sub before = true

lemma loadedSince_append (name : String) (xs ys : List Call) :
    loadedSince name (xs ++ ys) = ys.foldl (loadedStep name) (loadedSince name xs) :=
  List.foldl_append

lemma loadedStep_of_kind {name : String} {loaded : Bool} {call : Call}
    (h : call.kind ≠ .subsystem) : loadedStep name loaded call = loaded := by
  cases call <;> first | rfl | exact absurd rfl h

lemma foldl_loadedStep_of_kind {name : String} {calls : List Call}
    (h : ∀ call ∈ calls, call.kind ≠ .subsystem) (loaded : Bool) :
    calls.foldl (loadedStep name) loaded = loaded := by
  refine foldl_invariant (I := fun b => b = loaded) ?_ rfl
  intro b call hcall hb
  rw [loadedStep_of_kind (h call hcall)]
  exact hb

lemma loadedSince_append_of_kind {name : String} {xs ys : List Call}
    (h : ∀ call ∈ ys, call.kind ≠ .subsystem) :
    loadedSince name (xs ++ ys) = loadedSince name xs := by
  rw [loadedSince_append, foldl_loadedStep_of_kind h]

lemma loadedSince_append_cons {name : String} {xs ys : List Call} (sub inst : String)
    (h : ∀ call ∈ ys, call.kind ≠ .subsystem) :
    loadedSince name (xs ++ .intfCreate sub inst :: ys) = loadedSince name xs := by
  rw [loadedSince_append, List.foldl_cons, foldl_loadedStep_of_kind h]
  rfl

lemma loadedSince_append_loadCalls (name : String) (xs : List Call) (reads : YamlReads)
    (sub : OvsrecSubsystem) :
    loadedSince name (xs ++ loadCalls reads sub) =
      if sub.name = name then decide ((reads sub).rc = 0) else loadedSince name xs := by
  rw [loadedSince_append]
  unfold loadCalls
  by_cases hname : sub.name = name
  · by_cases hrc : (reads sub).rc = 0
    · simp [loadedStep, hname, hrc]
    · simp [loadedStep, hname, hrc]
  · by_cases hrc : (reads sub).rc = 0
    · simp [loadedStep, hname, hrc]
    · simp [loadedStep, hname, hrc]

lemma createsLoaded_append {xs ys : List Call} (hx : CreatesLoaded xs)
    (hy : ∀ before sub inst after, ys = before ++ .intfCreate sub inst :: after →
      loadedSince sub (xs ++ before) = true) : CreatesLoaded (xs ++ ys) := by
  intro before sub inst after he
  rcases List.append_eq_append_iff.mp he with ⟨mid, hbefore, hys⟩ | ⟨mid, hxs, hys⟩
  · rw [hbefore]
    exact hy mid sub inst after hys
  · cases mid with
    | nil =>
      have hb : before = xs := by simpa using hxs.symm
      have hy' := hy [] sub inst after (by simpa using hys.symm)
      rw [List.append_nil] at hy'
      rw [hb]
      exact hy'
    | cons call mid =>
      obtain ⟨rfl, -⟩ := List.cons.inj hys
      exact hx before sub inst mid hxs

lemma createsLoaded_append_of_forall {xs ys : List Call} (hx : CreatesLoaded xs)
    (hy : ∀ sub inst, .intfCreate sub inst ∉ ys) : CreatesLoaded (xs ++ ys) := by
  apply createsLoaded_append hx
  rintro before sub inst after rfl
  exact absurd (by simp) (hy sub inst)

lemma createsLoaded_append_of_kind {xs ys : List Call} (hx : CreatesLoaded xs)
    (h : ∀ call ∈ ys, call.kind ≠ .subsystem) : CreatesLoaded (xs ++ ys) := by
  refine createsLoaded_append_of_forall hx fun sub inst hmem => ?_
  exact absurd (h _ hmem) (by simp [Call.kind])

/-- A creation under a loaded subsystem, with any hardware calls behind it. -/
lemma createsLoaded_append_cons {xs ys : List Call} {sub inst : String} (hx : CreatesLoaded xs)
    (hl : loadedSince sub xs = true) (h : ∀ call ∈ ys, call.kind ≠ .subsystem) :
    CreatesLoaded (xs ++ .intfCreate sub inst :: ys) := by
  have hmark : CreatesLoaded (xs ++ [.intfCreate sub inst]) := by
    apply createsLoaded_append hx
    intro before sub' inst' after he
    cases before with
    | nil =>
      obtain ⟨hcall, -⟩ := List.cons.inj he
      obtain ⟨rfl, -⟩ := Call.intfCreate.inj hcall
      rw [List.append_nil]
      exact hl
    | cons call before =>
      have hlen := congrArg List.length he
      simp at hlen
  have happ : xs ++ Call.intfCreate sub inst :: ys = (xs ++ [.intfCreate sub inst]) ++ ys := by
    simp
  rw [happ]
  exact createsLoaded_append_of_kind hmark h

/-! ## One pass -/

def KnownLoaded (s : Pmd) : Prop := ∀ name ∈ s.ovsSubs.keys, loadedSince name s.calls = true

/-- Known subsystems are loaded, interfaces are created under loaded ones only, and a
subsystem that is not loaded is read again. -/
structure LoadsBeforeUse (idl : Idl) (s s' : Pmd) : Prop where
  known : KnownLoaded s'
  created : CreatesLoaded s'.calls
  retried : idl.seqno ≠ s.idlSeqno → ∀ sub ∈ idl.replica.subsystems,
    loadedSince sub.name s.calls = false → ∃ rc, .readYamlFiles sub.name rc ∈ newCalls s s'

/-- A read that fails, among the calls since a state. -/
def FailedRead (new : List Call) : Prop := ∃ name rc, .readYamlFiles name rc ∈ new ∧ rc ≠ 0

section Pass

variable {pf : Platform} {reads : YamlReads} {idl : Idl}

lemma keys_afterDeletes {s : Pmd} {name : String} (h : name ∈ (afterDeletes idl s).ovsSubs.keys) :
    name ∈ s.ovsSubs.keys := by
  have hsub : ∀ m ∈ (afterDeletes idl s).ovsSubs, m ∈ s.ovsSubs := by
    have hinv : (afterDeletes idl s).ovsSubs ⊆ s.ovsSubs := by
      refine foldl_invariant (I := fun subs => subs ⊆ s.ovsSubs) ?_ (List.Subset.refl _)
      intro subs node _ hsubs
      split
      · exact hsubs
      · exact List.Subset.trans List.eraseP_subset hsubs
    exact fun m hm => hinv hm
  obtain ⟨uuid, hmem⟩ := Shash.mem_keys.mp h
  exact Shash.mem_keys_of_mem (hsub _ hmem)

variable (pf reads) in
/-- Unless some read fails, only loaded subsystems are known and used. -/
lemma known_or_failedRead {s : Pmd} (hk : KnownLoaded s) (hc : CreatesLoaded s.calls)
    (hne : idl.seqno ≠ s.idlSeqno) :
    ∃ new, (pmdReconfigure pf reads idl s).calls = s.calls ++ new ∧
      (FailedRead new ∨ (KnownLoaded (pmdReconfigure pf reads idl s) ∧
        CreatesLoaded (pmdReconfigure pf reads idl s).calls)) := by
  refine pmdReconfigure_rule (J := fun s' => ∃ new, s'.calls = s.calls ++ new ∧
    (FailedRead new ∨ (KnownLoaded s' ∧ CreatesLoaded s'.calls))) hne ?_ ?_ ?_ ?_
  · refine ⟨[], (List.append_nil _).symm, .inr ⟨?_, hc⟩⟩
    intro name hname
    exact hk name (keys_afterDeletes hname)
  · rintro s' sub - hnew ⟨new, hcalls, hs'⟩
    refine ⟨new ++ loadCalls reads sub, by simp [hcalls], ?_⟩
    rcases hs' with ⟨name, rc, hmem, hrc⟩ | ⟨hknown, hcreated⟩
    · exact .inl ⟨name, rc, List.mem_append_left _ hmem, hrc⟩
    by_cases hrc : (reads sub).rc = 0
    · refine .inr ⟨?_, ?_⟩
      · intro name hname
        rw [calls_loadSubsystem, loadedSince_append_loadCalls]
        split
        · simpa using hrc
        · rename_i hother
          rw [ovsSubs_loadSubsystem, Shash.keys_add, List.mem_append] at hname
          rcases hname with hold | hself
          · exact hknown name hold
          · exact absurd (List.mem_singleton.mp hself).symm hother
      · rw [calls_loadSubsystem]
        refine createsLoaded_append_of_forall hcreated fun sub' inst => ?_
        simp [loadCalls, hrc]
    · exact .inl ⟨sub.name, (reads sub).rc, by simp [loadCalls], hrc⟩
  · rintro s' sub - intf - - hkeys ⟨new, hcalls, hs'⟩
    obtain ⟨hardware, hhw, hlog, hsubs, -⟩ := ovsdbIfIntfCreate_frame pf s' intf sub.name
    refine ⟨new ++ .intfCreate sub.name intf.name :: hardware, by simp [hlog, hcalls], ?_⟩
    rcases hs' with ⟨name, rc, hmem, hrc⟩ | ⟨hknown, hcreated⟩
    · exact .inl ⟨name, rc, List.mem_append_left _ hmem, hrc⟩
    · refine .inr ⟨?_, ?_⟩
      · intro name hname
        rw [hsubs] at hname
        rw [hlog, loadedSince_append_cons sub.name intf.name (ne_subsystem_of_port hhw)]
        exact hknown name hname
      · rw [hlog]
        exact createsLoaded_append_cons hcreated (hknown sub.name hkeys) (ne_subsystem_of_port hhw)
  · rintro s' intf - ⟨new, hcalls, hs'⟩
    obtain ⟨hardware, hhw, hlog, hsubs, -⟩ := modifyInterface_frame pf s' intf
    refine ⟨new ++ hardware, by simp [hlog, hcalls], ?_⟩
    rcases hs' with ⟨name, rc, hmem, hrc⟩ | ⟨hknown, hcreated⟩
    · exact .inl ⟨name, rc, List.mem_append_left _ hmem, hrc⟩
    · refine .inr ⟨?_, ?_⟩
      · intro name hname
        rw [hsubs] at hname
        rw [hlog, loadedSince_append_of_kind (ne_subsystem_of_port hhw)]
        exact hknown name hname
      · rw [hlog]
        exact createsLoaded_append_of_kind hcreated (ne_subsystem_of_port hhw)

variable (pf reads) in
/-- A failed read leaves its subsystem known and not loaded until the end of the pass. -/
lemma known_not_loaded_of_failedRead {s : Pmd} (hne : idl.seqno ≠ s.idlSeqno) :
    ∃ new, (pmdReconfigure pf reads idl s).calls = s.calls ++ new ∧
      ∀ name rc, .readYamlFiles name rc ∈ new → rc ≠ 0 →
        name ∈ (pmdReconfigure pf reads idl s).ovsSubs.keys ∧
        loadedSince name (pmdReconfigure pf reads idl s).calls = false := by
  refine pmdReconfigure_rule (J := fun s' => ∃ new, s'.calls = s.calls ++ new ∧
    ∀ name rc, .readYamlFiles name rc ∈ new → rc ≠ 0 →
      name ∈ s'.ovsSubs.keys ∧ loadedSince name s'.calls = false) hne ?_ ?_ ?_ ?_
  · exact ⟨[], (List.append_nil _).symm, by simp⟩
  · rintro s' sub - hnew ⟨new, hcalls, hs'⟩
    refine ⟨new ++ loadCalls reads sub, by simp [hcalls], ?_⟩
    intro name rc hmem hrc
    rw [ovsSubs_loadSubsystem, Shash.keys_add, List.mem_append, calls_loadSubsystem,
      loadedSince_append_loadCalls]
    rcases List.mem_append.mp hmem with hold | hload
    · obtain ⟨hkeys, hl⟩ := hs' name rc hold hrc
      have hother : sub.name ≠ name := fun h => hnew (h ▸ hkeys)
      exact ⟨.inl hkeys, by rw [if_neg hother]; exact hl⟩
    · have hself : sub.name = name ∧ (reads sub).rc = rc := readYamlFiles_mem_loadCalls hload
      obtain ⟨rfl, rfl⟩ := hself
      exact ⟨.inr (by simp), by simpa using hrc⟩
  · rintro s' sub - intf - - - ⟨new, hcalls, hs'⟩
    obtain ⟨hardware, hhw, hlog, hsubs, -⟩ := ovsdbIfIntfCreate_frame pf s' intf sub.name
    refine ⟨new ++ .intfCreate sub.name intf.name :: hardware, by simp [hlog, hcalls], ?_⟩
    intro name rc hmem hrc
    have hold : .readYamlFiles name rc ∈ new := by
      rcases List.mem_append.mp hmem with hold | hcreate
      · exact hold
      rcases List.mem_cons.mp hcreate with h | h
      · exact absurd h (by simp)
      · exact absurd (hhw _ h) (by simp [Call.kind])
    rw [hsubs, hlog, loadedSince_append_cons sub.name intf.name (ne_subsystem_of_port hhw)]
    exact hs' name rc hold hrc
  · rintro s' intf - ⟨new, hcalls, hs'⟩
    obtain ⟨hardware, hhw, hlog, hsubs, -⟩ := modifyInterface_frame pf s' intf
    refine ⟨new ++ hardware, by simp [hlog, hcalls], ?_⟩
    intro name rc hmem hrc
    have hold : .readYamlFiles name rc ∈ new := by
      rcases List.mem_append.mp hmem with hold | hmodify
      · exact hold
      · exact absurd (hhw _ hmodify) (by simp [Call.kind])
    rw [hsubs, hlog, loadedSince_append_of_kind (ne_subsystem_of_port hhw)]
    exact hs' name rc hold hrc

lemma keys_ovsdbIfSubsysProcess {s : Pmd} {sub : OvsrecSubsystem} {name : String}
    (h : name ∈ s.ovsSubs.keys) : name ∈ (ovsdbIfSubsysProcess pf reads s sub).ovsSubs.keys := by
  refine ovsdbIfSubsysProcess_rule (J := fun s => name ∈ s.ovsSubs.keys) ?_ ?_ h
  · intro s _ hs
    rw [ovsSubs_loadSubsystem, Shash.keys_add]
    exact List.mem_append_left _ hs
  · intro s intf _ _ _ hs
    obtain ⟨_, _, _, hsubs, _⟩ := ovsdbIfIntfCreate_frame pf s intf sub.name
    rw [hsubs]
    exact hs

lemma mem_keys_ovsdbIfSubsysProcess (s : Pmd) (sub : OvsrecSubsystem) :
    sub.name ∈ (ovsdbIfSubsysProcess pf reads s sub).ovsSubs.keys := by
  by_cases hmem : sub.name ∈ s.ovsSubs.keys
  · exact keys_ovsdbIfSubsysProcess hmem
  · have hload : sub.name ∈ (loadSubsystem reads s sub).ovsSubs.keys := by simp
    rw [ovsdbIfSubsysProcess_of_not_mem hmem]
    split
    · exact hload
    · refine foldl_invariant (I := fun s : Pmd => sub.name ∈ s.ovsSubs.keys) ?_ hload
      intro s intf _ hs
      unfold createMissing
      split
      · obtain ⟨_, _, _, hsubs, _⟩ := ovsdbIfIntfCreate_frame pf s intf sub.name
        rw [hsubs]
        exact hs
      · exact hs

lemma known_pmdReconfigure {s : Pmd} (hne : idl.seqno ≠ s.idlSeqno) {sub : OvsrecSubsystem}
    (hsub : sub ∈ idl.replica.subsystems) :
    sub.name ∈ (pmdReconfigure pf reads idl s).ovsSubs.keys := by
  rw [pmdReconfigure_of_ne hne]
  refine foldl_invariant (I := fun s : Pmd => sub.name ∈ s.ovsSubs.keys) ?_ ?_
  · intro s intf _ hs
    obtain ⟨_, _, _, hsubs, _⟩ := modifyInterface_frame pf s intf
    rw [hsubs]
    exact hs
  · exact foldl_establishes (I := fun _ => True) (R := fun _ _ => True)
      (P := fun (sub : OvsrecSubsystem) (s : Pmd) => sub.name ∈ s.ovsSubs.keys)
      (List.pairwise_of_forall fun _ _ => trivial) (fun _ _ _ _ => trivial)
      (fun s sub _ _ => mem_keys_ovsdbIfSubsysProcess s sub)
      (fun _ _ _ _ _ _ _ hs => keys_ovsdbIfSubsysProcess hs) trivial sub hsub

variable (pf reads) in
/-- A subsystem that is not known before the pass is read in it: its name gets into the map,
and only a load puts it there. -/
lemma readYamlFiles_of_not_known {s : Pmd} (hne : idl.seqno ≠ s.idlSeqno)
    {sub : OvsrecSubsystem} (hsub : sub ∈ idl.replica.subsystems)
    (hnew : sub.name ∉ s.ovsSubs.keys) :
    ∃ new, (pmdReconfigure pf reads idl s).calls = s.calls ++ new ∧
      ∃ rc, .readYamlFiles sub.name rc ∈ new := by
  have hread : ∃ new, (pmdReconfigure pf reads idl s).calls = s.calls ++ new ∧
      (sub.name ∈ (pmdReconfigure pf reads idl s).ovsSubs.keys →
        ∃ rc, .readYamlFiles sub.name rc ∈ new) := by
    refine pmdReconfigure_rule (J := fun s' => ∃ new, s'.calls = s.calls ++ new ∧
      (sub.name ∈ s'.ovsSubs.keys → ∃ rc, .readYamlFiles sub.name rc ∈ new)) hne ?_ ?_ ?_ ?_
    · exact ⟨[], (List.append_nil _).symm, fun h => absurd (keys_afterDeletes h) hnew⟩
    · rintro s' other - - ⟨new, hcalls, hs'⟩
      refine ⟨new ++ loadCalls reads other, by simp [hcalls], fun h => ?_⟩
      rw [ovsSubs_loadSubsystem, Shash.keys_add, List.mem_append] at h
      rcases h with hold | hself
      · obtain ⟨rc, hrc⟩ := hs' hold
        exact ⟨rc, List.mem_append_left _ hrc⟩
      · rw [List.mem_singleton.mp hself]
        exact ⟨(reads other).rc, by simp [loadCalls]⟩
    · rintro s' other - intf - - - ⟨new, hcalls, hs'⟩
      obtain ⟨hardware, -, hlog, hsubs, -⟩ := ovsdbIfIntfCreate_frame pf s' intf other.name
      refine ⟨new ++ .intfCreate other.name intf.name :: hardware, by simp [hlog, hcalls], ?_⟩
      intro h
      rw [hsubs] at h
      obtain ⟨rc, hrc⟩ := hs' h
      exact ⟨rc, List.mem_append_left _ hrc⟩
    · rintro s' intf - ⟨new, hcalls, hs'⟩
      obtain ⟨hardware, -, hlog, hsubs, -⟩ := modifyInterface_frame pf s' intf
      refine ⟨new ++ hardware, by simp [hlog, hcalls], fun h => ?_⟩
      rw [hsubs] at h
      obtain ⟨rc, hrc⟩ := hs' h
      exact ⟨rc, List.mem_append_left _ hrc⟩
  obtain ⟨new, hcalls, h⟩ := hread
  exact ⟨new, hcalls, h (known_pmdReconfigure hne hsub)⟩

/-- One pass keeps the promises exactly when no read of the pass fails. -/
lemma loadsBeforeUse_iff {s : Pmd} (hk : KnownLoaded s) (hc : CreatesLoaded s.calls) :
    LoadsBeforeUse idl s (pmdReconfigure pf reads idl s) ↔
      ∀ name rc, .readYamlFiles name rc ∈ newCalls s (pmdReconfigure pf reads idl s) → rc = 0 := by
  by_cases he : idl.seqno = s.idlSeqno
  · rw [pmdReconfigure_of_eq he]
    have hnone : newCalls s s = [] := newCalls_eq (List.append_nil _).symm
    rw [hnone]
    refine ⟨fun _ name rc h => absurd h List.not_mem_nil, fun _ => ⟨hk, hc, fun hne => ?_⟩⟩
    exact absurd he hne
  constructor
  · intro h name rc hmem
    by_contra hrc
    obtain ⟨new, hcalls, hbad⟩ := known_not_loaded_of_failedRead pf reads he
    rw [newCalls_eq hcalls] at hmem
    obtain ⟨hkeys, hl⟩ := hbad name rc hmem hrc
    rw [h.known name hkeys] at hl
    contradiction
  · intro h
    obtain ⟨new, hcalls, hor⟩ := known_or_failedRead pf reads hk hc he
    rw [newCalls_eq hcalls] at h
    rcases hor with ⟨name, rc, hmem, hrc⟩ | ⟨hknown, hcreated⟩
    · exact absurd (h name rc hmem) hrc
    · refine ⟨hknown, hcreated, fun _ sub hsub hl => ?_⟩
      have hnew : sub.name ∉ s.ovsSubs.keys := by
        intro hmem
        rw [hk sub.name hmem] at hl
        contradiction
      obtain ⟨new', hcalls', hread⟩ := readYamlFiles_of_not_known pf reads he hsub hnew
      rw [newCalls_eq hcalls']
      exact hread

end Pass

/-- Calls about other things change nothing in what is known. -/
lemma known_of_calls {s s' : Pmd} {new : List Call} (hk : KnownLoaded s)
    (hc : CreatesLoaded s.calls) (hsubs : s'.ovsSubs = s.ovsSubs)
    (hcalls : s'.calls = s.calls ++ new)
    (hnew : ∀ call ∈ new, call.kind ≠ .subsystem) :
    KnownLoaded s' ∧ CreatesLoaded s'.calls := by
  constructor
  · intro name hname
    rw [hsubs] at hname
    rw [hcalls, loadedSince_append_of_kind hnew]
    exact hk name hname
  · rw [hcalls]
    exact createsLoaded_append_of_kind hc hnew

section Runs

variable (pf : Platform)

def Loads (w : World) : Event → Prop
  | .reconfigure reads idl => LoadsBeforeUse idl w.pmd (pmdReconfigure pf reads idl w.pmd)
  | _ => True

/-- Every call of `pm_read_yaml_files` returns 0. -/
def ReadsSucceed (w : World) : Event → Prop
  | .reconfigure reads idl => ∀ name rc,
      .readYamlFiles name rc ∈ newCalls w.pmd (pmdReconfigure pf reads idl w.pmd) → rc = 0
  | _ => True

/-- A subsystem counts as known only once it is loaded, in exactly the runs in which every
read of the description files succeeds. -/
theorem loads_iff_readsSucceed (reads : YamlReads) (seqno : UInt32) (events : List Event) :
    Along (World.step pf) (Loads pf) (World.start pf reads seqno) events ↔
      Along (World.step pf) (ReadsSucceed pf) (World.start pf reads seqno) events := by
  refine along_congr_of_invariant
    (I := fun w => KnownLoaded w.pmd ∧ CreatesLoaded w.pmd.calls) ?_ ?_ ?_ (along_true _ events)
  · rintro w event ⟨hk, hc⟩ -
    cases event with
    | reconfigure reads idl => exact loadsBeforeUse_iff hk hc
    | readState hw => exact Iff.rfl
    | update committed => exact Iff.rfl
  · rintro w event ⟨hk, hc⟩ - h
    cases event with
    | reconfigure reads idl =>
      have h' : LoadsBeforeUse idl w.pmd (pmdReconfigure pf reads idl w.pmd) := h
      exact ⟨h'.known, h'.created⟩
    | readState hw =>
      have hscan : ∀ call ∈ scanCalls pf hw w.pmd, call.kind = .port :=
        fun call hcall => (quiet_scanCalls hcall).1
      exact known_of_calls hk hc rfl (calls_pmReadState pf hw w.pmd) (ne_subsystem_of_port hscan)
    | update committed =>
      refine known_of_calls hk hc rfl rfl fun call hcall => ?_
      rw [List.mem_singleton.mp hcall]
      simp [Call.kind]
  · constructor
    · intro name hname
      exact absurd hname (by simp [pmd_start])
    · rintro before sub inst after he
      exact absurd he (by simp [pmd_start])

end Runs

/-- A subsystem whose port files cannot be read. -/
def failingReads : YamlReads := fun _ => ⟨0, 0, -1, []⟩

/-- The subsystem is known after the pass, though its read failed. -/
theorem not_loads_failingReads : ¬ Along (World.step Switch.platform) (Loads Switch.platform)
    (World.start Switch.platform failingReads 0)
    [.reconfigure failingReads (Switch.idlOf (Switch.intf "1" 1 "true") 1)] := by
  rintro ⟨h, -⟩
  have hl := h.known "base" (by decide)
  contradiction

end OpsPmd
