import OpsPmd.Quiet
import OpsPmd.TxDisable

/-!
# The order of the rows

The IDL promises no order of its rows. A reconfiguration does the same in whatever order it
meets them: here the tables are taken as maps and the log is taken apart by interface, and
then what it does for different rows commutes.
-/

namespace OpsPmd

open Lib

/-- The tables as maps from names, and what has been done to the hardware for each interface. -/
structure Maps where
  intfs : String → Option PmPort
  subs : String → Option Uuid
  yaml : String → List YamlPort
  writes : String → List Call

/-- Replaces the record of an interface and adds to what has been done for it. -/
def Maps.put (m : Maps) (name : String) (port : PmPort) (calls : List Call) : Maps :=
  { m with
    intfs := Function.update m.intfs name (some port)
    writes := Function.update m.writes name (m.writes name ++ calls) }

/-- What the second part of a reconfiguration consists of. -/
inductive Build
  | load (sub : OvsrecSubsystem) (ports : List YamlPort)
  | create (subName : String) (intf : OvsrecInterface)

/-- The port of an interface that is to be created. -/
def Maps.missing (m : Maps) (subName inst : String) : Option YamlPort :=
  if (m.intfs inst).isSome then none
  else (pmGetYamlPort m.yaml subName inst).filter YamlPort.pluggable

/-- What a creation does to the hardware. -/
def hardwareCalls (pf : Platform) (intf : OvsrecInterface) (subName : String)
    (yamlPort : YamlPort) : List Call :=
  (pmConfigurePort pf (newPort pf intf subName yamlPort)).2 ++
    pmClearReset (createdPort pf intf subName yamlPort)

def Maps.build (pf : Platform) (m : Maps) : Build → Maps
  | .load sub ports =>
    { m with
      subs := Function.update m.subs sub.name (some sub.uuid)
      yaml := Function.update m.yaml sub.name ports }
  | .create subName intf =>
    match m.missing subName intf.name with
    | none => m
    | some yamlPort => m.put intf.name (createdPort pf intf subName yamlPort)
        (hardwareCalls pf intf subName yamlPort)

/-- What is to be built for a subsystem. -/
def buildsOf (reads : YamlReads) (known : Bool) (sub : OvsrecSubsystem) : List Build :=
  if known then sub.interfaces.map (.create sub.name)
  else if (reads sub).rc ≠ 0 then [.load sub (reads sub).ports]
  else .load sub (reads sub).ports :: sub.interfaces.map (.create sub.name)

def Maps.process (pf : Platform) (reads : YamlReads) (m : Maps) (sub : OvsrecSubsystem) : Maps :=
  (buildsOf reads (m.subs sub.name).isSome sub).foldl (Maps.build pf) m

def Maps.modify (pf : Platform) (m : Maps) (intf : OvsrecInterface) : Maps :=
  match m.intfs intf.name with
  | none => m
  | some port => m.put intf.name (ovsdbIfIntfModify pf intf port).1
      (ovsdbIfIntfModify pf intf port).2

/-- The loops of a reconfiguration behind the deletions. -/
def Maps.reconfigure (pf : Platform) (reads : YamlReads) (replica : Replica) (m : Maps) : Maps :=
  replica.interfaces.foldl (Maps.modify pf)
    (replica.subsystems.foldl (Maps.process pf reads) m)

lemma Maps.put_comm {a b : String} (h : a ≠ b) (m : Maps) (port port' : PmPort)
    (calls calls' : List Call) :
    (m.put a port calls).put b port' calls' = (m.put b port' calls').put a port calls := by
  unfold Maps.put
  simp only [Function.update_of_ne h, Function.update_of_ne h.symm, Function.update_comm h]

lemma Maps.missing_put {a b : String} (h : a ≠ b) (m : Maps) (port : PmPort) (calls : List Call)
    (subName : String) : (m.put a port calls).missing subName b = m.missing subName b := by
  unfold Maps.missing Maps.put
  simp only [Function.update_of_ne h.symm]

/-- They touch different entries. -/
def Apart : Build → Build → Prop
  | .load sub _, .load sub' _ => sub.name ≠ sub'.name
  | .load sub _, .create subName _ => sub.name ≠ subName
  | .create subName _, .load sub _ => sub.name ≠ subName
  | .create _ intf, .create _ intf' => intf.name ≠ intf'.name

section Commute

variable {pf : Platform}

lemma Maps.load_create_comm {sub : OvsrecSubsystem} {subName : String} (h : sub.name ≠ subName)
    (m : Maps) (ports : List YamlPort) (intf : OvsrecInterface) :
    (m.build pf (.load sub ports)).build pf (.create subName intf) =
      (m.build pf (.create subName intf)).build pf (.load sub ports) := by
  have hmissing : (m.build pf (.load sub ports)).missing subName intf.name =
      m.missing subName intf.name := by
    unfold Maps.missing Maps.build pmGetYamlPort
    simp only [Function.update_of_ne h.symm]
  unfold Maps.build at hmissing ⊢
  dsimp only at hmissing ⊢
  rw [hmissing]
  cases m.missing subName intf.name with
  | none => rfl
  | some yamlPort => rfl

lemma Maps.build_comm {a b : Build} (h : Apart a b) (m : Maps) :
    (m.build pf a).build pf b = (m.build pf b).build pf a := by
  cases a with
  | load sub ports =>
    cases b with
    | load sub' ports' =>
      have hne : sub.name ≠ sub'.name := h
      unfold Maps.build
      simp only [Function.update_comm hne]
    | create subName intf => exact Maps.load_create_comm h m ports intf
  | create subName intf =>
    cases b with
    | load sub ports => exact (Maps.load_create_comm h m ports intf).symm
    | create subName' intf' =>
      have hne : intf.name ≠ intf'.name := h
      unfold Maps.build
      dsimp only
      cases ha : m.missing subName intf.name with
      | none =>
        cases hb : m.missing subName' intf'.name with
        | none => simp only [ha]
        | some yamlPort => simp only [Maps.missing_put hne.symm, ha]
      | some yamlPort =>
        cases hb : m.missing subName' intf'.name with
        | none => simp only [Maps.missing_put hne, ha, hb]
        | some yamlPort' =>
          simp only [Maps.missing_put hne, Maps.missing_put hne.symm, ha, hb]
          exact Maps.put_comm hne m _ _ _ _

lemma Maps.modify_comm {a b : OvsrecInterface} (h : a.name ≠ b.name) (m : Maps) :
    (m.modify pf a).modify pf b = (m.modify pf b).modify pf a := by
  unfold Maps.modify
  cases ha : m.intfs a.name with
  | none =>
    cases hb : m.intfs b.name with
    | none => simp only [ha]
    | some port => simp only [Maps.put, Function.update_of_ne h, ha]
  | some port =>
    cases hb : m.intfs b.name with
    | none => simp only [Maps.put, Function.update_of_ne h.symm, ha, hb]
    | some port' =>
      have ha' : ∀ p calls, (m.put b.name p calls).intfs a.name = some port := by
        intro p calls
        exact (Function.update_of_ne h _ _).trans ha
      have hb' : ∀ p calls, (m.put a.name p calls).intfs b.name = some port' := by
        intro p calls
        exact (Function.update_of_ne h.symm _ _).trans hb
      simp only [ha', hb']
      exact Maps.put_comm h m _ _ _ _

end Commute

structure SameSubsystem (a b : OvsrecSubsystem) : Prop where
  uuid : a.uuid = b.uuid
  name : a.name = b.name
  hwDescDir : a.hwDescDir = b.hwDescDir
  interfaces : a.interfaces.Perm b.interfaces

/-- The same rows in another order, which may also be that of the interfaces of a subsystem. -/
structure SameRows (r r' : Replica) : Prop where
  interfaces : r.interfaces.Perm r'.interfaces
  subsystems : ∃ subs, r.subsystems.Perm subs ∧ List.Forall₂ SameSubsystem subs r'.subsystems

/-- The names are unique, and an interface is listed by one subsystem at most. -/
structure UniqueRows (r : Replica) : Prop where
  names : (r.interfaces.map OvsrecInterface.name).Nodup
  subNames : (r.subsystems.map OvsrecSubsystem.name).Nodup
  listed : ∀ sub ∈ r.subsystems, ∀ sub' ∈ r.subsystems, ∀ intf ∈ sub.interfaces,
    intf ∈ sub'.interfaces → sub = sub'

/-- Reading the files of a subsystem has an outcome that depends on nothing but the subsystem. -/
def SameReads (reads reads' : YamlReads) (r r' : Replica) : Prop :=
  ∀ sub ∈ r.subsystems, ∀ sub' ∈ r'.subsystems, SameSubsystem sub sub' → reads sub = reads' sub'

lemma UniqueRows.eq_of_name {r : Replica} (h : UniqueRows r) {a b : OvsrecInterface}
    (ha : a ∈ r.interfaces) (hb : b ∈ r.interfaces) (hname : a.name = b.name) : a = b :=
  List.inj_on_of_nodup_map h.names ha hb hname

lemma UniqueRows.subName_ne {r : Replica} (h : UniqueRows r) {sub sub' : OvsrecSubsystem}
    (hsub : sub ∈ r.subsystems) (hsub' : sub' ∈ r.subsystems) (hne : sub ≠ sub') :
    sub.name ≠ sub'.name := by
  intro hname
  exact hne (List.inj_on_of_nodup_map h.subNames hsub hsub' hname)

section Orders

variable {pf : Platform} {reads reads' : YamlReads} {r r' : Replica}

lemma mem_buildsOf {sub : OvsrecSubsystem} {known : Bool} {a : Build}
    (h : a ∈ buildsOf reads known sub) : a = .load sub (reads sub).ports ∨
      ∃ intf ∈ sub.interfaces, a = .create sub.name intf := by
  unfold buildsOf at h
  split at h
  · obtain ⟨intf, hintf, rfl⟩ := List.mem_map.mp h
    exact .inr ⟨intf, hintf, rfl⟩
  split at h
  · exact .inl (List.mem_singleton.mp h)
  · rcases List.mem_cons.mp h with rfl | h
    · exact .inl rfl
    · obtain ⟨intf, hintf, rfl⟩ := List.mem_map.mp h
      exact .inr ⟨intf, hintf, rfl⟩

/-- What is built for different subsystems touches different entries. -/
lemma apart_of_ne (h : UniqueRows r) {sub sub' : OvsrecSubsystem} (hsub : sub ∈ r.subsystems)
    (hsub' : sub' ∈ r.subsystems) (hne : sub ≠ sub') {known known' : Bool} {a b : Build}
    (ha : a ∈ buildsOf reads known sub) (hb : b ∈ buildsOf reads known' sub') : Apart a b := by
  have hname := h.subName_ne hsub hsub' hne
  rcases mem_buildsOf ha with rfl | ⟨intf, hintf, rfl⟩
  · rcases mem_buildsOf hb with rfl | ⟨intf', hintf', rfl⟩
    · exact hname
    · exact hname
  · rcases mem_buildsOf hb with rfl | ⟨intf', hintf', rfl⟩
    · exact hname.symm
    · intro he
      have hmem := r.mem_interfaces sub hsub intf hintf
      have hmem' := r.mem_interfaces sub' hsub' intf' hintf'
      have hsame := h.eq_of_name hmem hmem' he
      exact hne (h.listed sub hsub sub' hsub' intf hintf (hsame ▸ hintf'))

/-- Building leaves the other subsystems as known as they are. -/
lemma Maps.subs_foldl_build {sub : OvsrecSubsystem} {name : String} (h : sub.name ≠ name)
    (known : Bool) (m : Maps) :
    ((buildsOf reads known sub).foldl (Maps.build pf) m).subs name = m.subs name := by
  have hcreate : ∀ m : Maps, ((sub.interfaces.map (.create sub.name)).foldl
      (Maps.build pf) m).subs = m.subs := by
    intro m
    refine foldl_invariant (I := fun m' : Maps => m'.subs = m.subs) ?_ rfl
    intro m' a ha hm'
    obtain ⟨intf, -, rfl⟩ := List.mem_map.mp ha
    unfold Maps.build
    dsimp only
    split
    · exact hm'
    · exact hm'
  unfold buildsOf
  split
  · rw [hcreate]
  split
  · exact Function.update_of_ne h.symm _ _
  · rw [List.foldl_cons, hcreate]
    exact Function.update_of_ne h.symm _ _

lemma Maps.process_comm (h : UniqueRows r) {sub sub' : OvsrecSubsystem}
    (hsub : sub ∈ r.subsystems) (hsub' : sub' ∈ r.subsystems) (m : Maps) :
    (m.process pf reads sub).process pf reads sub' =
      (m.process pf reads sub').process pf reads sub := by
  by_cases hne : sub = sub'
  · rw [hne]
  have hname := h.subName_ne hsub hsub' hne
  unfold Maps.process
  rw [Maps.subs_foldl_build hname, Maps.subs_foldl_build hname.symm]
  apply foldl_foldl_comm
  intro m a ha b hb
  exact Maps.build_comm (apart_of_ne h hsub hsub' hne ha hb) m

lemma Maps.process_congr (h : UniqueRows r) {sub sub' : OvsrecSubsystem}
    (hsub : sub ∈ r.subsystems) (hsame : SameSubsystem sub sub')
    (hreads : reads sub = reads' sub') (m : Maps) :
    m.process pf reads sub = m.process pf reads' sub' := by
  have hcreate : ∀ m : Maps, (sub.interfaces.map (.create sub.name)).foldl (Maps.build pf) m =
      (sub'.interfaces.map (.create sub'.name)).foldl (Maps.build pf) m := by
    intro m
    rw [← hsame.name]
    apply (hsame.interfaces.map _).foldl_eq'
    intro a ha b hb m
    obtain ⟨intf, hintf, rfl⟩ := List.mem_map.mp ha
    obtain ⟨intf', hintf', rfl⟩ := List.mem_map.mp hb
    by_cases hne : intf = intf'
    · rw [hne]
    · apply Maps.build_comm
      intro hname
      exact hne (h.eq_of_name (r.mem_interfaces sub hsub intf hintf)
        (r.mem_interfaces sub hsub intf' hintf') hname)
  have hload : ∀ m : Maps, m.build pf (.load sub (reads sub).ports) =
      m.build pf (.load sub' (reads' sub').ports) := by
    intro m
    unfold Maps.build
    dsimp only
    rw [hsame.name, hsame.uuid, hreads]
  unfold Maps.process buildsOf
  rw [← hsame.name, ← hreads]
  split
  · rw [hcreate, hsame.name]
  split
  · rw [List.foldl_cons, List.foldl_cons, hload, hreads]
  · rw [List.foldl_cons, List.foldl_cons, hload, hcreate, hsame.name, hreads]

/-- The maps come out the same for both orders of the rows. -/
theorem Maps.reconfigure_congr (h : UniqueRows r) (hrows : SameRows r r')
    (hreads : SameReads reads reads' r r') (m : Maps) :
    m.reconfigure pf reads r = m.reconfigure pf reads' r' := by
  obtain ⟨subs, hperm, hsame⟩ := hrows.subsystems
  have hprocess : r.subsystems.foldl (Maps.process pf reads) m =
      r'.subsystems.foldl (Maps.process pf reads') m := by
    have heach : List.Forall₂
        (fun sub sub' => ∀ m : Maps, m.process pf reads sub = m.process pf reads' sub')
        subs r'.subsystems := by
      obtain ⟨hlength, hzip⟩ := List.forall₂_iff_zip.mp hsame
      apply List.forall₂_iff_zip.mpr
      refine ⟨hlength, fun {sub sub'} hmem m => ?_⟩
      obtain ⟨hsub, hsub'⟩ := List.of_mem_zip hmem
      have hmem' : sub ∈ r.subsystems := hperm.mem_iff.mpr hsub
      exact Maps.process_congr h hmem' (hzip hmem) (hreads sub hmem' sub' hsub' (hzip hmem)) m
    calc r.subsystems.foldl (Maps.process pf reads) m
      _ = subs.foldl (Maps.process pf reads) m :=
        hperm.foldl_eq' (fun sub hsub sub' hsub' m => Maps.process_comm h hsub hsub' m) m
      _ = r'.subsystems.foldl (Maps.process pf reads') m := by
        apply List.rel_foldl (P := Eq) _ rfl heach
        rintro m _ rfl sub sub' hsub
        exact hsub m
  unfold Maps.reconfigure
  rw [hprocess]
  apply hrows.interfaces.foldl_eq'
  intro intf hintf intf' hintf' m
  by_cases hne : intf = intf'
  · rw [hne]
  · apply Maps.modify_comm
    intro hname
    exact hne (h.eq_of_name hintf hintf' hname)

end Orders

/-! ## The loops act on the maps -/

/-- What has been written for an interface has gone to the register of its record. -/
def Maps.Owned (m : Maps) : Prop :=
  ∀ name subsystem op, WritesRegister subsystem op (m.writes name) →
    ∃ port, m.intfs name = some port ∧ port.subsystem = subsystem ∧
      port.moduleDevice.writtenOp = some op

/-- The maps show the state, and what the calls since `s` have left in a register to which
nothing has been written for other interfaces. -/
structure Mirrors (s s' : Pmd) (m : Maps) : Prop where
  intfs : s'.ovsIntfs.find = m.intfs
  subs : s'.ovsSubs.find = m.subs
  yaml : s'.yaml = m.yaml
  owned : m.Owned
  calls : ∃ new, s'.calls = s.calls ++ new ∧ ∀ subsystem op name,
    (∀ other, other ≠ name → ¬WritesRegister subsystem op (m.writes other)) →
    lastTxDisable subsystem op new = lastTxDisable subsystem op (m.writes name)

lemma Maps.owned_put {m : Maps} (h : m.Owned) {name : String} {port : PmPort} {calls : List Call}
    (hold : ∀ old, m.intfs name = some old →
      old.subsystem = port.subsystem ∧ old.moduleDevice = port.moduleDevice)
    (hcalls : ∀ subsystem op, WritesRegister subsystem op calls →
      port.subsystem = subsystem ∧ port.moduleDevice.writtenOp = some op) :
    (m.put name port calls).Owned := by
  intro name' subsystem op hwrites
  unfold Maps.put at hwrites ⊢
  by_cases hname : name' = name
  · subst hname
    simp only [Function.update_self] at hwrites ⊢
    refine ⟨port, rfl, ?_⟩
    rcases hwrites.append with hbefore | hnew
    · obtain ⟨old, hfind, hsub, hop⟩ := h name' subsystem op hbefore
      obtain ⟨hsub', hdev⟩ := hold old hfind
      rw [← hdev, ← hsub']
      exact ⟨hsub, hop⟩
    · exact hcalls subsystem op hnew
  · simp only [Function.update_of_ne hname] at hwrites ⊢
    exact h name' subsystem op hwrites

/-- Of the calls of a creation only those to the hardware write to a register. -/
lemma lastTxDisable_createCalls (pf : Platform) (intf : OvsrecInterface) (subName : String)
    (yamlPort : YamlPort) (subsystem : String) (op : BitOp) :
    lastTxDisable subsystem op (createCalls pf intf subName yamlPort) =
      lastTxDisable subsystem op (hardwareCalls pf intf subName yamlPort) := by
  have hmark : lastTxDisable subsystem op [.intfCreate subName intf.name] = none := rfl
  have hsplit : createCalls pf intf subName yamlPort =
      [.intfCreate subName intf.name] ++ hardwareCalls pf intf subName yamlPort := rfl
  rw [hsplit]
  exact lastWrite_append_of_eq_none hmark

section Mirrors

variable {pf : Platform} {reads : YamlReads} {s s' s'' : Pmd} {m m' : Maps}

lemma mirrors_silent (h : Mirrors s s' m) (new : List Call) (hintfs : m'.intfs = m.intfs)
    (hwrites : m'.writes = m.writes) (htable : s''.ovsIntfs = s'.ovsIntfs)
    (hsubs : s''.ovsSubs.find = m'.subs) (hyaml : s''.yaml = m'.yaml)
    (hcalls : s''.calls = s'.calls ++ new)
    (hsilent : ∀ subsystem op, ¬WritesRegister subsystem op new) : Mirrors s s'' m' := by
  obtain ⟨old, hold, hlast⟩ := h.calls
  refine ⟨by rw [htable, h.intfs, hintfs], hsubs, hyaml, ?_, old ++ new, ?_, ?_⟩
  · unfold Maps.Owned
    rw [hwrites, hintfs]
    exact h.owned
  · rw [hcalls, hold, List.append_assoc]
  · intro subsystem op name
    rw [hwrites, lastTxDisable_append (hsilent subsystem op)]
    exact hlast subsystem op name

lemma mirrors_put (h : Mirrors s s' m) {name : String} {port : PmPort} {calls : List Call}
    (new : List Call)
    (hold : ∀ old, m.intfs name = some old →
      old.subsystem = port.subsystem ∧ old.moduleDevice = port.moduleDevice)
    (howned : ∀ subsystem op, WritesRegister subsystem op calls →
      port.subsystem = subsystem ∧ port.moduleDevice.writtenOp = some op)
    (hintfs : s''.ovsIntfs.find = Function.update s'.ovsIntfs.find name (some port))
    (hsubs : s''.ovsSubs = s'.ovsSubs) (hyaml : s''.yaml = s'.yaml)
    (hcalls : s''.calls = s'.calls ++ new)
    (hlast : ∀ subsystem op,
      lastTxDisable subsystem op new = lastTxDisable subsystem op calls) :
    Mirrors s s'' (m.put name port calls) := by
  obtain ⟨old, hs', hwritten⟩ := h.calls
  refine ⟨by rw [hintfs, h.intfs]; rfl, by rw [hsubs, h.subs]; rfl, by rw [hyaml, h.yaml]; rfl,
    Maps.owned_put h.owned hold howned, old ++ new, by rw [hcalls, hs', List.append_assoc], ?_⟩
  intro subsystem op name' hothers
  have happend : lastTxDisable subsystem op (old ++ new) =
      (lastTxDisable subsystem op calls).or (lastTxDisable subsystem op old) := by
    rw [← hlast]
    exact lastWrite_append old new
  have hothers' : ∀ other, other ≠ name' → ¬WritesRegister subsystem op (m.writes other) := by
    intro other hother hwrites
    apply hothers other hother
    unfold Maps.put
    by_cases hname : other = name
    · subst hname
      exact hwrites.mono fun call hcall => by simp [hcall]
    · exact hwrites.mono fun call hcall => by simpa [Function.update_of_ne hname] using hcall
  rw [happend, hwritten subsystem op name' hothers']
  by_cases hname : name' = name
  · subst hname
    have hself : (m.put name' port calls).writes name' = m.writes name' ++ calls :=
      Function.update_self _ _ _
    rw [hself]
    exact (lastWrite_append (m.writes name') calls).symm
  · have hself : (m.put name port calls).writes name = m.writes name ++ calls :=
      Function.update_self _ _ _
    have hsilent : ¬WritesRegister subsystem op calls := by
      intro hwrites
      apply hothers name (Ne.symm hname)
      rw [hself]
      exact hwrites.mono fun call hcall => List.mem_append_right _ hcall
    have hother : (m.put name port calls).writes name' = m.writes name' :=
      Function.update_of_ne hname _ _
    rw [lastTxDisable_eq_none hsilent, Option.none_or, hother]

lemma mirrors_build_create (h : Mirrors s s' m) (subName : String) (intf : OvsrecInterface) :
    Mirrors s (createMissing pf subName s' intf) (m.build pf (.create subName intf)) := by
  unfold createMissing Maps.build
  dsimp only
  cases hf : s'.ovsIntfs.find intf.name with
  | some port =>
    have hm : m.intfs intf.name = some port := h.intfs ▸ hf
    have hmissing : m.missing subName intf.name = none := by simp [Maps.missing, hm]
    rw [hmissing]
    exact h
  | none =>
    have hm : m.intfs intf.name = none := h.intfs ▸ hf
    have hmissing : m.missing subName intf.name =
        (pmGetYamlPort s'.yaml subName intf.name).filter YamlPort.pluggable := by
      simp [Maps.missing, hm, h.yaml]
    rw [hmissing]
    dsimp only
    rcases ovsdbIfIntfCreate_cases pf s' intf subName with ⟨yamlPort, hg, hp, he⟩ | ⟨hnot, he⟩
    · have hport : (pmGetYamlPort s'.yaml subName intf.name).filter YamlPort.pluggable =
          some yamlPort := by simp [hg, hp]
      rw [hport, he]
      apply mirrors_put h (createCalls pf intf subName yamlPort)
      · intro old hold
        rw [hm] at hold
        contradiction
      · intro subsystem op hwrites
        obtain ⟨hsub, hop⟩ := writesRegister_created hwrites
        rw [subsystem_createdPort, moduleDevice_createdPort]
        exact ⟨hsub.symm, hop⟩
      · exact Shash.find_add (Shash.find_eq_none_iff.mp hf) _
      · rfl
      · rfl
      · rfl
      · exact lastTxDisable_createCalls pf intf subName yamlPort
    · have hport : (pmGetYamlPort s'.yaml subName intf.name).filter YamlPort.pluggable = none := by
        cases hg : pmGetYamlPort s'.yaml subName intf.name with
        | none => rfl
        | some yamlPort => simp [hnot yamlPort hg]
      rw [hport, he]
      have hsilent : ∀ subsystem op,
          ¬WritesRegister subsystem op [.intfCreate subName intf.name] :=
        fun subsystem op => not_writesRegister (by simp [Call.isWrite])
      exact mirrors_silent h _ rfl rfl rfl h.subs h.yaml rfl hsilent

lemma mirrors_build_load (h : Mirrors s s' m) {sub : OvsrecSubsystem}
    (hnew : sub.name ∉ s'.ovsSubs.keys) :
    Mirrors s (loadSubsystem reads s' sub) (m.build pf (.load sub (reads sub).ports)) := by
  have hsubs : (loadSubsystem reads s' sub).ovsSubs.find =
      (m.build pf (.load sub (reads sub).ports)).subs := by
    rw [ovsSubs_loadSubsystem, Shash.find_add hnew, h.subs]
    rfl
  have hyaml : (loadSubsystem reads s' sub).yaml =
      (m.build pf (.load sub (reads sub).ports)).yaml := by
    rw [yaml_loadSubsystem, h.yaml]
    rfl
  have hsilent : ∀ subsystem op, ¬WritesRegister subsystem op (loadCalls reads sub) := by
    rintro subsystem op ⟨inst, signal, data, hmem⟩
    exact absurd (kind_loadCalls hmem) (by simp [Call.kind])
  exact mirrors_silent h _ rfl rfl rfl hsubs hyaml (calls_loadSubsystem reads s' sub) hsilent

lemma mirrors_process (h : Mirrors s s' m) (sub : OvsrecSubsystem) :
    Mirrors s (ovsdbIfSubsysProcess pf reads s' sub) (m.process pf reads sub) := by
  have hcreate : ∀ {s' : Pmd} {m : Maps}, Mirrors s s' m →
      Mirrors s (sub.interfaces.foldl (createMissing pf sub.name) s')
        ((sub.interfaces.map (.create sub.name)).foldl (Maps.build pf) m) := by
    intro s' m h
    rw [List.foldl_map]
    apply List.foldl_rel h
    intro intf _ s' m h
    exact mirrors_build_create h sub.name intf
  unfold Maps.process buildsOf
  by_cases hmem : sub.name ∈ s'.ovsSubs.keys
  · obtain ⟨uuid, hf⟩ := Shash.exists_find_of_mem_keys hmem
    have hknown : (m.subs sub.name).isSome = true := by
      rw [← h.subs, hf]
      rfl
    rw [ovsdbIfSubsysProcess_of_mem hmem, hknown, if_pos rfl]
    exact hcreate h
  · have hknown : (m.subs sub.name).isSome = false := by
      rw [← h.subs, Shash.find_eq_none_iff.mpr hmem]
      rfl
    have hload : Mirrors s (loadSubsystem reads s' sub)
        (m.build pf (.load sub (reads sub).ports)) := mirrors_build_load h hmem
    rw [ovsdbIfSubsysProcess_of_not_mem hmem, hknown, if_neg Bool.false_ne_true]
    split
    · exact hload
    · exact hcreate hload

lemma mirrors_modify (h : Mirrors s s' m) (intf : OvsrecInterface) :
    Mirrors s (modifyInterface pf s' intf) (m.modify pf intf) := by
  unfold modifyInterface Maps.modify
  rw [← h.intfs]
  cases hf : s'.ovsIntfs.find intf.name with
  | none => exact h
  | some port =>
    obtain ⟨enable, hport⟩ := ovsdbIfIntfModify_port pf intf port
    apply mirrors_put h (ovsdbIfIntfModify pf intf port).2
    · intro old hold
      rw [← h.intfs, hf] at hold
      obtain rfl := Option.some.inj hold
      rw [hport]
      exact ⟨rfl, rfl⟩
    · intro subsystem op hwrites
      obtain ⟨hsub, hop⟩ := writesRegister_ovsdbIfIntfModify hwrites
      rw [hport]
      exact ⟨hsub.symm, hop⟩
    · exact Shash.find_set (Shash.mem_keys_of_mem (Shash.mem_of_find_eq_some hf)) _
    · rfl
    · rfl
    · rfl
    · intro subsystem op
      rfl

/-- The maps at the end of the deletions, with nothing written yet. -/
def Maps.after (idl : Idl) (s : Pmd) : Maps where
  intfs := (afterDeletes idl s).ovsIntfs.find
  subs := (afterDeletes idl s).ovsSubs.find
  yaml := s.yaml
  writes := fun _ => []

lemma mirrors_pmdReconfigure {idl : Idl} (hne : idl.seqno ≠ s.idlSeqno) :
    Mirrors s (pmdReconfigure pf reads idl s)
      ((Maps.after idl s).reconfigure pf reads idl.replica) := by
  have hstart : Mirrors s (afterDeletes idl s) (Maps.after idl s) := by
    refine ⟨rfl, rfl, rfl, ?_, [], (List.append_nil _).symm, fun _ _ _ _ => rfl⟩
    rintro name subsystem op ⟨inst, signal, data, hmem⟩
    exact absurd hmem List.not_mem_nil
  rw [pmdReconfigure_of_ne hne]
  unfold Maps.reconfigure
  apply List.foldl_rel
  · apply List.foldl_rel hstart
    intro sub _ s' m h
    exact mirrors_process h sub
  · intro intf _ s' m h
    exact mirrors_modify h intf

end Mirrors

/-! ## Two runs -/

structure SameTables (s s' : Pmd) : Prop where
  subs : s.ovsSubs.Perm s'.ovsSubs
  intfs : s.ovsIntfs.Perm s'.ovsIntfs

/-- The value written last to the transmitter of a port is the same. -/
def SameTxDisable (s s' : Pmd) (port : PmPort) : Prop :=
  ∀ op, port.moduleDevice.sfppTxDisable = some op →
    lastTxDisable port.subsystem op s.calls = lastTxDisable port.subsystem op s'.calls

/-- No other port in the table has the register, as that of its transmitter or of its reset. -/
def OwnsTxDisable (s : Pmd) (name : String) (port : PmPort) : Prop :=
  ∀ name' port', (name', port') ∈ s.ovsIntfs → name' ≠ name →
    port'.subsystem = port.subsystem →
    port'.moduleDevice.writtenOp ≠ port.moduleDevice.sfppTxDisable

lemma SameRows.any_interface {r r' : Replica} (h : SameRows r r') (uuid : Uuid) :
    r.interfaces.any (fun intf => intf.uuid = uuid) =
      r'.interfaces.any (fun intf => intf.uuid = uuid) := h.interfaces.any_eq

lemma SameRows.any_subsystem {r r' : Replica} (h : SameRows r r') (uuid : Uuid) :
    r.subsystems.any (fun sub => sub.uuid = uuid) =
      r'.subsystems.any (fun sub => sub.uuid = uuid) := by
  obtain ⟨subs, hperm, hsame⟩ := h.subsystems
  rw [hperm.any_eq]
  generalize r'.subsystems = subs' at hsame
  clear hperm
  induction hsame with
  | nil => rfl
  | cons hfirst _ ih => rw [List.any_cons, List.any_cons, hfirst.uuid, ih]

lemma Maps.after_congr {idl idl' : Idl} (h : SameRows idl.replica idl'.replica) (s : Pmd) :
    Maps.after idl s = Maps.after idl' s := by
  have hintfs : (afterDeletes idl s).ovsIntfs = (afterDeletes idl' s).ovsIntfs := by
    unfold afterDeletes deleteSubsystems deleteInterfaces
    dsimp only
    simp only [h.any_interface]
  have hsubs : (afterDeletes idl s).ovsSubs = (afterDeletes idl' s).ovsSubs := by
    unfold afterDeletes deleteSubsystems deleteInterfaces
    dsimp only
    simp only [h.any_subsystem]
  unfold Maps.after
  rw [hintfs, hsubs]

lemma nodup_keys_pmdReconfigure (pf : Platform) (reads : YamlReads) (idl : Idl) {s : Pmd}
    (h : s.ovsIntfs.keys.Nodup) : (pmdReconfigure pf reads idl s).ovsIntfs.keys.Nodup := by
  have hrecords := records_pmdReconfigure pf reads idl (P := fun _ _ => True) h
    (fun _ _ _ => trivial) (fun _ _ _ _ _ => trivial) (fun _ _ _ _ _ => trivial)
  exact hrecords.1

lemma nodup_keys_run (pf : Platform) (reads : YamlReads) (seqno : UInt32) (events : List Event) :
    (run (World.step pf) (World.start pf reads seqno) events).pmd.ovsIntfs.keys.Nodup ∧
      (run (World.step pf) (World.start pf reads seqno) events).pmd.ovsSubs.keys.Nodup := by
  apply run_invariant
    (I := fun w : World => w.pmd.ovsIntfs.keys.Nodup ∧ w.pmd.ovsSubs.keys.Nodup)
  · rintro w event ⟨hintfs, hsubs⟩
    refine ⟨?_, nodup_step hsubs⟩
    cases event with
    | reconfigure reads idl => exact nodup_keys_pmdReconfigure pf reads idl hintfs
    | readState hw =>
      have hkeys := keys_pmReadState pf hw w.pmd
      exact hkeys.symm ▸ hintfs
    | update committed =>
      have hkeys := keys_pmOvsdbUpdate w.idl.replica committed w.pmd
      exact hkeys.symm ▸ hintfs
  · exact ⟨List.nodup_nil, List.nodup_nil⟩

/-- From every state that the daemon reaches, two reconfigurations that meet the same rows in
two orders end with the same tables, and with the same value in each transmitter register that
only one port of the table has. -/
theorem sameTables_of_sameRows (pf : Platform) (reads₀ : YamlReads) (seqno : UInt32)
    (events : List Event) {s : Pmd}
    (hs : s = (run (World.step pf) (World.start pf reads₀ seqno) events).pmd)
    {reads reads' : YamlReads} {idl idl' : Idl} (hunique : UniqueRows idl.replica)
    (hrows : SameRows idl.replica idl'.replica) (hseqno : idl.seqno = idl'.seqno)
    (hreads : SameReads reads reads' idl.replica idl'.replica) :
    SameTables (pmdReconfigure pf reads idl s) (pmdReconfigure pf reads' idl' s) ∧
      ∀ name port, (name, port) ∈ (pmdReconfigure pf reads idl s).ovsIntfs →
        port.moduleDevice.hasConnector connectorSfpPlus = true →
        OwnsTxDisable (pmdReconfigure pf reads idl s) name port →
        SameTxDisable (pmdReconfigure pf reads idl s) (pmdReconfigure pf reads' idl' s) port := by
  by_cases he : idl.seqno = s.idlSeqno
  · rw [pmdReconfigure_of_eq he, pmdReconfigure_of_eq (hseqno.symm.trans he)]
    exact ⟨⟨List.Perm.refl _, List.Perm.refl _⟩, fun _ _ _ _ _ _ _ => rfl⟩
  have he' : idl'.seqno ≠ s.idlSeqno := fun h => he (hseqno.trans h)
  obtain ⟨hintfs, hsubs⟩ : s.ovsIntfs.keys.Nodup ∧ s.ovsSubs.keys.Nodup := by
    rw [hs]
    exact nodup_keys_run pf reads₀ seqno events
  have hfirst : Mirrors s (pmdReconfigure pf reads idl s)
      ((Maps.after idl s).reconfigure pf reads idl.replica) := mirrors_pmdReconfigure he
  have hsecond : Mirrors s (pmdReconfigure pf reads' idl' s)
      ((Maps.after idl' s).reconfigure pf reads' idl'.replica) := mirrors_pmdReconfigure he'
  rw [← Maps.after_congr hrows, ← Maps.reconfigure_congr hunique hrows hreads] at hsecond
  have htable := nodup_keys_pmdReconfigure pf reads idl hintfs
  have htable' := nodup_keys_pmdReconfigure pf reads' idl' hintfs
  refine ⟨⟨?_, ?_⟩, ?_⟩
  · exact Shash.perm_of_find_eq (nodup_pmdReconfigure hsubs).1 (nodup_pmdReconfigure hsubs).1
      (hfirst.subs.trans hsecond.subs.symm)
  · exact Shash.perm_of_find_eq htable htable' (hfirst.intfs.trans hsecond.intfs.symm)
  · intro name port hmem hsfp howns op hop
    obtain ⟨new, hcalls, hlast⟩ := hfirst.calls
    obtain ⟨new', hcalls', hlast'⟩ := hsecond.calls
    have hother : ∀ other, other ≠ name → ¬WritesRegister port.subsystem op
        (((Maps.after idl s).reconfigure pf reads idl.replica).writes other) := by
      intro other hne hwrites
      obtain ⟨port', hfind, hsub, hop'⟩ := hfirst.owned other port.subsystem op hwrites
      have hmem' := (Shash.mem_iff_find htable).mpr ((congrFun hfirst.intfs other).trans hfind)
      exact howns other port' hmem' hne hsub (hop'.trans hop.symm)
    have hsame : lastTxDisable port.subsystem op new = lastTxDisable port.subsystem op new' :=
      (hlast _ _ name hother).trans (hlast' _ _ name hother).symm
    rw [hcalls, hcalls']
    unfold lastTxDisable at hsame ⊢
    rw [lastWrite_append, lastWrite_append, hsame]

namespace Switch

/-- A port with the transmitter register of port `2`. -/
def twinPort : YamlPort := { sfpPort with name := "4" }

def twinReads : YamlReads := fun _ => ⟨0, 0, 0, [sfpPort, twinPort]⟩

def twins (interfaces : List OvsrecInterface)
    (h : (interfaces.map OvsrecInterface.uuid).Nodup) : Replica where
  interfaces := interfaces
  subsystems := [base interfaces]
  daemons := []
  uuid_nodup := h
  mem_interfaces := by simp [base]

def firstTwins : Replica := twins [intf "2" 1 "true", intf "4" 2 "false"] (by decide)

def secondTwins : Replica := twins [intf "4" 2 "false", intf "2" 1 "true"] (by decide)

/-- The first pass of the daemon. -/
def twinPass (replica : Replica) : Pmd :=
  pmdReconfigure platform twinReads { replica := replica, seqno := 1 }
    (World.start platform reads 0).pmd

end Switch

lemma uniqueRows_firstTwins : UniqueRows Switch.firstTwins := by
  refine ⟨by decide, by decide, ?_⟩
  intro sub hsub sub' hsub' _ _ _
  rw [List.mem_singleton.mp hsub, List.mem_singleton.mp hsub']

lemma sameRows_twins : SameRows Switch.firstTwins Switch.secondTwins := by
  have hperm : Switch.firstTwins.interfaces.Perm Switch.secondTwins.interfaces :=
    List.Perm.swap _ _ _
  refine ⟨hperm, _, List.Perm.refl _, .cons ⟨rfl, rfl, rfl, hperm⟩ .nil⟩

/-- Two ports with one register, and the two orders of their rows. -/
theorem sameTables_of_sameRows_twins :
    SameTables (Switch.twinPass Switch.firstTwins) (Switch.twinPass Switch.secondTwins) ∧
      ∀ name port, (name, port) ∈ (Switch.twinPass Switch.firstTwins).ovsIntfs →
        port.moduleDevice.hasConnector connectorSfpPlus = true →
        OwnsTxDisable (Switch.twinPass Switch.firstTwins) name port →
        SameTxDisable (Switch.twinPass Switch.firstTwins) (Switch.twinPass Switch.secondTwins)
          port :=
  sameTables_of_sameRows Switch.platform Switch.reads 0 [] rfl uniqueRows_firstTwins
    sameRows_twins rfl fun _ _ _ _ _ => rfl

/-- The row that is met last decides what a register of two ports holds. -/
theorem not_sameTxDisable_twins :
    (UniqueRows Switch.firstTwins ∧ SameRows Switch.firstTwins Switch.secondTwins ∧
      SameReads Switch.twinReads Switch.twinReads Switch.firstTwins Switch.secondTwins) ∧
    ¬∀ name port, (name, port) ∈ (Switch.twinPass Switch.firstTwins).ovsIntfs →
      port.moduleDevice.hasConnector connectorSfpPlus = true →
      SameTxDisable (Switch.twinPass Switch.firstTwins) (Switch.twinPass Switch.secondTwins)
        port := by
  refine ⟨⟨uniqueRows_firstTwins, sameRows_twins, fun _ _ _ _ _ => rfl⟩, fun h => ?_⟩
  have hsame := h "2" (createdPort Switch.platform (Switch.intf "2" 1 "true") "base" Switch.sfpPort)
    (Shash.mem_of_find_eq_some rfl) (by decide) (Switch.bitOp 0x20) rfl
  exact absurd hsame (by decide)

end OpsPmd
