import OpsPmd.Memory
import OpsPmd.Scan

/-!
# What the macro calls do to the memory

Each list of calls does to the record as a value what the function does that it stands for.
In memory it frees nothing twice and no constant, and leaves the record with the same
value, because every column is always written through the macros of its kind.
-/

namespace OpsPmd

open Lib OvsrecInterfacePmInfo

section Values

variable {fl : FloatArith}

/-- The calls one after the other, on the record as a value. -/
def applyAll (port : PmPort) (stmts : List (Stmt fl)) : PmPort := stmts.foldl Stmt.apply port

lemma applyAll_append (port : PmPort) (xs ys : List (Stmt fl)) :
    applyAll port (xs ++ ys) = applyAll (applyAll port xs) ys := List.foldl_append

lemma applyAll_deleteAllData (port : PmPort) :
    applyAll port (deleteAllDataScript fl) = pmDeleteAllData port := rfl

lemma applyAll_sfpPlusScript (port : PmPort) (page : Page) :
    applyAll port (sfpPlusScript fl page) = classifySfpPlus page port := by
  unfold sfpPlusScript classifySfpPlus
  repeat' split
  all_goals rfl

lemma applyAll_qsfpPlusScript (port : PmPort) (page : Page) :
    applyAll port (qsfpPlusScript fl page) = classifyQsfpPlus page port := by
  unfold qsfpPlusScript classifyQsfpPlus
  repeat' split
  all_goals rfl

lemma applyAll_qsfp28Script (port : PmPort) (page : Page) :
    applyAll port (qsfp28Script fl page) = classifyQsfp28 page port := by
  unfold qsfp28Script classifyQsfp28
  dsimp only
  repeat' split
  all_goals rfl

lemma applyAll_fillSfpPlusScript (port : PmPort) (page : Page) :
    applyAll port (fillSfpPlusScript fl page) = fillSfpPlus page port := rfl

lemma applyAll_fillQsfpScript (port : PmPort) (page : Page) :
    applyAll port (fillQsfpScript fl page) = fillQsfp page port := rfl

variable (fl) in
/-- The calls of the parser do what the parser does. -/
theorem parseScript_eq (port : PmPort) (page : Page) :
    pmParse page port = ((parseScript fl page port.moduleDevice).1,
      applyAll port (parseScript fl page port.moduleDevice).2.1,
      (parseScript fl page port.moduleDevice).2.2) := by
  unfold pmParse parseScript
  split
  · rfl
  split
  · rfl
  split
  · rw [applyAll_append, applyAll_deleteAllData]
    rfl
  dsimp only
  split
  · rw [applyAll_append, applyAll_sfpPlusScript, applyAll_fillSfpPlusScript]
  split
  · rw [applyAll_append, applyAll_qsfpPlusScript, applyAll_fillQsfpScript]
  · rw [applyAll_append, applyAll_qsfp28Script, applyAll_fillQsfpScript, fillQsfp28_eq]

lemma applyAll_a2RequestScript {port : PmPort} {device : YamlPort}
    (h : port.moduleDevice = device) (page : Page) :
    applyAll port (a2RequestScript fl device page) = setA2ReadRequest port page := by
  subst h
  unfold a2RequestScript requestsA2 setA2ReadRequest
  repeat' split
  all_goals rfl

end Values

/-- The calls of a scan do what the scan does. -/
theorem readModuleStateScript_eq (pf : Platform) (hw : ScanHw) (connector : Ptr Text)
    (port : PmPort) :
    applyAll port (readModuleStateScript pf hw connector port) =
      (pmReadModuleState pf hw port).port := by
  unfold readModuleStateScript
  cases hk : port.moduleDevice.isKnown with
  | false =>
    rw [pmReadModuleState_of_not_isKnown pf hw hk]
    rfl
  | true =>
    have hrc : (parseScript pf.float (pmReadA0 pf hw 0 port).1.data port.moduleDevice).1 =
        0 := by
      have hp := pmParse_rc hk (pmReadA0 pf hw 0 port).1.data
      rwa [parseScript_eq pf.float] at hp
    rw [pmReadModuleState_eq pf hw hk]
    unfold retryReadScript scanA2Script PmPort.unread
    simp only [Bool.and_false, Bool.or_true, Bool.false_eq_true, Bool.not_true, if_false, if_true,
      hrc]
    split
    · have hdev := moduleDevice_pmParse (pmReadA0 pf hw 0 port).1.data port
      unfold identified
      rw [parseScript_eq pf.float] at hdev ⊢
      rw [List.append_nil, applyAll_append, applyAll_append]
      refine (applyAll_a2RequestScript ?_ _).trans rfl
      exact hdev
    · rfl

section Disciplined

variable {fl : FloatArith}

/-- The macro is one of those for columns of this kind. -/
def Stmt.Disciplined : Stmt fl → Prop
  | .setStaticString field _ => field.isStatic = true
  | .delete field => field.isStatic = true
  | .setString field _ => field.isStatic = false
  | .setIntString field _ => field.isStatic = false
  | .setBinary field _ => field.isStatic = false
  | .deleteFree field => field.isStatic = false
  | _ => True

/-- All calls of a list fit their columns. -/
def Disciplined (stmts : List (Stmt fl)) : Prop := ∀ stmt ∈ stmts, stmt.Disciplined

lemma disciplined_append {xs ys : List (Stmt fl)} (hx : Disciplined xs) (hy : Disciplined ys) :
    Disciplined (xs ++ ys) := by
  intro stmt hmem
  rcases List.mem_append.mp hmem with h | h
  · exact hx stmt h
  · exact hy stmt h

lemma disciplined_deleteAllData : Disciplined (deleteAllDataScript fl) := by
  simp [Disciplined, deleteAllDataScript, Stmt.Disciplined, ModuleColumn.isStatic]

lemma disciplined_classifyScript (optical : Bool) (connector status : Text) (speed : Int) :
    Disciplined (classifyScript fl optical connector status speed) := by
  simp [Disciplined, classifyScript, Stmt.Disciplined, ModuleColumn.isStatic]

lemma disciplined_moduleScript (optical : Bool) (connector status : Text) (speed : Int) :
    Disciplined (moduleScript fl optical connector status speed) := by
  apply disciplined_append (disciplined_classifyScript optical connector status speed)
  simp [Disciplined, deleteCableScript, Stmt.Disciplined, ModuleColumn.isStatic]

lemma disciplined_sfpPlusScript (page : Page) : Disciplined (sfpPlusScript fl page) := by
  have hcopper : ∀ (speed : Int) (cableTech : Text) (length : Int), Disciplined
      (classifyScript fl false connectorSfpDac connectorStatusSupported speed ++
        [.setStaticString .cableTechnology cableTech, .setIntString .cableLength length]) := by
    intro speed cableTech length
    apply disciplined_append (disciplined_classifyScript _ _ _ _)
    simp [Disciplined, Stmt.Disciplined, ModuleColumn.isStatic]
  unfold sfpPlusScript
  dsimp only
  split
  · exact hcopper _ _ _
  repeat' split
  all_goals exact disciplined_moduleScript _ _ _ _

lemma disciplined_qsfpPlusScript (page : Page) : Disciplined (qsfpPlusScript fl page) := by
  unfold qsfpPlusScript
  dsimp only
  repeat' split
  all_goals exact disciplined_moduleScript _ _ _ _

lemma disciplined_qsfp28Script (page : Page) : Disciplined (qsfp28Script fl page) := by
  unfold qsfp28Script
  dsimp only
  repeat' split
  all_goals exact disciplined_moduleScript _ _ _ _

lemma disciplined_fillSfpPlusScript (page : Page) :
    Disciplined (fillSfpPlusScript fl page) := by
  simp [Disciplined, fillSfpPlusScript, Stmt.Disciplined, ModuleColumn.isStatic]

lemma disciplined_fillQsfpScript (page : Page) : Disciplined (fillQsfpScript fl page) := by
  simp [Disciplined, fillQsfpScript, Stmt.Disciplined, ModuleColumn.isStatic]

theorem disciplined_parseScript (page : Page) (device : YamlPort) :
    Disciplined (parseScript fl page device).2.1 := by
  have hconnector : ∀ value, Disciplined [(Stmt.setStaticString .connector value : Stmt fl)] := by
    intro value
    simp [Disciplined, Stmt.Disciplined, ModuleColumn.isStatic]
  unfold parseScript
  dsimp only
  repeat' split
  · simp [Disciplined]
  · simp [Disciplined]
  · exact disciplined_append disciplined_deleteAllData (hconnector _)
  · exact disciplined_append (disciplined_sfpPlusScript _) (disciplined_fillSfpPlusScript _)
  · exact disciplined_append (disciplined_qsfpPlusScript _) (disciplined_fillQsfpScript _)
  · exact disciplined_append (disciplined_qsfp28Script _) (disciplined_fillQsfpScript _)

lemma disciplined_a2RequestScript (device : YamlPort) (page : Page) :
    Disciplined (a2RequestScript fl device page) := by
  unfold a2RequestScript
  split
  · simp [Disciplined, Stmt.Disciplined]
  · simp [Disciplined]

end Disciplined

theorem disciplined_readModuleStateScript (pf : Platform) (hw : ScanHw) (connector : Ptr Text)
    (port : PmPort) : Disciplined (readModuleStateScript pf hw connector port) := by
  have hflags : ∀ flags : List (Flag × Bool),
      Disciplined (flags.map fun f => (Stmt.flag f.1 f.2 : Stmt pf.float)) := by
    intro flags stmt hmem
    obtain ⟨f, -, rfl⟩ := List.mem_map.mp hmem
    trivial
  have hnil : Disciplined ([] : List (Stmt pf.float)) := by simp [Disciplined]
  unfold readModuleStateScript
  split
  · exact hnil
  unfold retryReadScript scanA2Script
  simp only [Bool.and_false, Bool.or_true, Bool.false_eq_true, if_false, if_true, List.append_nil]
  split
  · split
    · apply disciplined_append _ (disciplined_a2RequestScript _ _)
      exact disciplined_append (disciplined_parseScript _ _)
        (hflags [(.present, true), (.retry, false)])
    · exact disciplined_append (disciplined_parseScript _ _) (hflags [(.retry, true)])
  · exact hnil

/-! ## The calls in memory -/

/-- The pointers that may be followed. Only the name of a record that has been freed dangles. -/
def Memory.inUse (m : Memory) : Set (ℕ × PortCell) :=
  {k | k.2 = .inst → m.ports.next ≤ k.1 ∨ (m.ports.block k.1).isSome}

/-- Every string has one pointer to it that may free it, and the addresses that have not been
given out have no pointers yet. -/
structure Memory.Sound (m : Memory) : Prop where
  owned : m.strings.Owned (fun k => k.2.Owner) m.inUse
  blank : ∀ a cell, m.ports.next ≤ a → m.strings.cell (a, cell) = .null

/-- The record at `a`, with all its strings, is `port`. -/
structure Memory.Holds (m : Memory) (a : ℕ) (port : PmPort) : Prop where
  fields : m.ports.block a = some port.fields
  inst : m.strings.read (a, .inst) = some (some port.inst.toList)
  subsystem : m.strings.read (a, .subsystem) = some (some port.subsystem.toList)
  column : ∀ field, m.strings.read (a, .column field) = some (port.ovsModuleColumns field)
  domColumn : ∀ field,
    m.strings.read (a, .domColumn field) = some (port.ovsModuleDomColumns field)

/-- `m'` differs from `m` in the record at `a` at most. -/
structure Memory.Apart (a : ℕ) (m m' : Memory) : Prop where
  block : ∀ b ≠ a, m'.ports.block b = m.ports.block b
  cell : ∀ b cell, b ≠ a → m'.strings.cell (b, cell) = m.strings.cell (b, cell)
  read : ∀ b cell, b ≠ a → (b, cell) ∈ m.inUse →
    m'.strings.read (b, cell) = m.strings.read (b, cell)

/-- In addition no record has been allocated or freed. -/
structure Memory.Frame (a : ℕ) (m m' : Memory) : Prop extends Memory.Apart a m m' where
  next : m'.ports.next = m.ports.next
  allocated : ∀ b, (m'.ports.block b).isSome = (m.ports.block b).isSome

namespace Memory

variable {m m' m'' : Memory} {a : ℕ} {port : PmPort}

lemma Frame.inUse (h : Frame a m m') : m'.inUse = m.inUse := by
  unfold Memory.inUse
  rw [h.next]
  simp only [h.allocated]

lemma Frame.refl (a : ℕ) (m : Memory) : Frame a m m :=
  ⟨⟨fun _ _ => rfl, fun _ _ _ => rfl, fun _ _ _ _ => rfl⟩, rfl, fun _ => rfl⟩

lemma Frame.trans (h : Frame a m m') (h' : Frame a m' m'') : Frame a m m'' where
  next := h'.next.trans h.next
  allocated := fun b => (h'.allocated b).trans (h.allocated b)
  block := fun b hb => (h'.block b hb).trans (h.block b hb)
  cell := fun b cell hb => (h'.cell b cell hb).trans (h.cell b cell hb)
  read := fun b cell hb hmem =>
    (h'.read b cell hb (h.inUse ▸ hmem)).trans (h.read b cell hb hmem)

lemma mem_inUse (h : Holds m a port) (cell : PortCell) : (a, cell) ∈ m.inUse := by
  intro _
  right
  rw [h.fields]
  rfl

/-- Records elsewhere stay what they are. -/
lemma Holds.of_apart {b : ℕ} {other : PmPort} (h : Holds m b other) (hapart : Apart a m m')
    (hne : b ≠ a) : Holds m' b other where
  fields := (hapart.block b hne).trans h.fields
  inst := (hapart.read b _ hne (mem_inUse h _)).trans h.inst
  subsystem := (hapart.read b _ hne (mem_inUse h _)).trans h.subsystem
  column := fun field => (hapart.read b _ hne (mem_inUse h _)).trans (h.column field)
  domColumn := fun field => (hapart.read b _ hne (mem_inUse h _)).trans (h.domColumn field)

/-- Assigning to fields that are no strings. -/
lemma exists_update (f : PortFields → PortFields) {port' : PmPort} (hs : Sound m)
    (h : Holds m a port) (hfields : f port.fields = port'.fields) (hinst : port'.inst = port.inst)
    (hsub : port'.subsystem = port.subsystem)
    (hcol : port'.ovsModuleColumns = port.ovsModuleColumns)
    (hdom : port'.ovsModuleDomColumns = port.ovsModuleDomColumns) :
    ∃ m', m.update a f = some m' ∧ Sound m' ∧ Holds m' a port' ∧ Frame a m m' := by
  obtain ⟨ports, hwrite, hblock, hnext⟩ := Heap.write_of_block h.fields (f port.fields)
  have hself : ports.block a = some port'.fields := by
    rw [hblock, Function.update_self, hfields]
  have hother : ∀ b ≠ a, ports.block b = m.ports.block b := by
    intro b hb
    rw [hblock, Function.update_of_ne hb]
  have hframe : Frame a m { m with ports := ports } := by
    refine ⟨⟨hother, fun _ _ _ => rfl, fun _ _ _ _ => rfl⟩, hnext, fun b => ?_⟩
    by_cases hb : b = a
    · rw [hb, h.fields]
      show (ports.block a).isSome = _
      rw [hself]
      rfl
    · exact congrArg Option.isSome (hother b hb)
  refine ⟨{ m with ports := ports }, ?_, ⟨?_, ?_⟩, ⟨hself, ?_, ?_, ?_, ?_⟩, hframe⟩
  · simp [Memory.update, h.fields, hwrite]
  · rw [hframe.inUse]
    exact hs.owned
  · intro b cell hb
    exact hs.blank b cell (hnext ▸ hb)
  · rw [hinst]
    exact h.inst
  · rw [hsub]
    exact h.subsystem
  · rw [hcol]
    exact h.column
  · rw [hdom]
    exact h.domColumn

/-- The strings after a pointer of the record at `a` has been given a new value. -/
abbrev SetsAt (m : Memory) (strings : Cells (ℕ × PortCell) Text) (a : ℕ) (cell : PortCell)
    (value : Option Text) : Prop :=
  Cells.Sets (fun k => k.2.Owner) m.inUse m.strings strings (a, cell) value

/-- What holds once a column has been assigned, before the change flag is raised. -/
lemma sound_of_sets {strings : Cells (ℕ × PortCell) Text} {cell : PortCell} {value : Option Text}
    (hs : Sound m) (h : Holds m a port) (hsets : SetsAt m strings a cell value) :
    Sound { m with strings := strings } ∧ Frame a m { m with strings := strings } := by
  have hlt : a < m.ports.next := Heap.lt_next_of_block h.fields
  have hne : ∀ {b cell'}, b ≠ a → ((b, cell') : ℕ × PortCell) ≠ (a, cell) := by
    rintro b cell' hb he
    exact hb (Prod.mk.inj he).1
  refine ⟨⟨hsets.owned, fun b cell' hb => ?_⟩, ⟨fun _ _ => rfl, ?_, ?_⟩, rfl, fun _ => rfl⟩
  · have hba : b ≠ a := by
      rintro rfl
      exact absurd hb (by simpa using hlt)
    show strings.cell (b, cell') = .null
    rw [hsets.cell _ (hne hba)]
    exact hs.blank b cell' hb
  · intro b cell' hb
    exact hsets.cell _ (hne hb)
  · intro b cell' hb hmem
    exact hsets.read _ hmem (hne hb)

lemma holds_setColumn {strings : Cells (ℕ × PortCell) Text} {field : ModuleColumn}
    {value : Option Text} (h : Holds m a port)
    (hsets : SetsAt m strings a (.column field) value) :
    Holds { m with strings := strings } a
      { port with ovsModuleColumns := Function.update port.ovsModuleColumns field value } := by
  have hread : ∀ cell ≠ PortCell.column field, strings.read (a, cell) = m.strings.read (a, cell) :=
    fun cell hne => hsets.read _ (mem_inUse h cell) fun he => hne (Prod.mk.inj he).2
  refine ⟨h.fields, (hread .inst nofun).trans h.inst,
    (hread .subsystem nofun).trans h.subsystem, ?_, ?_⟩
  · intro field'
    by_cases he : field' = field
    · subst he
      simp only [Function.update_self]
      exact hsets.self
    · simp only [Function.update_of_ne he]
      exact (hread _ fun hc => he (PortCell.column.inj hc)).trans (h.column field')
  · intro field'
    exact (hread (.domColumn field') nofun).trans (h.domColumn field')

lemma holds_setDomColumn {strings : Cells (ℕ × PortCell) Text} {field : DomColumn}
    {value : Option Text} (h : Holds m a port)
    (hsets : SetsAt m strings a (.domColumn field) value) :
    Holds { m with strings := strings } a
      { port with
        ovsModuleDomColumns := Function.update port.ovsModuleDomColumns field value } := by
  have hread : ∀ cell ≠ PortCell.domColumn field,
      strings.read (a, cell) = m.strings.read (a, cell) :=
    fun cell hne => hsets.read _ (mem_inUse h cell) fun he => hne (Prod.mk.inj he).2
  refine ⟨h.fields, (hread .inst nofun).trans h.inst,
    (hread .subsystem nofun).trans h.subsystem, ?_, ?_⟩
  · intro field'
    exact (hread (.column field') nofun).trans (h.column field')
  · intro field'
    by_cases he : field' = field
    · subst he
      simp only [Function.update_self]
      exact hsets.self
    · simp only [Function.update_of_ne he]
      exact (hread _ fun hc => he (PortCell.domColumn.inj hc)).trans (h.domColumn field')

/-- A column that has been assigned, with the change flag raised behind it. -/
lemma exists_touch_column {strings : Cells (ℕ × PortCell) Text} {field : ModuleColumn}
    {value : Option Text} (hs : Sound m) (h : Holds m a port)
    (hsets : SetsAt m strings a (.column field) value) :
    ∃ m', touch { m with strings := strings } a = some m' ∧ Sound m' ∧
      Holds m' a (port.setColumn field value) ∧ Frame a m m' := by
  obtain ⟨hs', hframe⟩ := sound_of_sets hs h hsets
  obtain ⟨m', htouch, hs'', hholds, hframe'⟩ :=
    exists_update (fun fields => { fields with moduleInfoChanged := true }) hs'
      (holds_setColumn h hsets) (show _ = (port.setColumn field value).fields from rfl)
      rfl rfl rfl rfl
  exact ⟨m', htouch, hs'', hholds, hframe.trans hframe'⟩

lemma exists_touch_domColumn {strings : Cells (ℕ × PortCell) Text} {field : DomColumn}
    {value : Option Text} (hs : Sound m) (h : Holds m a port)
    (hsets : SetsAt m strings a (.domColumn field) value) :
    ∃ m', touch { m with strings := strings } a = some m' ∧ Sound m' ∧
      Holds m' a (port.setDomColumn field value) ∧ Frame a m m' := by
  obtain ⟨hs', hframe⟩ := sound_of_sets hs h hsets
  obtain ⟨m', htouch, hs'', hholds, hframe'⟩ :=
    exists_update (fun fields => { fields with moduleInfoChanged := true }) hs'
      (holds_setDomColumn h hsets) (show _ = (port.setDomColumn field value).fields from rfl)
      rfl rfl rfl rfl
  exact ⟨m', htouch, hs'', hholds, hframe.trans hframe'⟩

lemma exists_setIf_column (hs : Sound m) (h : Holds m a port) {field : ModuleColumn}
    (hfield : field.isStatic = false) (test : Option Text → Bool) (value : Text) :
    ∃ m', m.setIf a (.column field) test value = some m' ∧ Sound m' ∧
      Holds m' a (if test (port.ovsModuleColumns field) then port.setColumn field (some value)
        else port) ∧ Frame a m m' := by
  unfold setIf
  simp only [h.column field, Option.bind_eq_bind, Option.bind_some]
  by_cases ht : test (port.ovsModuleColumns field) = true
  · obtain ⟨strings, hreplace, hsets⟩ := hs.owned.replace (mem_inUse h (.column field)) hfield value
    simp only [ht, if_true, hreplace, Option.bind_some]
    exact exists_touch_column hs h hsets
  · simp only [ht, Bool.false_eq_true, if_false]
    exact ⟨m, rfl, hs, h, Frame.refl a m⟩

lemma exists_setIf_domColumn (hs : Sound m) (h : Holds m a port) (field : DomColumn)
    (test : Option Text → Bool) (value : Text) :
    ∃ m', m.setIf a (.domColumn field) test value = some m' ∧ Sound m' ∧
      Holds m' a (if test (port.ovsModuleDomColumns field) then
        port.setDomColumn field (some value) else port) ∧ Frame a m m' := by
  unfold setIf
  simp only [h.domColumn field, Option.bind_eq_bind, Option.bind_some]
  by_cases ht : test (port.ovsModuleDomColumns field) = true
  · obtain ⟨strings, hreplace, hsets⟩ :=
      hs.owned.replace (mem_inUse h (.domColumn field)) trivial value
    simp only [ht, if_true, hreplace, Option.bind_some]
    exact exists_touch_domColumn hs h hsets
  · simp only [ht, Bool.false_eq_true, if_false]
    exact ⟨m, rfl, hs, h, Frame.refl a m⟩

lemma cell_eq_null_iff (h : Holds m a port) (field : ModuleColumn) :
    m.strings.cell (a, .column field) = .null ↔ port.ovsModuleColumns field = none := by
  have hread := h.column field
  unfold Cells.read at hread
  cases hc : m.strings.cell (a, .column field) with
  | null =>
    rw [hc] at hread
    exact ⟨fun _ => (Option.some.inj hread).symm, fun _ => rfl⟩
  | const v =>
    rw [hc] at hread
    rw [← Option.some.inj hread]
    exact ⟨nofun, nofun⟩
  | block b =>
    rw [hc] at hread
    obtain ⟨v, -, hv⟩ := Option.map_eq_some_iff.mp hread
    rw [← hv]
    exact ⟨nofun, nofun⟩

lemma not_owner {field : ModuleColumn} (h : field.isStatic = true) :
    ¬(PortCell.column field).Owner := by
  intro ho
  rw [show field.isStatic = false from ho] at h
  contradiction

lemma exists_delete (hs : Sound m) (h : Holds m a port) {field : ModuleColumn}
    (hfield : field.isStatic = true) :
    ∃ m', m.delete a field = some m' ∧ Sound m' ∧ Holds m' a (port.deleteColumn field) ∧
      Frame a m m' := by
  have hnull := cell_eq_null_iff h field
  unfold delete PmPort.deleteColumn
  by_cases hc : m.strings.cell (a, .column field) = .null
  · rw [hc, if_neg (not_not.mpr (hnull.mp hc))]
    exact ⟨m, rfl, hs, h, Frame.refl a m⟩
  · rw [if_pos fun hn => hc (hnull.mpr hn)]
    have hsets : SetsAt m (m.strings.assign (a, .column field) .null) a (.column field) none :=
      hs.owned.assign (not_owner hfield) (fun _ => nofun) rfl
    split
    · contradiction
    · exact exists_touch_column hs h hsets

lemma exists_deleteFree (hs : Sound m) (h : Holds m a port) {field : ModuleColumn}
    (hfield : field.isStatic = false) :
    ∃ m', m.deleteFree a field = some m' ∧ Sound m' ∧ Holds m' a (port.deleteColumn field) ∧
      Frame a m m' := by
  have hnull := cell_eq_null_iff h field
  unfold deleteFree PmPort.deleteColumn
  by_cases hc : m.strings.cell (a, .column field) = .null
  · rw [hc, if_neg (not_not.mpr (hnull.mp hc))]
    exact ⟨m, rfl, hs, h, Frame.refl a m⟩
  · rw [if_pos fun hn => hc (hnull.mpr hn)]
    obtain ⟨strings, hrelease, hsets⟩ := hs.owned.release (mem_inUse h (.column field)) hfield
    split
    · contradiction
    · simp only [hrelease, Option.bind_eq_bind, Option.bind_some]
      exact exists_touch_column hs h hsets

/-- The loop over the speeds keeps one string of its own, the one built so far. -/
lemma exists_foldlM_speedsStep (base : Heap Text) (entries : List (Int × ℕ)) {heap : Heap Text}
    {p : Ptr Text} {v : Option Text} (hadd : base.Adds heap p v) :
    ∃ heap' p', entries.foldlM speedsStep (heap, p) = some (heap', p') ∧
      base.Adds heap' p' (entries.foldl (fun acc (speed, idx) =>
        some (acc.getD [] ++ (if idx = 0 then [] else " ".toList) ++ decimal speed)) v) := by
  induction entries generalizing heap p v with
  | nil => exact ⟨heap, p, rfl, hadd⟩
  | cons entry entries ih =>
    obtain ⟨heap', hfree, hadd'⟩ :=
      hadd.renew (v.getD [] ++ (if entry.2 = 0 then [] else " ".toList) ++ decimal entry.1)
    obtain ⟨heap'', p'', hloop, hadd''⟩ := ih hadd'
    refine ⟨heap'', p'', ?_, hadd''⟩
    rw [List.foldlM_cons]
    unfold speedsStep
    simp only [hadd.load, hfree, Option.bind_eq_bind, Option.bind_some]
    exact hloop

lemma exists_setSupportedSpeeds (hs : Sound m) (h : Holds m a port) (speeds : List Int) :
    ∃ m', m.setSupportedSpeeds a speeds = some m' ∧ Sound m' ∧
      Holds m' a (OpsPmd.setSupportedSpeeds port speeds) ∧ Frame a m m' := by
  obtain ⟨strings, hfree, hnext⟩ :=
    hs.owned.exchange (mem_inUse h (.column .supportedSpeeds)) rfl
  obtain ⟨heap, p, hloop, hadd⟩ :=
    exists_foldlM_speedsStep strings.heap speeds.zipIdx (Heap.adds_null strings.heap)
  unfold setSupportedSpeeds
  simp only [hfree, hloop, Option.bind_eq_bind, Option.bind_some]
  exact exists_touch_column hs h (hnext heap p _ hadd)

/-- A call that fits its column does not fault, and does to the record what it should. -/
theorem exists_exec {fl : FloatArith} (hs : Sound m) (h : Holds m a port) {stmt : Stmt fl}
    (hd : stmt.Disciplined) :
    ∃ m', exec a m stmt = some m' ∧ Sound m' ∧ Holds m' a (stmt.apply port) ∧ Frame a m m' := by
  cases stmt with
  | flag flag value =>
    cases flag with
    | present => exact exists_update _ hs h rfl rfl rfl rfl rfl
    | retry => exact exists_update _ hs h rfl rfl rfl rfl rfl
    | a2ReadRequested => exact exists_update _ hs h rfl rfl rfl rfl rfl
    | optical => exact exists_update _ hs h rfl rfl rfl rfl rfl
  | setStaticString field value =>
    exact exists_touch_column hs h (hs.owned.assign (not_owner hd) (fun _ => nofun) rfl)
  | setString field value => exact exists_setIf_column hs h hd _ value
  | setIntString field value => exact exists_setIf_column hs h hd _ (decimal value)
  | setSupportedSpeeds speeds => exact exists_setSupportedSpeeds hs h speeds
  | setBinary field value => exact exists_setIf_column hs h hd (fun _ => true) (hexToAscii value)
  | delete field => exact exists_delete hs h hd
  | deleteFree field => exact exists_deleteFree hs h hd
  | setFloatString field value => exact exists_setIf_domColumn hs h field _ (fl.fmt value)
  | setFlagString field value => exact exists_setIf_domColumn hs h field _ value

/-- Any list of such calls, and so every function above, works on the record in memory as it
works on the record as a value. -/
theorem exists_foldlM_exec {fl : FloatArith} (hs : Sound m) (h : Holds m a port)
    {stmts : List (Stmt fl)} (hd : Disciplined stmts) :
    ∃ m', stmts.foldlM (exec a) m = some m' ∧ Sound m' ∧ Holds m' a (applyAll port stmts) ∧
      Frame a m m' := by
  induction stmts generalizing m port with
  | nil => exact ⟨m, rfl, hs, h, Frame.refl a m⟩
  | cons stmt stmts ih =>
    obtain ⟨m₁, hexec, hs₁, h₁, hframe₁⟩ := exists_exec hs h (hd stmt List.mem_cons_self)
    obtain ⟨m₂, hrest, hs₂, h₂, hframe₂⟩ :=
      ih hs₁ h₁ fun stmt hmem => hd stmt (List.mem_cons_of_mem _ hmem)
    refine ⟨m₂, ?_, hs₂, h₂, hframe₁.trans hframe₂⟩
    rw [List.foldlM_cons, hexec]
    exact hrest

end Memory

end OpsPmd
