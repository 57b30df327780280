import Mathlib.Data.Set.Insert
import Mathlib.Logic.Function.Basic
import Mathlib.Tactic.Common

/-!
# Pointers into a heap

A heap gives out each address once, so a pointer that outlives its block never comes to
point to another one, and using it is a fault. A program keeps its pointers in cells. Some
cells own the block they point to; the others only ever point to constants. The rules say
that the disciplined uses of a cell do not fault, and what every cell reads afterwards.
-/

namespace OpsPmd.Lib

/-- A pointer to nothing, to constant data of the program, or to a block of the heap. -/
inductive Ptr (α : Type*)
  | null
  | const (value : α)
  | block (addr : ℕ)

structure Heap (α : Type*) where
  block : ℕ → Option α
  next : ℕ
  beyond : ∀ a, next ≤ a → block a = none

namespace Heap

variable {α : Type*}

def empty : Heap α := ⟨fun _ => none, 0, fun _ _ => rfl⟩

/-- The new block lies at `h.next`. -/
def alloc (h : Heap α) (v : α) : Heap α where
  block := Function.update h.block h.next (some v)
  next := h.next + 1
  beyond := by
    intro a ha
    rw [Function.update_of_ne (by omega)]
    exact h.beyond a (by omega)

/-- A block that is not there is a fault. -/
def free (h : Heap α) (a : ℕ) : Option (Heap α) :=
  if (h.block a).isSome then
    some
      { block := Function.update h.block a none
        next := h.next
        beyond := by
          intro b hb
          by_cases hab : b = a
          · rw [hab, Function.update_self]
          · rw [Function.update_of_ne hab]
            exact h.beyond b hb }
  else none

def write (h : Heap α) (a : ℕ) (v : α) : Option (Heap α) :=
  if ha : (h.block a).isSome then
    some
      { block := Function.update h.block a (some v)
        next := h.next
        beyond := by
          intro b hb
          have hne : b ≠ a := by
            rintro rfl
            rw [h.beyond b hb] at ha
            exact absurd ha (by simp)
          rw [Function.update_of_ne hne]
          exact h.beyond b hb }
  else none

/-- What the pointer points to; `none` is a fault. -/
def load (h : Heap α) : Ptr α → Option (Option α)
  | .null => some none
  | .const v => some (some v)
  | .block a => (h.block a).map some

/-- `free`, which takes a null pointer but no constant. -/
def freePtr (h : Heap α) : Ptr α → Option (Heap α)
  | .null => some h
  | .const _ => none
  | .block a => h.free a

/-- `h'` is `h` with the block that `p` points to, if any, and `v` is what it holds. -/
structure Adds (h h' : Heap α) (p : Ptr α) (v : Option α) : Prop where
  notConst : ∀ w, p ≠ .const w
  load : h'.load p = some v
  keeps : ∀ a w, h.block a = some w → h'.block a = some w
  fresh : ∀ a, p = .block a → h.block a = none
  only : ∀ a w, h'.block a = some w → p = .block a ∨ h.block a = some w

lemma block_next (h : Heap α) : h.block h.next = none := h.beyond h.next le_rfl

lemma lt_next_of_block {h : Heap α} {a : ℕ} {v : α} (ha : h.block a = some v) : a < h.next := by
  by_contra hle
  rw [h.beyond a (by omega)] at ha
  contradiction

lemma free_of_block {h : Heap α} {a : ℕ} {v : α} (ha : h.block a = some v) :
    ∃ h', h.free a = some h' ∧ h'.block = Function.update h.block a none ∧
      h'.next = h.next := by
  unfold free
  rw [if_pos (by rw [ha]; rfl)]
  exact ⟨_, rfl, rfl, rfl⟩

lemma write_of_block {h : Heap α} {a : ℕ} {v : α} (ha : h.block a = some v) (w : α) :
    ∃ h', h.write a w = some h' ∧ h'.block = Function.update h.block a (some w) ∧
      h'.next = h.next := by
  unfold write
  rw [dif_pos (by rw [ha]; rfl)]
  exact ⟨_, rfl, rfl, rfl⟩

lemma adds_null (h : Heap α) : h.Adds h .null none where
  notConst := fun _ => nofun
  load := rfl
  keeps := fun _ _ ha => ha
  fresh := fun _ => nofun
  only := fun _ _ ha => .inr ha

lemma adds_alloc (h : Heap α) (v : α) : h.Adds (h.alloc v) (.block h.next) (some v) where
  notConst := fun _ => nofun
  load := by simp [Heap.load, alloc]
  keeps := by
    intro a w ha
    have hne : a ≠ h.next := (lt_next_of_block ha).ne
    exact (Function.update_of_ne hne _ _).trans ha
  fresh := by
    intro a ha
    rw [← Ptr.block.inj ha]
    exact h.block_next
  only := by
    intro a w ha
    by_cases hne : a = h.next
    · exact .inl (by rw [hne])
    · exact .inr ((Function.update_of_ne hne _ _).symm.trans ha)

lemma Adds.load_of_load {h h' : Heap α} {p q : Ptr α} {v w : Option α} (hadd : h.Adds h' p v)
    (hq : h.load q = some w) : h'.load q = some w := by
  cases q with
  | null => exact hq
  | const u => exact hq
  | block a =>
    obtain ⟨u, hu, rfl⟩ := Option.map_eq_some_iff.mp hq
    exact Option.map_eq_some_iff.mpr ⟨u, hadd.keeps a u hu, rfl⟩

/-- Another block may take the place of the one that was added. -/
lemma Adds.renew {h h' : Heap α} {p : Ptr α} {v : Option α} (hadd : h.Adds h' p v) (w : α) :
    ∃ h'', (h'.alloc w).freePtr p = some h'' ∧ h.Adds h'' (.block h'.next) (some w) := by
  have hnew : h'.block h'.next = none := h'.block_next
  have hself : (h'.alloc w).block h'.next = some w := Function.update_self _ _ _
  have hother : ∀ a ≠ h'.next, (h'.alloc w).block a = h'.block a :=
    fun a ha => Function.update_of_ne ha _ _
  have hfresh : h.block h'.next = none := by
    cases hb : h.block h'.next with
    | none => rfl
    | some u =>
      rw [hadd.keeps _ u hb] at hnew
      contradiction
  cases hp : p with
  | const u => exact absurd hp (hadd.notConst u)
  | null =>
    refine ⟨h'.alloc w, rfl, fun _ => nofun, by simp [Heap.load, hself], ?_, ?_, ?_⟩
    · intro a u ha
      have hne : a ≠ h'.next := by
        rintro rfl
        rw [hfresh] at ha
        contradiction
      rw [hother a hne]
      exact hadd.keeps a u ha
    · intro a ha
      rw [← Ptr.block.inj ha]
      exact hfresh
    · intro a u ha
      by_cases hne : a = h'.next
      · exact .inl (by rw [hne])
      · rw [hother a hne] at ha
        refine .inr ((hadd.only a u ha).resolve_left ?_)
        rw [hp]
        exact nofun
  | block b =>
    have hload := hadd.load
    rw [hp] at hload
    obtain ⟨u, hu, -⟩ := Option.map_eq_some_iff.mp hload
    have hb : b ≠ h'.next := by
      rintro rfl
      rw [hnew] at hu
      contradiction
    obtain ⟨h'', hfree, hblock, -⟩ := free_of_block ((hother b hb).trans hu)
    have hrest : ∀ a ≠ b, h''.block a = (h'.alloc w).block a := by
      intro a ha
      rw [hblock]
      exact Function.update_of_ne ha _ _
    refine ⟨h'', hfree, fun _ => nofun, ?_, ?_, ?_, ?_⟩
    · simp only [Heap.load, hrest _ hb.symm, hself, Option.map_some]
    · intro a u ha
      have hab : a ≠ b := by
        rintro rfl
        rw [hadd.fresh a hp] at ha
        contradiction
      have hne : a ≠ h'.next := by
        rintro rfl
        rw [hfresh] at ha
        contradiction
      rw [hrest a hab, hother a hne]
      exact hadd.keeps a u ha
    · intro a ha
      rw [← Ptr.block.inj ha]
      exact hfresh
    · intro a u ha
      by_cases hne : a = h'.next
      · exact .inl (by rw [hne])
      by_cases hab : a = b
      · rw [hab, hblock, Function.update_self] at ha
        contradiction
      · rw [hrest a hab, hother a hne] at ha
        refine .inr ((hadd.only a u ha).resolve_left ?_)
        rw [hp]
        intro he
        exact hab (Ptr.block.inj he).symm

end Heap

/-! ## Cells -/

/-- The pointers of a program, and the heap they point into. -/
structure Cells (κ α : Type*) where
  heap : Heap α
  cell : κ → Ptr α

namespace Cells

variable {κ α : Type*} [DecidableEq κ]

def read (c : Cells κ α) (k : κ) : Option (Option α) := c.heap.load (c.cell k)

def assign (c : Cells κ α) (k : κ) (p : Ptr α) : Cells κ α :=
  { c with cell := Function.update c.cell k p }

/-- Frees what the cell points to. The cell itself dangles. -/
def free (c : Cells κ α) (k : κ) : Option (Cells κ α) :=
  (c.heap.freePtr (c.cell k)).map fun h => { c with heap := h }

/-- `*k = strdup(v)`, whatever the cell held. -/
def strdup (c : Cells κ α) (k : κ) (v : α) : Cells κ α :=
  ⟨c.heap.alloc v, Function.update c.cell k (.block c.heap.next)⟩

/-- `free(*k); *k = strdup(v)` -/
def replace (c : Cells κ α) (k : κ) (v : α) : Option (Cells κ α) :=
  (c.free k).map fun c => c.strdup k v

/-- `free(*k); *k = NULL` -/
def release (c : Cells κ α) (k : κ) : Option (Cells κ α) :=
  (c.free k).map fun c => c.assign k .null

/-- Among the cells `K`, those of `owner` hold the only pointer to a block that is there, the
others hold no block, and no block is without its cell. -/
structure Owned (owner : κ → Prop) (K : Set κ) (c : Cells κ α) : Prop where
  notBlock : ∀ k ∈ K, ¬owner k → ∀ a, c.cell k ≠ .block a
  notConst : ∀ k ∈ K, owner k → ∀ v, c.cell k ≠ .const v
  live : ∀ k ∈ K, ∀ a, c.cell k = .block a → ∃ v, c.heap.block a = some v
  unique : ∀ k ∈ K, ∀ k' ∈ K, ∀ a, c.cell k = .block a → c.cell k' = .block a → k = k'
  covered : ∀ a v, c.heap.block a = some v → ∃ k ∈ K, c.cell k = .block a

/-- `c'` is `c` with `v` in the cell `k`. -/
structure Sets (owner : κ → Prop) (K : Set κ) (c c' : Cells κ α) (k : κ) (v : Option α) :
    Prop where
  owned : Owned owner K c'
  self : c'.read k = some v
  cell : ∀ k' ≠ k, c'.cell k' = c.cell k'
  read : ∀ k' ∈ K, k' ≠ k → c'.read k' = c.read k'

variable {owner : κ → Prop} {K : Set κ} {c : Cells κ α} {k : κ}

omit [DecidableEq κ] in
lemma read_of_null (hk : c.cell k = .null) : c.read k = some none := by
  unfold read
  rw [hk]
  rfl

namespace Owned

omit [DecidableEq κ] in
lemma exists_read (h : Owned owner K c) (hk : k ∈ K) : ∃ v, c.read k = some v := by
  unfold read
  cases hc : c.cell k with
  | null => exact ⟨none, rfl⟩
  | const v => exact ⟨some v, rfl⟩
  | block a =>
    obtain ⟨v, hv⟩ := h.live k hk a hc
    exact ⟨some v, by simp [Heap.load, hv]⟩

omit [DecidableEq κ] in
/-- Whoever frees what a cell owns may no longer use the cell. -/
theorem free (h : Owned owner K c) (hk : k ∈ K) (ho : owner k) :
    ∃ c', c.free k = some c' ∧ c'.cell = c.cell ∧ Owned owner (K \ {k}) c' ∧
      ∀ k' ∈ K, k' ≠ k → c'.read k' = c.read k' := by
  have hsub : ∀ {k'}, k' ∈ K \ {k} → k' ∈ K := fun h => h.1
  unfold Cells.free
  cases hc : c.cell k with
  | const v => exact absurd hc (h.notConst k hk ho v)
  | null =>
    refine ⟨c, rfl, rfl, ⟨fun k' hk' => h.notBlock k' (hsub hk'),
      fun k' hk' => h.notConst k' (hsub hk'), fun k' hk' => h.live k' (hsub hk'),
      fun k' hk' k'' hk'' => h.unique k' (hsub hk') k'' (hsub hk''), ?_⟩, fun _ _ _ => rfl⟩
    intro a v ha
    obtain ⟨k', hk', hc'⟩ := h.covered a v ha
    refine ⟨k', ⟨hk', ?_⟩, hc'⟩
    rintro rfl
    rw [hc] at hc'
    contradiction
  | block a =>
    obtain ⟨v, hv⟩ := h.live k hk a hc
    obtain ⟨heap, hfree, hblock, -⟩ := Heap.free_of_block hv
    -- the other cells own other blocks
    have hother : ∀ k' ∈ K, k' ≠ k → ∀ b, c.cell k' = .block b → b ≠ a := by
      rintro k' hk' hne b hb rfl
      exact hne (h.unique k' hk' k hk b hb hc)
    refine ⟨{ c with heap := heap }, by simp [Heap.freePtr, hfree], rfl,
      ⟨fun k' hk' => h.notBlock k' (hsub hk'), fun k' hk' => h.notConst k' (hsub hk'), ?_,
        fun k' hk' k'' hk'' => h.unique k' (hsub hk') k'' (hsub hk''), ?_⟩, ?_⟩
    · intro k' hk' b hb
      obtain ⟨w, hw⟩ := h.live k' (hsub hk') b hb
      refine ⟨w, ?_⟩
      show heap.block b = some w
      rw [hblock, Function.update_of_ne (hother k' hk'.1 hk'.2 b hb)]
      exact hw
    · intro b w hb
      have hb' : Function.update c.heap.block a none b = some w := hblock ▸ hb
      have hne : b ≠ a := by
        rintro rfl
        rw [Function.update_self] at hb'
        contradiction
      rw [Function.update_of_ne hne] at hb'
      obtain ⟨k', hk', hc'⟩ := h.covered b w hb'
      refine ⟨k', ⟨hk', ?_⟩, hc'⟩
      rintro rfl
      exact hne (Ptr.block.inj (hc'.symm.trans hc))
    · intro k' hk' hne
      show heap.load (c.cell k') = c.heap.load (c.cell k')
      cases hc' : c.cell k' with
      | null => rfl
      | const w => rfl
      | block b =>
        show (heap.block b).map some = (c.heap.block b).map some
        rw [hblock, Function.update_of_ne (hother k' hk' hne b hc')]

/-- A cell that is not in use may take over a block that nothing points to. -/
theorem adopt (h : Owned owner K c) (hk : k ∉ K) (ho : owner k) {heap : Heap α} {p : Ptr α}
    {v : Option α} (hadd : c.heap.Adds heap p v) :
    Owned owner (insert k K) ⟨heap, Function.update c.cell k p⟩ ∧
      Cells.read ⟨heap, Function.update c.cell k p⟩ k = some v ∧
      ∀ k' ∈ K, Cells.read ⟨heap, Function.update c.cell k p⟩ k' = c.read k' := by
  have hself : Function.update c.cell k p k = p := Function.update_self _ _ _
  have hcell : ∀ {k'}, k' ∈ K → Function.update c.cell k p k' = c.cell k' := by
    intro k' hk'
    refine Function.update_of_ne ?_ _ _
    rintro rfl
    exact hk hk'
  -- the new block is nobody else's
  have hapart : ∀ k' ∈ K, ∀ a, c.cell k' = .block a → p ≠ .block a := by
    intro k' hk' a ha hp
    obtain ⟨w, hw⟩ := h.live k' hk' a ha
    rw [hadd.fresh a hp] at hw
    contradiction
  refine ⟨⟨?_, ?_, ?_, ?_, ?_⟩, ?_, ?_⟩
  · rintro k' (rfl | hk') ho'
    · exact absurd ho ho'
    · show ∀ a, Function.update c.cell k p k' ≠ .block a
      rw [hcell hk']
      exact h.notBlock k' hk' ho'
  · rintro k' (rfl | hk') ho'
    · show ∀ w, Function.update c.cell k' p k' ≠ .const w
      rw [hself]
      exact hadd.notConst
    · show ∀ w, Function.update c.cell k p k' ≠ .const w
      rw [hcell hk']
      exact h.notConst k' hk' ho'
  · rintro k' (rfl | hk') a ha
    · have hp : p = .block a := hself.symm.trans ha
      have hload := hadd.load
      rw [hp] at hload
      obtain ⟨w, hw, -⟩ := Option.map_eq_some_iff.mp hload
      exact ⟨w, hw⟩
    · obtain ⟨w, hw⟩ := h.live k' hk' a ((hcell hk').symm.trans ha)
      exact ⟨w, hadd.keeps a w hw⟩
  · rintro k' (rfl | hk') k'' (rfl | hk'') a ha ha'
    · rfl
    · exact absurd (hself.symm.trans ha) (hapart k'' hk'' a ((hcell hk'').symm.trans ha'))
    · exact absurd (hself.symm.trans ha') (hapart k' hk' a ((hcell hk').symm.trans ha))
    · exact h.unique k' hk' k'' hk'' a ((hcell hk').symm.trans ha) ((hcell hk'').symm.trans ha')
  · intro a w ha
    rcases hadd.only a w ha with hp | hold
    · exact ⟨k, Set.mem_insert k K, hself.trans hp⟩
    · obtain ⟨k', hk', hc'⟩ := h.covered a w hold
      exact ⟨k', Set.mem_insert_of_mem k hk', (hcell hk').trans hc'⟩
  · unfold read
    simp only [hself, hadd.load]
  · intro k' hk'
    obtain ⟨w, hw⟩ := h.exists_read hk'
    rw [hw]
    unfold read
    simp only [hcell hk']
    exact hadd.load_of_load hw

/-- A cell that owns nothing may be overwritten with anything but a block. -/
theorem assign (h : Owned owner K c) (ho : ¬owner k) {p : Ptr α} {v : Option α}
    (hp : ∀ a, p ≠ .block a) (hv : c.heap.load p = some v) :
    Sets owner K c (c.assign k p) k v := by
  have hself : (c.assign k p).cell k = p := Function.update_self _ _ _
  have hcell : ∀ k' ≠ k, (c.assign k p).cell k' = c.cell k' :=
    fun k' hne => Function.update_of_ne hne _ _
  have hblock : ∀ {k' a}, (c.assign k p).cell k' = .block a → k' ≠ k ∧ c.cell k' = .block a := by
    intro k' a ha
    have hne : k' ≠ k := by
      rintro rfl
      exact hp a (hself.symm.trans ha)
    exact ⟨hne, (hcell k' hne).symm.trans ha⟩
  refine ⟨⟨?_, ?_, ?_, ?_, ?_⟩, ?_, hcell, ?_⟩
  · intro k' hk' ho' a ha
    exact h.notBlock k' hk' ho' a (hblock ha).2
  · intro k' hk' ho'
    have hne : k' ≠ k := by
      rintro rfl
      exact ho ho'
    rw [hcell k' hne]
    exact h.notConst k' hk' ho'
  · intro k' hk' a ha
    exact h.live k' hk' a (hblock ha).2
  · intro k' hk' k'' hk'' a ha ha'
    exact h.unique k' hk' k'' hk'' a (hblock ha).2 (hblock ha').2
  · intro a w ha
    obtain ⟨k', hk', hc'⟩ := h.covered a w ha
    have hne : k' ≠ k := by
      rintro rfl
      exact h.notBlock k' hk' ho a hc'
    exact ⟨k', hk', (hcell k' hne).trans hc'⟩
  · unfold read
    rw [hself]
    exact hv
  · intro k' _ hne
    unfold read
    rw [hcell k' hne]
    rfl

omit [DecidableEq κ] in
/-- A cell that points to nothing may be left out. -/
lemma diff_of_null (h : Owned owner K c) (hk : c.cell k = .null) : Owned owner (K \ {k}) c := by
  refine ⟨fun k' hk' => h.notBlock k' hk'.1, fun k' hk' => h.notConst k' hk'.1,
    fun k' hk' => h.live k' hk'.1, fun k' hk' k'' hk'' => h.unique k' hk'.1 k'' hk''.1, ?_⟩
  intro a v ha
  obtain ⟨k', hk', hc'⟩ := h.covered a v ha
  refine ⟨k', ⟨hk', ?_⟩, hc'⟩
  rintro rfl
  rw [hk] at hc'
  contradiction

/-- A cell that has given up its block can be given a new one, or none. -/
lemma sets_of_diff {c' : Cells κ α} (h : Owned owner (K \ {k}) c') (hk : k ∈ K) (ho : owner k)
    (hcell : c'.cell = c.cell) (hread : ∀ k' ∈ K, k' ≠ k → c'.read k' = c.read k')
    {heap : Heap α} {p : Ptr α} {v : Option α} (hadd : c'.heap.Adds heap p v) :
    Sets owner K c ⟨heap, Function.update c'.cell k p⟩ k v := by
  have hK : insert k (K \ {k}) = K := by
    ext k'
    by_cases he : k' = k
    · simp [he, hk]
    · simp [he]
  obtain ⟨howned, hself, hother⟩ := h.adopt (fun hmem => hmem.2 rfl) ho hadd
  rw [hK] at howned
  refine ⟨howned, hself, fun k' hne => ?_, fun k' hk' hne => ?_⟩
  · exact (Function.update_of_ne hne _ _).trans (congrFun hcell k')
  · rw [hother k' ⟨hk', hne⟩, hread k' hk' hne]

theorem exchange (h : Owned owner K c) (hk : k ∈ K) (ho : owner k) :
    ∃ c', c.free k = some c' ∧ ∀ heap p v, c'.heap.Adds heap p v →
      Sets owner K c ⟨heap, Function.update c'.cell k p⟩ k v := by
  obtain ⟨c', hfree, hcell, howned, hread⟩ := h.free hk ho
  exact ⟨c', hfree, fun heap p v hadd => sets_of_diff howned hk ho hcell hread hadd⟩

theorem replace (h : Owned owner K c) (hk : k ∈ K) (ho : owner k) (v : α) :
    ∃ c', c.replace k v = some c' ∧ Sets owner K c c' k (some v) := by
  obtain ⟨c', hfree, hnext⟩ := h.exchange hk ho
  refine ⟨c'.strdup k v, by rw [Cells.replace, hfree]; rfl, ?_⟩
  exact hnext _ _ _ (Heap.adds_alloc c'.heap v)

theorem release (h : Owned owner K c) (hk : k ∈ K) (ho : owner k) :
    ∃ c', c.release k = some c' ∧ Sets owner K c c' k none := by
  obtain ⟨c', hfree, hnext⟩ := h.exchange hk ho
  refine ⟨c'.assign k .null, by rw [Cells.release, hfree]; rfl, ?_⟩
  exact hnext _ _ _ (Heap.adds_null c'.heap)

theorem strdup (h : Owned owner K c) (hk : k ∈ K) (ho : owner k) (hnull : c.cell k = .null)
    (v : α) : Sets owner K c (c.strdup k v) k (some v) :=
  sets_of_diff (h.diff_of_null hnull) hk ho rfl (fun _ _ _ => rfl) (Heap.adds_alloc c.heap v)

end Owned

end Cells

end OpsPmd.Lib
