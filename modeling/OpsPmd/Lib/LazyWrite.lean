import Mathlib.Data.List.Induction
import Mathlib.Tactic.Common

/-!
# Cells that are rewritten lazily

A cell holds the rendering of a value. When a new value comes in, the cell is rewritten
unless reading its content gives that value already. If reading loses part of what was
rendered, the cell can keep the rendering of an older value. This file says exactly when.
-/

namespace OpsPmd.Lib

variable {V T : Type*} [DecidableEq V] (render : V → T) (reading : T → V)

/-- What a new value makes of the cell. -/
def lazyWrite (old : Option T) (v : V) : Option T :=
  if old.all (fun t => reading t ≠ v) then some (render v) else old

/-- The values end in one that repeats, which is also what the rendering of the value before
it reads as, though it is another rendering. -/
def Masked (vs : List V) : Prop :=
  ∃ before u n, vs = before ++ u :: List.replicate (n + 1) (reading (render u)) ∧
    render u ≠ render (reading (render u))

variable {render reading}

lemma lazyWrite_of_eq {t : T} {v : V} (h : reading t = v) :
    lazyWrite render reading (some t) v = some t := by
  simp [lazyWrite, h]

lemma lazyWrite_of_ne {t : T} {v : V} (h : reading t ≠ v) :
    lazyWrite render reading (some t) v = some (render v) := by
  simp [lazyWrite, h]

lemma foldl_lazyWrite_replicate (t : T) (n : Nat) :
    (List.replicate n (reading t)).foldl (lazyWrite render reading) (some t) = some t := by
  induction n with
  | zero => rfl
  | succ n ih => rw [List.replicate_succ, List.foldl_cons, lazyWrite_of_eq rfl, ih]

variable (render reading) in
/-- The cell holds the rendering of some value, and all values since are its reading. -/
lemma exists_rendered (vs : List V) (v : V) : ∃ before u n,
    vs ++ [v] = before ++ u :: List.replicate n (reading (render u)) ∧
    (vs ++ [v]).foldl (lazyWrite render reading) none = some (render u) := by
  induction vs using List.reverseRecOn generalizing v with
  | nil => exact ⟨[], v, 0, rfl, rfl⟩
  | append_singleton vs w ih =>
    obtain ⟨before, u, n, hvs, hcell⟩ := ih w
    rw [List.foldl_append, hcell]
    by_cases h : reading (render u) = v
    · refine ⟨before, u, n + 1, ?_, lazyWrite_of_eq h⟩
      rw [hvs, List.replicate_succ', List.append_assoc, List.cons_append, h]
    · exact ⟨vs ++ [w], v, 0, rfl, lazyWrite_of_ne h⟩

/-- A value that does not read back as itself is always written. -/
lemma lazyWrite_of_lossy (hread : ∀ t, reading (render (reading t)) = reading t) {u : V}
    (h : reading (render u) ≠ u) (old : Option T) :
    lazyWrite render reading old u = some (render u) := by
  cases old with
  | none => rfl
  | some t =>
    apply lazyWrite_of_ne
    rintro rfl
    exact h (hread t)

omit [DecidableEq V] in
lemma last_eq_of_replicate {vs before : List V} {v u m : V} {n : Nat}
    (h : vs ++ [v] = before ++ u :: List.replicate (n + 1) m) : v = m := by
  rw [List.replicate_succ', ← List.cons_append, ← List.append_assoc] at h
  exact List.singleton_inj.mp (List.append_inj' h rfl).2

/-- The cell ends with the rendering of the last value exactly if that value is not masked. -/
theorem foldl_lazyWrite_iff (hread : ∀ t, reading (render (reading t)) = reading t)
    (vs : List V) (v : V) :
    (vs ++ [v]).foldl (lazyWrite render reading) none = some (render v) ↔
      ¬Masked render reading (vs ++ [v]) := by
  constructor
  · rintro hcell ⟨before, u, n, hvs, hne⟩
    have hlossy : reading (render u) ≠ u := by
      intro h
      rw [h] at hne
      contradiction
    have hlast : v = reading (render u) := last_eq_of_replicate hvs
    rw [hvs, List.foldl_append, List.foldl_cons, lazyWrite_of_lossy hread hlossy,
      foldl_lazyWrite_replicate, hlast] at hcell
    exact hne (Option.some.inj hcell)
  · intro hmask
    obtain ⟨before, u, n, hvs, hcell⟩ := exists_rendered render reading vs v
    rw [hcell]
    cases n with
    | zero =>
      have hlast : v = u := List.singleton_inj.mp (List.append_inj' hvs rfl).2
      rw [hlast]
    | succ n =>
      have hlast : v = reading (render u) := last_eq_of_replicate hvs
      rw [hlast]
      by_contra hne
      exact hmask ⟨before, u, n, hvs, fun h => hne (congrArg some h)⟩

end OpsPmd.Lib
