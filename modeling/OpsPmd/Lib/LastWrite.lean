import Mathlib.Data.List.Basic
import Mathlib.Tactic.Common

/-!
# The last write to a cell

A log holds entries of which some write a value to a cell. The value of a cell is that of
the last entry that writes to it. Appending entries that leave a cell alone keeps its
value, and an entry that writes to it decides its value.
-/

namespace OpsPmd.Lib

variable {ι κ α : Type*} [DecidableEq κ]

/-- `writes` says which cell an entry writes to, and what. -/
def lastWrite (writes : ι → Option (κ × α)) (k : κ) (log : List ι) : Option α :=
  (log.filterMap fun i => (writes i).bind fun w => if w.1 = k then some w.2 else none).getLast?

variable {writes : ι → Option (κ × α)} {k : κ}

lemma exists_of_lastWrite_eq_some {log : List ι} {a : α} (h : lastWrite writes k log = some a) :
    ∃ i ∈ log, writes i = some (k, a) := by
  obtain ⟨i, hi, hw⟩ := List.mem_filterMap.mp (List.mem_of_getLast? h)
  obtain ⟨⟨k', b⟩, hwrites, hb⟩ := Option.bind_eq_some_iff.mp hw
  dsimp only at hb
  split at hb
  · rename_i hk
    obtain rfl := Option.some.inj hb
    subst hk
    exact ⟨i, hi, hwrites⟩
  · exact absurd hb (by simp)

lemma lastWrite_ne_none {log : List ι} {i : ι} {a : α} (hi : i ∈ log)
    (hw : writes i = some (k, a)) : lastWrite writes k log ≠ none := by
  intro h
  have hnil := List.getLast?_eq_none_iff.mp h
  have hnone := List.filterMap_eq_nil_iff.mp hnil i hi
  simp [hw] at hnone

lemma lastWrite_append (xs ys : List ι) :
    lastWrite writes k (xs ++ ys) = (lastWrite writes k ys).or (lastWrite writes k xs) := by
  unfold lastWrite
  rw [List.filterMap_append, List.getLast?_append]

lemma lastWrite_eq_none {log : List ι} (h : ∀ i ∈ log, ∀ a, writes i ≠ some (k, a)) :
    lastWrite writes k log = none := by
  cases hlast : lastWrite writes k log with
  | none => rfl
  | some a =>
    obtain ⟨i, hi, hw⟩ := exists_of_lastWrite_eq_some hlast
    exact absurd hw (h i hi a)

lemma lastWrite_append_of_forall {xs ys : List ι} (h : ∀ i ∈ ys, ∀ a, writes i ≠ some (k, a)) :
    lastWrite writes k (xs ++ ys) = lastWrite writes k xs := by
  rw [lastWrite_append, lastWrite_eq_none h, Option.none_or]

lemma lastWrite_append_of_eq_none {xs ys : List ι} (h : lastWrite writes k xs = none) :
    lastWrite writes k (xs ++ ys) = lastWrite writes k ys := by
  rw [lastWrite_append, h, Option.or_none]

/-- An entry that writes to the cell, with entries behind it that do not. -/
lemma lastWrite_append_cons {xs ys : List ι} {i : ι} {a : α} (hi : writes i = some (k, a))
    (h : ∀ j ∈ ys, ∀ b, writes j ≠ some (k, b)) :
    lastWrite writes k (xs ++ i :: ys) = some a := by
  have hsingle : lastWrite writes k [i] = some a := by simp [lastWrite, hi]
  have happ : xs ++ i :: ys = (xs ++ [i]) ++ ys := by simp
  rw [happ, lastWrite_append_of_forall h, lastWrite_append, hsingle, Option.some_or]

end OpsPmd.Lib
