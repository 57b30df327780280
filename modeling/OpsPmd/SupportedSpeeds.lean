import OpsPmd.Columns
import Mathlib.Data.List.Induction

/-!
# The list of supported speeds

The loop of `set_supported_speeds` rebuilds its string from the previous one for each
argument. After some of the arguments it holds their numerals, separated by spaces.
-/

namespace OpsPmd

open Lib

lemma joinSpeeds_concat (speeds : List Int) (speed : Int) :
    joinSpeeds (speeds ++ [speed]) =
      some ((joinSpeeds speeds).getD [] ++ (if speeds.length = 0 then [] else " ".toList) ++
        decimal speed) := by
  unfold joinSpeeds
  rw [List.zipIdx_append, List.foldl_append]
  simp

/-- The string before each turn of the loop, which is `NULL` before the first. -/
theorem joinSpeeds_eq (speeds : List Int) :
    joinSpeeds speeds = if speeds = [] then none else some (spaced speeds) := by
  induction speeds using List.reverseRecOn with
  | nil => rfl
  | append_singleton speeds speed ih =>
    rw [joinSpeeds_concat, ih, if_neg (List.concat_ne_nil speed speeds)]
    by_cases h : speeds = []
    · subst h
      simp [spaced]
    · have hlen : speeds.length ≠ 0 := by simpa using h
      rw [if_neg h, if_neg hlen, spaced_concat h]
      rfl

/-- Whatever the column held before, `set_supported_speeds` leaves its list there, so that
the list can be read off, and asks for publication. -/
theorem setSupportedSpeeds_spec (port : PmPort) (speeds : List Int) :
    (setSupportedSpeeds port speeds).ovsModuleColumns .supportedSpeeds =
        (if speeds = [] then none else some (spaced speeds)) ∧
      (∀ text, (setSupportedSpeeds port speeds).ovsModuleColumns .supportedSpeeds = some text →
        readSpaced text = speeds) ∧
      (setSupportedSpeeds port speeds).moduleInfoChanged = true := by
  have hcolumn : (setSupportedSpeeds port speeds).ovsModuleColumns .supportedSpeeds =
      if speeds = [] then none else some (spaced speeds) := by
    rw [PmPort.ovsModuleColumns_setSupportedSpeeds, Function.update_self, joinSpeeds_eq]
  refine ⟨hcolumn, ?_, rfl⟩
  intro text htext
  rw [hcolumn] at htext
  by_cases h : speeds = []
  · rw [if_pos h] at htext
    contradiction
  · rw [if_neg h] at htext
    obtain rfl := Option.some.inj htext
    exact readSpaced_spaced h

example : joinSpeeds [1000, -5, 100000] = some "1000 -5 100000".toList := by decide

end OpsPmd
