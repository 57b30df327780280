import Mathlib.Logic.Function.Basic
import Mathlib.Tactic.Common

/-!
# Runs of a deterministic system

A system takes one input at a time. `run` is the state after a list of inputs and `Along`
says that a relation between state and input holds at every step. The rules below are
the only inductions over runs that a development on top of this file needs: an invariant
of admissible runs, and the exchange of two step conditions that agree on an invariant.
-/

namespace OpsPmd.Lib

variable {σ ι : Type*} (step : σ → ι → σ)

/-- The state after a list of inputs. -/
def run (s : σ) (inputs : List ι) : σ := inputs.foldl step s

/-- `P` holds at every step of the run, of the state before the step and its input. -/
def Along (P : σ → ι → Prop) : σ → List ι → Prop
  | _, [] => True
  | s, i :: inputs => P s i ∧ Along P (step s i) inputs

@[simp] lemma run_nil (s : σ) : run step s [] = s := rfl

@[simp] lemma run_cons (s : σ) (i : ι) (inputs : List ι) :
    run step s (i :: inputs) = run step (step s i) inputs := rfl

lemma run_append (s : σ) (inputs inputs' : List ι) :
    run step s (inputs ++ inputs') = run step (run step s inputs) inputs' := List.foldl_append

@[simp] lemma along_nil (P : σ → ι → Prop) (s : σ) : Along step P s [] := trivial

@[simp] lemma along_cons (P : σ → ι → Prop) (s : σ) (i : ι) (inputs : List ι) :
    Along step P s (i :: inputs) ↔ P s i ∧ Along step P (step s i) inputs := Iff.rfl

variable {step}

/-- A property of single steps holds along a run exactly when it holds after each prefix. -/
lemma along_iff {P : σ → ι → Prop} {s : σ} {inputs : List ι} :
    Along step P s inputs ↔
      ∀ xs i ys, inputs = xs ++ i :: ys → P (run step s xs) i := by
  induction inputs generalizing s with
  | nil => simp
  | cons x inputs ih =>
    rw [along_cons, ih]
    constructor
    · rintro ⟨h0, h⟩ xs i ys he
      cases xs with
      | nil =>
        obtain ⟨rfl, rfl⟩ := List.cons.inj he
        exact h0
      | cons y xs =>
        obtain ⟨rfl, rfl⟩ := List.cons.inj he
        exact h xs i ys rfl
    · intro h
      refine ⟨h [] x inputs rfl, fun xs i ys he => ?_⟩
      exact h (x :: xs) i ys (by rw [he, List.cons_append])

lemma along_append {P : σ → ι → Prop} {s : σ} {inputs inputs' : List ι} :
    Along step P s (inputs ++ inputs') ↔
      Along step P s inputs ∧ Along step P (run step s inputs) inputs' := by
  induction inputs generalizing s with
  | nil => simp
  | cons i inputs ih => rw [List.cons_append, along_cons, along_cons, run_cons, ih, and_assoc]

lemma Along.and {P Q : σ → ι → Prop} {s : σ} {inputs : List ι} (hP : Along step P s inputs)
    (hQ : Along step Q s inputs) : Along step (fun s i => P s i ∧ Q s i) s inputs := by
  induction inputs generalizing s with
  | nil => trivial
  | cons i inputs ih => exact ⟨⟨hP.1, hQ.1⟩, ih hP.2 hQ.2⟩

lemma along_true (s : σ) (inputs : List ι) : Along step (fun _ _ => True) s inputs :=
  along_iff.mpr fun _ _ _ _ => trivial

/-- An invariant that every admissible step keeps holds at the end of an admissible run. -/
theorem Along.invariant {ok : σ → ι → Prop} {I : σ → Prop} {s : σ} {inputs : List ι}
    (hstep : ∀ s i, I s → ok s i → I (step s i)) (hI : I s) (h : Along step ok s inputs) :
    I (run step s inputs) := by
  induction inputs generalizing s with
  | nil => exact hI
  | cons i inputs ih => exact ih (hstep s i hI h.1) h.2

lemma run_invariant {I : σ → Prop} (hstep : ∀ s i, I s → I (step s i)) {s : σ} (hI : I s)
    (inputs : List ι) : I (run step s inputs) := by
  induction inputs generalizing s with
  | nil => exact hI
  | cons i inputs ih => exact ih (hstep s i hI)

/-- Whatever an invariant gives at each admissible step holds along an admissible run. -/
theorem Along.of_invariant {ok P : σ → ι → Prop} {I : σ → Prop} {s : σ} {inputs : List ι}
    (hstep : ∀ s i, I s → ok s i → I (step s i)) (hP : ∀ s i, I s → ok s i → P s i)
    (hI : I s) (h : Along step ok s inputs) : Along step P s inputs := by
  induction inputs generalizing s with
  | nil => trivial
  | cons i inputs ih => exact ⟨hP s i hI h.1, ih (hstep s i hI h.1) h.2⟩

/-- Two step conditions that agree wherever an invariant holds are interchangeable along
a run, provided the invariant survives each admissible step at which they hold. -/
theorem along_congr_of_invariant {ok P Q : σ → ι → Prop} {I : σ → Prop} {s : σ}
    {inputs : List ι} (hPQ : ∀ s i, I s → ok s i → (P s i ↔ Q s i))
    (hstep : ∀ s i, I s → ok s i → P s i → I (step s i)) (hI : I s)
    (hok : Along step ok s inputs) : Along step P s inputs ↔ Along step Q s inputs := by
  induction inputs generalizing s with
  | nil => simp
  | cons i inputs ih =>
    rw [along_cons, along_cons, ← hPQ s i hI hok.1]
    exact and_congr_right fun hP => ih (hstep s i hI hok.1 hP) hok.2

/-- A relation between two systems that all steps with related inputs keep, the first of which is
admissible, holds at the end of runs with related inputs. -/
theorem Along.related {τ κ : Type*} {step' : τ → κ → τ} {ok : σ → ι → Prop} {E : ι → κ → Prop}
    {R : σ → τ → Prop}
    (hstep : ∀ s t i j, R s t → ok s i → E i j → R (step s i) (step' t j)) {s : σ} {t : τ}
    {inputs : List ι} {inputs' : List κ} (hin : List.Forall₂ E inputs inputs') (hR : R s t)
    (h : Along step ok s inputs) : R (run step s inputs) (run step' t inputs') := by
  induction hin generalizing s t with
  | nil => exact hR
  | cons hij _ ih => exact ih (hstep s t _ _ hR h.1 hij) h.2

lemma foldl_invariant {f : σ → ι → σ} {I : σ → Prop} {l : List ι}
    (hstep : ∀ s, ∀ i ∈ l, I s → I (f s i)) {s : σ} (hI : I s) : I (l.foldl f s) := by
  induction l generalizing s with
  | nil => exact hI
  | cons i l ih =>
    have hi : I (f s i) := hstep s i List.mem_cons_self hI
    exact ih (fun s j hj => hstep s j (List.mem_cons_of_mem i hj)) hi

lemma foldl_reflects {f : σ → ι → σ} {I : σ → Prop} {l : List ι}
    (hstep : ∀ s, ∀ i ∈ l, I (f s i) → I s) {s : σ} (h : I (l.foldl f s)) : I s := by
  by_contra hnot
  exact foldl_invariant (I := fun s => ¬I s) (fun s i hi hs hf => hs (hstep s i hi hf)) hnot h

lemma foldl_eq_self {f : σ → ι → σ} {l : List ι} (h : ∀ i ∈ l, ∀ s, f s i = s) (s : σ) :
    l.foldl f s = s := by
  refine foldl_invariant (I := fun s' => s' = s) ?_ rfl
  rintro _ i hi rfl
  exact h i hi _

/-- Where each element of a list contributes entries of its own, and only those of one element
matter, the others can be left out. -/
theorem foldl_flatMap_of_only {ω : Type*} {f : σ → ω → σ} {g : ι → List ω} {l : List ι} {i : ι}
    (hi : i ∈ l) (hnodup : l.Nodup) (hother : ∀ j ∈ l, j ≠ i → ∀ e ∈ g j, ∀ s, f s e = s)
    (s : σ) : (l.flatMap g).foldl f s = (g i).foldl f s := by
  obtain ⟨xs, ys, rfl⟩ := List.append_of_mem hi
  have hskip : ∀ zs : List ι, (∀ j ∈ zs, j ∈ xs ++ i :: ys ∧ j ≠ i) → ∀ s,
      (zs.flatMap g).foldl f s = s := by
    intro zs hzs s
    refine foldl_eq_self (fun e he s => ?_) s
    obtain ⟨j, hj, hej⟩ := List.mem_flatMap.mp he
    exact hother j (hzs j hj).1 (hzs j hj).2 e hej s
  have hdisjoint := List.nodup_append.mp hnodup
  have hxs : ∀ j ∈ xs, j ∈ xs ++ i :: ys ∧ j ≠ i := by
    intro j hj
    exact ⟨List.mem_append_left _ hj, hdisjoint.2.2 j hj i List.mem_cons_self⟩
  have hys : ∀ j ∈ ys, j ∈ xs ++ i :: ys ∧ j ≠ i := by
    intro j hj
    refine ⟨List.mem_append_right _ (List.mem_cons_of_mem i hj), ?_⟩
    rintro rfl
    exact (List.nodup_cons.mp hdisjoint.2.1).1 hj
  rw [List.flatMap_append, List.flatMap_cons, List.foldl_append, List.foldl_append,
    hskip xs hxs, hskip ys hys]

/-- In a loop over related elements, a fact about an element that no earlier turn destroys
is turned by its own turn into one that no later turn destroys. -/
theorem foldl_transforms {f : σ → ι → σ} {I : σ → Prop} {Q P : ι → σ → Prop}
    {R : ι → ι → Prop} {l : List ι} (hR : l.Pairwise R)
    (hI : ∀ s, ∀ i ∈ l, I s → I (f s i))
    (hself : ∀ s, ∀ i ∈ l, I s → Q i s → P i (f s i))
    (hbefore : ∀ s, ∀ i ∈ l, ∀ j ∈ l, R i j → I s → Q j s → Q j (f s i))
    (hafter : ∀ s, ∀ i ∈ l, ∀ j ∈ l, R i j → I s → P i s → P i (f s j)) {s : σ} (hs : I s)
    (hQ : ∀ i ∈ l, Q i s) : ∀ i ∈ l, P i (l.foldl f s) := by
  induction l generalizing s with
  | nil =>
    intro i hi
    exact absurd hi List.not_mem_nil
  | cons i l ih =>
    obtain ⟨hRi, hRl⟩ := List.pairwise_cons.mp hR
    have hmem : ∀ {j}, j ∈ l → j ∈ i :: l := fun h => List.mem_cons_of_mem i h
    have hfirst : I (f s i) := hI s i List.mem_cons_self hs
    intro j hj
    rcases List.mem_cons.mp hj with rfl | hjl
    · have hboth : I (l.foldl f (f s j)) ∧ P j (l.foldl f (f s j)) := by
        refine foldl_invariant (I := fun s => I s ∧ P j s) ?_
          ⟨hfirst, hself s j List.mem_cons_self hs (hQ j List.mem_cons_self)⟩
        rintro s' k hk ⟨hs', hp⟩
        exact ⟨hI s' k (hmem hk) hs',
          hafter s' j List.mem_cons_self k (hmem hk) (hRi k hk) hs' hp⟩
      exact hboth.2
    · refine ih hRl (fun s k hk => hI s k (hmem hk)) (fun s k hk => hself s k (hmem hk))
        (fun s k hk m hm => hbefore s k (hmem hk) m (hmem hm))
        (fun s k hk m hm => hafter s k (hmem hk) m (hmem hm)) hfirst ?_ j hjl
      intro k hk
      exact hbefore s i List.mem_cons_self k (hmem hk) (hRi k hk) hs (hQ k (hmem hk))

/-- A loop whose turns each establish a fact about their own element, which the turns of the
later elements keep, ends with the fact about every element. -/
theorem foldl_establishes {f : σ → ι → σ} {I : σ → Prop} {P : ι → σ → Prop}
    {R : ι → ι → Prop} {l : List ι} (hR : l.Pairwise R)
    (hI : ∀ s, ∀ i ∈ l, I s → I (f s i)) (hself : ∀ s, ∀ i ∈ l, I s → P i (f s i))
    (hkeep : ∀ s, ∀ i ∈ l, ∀ j ∈ l, R i j → I s → P i s → P i (f s j)) {s : σ} (hs : I s) :
    ∀ i ∈ l, P i (l.foldl f s) :=
  foldl_transforms (Q := fun _ _ => True) hR hI (fun s i hi hs _ => hself s i hi hs)
    (fun _ _ _ _ _ _ _ _ => trivial) hkeep hs fun _ _ => trivial

/-- A function that commutes with every turn of a loop commutes with the loop. -/
lemma foldl_comm {f : σ → ι → σ} {g : σ → σ} {l : List ι}
    (h : ∀ s, ∀ i ∈ l, f (g s) i = g (f s i)) (s : σ) : l.foldl f (g s) = g (l.foldl f s) := by
  induction l generalizing s with
  | nil => rfl
  | cons i l ih =>
    rw [List.foldl_cons, List.foldl_cons, h s i List.mem_cons_self]
    exact ih (fun s j hj => h s j (List.mem_cons_of_mem i hj)) (f s i)

/-- Two loops whose turns commute can be run in either order. -/
lemma foldl_foldl_comm {f : σ → ι → σ} {xs ys : List ι}
    (h : ∀ s, ∀ i ∈ xs, ∀ j ∈ ys, f (f s i) j = f (f s j) i) (s : σ) :
    ys.foldl f (xs.foldl f s) = xs.foldl f (ys.foldl f s) := by
  induction xs generalizing s with
  | nil => rfl
  | cons i xs ih =>
    have hfirst : ys.foldl f (f s i) = f (ys.foldl f s) i :=
      foldl_comm (g := fun s => f s i) (fun s j hj => h s i List.mem_cons_self j hj) s
    rw [List.foldl_cons, List.foldl_cons, ← hfirst]
    exact ih (fun s k hk => h s k (List.mem_cons_of_mem i hk)) (f s i)

section Cells

variable {κ α : Type*} [DecidableEq κ] {f : σ → ι → σ} {cells : σ → κ → α} {key : ι → κ}
  {g : ι → α → α}

/-- A loop that rewrites one cell at each turn leaves the other cells alone. -/
lemma foldl_update_of_not_mem
    (hf : ∀ s i, cells (f s i) = Function.update (cells s) (key i) (g i (cells s (key i))))
    {l : List ι} {k : κ} (hk : k ∉ l.map key) (s : σ) : cells (l.foldl f s) k = cells s k := by
  induction l generalizing s with
  | nil => rfl
  | cons i l ih =>
    rw [List.map_cons, List.mem_cons, not_or] at hk
    rw [List.foldl_cons, ih hk.2, hf, Function.update_of_ne hk.1]

/-- A loop that rewrites each of its cells once computes each from what it held before. -/
lemma foldl_update_of_mem
    (hf : ∀ s i, cells (f s i) = Function.update (cells s) (key i) (g i (cells s (key i))))
    {l : List ι} (hl : (l.map key).Nodup) {i : ι} (hi : i ∈ l) (s : σ) :
    cells (l.foldl f s) (key i) = g i (cells s (key i)) := by
  induction l generalizing s with
  | nil => exact absurd hi List.not_mem_nil
  | cons j l ih =>
    obtain ⟨hj, hl'⟩ := List.nodup_cons.mp hl
    rw [List.foldl_cons]
    by_cases hij : i ∈ l
    · have hne : key i ≠ key j := by
        intro h
        exact hj (h ▸ List.mem_map_of_mem hij)
      rw [ih hl' hij, hf, Function.update_of_ne hne]
    · obtain rfl : i = j := by simpa [hij] using hi
      rw [foldl_update_of_not_mem hf hj, hf, Function.update_self]

end Cells

end OpsPmd.Lib
