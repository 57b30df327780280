import OpsPmd.Lib.Run
import OpsPmd.Lib.Shash

/-!
# Computations that may fault

A computation that may fault is specified by the condition under which it comes to its end and
by what holds of its result. Such specifications compose, and loops and runs that may fault can
be followed by ones that cannot: the condition is then one on the states of the latter.
-/

namespace OpsPmd.Lib

/-- The computation has a result exactly under the condition, and the result has the property. -/
structure Outcome {α : Type*} (ok : Prop) (o : Option α) (P : α → Prop) : Prop where
  isSome_iff : o.isSome = true ↔ ok
  post : ∀ a, o = some a → P a

namespace Outcome

variable {α β : Type*} {ok ok' : Prop} {o : Option α} {P Q : α → Prop}

lemma of_exists (hok : ok) (h : ∃ a, o = some a ∧ P a) : Outcome ok o P := by
  obtain ⟨a, rfl, ha⟩ := h
  refine ⟨iff_of_true rfl hok, ?_⟩
  rintro a' he
  obtain rfl := Option.some.inj he
  exact ha

lemma exists_result (h : Outcome ok o P) (hok : ok) : ∃ a, o = some a ∧ P a := by
  obtain ⟨a, ha⟩ := Option.isSome_iff_exists.mp (h.isSome_iff.mpr hok)
  exact ⟨a, ha, h.post a ha⟩

lemma of_result (h : Outcome ok o P) {a : α} (ha : o = some a) : ok := by
  apply h.isSome_iff.mp
  rw [ha]
  rfl

lemma none (hok : ¬ok) : Outcome ok (Option.none : Option α) P := by
  refine ⟨iff_of_false ?_ hok, ?_⟩
  · exact Bool.false_ne_true
  · intro a ha
    contradiction

lemma mono (h : Outcome ok o P) (hPQ : ∀ a, P a → Q a) : Outcome ok o Q :=
  ⟨h.isSome_iff, fun a ha => hPQ a (h.post a ha)⟩

lemma congr (h : Outcome ok o P) (hok : ok ↔ ok') : Outcome ok' o P :=
  ⟨h.isSome_iff.trans hok, h.post⟩

/-- The condition on a sequence is one on its first part and, after it, one on the second. -/
lemma bind {f : α → Option β} {R : β → Prop} (h : Outcome ok o P) (hok : ok' → ok)
    (hf : ok → ∀ a, P a → Outcome ok' (f a) R) : Outcome ok' (o.bind f) R := by
  cases ho : o with
  | none =>
    refine none fun hok' => ?_
    have hsome := h.isSome_iff.mpr (hok hok')
    rw [ho] at hsome
    contradiction
  | some a => exact hf (h.of_result ho) a (h.post a ho)

lemma map {f : α → β} {R : β → Prop} (h : Outcome ok o P) (hf : ∀ a, P a → R (f a)) :
    Outcome ok (o.map f) R := by
  refine ⟨?_, ?_⟩
  · rw [Option.isSome_map]
    exact h.isSome_iff
  · rintro b hb
    obtain ⟨a, ha, rfl⟩ := Option.map_eq_some_iff.mp hb
    exact hf a (h.post a ha)

section Loops

variable {σ τ ι : Type*} {R : σ → τ → Prop} {N : τ → Prop} {f : σ → ι → Option σ} {g : τ → ι → τ}

/-- A loop whose turns may fault comes to its end exactly if the loop that it follows ends in a
good state, where a state that is not good never becomes good again. -/
theorem foldlM {l : List ι}
    (hstep : ∀ s t, ∀ i ∈ l, R s t → N t → Outcome (N (g t i)) (f s i) fun s' => R s' (g t i))
    (hkeep : ∀ t, ∀ i ∈ l, N (g t i) → N t) {s : σ} {t : τ} (h : R s t) (ht : N t) :
    Outcome (N (l.foldl g t)) (l.foldlM f s) fun s' => R s' (l.foldl g t) := by
  induction l generalizing s t with
  | nil => exact of_exists ht ⟨s, rfl, h⟩
  | cons i l ih =>
    have hkeep' : ∀ t, ∀ j ∈ l, N (g t j) → N t := fun t j hj =>
      hkeep t j (List.mem_cons_of_mem i hj)
    rw [List.foldlM_cons, List.foldl_cons]
    refine (hstep s t i List.mem_cons_self h ht).bind (foldl_reflects hkeep') fun hi s' hs' => ?_
    exact ih (fun s t j hj => hstep s t j (List.mem_cons_of_mem i hj)) hkeep' hs' hi

/-- A system that may fault comes to the end of an admissible run exactly if the system that it
follows is in a good state after each step of it. -/
theorem along {step : τ → ι → τ} {admissible : τ → ι → Prop} {inputs : List ι}
    (hstep : ∀ s t i, R s t → N t → admissible t i →
      Outcome (N (step t i)) (f s i) fun s' => R s' (step t i)) {s : σ} {t : τ} (h : R s t)
    (ht : N t) (hok : Along step admissible t inputs) :
    Outcome (Along step (fun t i => N (step t i)) t inputs) (inputs.foldlM f s)
      fun s' => R s' (run step t inputs) := by
  induction inputs generalizing s t with
  | nil => exact of_exists trivial ⟨s, rfl, h⟩
  | cons i inputs ih =>
    rw [List.foldlM_cons]
    exact (hstep s t i h ht hok.1).bind And.left fun hi s' hs' =>
      (ih hs' hi hok.2).congr (and_iff_right hi).symm

end Loops

end Outcome

/-- A loop over nodes at different addresses, each turn of which may drop its own node and leaves
those at other addresses alone. -/
theorem exists_foldlM_apart {ι κ α σ τ : Type*} {addr : ι → α} {S : σ → ι → κ → Prop}
    {I : σ → τ → Prop} {f : σ → ι → Option σ} {g : τ → κ → τ}
    (hstep : ∀ s t i k, I s t → S s i k → ∃ s', f s i = some s' ∧ I s' (g t k) ∧
      ∀ j l, addr j ≠ addr i → S s j l → S s' j l)
    {nodes : List ι} {rest : List κ} {s : σ} {t : τ} (h : List.Forall₂ (S s) nodes rest)
    (haddr : (nodes.map addr).Nodup) (hI : I s t) :
    ∃ s', nodes.foldlM f s = some s' ∧ I s' (rest.foldl g t) := by
  induction nodes generalizing rest s t with
  | nil =>
    cases h
    exact ⟨s, rfl, hI⟩
  | cons i nodes ih =>
    cases h with
    | @cons _ k _ rest hi h =>
      rw [List.map_cons, List.nodup_cons] at haddr
      obtain ⟨s₁, hf, hI₁, hframe⟩ := hstep s t i k hI hi
      have hne : ∀ j ∈ nodes, addr j ≠ addr i := by
        intro j hj he
        exact haddr.1 (he ▸ List.mem_map_of_mem hj)
      have h₁ : List.Forall₂ (S s₁) nodes rest :=
        ((List.forall₂_and_left nodes rest).mpr ⟨hne, h⟩).imp fun j l hj => hframe j l hj.1 hj.2
      rw [List.foldlM_cons, List.foldl_cons, hf]
      exact ih h₁ haddr.2 hI₁

/-- A loop over a table of addresses that changes what lies at one of them at each turn. -/
theorem Shash.Related.foldlM {κ α β σ ω : Type*} {S : σ → α → β → Prop}
    {f : σ → κ × α → Option σ} {I : σ → Prop} {log : σ → List ω} {g : κ × β → β}
    {out : κ × β → List ω} {ok : κ × β → Prop}
    (hstep : ∀ s n b, I s → S s n.2 b → Outcome (ok (n.1, b)) (f s n) fun s' =>
      I s' ∧ S s' n.2 (g (n.1, b)) ∧ log s' = log s ++ out (n.1, b) ∧
        ∀ a b', a ≠ n.2 → S s a b' → S s' a b')
    {t : Shash κ α} {t' : Shash κ β} {s : σ} (h : Related (S s) t t')
    (haddr : (t.map Prod.snd).Nodup) (hI : I s) :
    Outcome (∀ n ∈ t', ok n) (t.foldlM f s) fun s' =>
      I s' ∧ log s' = log s ++ t'.flatMap out ∧ Related (S s') t (t'.map fun n => (n.1, g n)) ∧
        ∀ a b, a ∉ t.map Prod.snd → S s a b → S s' a b := by
  induction t generalizing s t' with
  | nil =>
    cases h
    exact .of_exists (by simp) ⟨s, rfl, hI, by simp, List.Forall₂.nil, fun _ _ _ hS => hS⟩
  | cons n t ih =>
    cases h with
    | @cons _ n' _ t' hn ht =>
      rw [List.map_cons, List.nodup_cons] at haddr
      have hname : ((n.1, n'.2) : κ × β) = n' := by rw [hn.1]
      have hfirst := hstep s n n'.2 hI hn.2
      rw [hname] at hfirst
      rw [List.foldlM_cons]
      refine hfirst.bind (fun hall => hall n' List.mem_cons_self) ?_
      rintro hok s₁ ⟨hI₁, hS₁, hlog₁, hframe₁⟩
      have ht₁ : Related (S s₁) t t' := by
        refine Related.mono ht fun name a b ha _ hS => hframe₁ a b ?_ hS
        rintro rfl
        exact haddr.1 (snd_mem_of_mem ha)
      refine ((ih ht₁ haddr.2 hI₁).congr ?_).mono ?_
      · simp [hok]
      rintro s₂ ⟨hI₂, hlog₂, ht₂, hframe₂⟩
      refine ⟨hI₂, ?_, ?_, ?_⟩
      · rw [hlog₂, hlog₁, List.flatMap_cons, List.append_assoc]
      · rw [List.map_cons]
        exact List.Forall₂.cons ⟨hn.1, hframe₂ _ _ haddr.1 hS₁⟩ ht₂
      · intro a b hmem hS
        rw [List.map_cons, List.mem_cons, not_or] at hmem
        exact hframe₂ a b hmem.2 (hframe₁ a b hmem.1 hS)

end OpsPmd.Lib
