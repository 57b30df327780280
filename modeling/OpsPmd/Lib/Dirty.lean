import OpsPmd.Lib.Run

/-!
# Change flags

A record carries some content and a flag that asks for its publication. An operation
tracks changes when it can leave the flag clear only by changing nothing. If every
operation but publication tracks changes, a record whose flag is clear holds exactly what
was published last.
-/

namespace OpsPmd.Lib

section Tracks

variable {σ γ : Type*} (dirty : σ → Bool) (content : σ → γ)

/-- The flag is clear afterwards only if it was clear and the content is the same. -/
def Tracks (s s' : σ) : Prop := dirty s' = false → dirty s = false ∧ content s' = content s

variable {dirty content}

@[refl] lemma Tracks.refl (s : σ) : Tracks dirty content s s := fun h => ⟨h, rfl⟩

@[trans] lemma Tracks.trans {s s' s'' : σ} (h : Tracks dirty content s s')
    (h' : Tracks dirty content s' s'') : Tracks dirty content s s'' := by
  intro hd
  obtain ⟨hd', hc'⟩ := h' hd
  obtain ⟨hd'', hc⟩ := h hd'
  exact ⟨hd'', hc'.trans hc⟩

lemma Tracks.of_dirty {s s' : σ} (h : dirty s' = true) : Tracks dirty content s s' := by
  intro hd
  rw [h] at hd
  contradiction

lemma Tracks.of_eq {s s' : σ} (hd : dirty s' = dirty s) (hc : content s' = content s) :
    Tracks dirty content s s' := fun h => ⟨hd ▸ h, hc⟩

lemma Tracks.foldl {β : Type*} {f : σ → β → σ} (hf : ∀ s b, Tracks dirty content s (f s b))
    (l : List β) (s : σ) : Tracks dirty content s (l.foldl f s) := by
  induction l generalizing s with
  | nil => rfl
  | cons b l ih => exact (hf s b).trans (ih (f s b))

end Tracks

section Publication

variable {σ ι γ : Type*} (step : σ → ι → σ) (dirty : σ → Bool) (content : σ → γ)
  (publishes : σ → ι → Bool)

/-- What was published last, or was there at the start with a clear flag. -/
def published (s : σ) (base : Option γ) : List ι → Option γ
  | [] => base
  | i :: inputs =>
    published (step s i) (if publishes s i then some (content (step s i)) else base) inputs

variable {step dirty content publishes}

/-- Clear flags tell the truth along every run of operations that track changes. -/
theorem content_eq_published
    (htrack : ∀ s i, publishes s i = false → Tracks dirty content s (step s i))
    {inputs : List ι} {s : σ} {base : Option γ} (hbase : dirty s = false → base = some (content s))
    (h : dirty (run step s inputs) = false) :
    published step content publishes s base inputs = some (content (run step s inputs)) := by
  induction inputs generalizing s base with
  | nil => exact hbase h
  | cons i inputs ih =>
    refine ih (fun hd => ?_) h
    by_cases hp : publishes s i = true
    · rw [if_pos hp]
    · rw [if_neg hp]
      have hp' : publishes s i = false := by simpa using hp
      obtain ⟨hd', hc⟩ := htrack s i hp' hd
      rw [hbase hd', hc]

end Publication

end OpsPmd.Lib
