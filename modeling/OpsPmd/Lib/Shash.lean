import Mathlib.Data.List.Forall2
import Mathlib.Data.List.Nodup
import Mathlib.Tactic.Common

/-!
# String hashes

A string hash maps names to data through a chain of nodes. Adding never looks for an
existing node of the same name; finding and deleting act on the first node of the name.
The lemmas relate the operations to membership for tables without duplicate keys.
-/

namespace OpsPmd.Lib

/-- The nodes of a string hash, in the order in which they are visited. -/
abbrev Shash (κ α : Type*) := List (κ × α)

namespace Shash

variable {κ α : Type*} [DecidableEq κ]

def keys (t : Shash κ α) : List κ := t.map Prod.fst

def find (t : Shash κ α) (k : κ) : Option α := (List.find? (fun n => n.1 = k) t).map Prod.snd

def add (t : Shash κ α) (k : κ) (a : α) : Shash κ α := t ++ [(k, a)]

def delete (t : Shash κ α) (k : κ) : Shash κ α := t.eraseP (fun n => n.1 = k)

/-- Overwrites the data of the first node of the given name. -/
def set (k : κ) (a : α) : Shash κ α → Shash κ α
  | [] => []
  | (k', a') :: t => if k' = k then (k', a) :: t else (k', a') :: set k a t

omit [DecidableEq κ] in
@[simp] lemma keys_nil : keys ([] : Shash κ α) = [] := rfl

omit [DecidableEq κ] in
@[simp] lemma keys_cons (n : κ × α) (t : Shash κ α) : keys (n :: t) = n.1 :: keys t := rfl

omit [DecidableEq κ] in
@[simp] lemma keys_add (t : Shash κ α) (k : κ) (a : α) : (t.add k a).keys = t.keys ++ [k] := by
  simp [keys, add]

omit [DecidableEq κ] in
lemma mem_keys {t : Shash κ α} {k : κ} : k ∈ t.keys ↔ ∃ a, (k, a) ∈ t := by
  simp [keys]

omit [DecidableEq κ] in
lemma mem_keys_of_mem {t : Shash κ α} {k : κ} {a : α} (h : (k, a) ∈ t) : k ∈ t.keys :=
  mem_keys.mpr ⟨a, h⟩

omit [DecidableEq κ] in
lemma snd_mem_of_mem {t : Shash κ α} {k : κ} {a : α} (h : (k, a) ∈ t) : a ∈ t.map Prod.snd :=
  List.mem_map.mpr ⟨(k, a), h, rfl⟩

lemma find_eq_none_iff {t : Shash κ α} {k : κ} : t.find k = none ↔ k ∉ t.keys := by
  simp only [find, Option.map_eq_none_iff, List.find?_eq_none, decide_eq_true_eq, mem_keys]
  constructor
  · rintro h ⟨a, ha⟩
    exact h _ ha rfl
  · rintro h ⟨k', a⟩ ha rfl
    exact h ⟨a, ha⟩

lemma mem_of_find_eq_some {t : Shash κ α} {k : κ} {a : α} (h : t.find k = some a) :
    (k, a) ∈ t := by
  obtain ⟨⟨k', a'⟩, hn, rfl⟩ := Option.map_eq_some_iff.mp h
  have hk : k' = k := by simpa using List.find?_some hn
  exact hk ▸ List.mem_of_find?_eq_some hn

lemma exists_find_of_mem_keys {t : Shash κ α} {k : κ} (h : k ∈ t.keys) :
    ∃ a, t.find k = some a := by
  cases hf : t.find k with
  | none => exact absurd h (find_eq_none_iff.mp hf)
  | some a => exact ⟨a, rfl⟩

omit [DecidableEq κ] in
lemma eq_of_mem_of_nodup {t : Shash κ α} (ht : t.keys.Nodup) {k : κ} {a b : α}
    (ha : (k, a) ∈ t) (hb : (k, b) ∈ t) : a = b := by
  have h := List.inj_on_of_nodup_map ht ha hb rfl
  exact congrArg Prod.snd h

omit [DecidableEq κ] in
lemma mem_add {t : Shash κ α} {k k' : κ} {a a' : α} :
    (k', a') ∈ t.add k a ↔ (k', a') ∈ t ∨ (k' = k ∧ a' = a) := by
  simp [add]

omit [DecidableEq κ] in
lemma nodup_add {t : Shash κ α} {k : κ} {a : α} (ht : t.keys.Nodup) (hk : k ∉ t.keys) :
    (t.add k a).keys.Nodup := by
  rw [keys_add, List.nodup_append]
  refine ⟨ht, by simp, ?_⟩
  rintro x hx y hy rfl
  exact hk (by simpa using List.mem_singleton.mp hy ▸ hx)

@[simp] lemma keys_set (t : Shash κ α) (k : κ) (a : α) : (t.set k a).keys = t.keys := by
  induction t with
  | nil => rfl
  | cons n t ih =>
    obtain ⟨k', a'⟩ := n
    by_cases h : k' = k <;> simp [set, h, ih]

/-- Overwriting touches only the node of the given name. -/
lemma mem_set {t : Shash κ α} (ht : t.keys.Nodup) {k k' : κ} {a a' : α} :
    (k', a') ∈ t.set k a ↔ (k' ≠ k ∧ (k', a') ∈ t) ∨ (k' = k ∧ a' = a ∧ k ∈ t.keys) := by
  induction t with
  | nil => simp [set]
  | cons n t ih =>
    obtain ⟨k₀, a₀⟩ := n
    rw [keys_cons, List.nodup_cons] at ht
    by_cases h : k₀ = k
    · subst h
      have hne : (k', a') ∈ t → k' ≠ k₀ := by
        rintro hm rfl
        exact ht.1 (mem_keys_of_mem hm)
      simp only [set, if_true, List.mem_cons, Prod.mk.injEq, keys_cons, true_or, and_true]
      grind
    · simp only [set, if_neg h, List.mem_cons, Prod.mk.injEq, keys_cons, ih ht.2]
      grind

lemma set_of_find {t : Shash κ α} {k : κ} {a : α} (h : t.find k = some a) : t.set k a = t := by
  induction t with
  | nil => rfl
  | cons n t ih =>
    obtain ⟨k₀, a₀⟩ := n
    by_cases hk : k₀ = k
    · have ha : a₀ = a := by simpa [find, hk] using h
      rw [set, if_pos hk, ha]
    · have hrest : find t k = some a := by simpa [find, hk] using h
      rw [set, if_neg hk, ih hrest]

lemma mem_of_mem_set {t : Shash κ α} {k k' : κ} {a a' : α} (h : (k', a') ∈ t.set k a) :
    (k', a') ∈ t ∨ k' = k ∧ a' = a := by
  induction t with
  | nil => exact absurd h List.not_mem_nil
  | cons n t ih =>
    obtain ⟨k₀, a₀⟩ := n
    unfold set at h
    split at h
    · rename_i hk
      rcases List.mem_cons.mp h with he | hmem
      · obtain ⟨rfl, rfl⟩ := Prod.mk.inj he
        exact .inr ⟨hk, rfl⟩
      · exact .inl (List.mem_cons_of_mem _ hmem)
    · rcases List.mem_cons.mp h with he | hmem
      · exact .inl (he ▸ List.mem_cons_self)
      · exact (ih hmem).imp_left (List.mem_cons_of_mem _)

/-- A node is still there after overwriting, unless it is the one that was overwritten. -/
lemma mem_set_of_mem {t : Shash κ α} {k k' : κ} {a a' : α} (h : (k', a') ∈ t) :
    (k', a') ∈ t.set k a ∨ k' = k ∧ t.find k = some a' := by
  induction t with
  | nil => exact absurd h List.not_mem_nil
  | cons n t ih =>
    obtain ⟨k₀, a₀⟩ := n
    by_cases hk : k₀ = k
    · rw [set, if_pos hk]
      rcases List.mem_cons.mp h with he | hmem
      · obtain ⟨rfl, rfl⟩ := Prod.mk.inj he
        exact .inr ⟨hk, by simp [find, hk]⟩
      · exact .inl (List.mem_cons_of_mem _ hmem)
    · rw [set, if_neg hk]
      rcases List.mem_cons.mp h with he | hmem
      · exact .inl (he ▸ List.mem_cons_self)
      · refine (ih hmem).imp (List.mem_cons_of_mem _) (And.imp_right fun hf => ?_)
        simpa [find, hk] using hf

lemma set_add {t : Shash κ α} {k : κ} (hk : k ∉ t.keys) (a b : α) :
    (t.add k a).set k b = t.add k b := by
  unfold add
  induction t with
  | nil => simp [set]
  | cons n t ih =>
    obtain ⟨k₀, a₀⟩ := n
    rw [keys_cons, List.mem_cons, not_or] at hk
    rw [List.cons_append, set, if_neg (Ne.symm hk.1), ih hk.2]
    rfl

lemma find_add {t : Shash κ α} {k : κ} (hk : k ∉ t.keys) (a : α) :
    (t.add k a).find = Function.update t.find k (some a) := by
  have hnone : t.find k = none := find_eq_none_iff.mpr hk
  funext k'
  unfold add find
  rw [List.find?_append, Option.map_or]
  by_cases h : k' = k
  · subst h
    have hfirst : (List.find? (fun n => n.1 = k') t).map Prod.snd = none := hnone
    rw [hfirst, Function.update_self]
    simp
  · rw [Function.update_of_ne h]
    simp [Ne.symm h]

lemma find_set {t : Shash κ α} {k : κ} (hk : k ∈ t.keys) (a : α) :
    (t.set k a).find = Function.update t.find k (some a) := by
  induction t with
  | nil => exact absurd hk List.not_mem_nil
  | cons n t ih =>
    obtain ⟨k₀, a₀⟩ := n
    have hcons : ∀ (b : α) (u : Shash κ α),
        find ((k₀, b) :: u) = Function.update u.find k₀ (some b) := by
      intro b u
      funext k'
      by_cases h : k' = k₀
      · simp [find, h]
      · simp [find, Ne.symm h, Function.update_of_ne h]
    by_cases h : k₀ = k
    · subst h
      rw [set, if_pos rfl, hcons, hcons, Function.update_idem]
    · have hk' : k ∈ keys t := by simpa [Ne.symm h] using hk
      rw [set, if_neg h, hcons, hcons, ih hk', Function.update_comm h]

lemma mem_iff_find {t : Shash κ α} (ht : t.keys.Nodup) {k : κ} {a : α} :
    (k, a) ∈ t ↔ t.find k = some a := by
  refine ⟨fun h => ?_, mem_of_find_eq_some⟩
  obtain ⟨b, hb⟩ := exists_find_of_mem_keys (mem_keys_of_mem h)
  rw [hb, eq_of_mem_of_nodup ht h (mem_of_find_eq_some hb)]

/-- Tables without duplicates that find the same hold the same nodes. -/
lemma perm_of_find_eq {t t' : Shash κ α} (ht : t.keys.Nodup) (ht' : t'.keys.Nodup)
    (h : t.find = t'.find) : t.Perm t' := by
  apply (List.perm_ext_iff_of_nodup (List.Nodup.of_map _ ht) (List.Nodup.of_map _ ht')).mpr
  rintro ⟨k, a⟩
  rw [mem_iff_find ht, mem_iff_find ht', h]

omit [DecidableEq κ] in
lemma keys_map (t : Shash κ α) (f : κ × α → α) : keys (t.map (fun n => (n.1, f n))) = t.keys := by
  simp [keys]

omit [DecidableEq κ] in
lemma mem_map {t : Shash κ α} {f : κ × α → α} {k : κ} {a : α} :
    (k, a) ∈ t.map (fun n => (n.1, f n)) ↔ ∃ b, (k, b) ∈ t ∧ f (k, b) = a := by
  rw [List.mem_map]
  constructor
  · rintro ⟨⟨k', b⟩, hm, he⟩
    obtain ⟨rfl, rfl⟩ := Prod.mk.inj he
    exact ⟨b, hm, rfl⟩
  · rintro ⟨b, hm, rfl⟩
    exact ⟨(k, b), hm, rfl⟩

lemma delete_eq_filter {t : Shash κ α} (ht : t.keys.Nodup) (k : κ) :
    t.delete k = t.filter (fun n => n.1 ≠ k) := by
  induction t with
  | nil => rfl
  | cons n t ih =>
    rw [keys_cons, List.nodup_cons] at ht
    by_cases h : n.1 = k
    · have hall : ∀ m ∈ t, m.1 ≠ k := by
        rintro m hm rfl
        exact ht.1 (h ▸ mem_keys_of_mem (a := m.2) hm)
      simp only [delete, List.eraseP_cons, h, decide_true, List.filter_cons, ne_eq,
        not_true_eq_false, decide_false, Bool.false_eq_true, if_false]
      exact (List.filter_eq_self.mpr (by simpa using hall)).symm
    · have hd : delete (n :: t) k = n :: delete t k := by simp [delete, h]
      rw [hd, ih ht.2, List.filter_cons_of_pos (by simpa using h)]

/-- Under each name there is at most one node. -/
lemma filter_eq_find {t : Shash κ α} (ht : t.keys.Nodup) (k : κ) :
    t.filter (fun n => n.1 = k) = (t.find k).toList.map fun a => (k, a) := by
  induction t with
  | nil => rfl
  | cons n t ih =>
    rw [keys_cons, List.nodup_cons] at ht
    by_cases h : n.1 = k
    · have hnone : find t k = none := find_eq_none_iff.mpr (h ▸ ht.1)
      have hfind : find (n :: t) k = some n.2 := by simp [find, h]
      rw [List.filter_cons_of_pos (by simpa using h), ih ht.2, hnone, hfind, ← h]
      rfl
    · have hfind : find (n :: t) k = find t k := by simp [find, h]
      rw [List.filter_cons_of_neg (by simpa using h), ih ht.2, hfind]

omit [DecidableEq κ] in
lemma nodup_filter {t : Shash κ α} (ht : t.keys.Nodup) (p : κ × α → Bool) :
    (keys (t.filter p)).Nodup :=
  (List.filter_sublist.map Prod.fst).nodup ht

lemma foldl_delete (p : κ × α → Bool) (visited t : Shash κ α) (ht : t.keys.Nodup) :
    visited.foldl (fun acc n => if p n then acc else acc.delete n.1) t =
      t.filter (fun m => visited.all (fun n => p n || m.1 ≠ n.1)) := by
  induction visited generalizing t with
  | nil => simp
  | cons n visited ih =>
    by_cases hp : p n = true
    · simp [hp, ih t ht]
    · rw [List.foldl_cons, if_neg hp, delete_eq_filter ht, ih _ (nodup_filter ht _),
        List.filter_filter]
      apply List.filter_congr
      intro m _
      simp [hp, Bool.and_comm]

/-- Visiting every node of a table and deleting those that fail a test leaves exactly the
nodes that pass it. -/
theorem foldl_delete_self (p : κ × α → Bool) (t : Shash κ α) (ht : t.keys.Nodup) :
    t.foldl (fun acc n => if p n then acc else acc.delete n.1) t = t.filter p := by
  rw [foldl_delete p t t ht]
  apply List.filter_congr
  rintro m hm
  rw [Bool.eq_iff_iff, List.all_eq_true]
  constructor
  · intro h
    simpa using h m hm
  · rintro hp n hn
    by_cases hk : m.1 = n.1
    · have hmn : m = n := List.inj_on_of_nodup_map ht hm hn hk
      simp [← hmn, hp]
    · simp [hk]

/-! ## Tables of addresses -/

/-- Where no two nodes share their data, deleting a name drops the data found under it. -/
lemma mem_delete_iff {t : Shash κ α} (ht : (t.map Prod.snd).Nodup) {k : κ} {a : α}
    (hf : t.find k = some a) {n : κ × α} : n ∈ t.delete k ↔ n ∈ t ∧ n.2 ≠ a := by
  induction t with
  | nil => simp [find] at hf
  | cons m t ih =>
    rw [List.map_cons, List.nodup_cons] at ht
    by_cases hm : m.1 = k
    · have ha : m.2 = a := by simpa [find, hm] using hf
      have hd : delete (m :: t) k = t := by simp [delete, hm]
      rw [hd, List.mem_cons]
      constructor
      · intro hn
        refine ⟨.inr hn, ?_⟩
        rintro he
        exact ht.1 (ha.trans he.symm ▸ List.mem_map.mpr ⟨n, hn, rfl⟩)
      · rintro ⟨rfl | hn, hne⟩
        · exact absurd ha hne
        · exact hn
    · have hd : delete (m :: t) k = m :: delete t k := by simp [delete, hm]
      have hf' : find t k = some a := by simpa [find, hm] using hf
      have hma : m.2 ≠ a := by
        rintro rfl
        exact ht.1 (List.mem_map.mpr ⟨(k, m.2), mem_of_find_eq_some hf', rfl⟩)
      rw [hd, List.mem_cons, List.mem_cons, ih ht.2 hf']
      constructor
      · rintro (rfl | ⟨hn, hne⟩)
        · exact ⟨.inl rfl, hma⟩
        · exact ⟨.inr hn, hne⟩
      · rintro ⟨rfl | hn, hne⟩
        · exact .inl rfl
        · exact .inr ⟨hn, hne⟩

section Related

variable {β : Type*} {R R' : α → β → Prop} {t : Shash κ α} {t' : Shash κ β} {k : κ}

/-- The tables have the same names in the same order, with related data. -/
def Related (R : α → β → Prop) (t : Shash κ α) (t' : Shash κ β) : Prop :=
  List.Forall₂ (fun n n' => n.1 = n'.1 ∧ R n.2 n'.2) t t'

omit [DecidableEq κ] in
lemma Related.keys_eq (h : Related R t t') : t.keys = t'.keys := by
  induction h with
  | nil => rfl
  | cons hn _ ih => rw [keys_cons, keys_cons, hn.1, ih]

omit [DecidableEq κ] in
lemma Related.mono (h : Related R t t')
    (hR : ∀ name a b, (name, a) ∈ t → (name, b) ∈ t' → R a b → R' a b) : Related R' t t' := by
  induction h with
  | nil => exact List.Forall₂.nil
  | @cons n n' t t' hn _ ih =>
    refine List.Forall₂.cons ⟨hn.1, hR n.1 n.2 n'.2 List.mem_cons_self ?_ hn.2⟩ (ih ?_)
    · rw [hn.1]
      exact List.mem_cons_self
    · exact fun name a b ha hb =>
        hR name a b (List.mem_cons_of_mem _ ha) (List.mem_cons_of_mem _ hb)

omit [DecidableEq κ] in
lemma Related.add (h : Related R t t') {a : α} {b : β} (hab : R a b) :
    Related R (t.add k a) (t'.add k b) :=
  List.rel_append h (List.Forall₂.cons ⟨rfl, hab⟩ List.Forall₂.nil)

lemma find_cons (n : κ × α) (t : Shash κ α) (k : κ) :
    find (n :: t) k = if n.1 = k then some n.2 else t.find k := by
  unfold find
  by_cases h : n.1 = k
  · rw [List.find?_cons_of_pos (by simpa using h), if_pos h]
    rfl
  · rw [List.find?_cons_of_neg (by simpa using h), if_neg h]

lemma Related.find_eq_none_iff (h : Related R t t') : t.find k = none ↔ t'.find k = none := by
  rw [Shash.find_eq_none_iff, Shash.find_eq_none_iff, h.keys_eq]

lemma Related.find (h : Related R t t') {b : β} (hb : t'.find k = some b) :
    ∃ a, t.find k = some a ∧ R a b := by
  induction h with
  | nil => simp [Shash.find] at hb
  | @cons n n' t t' hn _ ih =>
    rw [find_cons] at hb ⊢
    rw [hn.1]
    split
    · rename_i he
      rw [if_pos he] at hb
      exact ⟨n.2, rfl, Option.some.inj hb ▸ hn.2⟩
    · rename_i he
      rw [if_neg he] at hb
      exact ih hb

lemma Related.delete (h : Related R t t') (k : κ) : Related R (t.delete k) (t'.delete k) := by
  induction h with
  | nil => exact List.Forall₂.nil
  | @cons n n' t t' hn ht ih =>
    unfold Shash.delete
    by_cases he : n'.1 = k
    · rw [List.eraseP_cons_of_pos (by simpa [hn.1] using he),
        List.eraseP_cons_of_pos (by simpa using he)]
      exact ht
    · rw [List.eraseP_cons_of_neg (by simpa [hn.1] using he),
        List.eraseP_cons_of_neg (by simpa using he)]
      exact List.Forall₂.cons hn ih

lemma Related.overwrite (h : Related R t t') {a : α} {b : β} (hab : R a b) :
    Related R (t.set k a) (t'.set k b) := by
  induction h with
  | nil => exact List.Forall₂.nil
  | @cons n n' t t' hn ht ih =>
    obtain ⟨k₁, a₁⟩ := n
    obtain ⟨k₂, b₂⟩ := n'
    obtain ⟨hk, hab'⟩ := hn
    obtain rfl : k₁ = k₂ := hk
    unfold Shash.set
    split
    · exact List.Forall₂.cons ⟨rfl, hab⟩ ht
    · exact List.Forall₂.cons ⟨rfl, hab'⟩ ih

omit [DecidableEq κ] in
lemma Related.map (h : Related R t t') {γ δ : Type*} {S : γ → δ → Prop} {f : κ × α → γ}
    {g : κ × β → δ} (hfg : ∀ name a b, (name, a) ∈ t → R a b → S (f (name, a)) (g (name, b))) :
    Related S (t.map fun n => (n.1, f n)) (t'.map fun n => (n.1, g n)) := by
  induction h with
  | nil => exact List.Forall₂.nil
  | @cons n n' t t' hn _ ih =>
    obtain ⟨k₁, a₁⟩ := n
    obtain ⟨k₂, b₂⟩ := n'
    obtain ⟨hk, hab⟩ := hn
    obtain rfl : k₁ = k₂ := hk
    exact List.Forall₂.cons ⟨rfl, hfg k₁ a₁ b₂ List.mem_cons_self hab⟩
      (ih fun name a b ha hR => hfg name a b (List.mem_cons_of_mem _ ha) hR)

omit [DecidableEq κ] in
lemma Related.flatMap_eq (h : Related R t t') {γ : Type*} {f : κ × α → List γ}
    {g : κ × β → List γ}
    (hfg : ∀ name a b, (name, a) ∈ t → R a b → f (name, a) = g (name, b)) :
    t.flatMap f = t'.flatMap g := by
  induction h with
  | nil => rfl
  | @cons n n' t t' hn _ ih =>
    obtain ⟨k₁, a₁⟩ := n
    obtain ⟨k₂, b₂⟩ := n'
    obtain ⟨hk, hab⟩ := hn
    obtain rfl : k₁ = k₂ := hk
    rw [List.flatMap_cons, List.flatMap_cons, hfg k₁ a₁ b₂ List.mem_cons_self hab,
      ih fun name a b ha hR => hfg name a b (List.mem_cons_of_mem _ ha) hR]

/-- Where the data of one table are addresses, overwriting in the other one is a change of
what lies there. -/
lemma Related.set (h : Related R t t') (haddr : (t.map Prod.snd).Nodup) {a : α} {b : β}
    (hf : t.find k = some a) (hother : ∀ a' b', a' ≠ a → R a' b' → R' a' b') (hab : R' a b) :
    Related R' t (t'.set k b) := by
  induction h with
  | nil => simp [Shash.find] at hf
  | @cons n n' t t' hn ht ih =>
    obtain ⟨k', b'⟩ := n'
    rw [List.map_cons, List.nodup_cons] at haddr
    rw [find_cons, hn.1] at hf
    unfold Shash.set
    split
    · rename_i he
      have he' : k' = k := he
      rw [if_pos he'] at hf
      obtain rfl := Option.some.inj hf
      refine List.Forall₂.cons ⟨hn.1, hab⟩ (Related.mono ht ?_)
      intro name a' b'' ha' _ hR
      apply hother a' b'' _ hR
      rintro rfl
      exact haddr.1 (snd_mem_of_mem ha')
    · rename_i he
      have he' : ¬k' = k := he
      rw [if_neg he'] at hf
      refine List.Forall₂.cons ⟨hn.1, hother n.2 b' ?_ hn.2⟩ (ih haddr.2 hf)
      rintro rfl
      exact haddr.1 (snd_mem_of_mem (mem_of_find_eq_some hf))

end Related

end Shash

end OpsPmd.Lib
