import OpsPmd.Lib.LazyWrite
import OpsPmd.Lib.Text
import Mathlib.Data.Rat.Floor

/-!
# Exact numbers with two places

The `%4.2f` conversion of an exact rational number, rounded to nearest with ties to even,
and what `strtol` makes of its output: the digits before the point.
-/

namespace OpsPmd.Lib

/-- The nearest integer, and the even one of two. -/
def roundHalfEven (q : ℚ) : ℤ :=
  let n := ⌊q⌋
  if q - n < 1 / 2 then n
  else if 1 / 2 < q - n then n + 1
  else if n % 2 = 0 then n
  else n + 1

/-- A number without its sign in hundredths. -/
def hundredthsOf (q : ℚ) : Nat := (roundHalfEven (|q| * 100)).toNat

/-- `printf("%4.2f")`, whose output never falls short of its width. -/
def fixedTwo (q : ℚ) : Text :=
  (if q < 0 then ['-'] else []) ++ Nat.toDigits 10 (hundredthsOf q / 100) ++
    ['.', Nat.digitChar (hundredthsOf q % 100 / 10), Nat.digitChar (hundredthsOf q % 10)]

lemma roundHalfEven_intCast (n : ℤ) : roundHalfEven n = n := by
  simp [roundHalfEven]

lemma hundredthsOf_intCast (n : ℤ) : hundredthsOf n = 100 * n.natAbs := by
  have hcast : |(n : ℚ)| * 100 = ((100 * n.natAbs : ℕ) : ℤ) := by
    rw [← Int.cast_abs, Int.abs_eq_natAbs]
    push_cast
    ring
  unfold hundredthsOf
  rw [hcast, roundHalfEven_intCast, Int.toNat_natCast]

lemma roundHalfEven_le {q : ℚ} {n : ℤ} (h : q < n) : roundHalfEven q ≤ n := by
  have hfloor : ⌊q⌋ < n := Int.floor_lt.mpr h
  unfold roundHalfEven
  dsimp only
  split
  · omega
  split
  · omega
  split
  · omega
  · omega

lemma hundredthsOf_le {q : ℚ} {n : ℕ} (h : |q| * 100 < n) : hundredthsOf q ≤ n := by
  have hround : roundHalfEven (|q| * 100) ≤ (n : ℤ) := roundHalfEven_le (by exact_mod_cast h)
  unfold hundredthsOf
  omega

lemma digitsPrefix_point (base : Nat) (rest : Text) (acc : Nat) :
    digitsPrefix base ('.' :: rest) acc = acc := rfl

lemma strtolMagnitude_point (n : Nat) (rest : Text) :
    strtolMagnitude (Nat.toDigits 10 n ++ '.' :: rest) = n := by
  have hdigits : ∀ c ∈ Nat.toDigits 10 n, c.isDigit :=
    fun c hc => Nat.isDigit_of_mem_toDigits (by decide) (by decide) hc
  by_cases h : (Nat.toDigits 10 n).head? = some '0'
  · obtain rfl := head_toDigits h
    rfl
  · have hhead : (Nat.toDigits 10 n ++ '.' :: rest).head? ≠ some '0' := by
      rw [List.head?_append_of_ne_nil _ Nat.toDigits_ne_nil]
      exact h
    rw [strtolMagnitude, if_neg hhead, digitsPrefix_digits hdigits, digitsPrefix_point,
      Nat.ofDigitChars_ten_toDigits]

lemma head_toDigits_plain (n : Nat) (rest : Text) :
    ∃ c s, Nat.toDigits 10 n ++ rest = c :: s ∧ isSpace c = false ∧ c ≠ '-' ∧ c ≠ '+' := by
  obtain ⟨c, s, hs, hc⟩ := isDigit_head_toDigits n
  refine ⟨c, s ++ rest, ?_, plain_of_isDigit hc⟩
  rw [hs]
  rfl

/-- `strtol` sees the whole part of a number with two places. -/
theorem strtol_fixedTwo (q : ℚ) :
    strtol (fixedTwo q) =
      clampLong
        (if q < 0 then -((hundredthsOf q / 100 : ℕ) : ℤ) else (hundredthsOf q / 100 : ℕ)) := by
  obtain ⟨c, s, hs, hspace, hminus, hplus⟩ := head_toDigits_plain (hundredthsOf q / 100)
    ['.', Nat.digitChar (hundredthsOf q % 100 / 10), Nat.digitChar (hundredthsOf q % 10)]
  have hmag := strtolMagnitude_point (hundredthsOf q / 100)
    [Nat.digitChar (hundredthsOf q % 100 / 10), Nat.digitChar (hundredthsOf q % 10)]
  rw [hs] at hmag
  unfold fixedTwo
  by_cases hq : q < 0
  · rw [if_pos hq, if_pos hq, List.append_assoc, hs, strtol]
    have hdrop : (['-'] ++ c :: s).dropWhile isSpace = '-' :: c :: s := rfl
    rw [hdrop, List.head?_cons, if_pos rfl, List.tail_cons, hmag]
  · rw [if_neg hq, if_neg hq, List.nil_append, hs, strtol]
    have hdrop : (c :: s).dropWhile isSpace = c :: s :=
      List.dropWhile_cons_of_neg (by simp [hspace])
    have hnotMinus : ¬some c = some '-' := fun h => hminus (Option.some.inj h)
    have hnotPlus : ¬some c = some '+' := fun h => hplus (Option.some.inj h)
    rw [hdrop, List.head?_cons, if_neg hnotMinus, if_neg hnotPlus, hmag]

lemma strtol_mem (s : Text) : -2 ^ 63 ≤ strtol s ∧ strtol s < 2 ^ 63 := by
  have hclamp : ∀ n, -2 ^ 63 ≤ clampLong n ∧ clampLong n < 2 ^ 63 := by
    intro n
    unfold clampLong
    omega
  unfold strtol
  dsimp only
  split
  · exact hclamp _
  split
  · exact hclamp _
  · exact hclamp _

/-- A whole number in the range of a `long` is read back. -/
theorem strtol_fixedTwo_intCast {n : ℤ} (hl : -2 ^ 63 ≤ n) (hu : n < 2 ^ 63) :
    strtol (fixedTwo n) = n := by
  have hwhole : hundredthsOf (n : ℚ) / 100 = n.natAbs := by
    rw [hundredthsOf_intCast]
    omega
  have hsign : (if (n : ℚ) < 0 then -((n.natAbs : ℕ) : ℤ) else (n.natAbs : ℕ)) = n := by
    simp only [Int.cast_lt_zero]
    split
    · omega
    · omega
  rw [strtol_fixedTwo, hwhole, hsign]
  exact clampLong_of_mem hl hu

example : fixedTwo (-5 / 4) = "-1.25".toList := by decide +kernel

/-- What `strtol` makes of a cell, as a number. -/
def wholePart (t : Text) : ℚ := strtol t

lemma wholePart_fixedTwo_wholePart (t : Text) :
    wholePart (fixedTwo (wholePart t)) = wholePart t := by
  obtain ⟨hl, hu⟩ := strtol_mem t
  unfold wholePart
  rw [strtol_fixedTwo_intCast hl hu]

/-- The numbers end in a whole one that repeats, and before that comes one that differs from
it in its hundredths only. -/
def Hidden (values : List ℚ) : Prop :=
  ∃ before v n, ∃ m : ℕ, values = before ++ v :: List.replicate (n + 1) (m : ℚ) ∧
    100 * m < hundredthsOf v ∧ hundredthsOf v < 100 * (m + 1)

lemma wholePart_fixedTwo {v : ℚ} (h0 : 0 ≤ v) (hv : hundredthsOf v < 100 * 2 ^ 63) :
    wholePart (fixedTwo v) = (hundredthsOf v / 100 : ℕ) := by
  unfold wholePart
  rw [strtol_fixedTwo, if_neg (not_lt.mpr h0), clampLong_of_mem (by omega) (by omega),
    Int.cast_natCast]

lemma fixedTwo_of_nonneg {v : ℚ} (h0 : 0 ≤ v) :
    fixedTwo v = Nat.toDigits 10 (hundredthsOf v / 100) ++
      ['.', Nat.digitChar (hundredthsOf v % 100 / 10), Nat.digitChar (hundredthsOf v % 10)] := by
  unfold fixedTwo
  rw [if_neg (not_lt.mpr h0), List.nil_append]

/-- Only the hundredths tell a number from its whole part. -/
lemma fixedTwo_eq_wholePart_iff {v : ℚ} (h0 : 0 ≤ v) :
    fixedTwo v = fixedTwo ((hundredthsOf v / 100 : ℕ) : ℚ) ↔
      hundredthsOf v = 100 * (hundredthsOf v / 100) := by
  have hcast : hundredthsOf ((hundredthsOf v / 100 : ℕ) : ℚ) = 100 * (hundredthsOf v / 100) := by
    have := hundredthsOf_intCast (hundredthsOf v / 100 : ℕ)
    rwa [Int.cast_natCast, Int.natAbs_natCast] at this
  constructor
  · intro h
    rw [fixedTwo_of_nonneg h0, fixedTwo_of_nonneg (Nat.cast_nonneg _), hcast] at h
    obtain ⟨-, htens, hrest⟩ : _ ∧ _ ∧ _ := by
      simpa only [List.cons.injEq, true_and] using (List.append_inj' h rfl)
    have hzero : ∀ d : Fin 10, Nat.digitChar d = '0' → d.val = 0 := by decide
    have htens' := hzero ⟨hundredthsOf v % 100 / 10, by omega⟩ (by
      rw [htens, Nat.mul_mod_right]
      rfl)
    have hunits := hzero ⟨hundredthsOf v % 10, by omega⟩ (by
      rw [hrest.1, Nat.mul_mod, show 100 % 10 = 0 from rfl, Nat.zero_mul]
      rfl)
    dsimp only at htens' hunits
    omega
  · intro h
    rw [fixedTwo_of_nonneg h0, fixedTwo_of_nonneg (Nat.cast_nonneg _), hcast, ← h]

/-- For numbers in range, a cell keeps an old text exactly if it is hidden by its hundredths. -/
theorem masked_iff_hidden {values : List ℚ}
    (h : ∀ v ∈ values, 0 ≤ v ∧ hundredthsOf v < 100 * 2 ^ 63) :
    Masked fixedTwo wholePart values ↔ Hidden values := by
  constructor
  · rintro ⟨before, v, n, hvalues, hne⟩
    obtain ⟨h0, hv⟩ := h v (by rw [hvalues]; simp)
    rw [wholePart_fixedTwo h0 hv] at hvalues hne
    have hcents : hundredthsOf v ≠ 100 * (hundredthsOf v / 100) :=
      fun heq => hne ((fixedTwo_eq_wholePart_iff h0).mpr heq)
    exact ⟨before, v, n, hundredthsOf v / 100, hvalues, by omega, by omega⟩
  · rintro ⟨before, v, n, m, hvalues, hlow, hhigh⟩
    obtain ⟨h0, hv⟩ := h v (by rw [hvalues]; simp)
    obtain rfl : m = hundredthsOf v / 100 := by omega
    refine ⟨before, v, n, ?_, ?_⟩
    · rw [wholePart_fixedTwo h0 hv]
      exact hvalues
    · rw [wholePart_fixedTwo h0 hv]
      intro heq
      have hcents := (fixedTwo_eq_wholePart_iff h0).mp heq
      omega

end OpsPmd.Lib
