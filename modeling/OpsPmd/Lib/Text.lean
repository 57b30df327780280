import Mathlib.Algebra.Group.Int.Defs
import Mathlib.Data.List.Basic
import Mathlib.Tactic.Common
import Mathlib.Data.Int.Order.Basic

/-!
# C strings and decimal numerals

A C string is a list of characters, one for each byte before the terminating NUL. The
file has the `%d` conversion, `strtol` with base 0, and the fact that the second undoes
the first on the range of a 64-bit `long`.
-/

namespace OpsPmd.Lib

/-- The bytes of a C string, without the terminator, read as Latin-1 characters. -/
abbrev Text := List Char

def charOfByte (b : UInt8) : Char := Char.ofNat b.toNat

/-- What the string functions see of a buffer: everything before its first NUL. -/
def cstring (buf : List UInt8) : Text := (buf.takeWhile (· ≠ 0)).map charOfByte

/-- `printf("%d")` -/
def decimal (n : Int) : Text :=
  if n < 0 then '-' :: Nat.toDigits 10 n.natAbs else Nat.toDigits 10 n.natAbs

/-- `isspace` in the C locale -/
def isSpace (c : Char) : Bool := c = ' ' || (9 ≤ c.toNat && c.toNat ≤ 13)

def digitValue (c : Char) : Option Nat :=
  if 48 ≤ c.toNat ∧ c.toNat ≤ 57 then some (c.toNat - 48)
  else if 97 ≤ c.toNat ∧ c.toNat ≤ 122 then some (c.toNat - 87)
  else if 65 ≤ c.toNat ∧ c.toNat ≤ 90 then some (c.toNat - 55)
  else none

/-- Accumulates the longest prefix of digits of the base. -/
def digitsPrefix (base : Nat) : Text → Nat → Nat
  | [], acc => acc
  | c :: s, acc =>
    match digitValue c with
    | some d => if d < base then digitsPrefix base s (base * acc + d) else acc
    | none => acc

/-- A prefix `0x` counts only before a hexadecimal digit. -/
def hasHexPrefix (s : Text) : Bool :=
  (s[1]? = some 'x' || s[1]? = some 'X') && ((s[2]?.bind digitValue).any (· < 16))

def strtolMagnitude (s : Text) : Nat :=
  if s.head? = some '0' then
    if hasHexPrefix s then digitsPrefix 16 (s.drop 2) 0 else digitsPrefix 8 s 0
  else digitsPrefix 10 s 0

/-- Saturation at `LONG_MIN` and `LONG_MAX`. -/
def clampLong (n : Int) : Int := max (-2 ^ 63) (min n (2 ^ 63 - 1))

/-- `strtol(s, NULL, 0)` with a 64-bit `long` -/
def strtol (s : Text) : Int :=
  let t := s.dropWhile isSpace
  if t.head? = some '-' then clampLong (-(strtolMagnitude t.tail : Int))
  else if t.head? = some '+' then clampLong (strtolMagnitude t.tail)
  else clampLong (strtolMagnitude t)

lemma digitValue_of_isDigit {c : Char} (h : c.isDigit) : digitValue c = some (c.toNat - 48) := by
  have hc : 48 ≤ c.toNat ∧ c.toNat ≤ 57 := by
    simpa [Char.isDigit, UInt32.le_iff_toNat_le] using h
  rw [digitValue, if_pos hc]

lemma digitsPrefix_digits {l : Text} (hl : ∀ c ∈ l, c.isDigit) (rest : Text) (acc : Nat) :
    digitsPrefix 10 (l ++ rest) acc = digitsPrefix 10 rest (Nat.ofDigitChars 10 l acc) := by
  induction l generalizing acc with
  | nil => rfl
  | cons c l ih =>
    have hc : c.isDigit := hl c List.mem_cons_self
    have hlt : c.toNat - 48 < 10 := by
      have : 48 ≤ c.toNat ∧ c.toNat ≤ 57 := by
        simpa [Char.isDigit, UInt32.le_iff_toNat_le] using hc
      omega
    rw [List.cons_append, digitsPrefix, digitValue_of_isDigit hc]
    simp only [hlt, if_true]
    rw [ih fun d hd => hl d (List.mem_cons_of_mem _ hd), Nat.ofDigitChars_cons]
    rfl

lemma digitsPrefix_toDigits (n : Nat) : digitsPrefix 10 (Nat.toDigits 10 n) 0 = n := by
  have h := digitsPrefix_digits (l := Nat.toDigits 10 n)
    (fun c hc => Nat.isDigit_of_mem_toDigits (by decide) (by decide) hc) [] 0
  rw [List.append_nil, Nat.ofDigitChars_ten_toDigits] at h
  exact h

/-- No numeral but `0` itself starts with a zero, which `strtol` would take as octal. -/
lemma head_toDigits {n : Nat} (h : (Nat.toDigits 10 n).head? = some '0') : n = 0 := by
  induction n using Nat.strongRecOn with
  | ind n ih =>
    rw [Nat.toDigits_eq_if (by decide)] at h
    split at h
    · rename_i hn
      have hc : Nat.digitChar n = '0' := by simpa using h
      have := Nat.toNat_digitChar_of_lt_ten hn
      rw [hc] at this
      have h48 : '0'.toNat = 48 := rfl
      omega
    · rw [List.head?_append_of_ne_nil _ Nat.toDigits_ne_nil] at h
      have := ih (n / 10) (by omega) h
      omega

lemma strtolMagnitude_toDigits (n : Nat) : strtolMagnitude (Nat.toDigits 10 n) = n := by
  by_cases h : (Nat.toDigits 10 n).head? = some '0'
  · obtain rfl := head_toDigits h
    rfl
  · rw [strtolMagnitude, if_neg h, digitsPrefix_toDigits]

lemma isDigit_head_toDigits (n : Nat) :
    ∃ c s, Nat.toDigits 10 n = c :: s ∧ c.isDigit := by
  cases h : Nat.toDigits 10 n with
  | nil => exact absurd h Nat.toDigits_ne_nil
  | cons c s =>
    refine ⟨c, s, rfl, Nat.isDigit_of_mem_toDigits (b := 10) (n := n) (by decide) (by decide) ?_⟩
    rw [h]
    exact List.mem_cons_self

/-- A digit is neither a space nor a sign. -/
lemma plain_of_isDigit {c : Char} (hc : c.isDigit = true) :
    isSpace c = false ∧ c ≠ '-' ∧ c ≠ '+' := by
  have hcn : 48 ≤ c.toNat ∧ c.toNat ≤ 57 := by
    simpa [Char.isDigit, UInt32.le_iff_toNat_le] using hc
  have hne : ∀ d : Char, d.toNat < 48 → c ≠ d := by
    rintro d hd rfl
    omega
  refine ⟨?_, hne '-' (by decide), hne '+' (by decide)⟩
  have h1 : c ≠ ' ' := hne ' ' (by decide)
  simp only [isSpace, h1, decide_false, Bool.false_or, Bool.and_eq_false_iff,
    decide_eq_false_iff_not]
  omega

lemma decimal_of_neg {n : Int} (h : n < 0) : decimal n = '-' :: Nat.toDigits 10 n.natAbs := if_pos h

lemma decimal_of_nonneg {n : Int} (h : 0 ≤ n) : decimal n = Nat.toDigits 10 n.natAbs :=
  if_neg (by omega)

lemma clampLong_of_mem {n : Int} (hl : -2 ^ 63 ≤ n) (hu : n < 2 ^ 63) : clampLong n = n := by
  rw [clampLong, min_eq_left (by omega), max_eq_right hl]

/-- Reading back a number written with `%d` gives the number, in the range of a `long`. -/
theorem strtol_decimal {n : Int} (hl : -2 ^ 63 ≤ n) (hu : n < 2 ^ 63) :
    strtol (decimal n) = n := by
  by_cases hn : n < 0
  · have hd := decimal_of_neg hn
    have ht : (decimal n).dropWhile isSpace = decimal n := by
      rw [hd, List.dropWhile_cons_of_neg (by decide)]
    have hv : (-(n.natAbs : Int)) = n := by omega
    rw [strtol, ht, hd]
    simp only [List.head?_cons, if_true, List.tail_cons, strtolMagnitude_toDigits, hv]
    exact clampLong_of_mem hl hu
  · have hd := decimal_of_nonneg (n := n) (by omega)
    obtain ⟨c, s, hs, hc⟩ := isDigit_head_toDigits n.natAbs
    obtain ⟨hsp, hminus, hplus⟩ := plain_of_isDigit hc
    have ht : (decimal n).dropWhile isSpace = decimal n := by
      rw [hd, hs, List.dropWhile_cons_of_neg (by simp [hsp])]
    have h1 : (decimal n).head? ≠ some '-' := by
      rw [hd, hs]
      simpa using hminus
    have h2 : (decimal n).head? ≠ some '+' := by
      rw [hd, hs]
      simpa using hplus
    have hv : ((n.natAbs : Nat) : Int) = n := by omega
    rw [strtol, ht]
    simp only [h1, h2, if_false]
    rw [hd, strtolMagnitude_toDigits, hv]
    exact clampLong_of_mem hl hu

example : strtol "  -0x1Fz".toList = -31 := by decide

/-- Reads a whole number of any size, with an optional minus sign. -/
def readDecimal (s : Text) : Int :=
  if s.head? = some '-' then -(digitsPrefix 10 s.tail 0 : Int) else digitsPrefix 10 s 0

lemma readDecimal_decimal (n : Int) : readDecimal (decimal n) = n := by
  by_cases hn : n < 0
  · rw [decimal_of_neg hn, readDecimal]
    simp only [List.head?_cons, if_true, List.tail_cons, digitsPrefix_toDigits]
    omega
  · obtain ⟨c, s, hs, hc⟩ := isDigit_head_toDigits n.natAbs
    have hminus : (Nat.toDigits 10 n.natAbs).head? ≠ some '-' := by
      rw [hs]
      rintro h
      obtain rfl := Option.some.inj h
      contradiction
    rw [decimal_of_nonneg (by omega), readDecimal, if_neg hminus, digitsPrefix_toDigits]
    omega

/-- A numeral has digits and perhaps a minus sign, nothing else. -/
lemma isDigit_of_mem_decimal {n : Int} {c : Char} (h : c ∈ decimal n) : c = '-' ∨ c.isDigit := by
  have hdigits : ∀ c ∈ Nat.toDigits 10 n.natAbs, c.isDigit := fun c hc =>
    Nat.isDigit_of_mem_toDigits (by decide) (by decide) hc
  by_cases hn : n < 0
  · rw [decimal_of_neg hn] at h
    exact (List.mem_cons.mp h).imp_right (hdigits c)
  · rw [decimal_of_nonneg (by omega)] at h
    exact .inr (hdigits c h)

/-- Numbers in order, separated by single spaces. -/
def spaced (ns : List Int) : Text := [' '].intercalate (ns.map decimal)

/-- The numbers of a separated list. -/
def readSpaced (s : Text) : List Int := (s.splitOn ' ').map readDecimal

lemma intercalate_concat {α : Type*} (sep : List α) {ls : List (List α)} (h : ls ≠ [])
    (l : List α) : sep.intercalate (ls ++ [l]) = sep.intercalate ls ++ sep ++ l := by
  induction ls with
  | nil => contradiction
  | cons l₀ ls ih =>
    cases ls with
    | nil => simp [List.intercalate_cons_cons]
    | cons l₁ ls =>
      have hrest := ih (List.cons_ne_nil l₁ ls)
      simp only [List.cons_append, List.intercalate_cons_cons] at hrest ⊢
      rw [hrest]
      simp only [List.append_assoc]

lemma spaced_concat {ns : List Int} (h : ns ≠ []) (n : Int) :
    spaced (ns ++ [n]) = spaced ns ++ [' '] ++ decimal n := by
  unfold spaced
  rw [List.map_append, List.map_singleton, intercalate_concat [' '] (by simpa using h)]

/-- Lists of numbers are read back, but for the empty list, which leaves no text. -/
theorem readSpaced_spaced {ns : List Int} (h : ns ≠ []) : readSpaced (spaced ns) = ns := by
  have hspace : ∀ text ∈ ns.map decimal, ' ' ∉ text := by
    intro text htext hmem
    obtain ⟨n, -, rfl⟩ := List.mem_map.mp htext
    obtain hc | hc := isDigit_of_mem_decimal hmem
    · contradiction
    · contradiction
  have hread : readDecimal ∘ decimal = id := funext readDecimal_decimal
  unfold readSpaced spaced
  rw [List.splitOn_intercalate ' ' hspace (by simpa using h), List.map_map, hread, List.map_id]

end OpsPmd.Lib
