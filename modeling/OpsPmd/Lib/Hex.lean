import OpsPmd.Lib.Text
import Mathlib.Data.List.Induction

/-!
# Hexadecimal dumps

Bytes as pairs of upper-case digits, with a space before each byte whose index is a positive
multiple of a word size, and the decoder that skips the spaces.
-/

namespace OpsPmd.Lib

def hexDigit (d : Nat) : Char := (Nat.digitChar d).toUpper

def hexPair (b : UInt8) : Text := [hexDigit (b.toNat / 16), hexDigit (b.toNat % 16)]

/-- What stands before the byte with an index. -/
def separator (word i : Nat) : Text := if 0 < i ∧ i % word = 0 then [' '] else []

/-- The dump of bytes whose first has index `i`. -/
def hexDump (word : Nat) : Nat → List UInt8 → Text
  | _, [] => []
  | i, b :: bs => separator word i ++ hexPair b ++ hexDump word (i + 1) bs

def decodePairs : Text → Option (List UInt8)
  | [] => some []
  | [_] => none
  | hi :: lo :: s =>
    match digitValue hi, digitValue lo, decodePairs s with
    | some h, some l, some bs =>
      if h < 16 ∧ l < 16 then some (UInt8.ofNat (16 * h + l) :: bs) else none
    | _, _, _ => none

/-- The bytes of a dump. -/
def unhex (s : Text) : Option (List UInt8) := decodePairs (s.filter (· ≠ ' '))

lemma hexDigit_spec {d : Nat} (h : d < 16) :
    digitValue (hexDigit d) = some d ∧ hexDigit d ≠ ' ' ∧ hexDigit d ≠ '\x00' := by
  have hall : ∀ d : Fin 16, digitValue (hexDigit d) = some d.val ∧ hexDigit d ≠ ' ' ∧
      hexDigit d ≠ '\x00' := by decide
  exact hall ⟨d, h⟩

lemma decodePairs_hexPair (b : UInt8) (s : Text) :
    decodePairs (hexPair b ++ s) = (decodePairs s).map (b :: ·) := by
  have hb := b.toNat_lt
  have hh : b.toNat / 16 < 16 := by omega
  have hl : b.toNat % 16 < 16 := by omega
  have hsum : 16 * (b.toNat / 16) + b.toNat % 16 = b.toNat := by omega
  show decodePairs (hexDigit (b.toNat / 16) :: hexDigit (b.toNat % 16) :: s) = _
  rw [decodePairs, (hexDigit_spec hh).1, (hexDigit_spec hl).1]
  cases decodePairs s with
  | none => rfl
  | some bs => simp [hh, hl, hsum]

lemma filter_separator (word i : Nat) : (separator word i).filter (· ≠ ' ') = [] := by
  unfold separator
  split
  · rfl
  · rfl

lemma filter_hexPair (b : UInt8) : (hexPair b).filter (· ≠ ' ') = hexPair b := by
  have hb := b.toNat_lt
  have hh := (hexDigit_spec (d := b.toNat / 16) (by omega)).2.1
  have hl := (hexDigit_spec (d := b.toNat % 16) (by omega)).2.1
  simp [hexPair, hh, hl]

/-- Dumps are read back. -/
theorem unhex_hexDump (word i : Nat) (bs : List UInt8) : unhex (hexDump word i bs) = some bs := by
  unfold unhex
  induction bs generalizing i with
  | nil => rfl
  | cons b bs ih =>
    rw [hexDump, List.filter_append, List.filter_append, filter_separator, filter_hexPair,
      List.nil_append, decodePairs_hexPair, ih]
    rfl

lemma ne_nul_of_mem_hexDump {word i : Nat} {bs : List UInt8} {c : Char}
    (h : c ∈ hexDump word i bs) : c ≠ '\x00' := by
  induction bs generalizing i with
  | nil => exact absurd h List.not_mem_nil
  | cons b bs ih =>
    have hb := b.toNat_lt
    rw [hexDump, List.mem_append, List.mem_append] at h
    obtain (hsep | hpair) | hrest := h
    · unfold separator at hsep
      split at hsep
      · obtain rfl := List.mem_singleton.mp hsep
        decide
      · contradiction
    · obtain rfl | hlow := List.mem_cons.mp hpair
      · exact (hexDigit_spec (by omega)).2.2
      · obtain rfl := List.mem_singleton.mp hlow
        exact (hexDigit_spec (by omega)).2.2
    · exact ih hrest

lemma length_hexDump_append (word i : Nat) (bs : List UInt8) (b : UInt8) :
    (hexDump word i (bs ++ [b])).length =
      (hexDump word i bs).length + (separator word (i + bs.length)).length + 2 := by
  induction bs generalizing i with
  | nil => simp [hexDump, hexPair]
  | cons a bs ih =>
    have hi : i + 1 + bs.length = i + (a :: bs).length := by
      rw [List.length_cons]
      omega
    rw [List.cons_append, hexDump, List.length_append, ih, hi]
    simp only [hexDump, List.length_append]
    omega

lemma length_separator (word n : Nat) : (separator word n).length + (n - 1) / word = n / word := by
  unfold separator
  cases n with
  | zero => simp
  | succ n =>
    rw [Nat.succ_div, Nat.add_sub_cancel]
    by_cases h : word ∣ n + 1
    · rw [if_pos ⟨Nat.succ_pos n, Nat.mod_eq_zero_of_dvd h⟩, if_pos h, List.length_singleton]
      omega
    · rw [if_neg fun hmod => h (Nat.dvd_of_mod_eq_zero hmod.2), if_neg h, List.length_nil]
      omega

/-- The size of a dump that starts with index 0. -/
theorem length_hexDump (word : Nat) (bs : List UInt8) :
    (hexDump word 0 bs).length = 2 * bs.length + (bs.length - 1) / word := by
  induction bs using List.reverseRecOn with
  | nil => simp [hexDump]
  | append_singleton bs b ih =>
    have hsep := length_separator word bs.length
    rw [length_hexDump_append, ih, List.length_append, List.length_singleton, Nat.zero_add,
      Nat.add_sub_cancel]
    omega

end OpsPmd.Lib
