import OpsPmd.Detect

/-!
# Checksums of a page

`sfpp_sum_verify` compares two bytes of the serial-ID page with 8-bit sums of the bytes in
front of them. The two sums and the two bytes cover the first 96 bytes once each.
-/

namespace OpsPmd

lemma toNat_foldl_add (bs : List UInt8) (acc : UInt8) :
    (bs.foldl (· + ·) acc).toNat = (acc.toNat + (bs.map UInt8.toNat).sum) % 256 := by
  induction bs generalizing acc with
  | nil =>
    have hacc := acc.toNat_lt
    simp only [List.foldl_nil, List.map_nil, List.sum_nil]
    omega
  | cons b bs ih =>
    rw [List.foldl_cons, ih, UInt8.toNat_add, List.map_cons, List.sum_cons]
    omega

lemma sum_set_add (ns : List Nat) {k : Nat} (hk : k < ns.length) (n : Nat) :
    (ns.set k n).sum + ns[k] = ns.sum + n := by
  induction ns generalizing k with
  | nil => contradiction
  | cons m ns ih =>
    cases k with
    | zero =>
      simp only [List.set_cons_zero, List.sum_cons, List.getElem_cons_zero]
      omega
    | succ k =>
      have hrest := ih (k := k) (by simpa using hk)
      simp only [List.set_cons_succ, List.sum_cons, List.getElem_cons_succ]
      omega

/-- A wrap-around sum tells two values of one summand apart. -/
lemma eq_of_foldl_add_set {bs : List UInt8} {k : Nat} {b b' : UInt8} (hb' : bs[k]? = some b')
    (h : (bs.set k b).foldl (· + ·) (0 : UInt8) = bs.foldl (· + ·) 0) : b = b' := by
  obtain ⟨hk, rfl⟩ := List.getElem?_eq_some_iff.mp hb'
  have hsum := congrArg UInt8.toNat h
  rw [toNat_foldl_add, toNat_foldl_add, List.map_set, UInt8.toNat_zero] at hsum
  have hset := sum_set_add (bs.map UInt8.toNat) (by simpa using hk) b.toNat
  rw [List.getElem_map] at hset
  have hb := b.toNat_lt
  have hk' := bs[k].toNat_lt
  apply UInt8.toNat_inj.mp
  omega

section Segment

variable {first last : Nat} {offset : Fin 128}

lemma pmByteSum_eq_zero_iff {page : Page} :
    pmByteSum page first last offset = 0 ↔
      (page.bytes first (last + 1 - first)).foldl (· + ·) 0 = page.get offset := by
  unfold pmByteSum
  dsimp only
  split
  · rename_i hne
    constructor
    · intro h
      contradiction
    · intro h
      exact absurd h hne
  · rename_i heq
    exact ⟨fun _ => not_not.mp heq, fun _ => rfl⟩

lemma pmByteSum_nonneg (page : Page) : 0 ≤ pmByteSum page first last offset := by
  unfold pmByteSum
  dsimp only
  split
  · decide
  · decide

/-- The bytes outside of the segment and its check byte do not count. -/
lemma pmByteSum_congr {page page' : Page} (hfirst : first ≤ last)
    (h : ∀ i : Fin 128, (first ≤ i.val ∧ i.val ≤ last) ∨ i = offset → page'.get i = page.get i) :
    pmByteSum page' first last offset = pmByteSum page first last offset := by
  have hbytes : page'.bytes first (last + 1 - first) = page.bytes first (last + 1 - first) := by
    apply Page.bytes_congr
    intro i hstart hlen
    apply h
    omega
  unfold pmByteSum
  rw [hbytes, h offset (.inr rfl)]

/-- Changing one byte of the segment or its check byte is noticed. -/
lemma pmByteSum_set_ne {page : Page} (h : pmByteSum page first last offset = 0)
    (hoffset : offset.val < first ∨ last < offset.val) {i : Fin 128}
    (hi : (first ≤ i.val ∧ i.val ≤ last) ∨ i = offset) {b : UInt8} (hb : b ≠ page.get i) :
    pmByteSum (page.set i b) first last offset ≠ 0 := by
  intro h'
  have hsum := pmByteSum_eq_zero_iff.mp h
  have hsum' := pmByteSum_eq_zero_iff.mp h'
  apply hb
  by_cases heq : i = offset
  · subst heq
    rw [Page.bytes_set_of_not_mem page i b (by omega), hsum, Page.get_set_self] at hsum'
    exact hsum'.symm
  · have hrange := hi.resolve_right heq
    have hget : (page.bytes first (last + 1 - first))[i.val - first]? = some (page.get i) :=
      Page.getElem?_bytes_of_mem page i hrange.1 (by omega)
    rw [Page.bytes_set page i b _ hrange.1, Page.get_set_of_ne page i b (Ne.symm heq),
      ← hsum] at hsum'
    exact eq_of_foldl_add_set hget hsum'

end Segment

lemma sfppSumVerify_eq_zero_iff {page : Page} :
    sfppSumVerify page = 0 ↔ pmByteSum page 0 62 63 = 0 ∧ pmByteSum page 64 94 95 = 0 := by
  have hbase : 0 ≤ pmByteSum page 0 62 63 := pmByteSum_nonneg page
  have hext : 0 ≤ pmByteSum page 64 94 95 := pmByteSum_nonneg page
  unfold sfppSumVerify
  omega

lemma checked_of_lt {i : Fin 128} (h : i.val ≤ 95) :
    ((0 ≤ i.val ∧ i.val ≤ 62) ∨ i = 63) ∨ ((64 ≤ i.val ∧ i.val ≤ 94) ∨ i = 95) := by
  omega

/-- The verification succeeds exactly if both check bytes are the sums in front of them. Of a
page that it accepts, it notices every change of one byte up to byte 95, and no change of
the others. -/
theorem sfppSumVerify_detects (page : Page) :
    (sfppSumVerify page = 0 ↔
      (page.get 63).toNat = ((page.bytes 0 63).map UInt8.toNat).sum % 256 ∧
        (page.get 95).toNat = ((page.bytes 64 31).map UInt8.toNat).sum % 256) ∧
    (sfppSumVerify page = 0 →
      (∀ (i : Fin 128) (b : UInt8), i.val ≤ 95 → b ≠ page.get i →
        sfppSumVerify (page.set i b i.isLt) ≠ 0) ∧
      ∀ page' : Page, (∀ i : Fin 128, i.val ≤ 95 → page'.get i = page.get i) →
        sfppSumVerify page' = 0) := by
  refine ⟨?_, ?_⟩
  · have hsum : ∀ (bs : List UInt8) (b : UInt8), bs.foldl (· + ·) 0 = b ↔
        b.toNat = (bs.map UInt8.toNat).sum % 256 := by
      intro bs b
      have hfold := toNat_foldl_add bs 0
      rw [UInt8.toNat_zero, Nat.zero_add] at hfold
      rw [← hfold, ← UInt8.toNat_inj]
      exact eq_comm
    rw [sfppSumVerify_eq_zero_iff, pmByteSum_eq_zero_iff, pmByteSum_eq_zero_iff, hsum, hsum]
  · intro h
    obtain ⟨hbase, hext⟩ := sfppSumVerify_eq_zero_iff.mp h
    constructor
    · intro i b hi hb h'
      obtain ⟨hbase', hext'⟩ := sfppSumVerify_eq_zero_iff.mp h'
      obtain hi | hi := checked_of_lt hi
      · exact pmByteSum_set_ne hbase (.inr (by decide)) hi hb hbase'
      · exact pmByteSum_set_ne hext (.inr (by decide)) hi hb hext'
    · intro page' hsame
      have hbase' : pmByteSum page' 0 62 63 = pmByteSum page 0 62 63 := by
        apply pmByteSum_congr (by decide)
        intro i hi
        apply hsame
        omega
      have hext' : pmByteSum page' 64 94 95 = pmByteSum page 64 94 95 := by
        apply pmByteSum_congr (by decide)
        intro i hi
        apply hsame
        omega
      exact sfppSumVerify_eq_zero_iff.mpr ⟨hbase'.trans hbase, hext'.trans hext⟩

end OpsPmd
