import OpsPmd.Detect
import OpsPmd.Lib.Hex

/-!
# Raw pages as text

The loop of `hex_to_ascii` leaves the dump of its buffer in the memory it allocated.
-/

namespace OpsPmd

open Lib

lemma asciiMap_eq {d : Nat} (h : d < 16) : asciiMap.getD d '\x00' = hexDigit d := by
  have hall : ∀ d : Fin 16, asciiMap.getD d.val '\x00' = hexDigit d := by decide
  exact hall ⟨d, h⟩

/-- Masking undoes the sign extension of a byte. -/
lemma nibbles (b : UInt8) :
    ((b.toBitVec.signExtend 32 &&& 0xf0) >>> 4).toNat = b.toNat / 16 ∧
      (b.toBitVec.signExtend 32 &&& 0xf).toNat = b.toNat % 16 := by
  have hall : ∀ v : BitVec 8, ((v.signExtend 32 &&& 0xf0) >>> 4).toNat = v.toNat / 16 ∧
      (v.signExtend 32 &&& 0xf).toNat = v.toNat % 16 := by decide +kernel
  exact hall b.toBitVec

/-- A write right after the text that stands in a buffer. -/
lemma set_next (text pad : Text) (p c : Char) :
    (text ++ p :: pad).set text.length c = (text ++ [c]) ++ pad := by
  rw [List.set_append_right _ _ le_rfl, Nat.sub_self, List.set_cons_zero, List.append_assoc]
  rfl

lemma length_snoc (text : Text) (c : Char) : (text ++ [c]).length = text.length + 1 := by
  rw [List.length_append, List.length_singleton]

lemma exists_two {pad : Text} (h : 2 ≤ pad.length) : ∃ p q rest, pad = p :: q :: rest := by
  cases pad with
  | nil => simp at h
  | cons p pad =>
    cases pad with
    | nil => simp at h
    | cons q rest => exact ⟨p, q, rest, rfl⟩

lemma hexStep_append (text pad : Text) (b : UInt8) (i : Nat)
    (hpad : (separator 4 i ++ hexPair b).length ≤ pad.length) :
    hexStep (text ++ pad, text.length) (b, i) =
      (text ++ (separator 4 i ++ hexPair b) ++ pad.drop (separator 4 i ++ hexPair b).length,
        (text ++ (separator 4 i ++ hexPair b)).length) := by
  obtain ⟨hhi, hlo⟩ := nibbles b
  have hb := b.toNat_lt
  have hpair : ∀ (text : Text) (p q : Char) (pad : Text),
      ((text ++ p :: q :: pad).set text.length (hexDigit (b.toNat / 16))).set (text.length + 1)
        (hexDigit (b.toNat % 16)) = (text ++ hexPair b) ++ pad := by
    intro text p q pad
    rw [set_next, ← length_snoc text (hexDigit (b.toNat / 16)), set_next, List.append_assoc text]
    rfl
  unfold hexStep
  dsimp only
  rw [hhi, hlo, asciiMap_eq (by omega), asciiMap_eq (by omega)]
  unfold separator at hpad ⊢
  split
  · rename_i h
    rw [if_pos h] at hpad
    have hthree : 3 ≤ pad.length := hpad
    obtain ⟨p, q, rest, rfl⟩ := exists_two (Nat.le_of_succ_le hthree)
    have hone : 0 < rest.length := by
      rw [List.length_cons, List.length_cons] at hthree
      omega
    obtain ⟨r, rest, rfl⟩ := List.exists_cons_of_length_pos hone
    dsimp only
    rw [set_next, ← length_snoc text ' ', hpair, List.append_assoc text]
    simp [hexPair]
  · rename_i h
    rw [if_neg h] at hpad
    obtain ⟨p, q, rest, rfl⟩ := exists_two hpad
    dsimp only
    rw [hpair]
    simp [hexPair]

/-- The loop writes the dump of the rest of the buffer behind the text. -/
lemma foldl_hexStep (text pad : Text) (buf : List UInt8) (i : Nat)
    (hpad : (hexDump 4 i buf).length ≤ pad.length) :
    (buf.zipIdx i).foldl hexStep (text ++ pad, text.length) =
      (text ++ hexDump 4 i buf ++ pad.drop (hexDump 4 i buf).length,
        (text ++ hexDump 4 i buf).length) := by
  induction buf generalizing text pad i with
  | nil => simp [hexDump]
  | cons b buf ih =>
    rw [hexDump, List.length_append] at hpad
    have hrest : (hexDump 4 (i + 1) buf).length ≤
        (pad.drop (separator 4 i ++ hexPair b).length).length := by
      rw [List.length_drop]
      omega
    have hlen : (separator 4 i ++ hexPair b ++ hexDump 4 (i + 1) buf).length =
        (separator 4 i ++ hexPair b).length + (hexDump 4 (i + 1) buf).length := List.length_append
    rw [List.zipIdx_cons, List.foldl_cons, hexStep_append text pad b i (by omega), ih _ _ _ hrest,
      hexDump, List.drop_drop, List.append_assoc text, hlen]

/-- The writes of one turn, each an index and a character. -/
def hexWrites (j : Nat) (byte : UInt8 × Nat) : List (Nat × Char) :=
  let wide : BitVec 32 := byte.1.toBitVec.signExtend 32
  let high := asciiMap.getD ((wide &&& 0xf0) >>> 4).toNat '\x00'
  let low := asciiMap.getD (wide &&& 0xf).toNat '\x00'
  if 0 < byte.2 ∧ byte.2 % 4 = 0 then [(j, ' '), (j + 1, high), (j + 2, low)]
  else [(j, high), (j + 1, low)]

lemma hexStep_eq_writes (st : List Char × Nat) (byte : UInt8 × Nat) :
    hexStep st byte =
      ((hexWrites st.2 byte).foldl (fun ascii write => ascii.set write.1 write.2) st.1,
        st.2 + (hexWrites st.2 byte).length) := by
  unfold hexStep hexWrites
  dsimp only
  split
  · rfl
  · rfl

lemma lt_of_mem_hexWrites {j : Nat} {byte : UInt8 × Nat} {write : Nat × Char}
    (h : write ∈ hexWrites j byte) : write.1 < j + (hexWrites j byte).length := by
  unfold hexWrites at h ⊢
  dsimp only at h ⊢
  split at h
  · rename_i hsep
    rw [if_pos hsep]
    simp only [List.mem_cons, List.not_mem_nil, or_false] at h
    obtain rfl | rfl | rfl := h <;> simp
  · rename_i hsep
    rw [if_neg hsep]
    simp only [List.mem_cons, List.not_mem_nil, or_false] at h
    obtain rfl | rfl := h <;> simp

/-- The output buffer and the write index before turn `i`. -/
def hexState (buf : List UInt8) (i : Nat) : List Char × Nat :=
  (buf.zipIdx.take i).foldl hexStep (List.replicate (hexSize buf.length) '\x00', 0)

lemma hexState_length (buf : List UInt8) : hexState buf buf.length = hexLoop buf := by
  unfold hexState hexLoop
  rw [List.take_of_length_le (by simp)]

lemma hexState_succ {buf : List UInt8} {byte : UInt8 × Nat} (h : byte ∈ buf.zipIdx) :
    hexState buf (byte.2 + 1) = hexStep (hexState buf byte.2) byte := by
  have hget : buf.zipIdx[byte.2]? = some byte := by
    rw [List.getElem?_zipIdx, (List.mk_mem_zipIdx_iff_getElem?.mp h), Nat.zero_add]
    rfl
  unfold hexState
  rw [List.take_add_one, hget, Option.toList_some, List.foldl_append, List.foldl_cons,
    List.foldl_nil]

lemma length_hexDump_take_lt (buf : List UInt8) (i : Nat) :
    (hexDump 4 0 (buf.take i)).length < hexSize buf.length := by
  rw [length_hexDump, List.length_take]
  unfold hexSize
  omega

/-- After some of its turns, the loop has written the dump of the bytes it went over. -/
theorem hexState_eq (buf : List UInt8) (i : Nat) :
    hexState buf i = (hexDump 4 0 (buf.take i) ++ List.replicate (hexSize buf.length -
      (hexDump 4 0 (buf.take i)).length) '\x00', (hexDump 4 0 (buf.take i)).length) := by
  have hsize := length_hexDump_take_lt buf i
  have hloop := foldl_hexStep [] (List.replicate (hexSize buf.length) '\x00') (buf.take i) 0
    (by rw [List.length_replicate]; omega)
  have hzip : buf.zipIdx.take i = (buf.take i).zipIdx := by
    apply List.ext_getElem?
    intro k
    rw [List.getElem?_take, List.getElem?_zipIdx, List.getElem?_zipIdx, List.getElem?_take]
    split
    · rfl
    · rfl
  rw [List.drop_replicate] at hloop
  unfold hexState
  rw [hzip]
  exact hloop

lemma hexLoop_eq (buf : List UInt8) :
    hexLoop buf = (hexDump 4 0 buf ++ List.replicate (hexSize buf.length -
      (hexDump 4 0 buf).length) '\x00', (hexDump 4 0 buf).length) := by
  rw [← hexState_length, hexState_eq, List.take_length]

/-- `hex_to_ascii` gives the dump. -/
theorem hexToAscii_eq (buf : List UInt8) : hexToAscii buf = hexDump 4 0 buf := by
  have hsize := length_hexDump_take_lt buf buf.length
  rw [List.take_length] at hsize
  obtain ⟨k, hk⟩ : ∃ k, hexSize buf.length - (hexDump 4 0 buf).length = k + 1 :=
    ⟨hexSize buf.length - (hexDump 4 0 buf).length - 1, by omega⟩
  have hall : ∀ c ∈ hexDump 4 0 buf, decide (c ≠ '\x00') = true :=
    fun c hc => decide_eq_true (ne_nul_of_mem_hexDump hc)
  unfold hexToAscii
  rw [hexLoop_eq, hk, List.replicate_succ]
  dsimp only
  rw [set_next, List.append_assoc, List.takeWhile_append_of_pos hall]
  simp

/-- The digits of the text decode to the buffer. -/
theorem unhex_hexToAscii (buf : List UInt8) : unhex (hexToAscii buf) = some buf := by
  rw [hexToAscii_eq, unhex_hexDump]

/-- For every buffer, each index that is written lies in the allocated memory, and what is
written is the dump of the buffer, from which the buffer can be recovered. -/
theorem hexToAscii_lossless (buf : List UInt8) :
    (∀ byte ∈ buf.zipIdx, ∀ write ∈ hexWrites (hexState buf byte.2).2 byte,
        write.1 < hexSize buf.length) ∧
      (hexLoop buf).2 < hexSize buf.length ∧
      hexToAscii buf = hexDump 4 0 buf ∧ unhex (hexToAscii buf) = some buf ∧
      ∀ other : List UInt8, other.length = buf.length → other ≠ buf →
        hexToAscii other ≠ hexToAscii buf := by
  have hindex : ∀ i, (hexState buf i).2 < hexSize buf.length := by
    intro i
    rw [hexState_eq]
    exact length_hexDump_take_lt buf i
  refine ⟨?_, ?_, hexToAscii_eq buf, unhex_hexToAscii buf, ?_⟩
  · intro byte hbyte write hwrite
    have hnext := hindex (byte.2 + 1)
    rw [hexState_succ hbyte, hexStep_eq_writes] at hnext
    exact (lt_of_mem_hexWrites hwrite).trans hnext
  · rw [← hexState_length]
    exact hindex buf.length
  · intro other _ hne htext
    apply hne
    apply Option.some.inj
    rw [← unhex_hexToAscii other, htext, unhex_hexToAscii]

end OpsPmd
