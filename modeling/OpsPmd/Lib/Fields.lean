import OpsPmd.Lib.Run
import Mathlib.Data.List.Chain

/-!
# Fields of a buffer

A field is a 16-bit word, given by the places of its high and its low byte, or a bit of a
byte. Writing fields that lie apart from one another leaves each of them with its own content.
-/

namespace OpsPmd.Lib

inductive Field (n : Nat)
  | word (hi lo : Fin n)
  | bit (byte : Fin n) (k : Fin 8)
deriving DecidableEq

def writeBit (b : UInt8) (k : Fin 8) (value : Bool) : UInt8 :=
  ⟨if value then b.toBitVec ||| BitVec.twoPow 8 k else b.toBitVec &&& ~~~BitVec.twoPow 8 k⟩

lemma testBit_writeBit (b : UInt8) (j k : Fin 8) (value : Bool) :
    (writeBit b k value).toNat.testBit j = if j = k then value else b.toNat.testBit j := by
  have hj := j.isLt
  have hbit : ∀ v : BitVec 8, (UInt8.ofBitVec v).toNat.testBit j = v.getLsbD j :=
    fun v => BitVec.testBit_toNat v
  have hpow : (BitVec.twoPow 8 k).getLsbD j = decide (j = k) := by
    rw [BitVec.getLsbD_twoPow, decide_eq_true k.isLt, Bool.true_and]
    exact decide_eq_decide.mpr ⟨fun h => Fin.ext h.symm, fun h => congrArg Fin.val h.symm⟩
  unfold writeBit
  rw [hbit, show b.toNat.testBit j = b.toBitVec.getLsbD j from BitVec.testBit_toNat b.toBitVec]
  cases value with
  | true =>
    rw [if_pos rfl, BitVec.getLsbD_or, hpow]
    by_cases h : j = k
    · simp [h]
    · simp [h]
  | false =>
    rw [if_neg Bool.false_ne_true, BitVec.getLsbD_and, BitVec.getLsbD_not, hpow]
    by_cases h : j = k
    · simp [h]
    · simp [h, hj]

namespace Field

variable {n : Nat}

def bytes : Field n → List (Fin n)
  | word hi lo => [hi, lo]
  | bit byte _ => [byte]

/-- A word is written with its high byte first, a bit without touching its neighbours. -/
def write (raw : UInt16) (flag : Bool) (buf : Vector UInt8 n) : Field n → Vector UInt8 n
  | word hi lo => (buf.set hi (raw >>> 8).toUInt8).set lo raw.toUInt8
  | bit byte k => buf.set byte (writeBit (buf.get byte) k flag)

/-- The content of a field. -/
def Holds (raw : UInt16) (flag : Bool) (buf : Vector UInt8 n) : Field n → Prop
  | word hi lo => buf.get hi = (raw >>> 8).toUInt8 ∧ buf.get lo = raw.toUInt8
  | bit byte k => (buf.get byte).toNat.testBit k = flag

/-- The two bytes of a word are different. -/
def Proper : Field n → Prop
  | word hi lo => hi ≠ lo
  | bit .. => True

/-- Two fields share no bit. -/
def Apart : Field n → Field n → Prop
  | bit b j, bit c k => b ≠ c ∨ j ≠ k
  | f, g => ∀ i ∈ f.bytes, i ∉ g.bytes

instance : DecidablePred (Proper (n := n))
  | word hi lo => inferInstanceAs (Decidable (hi ≠ lo))
  | bit .. => .isTrue trivial

/-- The first bit of a field, counted from the most significant bit of the first byte. -/
def start : Field n → Nat
  | word hi lo => 8 * min hi.val lo.val
  | bit byte k => 8 * byte.val + (7 - k.val)

/-- The first bit after a field. -/
def stop : Field n → Nat
  | word hi lo => 8 * (max hi.val lo.val + 1)
  | bit byte k => 8 * byte.val + (7 - k.val) + 1

/-- The first field ends before the second one starts. -/
def Before (f g : Field n) : Prop := f.stop ≤ g.start

instance : DecidableRel (Before (n := n)) :=
  fun f g => inferInstanceAs (Decidable (f.stop ≤ g.start))

lemma start_lt_stop (f : Field n) : f.start < f.stop := by
  cases f with
  | word hi lo =>
    rw [start, stop]
    omega
  | bit byte k =>
    rw [start, stop]
    omega

instance : Trans (Before (n := n)) Before Before where
  trans {f g h} hfg hgh := by
    have hg := start_lt_stop g
    unfold Before at *
    omega

lemma Before.apart {f g : Field n} (h : f.Before g) : f.Apart g := by
  unfold Before at h
  cases f with
  | word hi lo =>
    cases g with
    | word hi' lo' =>
      simp only [start, stop] at h
      simp only [Apart, bytes, List.mem_cons, List.not_mem_nil, or_false]
      omega
    | bit byte k =>
      simp only [start, stop] at h
      simp only [Apart, bytes, List.mem_cons, List.not_mem_nil, or_false]
      omega
  | bit byte k =>
    cases g with
    | word hi lo =>
      simp only [start, stop] at h
      simp only [Apart, bytes, List.mem_cons, List.not_mem_nil, or_false]
      omega
    | bit byte' k' =>
      simp only [start, stop] at h
      show byte ≠ byte' ∨ k ≠ k'
      omega

lemma get_set (buf : Vector UInt8 n) (i j : Fin n) (b : UInt8) :
    (buf.set i b).get j = if j = i then b else buf.get j := by
  show (buf.set i b)[j.val] = if j = i then b else buf[j.val]
  rw [Vector.getElem_set]
  by_cases h : j = i
  · rw [if_pos h, if_pos (congrArg Fin.val h.symm)]
  · rw [if_neg h, if_neg fun hv => h (Fin.ext hv.symm)]

/-- A write changes the bytes of its field only. -/
lemma get_write (raw : UInt16) (flag : Bool) (buf : Vector UInt8 n) {f : Field n} {j : Fin n}
    (h : j ∉ f.bytes) : (f.write raw flag buf).get j = buf.get j := by
  cases f with
  | word hi lo =>
    have hhi : j ≠ hi := fun he => h (he ▸ List.mem_cons_self)
    have hlo : j ≠ lo := fun he => h (he ▸ List.mem_cons_of_mem _ List.mem_cons_self)
    rw [write, get_set, if_neg hlo, get_set, if_neg hhi]
  | bit byte k =>
    have hbyte : j ≠ byte := fun he => h (he ▸ List.mem_cons_self)
    rw [write, get_set, if_neg hbyte]

lemma holds_write (raw : UInt16) (flag : Bool) (buf : Vector UInt8 n) {f : Field n}
    (h : f.Proper) : f.Holds raw flag (f.write raw flag buf) := by
  cases f with
  | word hi lo =>
    have hne : hi ≠ lo := h
    constructor
    · rw [write, get_set, if_neg hne, get_set, if_pos rfl]
    · rw [write, get_set, if_pos rfl]
  | bit byte k =>
    show ((Vector.set buf byte _).get byte).toNat.testBit k = flag
    rw [get_set, if_pos rfl, testBit_writeBit, if_pos rfl]

lemma Holds.write {raw raw' : UInt16} {flag flag' : Bool} {buf : Vector UInt8 n} {f g : Field n}
    (hf : f.Holds raw flag buf) (h : f.Apart g) : f.Holds raw flag (g.write raw' flag' buf) := by
  have hsame : (∀ j ∈ f.bytes, j ∉ g.bytes) → f.Holds raw flag (g.write raw' flag' buf) := by
    intro hdisj
    cases f with
    | word hi lo =>
      constructor
      · rw [get_write raw' flag' buf (hdisj hi List.mem_cons_self)]
        exact hf.1
      · rw [get_write raw' flag' buf (hdisj lo (List.mem_cons_of_mem _ List.mem_cons_self))]
        exact hf.2
    | bit byte k =>
      show ((g.write raw' flag' buf).get byte).toNat.testBit k = flag
      rw [get_write raw' flag' buf (hdisj byte List.mem_cons_self)]
      exact hf
  cases f with
  | word hi lo => exact hsame h
  | bit byte k =>
    cases g with
    | word hi lo => exact hsame h
    | bit byte' k' =>
      by_cases hb : byte = byte'
      · subst hb
        have hk : k ≠ k' := Or.resolve_left h fun hne => hne rfl
        show ((Vector.set buf byte _).get byte).toNat.testBit k = flag
        rw [get_set, if_pos rfl, testBit_writeBit, if_neg hk]
        exact hf
      · exact hsame fun j hj hj' => hb
          ((List.mem_singleton.mp hj).symm.trans (List.mem_singleton.mp hj'))

end Field

section Layout

variable {κ : Type*} {n : Nat} (raw : κ → UInt16) (flag : κ → Bool)

/-- Writes the fields of a layout, each with the content of its key. -/
def encode (layout : List (κ × Field n)) (buf : Vector UInt8 n) : Vector UInt8 n :=
  layout.foldl (fun buf entry => entry.2.write (raw entry.1) (flag entry.1) buf) buf

/-- Nothing that is written is lost, if the layout lists its fields in their order. -/
theorem holds_encode {layout : List (κ × Field n)} (hproper : ∀ entry ∈ layout, entry.2.Proper)
    (horder : (layout.map Prod.snd).IsChain Field.Before) (buf : Vector UInt8 n) :
    ∀ entry ∈ layout, entry.2.Holds (raw entry.1) (flag entry.1) (encode raw flag layout buf) := by
  have hbefore : layout.Pairwise fun entry later => entry.2.Before later.2 :=
    List.pairwise_map.mp horder.pairwise
  apply foldl_establishes (I := fun _ => True)
    (P := fun entry buf => entry.2.Holds (raw entry.1) (flag entry.1) buf) hbefore
  · intro _ _ _ _
    trivial
  · intro buf entry hentry _
    exact Field.holds_write _ _ buf (hproper entry hentry)
  · intro buf entry _ later _ hlater _ hholds
    exact hholds.write hlater.apart
  · trivial

end Layout

end OpsPmd.Lib
