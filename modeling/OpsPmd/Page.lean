import OpsPmd.Lib.Text
import Mathlib.Algebra.GroupWithZero.Nat
import Mathlib.Data.Fintype.Basic

/-!
# 128-byte module pages

The serial-ID page and the diagnostics page of a module are read as 128 bytes and then
seen through packed structs with bit-fields, allocated from the least significant bit of
each byte. A field is a byte, a bit of a byte, or a range of bytes.
-/

namespace OpsPmd

open Lib

abbrev Page := Vector UInt8 128

/-- Behind every literal offset into a page. -/
instance neZero_page : NeZero 128 := ⟨by decide⟩

namespace Page

def zero : Page := Vector.replicate 128 0

/-- A one-bit field, with bit 0 the first field of its byte. -/
def bit (page : Page) (i : Fin 128) (k : Nat) : Bool := (page.get i).toNat.testBit k

def bytes (page : Page) (start len : Nat) : List UInt8 := (page.toList.drop start).take len

/-- `(msb << 8) | lsb` of two neighbouring bytes -/
def word (page : Page) (msb : Fin 128) : Nat :=
  (page.get msb).toNat <<< 8 ||| (page.get (msb + 1)).toNat

/-! Reading back a page with one byte overwritten -/

section Set

variable (page : Page) (i : Fin 128) (b : UInt8)

@[simp] lemma get_set_self : (page.set i b).get i = b := by
  show (page.set i b)[i.val] = b
  exact Vector.getElem_set_self i.isLt

lemma get_set_of_ne {j : Fin 128} (h : j ≠ i) : (page.set i b).get j = page.get j := by
  have hval : i.val ≠ j.val := fun heq => h (Fin.ext heq.symm)
  show (page.set i b)[j.val] = page[j.val]
  exact Vector.getElem_set_ne i.isLt j.isLt hval

lemma getElem?_bytes (start len k : Nat) :
    (page.bytes start len)[k]? = if k < len then page.toList[start + k]? else none := by
  unfold bytes
  rw [List.getElem?_take, List.getElem?_drop]

lemma getElem?_bytes_of_mem {start len : Nat} (hstart : start ≤ i.val)
    (hlen : i.val < start + len) : (page.bytes start len)[i.val - start]? = some (page.get i) := by
  have hbyte : page.toList[i.val]? = some page[i.val] := by simp
  rw [getElem?_bytes, if_pos (by omega), Nat.add_sub_cancel' hstart, hbyte]
  rfl

lemma bytes_congr {page' : Page} {start len : Nat}
    (h : ∀ j : Fin 128, start ≤ j.val → j.val < start + len → page'.get j = page.get j) :
    page'.bytes start len = page.bytes start len := by
  apply List.ext_getElem?
  intro k
  rw [getElem?_bytes, getElem?_bytes]
  split
  · rename_i hk
    by_cases hlt : start + k < 128
    · have hbyte : page'[start + k] = page[start + k] :=
        h ⟨start + k, hlt⟩ (Nat.le_add_right _ _) (Nat.add_lt_add_left hk start)
      rw [List.getElem?_eq_getElem (by simpa using hlt),
        List.getElem?_eq_getElem (by simpa using hlt)]
      simpa using hbyte
    · rw [List.getElem?_eq_none (by simpa using hlt), List.getElem?_eq_none (by simpa using hlt)]
  · rfl

lemma bytes_set_of_not_mem {start len : Nat} (h : i.val < start ∨ start + len ≤ i.val) :
    bytes (page.set i b) start len = page.bytes start len := by
  apply bytes_congr
  intro j hstart hlen
  apply get_set_of_ne
  rintro rfl
  omega

lemma bytes_set {start : Nat} (len : Nat) (h : start ≤ i.val) :
    bytes (page.set i b) start len = (page.bytes start len).set (i.val - start) b := by
  unfold bytes
  rw [Vector.toList_set, List.drop_set, if_neg (Nat.not_lt.mpr h), List.take_set]

end Set

end Page

/-! ## Fields of `pm_sfp_serial_id_t` -/

namespace SfpSerialId

def connector (page : Page) : UInt8 := page.get 2
def enet10gbaseSr (page : Page) : Bool := page.bit 3 4
def enet10gbaseLr (page : Page) : Bool := page.bit 3 5
def enet10gbaseLrm (page : Page) : Bool := page.bit 3 6
def enet1000baseSx (page : Page) : Bool := page.bit 6 0
def enet1000baseLx (page : Page) : Bool := page.bit 6 1
def enet1000baseCx (page : Page) : Bool := page.bit 6 2
def enet1000baseT (page : Page) : Bool := page.bit 6 3
def cableTechnologyPassive (page : Page) : Bool := page.bit 8 2
def cableTechnologyActive (page : Page) : Bool := page.bit 8 3
def bitRateNominal (page : Page) : UInt8 := page.get 12
def lengthCopper (page : Page) : UInt8 := page.get 18
def addrChangeRequired (page : Page) : Bool := page.bit 92 2
def powerMeasurementType (page : Page) : Bool := page.bit 92 3
def internallyCalibrated (page : Page) : Bool := page.bit 92 5
def implementedDigital (page : Page) : Bool := page.bit 92 6

/-- `serial_datap->transceiver.enet_10gbase_sr = 1` -/
def setEnet10gbaseSr (page : Page) : Page := page.set 3 (page.get 3 ||| 0x10)

lemma get_setEnet10gbaseSr (page : Page) : (setEnet10gbaseSr page).get 3 = page.get 3 ||| 0x10 :=
  page.get_set_self 3 _

end SfpSerialId

/-! ## Fields of `pm_qsfp_serial_id_t` -/

namespace QsfpSerialId

def enet40gbaseLr4 (page : Page) : Bool := page.bit 3 1
def enet40gbaseSr4 (page : Page) : Bool := page.bit 3 2
def enet40gbaseCr4 (page : Page) : Bool := page.bit 3 3
def enetExtended (page : Page) : Bool := page.bit 3 7
def extComplianceCode (page : Page) : UInt8 := page.get 64
def averageInputOpticalPower (page : Page) : Bool := page.bit 92 3
def vendorName (page : Page) : List UInt8 := page.bytes 20 16
def vendorOui (page : Page) : List UInt8 := page.bytes 37 3
def vendorPartNumber (page : Page) : List UInt8 := page.bytes 40 16
def vendorRevision (page : Page) : List UInt8 := page.bytes 56 2
def vendorSerialNumber (page : Page) : List UInt8 := page.bytes 68 16

end QsfpSerialId

end OpsPmd
