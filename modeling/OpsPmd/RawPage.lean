import OpsPmd.HexAscii
import OpsPmd.SfpIdentity

/-!
# The raw serial-ID page

`pm_parse` publishes the page as a dump in the column `a0`. It dumps its own copy, in which
it has set the bit for short-range modules before.
-/

namespace OpsPmd

open Lib

/-- The column `a0` can be decoded to the page. -/
def HoldsPage (page : Page) (port : PmPort) : Prop :=
  ∃ text, port.ovsModuleColumns .a0 = some text ∧ unhex text = some page.toList

lemma holdsPage_of_column {page page' : Page} {port : PmPort}
    (h : port.ovsModuleColumns .a0 = some (hexToAscii page'.toList)) :
    HoldsPage page port ↔ page' = page := by
  constructor
  · rintro ⟨text, htext, hpage⟩
    obtain rfl := Option.some.inj (h.symm.trans htext)
    rw [unhex_hexToAscii] at hpage
    exact Vector.toList_inj.mp (Option.some.inj hpage)
  · rintro rfl
    exact ⟨_, h, unhex_hexToAscii _⟩

/-- For each of the three connectors, the dump is that of the edited page. -/
lemma a0_pmParse {port : PmPort} (hk : port.moduleDevice.isKnown = true)
    (hp : port.moduleDevice.pluggable = true) (page : Page) :
    (pmParse page port).2.1.ovsModuleColumns .a0 =
      some (hexToAscii (SfpSerialId.setEnet10gbaseSr page).toList) := by
  have hqsfp : ∀ (page : Page) (port : PmPort),
      (fillQsfp page port).ovsModuleColumns .a0 = some (hexToAscii page.toList) := by
    intro page port
    unfold fillQsfp
    dsimp only
    rw [PmPort.ovsModuleColumns_setBinary, Function.update_self]
  obtain hs | hq := Bool.or_eq_true_iff.mp hk
  · rw [pmParse_of_sfpPlus hs hp, columns_fillSfpPlus]
  · rw [pmParse_of_isQsfp hq hp]
    dsimp only
    split
    · exact hqsfp _ _
    · rw [fillQsfp28_eq]
      exact hqsfp _ _

/-- The edit leaves a page alone exactly if the bit was set. -/
lemma setEnet10gbaseSr_eq_self_iff {page : Page} :
    SfpSerialId.setEnet10gbaseSr page = page ↔ SfpSerialId.enet10gbaseSr page = true := by
  have hbit : ∀ b : UInt8, b ||| 0x10 = b ↔ b.toNat.testBit 4 = true := by
    have hall : ∀ v : BitVec 8, v ||| 0x10 = v ↔ v.toNat.testBit 4 = true := by decide +kernel
    intro b
    rw [← UInt8.toBitVec_inj]
    exact hall b.toBitVec
  have hget := SfpSerialId.get_setEnet10gbaseSr page
  unfold SfpSerialId.enet10gbaseSr Page.bit
  rw [← hbit]
  constructor
  · intro h
    rw [h] at hget
    exact hget.symm
  · intro h
    unfold SfpSerialId.setEnet10gbaseSr
    rw [h]
    exact Vector.set_getElem_self (by decide)

/-- The published dump decodes to the page that was read exactly if the page has the bit for
short-range modules set. A port that takes no modules keeps the column it had. -/
theorem holdsPage_pmParse_iff {port : PmPort} (hk : port.moduleDevice.isKnown = true)
    (page : Page) :
    HoldsPage page (pmParse page port).2.1 ↔
      (port.moduleDevice.pluggable = true ∧ SfpSerialId.enet10gbaseSr page = true) ∨
        (port.moduleDevice.pluggable = false ∧ HoldsPage page port) := by
  cases hp : port.moduleDevice.pluggable with
  | false =>
    have hsame : pmParse page port = (0, port, page) := by
      unfold pmParse
      rw [hp]
      rfl
    rw [hsame]
    simp
  | true =>
    rw [holdsPage_of_column (a0_pmParse hk hp page), setEnet10gbaseSr_eq_self_iff]
    simp

/-- A page that is all zero, in the QSFP+ port of the switch. -/
theorem holdsPage_pmParse_iff_zero :
    HoldsPage Page.zero (pmParse Page.zero Switch.port1).2.1 ↔
      (Switch.port1.moduleDevice.pluggable = true ∧
          SfpSerialId.enet10gbaseSr Page.zero = true) ∨
        (Switch.port1.moduleDevice.pluggable = false ∧ HoldsPage Page.zero Switch.port1) :=
  holdsPage_pmParse_iff (by decide) Page.zero

/-- Its dump has byte 3 as `10`. -/
theorem not_holdsPage_zero : ¬HoldsPage Page.zero (pmParse Page.zero Switch.port1).2.1 := by
  intro h
  have hpage := (holdsPage_of_column (a0_pmParse (by decide) rfl Page.zero)).mp h
  have hbyte := congrArg (fun page : Page => page.get 3) hpage
  revert hbyte
  decide

end OpsPmd
