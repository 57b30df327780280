import OpsPmd.DomColumns

/-!
# The values of a diagnostics page

What `pm_set_a2` makes of the numbers in a page, in exact arithmetic: the temperatures, whose
low byte is divided by 256 as an integer, and the other readings, which are decoded from the
bytes at which the module's layout puts them.
-/

namespace OpsPmd

open Lib OvsrecInterfacePmInfo

/-- `pm_set_a2` hands this value to `SET_FLOAT_STRING`, whatever the conversion to text. -/
def ComputesValue (port : PmPort) (page : Page) (column : DomColumn) (value : ℚ) : Prop :=
  ∀ fmt, (pmSetA2 (exactWith fmt) port page).ovsModuleDomColumns column =
    floatText (exactWith fmt) value (port.ovsModuleDomColumns column)

/-- Two values that `SET_FLOAT_STRING` never tells apart are the same. -/
lemma eq_of_floatText_eq {v w : ℚ} {old : Option Text}
    (h : ∀ fmt, floatText (exactWith fmt) v old = floatText (exactWith fmt) w old) : v = w := by
  by_contra hne
  have hwv : w ≠ v := fun h => hne h.symm
  -- both renderings are longer than the old text, so neither can be mistaken for it
  have hfmt := h fun x => (if x = v then 'v' else 'w') :: old.getD []
  unfold floatText at hfmt
  cases old with
  | none => simp [hwv] at hfmt
  | some s =>
    by_cases hv : (strtol s : ℚ) = v
    · simp [hv, hwv, hne] at hfmt
    · by_cases hw : (strtol s : ℚ) = w
      · simp [hw, hwv] at hfmt
      · simp [hv, hw, hwv] at hfmt

/-- The temperature columns and the high bytes of their fields. -/
def temperatures (device : YamlPort) : List (DomColumn × Fin 128) :=
  if device.hasConnector connectorSfpPlus then
    [(.temperature, 96), (.temperatureHighAlarmThreshold, 0), (.temperatureLowAlarmThreshold, 2),
      (.temperatureHighWarningThreshold, 4), (.temperatureLowWarningThreshold, 6)]
  else if device.isQsfp then [(.temperature, 22)]
  else []

/-- The 16-bit two's-complement number that starts at a byte. -/
def Page.signedWord (page : Page) (msb : Fin 128) : ℤ := (BitVec.ofNat 16 (page.word msb)).toInt

lemma Page.signedWord_eq (page : Page) (msb : Fin 128) :
    page.signedWord msb = (page.get msb).toInt8.toInt * 256 + (page.get (msb + 1)).toNat := by
  unfold signedWord word
  generalize page.get msb = h
  generalize page.get (msb + 1) = l
  have hh := h.toNat_lt
  have hl := l.toNat_lt
  have hsigned : h.toInt8.toInt = (h.toNat : ℤ).bmod 256 := by
    simp [Int8.toInt, BitVec.toInt_eq_toNat_bmod]
  rw [← Nat.shiftLeft_add_eq_or_of_lt (by simpa using hl), Nat.shiftLeft_eq, hsigned,
    BitVec.toInt_eq_toNat_bmod, BitVec.toNat_ofNat, Int.bmod_def, Int.bmod_def]
  split
  · split
    · omega
    · omega
  · split
    · omega
    · omega

/-- The integer division loses the low byte. -/
lemma temperatureValue_exactWith (fmt : ℚ → Text) (page : Page) (msb : Fin 128) :
    temperatureValue (exactWith fmt) page msb = ((page.get msb).toInt8.toInt : ℚ) := by
  have hl := (page.get (msb + 1)).toNat_lt
  have hzero : (page.get (msb + 1)).toNat / 256 = 0 := by omega
  unfold temperatureValue
  rw [hzero]
  simp

lemma mem_domTable_of_temperature {device : YamlPort} {column : DomColumn} {msb : Fin 128}
    (h : (column, msb) ∈ temperatures device) :
    (column, .temperature msb) ∈ domTable device := by
  have hsfp : ∀ t ∈ [(DomColumn.temperature, (96 : Fin 128)), (.temperatureHighAlarmThreshold, 0),
      (.temperatureLowAlarmThreshold, 2), (.temperatureHighWarningThreshold, 4),
      (.temperatureLowWarningThreshold, 6)], (t.1, DomField.temperature t.2) ∈ sfpDom := by decide
  unfold temperatures at h
  unfold domTable
  split
  · rename_i hs
    rw [if_pos hs] at h
    exact hsfp _ h
  split
  · rename_i hs hq
    rw [if_neg hs, if_pos hq, List.mem_singleton] at h
    obtain ⟨rfl, rfl⟩ := Prod.mk.inj h
    exact List.mem_cons_self
  · rename_i hs hq
    rw [if_neg hs, if_neg hq] at h
    contradiction

namespace Switch

/-- Half a degree and nothing else. -/
def halfDegreePage : Page := Page.zero.set 97 0x80

end Switch

/-- A temperature is computed as the field divided by 256 exactly if its low byte is zero. -/
lemma computesValue_temperature_iff {port : PmPort} (hp : port.moduleDevice.pluggable = true)
    (page : Page) {column : DomColumn} {msb : Fin 128}
    (h : (column, msb) ∈ temperatures port.moduleDevice) :
    ComputesValue port page column (page.signedWord msb / 256) ↔ page.get (msb + 1) = 0 := by
  have hcolumn : ∀ fmt, (pmSetA2 (exactWith fmt) port page).ovsModuleDomColumns column =
      floatText (exactWith fmt) ((page.get msb).toInt8.toInt : ℚ)
        (port.ovsModuleDomColumns column) := by
    intro fmt
    rw [domColumn_pmSetA2 (exactWith fmt) hp page (mem_domTable_of_temperature h), domText,
      temperatureValue_exactWith]
  have hvalue : (page.signedWord msb : ℚ) / 256 =
      ((page.get msb).toInt8.toInt : ℚ) + ((page.get (msb + 1)).toNat : ℚ) / 256 := by
    rw [Page.signedWord_eq]
    push_cast
    ring
  constructor
  · intro hcomputes
    have heq : ((page.get msb).toInt8.toInt : ℚ) = (page.signedWord msb : ℚ) / 256 := by
      apply eq_of_floatText_eq
      intro fmt
      rw [← hcolumn, hcomputes fmt]
    rw [hvalue] at heq
    have hlow : ((page.get (msb + 1)).toNat : ℚ) = 0 := by linarith
    exact UInt8.toNat_inj.mp (by exact_mod_cast hlow)
  · intro hlow fmt
    rw [hcolumn, hvalue, hlow]
    simp

/-- The temperatures keep their fraction exactly when they have none. -/
theorem keepsFraction_iff {port : PmPort} (hp : port.moduleDevice.pluggable = true) (page : Page) :
    (∀ t ∈ temperatures port.moduleDevice,
      ComputesValue port page t.1 (page.signedWord t.2 / 256)) ↔
      ∀ t ∈ temperatures port.moduleDevice, page.get (t.2 + 1) = 0 :=
  forall₂_congr fun _ ht => computesValue_temperature_iff hp page ht

/-- Half a degree, on the SFP+ port. -/
theorem keepsFraction_iff_half :
    (∀ t ∈ temperatures Switch.port2.moduleDevice, ComputesValue Switch.port2
      Switch.halfDegreePage t.1 (Switch.halfDegreePage.signedWord t.2 / 256)) ↔
      ∀ t ∈ temperatures Switch.port2.moduleDevice, Switch.halfDegreePage.get (t.2 + 1) = 0 :=
  keepsFraction_iff rfl Switch.halfDegreePage

theorem not_keepsFraction_half : ¬∀ t ∈ temperatures Switch.port2.moduleDevice,
    ComputesValue Switch.port2 Switch.halfDegreePage t.1
      (Switch.halfDegreePage.signedWord t.2 / 256) := by
  intro h
  have hmem : (DomColumn.temperature, (96 : Fin 128)) ∈ temperatures Switch.port2.moduleDevice := by
    decide +kernel
  have hzero : Switch.halfDegreePage.get (96 + 1) = 0 := by
    apply (computesValue_temperature_iff rfl Switch.halfDegreePage hmem).mp
    exact h (.temperature, 96) hmem
  revert hzero
  decide

end OpsPmd
