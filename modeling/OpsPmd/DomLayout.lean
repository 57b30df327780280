import OpsPmd.DomValues
import OpsPmd.HexAscii
import OpsPmd.Lib.Fields

/-!
# The layout of a diagnostics page

Where the module puts its readings and flags, written down from the order in which they
follow one another in the page, and the proof that `pm_set_a2` takes each of them from there.
-/

namespace OpsPmd

open Lib OvsrecInterfacePmInfo

/-- Words that follow one another. -/
def wordsFrom (start : Nat) (columns : List DomColumn) : List (DomColumn × Field 128) :=
  columns.zipIdx.map fun (column, i) =>
    (column, .word (Fin.ofNat 128 (start + 2 * i)) (Fin.ofNat 128 (start + 2 * i + 1)))

/-- Bits that follow one another, each byte from its most significant bit. -/
def bitsFrom (start : Nat) (columns : List DomColumn) : List (DomColumn × Field 128) :=
  columns.zipIdx.map fun (column, i) =>
    (column, .bit (Fin.ofNat 128 (start + i / 8)) (Fin.ofNat 8 (7 - i % 8)))

def sfpThresholds : List DomColumn :=
  [.vccHighAlarmThreshold, .vccLowAlarmThreshold, .vccHighWarningThreshold,
    .vccLowWarningThreshold, .txBiasHighAlarmThreshold, .txBiasLowAlarmThreshold,
    .txBiasHighWarningThreshold, .txBiasLowWarningThreshold, .txPowerHighAlarmThreshold,
    .txPowerLowAlarmThreshold, .txPowerHighWarningThreshold, .txPowerLowWarningThreshold,
    .rxPowerHighAlarmThreshold, .rxPowerLowAlarmThreshold, .rxPowerHighWarningThreshold,
    .rxPowerLowWarningThreshold]

def sfpAlarms : List DomColumn :=
  [.temperatureHighAlarm, .temperatureLowAlarm, .vccHighAlarm, .vccLowAlarm, .txBiasHighAlarm,
    .txBiasLowAlarm, .txPowerHighAlarm, .txPowerLowAlarm, .rxPowerHighAlarm, .rxPowerLowAlarm]

def sfpWarnings : List DomColumn :=
  [.temperatureHighWarning, .temperatureLowWarning, .vccHighWarning, .vccLowWarning,
    .txBiasHighWarning, .txBiasLowWarning, .txPowerHighWarning, .txPowerLowWarning,
    .rxPowerHighWarning, .rxPowerLowWarning]

def rxPowerFlags : List DomColumn :=
  [.rx1PowerHighAlarm, .rx1PowerLowAlarm, .rx1PowerHighWarning, .rx1PowerLowWarning,
    .rx2PowerHighAlarm, .rx2PowerLowAlarm, .rx2PowerHighWarning, .rx2PowerLowWarning,
    .rx3PowerHighAlarm, .rx3PowerLowAlarm, .rx3PowerHighWarning, .rx3PowerLowWarning,
    .rx4PowerHighAlarm, .rx4PowerLowAlarm, .rx4PowerHighWarning, .rx4PowerLowWarning]

def txBiasFlags : List DomColumn :=
  [.tx1BiasHighAlarm, .tx1BiasLowAlarm, .tx1BiasHighWarning, .tx1BiasLowWarning,
    .tx2BiasHighAlarm, .tx2BiasLowAlarm, .tx2BiasHighWarning, .tx2BiasLowWarning,
    .tx3BiasHighAlarm, .tx3BiasLowAlarm, .tx3BiasHighWarning, .tx3BiasLowWarning,
    .tx4BiasHighAlarm, .tx4BiasLowAlarm, .tx4BiasHighWarning, .tx4BiasLowWarning]

def sfpLayout : List (DomColumn × Field 128) :=
  wordsFrom 8 sfpThresholds ++ wordsFrom 98 [.vcc, .txBias, .txPower, .rxPower] ++
    bitsFrom 112 sfpAlarms ++ bitsFrom 116 sfpWarnings

/-- The lower page of a QSFP module. -/
def qsfpLayout : List (DomColumn × Field 128) :=
  bitsFrom 9 rxPowerFlags ++ bitsFrom 11 txBiasFlags ++ wordsFrom 26 [.vcc] ++
    wordsFrom 34 [.rx1Power, .rx2Power, .rx3Power, .rx4Power] ++
    wordsFrom 42 [.tx1Bias, .tx2Bias, .tx3Bias, .tx4Bias]

def domLayout (device : YamlPort) : List (DomColumn × Field 128) :=
  if device.hasConnector connectorSfpPlus then sfpLayout
  else if device.isQsfp then qsfpLayout
  else []

def biasColumns : List DomColumn :=
  [.txBias, .txBiasHighAlarmThreshold, .txBiasLowAlarmThreshold, .txBiasHighWarningThreshold,
    .txBiasLowWarningThreshold, .tx1Bias, .tx2Bias, .tx3Bias, .tx4Bias]

/-- Currents are counted in units of 1/500 mA, voltages and powers in units of 1/10000. -/
def divisor (column : DomColumn) : ℚ := if column ∈ biasColumns then 500 else 10000

/-- How `pm_set_a2` has to compute a column that stands at a place of the layout. -/
def sourceOf (column : DomColumn) : Field 128 → DomField
  | .word hi _ => if column ∈ biasColumns then .scaled hi 2 3 else .scaled hi 1 4
  | .bit byte k => .flag byte k

/-- The low byte of a word comes right after its high byte. -/
def Adjacent : Field 128 → Prop
  | .word hi lo => lo = hi + 1
  | .bit .. => True

instance : DecidablePred Adjacent
  | .word hi lo => inferInstanceAs (Decidable (lo = hi + 1))
  | .bit .. => .isTrue trivial

/-- What relates a layout to the table of a `switch` case. -/
structure Fits (layout : List (DomColumn × Field 128)) (table : List (DomColumn × DomField)) :
    Prop where
  proper : ∀ entry ∈ layout, entry.2.Proper
  adjacent : ∀ entry ∈ layout, Adjacent entry.2
  order : (layout.map Prod.snd).IsChain Field.Before
  source : ∀ entry ∈ layout, (entry.1, sourceOf entry.1 entry.2) ∈ table

lemma sfpLayout_fits : Fits sfpLayout sfpDom where
  proper := by decide +kernel
  adjacent := by decide +kernel
  order := by decide +kernel
  source := by decide +kernel

lemma qsfpLayout_fits : Fits qsfpLayout qsfpDom where
  proper := by decide +kernel
  adjacent := by decide +kernel
  order := by decide +kernel
  source := by decide +kernel

lemma domLayout_fits (device : YamlPort) : Fits (domLayout device) (domTable device) := by
  unfold domLayout domTable
  split
  · exact sfpLayout_fits
  split
  · exact qsfpLayout_fits
  · exact ⟨by simp, by simp, by simp, by simp⟩

/-- Every column that `pm_set_a2` fills is in the layout or a temperature. -/
lemma mem_of_mem_domTable (device : YamlPort) : ∀ entry ∈ domTable device,
    entry ∈ (domLayout device).map (fun e => (e.1, sourceOf e.1 e.2)) ∨
      entry ∈ (temperatures device).map (fun t => (t.1, DomField.temperature t.2)) := by
  unfold domTable domLayout temperatures
  split
  · decide +kernel
  split
  · decide +kernel
  · simp

lemma word_of_holds {raw : UInt16} {flag : Bool} {page : Page} {hi lo : Fin 128}
    (hadj : lo = hi + 1) (h : (Field.word hi lo).Holds raw flag page) :
    page.word hi = raw.toNat := by
  have hr := raw.toNat_lt
  have hhi : page.get hi = (raw >>> 8).toUInt8 := h.1
  have hlo : page.get (hi + 1) = raw.toUInt8 := hadj ▸ h.2
  have hhigh : (raw >>> 8).toUInt8.toNat = raw.toNat / 256 := by
    simp [Nat.shiftRight_eq_div_pow]
    omega
  have hlow : raw.toUInt8.toNat = raw.toNat % 256 := by simp
  unfold Page.word
  rw [hhi, hlo, hhigh, hlow, ← Nat.shiftLeft_add_eq_or_of_lt (by omega), Nat.shiftLeft_eq]
  omega

lemma scaledValue_exactWith (fmt : ℚ → Text) (page : Page) (msb : Fin 128) (digits places : Nat) :
    scaledValue (exactWith fmt) page msb digits places =
      (page.word msb : ℚ) * (digits / 10 ^ places) := by
  unfold scaledValue
  simp

lemma domText_word (fmt : ℚ → Text) (page : Page) (column : DomColumn) (hi lo : Fin 128)
    (old : Option Text) :
    domText (exactWith fmt) page (sourceOf column (.word hi lo)) old =
      floatText (exactWith fmt) (page.word hi / divisor column) old := by
  rw [sourceOf, divisor]
  by_cases hbias : column ∈ biasColumns
  · rw [if_pos hbias, if_pos hbias, domText, scaledValue_exactWith]
    have hvalue : (page.word hi : ℚ) * ((2 : ℕ) / 10 ^ 3) = page.word hi / 500 := by ring
    rw [hvalue]
  · rw [if_neg hbias, if_neg hbias, domText, scaledValue_exactWith]
    have hvalue : (page.word hi : ℚ) * ((1 : ℕ) / 10 ^ 4) = page.word hi / 10000 := by ring
    rw [hvalue]

lemma domText_bit (fl : FloatArith) {raw : UInt16} {flag : Bool} {page : Page}
    {column : DomColumn} {byte : Fin 128} {k : Fin 8} (h : (Field.bit byte k).Holds raw flag page)
    (old : Option Text) :
    domText fl page (sourceOf column (.bit byte k)) old = some (flagText flag) := by
  have hbit : page.bit byte k = flag := h
  rw [sourceOf, domText, hbit]

lemma a2_pmSetA2 (fl : FloatArith) {port : PmPort} (hp : port.moduleDevice.pluggable = true)
    (hk : port.moduleDevice.isKnown = true) (page : Page) :
    (pmSetA2 fl port page).ovsModuleColumns .a2 = some (hexToAscii page.toList) := by
  have hconn := connector_ne_none_of_isKnown hk
  unfold pmSetA2
  simp only [hp, hk, hconn, Bool.not_true, Bool.false_eq_true, if_false]
  split
  · rw [PmPort.ovsModuleColumns_setBinary, Function.update_self]
  · rw [PmPort.ovsModuleColumns_setBinary, Function.update_self]

/-- What a port shows of a page on which readings and flags were written. -/
structure Decodes (port : PmPort) (page : Page) (raw : DomColumn → UInt16)
    (flag : DomColumn → Bool) : Prop where
  reading : ∀ column hi lo, (column, .word hi lo) ∈ domLayout port.moduleDevice → ∀ fmt,
    (pmSetA2 (exactWith fmt) port page).ovsModuleDomColumns column =
      some (fmt ((raw column).toNat / divisor column))
  flag : ∀ column byte k, (column, .bit byte k) ∈ domLayout port.moduleDevice → ∀ fl,
    (pmSetA2 fl port page).ovsModuleDomColumns column =
      some (if flag column then "On".toList else "Off".toList)
  other : ∀ column, column ∉ (domLayout port.moduleDevice).map Prod.fst →
    column ∉ (temperatures port.moduleDevice).map Prod.fst → ∀ fl,
    (pmSetA2 fl port page).ovsModuleDomColumns column = none
  a2 : ∀ fl, ((pmSetA2 fl port page).ovsModuleColumns .a2).bind unhex = some page.toList

/-- Decoding undoes the encoding. -/
theorem decodes_encode {port : PmPort} (hp : port.moduleDevice.pluggable = true)
    (hk : port.moduleDevice.isKnown = true)
    (hnull : ∀ column, port.ovsModuleDomColumns column = none)
    (raw : DomColumn → UInt16) (flag : DomColumn → Bool) (base : Page) :
    Decodes port (encode raw flag (domLayout port.moduleDevice) base) raw flag := by
  have hfits := domLayout_fits port.moduleDevice
  have hholds := holds_encode raw flag hfits.proper hfits.order base
  constructor
  · intro column hi lo hmem fmt
    rw [domColumn_pmSetA2 _ hp _ (hfits.source _ hmem), hnull, domText_word,
      word_of_holds (hfits.adjacent _ hmem) (hholds _ hmem)]
    rfl
  · intro column byte k hmem fl
    rw [domColumn_pmSetA2 _ hp _ (hfits.source _ hmem), hnull]
    exact domText_bit fl (hholds _ hmem) none
  · intro column hlayout htemp fl
    have hcolumn : column ∉ (domTable port.moduleDevice).map Prod.fst := by
      rw [List.mem_map]
      rintro ⟨entry, hmem, rfl⟩
      cases mem_of_mem_domTable port.moduleDevice entry hmem with
      | inl h =>
        obtain ⟨e, he, rfl⟩ := List.mem_map.mp h
        exact hlayout (List.mem_map_of_mem he)
      | inr h =>
        obtain ⟨t, ht, rfl⟩ := List.mem_map.mp h
        exact htemp (List.mem_map_of_mem ht)
    rw [domColumn_pmSetA2_of_not_mem fl hp _ hcolumn, hnull]
  · intro fl
    rw [a2_pmSetA2 fl hp hk, Option.bind_some, unhex_hexToAscii]

/-- One volt on every reading of an SFP+ port, with all flags raised. -/
theorem decodes_encode_sfp :
    Decodes Switch.port2 (encode (fun _ => 10000) (fun _ => true)
      (domLayout Switch.port2.moduleDevice) Page.zero) (fun _ => 10000) (fun _ => true) :=
  decodes_encode rfl (by decide) (fun _ => rfl) _ _ Page.zero

end OpsPmd
