import OpsPmd.DomLayout

/-!
# Successive diagnostics pages

`SET_FLOAT_STRING` leaves a column alone if `strtol` reads the new value off its old text.
What `strtol` reads is the whole part, so a whole reading that follows a fractional one of
the same whole part is not shown.
-/

namespace OpsPmd

open Lib OvsrecInterfacePmInfo

lemma record_setFloatString (fl : FloatArith) (port : PmPort) (field : DomColumn)
    (value : fl.F) : (port.setFloatString fl field value).record = port.record := by
  unfold PmPort.setFloatString
  split
  · rfl
  · rfl

lemma record_setFlagString (port : PmPort) (field : DomColumn) (value : Text) :
    (port.setFlagString field value).record = port.record := by
  unfold PmPort.setFlagString
  split
  · rfl
  · rfl

lemma record_setDomField (fl : FloatArith) (page : Page) (port : PmPort)
    (entry : DomColumn × DomField) : (setDomField fl page port entry).record = port.record := by
  unfold setDomField
  cases entry.2 with
  | temperature msb => exact record_setFloatString fl port entry.1 _
  | scaled msb digits places => exact record_setFloatString fl port entry.1 _
  | flag byte bit =>
    show (port.setBoolString entry.1 (page.bit byte bit)).record = port.record
    cases page.bit byte bit with
    | true => exact record_setFlagString port entry.1 _
    | false => exact record_setFlagString port entry.1 _

lemma record_foldl_setDomField (fl : FloatArith) (page : Page)
    (table : List (DomColumn × DomField)) (port : PmPort) :
    (table.foldl (setDomField fl page) port).record = port.record := by
  induction table generalizing port with
  | nil => rfl
  | cons entry table ih => rw [List.foldl_cons, ih, record_setDomField]

lemma record_pmSetA2 (fl : FloatArith) (port : PmPort) (page : Page) :
    (pmSetA2 fl port page).record = port.record := by
  unfold pmSetA2
  split
  · rfl
  split
  · rfl
  split
  · rfl
  split
  · exact record_foldl_setDomField fl page sfpDom port
  · exact record_foldl_setDomField fl page qsfpDom port

lemma moduleDevice_pmSetA2 (fl : FloatArith) (port : PmPort) (page : Page) :
    (pmSetA2 fl port page).moduleDevice = port.moduleDevice :=
  congrArg PmPort.Record.moduleDevice (record_pmSetA2 fl port page)

section Pages

variable (fl : FloatArith) {port : PmPort} (hp : port.moduleDevice.pluggable = true)

include hp

/-- A column of the table goes through the pages on its own. -/
lemma domColumn_foldl_pmSetA2 {column : DomColumn} {field : DomField}
    (h : (column, field) ∈ domTable port.moduleDevice) (pages : List Page) :
    (pages.foldl (pmSetA2 fl) port).ovsModuleDomColumns column =
      pages.foldl (fun old page => domText fl page field old)
        (port.ovsModuleDomColumns column) := by
  induction pages generalizing port with
  | nil => rfl
  | cons page pages ih =>
    have hdevice := moduleDevice_pmSetA2 fl port page
    rw [List.foldl_cons, List.foldl_cons, ih (by rw [hdevice, hp]) (by rw [hdevice]; exact h),
      domColumn_pmSetA2 fl hp page h]

lemma domColumn_foldl_pmSetA2_of_not_mem {column : DomColumn}
    (h : column ∉ (domTable port.moduleDevice).map Prod.fst) (pages : List Page) :
    (pages.foldl (pmSetA2 fl) port).ovsModuleDomColumns column =
      port.ovsModuleDomColumns column := by
  induction pages generalizing port with
  | nil => rfl
  | cons page pages ih =>
    have hdevice := moduleDevice_pmSetA2 fl port page
    rw [List.foldl_cons, ih (by rw [hdevice, hp]) (by rw [hdevice]; exact h),
      domColumn_pmSetA2_of_not_mem fl hp page h]

end Pages

lemma pmSetA2_of_not_pluggable (fl : FloatArith) {port : PmPort}
    (hp : port.moduleDevice.pluggable = false) (page : Page) : pmSetA2 fl port page = port := by
  unfold pmSetA2
  rw [hp]
  rfl

lemma floatText_exact (value : ℚ) (old : Option Text) :
    floatText exact value old = lazyWrite fixedTwo wholePart old value := by
  unfold floatText lazyWrite wholePart
  cases old with
  | none => rfl
  | some t => simp

/-- A numeric column shows the last of its values exactly if that value is not masked. -/
lemma lastText_iff {field : DomField} (value : Page → ℚ)
    (hvalue : ∀ page old, domText exact page field old = floatText exact (value page) old)
    (pages : List Page) (last : Page) :
    (pages ++ [last]).foldl (fun old page => domText exact page field old) none =
        domText exact last field none ↔
      ¬Masked fixedTwo wholePart ((pages ++ [last]).map value) := by
  have hcell : ∀ (pages : List Page) (old : Option Text),
      pages.foldl (fun old page => domText exact page field old) old =
        (pages.map value).foldl (lazyWrite fixedTwo wholePart) old := by
    intro pages old
    rw [List.foldl_map]
    congr 1
    funext old page
    rw [hvalue, floatText_exact]
  rw [hcell, hvalue, List.map_append, List.map_singleton]
  exact foldl_lazyWrite_iff wholePart_fixedTwo_wholePart (pages.map value) (value last)

/-- Whole temperatures are never masked. -/
lemma not_masked_temperature (msb : Fin 128) (pages : List Page) :
    ¬Masked fixedTwo wholePart (pages.map fun page => ((page.get msb).toInt8.toInt : ℚ)) := by
  rintro ⟨before, v, n, hvalues, hne⟩
  have hv : v ∈ pages.map fun page => ((page.get msb).toInt8.toInt : ℚ) := by
    rw [hvalues]
    simp
  obtain ⟨page, -, rfl⟩ := List.mem_map.mp hv
  have hlow := (page.get msb).toInt8.le_toInt
  have hhigh := (page.get msb).toInt8.toInt_lt
  apply hne
  unfold wholePart
  rw [strtol_fixedTwo_intCast (by omega) (by omega)]

lemma word_lt (page : Page) (msb : Fin 128) : page.word msb < 2 ^ 16 := by
  have hh := (page.get msb).toNat_lt
  have hl := (page.get (msb + 1)).toNat_lt
  unfold Page.word
  rw [← Nat.shiftLeft_add_eq_or_of_lt (by omega), Nat.shiftLeft_eq]
  omega

lemma reading_bounds (page : Page) (msb : Fin 128) (column : DomColumn) :
    (0 : ℚ) ≤ page.word msb / divisor column ∧
      hundredthsOf (page.word msb / divisor column) < 100 * 2 ^ 63 := by
  have hdiv : (500 : ℚ) ≤ divisor column := by
    unfold divisor
    split
    · norm_num
    · norm_num
  have hword : (page.word msb : ℚ) < 2 ^ 16 := by exact_mod_cast word_lt page msb
  have hpos : (0 : ℚ) ≤ page.word msb / divisor column :=
    div_nonneg (Nat.cast_nonneg _) (by linarith)
  refine ⟨hpos, ?_⟩
  have hsmall : |(page.word msb : ℚ) / divisor column| * 100 < (2 ^ 16 : ℕ) := by
    rw [abs_of_nonneg hpos, div_mul_eq_mul_div, div_lt_iff₀ (by linarith)]
    push_cast
    nlinarith
  have hle := hundredthsOf_le hsmall
  omega

/-- After the pages, all columns are as one call with the last page alone leaves them. -/
def LastPageWins (port : PmPort) (pages : List Page) (last : Page) : Prop :=
  ((pages ++ [last]).foldl (pmSetA2 exact) port).ovsModuleDomColumns =
    (pmSetA2 exact port last).ovsModuleDomColumns

/-- The readings of a word of the layout over some pages. -/
def readings (column : DomColumn) (hi : Fin 128) (pages : List Page) : List ℚ :=
  pages.map fun page => page.word hi / divisor column

lemma lastReading_iff {port : PmPort} (hp : port.moduleDevice.pluggable = true)
    {column : DomColumn} {hi lo : Fin 128}
    (h : (column, .word hi lo) ∈ domLayout port.moduleDevice)
    (hnull : port.ovsModuleDomColumns column = none) (pages : List Page) (last : Page) :
    ((pages ++ [last]).foldl (pmSetA2 exact) port).ovsModuleDomColumns column =
        (pmSetA2 exact port last).ovsModuleDomColumns column ↔
      ¬Hidden (readings column hi (pages ++ [last])) := by
  have hsource := (domLayout_fits port.moduleDevice).source _ h
  rw [domColumn_foldl_pmSetA2 exact hp hsource, domColumn_pmSetA2 exact hp last hsource, hnull,
    lastText_iff _ (fun page old => domText_word fixedTwo page column hi lo old) pages last]
  apply not_congr
  apply masked_iff_hidden
  intro v hv
  obtain ⟨page, -, rfl⟩ := List.mem_map.mp hv
  exact reading_bounds page hi column

lemma lastOther {port : PmPort} (hp : port.moduleDevice.pluggable = true) {column : DomColumn}
    (h : ∀ hi lo, (column, .word hi lo) ∉ domLayout port.moduleDevice)
    (hnull : port.ovsModuleDomColumns column = none) (pages : List Page) (last : Page) :
    ((pages ++ [last]).foldl (pmSetA2 exact) port).ovsModuleDomColumns column =
      (pmSetA2 exact port last).ovsModuleDomColumns column := by
  by_cases hmem : column ∈ (domTable port.moduleDevice).map Prod.fst
  · obtain ⟨⟨_, field⟩, hfield, rfl⟩ := List.mem_map.mp hmem
    rw [domColumn_foldl_pmSetA2 exact hp hfield, domColumn_pmSetA2 exact hp last hfield, hnull]
    cases field with
    | temperature msb =>
      apply (lastText_iff (fun page => ((page.get msb).toInt8.toInt : ℚ)) ?_ pages
        last).mpr
      · exact not_masked_temperature msb (pages ++ [last])
      · intro page old
        rw [domText, temperatureValue_exactWith]
    | scaled msb digits places =>
      cases mem_of_mem_domTable port.moduleDevice _ hfield with
      | inl hword =>
        obtain ⟨⟨_, place⟩, hplace, heq⟩ := List.mem_map.mp hword
        obtain ⟨rfl, hsource⟩ := Prod.mk.inj heq
        cases place with
        | word hi lo => exact absurd hplace (h hi lo)
        | bit byte k => contradiction
      | inr htemp =>
        obtain ⟨t, -, heq⟩ := List.mem_map.mp htemp
        cases (Prod.mk.inj heq).2
    | flag byte bit =>
      rw [List.foldl_append]
      rfl
  · rw [domColumn_foldl_pmSetA2_of_not_mem exact hp hmem,
      domColumn_pmSetA2_of_not_mem exact hp last hmem]

/-- The last page wins exactly if no numeric column hides its last reading. -/
theorem lastPageWins_iff {port : PmPort} (hnull : ∀ column, port.ovsModuleDomColumns column = none)
    (pages : List Page) (last : Page) :
    LastPageWins port pages last ↔ (port.moduleDevice.pluggable = true →
      ∀ column hi lo, (column, .word hi lo) ∈ domLayout port.moduleDevice →
        ¬Hidden (readings column hi (pages ++ [last]))) := by
  cases hp : port.moduleDevice.pluggable with
  | false =>
    have hsame : ∀ pages : List Page, pages.foldl (pmSetA2 exact) port = port := by
      intro pages
      induction pages with
      | nil => rfl
      | cons page pages ih => rw [List.foldl_cons, pmSetA2_of_not_pluggable exact hp, ih]
    unfold LastPageWins
    rw [hsame, pmSetA2_of_not_pluggable exact hp]
    simp
  | true =>
    constructor
    · intro h _ column hi lo hmem
      exact (lastReading_iff hp hmem (hnull column) pages last).mp (congrFun h column)
    · intro h
      funext column
      by_cases hword : ∃ hi lo, (column, .word hi lo) ∈ domLayout port.moduleDevice
      · obtain ⟨hi, lo, hmem⟩ := hword
        exact (lastReading_iff hp hmem (hnull column) pages last).mpr (h rfl column hi lo hmem)
      · exact lastOther hp (fun hi lo hmem => hword ⟨hi, lo, hmem⟩) (hnull column) pages last

namespace Switch

/-- A supply voltage in units of 100 uV, and nothing else. -/
def vccPage (raw : UInt16) : Page := (Field.word 98 99).write raw false Page.zero

end Switch

/-- A falling voltage, from 3.30 V to 2.90 V. -/
theorem lastPageWins_iff_falling :
    LastPageWins Switch.port2 [Switch.vccPage 33000] (Switch.vccPage 29000) ↔
      (Switch.port2.moduleDevice.pluggable = true →
        ∀ column hi lo, (column, .word hi lo) ∈ domLayout Switch.port2.moduleDevice →
          ¬Hidden (readings column hi ([Switch.vccPage 33000] ++ [Switch.vccPage 29000]))) :=
  lastPageWins_iff (fun _ => rfl) [Switch.vccPage 33000] (Switch.vccPage 29000)

/-- From 3.30 V to 3.00 V, the column keeps 3.30. -/
theorem not_lastPageWins_whole :
    ¬LastPageWins Switch.port2 [Switch.vccPage 33000] (Switch.vccPage 30000) := by
  intro h
  have hvcc := congrFun h .vcc
  revert hvcc
  decide +kernel

end OpsPmd
