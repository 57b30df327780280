import OpsPmd.DomHistory
import OpsPmd.LegalRow

/-!
# Deleting the data of a module

`pm_delete_all_data` empties all module columns but the connector. None of its macros
reaches the diagnostics columns, so a diagnostics page that was once read shows up under
the next module.
-/

namespace OpsPmd

open Lib OvsrecInterfacePmInfo

namespace PmPort

section Macros

variable (port : PmPort) (field : ModuleColumn)

@[simp] lemma ovsModuleDomColumns_setColumn (value : Option Text) :
    (port.setColumn field value).ovsModuleDomColumns = port.ovsModuleDomColumns := rfl

@[simp] lemma ovsModuleDomColumns_setStaticString (value : Text) :
    (port.setStaticString field value).ovsModuleDomColumns = port.ovsModuleDomColumns := rfl

@[simp] lemma ovsModuleDomColumns_setString (value : Text) :
    (port.setString field value).ovsModuleDomColumns = port.ovsModuleDomColumns := by
  unfold setString
  split <;> rfl

@[simp] lemma ovsModuleDomColumns_setIntString (value : Int) :
    (port.setIntString field value).ovsModuleDomColumns = port.ovsModuleDomColumns := by
  unfold setIntString
  split <;> rfl

@[simp] lemma ovsModuleDomColumns_deleteColumn :
    (port.deleteColumn field).ovsModuleDomColumns = port.ovsModuleDomColumns := by
  unfold deleteColumn
  split <;> rfl

@[simp] lemma ovsModuleDomColumns_setBinary (value : List UInt8) :
    (port.setBinary field value).ovsModuleDomColumns = port.ovsModuleDomColumns := rfl

@[simp] lemma ovsModuleDomColumns_classify (optical : Bool) (connector status : Text)
    (speed : Int) : (port.classify optical connector status speed).deleteCable.ovsModuleDomColumns =
      port.ovsModuleDomColumns := by
  simp [classify, deleteCable, setSupportedSpeeds]

end Macros

end PmPort

lemma ovsModuleDomColumns_pmDeleteAllData (port : PmPort) :
    (pmDeleteAllData port).ovsModuleDomColumns = port.ovsModuleDomColumns := by
  simp [pmDeleteAllData]

lemma ovsModuleDomColumns_fillQsfp (page : Page) (port : PmPort) :
    (fillQsfp page port).ovsModuleDomColumns = port.ovsModuleDomColumns := by
  simp [fillQsfp]

lemma ovsModuleDomColumns_pmParse (page : Page) (port : PmPort) :
    (pmParse page port).2.1.ovsModuleDomColumns = port.ovsModuleDomColumns := by
  unfold pmParse
  dsimp only
  split
  · rfl
  split
  · rfl
  split
  · exact ovsModuleDomColumns_pmDeleteAllData port
  split
  · rw [classifySfpPlus_eq]
    simp [fillSfpPlus]
  split
  · obtain ⟨_, _, _, _, -, hc⟩ := exists_classifyQsfpPlus (SfpSerialId.setEnet10gbaseSr page)
    rw [ovsModuleDomColumns_fillQsfp, hc, PmPort.ovsModuleDomColumns_classify]
  · obtain ⟨_, _, _, _, -, hc⟩ := exists_classifyQsfp28 (SfpSerialId.setEnet10gbaseSr page)
    rw [fillQsfp28_eq, ovsModuleDomColumns_fillQsfp, hc, PmPort.ovsModuleDomColumns_classify]

section Fill

variable (fl : FloatArith)

lemma domText_ne_none (page : Page) (field : DomField) (old : Option Text) :
    domText fl page field old ≠ none := by
  have hfloat : ∀ value : fl.F, floatText fl value old ≠ none := by
    intro value
    unfold floatText
    cases old with
    | none => simp
    | some text =>
      split
      · simp
      · simp
  cases field with
  | temperature msb => exact hfloat _
  | scaled msb digits places => exact hfloat _
  | flag byte bit => simp [domText]

lemma domTable_temperature {device : YamlPort} (h : device.isKnown = true) :
    ∃ field, (DomColumn.temperature, field) ∈ domTable device := by
  unfold domTable
  split
  · exact ⟨.temperature 96, by decide⟩
  · rename_i hsfp
    have hq : device.isQsfp = true := by simpa [YamlPort.isKnown, hsfp] using h
    rw [if_pos hq]
    exact ⟨.temperature 22, by decide⟩

lemma domTable_of_not_isKnown {device : YamlPort} (h : device.isKnown = false) :
    domTable device = [] := by
  obtain ⟨hsfp, hq⟩ := Bool.or_eq_false_iff.mp h
  unfold domTable
  rw [hsfp, hq]
  rfl

/-- On a pluggable port of a known kind, every diagnostics page leaves a temperature. -/
lemma temperature_pmSetA2_ne_none {port : PmPort} (hp : port.moduleDevice.pluggable = true)
    (hk : port.moduleDevice.isKnown = true) (page : Page) :
    (pmSetA2 fl port page).ovsModuleDomColumns .temperature ≠ none := by
  obtain ⟨field, hfield⟩ := domTable_temperature hk
  rw [domColumn_pmSetA2 fl hp page hfield]
  exact domText_ne_none fl page field _

lemma ovsModuleDomColumns_pmSetA2_of_not {port : PmPort}
    (h : port.moduleDevice.pluggable = false ∨ port.moduleDevice.isKnown = false) (page : Page) :
    (pmSetA2 fl port page).ovsModuleDomColumns = port.ovsModuleDomColumns := by
  cases hp : port.moduleDevice.pluggable with
  | false => rw [pmSetA2_of_not_pluggable fl hp]
  | true =>
    have hk : port.moduleDevice.isKnown = false := by simpa [hp] using h
    rw [ovsModuleDomColumns_pmSetA2 fl hp, domTable_of_not_isKnown hk]
    rfl

lemma domColumn_pmSetA2_ne_none {port : PmPort} {column : DomColumn}
    (h : port.ovsModuleDomColumns column ≠ none) (page : Page) :
    (pmSetA2 fl port page).ovsModuleDomColumns column ≠ none := by
  cases hp : port.moduleDevice.pluggable with
  | false => rwa [pmSetA2_of_not_pluggable fl hp]
  | true =>
    by_cases hmem : column ∈ (domTable port.moduleDevice).map Prod.fst
    · obtain ⟨⟨_, field⟩, hfield, rfl⟩ := List.mem_map.mp hmem
      rw [domColumn_pmSetA2 fl hp page hfield]
      exact domText_ne_none fl page field _
    · rwa [domColumn_pmSetA2_of_not_mem fl hp page hmem]

/-- A call that stores the data of a module. -/
inductive ModuleOp
  | parse (page : Page)
  | setA2 (page : Page)

def moduleStep (port : PmPort) : ModuleOp → PmPort
  | .parse page => (pmParse page port).2.1
  | .setA2 page => pmSetA2 fl port page

lemma moduleDevice_moduleStep (port : PmPort) (op : ModuleOp) :
    (moduleStep fl port op).moduleDevice = port.moduleDevice := by
  cases op with
  | parse page => exact moduleDevice_pmParse page port
  | setA2 page => exact moduleDevice_pmSetA2 fl port page

lemma moduleDevice_run_moduleStep (port : PmPort) (ops : List ModuleOp) :
    (run (moduleStep fl) port ops).moduleDevice = port.moduleDevice :=
  run_invariant (I := fun p => p.moduleDevice = port.moduleDevice)
    (fun p op h => (moduleDevice_moduleStep fl p op).trans h) rfl ops

lemma domColumn_run_ne_none {port : PmPort} {column : DomColumn}
    (h : port.ovsModuleDomColumns column ≠ none) (ops : List ModuleOp) :
    (run (moduleStep fl) port ops).ovsModuleDomColumns column ≠ none := by
  refine run_invariant (I := fun p : PmPort => p.ovsModuleDomColumns column ≠ none) ?_ h ops
  intro p op hp
  cases op with
  | parse page =>
    show (pmParse page p).2.1.ovsModuleDomColumns column ≠ none
    rwa [ovsModuleDomColumns_pmParse]
  | setA2 page => exact domColumn_pmSetA2_ne_none fl hp page

/-- A diagnostics page is stored on a port that takes modules of a known kind. -/
def StoresDom (device : YamlPort) (ops : List ModuleOp) : Prop :=
  device.pluggable = true ∧ device.isKnown = true ∧ ∃ page, ModuleOp.setA2 page ∈ ops

/-- A sequence that stores no diagnostics page leaves the diagnostics columns alone. -/
lemma ovsModuleDomColumns_run {port : PmPort} {ops : List ModuleOp}
    (h : ¬StoresDom port.moduleDevice ops) :
    (run (moduleStep fl) port ops).ovsModuleDomColumns = port.ovsModuleDomColumns := by
  induction ops generalizing port with
  | nil => rfl
  | cons op ops ih =>
    have hdevice := moduleDevice_moduleStep fl port op
    have hrest : ¬StoresDom (moduleStep fl port op).moduleDevice ops := by
      rw [hdevice]
      rintro ⟨hp, hk, page, hpage⟩
      exact h ⟨hp, hk, page, List.mem_cons_of_mem op hpage⟩
    rw [run_cons, ih hrest]
    cases op with
    | parse page => exact ovsModuleDomColumns_pmParse page port
    | setA2 page =>
      apply ovsModuleDomColumns_pmSetA2_of_not
      by_contra hboth
      simp only [not_or, Bool.not_eq_false] at hboth
      exact h ⟨hboth.1, hboth.2, page, List.mem_cons_self⟩

/-- Deleting after the calls leaves no attribute of the module but its connector, and no
diagnostics when the page of another module is parsed. -/
structure LeavesNothing (port : PmPort) (ops : List ModuleOp) : Prop where
  columns : ∀ column, column ≠ .connector →
    (pmDeleteAllData (run (moduleStep fl) port ops)).ovsModuleColumns column = none
  domColumns : ∀ column,
    (pmDeleteAllData (run (moduleStep fl) port ops)).ovsModuleDomColumns column = none
  next : ∀ page column, (pmParse page
    (pmDeleteAllData (run (moduleStep fl) port ops))).2.1.ovsModuleDomColumns column = none

/-- Nothing survives the deletion exactly if the diagnostics columns were empty at the start
and no diagnostics page was stored. -/
theorem leavesNothing_iff (port : PmPort) (ops : List ModuleOp) :
    LeavesNothing fl port ops ↔
      (∀ column, port.ovsModuleDomColumns column = none) ∧
        ¬StoresDom port.moduleDevice ops := by
  have hdelete := ovsModuleDomColumns_pmDeleteAllData (run (moduleStep fl) port ops)
  constructor
  · intro h
    have hnone : ∀ column, (run (moduleStep fl) port ops).ovsModuleDomColumns column = none := by
      intro column
      rw [← hdelete]
      exact h.domColumns column
    constructor
    · intro column
      by_contra hcolumn
      exact domColumn_run_ne_none fl hcolumn ops (hnone column)
    · rintro ⟨hp, hk, page, hpage⟩
      obtain ⟨before, after, rfl⟩ := List.append_of_mem hpage
      have hdevice := moduleDevice_run_moduleStep fl port before
      rw [← hdevice] at hp hk
      have hset := temperature_pmSetA2_ne_none fl hp hk page
      have hlast := domColumn_run_ne_none fl hset after
      apply hlast
      have hrun : run (moduleStep fl) port (before ++ .setA2 page :: after) =
          run (moduleStep fl) (pmSetA2 fl (run (moduleStep fl) port before) page) after :=
        run_append _ port before (.setA2 page :: after)
      rw [← hrun]
      exact hnone .temperature
  · rintro ⟨hnone, hstores⟩
    have hrun := ovsModuleDomColumns_run fl hstores
    refine ⟨?_, ?_, ?_⟩
    · intro column hcolumn
      rw [ovsModuleColumns_pmDeleteAllData, if_neg hcolumn]
    · intro column
      rw [hdelete, hrun]
      exact hnone column
    · intro page column
      rw [ovsModuleDomColumns_pmParse, hdelete, hrun]
      exact hnone column

end Fill

/-- The temperature of an SFP+ module outlives it. -/
theorem not_leavesNothing_temperature :
    ¬LeavesNothing Switch.hundredths Switch.port2 [.parse Page.zero, .setA2 Page.zero] := by
  intro h
  have htemperature := h.domColumns .temperature
  have hdevice := moduleDevice_pmParse Page.zero Switch.port2
  have hset : (pmSetA2 Switch.hundredths (pmParse Page.zero Switch.port2).2.1
      Page.zero).ovsModuleDomColumns .temperature ≠ none := by
    apply temperature_pmSetA2_ne_none
    · rw [hdevice]
      rfl
    · rw [hdevice]
      decide
  rw [ovsModuleDomColumns_pmDeleteAllData, run_cons, run_cons, run_nil] at htemperature
  simp only [moduleStep] at htemperature
  exact hset htemperature

end OpsPmd
