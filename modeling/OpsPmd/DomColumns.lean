import OpsPmd.Columns
import OpsPmd.Lib.Decimal

/-!
# The columns of a diagnostics page

`pm_set_a2` fills each diagnostics column once, from its own old text and the page, so the
columns can be studied one by one.
-/

namespace OpsPmd

open Lib OvsrecInterfacePmInfo

/-- Rational numbers in place of `float`, with any conversion to text. -/
abbrev exactWith (fmt : ℚ → Text) : FloatArith where
  F := ℚ
  ofInt n := n
  dec digits places := digits / 10 ^ places
  add := (· + ·)
  mul := (· * ·)
  eq a b := a = b
  fmt := fmt

/-- Rational numbers that are printed with two places. -/
abbrev exact : FloatArith := exactWith fixedTwo

/-- The columns that `pm_set_a2` fills, with the fields they come from. -/
def domTable (device : YamlPort) : List (DomColumn × DomField) :=
  if device.hasConnector connectorSfpPlus then sfpDom
  else if device.isQsfp then qsfpDom
  else []

section Column

variable (fl : FloatArith)

/-- The text of a column after `SET_FLOAT_STRING`. -/
def floatText (value : fl.F) (old : Option Text) : Option Text :=
  if old.all (fun s => !fl.eq (fl.ofInt (strtol s)) value) then some (fl.fmt value) else old

def flagText (value : Bool) : Text := if value then "On".toList else "Off".toList

/-- The text of a column after its macro. -/
def domText (page : Page) (field : DomField) (old : Option Text) : Option Text :=
  match field with
  | .temperature msb => floatText fl (temperatureValue fl page msb) old
  | .scaled msb digits places => floatText fl (scaledValue fl page msb digits places) old
  | .flag byte bit => some (flagText (page.bit byte bit))

lemma ovsModuleDomColumns_setFloatString (port : PmPort) (field : DomColumn) (value : fl.F) :
    (port.setFloatString fl field value).ovsModuleDomColumns =
      Function.update port.ovsModuleDomColumns field
        (floatText fl value (port.ovsModuleDomColumns field)) := by
  unfold PmPort.setFloatString floatText
  split
  · rfl
  · rw [Function.update_eq_self]

lemma ovsModuleDomColumns_setFlagString (port : PmPort) (field : DomColumn) (value : Text) :
    (port.setFlagString field value).ovsModuleDomColumns =
      Function.update port.ovsModuleDomColumns field (some value) := by
  unfold PmPort.setFlagString
  split
  · rfl
  · rename_i h
    have hsame : port.ovsModuleDomColumns field = some value :=
      PmPort.differs_eq_false_iff.mp (by simpa using h)
    rw [← hsame, Function.update_eq_self]

lemma ovsModuleDomColumns_setBoolString (port : PmPort) (field : DomColumn) (value : Bool) :
    (port.setBoolString field value).ovsModuleDomColumns =
      Function.update port.ovsModuleDomColumns field (some (flagText value)) := by
  cases value with
  | true => exact ovsModuleDomColumns_setFlagString port field _
  | false => exact ovsModuleDomColumns_setFlagString port field _

lemma ovsModuleDomColumns_setDomField (page : Page) (port : PmPort)
    (entry : DomColumn × DomField) :
    (setDomField fl page port entry).ovsModuleDomColumns =
      Function.update port.ovsModuleDomColumns entry.1
        (domText fl page entry.2 (port.ovsModuleDomColumns entry.1)) := by
  obtain ⟨column, field⟩ := entry
  cases field with
  | temperature msb => exact ovsModuleDomColumns_setFloatString fl port column _
  | scaled msb digits places => exact ovsModuleDomColumns_setFloatString fl port column _
  | flag byte bit => exact ovsModuleDomColumns_setBoolString port column _

lemma domTable_nodup (device : YamlPort) : ((domTable device).map Prod.fst).Nodup := by
  unfold domTable
  split
  · decide
  split
  · decide
  · exact List.nodup_nil

/-- The diagnostics columns after `pm_set_a2` are those of one loop over the table. -/
lemma ovsModuleDomColumns_pmSetA2 {port : PmPort} (hp : port.moduleDevice.pluggable = true)
    (page : Page) :
    (pmSetA2 fl port page).ovsModuleDomColumns =
      ((domTable port.moduleDevice).foldl (setDomField fl page) port).ovsModuleDomColumns := by
  unfold pmSetA2 domTable
  rw [hp]
  cases hk : port.moduleDevice.isKnown with
  | false =>
    obtain ⟨hsfp, hq⟩ := Bool.or_eq_false_iff.mp hk
    rw [hsfp, hq]
    simp only [Bool.not_true, Bool.not_false, Bool.false_eq_true, if_false, if_true]
    split
    · rfl
    · rfl
  | true =>
    have hconn := connector_ne_none_of_isKnown hk
    simp only [hconn, Bool.not_true, Bool.false_eq_true, if_false]
    split
    · rfl
    · rename_i hsfp
      have hq : port.moduleDevice.isQsfp = true := by
        simpa [YamlPort.isKnown, hsfp] using hk
      rw [if_pos hq]
      rfl

/-- A column of the table is computed from its own field. -/
theorem domColumn_pmSetA2 {port : PmPort} (hp : port.moduleDevice.pluggable = true) (page : Page)
    {column : DomColumn} {field : DomField} (h : (column, field) ∈ domTable port.moduleDevice) :
    (pmSetA2 fl port page).ovsModuleDomColumns column =
      domText fl page field (port.ovsModuleDomColumns column) := by
  rw [ovsModuleDomColumns_pmSetA2 fl hp]
  exact foldl_update_of_mem (ovsModuleDomColumns_setDomField fl page)
    (domTable_nodup port.moduleDevice) h port

/-- The other columns stay as they are. -/
theorem domColumn_pmSetA2_of_not_mem {port : PmPort} (hp : port.moduleDevice.pluggable = true)
    (page : Page) {column : DomColumn} (h : column ∉ (domTable port.moduleDevice).map Prod.fst) :
    (pmSetA2 fl port page).ovsModuleDomColumns column = port.ovsModuleDomColumns column := by
  rw [ovsModuleDomColumns_pmSetA2 fl hp]
  exact foldl_update_of_not_mem (ovsModuleDomColumns_setDomField fl page) h port

end Column

end OpsPmd
