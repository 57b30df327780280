import OpsPmd.OvsdbAccess
import OpsPmd.Lib.Dirty

/-!
# What the macros change

Every macro overwrites one column and raises the change flag, or finds the column as it
should be. This file states it once for each macro, so that nothing later unfolds one:
the columns afterwards are an update of the columns before, the rest of the record is the
same, and the change flag tracks the columns.
-/

namespace OpsPmd

open Lib OvsrecInterfacePmInfo

namespace PmPort

/-- The fields that no macro touches. -/
structure Record where
  inst : String
  uuid : Uuid
  moduleDevice : YamlPort
  subsystem : String
  hwEnable : Bool
  hwEnableSubport : Vector Bool 4
  present : Bool
  retry : Bool
  a2ReadRequested : Bool
  split : Bool
  optical : Bool
  moduleData : Option Page
  portEnable : UInt8

def record (port : PmPort) : Record :=
  ⟨port.inst, port.uuid, port.moduleDevice, port.subsystem, port.hwEnable,
    port.hwEnableSubport, port.present, port.retry, port.a2ReadRequested, port.split,
    port.optical, port.moduleData, port.portEnable⟩

/-- All strings of a port, the content whose changes the flag reports. -/
def columns (port : PmPort) : OvsModuleInfo × OvsModuleDomInfo :=
  (port.ovsModuleColumns, port.ovsModuleDomColumns)

/-- The change flag and the columns of the port changed together, if at all. -/
abbrev Tracks (port port' : PmPort) : Prop :=
  Lib.Tracks PmPort.moduleInfoChanged PmPort.columns port port'

section Macros

variable (port : PmPort) (field : ModuleColumn)

@[simp] lemma record_setColumn (value : Option Text) :
    (port.setColumn field value).record = port.record := rfl

@[simp] lemma record_setStaticString (value : Text) :
    (port.setStaticString field value).record = port.record := rfl

@[simp] lemma record_setString (value : Text) :
    (port.setString field value).record = port.record := by
  unfold setString
  split <;> rfl

@[simp] lemma record_setIntString (value : Int) :
    (port.setIntString field value).record = port.record := by
  unfold setIntString
  split <;> rfl

@[simp] lemma record_deleteColumn : (port.deleteColumn field).record = port.record := by
  unfold deleteColumn
  split <;> rfl

@[simp] lemma record_setBinary (value : List UInt8) :
    (port.setBinary field value).record = port.record := rfl

@[simp] lemma record_setSupportedSpeeds (speeds : List Int) :
    (setSupportedSpeeds port speeds).record = port.record := rfl

@[simp] lemma record_deleteCable : port.deleteCable.record = port.record := by
  simp [deleteCable]

@[simp] lemma record_classify (optical : Bool) (connector status : Text) (speed : Int) :
    (port.classify optical connector status speed).record =
      { port.record with optical := optical } := by
  simp [classify, record_setIntString]
  rfl

@[simp] lemma ovsModuleColumns_setColumn (value : Option Text) :
    (port.setColumn field value).ovsModuleColumns =
      Function.update port.ovsModuleColumns field value := rfl

@[simp] lemma ovsModuleColumns_setStaticString (value : Text) :
    (port.setStaticString field value).ovsModuleColumns =
      Function.update port.ovsModuleColumns field (some value) := rfl

lemma differs_eq_false_iff {old : Option Text} {value : Text} :
    differs old value = false ↔ old = some value := by
  unfold differs
  cases old with
  | none => simp
  | some s =>
    simp only [Bool.or_eq_false_iff, decide_eq_false_iff_not, not_not, Option.some.injEq]
    exact ⟨fun h => h.2, fun h => ⟨by rw [h], h⟩⟩

/-- Whether it had to write or not, `SET_STRING` leaves its value in the column. -/
@[simp] lemma ovsModuleColumns_setString (value : Text) :
    (port.setString field value).ovsModuleColumns =
      Function.update port.ovsModuleColumns field (some value) := by
  unfold setString
  split
  · rfl
  · rename_i h
    have h' : port.ovsModuleColumns field = some value :=
      differs_eq_false_iff.mp (by simpa using h)
    rw [← h', Function.update_eq_self]

@[simp] lemma ovsModuleColumns_deleteColumn :
    (port.deleteColumn field).ovsModuleColumns =
      Function.update port.ovsModuleColumns field none := by
  unfold deleteColumn
  split
  · rfl
  · rename_i h
    have h' : port.ovsModuleColumns field = none := by simpa using h
    rw [← h', Function.update_eq_self]

@[simp] lemma ovsModuleColumns_setBinary (value : List UInt8) :
    (port.setBinary field value).ovsModuleColumns =
      Function.update port.ovsModuleColumns field (some (hexToAscii value)) := rfl

@[simp] lemma ovsModuleColumns_setSupportedSpeeds (speeds : List Int) :
    (setSupportedSpeeds port speeds).ovsModuleColumns =
      Function.update port.ovsModuleColumns .supportedSpeeds (joinSpeeds speeds) := rfl

/-- `SET_INT_STRING` leaves its value in the column if what the column held was a numeral
that it wrote itself, or nothing. -/
lemma ovsModuleColumns_setIntString {value : Int}
    (h : ∀ s, port.ovsModuleColumns field = some s →
      ∃ n : Int, s = decimal n ∧ -2 ^ 63 ≤ n ∧ n < 2 ^ 63) :
    (port.setIntString field value).ovsModuleColumns =
      Function.update port.ovsModuleColumns field (some (decimal value)) := by
  unfold setIntString
  split
  · rfl
  · rename_i hall
    cases hs : port.ovsModuleColumns field with
    | none => simp [hs] at hall
    | some s =>
      obtain ⟨n, rfl, hl, hu⟩ := h s hs
      have hn : strtol (decimal n) = value := by simpa [hs] using hall
      rw [strtol_decimal hl hu] at hn
      rw [← hn, ← hs, Function.update_eq_self]

lemma tracks_setColumn (value : Option Text) : port.Tracks (port.setColumn field value) :=
  Tracks.of_dirty rfl

lemma tracks_setDomColumn (field : DomColumn) (value : Option Text) :
    port.Tracks (port.setDomColumn field value) := Tracks.of_dirty rfl

lemma tracks_setStaticString (value : Text) : port.Tracks (port.setStaticString field value) :=
  port.tracks_setColumn field _

lemma tracks_setString (value : Text) : port.Tracks (port.setString field value) := by
  unfold setString
  split
  · exact port.tracks_setColumn field _
  · rfl

lemma tracks_setFloatString (fl : FloatArith) (field : DomColumn) (value : fl.F) :
    port.Tracks (port.setFloatString fl field value) := by
  unfold setFloatString
  split
  · exact port.tracks_setDomColumn field _
  · rfl

lemma tracks_setFlagString (field : DomColumn) (value : Text) :
    port.Tracks (port.setFlagString field value) := by
  unfold setFlagString
  split
  · exact port.tracks_setDomColumn field _
  · rfl

lemma tracks_setBoolString (field : DomColumn) (value : Bool) :
    port.Tracks (port.setBoolString field value) := by
  unfold setBoolString
  split <;> exact port.tracks_setFlagString field _

lemma tracks_deleteColumn : port.Tracks (port.deleteColumn field) := by
  unfold deleteColumn
  split
  · exact port.tracks_setColumn field _
  · rfl

lemma tracks_setBinary (value : List UInt8) : port.Tracks (port.setBinary field value) :=
  port.tracks_setColumn field _

lemma tracks_deleteCable : port.Tracks port.deleteCable :=
  (port.tracks_deleteColumn _).trans (tracks_deleteColumn _ _)

/-- A classified port always asks for publication, since two columns are written blindly. -/
lemma moduleInfoChanged_classify (optical : Bool) (connector status : Text)
    (speed : Int) : (port.classify optical connector status speed).moduleInfoChanged = true := rfl

lemma tracks_classify (optical : Bool) (connector status : Text) (speed : Int) :
    port.Tracks (port.classify optical connector status speed) :=
  Tracks.of_dirty (port.moduleInfoChanged_classify optical connector status speed)

end Macros

end PmPort

@[simp] lemma record_pmDeleteAllData (port : PmPort) :
    (pmDeleteAllData port).record = port.record := by
  simp [pmDeleteAllData]

/-- Outside of the columns, only the optical flag may differ. -/
def DecidesOptical (port port' : PmPort) : Prop :=
  port'.record = { port.record with optical := port'.optical }

lemma DecidesOptical.of_record_eq {port port' port'' : PmPort} (h : DecidesOptical port port')
    (he : port''.record = port'.record) : DecidesOptical port port'' := by
  have ho : port''.optical = port'.optical := congrArg PmPort.Record.optical he
  unfold DecidesOptical
  rw [he, ho]
  exact h

lemma decidesOptical_classify (port : PmPort) (optical : Bool) (connector status : Text)
    (speed : Int) : DecidesOptical port (port.classify optical connector status speed) := by
  have h := port.record_classify optical connector status speed
  have ho : (port.classify optical connector status speed).optical = optical :=
    congrArg PmPort.Record.optical h
  unfold DecidesOptical
  rw [h, ho]

lemma decidesOptical_deleteCable (port : PmPort) (optical : Bool) (connector status : Text)
    (speed : Int) :
    DecidesOptical port (port.classify optical connector status speed).deleteCable :=
  (decidesOptical_classify port optical connector status speed).of_record_eq
    (PmPort.record_deleteCable _)

/-! ### The classifications

Whatever a page holds, each classification ends in one call of `classify` whose arguments do
not depend on the port. -/

/-- The conditions that the source forces leave one verdict. -/
lemma classifySfpPlus_eq (page : Page) (port : PmPort) :
    classifySfpPlus page port =
      (port.classify true connectorSfpSr connectorStatusSupported 10000).deleteCable := by
  unfold classifySfpPlus
  simp

lemma exists_classifyQsfpPlus (page : Page) : ∃ optical connector status, ∃ speed ∈ [0, 40000],
    ∀ port, classifyQsfpPlus page port =
      (port.classify optical connector status speed).deleteCable := by
  unfold classifyQsfpPlus
  dsimp only
  split
  · exact ⟨_, _, _, 40000, by simp, fun _ => rfl⟩
  split
  · exact ⟨_, _, _, 40000, by simp, fun _ => rfl⟩
  split
  · exact ⟨_, _, _, 40000, by simp, fun _ => rfl⟩
  · exact ⟨_, _, _, 0, by simp, fun _ => rfl⟩

lemma exists_classifyQsfp28 (page : Page) :
    ∃ optical connector status, ∃ speed ∈ [0, 40000, 100000],
      ∀ port, classifyQsfp28 page port =
        (port.classify optical connector status speed).deleteCable := by
  cases he : QsfpSerialId.enetExtended page with
  | false =>
    obtain ⟨optical, connector, status, speed, hspeed, h⟩ := exists_classifyQsfpPlus page
    refine ⟨optical, connector, status, speed, by simp at hspeed ⊢; tauto, fun port => ?_⟩
    rw [classifyQsfp28_of_not_extended he]
    exact h port
  | true =>
    unfold classifyQsfp28
    simp only [he, if_true]
    split
    · exact ⟨_, _, _, 100000, by simp, fun _ => rfl⟩
    split
    · exact ⟨_, _, _, 100000, by simp, fun _ => rfl⟩
    split
    · exact ⟨_, _, _, 100000, by simp, fun _ => rfl⟩
    split
    · exact ⟨_, _, _, 100000, by simp, fun _ => rfl⟩
    split
    · exact ⟨_, _, _, 100000, by simp, fun _ => rfl⟩
    split
    · exact ⟨_, _, _, 100000, by simp, fun _ => rfl⟩
    · exact ⟨_, _, _, 0, by simp, fun _ => rfl⟩

lemma decidesOptical_classifySfpPlus (page : Page) (port : PmPort) :
    DecidesOptical port (classifySfpPlus page port) := by
  rw [classifySfpPlus_eq]
  exact decidesOptical_deleteCable port _ _ _ _

lemma decidesOptical_classifyQsfpPlus (page : Page) (port : PmPort) :
    DecidesOptical port (classifyQsfpPlus page port) := by
  obtain ⟨_, _, _, _, -, h⟩ := exists_classifyQsfpPlus page
  rw [h]
  exact decidesOptical_deleteCable port _ _ _ _

lemma decidesOptical_classifyQsfp28 (page : Page) (port : PmPort) :
    DecidesOptical port (classifyQsfp28 page port) := by
  obtain ⟨_, _, _, _, -, h⟩ := exists_classifyQsfp28 page
  rw [h]
  exact decidesOptical_deleteCable port _ _ _ _

@[simp] lemma record_fillSfpPlus (page : Page) (port : PmPort) :
    (fillSfpPlus page port).record = port.record := by
  simp [fillSfpPlus]

@[simp] lemma record_fillQsfp (page : Page) (port : PmPort) :
    (fillQsfp page port).record = port.record := by
  simp [fillQsfp]

lemma pmParse_of_isQsfp {port : PmPort} (hq : port.moduleDevice.isQsfp = true)
    (hp : port.moduleDevice.pluggable = true) (page : Page) :
    pmParse page port =
      (0, if port.moduleDevice.hasConnector connectorQsfpPlus then
          fillQsfp (SfpSerialId.setEnet10gbaseSr page)
            (classifyQsfpPlus (SfpSerialId.setEnet10gbaseSr page) port)
        else
          fillQsfp28 (SfpSerialId.setEnet10gbaseSr page)
            (classifyQsfp28 (SfpSerialId.setEnet10gbaseSr page) port),
        SfpSerialId.setEnet10gbaseSr page) := by
  have hknown := isKnown_of_isQsfp hq
  have hconn := connector_ne_none_of_isKnown hknown
  have hsfp := hasConnector_sfpPlus_of_isQsfp hq
  unfold pmParse
  simp only [hp, hconn, hknown, hsfp, Bool.not_true, Bool.false_eq_true, if_false]
  split
  · rfl
  · rfl

/-- Outside of the columns, parsing decides no more than whether the module is optical. -/
lemma decidesOptical_pmParse (page : Page) (port : PmPort) :
    DecidesOptical port (pmParse page port).2.1 := by
  unfold pmParse
  dsimp only
  split
  · rfl
  split
  · rfl
  split
  · have hself : DecidesOptical port port := rfl
    have hdelete := record_pmDeleteAllData port
    exact hself.of_record_eq ((PmPort.record_setStaticString _ _ _).trans hdelete)
  split
  · exact (decidesOptical_classifySfpPlus _ port).of_record_eq (record_fillSfpPlus _ _)
  split
  · exact (decidesOptical_classifyQsfpPlus _ port).of_record_eq (record_fillQsfp _ _)
  · rw [fillQsfp28_eq]
    exact (decidesOptical_classifyQsfp28 _ port).of_record_eq (record_fillQsfp _ _)

lemma moduleDevice_pmParse (page : Page) (port : PmPort) :
    (pmParse page port).2.1.moduleDevice = port.moduleDevice :=
  congrArg PmPort.Record.moduleDevice (decidesOptical_pmParse page port)

lemma record_publishPort (replica : Replica) (port : PmPort) :
    (publishPort replica port).1.record = port.record := by
  unfold publishPort
  split
  · rfl
  split
  · rfl
  · rfl

end OpsPmd
