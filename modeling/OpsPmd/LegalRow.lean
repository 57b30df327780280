import OpsPmd.Columns

/-!
# Rows of QSFP ports

Parsing and deleting keep the five columns that identify a QSFP module together: whenever
a status is set, they form one of the rows of `legalRows`.
-/

namespace OpsPmd

open Lib OvsrecInterfacePmInfo

/-- A connector, its status, the two speed columns and the optical flag. -/
structure Row where
  connector : Text
  status : Text
  maxSpeed : Text
  supportedSpeeds : Text
  optical : Bool
deriving DecidableEq

def row40G (optical : Bool) (connector : Text) : Row :=
  ⟨connector, connectorStatusSupported, "40000".toList, "40000".toList, optical⟩

def row100G (optical : Bool) (connector : Text) : Row :=
  ⟨connector, connectorStatusSupported, "100000".toList, "100000".toList, optical⟩

def rowUnknown : Row :=
  ⟨connectorUnknown, connectorStatusUnrecognized, "0".toList, "0".toList, false⟩

/-- The rows of a QSFP+ port, and of a port whose connector is QSFP28. -/
def legalRows (qsfp28 : Bool) : List Row :=
  [row40G true connectorQsfpLr4, row40G true connectorQsfpSr4, row40G false connectorQsfpCr4,
    rowUnknown] ++
  if qsfp28 then
    [row100G true connectorQsfp28Sr4, row100G true connectorQsfp28Lr4,
      row100G true connectorQsfp28Cwdm4, row100G true connectorQsfp28Psm4,
      row100G true connectorQsfp28Clr4, row100G false connectorQsfp28Cr4]
  else []

/-- The port shows the row. -/
structure Shows (port : PmPort) (row : Row) : Prop where
  connector : port.ovsModuleColumns .connector = some row.connector
  status : port.ovsModuleColumns .connectorStatus = some row.status
  maxSpeed : port.ovsModuleColumns .maxSpeed = some row.maxSpeed
  supportedSpeeds : port.ovsModuleColumns .supportedSpeeds = some row.supportedSpeeds
  optical : port.optical = row.optical

/-- The stored speed is a numeral as `%d` writes it, of a size that `strtol` reads back. -/
def CanonicalSpeed (port : PmPort) : Prop :=
  ∀ s, port.ovsModuleColumns .maxSpeed = some s →
    ∃ n : Int, s = decimal n ∧ -2 ^ 63 ≤ n ∧ n < 2 ^ 63

/-- What every sequence of parses and deletions keeps. -/
structure RowInv (device : YamlPort) (port : PmPort) : Prop where
  moduleDevice : port.moduleDevice = device
  speed : CanonicalSpeed port
  row : port.ovsModuleColumns .connectorStatus ≠ none →
    ∃ row ∈ legalRows (device.hasConnector connectorQsfp28), Shows port row

lemma columns_classify {port : PmPort} (h : CanonicalSpeed port) (optical : Bool)
    (connector status : Text) (speed : Int) :
    (port.classify optical connector status speed).deleteCable.ovsModuleColumns =
      fun field => match field with
        | .connector => some connector
        | .connectorStatus => some status
        | .maxSpeed => some (decimal speed)
        | .supportedSpeeds => some (decimal speed)
        | .cableTechnology => none
        | .cableLength => none
        | field => port.ovsModuleColumns field := by
  have hcanon : ∀ s, (({ port with optical := optical }.setStaticString .connector
      connector).setStaticString .connectorStatus status).ovsModuleColumns .maxSpeed = some s →
      ∃ n : Int, s = decimal n ∧ -2 ^ 63 ≤ n ∧ n < 2 ^ 63 := by
    intro s hs
    exact h s (by simpa [Function.update] using hs)
  funext field
  unfold PmPort.classify PmPort.deleteCable
  simp only [PmPort.ovsModuleColumns_deleteColumn, PmPort.ovsModuleColumns_setSupportedSpeeds]
  rw [PmPort.ovsModuleColumns_setIntString _ _ hcanon]
  cases field <;> simp [Function.update, joinSpeeds]

lemma optical_classify (port : PmPort) (optical : Bool) (connector status : Text) (speed : Int) :
    (port.classify optical connector status speed).deleteCable.optical = optical := by
  have hr := congrArg PmPort.Record.optical
    ((port.classify optical connector status speed).record_deleteCable.trans
      (port.record_classify optical connector status speed))
  exact hr

lemma shows_classify {port : PmPort} (h : CanonicalSpeed port) (optical : Bool)
    (connector status : Text) (speed : Int) (hl : -2 ^ 63 ≤ speed) (hu : speed < 2 ^ 63) :
    Shows (port.classify optical connector status speed).deleteCable
      ⟨connector, status, decimal speed, decimal speed, optical⟩ ∧
    CanonicalSpeed (port.classify optical connector status speed).deleteCable := by
  have hcols := columns_classify h optical connector status speed
  have hopt := optical_classify port optical connector status speed
  refine ⟨⟨?_, ?_, ?_, ?_, hopt⟩, fun s hs => ⟨speed, ?_, hl, hu⟩⟩
  all_goals first | rw [hcols] | (rw [hcols] at hs; exact (Option.some.inj hs).symm)

/-- The two QSFP classifications leave a port that shows a legal row. -/
lemma shows_classifyQsfpPlus {port : PmPort} (h : CanonicalSpeed port) (qsfp28 : Bool)
    (page : Page) : (∃ row ∈ legalRows qsfp28, Shows (classifyQsfpPlus page port) row) ∧
      CanonicalSpeed (classifyQsfpPlus page port) := by
  have h40 : ∀ optical connector, Shows
      (port.classify optical connector connectorStatusSupported 40000).deleteCable
        (row40G optical connector) ∧ CanonicalSpeed
      (port.classify optical connector connectorStatusSupported 40000).deleteCable :=
    fun optical connector =>
      shows_classify h optical connector connectorStatusSupported _ (by decide) (by decide)
  have h0 := shows_classify h false connectorUnknown connectorStatusUnrecognized 0
    (by decide) (by decide)
  unfold classifyQsfpPlus
  dsimp only
  split
  · exact ⟨⟨_, by simp [legalRows], (h40 true connectorQsfpLr4).1⟩, (h40 _ _).2⟩
  split
  · exact ⟨⟨_, by simp [legalRows], (h40 true connectorQsfpSr4).1⟩, (h40 _ _).2⟩
  split
  · exact ⟨⟨_, by simp [legalRows], (h40 false connectorQsfpCr4).1⟩, (h40 _ _).2⟩
  · exact ⟨⟨rowUnknown, by simp [legalRows], h0.1⟩, h0.2⟩

lemma shows_classifyQsfp28 {port : PmPort} (h : CanonicalSpeed port) (page : Page) :
    (∃ row ∈ legalRows true, Shows (classifyQsfp28 page port) row) ∧
      CanonicalSpeed (classifyQsfp28 page port) := by
  have h100 : ∀ optical connector, Shows
      (port.classify optical connector connectorStatusSupported 100000).deleteCable
        (row100G optical connector) ∧ CanonicalSpeed
      (port.classify optical connector connectorStatusSupported 100000).deleteCable :=
    fun optical connector =>
      shows_classify h optical connector connectorStatusSupported _ (by decide) (by decide)
  have h0 := shows_classify h false connectorUnknown connectorStatusUnrecognized 0
    (by decide) (by decide)
  cases he : QsfpSerialId.enetExtended page with
  | false =>
    rw [classifyQsfp28_of_not_extended he]
    exact shows_classifyQsfpPlus h true page
  | true =>
    unfold classifyQsfp28
    simp only [he, if_true]
    split
    · exact ⟨⟨_, by simp [legalRows], (h100 true connectorQsfp28Sr4).1⟩, (h100 _ _).2⟩
    split
    · exact ⟨⟨_, by simp [legalRows], (h100 true connectorQsfp28Lr4).1⟩, (h100 _ _).2⟩
    split
    · exact ⟨⟨_, by simp [legalRows], (h100 true connectorQsfp28Cwdm4).1⟩, (h100 _ _).2⟩
    split
    · exact ⟨⟨_, by simp [legalRows], (h100 true connectorQsfp28Psm4).1⟩, (h100 _ _).2⟩
    split
    · exact ⟨⟨_, by simp [legalRows], (h100 false connectorQsfp28Cr4).1⟩, (h100 _ _).2⟩
    split
    · exact ⟨⟨_, by simp [legalRows], (h100 true connectorQsfp28Clr4).1⟩, (h100 _ _).2⟩
    · exact ⟨⟨rowUnknown, by simp [legalRows], h0.1⟩, h0.2⟩

/-- The rest of the parser leaves the identifying columns alone. -/
lemma columns_fillQsfp {port : PmPort} (page : Page) {field : ModuleColumn}
    (h : field ∈ [ModuleColumn.connector, .connectorStatus, .maxSpeed, .supportedSpeeds]) :
    (fillQsfp page port).ovsModuleColumns field = port.ovsModuleColumns field := by
  unfold fillQsfp
  simp only [PmPort.ovsModuleColumns_setBinary, PmPort.ovsModuleColumns_setString,
    PmPort.ovsModuleColumns_deleteColumn]
  rcases List.mem_cons.mp h with rfl | h
  · rfl
  rcases List.mem_cons.mp h with rfl | h
  · rfl
  rcases List.mem_cons.mp h with rfl | h
  · rfl
  · obtain rfl := List.mem_singleton.mp h
    rfl

lemma shows_fillQsfp {port : PmPort} {row : Row} (page : Page) (h : Shows port row) :
    Shows (fillQsfp page port) row where
  connector := (columns_fillQsfp page (by simp)).trans h.connector
  status := (columns_fillQsfp page (by simp)).trans h.status
  maxSpeed := (columns_fillQsfp page (by simp)).trans h.maxSpeed
  supportedSpeeds := (columns_fillQsfp page (by simp)).trans h.supportedSpeeds
  optical := (congrArg PmPort.Record.optical (record_fillQsfp page port)).trans h.optical

lemma canonicalSpeed_fillQsfp {port : PmPort} (page : Page) (h : CanonicalSpeed port) :
    CanonicalSpeed (fillQsfp page port) := by
  intro s hs
  rw [columns_fillQsfp page (by simp)] at hs
  exact h s hs

lemma rowInv_pmParse {device : YamlPort} (hq : device.isQsfp = true) {port : PmPort}
    (h : RowInv device port) (page : Page) : RowInv device (pmParse page port).2.1 := by
  obtain ⟨rfl, hspeed, hrow⟩ := h
  cases hp : port.moduleDevice.pluggable with
  | false =>
    have hself : (pmParse page port).2.1 = port := by
      unfold pmParse
      rw [hp]
      rfl
    rw [hself]
    exact ⟨rfl, hspeed, hrow⟩
  | true =>
    have hparts : CanonicalSpeed (pmParse page port).2.1 ∧
        ∃ row ∈ legalRows (port.moduleDevice.hasConnector connectorQsfp28),
          Shows (pmParse page port).2.1 row := by
      rw [pmParse_of_isQsfp hq hp]
      dsimp only
      split
      · obtain ⟨⟨row, hmem, hshows⟩, hcanon⟩ := shows_classifyQsfpPlus hspeed
          (port.moduleDevice.hasConnector connectorQsfp28) (SfpSerialId.setEnet10gbaseSr page)
        exact ⟨canonicalSpeed_fillQsfp _ hcanon, row, hmem, shows_fillQsfp _ hshows⟩
      · rename_i hplus
        have h28 : port.moduleDevice.hasConnector connectorQsfp28 = true := by
          simpa [YamlPort.isQsfp, hplus] using hq
        obtain ⟨⟨row, hmem, hshows⟩, hcanon⟩ :=
          shows_classifyQsfp28 hspeed (SfpSerialId.setEnet10gbaseSr page)
        rw [h28, fillQsfp28_eq]
        exact ⟨canonicalSpeed_fillQsfp _ hcanon, row, hmem, shows_fillQsfp _ hshows⟩
    exact ⟨moduleDevice_pmParse page port, hparts.1, fun _ => hparts.2⟩

lemma ovsModuleColumns_pmDeleteAllData (port : PmPort) (field : ModuleColumn) :
    (pmDeleteAllData port).ovsModuleColumns field =
      if field = .connector then port.ovsModuleColumns .connector else none := by
  simp only [pmDeleteAllData, List.foldl_cons, List.foldl_nil,
    PmPort.ovsModuleColumns_deleteColumn]
  cases field <;> simp [Function.update]

lemma rowInv_pmDeleteAllData {device : YamlPort} {port : PmPort} (h : RowInv device port) :
    RowInv device (pmDeleteAllData port) where
  moduleDevice := (congrArg PmPort.Record.moduleDevice (record_pmDeleteAllData port)).trans
    h.moduleDevice
  speed := by
    intro s hs
    rw [ovsModuleColumns_pmDeleteAllData, if_neg (by decide)] at hs
    exact absurd hs (by simp)
  row := by
    intro hne
    rw [ovsModuleColumns_pmDeleteAllData, if_neg (by decide)] at hne
    exact absurd rfl hne

/-- A call that fills or empties the columns of a port. -/
inductive RowOp
  | parse (page : Page)
  | deleteAllData

def rowStep (port : PmPort) : RowOp → PmPort
  | .parse page => (pmParse page port).2.1
  | .deleteAllData => pmDeleteAllData port

lemma rowInv_rowStep {device : YamlPort} (hq : device.isQsfp = true) (port : PmPort) (op : RowOp)
    (h : RowInv device port) : RowInv device (rowStep port op) := by
  cases op with
  | parse page => exact rowInv_pmParse hq h page
  | deleteAllData => exact rowInv_pmDeleteAllData h

/-- The rows of modules that `pm_configure_qsfp` must not write to. -/
lemma optical_of_mem_legalRows {qsfp28 : Bool} {row : Row} (h : row ∈ legalRows qsfp28)
    (hc : row.connector = connectorQsfpCr4 ∨ row.connector = connectorQsfp28Cr4 ∨
      row.connector = connectorUnknown) : row.optical = false := by
  revert h hc
  revert row
  cases qsfp28 <;> decide

/-- Along any sequence of parses and deletions of a QSFP port, a port that has a connector
status shows a legal row, and no write goes to a copper or an unrecognized module. -/
theorem legalRow_of_run {port : PmPort} (hq : port.moduleDevice.isQsfp = true)
    (hzero : port.ovsModuleColumns = fun _ => none) (ops : List RowOp) (pf : Platform)
    (hs : (run rowStep port ops).ovsModuleColumns .connectorStatus ≠ none) :
    (∃ row ∈ legalRows (port.moduleDevice.hasConnector connectorQsfp28),
      Shows (run rowStep port ops) row) ∧
    ((run rowStep port ops).ovsModuleColumns .connector ∈
        [some connectorQsfpCr4, some connectorQsfp28Cr4, some connectorUnknown] →
      (pmConfigureQsfp pf (run rowStep port ops)).2 = []) := by
  have h0 : RowInv port.moduleDevice port :=
    ⟨rfl, fun s h => by simp [hzero] at h, fun h => by simp [hzero] at h⟩
  have hrun : RowInv port.moduleDevice (run rowStep port ops) :=
    run_invariant (fun s op h => rowInv_rowStep hq s op h) h0 ops
  obtain ⟨row, hmem, hrow⟩ := hrun.row hs
  refine ⟨⟨row, hmem, hrow⟩, fun hc => ?_⟩
  have hopt : (run rowStep port ops).optical = false := by
    rw [hrow.optical]
    apply optical_of_mem_legalRows hmem
    rw [hrow.connector] at hc
    simpa using hc
  unfold pmConfigureQsfp
  split
  · rfl
  split
  · rfl
  · rw [hopt]
    rfl

/-- A long-range module, then one that no bit identifies. -/
theorem legalRow_of_run_unknown :
    (∃ row ∈ legalRows (Switch.port1.moduleDevice.hasConnector connectorQsfp28),
      Shows (run rowStep Switch.port1 [.parse Switch.lr4Page, .parse Page.zero]) row) ∧
    ((run rowStep Switch.port1 [.parse Switch.lr4Page, .parse Page.zero]).ovsModuleColumns
        .connector ∈ [some connectorQsfpCr4, some connectorQsfp28Cr4, some connectorUnknown] →
      (pmConfigureQsfp Switch.platform
        (run rowStep Switch.port1 [.parse Switch.lr4Page, .parse Page.zero])).2 = []) :=
  legalRow_of_run (by decide) rfl _ _ (by decide)

end OpsPmd
