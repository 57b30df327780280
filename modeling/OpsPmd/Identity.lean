import OpsPmd.LegalRow

/-!
# The identity of QSFP modules

Parsing a page on a QSFP port sets or deletes every column that identifies the module, and
what it sets depends on the page alone. The QSFP28 case of the parser holds a second copy
of the QSFP+ case, which it falls back to for a page without an extended code.
-/

namespace OpsPmd

open Lib OvsrecInterfacePmInfo

/-- The columns that are read off the serial-ID page. -/
def identityColumns : List ModuleColumn :=
  [.connector, .connectorStatus, .maxSpeed, .supportedSpeeds, .cableLength, .cableTechnology,
    .powerMode, .vendorName, .vendorOui, .vendorPartNumber, .vendorRevision,
    .vendorSerialNumber, .a0]

/-- The two records describe the same module. -/
structure SameIdentity (port port' : PmPort) : Prop where
  optical : port.optical = port'.optical
  columns : ∀ field ∈ identityColumns, port.ovsModuleColumns field = port'.ovsModuleColumns field

section LastPage

variable {port port' : PmPort}

lemma columns_fillQsfp_classify (h : CanonicalSpeed port) (page : Page) (optical : Bool)
    (connector status : Text) (speed : Int) :
    (fillQsfp page (port.classify optical connector status speed).deleteCable).ovsModuleColumns =
      fun field => match field with
        | .connector => some connector
        | .connectorStatus => some status
        | .maxSpeed => some (decimal speed)
        | .supportedSpeeds => some (decimal speed)
        | .cableTechnology => none
        | .cableLength => none
        | .powerMode => none
        | .vendorName => some (vendorText (QsfpSerialId.vendorName page))
        | .vendorOui => some (pmOuiFormat (QsfpSerialId.vendorOui page))
        | .vendorPartNumber => some (vendorText (QsfpSerialId.vendorPartNumber page))
        | .vendorRevision => some (vendorText (QsfpSerialId.vendorRevision page))
        | .vendorSerialNumber => some (vendorText (QsfpSerialId.vendorSerialNumber page))
        | .a0 => some (hexToAscii page.toList)
        | .a0Uppers => port.ovsModuleColumns .a0Uppers
        | .a2 => port.ovsModuleColumns .a2 := by
  funext field
  unfold fillQsfp
  simp only [PmPort.ovsModuleColumns_setBinary, PmPort.ovsModuleColumns_setString,
    PmPort.ovsModuleColumns_deleteColumn, columns_classify h]
  cases field <;> simp [Function.update]

lemma sameIdentity_fillQsfp_classify (h : CanonicalSpeed port) (h' : CanonicalSpeed port')
    (page : Page) (optical : Bool) (connector status : Text) (speed : Int) :
    SameIdentity
      (fillQsfp page (port.classify optical connector status speed).deleteCable)
      (fillQsfp page (port'.classify optical connector status speed).deleteCable) where
  optical := by
    have hfill : ∀ p : PmPort, (fillQsfp page p).optical = p.optical :=
      fun p => congrArg PmPort.Record.optical (record_fillQsfp page p)
    rw [hfill, hfill, optical_classify, optical_classify]
  columns := by
    intro field hfield
    rw [columns_fillQsfp_classify h, columns_fillQsfp_classify h']
    -- the two columns that a parse leaves alone are not of the identity
    cases field with
    | a0Uppers => exact absurd hfield (by decide)
    | a2 => exact absurd hfield (by decide)
    | _ => rfl

/-- Parsing a page gives the same identity, whatever the columns held before. -/
lemma sameIdentity_pmParse {device : YamlPort} (hq : device.isQsfp = true)
    (hp : device.pluggable = true) (h : RowInv device port) (h' : RowInv device port')
    (page : Page) :
    SameIdentity (pmParse page port).2.1 (pmParse page port').2.1 := by
  have hdev := h.moduleDevice
  have hdev' := h'.moduleDevice
  rw [pmParse_of_isQsfp (hdev ▸ hq) (hdev ▸ hp), pmParse_of_isQsfp (hdev' ▸ hq) (hdev' ▸ hp),
    hdev, hdev']
  dsimp only
  split
  · obtain ⟨optical, connector, status, speed, -, hc⟩ :=
      exists_classifyQsfpPlus (SfpSerialId.setEnet10gbaseSr page)
    rw [hc, hc]
    exact sameIdentity_fillQsfp_classify h.speed h'.speed _ optical connector status speed
  · obtain ⟨optical, connector, status, speed, -, hc⟩ :=
      exists_classifyQsfp28 (SfpSerialId.setEnet10gbaseSr page)
    rw [hc, hc, fillQsfp28_eq, fillQsfp28_eq]
    exact sameIdentity_fillQsfp_classify h.speed h'.speed _ optical connector status speed

lemma rowStep_of_not_pluggable (hp : port.moduleDevice.pluggable = false)
    (hzero : port.ovsModuleColumns = fun _ => none) (op : RowOp) : rowStep port op = port := by
  cases op with
  | parse page =>
    unfold rowStep pmParse
    rw [hp]
    rfl
  | deleteAllData =>
    have hdelete : ∀ field, port.deleteColumn field = port := by
      intro field
      unfold PmPort.deleteColumn
      rw [hzero]
      rfl
    simp [rowStep, pmDeleteAllData, hdelete]

/-- After every sequence of parses and deletions that ends with a parse, a QSFP port that
started empty has the identity that its last page alone gives it. -/
theorem sameIdentity_of_run (hq : port.moduleDevice.isQsfp = true)
    (hzero : port.ovsModuleColumns = fun _ => none) (ops : List RowOp) (page : Page) :
    SameIdentity (run rowStep port (ops ++ [.parse page])) (run rowStep port [.parse page]) := by
  have hrun : run rowStep port (ops ++ [.parse page]) =
      rowStep (run rowStep port ops) (.parse page) := by
    simp [run]
  rw [hrun, run_cons, run_nil]
  cases hp : port.moduleDevice.pluggable with
  | false =>
    have hsame : run rowStep port ops = port := by
      refine run_invariant (I := fun p => p = port) ?_ rfl ops
      rintro p op rfl
      exact rowStep_of_not_pluggable hp hzero op
    rw [hsame]
    exact ⟨rfl, fun _ _ => rfl⟩
  | true =>
    have h0 : RowInv port.moduleDevice port :=
      ⟨rfl, fun s h => by simp [hzero] at h, fun h => by simp [hzero] at h⟩
    have hinv : RowInv port.moduleDevice (run rowStep port ops) :=
      run_invariant (fun s op h => rowInv_rowStep hq s op h) h0 ops
    exact sameIdentity_pmParse hq hp hinv h0 page

/-- A module that no bit identifies, behind a long-range one. -/
theorem sameIdentity_of_run_unknown :
    SameIdentity (run rowStep Switch.port1 ([.parse Switch.lr4Page] ++ [.parse Page.zero]))
      (run rowStep Switch.port1 [.parse Page.zero]) :=
  sameIdentity_of_run (by decide) rfl _ _

end LastPage

namespace PmPort

/-- The same port, had the hardware description another connector for it. -/
def withConnector (connector : String) (port : PmPort) : PmPort :=
  { port with moduleDevice := { port.moduleDevice with connector := some connector } }

section WithConnector

variable (c : String) (port : PmPort) (field : ModuleColumn)

lemma withConnector_setString (value : Text) :
    (port.withConnector c).setString field value =
      (port.setString field value).withConnector c := by
  unfold setString withConnector
  split <;> rfl

lemma withConnector_setIntString (value : Int) :
    (port.withConnector c).setIntString field value =
      (port.setIntString field value).withConnector c := by
  unfold setIntString withConnector
  split <;> rfl

lemma withConnector_deleteColumn :
    (port.withConnector c).deleteColumn field = (port.deleteColumn field).withConnector c := by
  unfold deleteColumn withConnector
  split <;> rfl

lemma withConnector_classify (optical : Bool) (connector status : Text) (speed : Int) :
    ((port.withConnector c).classify optical connector status speed).deleteCable =
      ((port.classify optical connector status speed).deleteCable).withConnector c := by
  have hblind : ((({ port with optical := optical } : PmPort).setStaticString .connector
      connector).setStaticString .connectorStatus status).withConnector c =
      (({ port.withConnector c with optical := optical } : PmPort).setStaticString .connector
        connector).setStaticString .connectorStatus status := rfl
  have hspeeds : ∀ p : PmPort, setSupportedSpeeds (p.withConnector c) [speed] =
      (setSupportedSpeeds p [speed]).withConnector c := fun _ => rfl
  unfold classify deleteCable
  dsimp only
  rw [← hblind, withConnector_setIntString, hspeeds, withConnector_deleteColumn,
    withConnector_deleteColumn]

lemma withConnector_fillQsfp (page : Page) :
    fillQsfp page (port.withConnector c) = (fillQsfp page port).withConnector c := by
  have hbinary : ∀ p : PmPort, (p.withConnector c).setBinary .a0 page.toList =
      (p.setBinary .a0 page.toList).withConnector c := fun _ => rfl
  unfold fillQsfp
  dsimp only
  rw [withConnector_deleteColumn, withConnector_setString, withConnector_setString,
    withConnector_setString, withConnector_setString, withConnector_setString, hbinary]

end WithConnector

end PmPort

/-- The bit that the parser forces is not the one for extended codes. -/
lemma enetExtended_setEnet10gbaseSr (page : Page) :
    QsfpSerialId.enetExtended (SfpSerialId.setEnet10gbaseSr page) =
      QsfpSerialId.enetExtended page := by
  have hbit : (0x10 : UInt8).toNat.testBit 7 = false := by decide
  unfold QsfpSerialId.enetExtended Page.bit
  rw [SfpSerialId.get_setEnet10gbaseSr, UInt8.toNat_or, Nat.testBit_or, hbit, Bool.or_false]

/-- For a page without the bit for extended codes, a QSFP28 port gets the result, the record
and the page that a QSFP+ port gets, whatever the record was. -/
theorem pmParse_qsfp28_fallback {page : Page} (h : QsfpSerialId.enetExtended page = false)
    (port : PmPort) :
    pmParse page (port.withConnector connectorQsfp28) =
      ((pmParse page (port.withConnector connectorQsfpPlus)).1,
        (pmParse page (port.withConnector connectorQsfpPlus)).2.1.withConnector connectorQsfp28,
        (pmParse page (port.withConnector connectorQsfpPlus)).2.2) := by
  cases hp : port.moduleDevice.pluggable with
  | false =>
    unfold pmParse
    simp [PmPort.withConnector, hp]
  | true =>
    have hq : ∀ c, c = connectorQsfpPlus ∨ c = connectorQsfp28 →
        (port.withConnector c).moduleDevice.isQsfp = true := by
      intro c hc
      simpa [PmPort.withConnector, YamlPort.isQsfp, YamlPort.hasConnector] using hc
    have hplus : ∀ c, (port.withConnector c).moduleDevice.hasConnector connectorQsfpPlus =
        decide (c = connectorQsfpPlus) := by
      intro c
      simp [PmPort.withConnector, YamlPort.hasConnector]
    have hbit := (enetExtended_setEnet10gbaseSr page).trans h
    obtain ⟨optical, connector, status, speed, -, hc⟩ :=
      exists_classifyQsfpPlus (SfpSerialId.setEnet10gbaseSr page)
    rw [pmParse_of_isQsfp (hq _ (.inr rfl)) hp, pmParse_of_isQsfp (hq _ (.inl rfl)) hp, hplus,
      hplus, if_neg (by decide), if_pos (by decide), classifyQsfp28_of_not_extended hbit,
      fillQsfp28_eq, hc, hc, PmPort.withConnector_classify, PmPort.withConnector_classify,
      PmPort.withConnector_fillQsfp, PmPort.withConnector_fillQsfp]
    rfl

/-- A long-range 40G module in a QSFP28 port. -/
theorem pmParse_qsfp28_fallback_lr4 :
    pmParse Switch.lr4Page (Switch.port1.withConnector connectorQsfp28) =
      ((pmParse Switch.lr4Page (Switch.port1.withConnector connectorQsfpPlus)).1,
        (pmParse Switch.lr4Page (Switch.port1.withConnector connectorQsfpPlus)).2.1.withConnector
          connectorQsfp28,
        (pmParse Switch.lr4Page (Switch.port1.withConnector connectorQsfpPlus)).2.2) :=
  pmParse_qsfp28_fallback (by decide) _

end OpsPmd
