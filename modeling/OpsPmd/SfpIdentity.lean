import OpsPmd.LegalRow
import Mathlib.Data.List.DropRight

/-!
# What an SFP+ module says it is

The identity that a serial-ID page of an SFP+ module stands for, and the pages for which
`pm_parse`, whose conditions and vendor strings are fixed in the source, reports it.
-/

namespace OpsPmd

open Lib OvsrecInterfacePmInfo

structure SfpVerdict where
  connector : Text
  speed : Int
  optical : Bool

/-- The compliance bits in their order of priority. -/
def sfpCodes (page : Page) : List (Bool × SfpVerdict) :=
  [(SfpSerialId.enet1000baseSx page, ⟨connectorSfpSx, 1000, true⟩),
    (SfpSerialId.enet1000baseLx page, ⟨connectorSfpLx, 1000, true⟩),
    (SfpSerialId.enet1000baseCx page, ⟨connectorSfpCx, 1000, false⟩),
    (SfpSerialId.enet1000baseT page, ⟨connectorSfpRj45, 1000, false⟩),
    (SfpSerialId.enet10gbaseSr page, ⟨connectorSfpSr, 10000, true⟩),
    (SfpSerialId.enet10gbaseLr page, ⟨connectorSfpLr, 10000, true⟩),
    (SfpSerialId.enet10gbaseLrm page, ⟨connectorSfpLrm, 10000, true⟩)]

/-- A copper pigtail, or else the first compliance bit that is set. -/
def sfpVerdict (page : Page) : SfpVerdict :=
  if SfpSerialId.connector page = pmConnectorCopperPigtail then
    ⟨connectorSfpDac,
      if SfpSerialId.bitRateNominal page ≥ sfpBitRateNominal10G then 10000 else 1000, false⟩
  else (((sfpCodes page).find? Prod.fst).map Prod.snd).getD ⟨connectorUnknown, 0, false⟩

/-- A text field without its trailing spaces. -/
def fieldText (field : List UInt8) : Text := (cstring field).rdropWhile (· = ' ')

/-- The vendor columns and the texts of their fields. -/
def sfpVendor (page : Page) : List (ModuleColumn × Text) :=
  [(.vendorName, fieldText (page.bytes 20 16)), (.vendorPartNumber, fieldText (page.bytes 40 16)),
    (.vendorRevision, fieldText (page.bytes 56 4)),
    (.vendorSerialNumber, fieldText (page.bytes 68 16))]

/-- The port shows the identity of the page. -/
structure IdentifiesSfp (page : Page) (port : PmPort) : Prop where
  connector : port.ovsModuleColumns .connector = some (sfpVerdict page).connector
  maxSpeed : port.ovsModuleColumns .maxSpeed = some (decimal (sfpVerdict page).speed)
  supportedSpeeds : port.ovsModuleColumns .supportedSpeeds = port.ovsModuleColumns .maxSpeed
  optical : port.optical = (sfpVerdict page).optical
  cable : SfpSerialId.connector page = pmConnectorCopperPigtail →
    port.ovsModuleColumns .cableLength = some (decimal (SfpSerialId.lengthCopper page).toNat) ∧
    (port.ovsModuleColumns .cableTechnology = some cableTechnologyActive ↔
      SfpSerialId.cableTechnologyActive page = true)
  vendor : ∀ entry ∈ sfpVendor page, port.ovsModuleColumns entry.1 = some entry.2

/-- The vendor columns that the literals of the source give. -/
def sfpLiterals : List (ModuleColumn × Text) :=
  [(.vendorName, "vendor_name".toList), (.vendorPartNumber, "vendor_part_numb".toList),
    (.vendorRevision, "rev".toList), (.vendorSerialNumber, "serial_number".toList)]

lemma pmParse_of_sfpPlus {port : PmPort}
    (hs : port.moduleDevice.hasConnector connectorSfpPlus = true)
    (hp : port.moduleDevice.pluggable = true) (page : Page) :
    pmParse page port =
      (0, fillSfpPlus (SfpSerialId.setEnet10gbaseSr page)
          (classifySfpPlus (SfpSerialId.setEnet10gbaseSr page) port),
        SfpSerialId.setEnet10gbaseSr page) := by
  have hknown : port.moduleDevice.isKnown = true := by simp [YamlPort.isKnown, hs]
  have hconn := connector_ne_none_of_isKnown hknown
  unfold pmParse
  simp only [hp, hconn, hknown, hs, Bool.not_true, Bool.false_eq_true, if_false, if_true]

lemma columns_fillSfpPlus (page : Page) (port : PmPort) :
    (fillSfpPlus page port).ovsModuleColumns = fun field => match field with
      | .powerMode => none
      | .vendorName => some "vendor_name".toList
      | .vendorPartNumber => some "vendor_part_numb".toList
      | .vendorRevision => some "rev".toList
      | .vendorSerialNumber => some "serial_number".toList
      | .a0 => some (hexToAscii page.toList)
      | field => port.ovsModuleColumns field := by
  have hname : vendorText (literalField "vendor_name" 16) = "vendor_name".toList := by decide
  have hpart : vendorText (literalField "vendor_part_number" 16) = "vendor_part_numb".toList := by
    decide
  have hrev : vendorText (literalField "rev" 4) = "rev".toList := by decide
  have hserial : vendorText (literalField "serial_number" 16) = "serial_number".toList := by decide
  funext field
  unfold fillSfpPlus
  rw [hname, hpart, hrev, hserial]
  cases field <;> simp [Function.update]

/-- Whatever the page, the parser reports a short-range module of a fixed vendor. -/
lemma columns_pmParse_sfpPlus {port : PmPort}
    (hs : port.moduleDevice.hasConnector connectorSfpPlus = true)
    (hp : port.moduleDevice.pluggable = true) (hspeed : CanonicalSpeed port) (page : Page) :
    let after := (pmParse page port).2.1
    after.ovsModuleColumns .connector = some connectorSfpSr ∧
    after.ovsModuleColumns .maxSpeed = some (decimal 10000) ∧
    after.ovsModuleColumns .supportedSpeeds = some (decimal 10000) ∧ after.optical = true ∧
    ∀ entry ∈ sfpLiterals, after.ovsModuleColumns entry.1 = some entry.2 := by
  have hclassify := columns_classify hspeed true connectorSfpSr connectorStatusSupported 10000
  have hoptical := optical_classify port true connectorSfpSr connectorStatusSupported 10000
  dsimp only
  rw [pmParse_of_sfpPlus hs hp, classifySfpPlus_eq, columns_fillSfpPlus, hclassify]
  refine ⟨rfl, rfl, rfl, ?_, ?_⟩
  · have hr := record_fillSfpPlus (SfpSerialId.setEnet10gbaseSr page)
      (port.classify true connectorSfpSr connectorStatusSupported 10000).deleteCable
    exact (congrArg PmPort.Record.optical hr).trans hoptical
  · simp [sfpLiterals]

/-- The page is that of a short-range module. -/
def IsShortRange (page : Page) : Prop :=
  SfpSerialId.connector page ≠ pmConnectorCopperPigtail ∧
  SfpSerialId.enet1000baseSx page = false ∧ SfpSerialId.enet1000baseLx page = false ∧
  SfpSerialId.enet1000baseCx page = false ∧ SfpSerialId.enet1000baseT page = false ∧
  SfpSerialId.enet10gbaseSr page = true

lemma sfpVerdict_of_isShortRange {page : Page} (h : IsShortRange page) :
    sfpVerdict page = ⟨connectorSfpSr, 10000, true⟩ := by
  obtain ⟨hdac, hsx, hlx, hcx, ht, hsr⟩ := h
  unfold sfpVerdict sfpCodes
  rw [if_neg hdac, hsx, hlx, hcx, ht, hsr]
  rfl

lemma isShortRange_of_connector {page : Page}
    (h : (sfpVerdict page).connector = connectorSfpSr) : IsShortRange page := by
  have hne : ∀ other ∈ [connectorSfpDac, connectorSfpSx, connectorSfpLx, connectorSfpCx,
      connectorSfpRj45, connectorSfpLr, connectorSfpLrm, connectorUnknown],
      other ≠ connectorSfpSr := by decide
  have hdac : SfpSerialId.connector page ≠ pmConnectorCopperPigtail := by
    intro hdac
    unfold sfpVerdict at h
    rw [if_pos hdac] at h
    exact hne _ (by simp) h
  unfold sfpVerdict sfpCodes at h
  rw [if_neg hdac] at h
  unfold IsShortRange
  cases hsx : SfpSerialId.enet1000baseSx page with
  | true =>
    rw [hsx] at h
    exact absurd h (hne connectorSfpSx (by simp))
  | false =>
  cases hlx : SfpSerialId.enet1000baseLx page with
  | true =>
    rw [hsx, hlx] at h
    exact absurd h (hne connectorSfpLx (by simp))
  | false =>
  cases hcx : SfpSerialId.enet1000baseCx page with
  | true =>
    rw [hsx, hlx, hcx] at h
    exact absurd h (hne connectorSfpCx (by simp))
  | false =>
  cases ht : SfpSerialId.enet1000baseT page with
  | true =>
    rw [hsx, hlx, hcx, ht] at h
    exact absurd h (hne connectorSfpRj45 (by simp))
  | false =>
  cases hsr : SfpSerialId.enet10gbaseSr page with
  | true => exact ⟨hdac, rfl, rfl, rfl, rfl, rfl⟩
  | false =>
  cases hlr : SfpSerialId.enet10gbaseLr page with
  | true =>
    rw [hsx, hlx, hcx, ht, hsr, hlr] at h
    exact absurd h (hne connectorSfpLr (by simp))
  | false =>
  cases hlrm : SfpSerialId.enet10gbaseLrm page with
  | true =>
    rw [hsx, hlx, hcx, ht, hsr, hlr, hlrm] at h
    exact absurd h (hne connectorSfpLrm (by simp))
  | false =>
    rw [hsx, hlx, hcx, ht, hsr, hlr, hlrm] at h
    exact absurd h (hne connectorUnknown (by simp))

/-- The parser reports the identity in the page exactly if the page is that of a short-range
module whose vendor fields hold the literals of the source. -/
theorem identifiesSfp_iff {port : PmPort}
    (hs : port.moduleDevice.hasConnector connectorSfpPlus = true)
    (hp : port.moduleDevice.pluggable = true)
    (hnull : ∀ column, port.ovsModuleColumns column = none) (page : Page) :
    IdentifiesSfp page (pmParse page port).2.1 ↔
      IsShortRange page ∧ sfpVendor page = sfpLiterals := by
  have hspeed : CanonicalSpeed port := by
    intro s hs
    rw [hnull] at hs
    contradiction
  obtain ⟨hconnector, hmax, hspeeds, hoptical, hvendor⟩ :=
    columns_pmParse_sfpPlus hs hp hspeed page
  constructor
  · intro h
    refine ⟨isShortRange_of_connector ?_, ?_⟩
    · exact Option.some.inj (h.connector.symm.trans hconnector)
    · have htext : ∀ entry ∈ sfpVendor page, ∀ text, (entry.1, text) ∈ sfpLiterals →
          entry.2 = text := by
        intro entry hentry text hliteral
        exact Option.some.inj ((h.vendor entry hentry).symm.trans (hvendor _ hliteral))
      simp only [sfpVendor, List.forall_mem_cons] at htext
      obtain ⟨hname, hpart, hrev, hserial, -⟩ := htext
      unfold sfpVendor
      rw [hname "vendor_name".toList (by simp [sfpLiterals]),
        hpart "vendor_part_numb".toList (by simp [sfpLiterals]),
        hrev "rev".toList (by simp [sfpLiterals]),
        hserial "serial_number".toList (by simp [sfpLiterals])]
      rfl
  · rintro ⟨hrange, hfields⟩
    have hverdict := sfpVerdict_of_isShortRange hrange
    constructor
    · rw [hverdict, hconnector]
    · rw [hverdict, hmax]
    · rw [hspeeds, hmax]
    · rw [hverdict, hoptical]
    · intro hdac
      exact absurd hdac hrange.1
    · rw [hfields]
      exact hvendor

namespace Switch

/-- A copper cable, with both of its checksums right. -/
def dacPage : Page := (Page.zero.set 2 0x21).set 63 0x21

end Switch

theorem identifiesSfp_iff_dac :
    IdentifiesSfp Switch.dacPage (pmParse Switch.dacPage Switch.port2).2.1 ↔
      IsShortRange Switch.dacPage ∧ sfpVendor Switch.dacPage = sfpLiterals :=
  identifiesSfp_iff (by decide) rfl (fun _ => rfl) Switch.dacPage

/-- The cable is reported as a short-range module. -/
theorem not_identifiesSfp_dac : sfppSumVerify Switch.dacPage = 0 ∧
    ¬IdentifiesSfp Switch.dacPage (pmParse Switch.dacPage Switch.port2).2.1 := by
  refine ⟨by decide +kernel, fun h => ?_⟩
  have hconnector := h.connector
  revert hconnector
  decide

end OpsPmd
