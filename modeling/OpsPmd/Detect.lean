import OpsPmd.Port

/-!
# Detection of modules from their serial-ID page

The functions of `pm_detect.c`: the encoding of raw pages, the parser that fills the
columns of a port from the serial-ID page, and the verification of its checksums.
Allocations are taken to succeed.
-/

namespace OpsPmd

open Lib OvsrecInterfacePmInfo

def sfpBitRateNominal10G : UInt8 := 0x64

def space : UInt8 := 0x20

def pmConnectorCopperPigtail : UInt8 := 0x21

def asciiMap : List Char :=
  ['0', '1', '2', '3', '4', '5', '6', '7', '8', '9', 'A', 'B', 'C', 'D', 'E', 'F']

/-- The size that `hex_to_ascii` allocates for a buffer of `n` bytes. -/
def hexSize (n : Nat) : Nat := 2 * n + n / 4 + 1

/-- One turn of the loop over byte `i`, with the output buffer and the write index `j`. The
byte is a signed `char`, so it is sign-extended before it is masked. -/
def hexStep (st : List Char × Nat) (byte : UInt8 × Nat) : List Char × Nat :=
  let (b, i) := byte
  let (ascii, j) := if 0 < i ∧ i % 4 = 0 then (st.1.set st.2 ' ', st.2 + 1) else st
  let wide : BitVec 32 := b.toBitVec.signExtend 32
  let ascii := ascii.set j (asciiMap.getD ((wide &&& 0xf0) >>> 4).toNat '\x00')
  let ascii := ascii.set (j + 1) (asciiMap.getD (wide &&& 0xf).toNat '\x00')
  (ascii, j + 2)

/-- The output buffer and the write index after the loop. -/
def hexLoop (buf : List UInt8) : List Char × Nat :=
  buf.zipIdx.foldl hexStep (List.replicate (hexSize buf.length) '\x00', 0)

def hexToAscii (buf : List UInt8) : Text :=
  let (ascii, j) := hexLoop buf
  (ascii.set j '\x00').takeWhile (· ≠ '\x00')

namespace PmPort

/-- `SET_BINARY` -/
def setBinary (port : PmPort) (field : ModuleColumn) (value : List UInt8) : PmPort :=
  port.setColumn field (some (hexToAscii value))

end PmPort

/-- The string that the loop of `set_supported_speeds` builds. -/
def joinSpeeds (speeds : List Int) : Option Text :=
  speeds.zipIdx.foldl (fun acc (speed, idx) =>
    some (acc.getD [] ++ (if idx = 0 then [] else " ".toList) ++ decimal speed)) none

def setSupportedSpeeds (port : PmPort) (speeds : List Int) : PmPort :=
  port.setColumn .supportedSpeeds (joinSpeeds speeds)

/-- `%02x` of a byte -/
def hex02 (b : UInt8) : Text := [Nat.digitChar (b.toNat / 16), Nat.digitChar (b.toNat % 16)]

/-- `pm_oui_format` -/
def pmOuiFormat (oui : List UInt8) : Text :=
  hex02 (oui.getD 0 0) ++ "-".toList ++ hex02 (oui.getD 1 0) ++ "-".toList ++ hex02 (oui.getD 2 0)

/-- The loop that overwrites trailing spaces, which stops at index 0. -/
def stripSpaces (buf : List UInt8) : Nat → List UInt8
  | 0 => buf
  | idx + 1 => if buf[idx + 1]? = some space then stripSpaces (buf.set (idx + 1) 0) idx else buf

/-- A vendor field of the page: copied, terminated, and stripped of trailing spaces. -/
def vendorText (field : List UInt8) : Text :=
  cstring (stripSpaces (field ++ [0]) (field.length - 1))

/-- `memcpy` from a string literal. What lies behind the literal is not part of it, but its
terminator ends the string that is made of the copy. -/
def literalField (s : String) (len : Nat) : List UInt8 :=
  (s.toList.map (fun c : Char => c.toNat.toUInt8) ++ List.replicate len 0).take len

namespace PmPort

/-- The assignments that every branch of the classification makes, with its own values. -/
def classify (port : PmPort) (optical : Bool) (connector status : Text) (speed : Int) : PmPort :=
  let port := { port with optical := optical }
  let port := port.setStaticString .connector connector
  let port := port.setStaticString .connectorStatus status
  let port := port.setIntString .maxSpeed speed
  setSupportedSpeeds port [speed]

/-- What all branches but the copper cable do with the cable columns. -/
def deleteCable (port : PmPort) : PmPort :=
  (port.deleteColumn .cableTechnology).deleteColumn .cableLength

end PmPort

/-- `pm_delete_all_data` of `plug.c`, which the parser calls for unknown connectors. It
leaves the connector column and the diagnostics columns alone. -/
def pmDeleteAllData (port : PmPort) : PmPort :=
  [ModuleColumn.connectorStatus, .supportedSpeeds, .cableTechnology, .cableLength, .maxSpeed,
    .powerMode, .vendorName, .vendorOui, .vendorPartNumber, .vendorRevision,
    .vendorSerialNumber, .a0, .a2, .a0Uppers].foldl PmPort.deleteColumn port

/-! ## The parser -/

/-- The classification of an SFP+ module. The conditions are those of the source, which
forces all but one of them. -/
def classifySfpPlus (page : Page) (port : PmPort) : PmPort :=
  let supported (optical : Bool) (connector : Text) (speed : Int) : PmPort :=
    (port.classify optical connector connectorStatusSupported speed).deleteCable
  if (SfpSerialId.connector page = pmConnectorCopperPigtail && false) then
    let speed := if SfpSerialId.bitRateNominal page ≥ sfpBitRateNominal10G then 10000 else 1000
    let cableTech :=
      if SfpSerialId.cableTechnologyActive page then cableTechnologyActive
      else cableTechnologyPassive
    let port := port.classify false connectorSfpDac connectorStatusSupported speed
    let port := port.setStaticString .cableTechnology cableTech
    port.setIntString .cableLength (SfpSerialId.lengthCopper page).toNat
  else if (SfpSerialId.enet1000baseSx page && false) then supported true connectorSfpSx 1000
  else if (SfpSerialId.enet1000baseLx page && false) then supported true connectorSfpLx 1000
  else if (SfpSerialId.enet1000baseCx page && false) then supported false connectorSfpCx 1000
  else if (SfpSerialId.enet1000baseT page && false) then supported false connectorSfpRj45 1000
  else if (SfpSerialId.enet10gbaseSr page || true) then supported true connectorSfpSr 10000
  else if SfpSerialId.enet10gbaseLr page then supported true connectorSfpLr 10000
  else if SfpSerialId.enet10gbaseLrm page then supported true connectorSfpLrm 10000
  else (port.classify false connectorUnknown connectorStatusUnrecognized 0).deleteCable

/-- The rest of the SFP+ case. The vendor strings are literals of the source. -/
def fillSfpPlus (page : Page) (port : PmPort) : PmPort :=
  let port := port.deleteColumn .powerMode
  let port := port.setString .vendorName (vendorText (literalField "vendor_name" 16))
  let port := port.setString .vendorPartNumber (vendorText (literalField "vendor_part_number" 16))
  let port := port.setString .vendorRevision (vendorText (literalField "rev" 4))
  let port := port.setString .vendorSerialNumber (vendorText (literalField "serial_number" 16))
  port.setBinary .a0 page.toList

def classifyQsfpPlus (page : Page) (port : PmPort) : PmPort :=
  let supported (optical : Bool) (connector : Text) : PmPort :=
    (port.classify optical connector connectorStatusSupported 40000).deleteCable
  if QsfpSerialId.enet40gbaseLr4 page then supported true connectorQsfpLr4
  else if QsfpSerialId.enet40gbaseSr4 page then supported true connectorQsfpSr4
  else if QsfpSerialId.enet40gbaseCr4 page then supported false connectorQsfpCr4
  else (port.classify false connectorUnknown connectorStatusUnrecognized 0).deleteCable

/-- The QSFP28 case has a copy of the 40G classification of its own. -/
def classifyQsfp28 (page : Page) (port : PmPort) : PmPort :=
  let supported (optical : Bool) (connector : Text) (speed : Int) : PmPort :=
    (port.classify optical connector connectorStatusSupported speed).deleteCable
  if QsfpSerialId.enetExtended page then
    let code := QsfpSerialId.extComplianceCode page
    if code = 0x02 then supported true connectorQsfp28Sr4 100000
    else if code = 0x03 then supported true connectorQsfp28Lr4 100000
    else if code = 0x06 then supported true connectorQsfp28Cwdm4 100000
    else if code = 0x07 then supported true connectorQsfp28Psm4 100000
    else if code = 0x0B then supported false connectorQsfp28Cr4 100000
    else if code = 0x17 then supported true connectorQsfp28Clr4 100000
    else (port.classify false connectorUnknown connectorStatusUnrecognized 0).deleteCable
  else if QsfpSerialId.enet40gbaseLr4 page then supported true connectorQsfpLr4 40000
  else if QsfpSerialId.enet40gbaseSr4 page then supported true connectorQsfpSr4 40000
  else if QsfpSerialId.enet40gbaseCr4 page then supported false connectorQsfpCr4 40000
  else (port.classify false connectorUnknown connectorStatusUnrecognized 0).deleteCable

/-- The rest of the QSFP+ case. -/
def fillQsfp (page : Page) (port : PmPort) : PmPort :=
  let port := port.deleteColumn .powerMode
  let port := port.setString .vendorName (vendorText (QsfpSerialId.vendorName page))
  let port := port.setString .vendorOui (pmOuiFormat (QsfpSerialId.vendorOui page))
  let port := port.setString .vendorPartNumber (vendorText (QsfpSerialId.vendorPartNumber page))
  let port := port.setString .vendorRevision (vendorText (QsfpSerialId.vendorRevision page))
  let port := port.setString .vendorSerialNumber (vendorText (QsfpSerialId.vendorSerialNumber page))
  port.setBinary .a0 page.toList

/-- The rest of the QSFP28 case, a second copy. -/
def fillQsfp28 (page : Page) (port : PmPort) : PmPort :=
  let port := port.deleteColumn .powerMode
  let port := port.setString .vendorName (vendorText (QsfpSerialId.vendorName page))
  let port := port.setString .vendorOui (pmOuiFormat (QsfpSerialId.vendorOui page))
  let port := port.setString .vendorPartNumber (vendorText (QsfpSerialId.vendorPartNumber page))
  let port := port.setString .vendorRevision (vendorText (QsfpSerialId.vendorRevision page))
  let port := port.setString .vendorSerialNumber (vendorText (QsfpSerialId.vendorSerialNumber page))
  port.setBinary .a0 page.toList

/-- `pm_parse`: the result code, the port, and the page, which the parser edits in place. -/
def pmParse (page : Page) (port : PmPort) : Int × PmPort × Page :=
  if !port.moduleDevice.pluggable then (0, port, page)
  else if port.moduleDevice.connector = none then (-1, port, page)
  else if !port.moduleDevice.isKnown then
    (-1, (pmDeleteAllData port).setStaticString .connector connectorUnknown, page)
  else
    let page := SfpSerialId.setEnet10gbaseSr page
    if port.moduleDevice.hasConnector connectorSfpPlus then
      (0, fillSfpPlus page (classifySfpPlus page port), page)
    else if port.moduleDevice.hasConnector connectorQsfpPlus then
      (0, fillQsfp page (classifyQsfpPlus page port), page)
    else (0, fillQsfp28 page (classifyQsfp28 page port), page)

/-- Without the bit for extended codes, the QSFP28 copy of the 40G classification decides as
the other one does. -/
lemma classifyQsfp28_of_not_extended {page : Page} (h : QsfpSerialId.enetExtended page = false)
    (port : PmPort) : classifyQsfp28 page port = classifyQsfpPlus page port := by
  unfold classifyQsfp28 classifyQsfpPlus
  simp only [h, Bool.false_eq_true, if_false]

lemma fillQsfp28_eq (page : Page) (port : PmPort) : fillQsfp28 page port = fillQsfp page port := rfl

/-- `pm_byte_sum`: 0 if the byte at `offset` is the sum of bytes `first` to `last`. -/
def pmByteSum (block : Page) (first last : Nat) (offset : Fin 128) : Int :=
  let value : UInt8 := (block.bytes first (last + 1 - first)).foldl (· + ·) 0
  if value ≠ block.get offset then 1 else 0

def sfppSumVerify (page : Page) : Int := pmByteSum page 0 62 63 + pmByteSum page 64 94 95

end OpsPmd
