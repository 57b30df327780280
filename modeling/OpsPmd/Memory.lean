import OpsPmd.OvsdbAccess
import OpsPmd.Lib.Heap

/-!
# The daemon and its memory

The functions of the daemon once more, over a memory: records, their strings and the uuids
of the subsystems are blocks of heaps, and the tables hold addresses. What a function does
to a record is the list of its macro calls, here with the difference between `DELETE` and
`DELETE_FREE`. Every use of a pointer to a record or to a string is checked, so a result means
that none was read or freed that was not there; the pointers into the hardware description and
to the simulated module are followed, and checked, in `Process`. The tables themselves are
values, since a string hash has its own copies of its keys.
-/

namespace OpsPmd

open Lib OvsrecInterfacePmInfo

/-- The pointers of a `pm_port_t` to strings. -/
inductive PortCell
  | inst
  | subsystem
  | column (field : ModuleColumn)
  | domColumn (field : DomColumn)
deriving DecidableEq

/-- The columns that only ever point to constants of the IDL. -/
def ModuleColumn.isStatic : ModuleColumn → Bool
  | .connector => true
  | .connectorStatus => true
  | .cableTechnology => true
  | .powerMode => true
  | _ => false

/-- A pointer whose string has been allocated for it. -/
def PortCell.Owner : PortCell → Prop
  | .column field => field.isStatic = false
  | _ => True

/-- The fields of a `pm_port_t` that are not strings. -/
structure PortFields where
  uuid : Uuid
  moduleDevice : YamlPort
  moduleInfoChanged : Bool
  hwEnable : Bool
  hwEnableSubport : Vector Bool 4
  present : Bool
  retry : Bool
  a2ReadRequested : Bool
  split : Bool
  optical : Bool
  moduleData : Option Page
  portEnable : UInt8

def PmPort.fields (port : PmPort) : PortFields :=
  ⟨port.uuid, port.moduleDevice, port.moduleInfoChanged, port.hwEnable, port.hwEnableSubport,
    port.present, port.retry, port.a2ReadRequested, port.split, port.optical, port.moduleData,
    port.portEnable⟩

/-- The record with these fields, as far as it is known without its columns. -/
def PortFields.toPort (fields : PortFields) (inst subsystem : String) : PmPort where
  inst := inst
  uuid := fields.uuid
  moduleDevice := fields.moduleDevice
  subsystem := subsystem
  moduleInfoChanged := fields.moduleInfoChanged
  hwEnable := fields.hwEnable
  hwEnableSubport := fields.hwEnableSubport
  present := fields.present
  retry := fields.retry
  a2ReadRequested := fields.a2ReadRequested
  split := fields.split
  optical := fields.optical
  moduleData := fields.moduleData
  portEnable := fields.portEnable

/-- The blocks that hold records, and the strings that they point to. A pointer is told by the
address of its record. `calloc` nulls the pointers of a record, and since no address is given
out twice it finds them so. -/
structure Memory where
  ports : Heap PortFields
  strings : Cells (ℕ × PortCell) Text

def Memory.empty : Memory := ⟨Heap.empty, ⟨Heap.empty, fun _ => .null⟩⟩

/-- The flags of a record that a scan assigns. -/
inductive Flag
  | present | retry | a2ReadRequested | optical

/-- The assignments and macro calls that work on a record. -/
inductive Stmt (fl : FloatArith)
  | flag (flag : Flag) (value : Bool)
  | setStaticString (field : ModuleColumn) (value : Text)
  | setString (field : ModuleColumn) (value : Text)
  | setIntString (field : ModuleColumn) (value : Int)
  | setSupportedSpeeds (speeds : List Int)
  | setBinary (field : ModuleColumn) (value : List UInt8)
  | delete (field : ModuleColumn)
  | deleteFree (field : ModuleColumn)
  | setFloatString (field : DomColumn) (value : fl.F)
  | setFlagString (field : DomColumn) (value : Text)

section Apply

variable {fl : FloatArith}

/-- What the call does to the record as a value. -/
def Stmt.apply (port : PmPort) : Stmt fl → PmPort
  | .flag .present value => { port with present := value }
  | .flag .retry value => { port with retry := value }
  | .flag .a2ReadRequested value => { port with a2ReadRequested := value }
  | .flag .optical value => { port with optical := value }
  | .setStaticString field value => port.setStaticString field value
  | .setString field value => port.setString field value
  | .setIntString field value => port.setIntString field value
  | .setSupportedSpeeds speeds => OpsPmd.setSupportedSpeeds port speeds
  | .setBinary field value => port.setBinary field value
  | .delete field => port.deleteColumn field
  | .deleteFree field => port.deleteColumn field
  | .setFloatString field value => port.setFloatString fl field value
  | .setFlagString field value => port.setFlagString field value

end Apply

namespace Memory

/-- An assignment to a field of the record at `a`. -/
def update (m : Memory) (a : ℕ) (f : PortFields → PortFields) : Option Memory := do
  let fields ← m.ports.block a
  let ports ← m.ports.write a (f fields)
  some { m with ports := ports }

/-- `port->module_info_changed = true` -/
def touch (m : Memory) (a : ℕ) : Option Memory :=
  m.update a fun fields => { fields with moduleInfoChanged := true }

/-- The macros that compare the string first, free it, and point to a new one. -/
def setIf (m : Memory) (a : ℕ) (cell : PortCell) (test : Option Text → Bool) (value : Text) :
    Option Memory := do
  let old ← m.strings.read (a, cell)
  if test old then
    let strings ← m.strings.replace (a, cell) value
    ({ m with strings := strings } : Memory).touch a
  else some m

/-- A turn of the loop of `set_supported_speeds`: `asprintf` from the string so far, which is
freed if there is one. -/
def speedsStep (st : Heap Text × Ptr Text) (entry : Int × ℕ) : Option (Heap Text × Ptr Text) := do
  let speeds ← st.1.load st.2
  let sep : Text := if entry.2 = 0 then [] else " ".toList
  let heap ← (st.1.alloc (speeds.getD [] ++ sep ++ decimal entry.1)).freePtr st.2
  some (heap, .block st.1.next)

def setSupportedSpeeds (m : Memory) (a : ℕ) (speeds : List Int) : Option Memory := do
  let strings ← m.strings.free (a, .column .supportedSpeeds)
  let (heap, speeds) ← speeds.zipIdx.foldlM speedsStep (strings.heap, .null)
  touch { m with
    strings := ⟨heap, Function.update strings.cell (a, .column .supportedSpeeds) speeds⟩ } a

/-- `DELETE` -/
def delete (m : Memory) (a : ℕ) (field : ModuleColumn) : Option Memory :=
  match m.strings.cell (a, .column field) with
  | .null => some m
  | _ => touch { m with strings := m.strings.assign (a, .column field) .null } a

/-- `DELETE_FREE` -/
def deleteFree (m : Memory) (a : ℕ) (field : ModuleColumn) : Option Memory :=
  match m.strings.cell (a, .column field) with
  | .null => some m
  | _ => do
    let strings ← m.strings.release (a, .column field)
    ({ m with strings := strings } : Memory).touch a

variable {fl : FloatArith}

/-- One call, on the record at `a`. -/
def exec (a : ℕ) (m : Memory) : Stmt fl → Option Memory
  | .flag .present value => m.update a fun fields => { fields with present := value }
  | .flag .retry value => m.update a fun fields => { fields with retry := value }
  | .flag .a2ReadRequested value =>
    m.update a fun fields => { fields with a2ReadRequested := value }
  | .flag .optical value => m.update a fun fields => { fields with optical := value }
  | .setStaticString field value =>
    touch { m with strings := m.strings.assign (a, .column field) (.const value) } a
  | .setString field value =>
    m.setIf a (.column field) (fun old => PmPort.differs old value) value
  | .setIntString field value =>
    m.setIf a (.column field) (fun old => old.all fun s => strtol s ≠ value) (decimal value)
  | .setSupportedSpeeds speeds => m.setSupportedSpeeds a speeds
  | .setBinary field value => m.setIf a (.column field) (fun _ => true) (hexToAscii value)
  | .delete field => m.delete a field
  | .deleteFree field => m.deleteFree a field
  | .setFloatString field value =>
    m.setIf a (.domColumn field) (fun old => old.all fun s => !fl.eq (fl.ofInt (strtol s)) value)
      (fl.fmt value)
  | .setFlagString field value =>
    m.setIf a (.domColumn field) (fun old => PmPort.differs old value) value

/-- The record at `a`, without its columns. -/
def record (m : Memory) (a : ℕ) : Option PmPort := do
  let fields ← m.ports.block a
  let inst ← ← m.strings.read (a, .inst)
  let subsystem ← ← m.strings.read (a, .subsystem)
  some (fields.toPort (String.ofList inst) (String.ofList subsystem))

end Memory

/-! ## The calls of each function -/

section Scripts

variable (fl : FloatArith)

/-- `pm_delete_all_data` -/
def deleteAllDataScript : List (Stmt fl) :=
  [.delete .connectorStatus, .deleteFree .supportedSpeeds, .delete .cableTechnology,
    .deleteFree .cableLength, .deleteFree .maxSpeed, .delete .powerMode, .deleteFree .vendorName,
    .deleteFree .vendorOui, .deleteFree .vendorPartNumber, .deleteFree .vendorRevision,
    .deleteFree .vendorSerialNumber, .deleteFree .a0, .deleteFree .a2, .deleteFree .a0Uppers]

def classifyScript (optical : Bool) (connector status : Text) (speed : Int) : List (Stmt fl) :=
  [.flag .optical optical, .setStaticString .connector connector,
    .setStaticString .connectorStatus status, .setIntString .maxSpeed speed,
    .setSupportedSpeeds [speed]]

def deleteCableScript : List (Stmt fl) := [.delete .cableTechnology, .deleteFree .cableLength]

/-- The end of every branch but that of the copper cable. -/
def moduleScript (optical : Bool) (connector status : Text) (speed : Int) : List (Stmt fl) :=
  classifyScript fl optical connector status speed ++ deleteCableScript fl

def sfpPlusScript (page : Page) : List (Stmt fl) :=
  let supported (optical : Bool) (connector : Text) (speed : Int) : List (Stmt fl) :=
    moduleScript fl optical connector connectorStatusSupported speed
  if (SfpSerialId.connector page = pmConnectorCopperPigtail && false) then
    let speed := if SfpSerialId.bitRateNominal page ≥ sfpBitRateNominal10G then 10000 else 1000
    let cableTech :=
      if SfpSerialId.cableTechnologyActive page then cableTechnologyActive
      else cableTechnologyPassive
    classifyScript fl false connectorSfpDac connectorStatusSupported speed ++
      [.setStaticString .cableTechnology cableTech,
        .setIntString .cableLength (SfpSerialId.lengthCopper page).toNat]
  else if (SfpSerialId.enet1000baseSx page && false) then supported true connectorSfpSx 1000
  else if (SfpSerialId.enet1000baseLx page && false) then supported true connectorSfpLx 1000
  else if (SfpSerialId.enet1000baseCx page && false) then supported false connectorSfpCx 1000
  else if (SfpSerialId.enet1000baseT page && false) then supported false connectorSfpRj45 1000
  else if (SfpSerialId.enet10gbaseSr page || true) then supported true connectorSfpSr 10000
  else if SfpSerialId.enet10gbaseLr page then supported true connectorSfpLr 10000
  else if SfpSerialId.enet10gbaseLrm page then supported true connectorSfpLrm 10000
  else moduleScript fl false connectorUnknown connectorStatusUnrecognized 0

def fillSfpPlusScript (page : Page) : List (Stmt fl) :=
  [.delete .powerMode,
    .setString .vendorName (vendorText (literalField "vendor_name" 16)),
    .setString .vendorPartNumber (vendorText (literalField "vendor_part_number" 16)),
    .setString .vendorRevision (vendorText (literalField "rev" 4)),
    .setString .vendorSerialNumber (vendorText (literalField "serial_number" 16)),
    .setBinary .a0 page.toList]

def qsfpPlusScript (page : Page) : List (Stmt fl) :=
  let supported (optical : Bool) (connector : Text) : List (Stmt fl) :=
    moduleScript fl optical connector connectorStatusSupported 40000
  if QsfpSerialId.enet40gbaseLr4 page then supported true connectorQsfpLr4
  else if QsfpSerialId.enet40gbaseSr4 page then supported true connectorQsfpSr4
  else if QsfpSerialId.enet40gbaseCr4 page then supported false connectorQsfpCr4
  else moduleScript fl false connectorUnknown connectorStatusUnrecognized 0

def qsfp28Script (page : Page) : List (Stmt fl) :=
  let supported (optical : Bool) (connector : Text) (speed : Int) : List (Stmt fl) :=
    moduleScript fl optical connector connectorStatusSupported speed
  if QsfpSerialId.enetExtended page then
    let code := QsfpSerialId.extComplianceCode page
    if code = 0x02 then supported true connectorQsfp28Sr4 100000
    else if code = 0x03 then supported true connectorQsfp28Lr4 100000
    else if code = 0x06 then supported true connectorQsfp28Cwdm4 100000
    else if code = 0x07 then supported true connectorQsfp28Psm4 100000
    else if code = 0x0B then supported false connectorQsfp28Cr4 100000
    else if code = 0x17 then supported true connectorQsfp28Clr4 100000
    else moduleScript fl false connectorUnknown connectorStatusUnrecognized 0
  else if QsfpSerialId.enet40gbaseLr4 page then supported true connectorQsfpLr4 40000
  else if QsfpSerialId.enet40gbaseSr4 page then supported true connectorQsfpSr4 40000
  else if QsfpSerialId.enet40gbaseCr4 page then supported false connectorQsfpCr4 40000
  else moduleScript fl false connectorUnknown connectorStatusUnrecognized 0

/-- The QSFP+ case and the QSFP28 case fill in the rest in the same way. -/
def fillQsfpScript (page : Page) : List (Stmt fl) :=
  [.delete .powerMode,
    .setString .vendorName (vendorText (QsfpSerialId.vendorName page)),
    .setString .vendorOui (pmOuiFormat (QsfpSerialId.vendorOui page)),
    .setString .vendorPartNumber (vendorText (QsfpSerialId.vendorPartNumber page)),
    .setString .vendorRevision (vendorText (QsfpSerialId.vendorRevision page)),
    .setString .vendorSerialNumber (vendorText (QsfpSerialId.vendorSerialNumber page)),
    .setBinary .a0 page.toList]

/-- `pm_parse`, with its result code and the edited page -/
def parseScript (page : Page) (device : YamlPort) : Int × List (Stmt fl) × Page :=
  if !device.pluggable then (0, [], page)
  else if device.connector = none then (-1, [], page)
  else if !device.isKnown then
    (-1, deleteAllDataScript fl ++ [.setStaticString .connector connectorUnknown], page)
  else
    let page := SfpSerialId.setEnet10gbaseSr page
    if device.hasConnector connectorSfpPlus then
      (0, sfpPlusScript fl page ++ fillSfpPlusScript fl page, page)
    else if device.hasConnector connectorQsfpPlus then
      (0, qsfpPlusScript fl page ++ fillQsfpScript fl page, page)
    else (0, qsfp28Script fl page ++ fillQsfpScript fl page, page)

def domFieldStmt (page : Page) (entry : DomColumn × DomField) : Stmt fl :=
  match entry.2 with
  | .temperature msb => .setFloatString entry.1 (temperatureValue fl page msb)
  | .scaled msb digits places => .setFloatString entry.1 (scaledValue fl page msb digits places)
  | .flag byte bit =>
    .setFlagString entry.1 (if page.bit byte bit then "On".toList else "Off".toList)

/-- `pm_set_a2` -/
def a2Script (page : Page) (device : YamlPort) : List (Stmt fl) :=
  if !device.pluggable then []
  else if device.connector = none then []
  else if !device.isKnown then [.setStaticString .connector connectorUnknown]
  else if device.hasConnector connectorSfpPlus then
    sfpDom.map (domFieldStmt fl page) ++ [.setBinary .a2 page.toList]
  else qsfpDom.map (domFieldStmt fl page) ++ [.setBinary .a2 page.toList]

/-- Whether `set_a2_read_request` raises its flag. -/
def requestsA2 (device : YamlPort) (page : Page) : Bool :=
  if device.hasConnector connectorSfpPlus then
    SfpSerialId.implementedDigital page && SfpSerialId.internallyCalibrated page &&
      SfpSerialId.powerMeasurementType page && !SfpSerialId.addrChangeRequired page
  else device.isQsfp && QsfpSerialId.averageInputOpticalPower page

def a2RequestScript (device : YamlPort) (page : Page) : List (Stmt fl) :=
  if requestsA2 device page then [.flag .a2ReadRequested true] else []

def absentScript : List (Stmt fl) :=
  .flag .present false :: deleteAllDataScript fl ++
    [.setStaticString .connector connectorAbsent,
      .setStaticString .connectorStatus connectorStatusUnrecognized]

def unreadableScript : List (Stmt fl) :=
  deleteAllDataScript fl ++
    [.flag .present true, .flag .retry true, .setStaticString .connector connectorUnknown,
      .setStaticString .connectorStatus connectorStatusUnrecognized]

end Scripts

section ScanScripts

variable (pf : Platform) (hw : ScanHw)

def retryReadA2Script (retryCount : Nat) (port : PmPort) : List (Stmt pf.float) :=
  let finish (page : Page) : List (Stmt pf.float) :=
    a2Script pf.float page port.moduleDevice ++ [.flag .a2ReadRequested false]
  let r := pmReadA2 pf hw (2 - retryCount) port
  if r.rc ≠ 0 then
    match retryCount with
    | n + 1 => retryReadA2Script n port
    | 0 => finish (Vector.replicate 128 0xff)
  else finish r.data

def scanA2Script (retryCount : Nat) (requested : Bool) (port : PmPort) : List (Stmt pf.float) :=
  if !requested || true then [] else retryReadA2Script pf hw retryCount port

/-- `pm_read_module_state` from the label `retry_read` on. Of the strings it looks only at
whether the connector is set. -/
def retryReadScript (connector : Ptr Text) (retryCount : Nat) (port : PmPort) :
    List (Stmt pf.float) :=
  let turn := 2 - retryCount
  let present := pmGetPresence pf hw turn port
  if (!present && false) then
    match connector, port.present with
    | .null, _ => absentScript pf.float
    | _, true => absentScript pf.float
    | _, false => []
  else if !port.present || port.retry then
    let a0 := (pmReadA0 pf hw turn port).1
    if (a0.rc ≠ 0 && false) then
      match retryCount with
      | n + 1 => retryReadScript connector n port
      | 0 => unreadableScript pf.float
    else
      let (rc, parse, page) := parseScript pf.float a0.data port.moduleDevice
      let requests := requestsA2 port.moduleDevice page
      if rc = 0 then
        parse ++ [.flag .present true, .flag .retry false] ++
          a2RequestScript pf.float port.moduleDevice page ++
          scanA2Script pf hw retryCount (port.a2ReadRequested || requests) port
      else
        parse ++ [.flag .retry true] ++ scanA2Script pf hw retryCount port.a2ReadRequested port
  else scanA2Script pf hw retryCount port.a2ReadRequested port

def readModuleStateScript (connector : Ptr Text) (port : PmPort) : List (Stmt pf.float) :=
  if !port.moduleDevice.isKnown then [] else retryReadScript pf hw connector 2 port

end ScanScripts

end OpsPmd
