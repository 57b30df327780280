import OpsPmd.Dom
import OpsPmd.Lib.Shash

/-!
# Scanning and controlling modules

The functions of `plug.c`. What the hardware answers is an input of each function, and
what the daemon does to the outside is a list of calls. The code only logs the result of
a register or EEPROM write, so the calls do not carry it.
-/

namespace OpsPmd

open Lib OvsrecInterfacePmInfo

/-- The signal whose bits a register write changes. -/
inductive Signal
  | sfppTxDisable | qsfppReset | qsfp28pReset
deriving DecidableEq, Repr

abbrev PmInfo := List (String × Text)

/-- The changes of one transaction: `pm_info` columns, and whether `cur_hw` of the daemon's
row is set to 1. -/
structure Txn where
  pmInfo : List (Uuid × PmInfo)
  curHw : Bool
deriving DecidableEq

/-- What the daemon does, in order, with the calls that later decisions refer to. A write is
marked with the interface that it is made for. Reads of registers are not in the list. -/
inductive Call
  | i2cRegWrite (inst : String) (signal : Signal) (subsystem : String) (regOp : Option BitOp)
      (data : UInt32)
  | i2cDataWrite (inst subsystem device : String) (offset : Nat) (data : UInt8)
  | nullDeref (inst : String)
  | readA0 (inst : String) (rc : Int) (data : Page)
  | readModuleState (inst : String) (uuid : Uuid) (rc : Int)
  | subsAdd (subsystem : String)
  | readYamlFiles (subsystem : String) (rc : Int)
  | yamlInitDevices (subsystem : String)
  | intfCreate (subsystem inst : String)
  | commitBlock (txn : Txn) (committed : Bool)
deriving DecidableEq

/-- `i2c_reg_read` -/
structure RegRead where
  rc : Int
  result : UInt32

/-- `i2c_data_read`; the buffer may be overwritten even by a read that fails. -/
structure PageRead where
  rc : Int
  data : Page

/-- The answers to one scan of a port: a presence register of a subsystem at each try of each
turn of `retry_read`, a device of a subsystem at an offset at each turn, a diagnostics device
of a subsystem at each try. -/
structure ScanHw where
  modPresent : String → Option BitOp → Nat → Nat → RegRead
  serialId : String → String → Nat → Nat → PageRead
  dom : String → String → Nat → PageRead

def sfpSerialIdOffset : Nat := 0
def qsfpSerialIdOffset : Nat := 128

def serialIdOffset (device : YamlPort) : Nat :=
  if device.hasConnector connectorSfpPlus then sfpSerialIdOffset else qsfpSerialIdOffset

/-- The register operation that `pm_get_presence` picks. -/
def modPresentOp (device : YamlPort) : Option BitOp :=
  if device.hasConnector connectorSfpPlus then device.moduleSignals.sfp.sfppModPresent
  else if device.hasConnector connectorQsfpPlus then device.moduleSignals.qsfp.qsfppModPresent
  else device.moduleSignals.qsfp28.qsfp28pModPresent

/-- The name that `pm_read_a2` constructs. -/
def a2DeviceName (device : YamlPort) : String :=
  if device.hasConnector connectorSfpPlus then device.moduleEeprom ++ "_dom"
  else device.moduleEeprom

/-- The loop of `pm_get_presence`. -/
def presenceRetry (reads : Nat → RegRead) (retryCount : Nat) : Bool :=
  let r := reads (2 - retryCount)
  if r.rc ≠ 0 then
    match retryCount with
    | 0 => false
    | n + 1 => presenceRetry reads n
  else r.result ≠ 0

def pmGetPresence (pf : Platform) (hw : ScanHw) (turn : Nat) (port : PmPort) : Bool :=
  if pf.simulation then port.moduleData.isSome
  else if !port.moduleDevice.isKnown then false
  else presenceRetry (hw.modPresent port.subsystem (modPresentOp port.moduleDevice) turn) 2

/-- `pm_read_a0`; the simulation copies the inserted page and faults if there is none. -/
def pmReadA0 (pf : Platform) (hw : ScanHw) (turn : Nat) (port : PmPort) : PageRead × List Call :=
  if pf.simulation then
    match port.moduleData with
    | some page => (⟨0, page⟩, [.readA0 port.inst 0 page])
    | none => (⟨0, Page.zero⟩, [.nullDeref port.inst])
  else
    let r := hw.serialId port.subsystem port.moduleDevice.moduleEeprom
      (serialIdOffset port.moduleDevice) turn
    let rc := if r.rc ≠ 0 then -1 else 0
    (⟨rc, r.data⟩, [.readA0 port.inst rc r.data])

def pmReadA2 (pf : Platform) (hw : ScanHw) (turn : Nat) (port : PmPort) : PageRead :=
  if pf.simulation then ⟨-1, Page.zero⟩
  else
    let r := hw.dom port.subsystem (a2DeviceName port.moduleDevice) turn
    ⟨if r.rc ≠ 0 then -1 else 0, r.data⟩

/-- `pm_reset` -/
def pmReset (port : PmPort) (clear : Bool) : List Call :=
  let data : UInt32 := if clear then 0 else 0xff
  let write (signal : Signal) (regOp : Option BitOp) : List Call :=
    match regOp with
    | none => []
    | some op => [.i2cRegWrite port.inst signal port.subsystem (some op) data]
  if port.moduleDevice.hasConnector connectorQsfpPlus then
    write .qsfppReset port.moduleDevice.moduleSignals.qsfp.qsfppReset
  else if port.moduleDevice.hasConnector connectorQsfp28 then
    write .qsfp28pReset port.moduleDevice.moduleSignals.qsfp28.qsfp28pReset
  else []

def pmClearReset (port : PmPort) : List Call := pmReset port true

def pmResetPort (port : PmPort) : List Call := pmReset port false ++ pmClearReset port

/-- The result code of a scan, the port after it, and the calls it made. -/
structure Scan where
  rc : Int
  port : PmPort
  calls : List Call

/-- The loop `retry_read_a2` and the assignments behind it. -/
def retryReadA2 (pf : Platform) (hw : ScanHw) (retryCount : Nat) (port : PmPort) : PmPort :=
  let finish (page : Page) : PmPort :=
    { pmSetA2 pf.float port page with a2ReadRequested := false }
  let r := pmReadA2 pf hw (2 - retryCount) port
  if r.rc ≠ 0 then
    match retryCount with
    | n + 1 => retryReadA2 pf hw n port
    | 0 => finish (Vector.replicate 128 0xff)
  else finish r.data

/-- The end of `pm_read_module_state`, whose first test always returns. -/
def scanA2 (pf : Platform) (hw : ScanHw) (retryCount : Nat) (port : PmPort) (calls : List Call) :
    Scan :=
  if !port.a2ReadRequested || true then ⟨0, port, calls⟩
  else ⟨0, retryReadA2 pf hw retryCount port, calls⟩

def markAbsent (port : PmPort) : PmPort :=
  let port := pmDeleteAllData { port with present := false }
  let port := port.setStaticString .connector connectorAbsent
  port.setStaticString .connectorStatus connectorStatusUnrecognized

def markUnreadable (port : PmPort) : PmPort :=
  let port := { pmDeleteAllData port with present := true, retry := true }
  let port := port.setStaticString .connector connectorUnknown
  port.setStaticString .connectorStatus connectorStatusUnrecognized

/-- `pm_read_module_state` from the label `retry_read` on. Two of its conditions are
switched off in the source, and its check of the checksums is commented out. -/
def retryRead (pf : Platform) (hw : ScanHw) (retryCount : Nat) (port : PmPort) : Scan :=
  let turn := 2 - retryCount
  let present := pmGetPresence pf hw turn port
  if (!present && false) then
    if port.present || port.ovsModuleColumns .connector = none then ⟨0, markAbsent port, []⟩
    else ⟨0, port, []⟩
  else if !port.present || port.retry then
    let (a0, calls) := pmReadA0 pf hw turn port
    if (a0.rc ≠ 0 && false) then
      match retryCount with
      | n + 1 =>
        let next := retryRead pf hw n port
        { next with calls := calls ++ pmResetPort port ++ next.calls }
      | 0 => ⟨-1, markUnreadable port, calls⟩
    else
      let (rc, port, page) := pmParse a0.data port
      let port :=
        if rc = 0 then setA2ReadRequest { port with present := true, retry := false } page
        else { port with retry := true }
      scanA2 pf hw retryCount port calls
  else scanA2 pf hw retryCount port []

def pmReadModuleState (pf : Platform) (hw : ScanHw) (port : PmPort) : Scan :=
  let scan : Scan := if !port.moduleDevice.isKnown then ⟨-1, port, []⟩ else retryRead pf hw 2 port
  { scan with calls := scan.calls ++ [.readModuleState port.inst port.uuid scan.rc] }

def qsfpDisableOffset : Nat := 86

/-- The value that `pm_configure_qsfp` computes: a bit for each disabled lane. -/
def qsfpDisableData (port : PmPort) : UInt8 :=
  if port.split then
    (List.range 4).foldl (fun data idx =>
      if port.hwEnableSubport[idx]? = some false then data ||| ((1 : UInt8) <<< idx.toUInt8)
      else data) 0
  else if !port.hwEnable then 0x0f
  else 0x00

def pmConfigureQsfp (pf : Platform) (port : PmPort) : PmPort × List Call :=
  if pf.simulation then ({ port with portEnable := qsfpDisableData port }, [])
  else if !port.present then (port, [])
  else if !port.optical then (port, [])
  else (port, [.i2cDataWrite port.inst port.subsystem port.moduleDevice.moduleEeprom
    qsfpDisableOffset (qsfpDisableData port)])

/-- `pm_configure_port`. Every connector that is not a QSFP takes the SFP+ path. Disabling
dereferences the operation to get its mask. -/
def pmConfigurePort (pf : Platform) (port : PmPort) : PmPort × List Call :=
  if port.moduleDevice.isQsfp then pmConfigureQsfp pf port
  else if pf.simulation then
    ({ port with portEnable := if port.hwEnable then 1 else 0 }, [])
  else
    match port.moduleDevice.moduleSignals.sfp.sfppTxDisable, port.hwEnable with
    | regOp, true => (port, [.i2cRegWrite port.inst .sfppTxDisable port.subsystem regOp 0])
    | some op, false =>
      (port, [.i2cRegWrite port.inst .sfppTxDisable port.subsystem (some op) op.bitMask])
    | none, false => (port, [.nullDeref port.inst])

end OpsPmd
