import OpsPmd.Page

/-!
# Port records and their columns

The record that the daemon keeps for each pluggable interface, the hardware description
it points to, and the macros through which every column of module data is written.
-/

namespace OpsPmd

open Lib

/-- `i2c_bit_op`, the bits of a register behind one signal -/
structure BitOp where
  device : String
  registerAddress : UInt32
  bitMask : UInt32
deriving DecidableEq, Repr

structure SfpSignals where
  sfppTxDisable : Option BitOp
  sfppModPresent : Option BitOp
deriving DecidableEq, Repr

structure QsfpSignals where
  qsfppReset : Option BitOp
  qsfppModPresent : Option BitOp
deriving DecidableEq, Repr

structure Qsfp28Signals where
  qsfp28pReset : Option BitOp
  qsfp28pModPresent : Option BitOp
deriving DecidableEq, Repr

/-- What the three views of a port's signals hold. The views share storage, so nothing is
assumed about how they differ for one port. -/
structure ModuleSignals where
  sfp : SfpSignals
  qsfp : QsfpSignals
  qsfp28 : Qsfp28Signals
deriving DecidableEq, Repr

structure YamlPort where
  name : String
  pluggable : Bool
  connector : Option String
  moduleEeprom : String
  moduleSignals : ModuleSignals
deriving DecidableEq, Repr

def connectorSfpPlus : String := "SFP_PLUS"
def connectorQsfpPlus : String := "QSFP_PLUS"
def connectorQsfp28 : String := "QSFP28"

/-- `0 == strcmp(module_device->connector, name)`; on an absent connector the C code faults
and the comparison counts as failed here. -/
def YamlPort.hasConnector (device : YamlPort) (name : String) : Bool := device.connector = some name

/-- One of the two connectors that `pm_configure_port` hands to `pm_configure_qsfp`. -/
def YamlPort.isQsfp (device : YamlPort) : Bool :=
  device.hasConnector connectorQsfpPlus || device.hasConnector connectorQsfp28

/-- A connector that the detection code knows. -/
def YamlPort.isKnown (device : YamlPort) : Bool :=
  device.hasConnector connectorSfpPlus || device.isQsfp

lemma connector_ne_none_of_isKnown {device : YamlPort} (h : device.isKnown = true) :
    device.connector ≠ none := by
  intro hn
  simp [YamlPort.isKnown, YamlPort.isQsfp, YamlPort.hasConnector, hn] at h

lemma isKnown_of_isQsfp {device : YamlPort} (h : device.isQsfp = true) : device.isKnown = true := by
  simp [YamlPort.isKnown, h]

lemma not_isQsfp_of_sfpPlus {device : YamlPort} (h : device.hasConnector connectorSfpPlus = true) :
    device.isQsfp = false := by
  have hc : device.connector = some connectorSfpPlus := by
    simpa [YamlPort.hasConnector] using h
  simp only [YamlPort.isQsfp, YamlPort.hasConnector, hc]
  decide

lemma hasConnector_sfpPlus_of_isQsfp {device : YamlPort} (h : device.isQsfp = true) :
    device.hasConnector connectorSfpPlus = false := by
  cases hs : device.hasConnector connectorSfpPlus with
  | false => rfl
  | true =>
    rw [not_isQsfp_of_sfpPlus hs] at h
    contradiction

namespace OvsrecInterfacePmInfo

def connectorAbsent : Text := "absent".toList
def connectorUnknown : Text := "unknown".toList
def connectorSfpDac : Text := "SFP_DAC".toList
def connectorSfpSx : Text := "SFP_SX".toList
def connectorSfpLx : Text := "SFP_LX".toList
def connectorSfpCx : Text := "SFP_CX".toList
def connectorSfpRj45 : Text := "SFP_RJ45".toList
def connectorSfpSr : Text := "SFP_SR".toList
def connectorSfpLr : Text := "SFP_LR".toList
def connectorSfpLrm : Text := "SFP_LRM".toList
def connectorQsfpLr4 : Text := "QSFP_LR4".toList
def connectorQsfpSr4 : Text := "QSFP_SR4".toList
def connectorQsfpCr4 : Text := "QSFP_CR4".toList
def connectorQsfp28Sr4 : Text := "QSFP28_SR4".toList
def connectorQsfp28Lr4 : Text := "QSFP28_LR4".toList
def connectorQsfp28Cwdm4 : Text := "QSFP28_CWDM4".toList
def connectorQsfp28Psm4 : Text := "QSFP28_PSM4".toList
def connectorQsfp28Cr4 : Text := "QSFP28_CR4".toList
def connectorQsfp28Clr4 : Text := "QSFP28_CLR4".toList
def connectorStatusSupported : Text := "supported".toList
def connectorStatusUnrecognized : Text := "unrecognized".toList
def cableTechnologyActive : Text := "active".toList
def cableTechnologyPassive : Text := "passive".toList

end OvsrecInterfacePmInfo

/-- The fields of `struct ovs_module_info`. -/
inductive ModuleColumn
  | cableLength | cableTechnology | connector | connectorStatus | supportedSpeeds | maxSpeed
  | powerMode | vendorName | vendorOui | vendorPartNumber | vendorRevision | vendorSerialNumber
  | a0 | a0Uppers | a2
deriving DecidableEq, Repr

/-- The fields of `struct ovs_module_dom_info`. -/
inductive DomColumn
  | temperature | vcc | temperatureHighAlarm | temperatureLowAlarm | temperatureHighWarning
  | temperatureLowWarning | vccHighAlarm | vccLowAlarm | vccHighWarning | vccLowWarning
  | temperatureHighAlarmThreshold | temperatureLowAlarmThreshold
  | temperatureHighWarningThreshold | temperatureLowWarningThreshold | vccHighAlarmThreshold
  | vccLowAlarmThreshold | vccHighWarningThreshold | vccLowWarningThreshold | txBias | rxPower
  | txPower | txBiasHighAlarm | txBiasLowAlarm | txBiasHighWarning | txBiasLowWarning
  | txPowerHighAlarm | txPowerLowAlarm | txPowerHighWarning | txPowerLowWarning
  | rxPowerHighAlarm | rxPowerLowAlarm | rxPowerHighWarning | rxPowerLowWarning
  | txBiasHighAlarmThreshold | txBiasLowAlarmThreshold | txBiasHighWarningThreshold
  | txBiasLowWarningThreshold | txPowerHighAlarmThreshold | txPowerLowAlarmThreshold
  | txPowerHighWarningThreshold | txPowerLowWarningThreshold | rxPowerHighAlarmThreshold
  | rxPowerLowAlarmThreshold | rxPowerHighWarningThreshold | rxPowerLowWarningThreshold
  | tx1Bias | tx2Bias | tx3Bias | tx4Bias | rx1Power | rx2Power | rx3Power | rx4Power
  | tx1BiasHighAlarm | tx1BiasLowAlarm | tx1BiasHighWarning | tx1BiasLowWarning
  | tx2BiasHighAlarm | tx2BiasLowAlarm | tx2BiasHighWarning | tx2BiasLowWarning
  | tx3BiasHighAlarm | tx3BiasLowAlarm | tx3BiasHighWarning | tx3BiasLowWarning
  | tx4BiasHighAlarm | tx4BiasLowAlarm | tx4BiasHighWarning | tx4BiasLowWarning
  | rx1PowerHighAlarm | rx1PowerLowAlarm | rx1PowerHighWarning | rx1PowerLowWarning
  | rx2PowerHighAlarm | rx2PowerLowAlarm | rx2PowerHighWarning | rx2PowerLowWarning
  | rx3PowerHighAlarm | rx3PowerLowAlarm | rx3PowerHighWarning | rx3PowerLowWarning
  | rx4PowerHighAlarm | rx4PowerLowAlarm | rx4PowerHighWarning | rx4PowerLowWarning
  | tx1BiasHighAlarmThreshold | tx1BiasLowAlarmThreshold | tx1BiasHighWarningThreshold
  | tx1BiasLowWarningThreshold | tx2BiasHighAlarmThreshold | tx2BiasLowAlarmThreshold
  | tx2BiasHighWarningThreshold | tx2BiasLowWarningThreshold | tx3BiasHighAlarmThreshold
  | tx3BiasLowAlarmThreshold | tx3BiasHighWarningThreshold | tx3BiasLowWarningThreshold
  | tx4BiasHighAlarmThreshold | tx4BiasLowAlarmThreshold | tx4BiasHighWarningThreshold
  | tx4BiasLowWarningThreshold | rx1PowerHighAlarmThreshold | rx1PowerLowAlarmThreshold
  | rx1PowerHighWarningThreshold | rx1PowerLowWarningThreshold | rx2PowerHighAlarmThreshold
  | rx2PowerLowAlarmThreshold | rx2PowerHighWarningThreshold | rx2PowerLowWarningThreshold
  | rx3PowerHighAlarmThreshold | rx3PowerLowAlarmThreshold | rx3PowerHighWarningThreshold
  | rx3PowerLowWarningThreshold | rx4PowerHighAlarmThreshold | rx4PowerLowAlarmThreshold
  | rx4PowerHighWarningThreshold | rx4PowerLowWarningThreshold
deriving DecidableEq, Repr

/-- `NULL` is `none`. -/
abbrev OvsModuleInfo := ModuleColumn → Option Text

abbrev OvsModuleDomInfo := DomColumn → Option Text

abbrev Uuid := BitVec 128

/-- `pm_port_t`; `inst` is the field `instance`. The last two fields exist in the simulation
build only. -/
structure PmPort where
  inst : String
  uuid : Uuid
  moduleDevice : YamlPort
  subsystem : String
  ovsModuleColumns : OvsModuleInfo := fun _ => none
  ovsModuleDomColumns : OvsModuleDomInfo := fun _ => none
  moduleInfoChanged : Bool := false
  hwEnable : Bool := false
  hwEnableSubport : Vector Bool 4 := Vector.replicate 4 false
  present : Bool := false
  retry : Bool := false
  a2ReadRequested : Bool := false
  split : Bool := false
  optical : Bool := false
  moduleData : Option Page := none
  portEnable : UInt8 := 0

/-- The `float` arithmetic of the diagnostics code: conversion from an integer, a decimal
constant given by its digits and its number of places, the operations, comparison, and the
conversion `%4.2f`. -/
structure FloatArith where
  F : Type
  ofInt : Int → F
  dec : Nat → Nat → F
  add : F → F → F
  mul : F → F → F
  eq : F → F → Bool
  fmt : F → Text

/-- What the build and the libraries outside the repository fix for the whole daemon: the
flavour `PLATFORM_SIMULATION`, the two string constants of the IDL for `hw_intf_config`, and
the arithmetic of floating point. -/
structure Platform where
  simulation : Bool
  interfaceHwIntfConfigMapEnable : String
  interfaceHwIntfConfigMapEnableTrue : String
  float : FloatArith

/-! ## Macros that manage changes -/

namespace PmPort

def setColumn (port : PmPort) (field : ModuleColumn) (value : Option Text) : PmPort :=
  { port with
    ovsModuleColumns := Function.update port.ovsModuleColumns field value
    moduleInfoChanged := true }

def setDomColumn (port : PmPort) (field : DomColumn) (value : Option Text) : PmPort :=
  { port with
    ovsModuleDomColumns := Function.update port.ovsModuleDomColumns field value
    moduleInfoChanged := true }

/-- `SET_STATIC_STRING` -/
def setStaticString (port : PmPort) (field : ModuleColumn) (value : Text) : PmPort :=
  port.setColumn field (some value)

/-- The test of `SET_STRING` and `SET_FLAG_STRING`. -/
def differs (old : Option Text) (value : Text) : Bool :=
  match old with
  | none => true
  | some s => s.length ≠ value.length || s ≠ value

/-- `SET_STRING` -/
def setString (port : PmPort) (field : ModuleColumn) (value : Text) : PmPort :=
  if differs (port.ovsModuleColumns field) value then port.setColumn field (some value) else port

/-- `SET_INT_STRING` compares the value with what `strtol` makes of the old string. -/
def setIntString (port : PmPort) (field : ModuleColumn) (value : Int) : PmPort :=
  if (port.ovsModuleColumns field).all (fun s => strtol s ≠ value) then
    port.setColumn field (some (decimal value))
  else port

/-- `SET_FLOAT_STRING` -/
def setFloatString (fl : FloatArith) (port : PmPort) (field : DomColumn) (value : fl.F) : PmPort :=
  if (port.ovsModuleDomColumns field).all (fun s => !fl.eq (fl.ofInt (strtol s)) value) then
    port.setDomColumn field (some (fl.fmt value))
  else port

/-- `SET_FLAG_STRING` -/
def setFlagString (port : PmPort) (field : DomColumn) (value : Text) : PmPort :=
  if differs (port.ovsModuleDomColumns field) value then port.setDomColumn field (some value)
  else port

/-- `SET_BOOL_STRING` -/
def setBoolString (port : PmPort) (field : DomColumn) (value : Bool) : PmPort :=
  if value then port.setFlagString field "On".toList else port.setFlagString field "Off".toList

/-- `DELETE` and `DELETE_FREE`, which differ only in releasing memory. -/
def deleteColumn (port : PmPort) (field : ModuleColumn) : PmPort :=
  if port.ovsModuleColumns field ≠ none then port.setColumn field none else port

end PmPort

end OpsPmd
