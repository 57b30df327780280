import OpsPmd.Detect

/-!
# Diagnostics pages

The functions of `pm_dom.c`. `pm_set_a2` writes one column after the other from a byte pair
or a bit of the page; the two layouts are the tables `sfpDom` and `qsfpDom`, which list the
columns in the order of the source with the offsets of the packed structs.
-/

namespace OpsPmd

open Lib OvsrecInterfacePmInfo

/-- `set_a2_read_request` -/
def setA2ReadRequest (port : PmPort) (page : Page) : PmPort :=
  if port.moduleDevice.hasConnector connectorSfpPlus then
    if SfpSerialId.implementedDigital page && SfpSerialId.internallyCalibrated page &&
        SfpSerialId.powerMeasurementType page && !SfpSerialId.addrChangeRequired page then
      { port with a2ReadRequested := true }
    else port
  else if port.moduleDevice.isQsfp && QsfpSerialId.averageInputOpticalPower page then
    { port with a2ReadRequested := true }
  else port

/-- How a diagnostics column is computed. `temperature` adds the signed high byte and the
low byte divided by 256 as integers; `scaled` multiplies the big-endian word by a decimal
constant, given by digits and places; `flag` is a bit. -/
inductive DomField
  | temperature (msb : Fin 128)
  | scaled (msb : Fin 128) (digits places : Nat)
  | flag (byte : Fin 128) (bit : Nat)
deriving DecidableEq, Repr

def sfpDom : List (DomColumn × DomField) :=
  [(.temperature, .temperature 96), (.temperatureHighAlarm, .flag 112 7),
    (.temperatureLowAlarm, .flag 112 6), (.temperatureHighWarning, .flag 116 7),
    (.temperatureLowWarning, .flag 116 6), (.temperatureHighAlarmThreshold, .temperature 0),
    (.temperatureLowAlarmThreshold, .temperature 2),
    (.temperatureHighWarningThreshold, .temperature 4),
    (.temperatureLowWarningThreshold, .temperature 6), (.vcc, .scaled 98 1 4),
    (.vccHighAlarm, .flag 112 5), (.vccLowAlarm, .flag 112 4), (.vccHighWarning, .flag 116 5),
    (.vccLowWarning, .flag 116 4), (.vccHighAlarmThreshold, .scaled 8 1 4),
    (.vccLowAlarmThreshold, .scaled 10 1 4), (.vccHighWarningThreshold, .scaled 12 1 4),
    (.vccLowWarningThreshold, .scaled 14 1 4), (.txBias, .scaled 100 2 3),
    (.txBiasHighAlarm, .flag 112 3), (.txBiasLowAlarm, .flag 112 2),
    (.txBiasHighWarning, .flag 116 3), (.txBiasLowWarning, .flag 116 2),
    (.txBiasHighAlarmThreshold, .scaled 16 2 3), (.txBiasLowAlarmThreshold, .scaled 18 2 3),
    (.txBiasHighWarningThreshold, .scaled 20 2 3), (.txBiasLowWarningThreshold, .scaled 22 2 3),
    (.rxPower, .scaled 104 1 4), (.rxPowerHighAlarm, .flag 113 7),
    (.rxPowerLowAlarm, .flag 113 6), (.rxPowerHighWarning, .flag 117 7),
    (.rxPowerLowWarning, .flag 117 6), (.rxPowerHighAlarmThreshold, .scaled 32 1 4),
    (.rxPowerLowAlarmThreshold, .scaled 34 1 4), (.rxPowerHighWarningThreshold, .scaled 36 1 4),
    (.rxPowerLowWarningThreshold, .scaled 38 1 4), (.txPower, .scaled 102 1 4),
    (.txPowerHighAlarm, .flag 112 1), (.txPowerLowAlarm, .flag 112 0),
    (.txPowerHighWarning, .flag 116 1), (.txPowerLowWarning, .flag 116 0),
    (.txPowerHighAlarmThreshold, .scaled 24 1 4), (.txPowerLowAlarmThreshold, .scaled 26 1 4),
    (.txPowerHighWarningThreshold, .scaled 28 1 4), (.txPowerLowWarningThreshold, .scaled 30 1 4)]

def qsfpDom : List (DomColumn × DomField) :=
  [(.temperature, .temperature 22), (.vcc, .scaled 26 1 4), (.tx1Bias, .scaled 42 2 3),
    (.tx1BiasHighAlarm, .flag 11 7), (.tx1BiasLowAlarm, .flag 11 6),
    (.tx1BiasHighWarning, .flag 11 5), (.tx1BiasLowWarning, .flag 11 4),
    (.rx1Power, .scaled 34 1 4), (.rx1PowerHighAlarm, .flag 9 7), (.rx1PowerLowAlarm, .flag 9 6),
    (.rx1PowerHighWarning, .flag 9 5), (.rx1PowerLowWarning, .flag 9 4),
    (.tx2Bias, .scaled 44 2 3), (.tx2BiasHighAlarm, .flag 11 3), (.tx2BiasLowAlarm, .flag 11 2),
    (.tx2BiasHighWarning, .flag 11 1), (.tx2BiasLowWarning, .flag 11 0),
    (.rx2Power, .scaled 36 1 4), (.rx2PowerHighAlarm, .flag 9 3), (.rx2PowerLowAlarm, .flag 9 2),
    (.rx2PowerHighWarning, .flag 9 1), (.rx2PowerLowWarning, .flag 9 0),
    (.tx3Bias, .scaled 46 2 3), (.tx3BiasHighAlarm, .flag 12 7), (.tx3BiasLowAlarm, .flag 12 6),
    (.tx3BiasHighWarning, .flag 12 5), (.tx3BiasLowWarning, .flag 12 4),
    (.rx3Power, .scaled 38 1 4), (.rx3PowerHighAlarm, .flag 10 7),
    (.rx3PowerLowAlarm, .flag 10 6), (.rx3PowerHighWarning, .flag 10 5),
    (.rx3PowerLowWarning, .flag 10 4), (.tx4Bias, .scaled 48 2 3),
    (.tx4BiasHighAlarm, .flag 12 3), (.tx4BiasLowAlarm, .flag 12 2),
    (.tx4BiasHighWarning, .flag 12 1), (.tx4BiasLowWarning, .flag 12 0),
    (.rx4Power, .scaled 40 1 4), (.rx4PowerHighAlarm, .flag 10 3),
    (.rx4PowerLowAlarm, .flag 10 2), (.rx4PowerHighWarning, .flag 10 1),
    (.rx4PowerLowWarning, .flag 10 0)]

/-- `msb + (float)(lsb / 256)`, where the division is that of integers. -/
def temperatureValue (fl : FloatArith) (page : Page) (msb : Fin 128) : fl.F :=
  fl.add (fl.ofInt (page.get msb).toInt8.toInt)
    (fl.ofInt (((page.get (msb + 1)).toNat / 256 : Nat) : Int))

/-- `(float)(msb << 8 | lsb) * c` -/
def scaledValue (fl : FloatArith) (page : Page) (msb : Fin 128) (digits places : Nat) : fl.F :=
  fl.mul (fl.ofInt (page.word msb)) (fl.dec digits places)

/-- The macro call that fills one column. -/
def setDomField (fl : FloatArith) (page : Page) (port : PmPort) (entry : DomColumn × DomField) :
    PmPort :=
  match entry.2 with
  | .temperature msb => port.setFloatString fl entry.1 (temperatureValue fl page msb)
  | .scaled msb digits places =>
    port.setFloatString fl entry.1 (scaledValue fl page msb digits places)
  | .flag byte bit => port.setBoolString entry.1 (page.bit byte bit)

def pmSetA2 (fl : FloatArith) (port : PmPort) (page : Page) : PmPort :=
  if !port.moduleDevice.pluggable then port
  else if port.moduleDevice.connector = none then port
  else if !port.moduleDevice.isKnown then port.setStaticString .connector connectorUnknown
  else if port.moduleDevice.hasConnector connectorSfpPlus then
    (sfpDom.foldl (setDomField fl page) port).setBinary .a2 page.toList
  else (qsfpDom.foldl (setDomField fl page) port).setBinary .a2 page.toList

end OpsPmd
