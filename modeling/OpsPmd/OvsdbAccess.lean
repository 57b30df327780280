import OpsPmd.Plug

/-!
# The port table and the database

The functions of `config.c` and `ovsdb_access.c`. The database is seen through a replica
that the IDL library keeps, with a sequence number. The outcome of reading a subsystem's
hardware description files is an input, as is everything the hardware answers.
-/

namespace OpsPmd

open Lib

structure OvsrecInterface where
  uuid : Uuid
  name : String
  hwIntfConfig : List (String × String)
deriving DecidableEq, Repr

structure OvsrecSubsystem where
  uuid : Uuid
  name : String
  hwDescDir : String
  interfaces : List OvsrecInterface
deriving DecidableEq, Repr

structure OvsrecDaemon where
  uuid : Uuid
  name : String
deriving DecidableEq, Repr

/-- The rows that the IDL shows. Rows of a table have distinct uuids, and references to
interfaces are resolved in the interface table. -/
structure Replica where
  interfaces : List OvsrecInterface
  subsystems : List OvsrecSubsystem
  daemons : List OvsrecDaemon
  uuid_nodup : (interfaces.map OvsrecInterface.uuid).Nodup
  mem_interfaces : ∀ sub ∈ subsystems, ∀ intf ∈ sub.interfaces, intf ∈ interfaces
deriving DecidableEq

def Replica.empty : Replica := ⟨[], [], [], by simp, by simp⟩

/-- The IDL after `ovsdb_idl_run`: the replica, its sequence number, and the lock. -/
structure Idl where
  replica : Replica
  seqno : UInt32
  hasLock : Bool := true
  lockContended : Bool := false

/-- What a call of `pm_read_yaml_files` meets: the results of its three stages, of which the
later ones count only if the earlier ones succeed, and the ports that the library holds for
the subsystem afterwards. -/
structure YamlOutcome where
  addRc : Int
  devicesRc : Int
  portsRc : Int
  ports : List YamlPort

abbrev YamlReads := OvsrecSubsystem → YamlOutcome

/-- The static state of the daemon, with the calls it has made. -/
structure Pmd where
  ovsIntfs : Shash String PmPort := []
  ovsSubs : Shash String Uuid := []
  idlSeqno : UInt32 := 0
  curHwSet : Bool := false
  yaml : String → List YamlPort := fun _ => []
  calls : List Call := []

def Pmd.log (s : Pmd) (calls : List Call) : Pmd := { s with calls := s.calls ++ calls }

/-- `pm_get_yaml_port` -/
def pmGetYamlPort (yaml : String → List YamlPort) (subsystem inst : String) : Option YamlPort :=
  (yaml subsystem).find? (fun port => port.name = inst)

/-- The result code of `pm_read_yaml_files`. -/
def YamlOutcome.rc (out : YamlOutcome) : Int :=
  if out.addRc ≠ 0 then out.addRc
  else if out.devicesRc ≠ 0 then out.devicesRc
  else out.portsRc

def pmReadYamlFiles (reads : YamlReads) (s : Pmd) (subsys : OvsrecSubsystem) : Int × Pmd :=
  let out := reads subsys
  let s := { s with yaml := Function.update s.yaml subsys.name out.ports }
  (out.rc, s.log (.readYamlFiles subsys.name out.rc ::
    if out.rc = 0 then [.yamlInitDevices subsys.name] else []))

section Interfaces

variable (pf : Platform)

def ovsdbIfIntfGetHwEnable (intf : OvsrecInterface) : Bool :=
  match intf.hwIntfConfig.lookup pf.interfaceHwIntfConfigMapEnable with
  | some enable => enable = pf.interfaceHwIntfConfigMapEnableTrue
  | none => false

/-- The record that `ovsdb_if_intf_create` fills in. -/
def newPort (intf : OvsrecInterface) (subName : String) (yamlPort : YamlPort) : PmPort where
  inst := intf.name
  uuid := intf.uuid
  subsystem := subName
  hwEnable := ovsdbIfIntfGetHwEnable pf intf
  moduleDevice := yamlPort

def ovsdbIfIntfCreate (s : Pmd) (intf : OvsrecInterface) (subName : String) : Pmd :=
  let s := s.log [.intfCreate subName intf.name]
  match pmGetYamlPort s.yaml subName intf.name with
  | none => s
  | some yamlPort =>
    if !yamlPort.pluggable then s
    else
      let port := newPort pf intf subName yamlPort
      let (port, calls) := pmConfigurePort pf port
      ({ s with ovsIntfs := s.ovsIntfs.add port.inst port }).log (calls ++ pmClearReset port)

def ovsdbIfIntfModify (intf : OvsrecInterface) (port : PmPort) : PmPort × List Call :=
  let hwEnable := ovsdbIfIntfGetHwEnable pf intf
  if port.hwEnable ≠ hwEnable then pmConfigurePort pf { port with hwEnable := hwEnable }
  else (port, [])

def ovsdbIfIntfConfigure (s : Pmd) (intf : OvsrecInterface) : Pmd :=
  match s.ovsIntfs.find intf.name with
  | none => s
  | some port =>
    let (port, calls) := pmConfigurePort pf port
    ({ s with ovsIntfs := s.ovsIntfs.set intf.name port }).log calls

/-- One turn of the loop of `ovsdb_if_subsys_process`. -/
def createMissing (subName : String) (s : Pmd) (intf : OvsrecInterface) : Pmd :=
  match s.ovsIntfs.find intf.name with
  | none => ovsdbIfIntfCreate pf s intf subName
  | some _ => s

def ovsdbIfSubsysProcess (reads : YamlReads) (s : Pmd) (sub : OvsrecSubsystem) : Pmd :=
  match s.ovsSubs.find sub.name with
  | some _ => sub.interfaces.foldl (createMissing pf sub.name) s
  | none =>
    let s := ({ s with ovsSubs := s.ovsSubs.add sub.name sub.uuid }).log [.subsAdd sub.name]
    let (rc, s) := pmReadYamlFiles reads s sub
    if rc ≠ 0 then s
    else sub.interfaces.foldl (createMissing pf sub.name) s

/-! ## Reconfiguration -/

/-- The first loop of `pmd_reconfigure`. The node to delete is looked up by the name in the
record. -/
def deleteInterfaces (replica : Replica) (s : Pmd) : Pmd :=
  { s with
    ovsIntfs := s.ovsIntfs.foldl (fun intfs node =>
      if replica.interfaces.any (fun intf => intf.uuid = node.2.uuid) then intfs
      else Shash.delete intfs node.2.inst) s.ovsIntfs }

/-- The second loop of `pmd_reconfigure`. -/
def deleteSubsystems (replica : Replica) (s : Pmd) : Pmd :=
  { s with
    ovsSubs := s.ovsSubs.foldl (fun subs node =>
      if replica.subsystems.any (fun sub => sub.uuid = node.2) then subs
      else Shash.delete subs node.1) s.ovsSubs }

/-- One turn of the last loop of `pmd_reconfigure`. -/
def modifyInterface (s : Pmd) (intf : OvsrecInterface) : Pmd :=
  match s.ovsIntfs.find intf.name with
  | none => s
  | some port =>
    let (port, calls) := ovsdbIfIntfModify pf intf port
    ({ s with ovsIntfs := s.ovsIntfs.set intf.name port }).log calls

def pmdReconfigure (reads : YamlReads) (idl : Idl) (s : Pmd) : Pmd :=
  if idl.seqno = s.idlSeqno then s
  else
    let s := { s with idlSeqno := idl.seqno }
    let s := deleteSubsystems idl.replica (deleteInterfaces idl.replica s)
    let s := idl.replica.subsystems.foldl (ovsdbIfSubsysProcess pf reads) s
    idl.replica.interfaces.foldl (modifyInterface pf) s

def pmdConfigure (reads : YamlReads) (idl : Idl) (s : Pmd) : Pmd :=
  let s := idl.replica.subsystems.foldl (ovsdbIfSubsysProcess pf reads) s
  idl.replica.interfaces.foldl (ovsdbIfIntfConfigure pf) s

/-- `pm_ovsdb_if_init`, with the tables empty. -/
def pmOvsdbIfInit (reads : YamlReads) (idl : Idl) : Pmd :=
  pmdConfigure pf reads idl { idlSeqno := idl.seqno }

end Interfaces

def nameInDaemonTable : String := "ops-pmd"

/-- The map that `pm_ovsdb_update` builds of the columns that are set. -/
def pmInfoOf (columns : OvsModuleInfo) : PmInfo :=
  [("connector", ModuleColumn.connector), ("connector_status", .connectorStatus),
    ("supported_speeds", .supportedSpeeds), ("max_speed", .maxSpeed)].filterMap
    fun (key, field) => (columns field).map (fun value => (key, value))

/-- The loop body of `pm_ovsdb_update`: the port afterwards and the change of its row. -/
def publishPort (replica : Replica) (port : PmPort) : PmPort × Option (Uuid × PmInfo) :=
  if !replica.interfaces.any (fun intf => intf.uuid = port.uuid) then (port, none)
  else if !port.moduleInfoChanged then (port, none)
  else
    ({ port with moduleInfoChanged := false },
      some (port.uuid, pmInfoOf port.ovsModuleColumns))

/-- `pm_ovsdb_update`. Nothing depends on whether the transaction is committed. -/
def pmOvsdbUpdate (replica : Replica) (committed : Bool) (s : Pmd) : Pmd :=
  let setCurHw := !s.curHwSet && replica.daemons.any (fun row => row.name = nameInDaemonTable)
  let txn : Txn :=
    { pmInfo := s.ovsIntfs.filterMap (fun node : String × PmPort => (publishPort replica node.2).2)
      curHw := setCurHw }
  ({ s with
    ovsIntfs := s.ovsIntfs.map
      (fun node : String × PmPort => (node.1, (publishPort replica node.2).1))
    curHwSet := s.curHwSet || setCurHw }).log [.commitBlock txn committed]

/-- `pm_read_state`, with the answers of the hardware for each interface. -/
def pmReadState (pf : Platform) (hw : String → ScanHw) (s : Pmd) : Pmd :=
  ({ s with
    ovsIntfs := s.ovsIntfs.map
      (fun node : String × PmPort =>
        (node.1, (pmReadModuleState pf (hw node.1) node.2).port)) }).log
    (s.ovsIntfs.flatMap
      (fun node : String × PmPort => (pmReadModuleState pf (hw node.1) node.2).calls))

/-- What one turn of the main loop meets. -/
structure Pass where
  idl : Idl
  reads : YamlReads
  hw : String → ScanHw
  committed : Bool

def pmdRun (pf : Platform) (pass : Pass) (s : Pmd) : Pmd :=
  if pass.idl.lockContended then s
  else if !pass.idl.hasLock then s
  else
    let s := pmdReconfigure pf pass.reads pass.idl s
    let s := pmReadState pf pass.hw s
    pmOvsdbUpdate pass.idl.replica pass.committed s

/-! ## A small switch

One subsystem with a QSFP+ port `1`, an SFP+ port `2` and a copper jack `3` that takes no
module of a known kind. -/

namespace Switch

/-- Fixed point with two places, as printed by `%4.2f`. -/
def hundredths : FloatArith where
  F := Int
  ofInt n := 100 * n
  dec digits places := 100 * digits / 10 ^ places
  add := (· + ·)
  mul a b := a * b / 100
  eq a b := a = b
  fmt a := decimal (a / 100) ++ ".".toList ++ [Nat.digitChar (a % 100 / 10).toNat,
    Nat.digitChar (a % 10).toNat]

def platform : Platform := ⟨false, "enable", "true", hundredths⟩

def bitOp (address : UInt32) : BitOp := ⟨"cpld", address, 1⟩

def signals (address : UInt32) : ModuleSignals where
  sfp := ⟨some (bitOp address), some (bitOp (address + 1))⟩
  qsfp := ⟨some (bitOp address), some (bitOp (address + 1))⟩
  qsfp28 := ⟨some (bitOp address), some (bitOp (address + 1))⟩

def qsfpPort : YamlPort := ⟨"1", true, some connectorQsfpPlus, "eeprom1", signals 0x10⟩
def sfpPort : YamlPort := ⟨"2", true, some connectorSfpPlus, "eeprom2", signals 0x20⟩
def jackPort : YamlPort := ⟨"3", true, some "RJ45", "eeprom3", signals 0x30⟩

def intf (name : String) (uuid : Uuid) (enable : String) : OvsrecInterface :=
  ⟨uuid, name, [("enable", enable)]⟩

def ports : List YamlPort := [qsfpPort, sfpPort, jackPort]

/-- What reading all files of a subsystem without an error gives. -/
def reads : YamlReads := fun _ => ⟨0, 0, 0, ports⟩

/-- A QSFP+ module for 40G over long range. -/
def lr4Page : Page := Page.zero.set (3 : Fin 128) 0x02

/-- Every register shows a module and every serial-ID read gives the page. -/
def hwOf (page : Page) : ScanHw where
  modPresent := fun _ _ _ _ => ⟨0, 1⟩
  serialId := fun _ _ _ _ => ⟨0, page⟩
  dom := fun _ _ _ => ⟨0, Page.zero⟩

/-- The record of port `1` before its first scan. -/
def port1 : PmPort := newPort platform (intf "1" 1 "true") "base" qsfpPort

/-- The record of port `2` with its transmitter off. -/
def port2 : PmPort := newPort platform (intf "2" 1 "false") "base" sfpPort

def port3 : PmPort := newPort platform (intf "3" 1 "true") "base" jackPort

def base (interfaces : List OvsrecInterface) : OvsrecSubsystem := ⟨9, "base", "/etc", interfaces⟩

/-- One interface of the switch, in its only subsystem. -/
def single (i : OvsrecInterface) : Replica where
  interfaces := [i]
  subsystems := [base [i]]
  daemons := [⟨7, nameInDaemonTable⟩]
  uuid_nodup := by simp
  mem_interfaces := by simp [base]

def idlOf (i : OvsrecInterface) (seqno : UInt32) : Idl := { replica := single i, seqno := seqno }

end Switch

end OpsPmd
