import OpsPmd.MemorySafety
import OpsPmd.NullPointers

/-!
# The functions of the daemon on its memory

The functions of `ovsdb_access.c` and the loop over all ports of `plug.c`, on the process
instead of on the values: `ovs_intfs` maps a name to the address of a record and `ovs_subs`
one to the address of a uuid. A function that does not touch the strings of a record works
on the record as it is read from memory. A fault of any of them is `none`, be it an address
that is not allocated or a null pointer. What the external libraries make of a null operation
that the daemon hands to them without looking at it is not modelled.
-/

namespace OpsPmd

open Lib

/-- The static state of the daemon, with the memory that its tables point into. -/
structure Process where
  mem : Memory := Memory.empty
  uuids : Heap Uuid := Heap.empty
  ovsIntfs : Shash String ℕ := []
  ovsSubs : Shash String ℕ := []
  idlSeqno : UInt32 := 0
  curHwSet : Bool := false
  yaml : String → List YamlPort := fun _ => []
  calls : List Call := []

namespace Process

def log (p : Process) (calls : List Call) : Process := { p with calls := p.calls ++ calls }

/-- A function that reads the strings of a record at most, on the record at `a`. -/
def runOn (p : Process) (a : ℕ) (f : PmPort → Option (PmPort × List Call)) : Option Process := do
  let port ← p.mem.record a
  let (port, calls) ← f port
  let mem ← p.mem.update a fun _ => port.fields
  some (({ p with mem := mem } : Process).log calls)

/-- A function of `plug.c` that begins with `strcmp` on the connector of the port. -/
def guarded (f : PmPort → PmPort × List Call) (port : PmPort) : Option (PmPort × List Call) :=
  if port.moduleDevice.connector = none then none
  else if (f port).2.any Call.isNullDeref then none
  else some (f port)

def pmConfigurePort (pf : Platform) : PmPort → Option (PmPort × List Call) :=
  guarded (OpsPmd.pmConfigurePort pf)

def pmClearReset : PmPort → Option (PmPort × List Call) :=
  guarded fun port => (port, OpsPmd.pmClearReset port)

def ovsdbIfIntfModify (pf : Platform) (intf : OvsrecInterface) (port : PmPort) :
    Option (PmPort × List Call) :=
  let hwEnable := ovsdbIfIntfGetHwEnable pf intf
  if port.hwEnable ≠ hwEnable then pmConfigurePort pf { port with hwEnable := hwEnable }
  else some (port, [])

/-- `calloc`, and the assignments that follow it. -/
def newRecord (mem : Memory) (port : PmPort) : Memory where
  ports := mem.ports.alloc port.fields
  strings := (mem.strings.strdup (mem.ports.next, .inst) port.inst.toList).strdup
    (mem.ports.next, .subsystem) port.subsystem.toList

/-- `pmd_free_pm_port`, which forgets the name of the subsystem. -/
def pmdFreePmPort (fl : FloatArith) (mem : Memory) (a : ℕ) : Option Memory := do
  let mem ← (deleteAllDataScript fl).foldlM (Memory.exec a) mem
  let strings ← mem.strings.free (a, .inst)
  let ports ← mem.ports.free a
  some ⟨ports, strings⟩

section Interfaces

variable (pf : Platform)

def ovsdbIfIntfCreate (p : Process) (intf : OvsrecInterface) (subName : String) :
    Option Process :=
  let p := p.log [.intfCreate subName intf.name]
  match pmGetYamlPort p.yaml subName intf.name with
  | none => some p
  | some yamlPort =>
    if !yamlPort.pluggable then some p
    else do
      let a := p.mem.ports.next
      let p := { p with mem := newRecord p.mem (newPort pf intf subName yamlPort) }
      let key ← ← p.mem.strings.read (a, .inst)
      let p := { p with ovsIntfs := p.ovsIntfs.add (String.ofList key) a }
      let p ← p.runOn a (pmConfigurePort pf)
      p.runOn a pmClearReset

def createMissing (subName : String) (p : Process) (intf : OvsrecInterface) : Option Process :=
  match p.ovsIntfs.find intf.name with
  | none => p.ovsdbIfIntfCreate pf intf subName
  | some _ => some p

/-- `pm_read_yaml_files` -/
def pmReadYamlFiles (reads : YamlReads) (p : Process) (subsys : OvsrecSubsystem) :
    Int × Process :=
  let out := reads subsys
  let p := { p with yaml := Function.update p.yaml subsys.name out.ports }
  (out.rc, p.log (.readYamlFiles subsys.name out.rc ::
    if out.rc = 0 then [.yamlInitDevices subsys.name] else []))

def ovsdbIfSubsysProcess (reads : YamlReads) (p : Process) (sub : OvsrecSubsystem) :
    Option Process :=
  match p.ovsSubs.find sub.name with
  | some _ => sub.interfaces.foldlM (createMissing pf sub.name) p
  | none =>
    let a := p.uuids.next
    let p := ({ p with
      uuids := p.uuids.alloc sub.uuid
      ovsSubs := p.ovsSubs.add sub.name a } : Process).log [.subsAdd sub.name]
    let (rc, p) := pmReadYamlFiles reads p sub
    if rc ≠ 0 then some p
    else sub.interfaces.foldlM (createMissing pf sub.name) p

/-- A turn of the loop that deletes interfaces. The record that is freed is the one that the
table has for the name in the record. -/
def deleteInterface (replica : Replica) (p : Process) (node : String × ℕ) : Option Process := do
  let port ← p.mem.record node.2
  if replica.interfaces.any (fun intf => intf.uuid = port.uuid) then some p
  else
    let a ← p.ovsIntfs.find port.inst
    let mem ← pmdFreePmPort pf.float p.mem a
    some { p with mem := mem, ovsIntfs := p.ovsIntfs.delete port.inst }

/-- A turn of the loop that deletes subsystems. -/
def deleteSubsystem (replica : Replica) (p : Process) (node : String × ℕ) : Option Process := do
  let uuid ← p.uuids.block node.2
  if replica.subsystems.any (fun sub => sub.uuid = uuid) then some p
  else
    let _ ← p.ovsSubs.find node.1
    let uuids ← p.uuids.free node.2
    some { p with uuids := uuids, ovsSubs := p.ovsSubs.delete node.1 }

def modifyInterface (p : Process) (intf : OvsrecInterface) : Option Process :=
  match p.ovsIntfs.find intf.name with
  | none => some p
  | some a => p.runOn a (ovsdbIfIntfModify pf intf)

def pmdReconfigure (reads : YamlReads) (idl : Idl) (p : Process) : Option Process :=
  if idl.seqno = p.idlSeqno then some p
  else do
    let p := { p with idlSeqno := idl.seqno }
    let p ← p.ovsIntfs.foldlM (deleteInterface pf idl.replica) p
    let p ← p.ovsSubs.foldlM (deleteSubsystem idl.replica) p
    let p ← idl.replica.subsystems.foldlM (ovsdbIfSubsysProcess pf reads) p
    idl.replica.interfaces.foldlM (modifyInterface pf) p

end Interfaces

/-- `pm_read_module_state`. What it asks of the hardware does not depend on the columns. -/
def pmReadModuleState (pf : Platform) (hw : String → ScanHw) (p : Process) (node : String × ℕ) :
    Option Process := do
  let port ← p.mem.record node.2
  let (_, calls) ← guarded
    (fun port => (port, (OpsPmd.pmReadModuleState pf (hw node.1) port).calls)) port
  let connector := p.mem.strings.cell (node.2, .column .connector)
  let mem ← (readModuleStateScript pf (hw node.1) connector port).foldlM
    (Memory.exec node.2) p.mem
  some (({ p with mem := mem } : Process).log calls)

def pmReadState (pf : Platform) (hw : String → ScanHw) (p : Process) : Option Process :=
  p.ovsIntfs.foldlM (pmReadModuleState pf hw) p

/-- The keys of `pm_info` that `pm_ovsdb_update` fills in, with their columns. -/
def pmInfoKeys : List (String × ModuleColumn) :=
  [("connector", ModuleColumn.connector), ("connector_status", .connectorStatus),
    ("supported_speeds", .supportedSpeeds), ("max_speed", .maxSpeed)]

/-- The map that `pm_ovsdb_update` builds from the strings of the record at `a`. -/
def pmInfo (mem : Memory) (a : ℕ) : Option PmInfo := do
  let entries ← pmInfoKeys.mapM fun (key, field) =>
    (mem.strings.read (a, .column field)).map fun value => value.map fun text => (key, text)
  some entries.reduceOption

/-- The loop body of `pm_ovsdb_update`, with the changes of the transaction so far. -/
def publishPort (replica : Replica) (st : Memory × List (Uuid × PmInfo)) (node : String × ℕ) :
    Option (Memory × List (Uuid × PmInfo)) := do
  let port ← st.1.record node.2
  if !replica.interfaces.any (fun intf => intf.uuid = port.uuid) then some st
  else if !port.moduleInfoChanged then some st
  else
    let info ← pmInfo st.1 node.2
    let mem ← st.1.update node.2 fun fields => { fields with moduleInfoChanged := false }
    some (mem, st.2 ++ [(port.uuid, info)])

def pmOvsdbUpdate (replica : Replica) (committed : Bool) (p : Process) : Option Process := do
  let setCurHw := !p.curHwSet && replica.daemons.any (fun row => row.name = nameInDaemonTable)
  let (mem, pmInfo) ← p.ovsIntfs.foldlM (publishPort replica) (p.mem, [])
  some (({ p with mem := mem, curHwSet := p.curHwSet || setCurHw } : Process).log
    [.commitBlock ⟨pmInfo, setCurHw⟩ committed])

end Process

/-- The process with the IDL that the daemon saw last. -/
structure ProcessWorld where
  idl : Idl
  process : Process

def ProcessWorld.step (pf : Platform) (w : ProcessWorld) : Event → Option ProcessWorld
  | .reconfigure reads idl => (w.process.pmdReconfigure pf reads idl).map fun p => ⟨idl, p⟩
  | .readState hw => (w.process.pmReadState pf hw).map fun p => { w with process := p }
  | .update committed =>
    (w.process.pmOvsdbUpdate w.idl.replica committed).map fun p => { w with process := p }

/-- The process when the daemon has started, with nothing in its tables. -/
def ProcessWorld.start (seqno : UInt32) : ProcessWorld :=
  ⟨{ replica := Replica.empty, seqno := seqno }, { idlSeqno := seqno }⟩

end OpsPmd
