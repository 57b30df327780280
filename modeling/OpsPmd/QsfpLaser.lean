import OpsPmd.ControlWrites

/-!
# The lasers of QSFP modules

Byte 86 of a QSFP module holds a bit for each disabled laser. It is written when a setting
changes while an optical module is known to be present, and never when a module is
detected, so the setting that is in force at detection is not applied to the module.
-/

namespace OpsPmd

open Lib

/-- A plugged-in module: its serial-ID page, and the last value written to byte 86. -/
structure Module where
  page : Page
  lastWrite : Option UInt8 := none

/-- Byte 86, which holds 0x00 until it is written. -/
def Module.control (m : Module) : UInt8 := m.lastWrite.getD 0x00

/-- The daemon and the modules that are plugged in, by the devices that they answer as. -/
structure Bench where
  world : World
  slots : Eeprom → Option Module := fun _ => none

/-- What else is on the bus: the presence registers, and what is read where no module answers. -/
structure Bus where
  modPresent : String → Option BitOp → UInt32
  data : Eeprom → Nat → Page

/-- What is read from a device at an offset. -/
def Bench.data (b : Bench) (bus : Bus) (eeprom : Eeprom) (offset : Nat) : Page :=
  match b.slots eeprom with
  | some m => if offset = qsfpSerialIdOffset then m.page else bus.data eeprom offset
  | none => bus.data eeprom offset

/-- Reads succeed. -/
def Bench.hw (b : Bench) (bus : Bus) : ScanHw where
  modPresent := fun subsystem regOp _ _ => ⟨0, bus.modPresent subsystem regOp⟩
  serialId := fun subsystem device offset _ => ⟨0, b.data bus (subsystem, device) offset⟩
  dom := fun subsystem device _ => ⟨0, b.data bus (subsystem, device) 0⟩

inductive BenchEvent
  | insert (eeprom : Eeprom) (page : Page)
  | pass (idl : Idl) (reads : YamlReads) (bus : Bus) (committed : Bool)

def applyWrites (calls : List Call) (slots : Eeprom → Option Module) (eeprom : Eeprom) :
    Option Module :=
  (slots eeprom).map fun m =>
    { m with lastWrite := (Lib.lastWrite controlWrite eeprom calls).or m.lastWrite }

def benchPass (b : Bench) (idl : Idl) (reads : YamlReads) (bus : Bus) (committed : Bool) : Pass :=
  ⟨idl, reads, fun _ => b.hw bus, committed⟩

def benchStep (pf : Platform) (b : Bench) : BenchEvent → Bench
  | .insert eeprom page =>
    { b with slots := Function.update b.slots eeprom (some { page := page }) }
  | .pass idl reads bus committed =>
    let world := b.world.pass pf (benchPass b idl reads bus committed)
    ⟨world, applyWrites (newCalls b.world.pmd world.pmd) b.slots⟩

def Bench.start (pf : Platform) (reads : YamlReads) (seqno : UInt32) : Bench :=
  { world := World.start pf reads seqno }

/-- Rows only appear and change, the database keeps its promises, and the files say what is in
the set of descriptions. -/
def RowsAppear (describes : String → YamlPort → Prop) (b : Bench) : BenchEvent → Prop
  | .pass idl reads bus committed => (benchPass b idl reads bus committed).runs = true →
      Follows b.world.idl idl ∧ RowsStay b.world.idl.replica idl.replica ∧
        DescribedBy describes reads idl
  | _ => True

/-- At the end of a pass, the lasers of all modules that the daemon knows follow the rows of
the snapshot that the pass has processed. -/
def LasersFollow (pf : Platform) (b : Bench) : BenchEvent → Prop
  | .pass idl reads bus committed => (benchPass b idl reads bus committed).runs = true →
      ∀ name port m,
        (name, port) ∈ (benchStep pf b (.pass idl reads bus committed)).world.pmd.ovsIntfs →
        port.moduleDevice.isQsfp = true → port.present = true → port.optical = true →
        port.split = false →
        (benchStep pf b (.pass idl reads bus committed)).slots port.eeprom = some m →
        ∃ intf ∈ idl.replica.interfaces, intf.uuid = port.uuid ∧
          m.control = if ovsdbIfIntfGetHwEnable pf intf then 0x00 else 0x0f
  | _ => True

/-- What a pass must not meet. When it starts, a module that nobody has written to sits in a
port that is taken for a present optical one and whose setting is off, unless the new
snapshot turns it on. When it scans, an optical module sits in a port that has not been
identified and whose setting is off. -/
structure NoMissedModule (pf : Platform) (b : Bench) (idl : Idl) (reads : YamlReads) : Prop where
  replaced : ∀ name port m, (name, port) ∈ b.world.pmd.ovsIntfs → port.writable = true →
    port.hwEnable = false → b.slots port.eeprom = some m → m.lastWrite = none →
    ∀ intf ∈ idl.replica.interfaces, intf.uuid = port.uuid →
      ovsdbIfIntfGetHwEnable pf intf = true
  detected : ∀ name port m,
    (name, port) ∈ (pmdReconfigure pf reads idl b.world.pmd).ovsIntfs →
    port.moduleDevice.isQsfp = true → port.present = false → port.hwEnable = false →
    b.slots port.eeprom = some m → (pmParse m.page port).2.1.optical = false

def NothingMissed (pf : Platform) (b : Bench) : BenchEvent → Prop
  | .pass idl reads bus committed => (benchPass b idl reads bus committed).runs = true →
      NoMissedModule pf b idl reads
  | _ => True

/-- What holds between the events: the table is in order, no scan of a QSFP port is pending
a retry, and a module that has been written to carries the setting of its port. -/
structure LaserInv (describes : String → YamlPort → Prop) (pf : Platform) (b : Bench) : Prop where
  synced : Synced pf b.world
  origins : Origins describes b.world.pmd
  port : ∀ name port, (name, port) ∈ b.world.pmd.ovsIntfs →
    port.split = false ∧ (port.moduleDevice.isQsfp = true → port.retry = false)
  written : ∀ eeprom m v, b.slots eeprom = some m → m.lastWrite = some v →
    ∃ name port, (name, port) ∈ b.world.pmd.ovsIntfs ∧ port.eeprom = eeprom ∧
      port.writable = true ∧ v = controlByte port.hwEnable

lemma laserInv_start (describes : String → YamlPort → Prop) (pf : Platform) (reads : YamlReads)
    (seqno : UInt32) : LaserInv describes pf (Bench.start pf reads seqno) where
  synced := synced_start pf reads seqno
  origins := origins_start pf reads seqno
  port := by simp [Bench.start, pmd_start]
  written := by simp [Bench.start]

lemma laserInv_insert {describes : String → YamlPort → Prop} {pf : Platform} {b : Bench}
    (h : LaserInv describes pf b) (eeprom : Eeprom) (page : Page) :
    LaserInv describes pf (benchStep pf b (.insert eeprom page)) where
  synced := h.synced
  origins := h.origins
  port := h.port
  written := by
    intro eeprom' m v hm hv
    have hm' : Function.update b.slots eeprom (some { page := page }) eeprom' = some m := hm
    by_cases heeprom : eeprom' = eeprom
    · subst heeprom
      rw [Function.update_self] at hm'
      rw [← Option.some.inj hm'] at hv
      exact absurd hv (by simp)
    · rw [Function.update_of_ne heeprom] at hm'
      exact h.written eeprom' m v hm' hv

/-! ## One pass -/

section Pass

variable {describes : String → YamlPort → Prop} {pf : Platform} {b : Bench} {idl : Idl}
  {reads : YamlReads} {bus : Bus} {committed : Bool}

lemma serialIdOffset_of_isQsfp {device : YamlPort} (h : device.isQsfp = true) :
    serialIdOffset device = qsfpSerialIdOffset := by
  unfold serialIdOffset
  rw [if_neg]
  intro hsfp
  rw [not_isQsfp_of_sfpPlus hsfp] at h
  contradiction

/-- The page that a scan of a QSFP port reads. -/
def Bench.page (b : Bench) (bus : Bus) (eeprom : Eeprom) : Page :=
  b.data bus eeprom qsfpSerialIdOffset

lemma pmReadA0_bench (hhw : pf.simulation = false) {port : PmPort}
    (hq : port.moduleDevice.isQsfp = true) :
    (pmReadA0 pf (b.hw bus) 0 port).1.data = b.page bus port.eeprom := by
  unfold pmReadA0 Bench.hw
  simp only [hhw, Bool.false_eq_true, if_false]
  rw [serialIdOffset_of_isQsfp hq]
  rfl

lemma Bench.page_of_slots {eeprom : Eeprom} {m : Module} (hm : b.slots eeprom = some m) :
    b.page bus eeprom = m.page := by
  unfold Bench.page Bench.data
  rw [hm]
  exact if_pos rfl

variable (bus) in
/-- The record of a QSFP port after the scan and the publication of the pass. -/
lemma record_scanned (hhw : pf.simulation = false) (replica : Replica)
    {port port' : PmPort} (hq : port.moduleDevice.isQsfp = true) (hretry : port.retry = false)
    (hport' : port' = (publishPort replica (pmReadModuleState pf (b.hw bus) port).port).1) :
    port'.config = port.config ∧ port'.present = true ∧ port'.retry = false ∧
    port'.optical = if port.present then port.optical
      else (pmParse (b.page bus port.eeprom) port).2.1.optical := by
  have hk : port.moduleDevice.isKnown = true := by simp [YamlPort.isKnown, hq]
  have hr := record_publishPort replica (pmReadModuleState pf (b.hw bus) port).port
  rw [← hport'] at hr
  have hc := config_publishPort replica (pmReadModuleState pf (b.hw bus) port).port
  rw [← hport', config_pmReadModuleState] at hc
  rw [pmReadModuleState_eq pf (b.hw bus) hk] at hr
  cases hp : port.present with
  | true =>
    have hu : port.unread = false := by simp [PmPort.unread, hp, hretry]
    rw [if_neg (by simp [hu])] at hr
    exact ⟨hc, (congrArg PmPort.Record.present hr).trans hp,
      (congrArg PmPort.Record.retry hr).trans hretry, congrArg PmPort.Record.optical hr⟩
  | false =>
    have hu : port.unread = true := by simp [PmPort.unread, hp]
    rw [if_pos hu, pmReadA0_bench hhw hq] at hr
    obtain ⟨hpresent, hretry'⟩ := present_identified (b.page bus port.eeprom) port
    refine ⟨hc, (congrArg PmPort.Record.present hr).trans hpresent,
      (congrArg PmPort.Record.retry hr).trans hretry', ?_⟩
    exact (congrArg PmPort.Record.optical hr).trans (optical_identified _ port)

lemma mem_pass (hruns : (benchPass b idl reads bus committed).runs = true) {name : String}
    {port' : PmPort} :
    (name, port') ∈ (benchStep pf b (.pass idl reads bus committed)).world.pmd.ovsIntfs ↔
      ∃ port, (name, port) ∈ (pmdReconfigure pf reads idl b.world.pmd).ovsIntfs ∧
        port' = (publishPort idl.replica (pmReadModuleState pf (b.hw bus) port).port).1 := by
  have hworld : (benchStep pf b (.pass idl reads bus committed)).world =
      b.world.pass pf (benchPass b idl reads bus committed) := rfl
  rw [hworld, pass_of_runs pf b.world hruns]
  constructor
  · intro hmem
    obtain ⟨scanned, hscanned, rfl⟩ := Shash.mem_map.mp hmem
    obtain ⟨port, hport, rfl⟩ := Shash.mem_map.mp hscanned
    exact ⟨port, hport, rfl⟩
  · rintro ⟨port, hport, rfl⟩
    exact Shash.mem_map.mpr ⟨_, Shash.mem_map.mpr ⟨port, hport, rfl⟩, rfl⟩

/-- Only the reconfiguration writes to modules. -/
lemma slots_pass (hruns : (benchPass b idl reads bus committed).runs = true)
    (hcalls : (pmdReconfigure pf reads idl b.world.pmd).calls =
      b.world.pmd.calls ++ newCalls b.world.pmd (pmdReconfigure pf reads idl b.world.pmd)) :
    (benchStep pf b (.pass idl reads bus committed)).slots =
      applyWrites (newCalls b.world.pmd (pmdReconfigure pf reads idl b.world.pmd)) b.slots := by
  obtain ⟨rest, hrest, hquiet⟩ : ∃ rest,
      (b.world.pass pf (benchPass b idl reads bus committed)).pmd.calls =
        (pmdReconfigure pf reads idl b.world.pmd).calls ++ rest ∧
      ∀ call ∈ rest, controlWrite call = none := by
    rw [pass_of_runs pf b.world hruns]
    refine ⟨_, List.append_assoc _ _ _, ?_⟩
    intro call hcall
    rcases List.mem_append.mp hcall with hscan | hcommit
    · exact controlWrite_of_not_isWrite (quiet_scanCalls hscan).2
    · rw [List.mem_singleton.mp hcommit]
      rfl
  have hnew : newCalls b.world.pmd (b.world.pass pf (benchPass b idl reads bus committed)).pmd =
      newCalls b.world.pmd (pmdReconfigure pf reads idl b.world.pmd) ++ rest := by
    apply newCalls_eq
    rw [hrest, hcalls, List.append_assoc]
  funext eeprom
  show applyWrites (newCalls b.world.pmd
    (b.world.pass pf (benchPass b idl reads bus committed)).pmd) b.slots eeprom = _
  unfold applyWrites
  rw [hnew, lastWrite_append_of_forall]
  intro call hcall data
  rw [hquiet call hcall]
  simp

/-- The three records of a node: before the pass, after the reconfiguration, and at the end. -/
structure Traced (pf : Platform) (b : Bench) (idl : Idl) (reads : YamlReads)
    (bus : Bus) (name : String) (port port₁ port' : PmPort) : Prop where
  before : (name, port) ∈ b.world.pmd.ovsIntfs ∨
    (name ∉ b.world.pmd.ovsIntfs.keys ∧ Fresh port)
  reconfigured : (name, port₁) ∈ (pmdReconfigure pf reads idl b.world.pmd).ovsIntfs
  setting : port₁ = { port with hwEnable := port₁.hwEnable }
  write : port.moduleDevice.isQsfp = true → lastWrite controlWrite port.eeprom
      (newCalls b.world.pmd (pmdReconfigure pf reads idl b.world.pmd)) =
    if port.writable = true ∧ port.hwEnable ≠ port₁.hwEnable
    then some (controlByte port₁.hwEnable) else none
  split : port.split = false
  config : port'.config = port₁.config
  scanned : port.moduleDevice.isQsfp = true → port'.present = true ∧ port'.retry = false ∧
    port'.optical = if port.present then port.optical
      else (pmParse (b.page bus port.eeprom) port₁).2.1.optical

lemma Traced.moduleDevice₁ {name : String} {port port₁ port' : PmPort}
    (ht : Traced pf b idl reads bus name port port₁ port') :
    port₁.moduleDevice = port.moduleDevice := by rw [ht.setting]

lemma Traced.moduleDevice {name : String} {port port₁ port' : PmPort}
    (ht : Traced pf b idl reads bus name port port₁ port') :
    port'.moduleDevice = port.moduleDevice :=
  (congrArg PmPort.Config.moduleDevice ht.config).trans ht.moduleDevice₁

lemma Traced.eeprom₁ {name : String} {port port₁ port' : PmPort}
    (ht : Traced pf b idl reads bus name port port₁ port') : port₁.eeprom = port.eeprom := by
  rw [ht.setting]
  rfl

lemma Traced.eeprom {name : String} {port port₁ port' : PmPort}
    (ht : Traced pf b idl reads bus name port port₁ port') : port'.eeprom = port.eeprom := by
  have hsub : port'.subsystem = port₁.subsystem := congrArg PmPort.Config.subsystem ht.config
  have hdevice : port'.moduleDevice = port₁.moduleDevice :=
    congrArg PmPort.Config.moduleDevice ht.config
  rw [← ht.eeprom₁]
  unfold PmPort.eeprom
  rw [hsub, hdevice]

variable (bus) in
lemma traced (hhw : pf.simulation = false) (h : LaserInv describes pf b)
    (hr : Reconfigured describes b.world.pmd (pmdReconfigure pf reads idl b.world.pmd))
    {name : String} {port₁ : PmPort}
    (hmem : (name, port₁) ∈ (pmdReconfigure pf reads idl b.world.pmd).ovsIntfs) :
    ∃ port, Traced pf b idl reads bus name port port₁
      (publishPort idl.replica (pmReadModuleState pf (b.hw bus) port₁).port).1 := by
  obtain ⟨port, hbefore, hsetting, hwrite⟩ := hr.node name port₁ hmem
  have hport : port.split = false ∧ (port.moduleDevice.isQsfp = true → port.retry = false) := by
    rcases hbefore with hold | ⟨-, hfresh⟩
    · exact h.port name port hold
    · exact ⟨hfresh.split, fun _ => hfresh.retry⟩
  have hsplit : port₁.split = false := by
    rw [hsetting]
    exact hport.1
  have heeprom : port₁.eeprom = port.eeprom := by
    rw [hsetting]
    rfl
  have hc : (publishPort idl.replica (pmReadModuleState pf (b.hw bus) port₁).port).1.config =
      port₁.config := (config_publishPort _ _).trans (config_pmReadModuleState _ _ _)
  refine ⟨port, hbefore, hmem, hsetting, fun hq => ?_, hport.1, hc, fun hq => ?_⟩
  · rw [hwrite hq, qsfpDisableData_of_not_split hsplit]
  · have hq₁ : port₁.moduleDevice.isQsfp = true := by
      rw [hsetting]
      exact hq
    have hretry₁ : port₁.retry = false := by
      rw [hsetting]
      exact hport.2 hq
    obtain ⟨-, hpresent, hretry, hoptical⟩ := record_scanned bus hhw idl.replica hq₁ hretry₁ rfl
    refine ⟨hpresent, hretry, hoptical.trans ?_⟩
    have hp : port₁.present = port.present := by rw [hsetting]
    have ho : port₁.optical = port.optical := by rw [hsetting]
    rw [hp, ho, heeprom]

variable (bus) in
lemma exists_traced_of_mem (hhw : pf.simulation = false) (h : LaserInv describes pf b)
    (hr : Reconfigured describes b.world.pmd (pmdReconfigure pf reads idl b.world.pmd))
    {name : String} {port : PmPort} (hmem : (name, port) ∈ b.world.pmd.ovsIntfs) :
    ∃ port₁, Traced pf b idl reads bus name port port₁
      (publishPort idl.replica (pmReadModuleState pf (b.hw bus) port₁).port).1 := by
  obtain ⟨port₁, hmem₁⟩ := Shash.mem_keys.mp (hr.old name (Shash.mem_keys_of_mem hmem))
  obtain ⟨port₀, ht⟩ := traced bus hhw h hr hmem₁
  have hsame : port₀ = port := by
    rcases ht.before with hold | ⟨hno, -⟩
    · exact Shash.eq_of_mem_of_nodup h.synced.table.nodup hold hmem
    · exact absurd (Shash.mem_keys_of_mem hmem) hno
  subst hsame
  exact ⟨port₁, ht⟩

/-- The module in the cage after the pass carries the write of the pass, or what it carried. -/
lemma lastWrite_of_slots {slots : Eeprom → Option Module} {calls : List Call} {eeprom : Eeprom}
    {m' : Module} (hm' : applyWrites calls slots eeprom = some m') :
    ∃ m, slots eeprom = some m ∧ m'.page = m.page ∧
      m'.lastWrite = (lastWrite controlWrite eeprom calls).or m.lastWrite := by
  obtain ⟨m, hm, rfl⟩ := Option.map_eq_some_iff.mp hm'
  exact ⟨m, hm, rfl, rfl⟩

lemma writable_of_traced {name : String} {port port₁ port' : PmPort}
    (ht : Traced pf b idl reads bus name port port₁ port') (h : port.writable = true) :
    port'.writable = true ∧ port'.hwEnable = port₁.hwEnable := by
  simp only [PmPort.writable, Bool.and_eq_true] at h ⊢
  obtain ⟨⟨hq, hp⟩, ho⟩ := h
  obtain ⟨hpresent, -, hoptical⟩ := ht.scanned hq
  rw [hp, if_pos rfl] at hoptical
  exact ⟨⟨⟨ht.moduleDevice ▸ hq, hpresent⟩, hoptical.trans ho⟩,
    congrArg PmPort.Config.hwEnable ht.config⟩

lemma laserInv_pass (hhw : pf.simulation = false) (h : LaserInv describes pf b)
    (hruns : (benchPass b idl reads bus committed).runs = true) (hf : Follows b.world.idl idl)
    (hdesc : DescribedBy describes reads idl)
    (hr : Reconfigured describes b.world.pmd (pmdReconfigure pf reads idl b.world.pmd)) :
    LaserInv describes pf (benchStep pf b (.pass idl reads bus committed)) := by
  refine ⟨synced_pass h.synced fun _ => hf, origins_pass h.origins fun _ => hdesc, ?_, ?_⟩
  · intro name port' hmem
    obtain ⟨port₁, hmem₁, rfl⟩ := (mem_pass hruns).mp hmem
    obtain ⟨port, ht⟩ := traced bus hhw h hr hmem₁
    have hsplit : port₁.split = false := by
      rw [ht.setting]
      exact ht.split
    refine ⟨(congrArg PmPort.Config.split ht.config).trans hsplit, fun hq => ?_⟩
    rw [ht.moduleDevice] at hq
    exact (ht.scanned hq).2.1
  · intro eeprom m' v hm' hv
    rw [slots_pass hruns hr.calls] at hm'
    obtain ⟨m, hm, -, hlast⟩ := lastWrite_of_slots hm'
    cases hw : lastWrite controlWrite eeprom
        (newCalls b.world.pmd (pmdReconfigure pf reads idl b.world.pmd)) with
    | some v' =>
      -- the pass wrote, so the device is that of a node of the reconfiguration
      have hcage : HasCage (pmdReconfigure pf reads idl b.world.pmd) eeprom := by
        by_contra hno
        rw [hr.other eeprom hno] at hw
        exact absurd hw (by simp)
      obtain ⟨name, port₁, hmem₁, hq₁, rfl⟩ := hcage
      obtain ⟨port, ht⟩ := traced bus hhw h hr hmem₁
      have hwrite := ht.write (ht.moduleDevice₁ ▸ hq₁)
      rw [ht.eeprom₁] at hw
      rw [ht.eeprom₁, hw] at hlast
      rw [hw] at hwrite
      split at hwrite
      · rename_i hcond
        obtain ⟨hwritable, hen⟩ := writable_of_traced ht hcond.1
        have hvv' : v = v' := Option.some.inj (hv.symm.trans hlast)
        refine ⟨name, _, (mem_pass hruns).mpr ⟨port₁, hmem₁, rfl⟩,
          ht.eeprom.trans ht.eeprom₁.symm, hwritable, ?_⟩
        rw [hen, hvv']
        exact Option.some.inj hwrite
      · exact absurd hwrite (by simp)
    | none =>
      rw [hw, Option.none_or] at hlast
      obtain ⟨name, port, hport, rfl, hwritable, rfl⟩ :=
        h.written eeprom m v hm (hlast.symm.trans hv)
      obtain ⟨port₁, ht⟩ := exists_traced_of_mem bus hhw h hr hport
      obtain ⟨hwritable', hen⟩ := writable_of_traced ht hwritable
      have hwrite := ht.write (isQsfp_of_writable hwritable)
      rw [hw] at hwrite
      refine ⟨name, _, (mem_pass hruns).mpr ⟨port₁, ht.reconfigured, rfl⟩, ht.eeprom,
        hwritable', ?_⟩
      split at hwrite
      · exact absurd hwrite (by simp)
      · rename_i hcond
        have hkept : port.hwEnable = port₁.hwEnable := by
          by_contra hne
          exact hcond ⟨hwritable, hne⟩
        rw [hen, hkept]

lemma idl_pass (hruns : (benchPass b idl reads bus committed).runs = true) :
    (benchStep pf b (.pass idl reads bus committed)).world.idl = idl := by
  show (if (benchPass b idl reads bus committed).runs then idl else b.world.idl) = idl
  rw [if_pos hruns]

lemma hwEnable_pass (h : LaserInv describes pf (benchStep pf b (.pass idl reads bus committed)))
    (hruns : (benchPass b idl reads bus committed).runs = true) {name : String} {port' : PmPort}
    (hmem : (name, port') ∈ (benchStep pf b (.pass idl reads bus committed)).world.pmd.ovsIntfs)
    {intf : OvsrecInterface} (hintf : intf ∈ idl.replica.interfaces)
    (huuid : intf.uuid = port'.uuid) : port'.hwEnable = ovsdbIfIntfGetHwEnable pf intf := by
  refine hwEnable_of_uuid h.synced hmem ?_ huuid
  rw [idl_pass hruns]
  exact hintf

lemma old_of_present {name : String} {port port₁ port' : PmPort}
    (ht : Traced pf b idl reads bus name port port₁ port') (hp : port.present = true) :
    (name, port) ∈ b.world.pmd.ovsIntfs := by
  rcases ht.before with hold | ⟨-, hfresh⟩
  · exact hold
  · rw [hfresh.present] at hp
    contradiction

/-- The node that accounts for a written module is the one that the trace starts from. -/
lemma written_of_traced (hhw : pf.simulation = false) (hcaged : Caged describes)
    (h : LaserInv describes pf b)
    (hr : Reconfigured describes b.world.pmd (pmdReconfigure pf reads idl b.world.pmd))
    {name : String} {port port₁ port' : PmPort}
    (ht : Traced pf b idl reads bus name port port₁ port')
    (hq : port.moduleDevice.isQsfp = true) {m : Module} {v : UInt8}
    (hm : b.slots port.eeprom = some m) (hv : m.lastWrite = some v) :
    port.writable = true ∧ v = controlByte port.hwEnable := by
  obtain ⟨name₀, old, hold, heeprom, hwritable, hbyte⟩ := h.written port.eeprom m v hm hv
  obtain ⟨old₁, ht₀⟩ := exists_traced_of_mem bus hhw h hr hold
  -- both nodes are in the table after the reconfiguration, with the same device
  have hname : name₀ = name := by
    refine hr.origins.name_eq hcaged ht₀.reconfigured ht.reconfigured ?_ ?_ ?_
    · rw [ht₀.moduleDevice₁]
      exact isQsfp_of_writable hwritable
    · rw [ht.moduleDevice₁]
      exact hq
    · rw [ht₀.eeprom₁, ht.eeprom₁, heeprom]
  subst hname
  rcases ht.before with hmem | ⟨hno, -⟩
  · rw [Shash.eq_of_mem_of_nodup h.synced.table.nodup hmem hold]
    exact ⟨hwritable, hbyte⟩
  · exact absurd (Shash.mem_keys_of_mem hold) hno

/-- Without a missed module, every module ends up with the byte that its port asks for. -/
lemma control_of_noMissedModule (hhw : pf.simulation = false) (hcaged : Caged describes)
    (h : LaserInv describes pf b)
    (hr : Reconfigured describes b.world.pmd (pmdReconfigure pf reads idl b.world.pmd))
    (hinv' : LaserInv describes pf (benchStep pf b (.pass idl reads bus committed)))
    (hruns : (benchPass b idl reads bus committed).runs = true)
    (hno : NoMissedModule pf b idl reads)
    {name : String} {port port₁ port' : PmPort}
    (ht : Traced pf b idl reads bus name port port₁ port')
    (hmem' : (name, port') ∈ (benchStep pf b (.pass idl reads bus committed)).world.pmd.ovsIntfs)
    (hq : port.moduleDevice.isQsfp = true) (hoptical : port'.optical = true) {m m' : Module}
    (hm : b.slots port.eeprom = some m)
    (hlast : m'.lastWrite = (lastWrite controlWrite port.eeprom
      (newCalls b.world.pmd (pmdReconfigure pf reads idl b.world.pmd))).or m.lastWrite) :
    m'.control = controlByte port'.hwEnable := by
  have hen : port'.hwEnable = port₁.hwEnable := congrArg PmPort.Config.hwEnable ht.config
  have hwrite := ht.write hq
  rw [hen]
  unfold Module.control
  rw [hlast]
  split at hwrite
  · rw [hwrite]
    rfl
  rename_i hcond
  rw [hwrite, Option.none_or]
  cases hv : m.lastWrite with
  | some v =>
    obtain ⟨hwritable, hbyte⟩ := written_of_traced hhw hcaged h hr ht hq hm hv
    have hkept : port.hwEnable = port₁.hwEnable := by
      by_contra hne
      exact hcond ⟨hwritable, hne⟩
    rw [← hkept, hbyte]
    rfl
  | none =>
    cases hoff : port₁.hwEnable with
    | true => rfl
    | false =>
      -- a module that nobody has written to, in a port that is to be off, has been missed
      exfalso
      obtain ⟨-, -, hscanned⟩ := ht.scanned hq
      cases hp : port.present with
      | true =>
        rw [hp, if_pos rfl, hoptical] at hscanned
        have hwritable : port.writable = true := by simp [PmPort.writable, hq, hp, ← hscanned]
        have hkept : port.hwEnable = false := by
          by_contra hne
          exact hcond ⟨hwritable, by rw [hoff]; exact hne⟩
        obtain ⟨row, hrow, -, huuid⟩ := hinv'.synced.table.row name port' hmem'
        rw [idl_pass hruns] at hrow
        have huuid' : port'.uuid = port.uuid := by
          have h₁ : port₁.uuid = port.uuid := by rw [ht.setting]
          exact (congrArg PmPort.Config.uuid ht.config).trans h₁
        have hon := hno.replaced name port m (old_of_present ht hp) hwritable hkept hm hv row hrow
          (huuid.trans huuid')
        rw [← hwEnable_pass hinv' hruns hmem' hrow huuid, hen, hoff] at hon
        contradiction
      | false =>
        rw [hp, if_neg (by decide), hoptical] at hscanned
        have hpage : b.page bus port.eeprom = m.page := Bench.page_of_slots hm
        have hq₁ : port₁.moduleDevice.isQsfp = true := ht.moduleDevice₁ ▸ hq
        have hp₁ : port₁.present = false := by
          rw [ht.setting]
          exact hp
        have hdark := hno.detected name port₁ m ht.reconfigured hq₁ hp₁ hoff (ht.eeprom₁ ▸ hm)
        rw [hpage, hdark] at hscanned
        contradiction

/-- A module that nobody has written to, in a port that is off, breaks the property. -/
lemma not_lasersFollow (h : LaserInv describes pf (benchStep pf b (.pass idl reads bus committed)))
    (hruns : (benchPass b idl reads bus committed).runs = true)
    (hcalls : (pmdReconfigure pf reads idl b.world.pmd).calls =
      b.world.pmd.calls ++ newCalls b.world.pmd (pmdReconfigure pf reads idl b.world.pmd))
    {name : String} {port' : PmPort} {m : Module}
    (hmem' : (name, port') ∈ (benchStep pf b (.pass idl reads bus committed)).world.pmd.ovsIntfs)
    (hwritable : port'.writable = true) (hoff : port'.hwEnable = false)
    (hm : b.slots port'.eeprom = some m) (hnone : m.lastWrite = none)
    (hquiet : lastWrite controlWrite port'.eeprom
      (newCalls b.world.pmd (pmdReconfigure pf reads idl b.world.pmd)) = none) :
    ¬ LasersFollow pf b (.pass idl reads bus committed) := by
  intro hfollow
  simp only [PmPort.writable, Bool.and_eq_true] at hwritable
  obtain ⟨⟨hq, hp⟩, ho⟩ := hwritable
  have hm' : (benchStep pf b (.pass idl reads bus committed)).slots port'.eeprom =
      some { m with lastWrite := none } := by
    rw [slots_pass hruns hcalls]
    unfold applyWrites
    rw [hm, hquiet, Option.map_some, hnone]
    rfl
  obtain ⟨intf, hintf, huuid, hcontrol⟩ := hfollow hruns name port' _ hmem' hq hp ho
    (h.port name port' hmem').1 hm'
  have hzero : ({ m with lastWrite := none } : Module).control = 0x00 := rfl
  rw [← hwEnable_pass h hruns hmem' hintf huuid, hoff, hzero] at hcontrol
  exact absurd hcontrol (by decide)

/-- A pass after which the lasers follow has started without a replaced module. -/
lemma replaced_of_lasersFollow (hhw : pf.simulation = false) (h : LaserInv describes pf b)
    (hr : Reconfigured describes b.world.pmd (pmdReconfigure pf reads idl b.world.pmd))
    (hinv' : LaserInv describes pf (benchStep pf b (.pass idl reads bus committed)))
    (hruns : (benchPass b idl reads bus committed).runs = true)
    (hfollow : LasersFollow pf b (.pass idl reads bus committed)) {name : String} {port : PmPort}
    {m : Module} (hmem : (name, port) ∈ b.world.pmd.ovsIntfs) (hwritable : port.writable = true)
    (hoff : port.hwEnable = false) (hm : b.slots port.eeprom = some m)
    (hnone : m.lastWrite = none)
    {intf : OvsrecInterface} (hintf : intf ∈ idl.replica.interfaces)
    (huuid : intf.uuid = port.uuid) : ovsdbIfIntfGetHwEnable pf intf = true := by
  by_contra hon
  have hdark : ovsdbIfIntfGetHwEnable pf intf = false := by simpa using hon
  obtain ⟨port₁, ht⟩ := exists_traced_of_mem bus hhw h hr hmem
  obtain ⟨hwritable', hen⟩ := writable_of_traced ht hwritable
  have hmem' := (mem_pass hruns).mpr ⟨port₁, ht.reconfigured, rfl⟩
  have h₁ : port₁.uuid = port.uuid := by rw [ht.setting]
  have huuid' := (congrArg PmPort.Config.uuid ht.config).trans h₁
  have hoff' := (hwEnable_pass hinv' hruns hmem' hintf (huuid.trans huuid'.symm)).trans hdark
  have hquiet := ht.write (isQsfp_of_writable hwritable)
  rw [if_neg fun hc => hc.2 (hoff.trans (hen.symm.trans hoff').symm), ← ht.eeprom] at hquiet
  rw [← ht.eeprom] at hm
  exact not_lasersFollow hinv' hruns hr.calls hmem' hwritable' hoff' hm hnone hquiet hfollow

/-- A pass after which the lasers follow has detected no optical module that is to be off. -/
lemma detected_of_lasersFollow (hhw : pf.simulation = false) (hcaged : Caged describes)
    (h : LaserInv describes pf b)
    (hr : Reconfigured describes b.world.pmd (pmdReconfigure pf reads idl b.world.pmd))
    (hinv' : LaserInv describes pf (benchStep pf b (.pass idl reads bus committed)))
    (hruns : (benchPass b idl reads bus committed).runs = true)
    (hfollow : LasersFollow pf b (.pass idl reads bus committed)) {name : String} {port₁ : PmPort}
    {m : Module} (hmem₁ : (name, port₁) ∈ (pmdReconfigure pf reads idl b.world.pmd).ovsIntfs)
    (hq₁ : port₁.moduleDevice.isQsfp = true) (hp₁ : port₁.present = false)
    (hoff : port₁.hwEnable = false) (hm : b.slots port₁.eeprom = some m) :
    (pmParse m.page port₁).2.1.optical = false := by
  by_contra hlit
  have hlit' : (pmParse m.page port₁).2.1.optical = true := by simpa using hlit
  obtain ⟨port, ht⟩ := traced bus hhw h hr hmem₁
  have hmem' := (mem_pass hruns).mpr ⟨port₁, hmem₁, rfl⟩
  rw [ht.eeprom₁] at hm
  have hp : port.present = false := by
    have h₁ : port₁.present = port.present := by rw [ht.setting]
    exact h₁.symm.trans hp₁
  have hq : port.moduleDevice.isQsfp = true := ht.moduleDevice₁ ▸ hq₁
  have hnot : port.writable = false := by simp [PmPort.writable, hp]
  have hcond : ¬(port.writable = true ∧ port.hwEnable ≠ port₁.hwEnable) := by simp [hnot]
  have hquiet := ht.write hq
  rw [if_neg hcond, ← ht.eeprom] at hquiet
  have hnone : m.lastWrite = none := by
    cases hv : m.lastWrite with
    | none => rfl
    | some v =>
      have hw := (written_of_traced hhw hcaged h hr ht hq hm hv).1
      rw [hnot] at hw
      contradiction
  obtain ⟨hpresent', -, hoptical'⟩ := ht.scanned hq
  have hpage : b.page bus port.eeprom = m.page := Bench.page_of_slots hm
  rw [hp, if_neg (by decide), hpage, hlit'] at hoptical'
  have hwritable' : PmPort.writable
      (publishPort idl.replica (pmReadModuleState pf (b.hw bus) port₁).port).1 = true := by
    simp [PmPort.writable, ht.moduleDevice, hq, hpresent', hoptical']
  have hen := congrArg PmPort.Config.hwEnable ht.config
  rw [← ht.eeprom] at hm
  exact not_lasersFollow hinv' hruns hr.calls hmem' hwritable' (hen.trans hoff) hm hnone hquiet
    hfollow

lemma lasersFollow_iff (hhw : pf.simulation = false) (hcaged : Caged describes)
    (h : LaserInv describes pf b)
    (hr : Reconfigured describes b.world.pmd (pmdReconfigure pf reads idl b.world.pmd))
    (hinv' : LaserInv describes pf (benchStep pf b (.pass idl reads bus committed)))
    (hruns : (benchPass b idl reads bus committed).runs = true) :
    LasersFollow pf b (.pass idl reads bus committed) ↔ NoMissedModule pf b idl reads := by
  constructor
  · intro hfollow
    constructor
    · intro name port m hmem hwritable hoff hm hnone intf hintf huuid
      exact replaced_of_lasersFollow hhw h hr hinv' hruns hfollow hmem hwritable hoff hm hnone
        hintf huuid
    · intro name port₁ m hmem₁ hq₁ hp₁ hoff hm
      exact detected_of_lasersFollow hhw hcaged h hr hinv' hruns hfollow hmem₁ hq₁ hp₁ hoff hm
  · intro hno _ name port' m' hmem' hq' _ hoptical _ hm'
    obtain ⟨port₁, hmem₁, rfl⟩ := (mem_pass hruns).mp hmem'
    obtain ⟨port, ht⟩ := traced bus hhw h hr hmem₁
    have hm'' : applyWrites (newCalls b.world.pmd (pmdReconfigure pf reads idl b.world.pmd))
        b.slots port.eeprom = some m' := by
      rw [← slots_pass hruns hr.calls, ← ht.eeprom]
      exact hm'
    obtain ⟨m, hm, -, hlast⟩ := lastWrite_of_slots hm''
    obtain ⟨row, hrow, -, huuid⟩ := hinv'.synced.table.row name _ hmem'
    rw [idl_pass hruns] at hrow
    refine ⟨row, hrow, huuid, ?_⟩
    rw [← hwEnable_pass hinv' hruns hmem' hrow huuid]
    exact control_of_noMissedModule hhw hcaged h hr hinv' hruns hno ht hmem'
      (ht.moduleDevice ▸ hq') hoptical hm hlast

end Pass

lemma benchStep_of_not_runs (pf : Platform) (b : Bench) {idl : Idl} {reads : YamlReads}
    {bus : Bus} {committed : Bool} (h : (benchPass b idl reads bus committed).runs = false) :
    benchStep pf b (.pass idl reads bus committed) = b := by
  have hworld := pass_of_not_runs pf b.world h
  have hself : newCalls b.world.pmd b.world.pmd = [] := newCalls_eq (List.append_nil _).symm
  unfold benchStep
  dsimp only
  rw [hworld, hself]
  have hslots : applyWrites [] b.slots = b.slots := by
    funext eeprom
    unfold applyWrites
    cases b.slots eeprom with
    | none => rfl
    | some m => rfl
  rw [hslots]

/-- Where every QSFP port has a device of its own, the lasers follow the database in exactly the
runs in which no pass misses a module. -/
theorem lasersFollow_iff_nothingMissed {pf : Platform} (hhw : pf.simulation = false)
    {describes : String → YamlPort → Prop} (hcaged : Caged describes) (reads : YamlReads)
    (seqno : UInt32) (events : List BenchEvent)
    (hok : Along (benchStep pf) (RowsAppear describes) (Bench.start pf reads seqno) events) :
    Along (benchStep pf) (LasersFollow pf) (Bench.start pf reads seqno) events ↔
      Along (benchStep pf) (NothingMissed pf) (Bench.start pf reads seqno) events := by
  refine along_congr_of_invariant (I := LaserInv describes pf) ?_ ?_
    (laserInv_start describes pf reads seqno) hok
  · intro b event h happear
    cases event with
    | insert eeprom page => exact Iff.rfl
    | pass idl reads bus committed =>
      cases hruns : (benchPass b idl reads bus committed).runs with
      | false =>
        have hnot : ¬ (benchPass b idl reads bus committed).runs = true := by simp [hruns]
        exact ⟨fun _ hr => absurd hr hnot, fun _ hr => absurd hr hnot⟩
      | true =>
        obtain ⟨hf, hstay, hdesc⟩ := happear hruns
        have hr : Reconfigured describes b.world.pmd (pmdReconfigure pf reads idl b.world.pmd) :=
          reconfigured hhw hcaged h.synced h.origins hf hdesc hstay
        have hiff := lasersFollow_iff hhw hcaged h hr (laserInv_pass hhw h hruns hf hdesc hr) hruns
        exact ⟨fun hl _ => hiff.mp hl, fun hn => hiff.mpr (hn hruns)⟩
  · intro b event h happear _
    cases event with
    | insert eeprom page => exact laserInv_insert h eeprom page
    | pass idl reads bus committed =>
      cases hruns : (benchPass b idl reads bus committed).runs with
      | false =>
        rw [benchStep_of_not_runs pf b hruns]
        exact h
      | true =>
        obtain ⟨hf, hstay, hdesc⟩ := happear hruns
        exact laserInv_pass hhw h hruns hf hdesc
          (reconfigured hhw hcaged h.synced h.origins hf hdesc hstay)

namespace Switch

/-- A module comes into port `1`, and a pass finds it and the row of the port. -/
def pluggedIn (enable : String) : List BenchEvent :=
  [.insert ("base", "eeprom1") lr4Page,
    .pass (idlOf (intf "1" 1 enable) 1) reads ⟨fun _ _ => 1, fun _ _ => Page.zero⟩ true]

end Switch

lemma caged_switch : Caged (fun _ port => port ∈ Switch.ports) := by
  intro subName port port' hport hport' hq hq' _
  have hall : ∀ p ∈ Switch.ports, p.isQsfp = true → p.name = "1" := by decide
  exact (hall port hport hq).trans (hall port' hport' hq').symm

lemma rowsAppear_pluggedIn (enable : String) :
    Along (benchStep Switch.platform) (RowsAppear fun _ port => port ∈ Switch.ports)
      (Bench.start Switch.platform Switch.reads 0) (Switch.pluggedIn enable) := by
  refine ⟨trivial, fun _ => ⟨⟨?_, ?_, ?_, ?_⟩, ?_, ?_⟩, trivial⟩
  · exact List.nodup_singleton _
  · exact List.nodup_singleton _
  · intro intf hintf
    exact absurd hintf List.not_mem_nil
  · intro _
    show (1 : UInt32) ≠ 0
    decide
  · intro intf hintf
    exact absurd hintf List.not_mem_nil
  · intro _ _ _ hport
    exact hport

/-- A module in port `1`, whose row asks for the laser. -/
theorem lasersFollow_iff_nothingMissed_lr4 :
    Along (benchStep Switch.platform) (LasersFollow Switch.platform)
        (Bench.start Switch.platform Switch.reads 0) (Switch.pluggedIn "true") ↔
      Along (benchStep Switch.platform) (NothingMissed Switch.platform)
        (Bench.start Switch.platform Switch.reads 0) (Switch.pluggedIn "true") :=
  lasersFollow_iff_nothingMissed rfl caged_switch Switch.reads 0 _ (rowsAppear_pluggedIn "true")

/-- A module in port `1`, whose row asks for the laser to be off: it stays on. -/
theorem not_lasersFollow_lr4 :
    Along (benchStep Switch.platform) (RowsAppear fun _ port => port ∈ Switch.ports)
      (Bench.start Switch.platform Switch.reads 0) (Switch.pluggedIn "false") ∧
    ¬ Along (benchStep Switch.platform) (LasersFollow Switch.platform)
      (Bench.start Switch.platform Switch.reads 0) (Switch.pluggedIn "false") := by
  refine ⟨rowsAppear_pluggedIn "false", ?_⟩
  rintro ⟨-, hfollow, -⟩
  obtain ⟨intf, hintf, -, hcontrol⟩ := hfollow rfl "1" _ _ (List.mem_singleton.mpr rfl) (by decide)
    (by decide) (by decide) (by decide) rfl
  obtain rfl := List.mem_singleton.mp hintf
  exact absurd hcontrol (by decide)

end OpsPmd
