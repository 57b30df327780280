import OpsPmd.Origins

/-!
# The transmitter of SFP+ ports

The register behind `sfpp_tx_disable` is written when an interface is created and when its
setting is found to differ from the cached one. The only other register writes release QSFP
ports from their reset, when they are created. On hardware with one register for each port the
last value written is always the one that the cached setting asks for.
-/

namespace OpsPmd

open Lib

/-- The register that a call writes, whatever the signal is, and the value. -/
def registerWrite : Call → Option ((String × BitOp) × UInt32)
  | .i2cRegWrite _ _ subsystem (some op) data => some ((subsystem, op), data)
  | _ => none

/-- The last value that was written to the register of an operation. -/
def lastTxDisable (subsystem : String) (op : BitOp) (calls : List Call) : Option UInt32 :=
  lastWrite registerWrite (subsystem, op) calls

def YamlPort.sfppTxDisable (device : YamlPort) : Option BitOp :=
  device.moduleSignals.sfp.sfppTxDisable

/-- The operation that `pm_reset` picks. -/
def YamlPort.resetOp (device : YamlPort) : Option BitOp :=
  if device.hasConnector connectorQsfpPlus then device.moduleSignals.qsfp.qsfppReset
  else if device.hasConnector connectorQsfp28 then device.moduleSignals.qsfp28.qsfp28pReset
  else none

/-- The operation of all register writes for a port. -/
def YamlPort.writtenOp (device : YamlPort) : Option BitOp :=
  if device.isQsfp then device.resetOp else device.sfppTxDisable

/-- The value that turns the transmitter on or off. -/
def txValue (op : BitOp) (hwEnable : Bool) : UInt32 := if hwEnable then 0 else op.bitMask

/-- SFP+ ports have a transmitter register, and no two ports have the same. -/
structure OwnRegisters (describes : String → YamlPort → Prop) : Prop where
  register : ∀ subName port, describes subName port →
    port.hasConnector connectorSfpPlus = true → port.sfppTxDisable ≠ none
  distinct : ∀ subName port port' op, describes subName port → describes subName port' →
    port.isQsfp = false → port'.isQsfp = false →
    port.sfppTxDisable = some op → port'.sfppTxDisable = some op → port.name = port'.name

/-- The register of an SFP+ port is also not that of the reset of a QSFP port. -/
structure Wired (describes : String → YamlPort → Prop) : Prop extends OwnRegisters describes where
  reset : ∀ subName port port' op, describes subName port → describes subName port' →
    port.hasConnector connectorSfpPlus = true → port'.isQsfp = true →
    port.sfppTxDisable = some op → port'.resetOp ≠ some op

/-- One of the calls writes to the register. -/
def WritesRegister (subsystem : String) (op : BitOp) (calls : List Call) : Prop :=
  ∃ inst signal data, .i2cRegWrite inst signal subsystem (some op) data ∈ calls

section Registers

variable {subsystem : String} {op : BitOp}

lemma registerWrite_eq_some {call : Call} {data : UInt32} :
    registerWrite call = some ((subsystem, op), data) ↔
      ∃ inst signal, call = .i2cRegWrite inst signal subsystem (some op) data := by
  constructor
  · intro h
    unfold registerWrite at h
    split at h
    · rename_i inst signal _ _ _
      simp only [Option.some.injEq, Prod.mk.injEq] at h
      obtain ⟨⟨rfl, rfl⟩, rfl⟩ := h
      exact ⟨inst, signal, rfl⟩
    · exact absurd h (by simp)
  · rintro ⟨inst, signal, rfl⟩
    rfl

lemma lastTxDisable_eq_none {calls : List Call} (h : ¬WritesRegister subsystem op calls) :
    lastTxDisable subsystem op calls = none := by
  refine lastWrite_eq_none fun call hcall data hwrite => ?_
  obtain ⟨inst, signal, rfl⟩ := registerWrite_eq_some.mp hwrite
  exact h ⟨inst, signal, data, hcall⟩

lemma lastTxDisable_append {xs ys : List Call} (h : ¬WritesRegister subsystem op ys) :
    lastTxDisable subsystem op (xs ++ ys) = lastTxDisable subsystem op xs := by
  have hnone : lastWrite registerWrite (subsystem, op) ys = none := lastTxDisable_eq_none h
  unfold lastTxDisable
  rw [lastWrite_append, hnone, Option.none_or]

lemma WritesRegister.append {xs ys : List Call} (h : WritesRegister subsystem op (xs ++ ys)) :
    WritesRegister subsystem op xs ∨ WritesRegister subsystem op ys := by
  obtain ⟨inst, signal, data, hmem⟩ := h
  rcases List.mem_append.mp hmem with hmem | hmem
  · exact .inl ⟨inst, signal, data, hmem⟩
  · exact .inr ⟨inst, signal, data, hmem⟩

lemma WritesRegister.mono {xs ys : List Call} (h : WritesRegister subsystem op xs)
    (hsub : ∀ call ∈ xs, call ∈ ys) : WritesRegister subsystem op ys := by
  obtain ⟨inst, signal, data, hmem⟩ := h
  exact ⟨inst, signal, data, hsub _ hmem⟩

lemma not_writesRegister {calls : List Call} (h : ∀ call ∈ calls, call.isWrite = false) :
    ¬WritesRegister subsystem op calls := by
  rintro ⟨inst, signal, data, hmem⟩
  exact absurd (h _ hmem) (by simp [Call.isWrite])

end Registers

section Writes

variable {pf : Platform} {port : PmPort} {subsystem : String} {op : BitOp}

/-- Configuring a port writes to no register but that of its transmitter. -/
lemma writesRegister_pmConfigurePort
    (h : WritesRegister subsystem op (pmConfigurePort pf port).2) :
    subsystem = port.subsystem ∧ port.moduleDevice.writtenOp = some op := by
  obtain ⟨inst, signal, data, h⟩ := h
  unfold pmConfigurePort at h
  split at h
  · unfold pmConfigureQsfp at h
    split at h
    · simp at h
    split at h
    · simp at h
    split at h
    · simp at h
    · simp at h
  rename_i hq
  have hwritten : port.moduleDevice.writtenOp = port.moduleDevice.sfppTxDisable := by
    unfold YamlPort.writtenOp
    rw [if_neg hq]
  rw [hwritten]
  split at h
  · simp at h
  split at h
  · simp only [List.mem_singleton, Call.i2cRegWrite.injEq] at h
    obtain ⟨-, -, hsub, hregister, -⟩ := h
    exact ⟨hsub, hregister.symm⟩
  · rename_i op' hop _
    simp only [List.mem_singleton, Call.i2cRegWrite.injEq] at h
    obtain ⟨-, -, hsub, hregister, -⟩ := h
    exact ⟨hsub, hop.trans hregister.symm⟩
  · simp at h

lemma writesRegister_ovsdbIfIntfModify {intf : OvsrecInterface}
    (h : WritesRegister subsystem op (ovsdbIfIntfModify pf intf port).2) :
    subsystem = port.subsystem ∧ port.moduleDevice.writtenOp = some op := by
  have hconfigure := h.mono fun call hcall => mem_ovsdbIfIntfModify hcall
  have hwrites := writesRegister_pmConfigurePort hconfigure
  exact hwrites

/-- Releasing the reset of a port writes to no register but that of its reset. -/
lemma writesRegister_pmClearReset (h : WritesRegister subsystem op (pmClearReset port)) :
    subsystem = port.subsystem ∧ port.moduleDevice.writtenOp = some op := by
  obtain ⟨inst, signal, data, h⟩ := h
  unfold YamlPort.writtenOp YamlPort.isQsfp YamlPort.resetOp
  unfold pmClearReset pmReset at h
  dsimp only at h
  split at h
  · rename_i hplus
    split at h
    · simp at h
    · rename_i op' hop
      obtain ⟨-, -, hsub, hregister, -⟩ := Call.i2cRegWrite.inj (List.mem_singleton.mp h)
      rw [hplus, Bool.true_or, if_pos rfl, if_pos rfl]
      exact ⟨hsub, hop.trans hregister.symm⟩
  · rename_i hplus
    split at h
    · rename_i h28
      split at h
      · simp at h
      · rename_i op' hop
        obtain ⟨-, -, hsub, hregister, -⟩ := Call.i2cRegWrite.inj (List.mem_singleton.mp h)
        rw [h28, Bool.or_true, if_pos rfl, if_neg hplus, if_pos rfl]
        exact ⟨hsub, hop.trans hregister.symm⟩
    · simp at h

/-- An SFP+ port has no reset. -/
lemma pmClearReset_of_sfpPlus (h : port.moduleDevice.hasConnector connectorSfpPlus = true) :
    pmClearReset port = [] := by
  obtain ⟨hplus, h28⟩ := Bool.or_eq_false_iff.mp (not_isQsfp_of_sfpPlus h)
  unfold pmClearReset pmReset
  simp [hplus, h28]

/-- What a creation does to the hardware. -/
lemma writesRegister_created {intf : OvsrecInterface} {subName : String} {yamlPort : YamlPort}
    (h : WritesRegister subsystem op ((pmConfigurePort pf (newPort pf intf subName yamlPort)).2 ++
      pmClearReset (createdPort pf intf subName yamlPort))) :
    subsystem = subName ∧ yamlPort.writtenOp = some op := by
  rcases h.append with hconfigure | hreset
  · exact writesRegister_pmConfigurePort hconfigure
  · have hwrites := writesRegister_pmClearReset hreset
    rw [subsystem_createdPort, moduleDevice_createdPort] at hwrites
    exact hwrites

/-- On hardware, configuring an SFP+ port writes what its setting asks for. -/
lemma pmConfigurePort_sfpPlus (hhw : pf.simulation = false)
    (hsfp : port.moduleDevice.hasConnector connectorSfpPlus = true)
    (hop : port.moduleDevice.sfppTxDisable = some op) :
    (pmConfigurePort pf port).2 =
      [.i2cRegWrite port.inst .sfppTxDisable port.subsystem (some op)
        (txValue op port.hwEnable)] := by
  have hop' : port.moduleDevice.moduleSignals.sfp.sfppTxDisable = some op := hop
  unfold pmConfigurePort
  simp only [not_isQsfp_of_sfpPlus hsfp, hhw, hop', Bool.false_eq_true, if_false]
  cases port.hwEnable
  · rfl
  · rfl

variable (port) in
lemma lastTxDisable_pmConfigurePort (hhw : pf.simulation = false)
    (hsfp : port.moduleDevice.hasConnector connectorSfpPlus = true)
    (hop : port.moduleDevice.sfppTxDisable = some op) (calls : List Call) :
    lastTxDisable port.subsystem op (calls ++ (pmConfigurePort pf port).2) =
      some (txValue op port.hwEnable) := by
  rw [pmConfigurePort_sfpPlus hhw hsfp hop]
  exact lastWrite_append_cons rfl (by simp)

end Writes

section Invariant

variable (describes : String → YamlPort → Prop)

/-- The register of every SFP+ port holds what the cached setting asks for. -/
structure TxDisableInv (s : Pmd) : Prop where
  origins : Origins describes s
  register : ∀ name port, (name, port) ∈ s.ovsIntfs →
    port.moduleDevice.hasConnector connectorSfpPlus = true → ∃ op,
      port.moduleDevice.sfppTxDisable = some op ∧
      lastTxDisable port.subsystem op s.calls = some (txValue op port.hwEnable)

variable {describes} {pf : Platform}

/-- Calls that write to no register, or to that of a port of another name, leave the
transmitter of a port alone. -/
lemma lastTxDisable_append_of_other (hwired : Wired describes) {port : PmPort} {op : BitOp}
    {calls new : List Call} (hport : describes port.subsystem port.moduleDevice)
    {subName : String} {other : YamlPort} (hother : describes subName other)
    (hname : port.moduleDevice.name ≠ other.name)
    (hsfp : port.moduleDevice.hasConnector connectorSfpPlus = true)
    (hop : port.moduleDevice.sfppTxDisable = some op)
    (hnew : ∀ subsystem op, WritesRegister subsystem op new →
      subsystem = subName ∧ other.writtenOp = some op) :
    lastTxDisable port.subsystem op (calls ++ new) = lastTxDisable port.subsystem op calls := by
  refine lastTxDisable_append fun hwrites => ?_
  obtain ⟨hsub, hop'⟩ := hnew port.subsystem op hwrites
  rw [← hsub] at hother
  unfold YamlPort.writtenOp at hop'
  cases hq : other.isQsfp with
  | true =>
    rw [hq] at hop'
    exact hwired.reset _ _ _ op hport hother hsfp hq hop hop'
  | false =>
    rw [hq] at hop'
    exact hname (hwired.distinct _ _ _ op hport hother (not_isQsfp_of_sfpPlus hsfp) hq hop hop')

lemma txDisableInv_of_silent {s s' : Pmd} {new : List Call} (h : TxDisableInv describes s)
    (horigins : Origins describes s') (hcalls : s'.calls = s.calls ++ new)
    (hnew : ∀ subsystem op, ¬WritesRegister subsystem op new)
    (hof : ∀ name port, (name, port) ∈ s'.ovsIntfs →
      ∃ old, (name, old) ∈ s.ovsIntfs ∧ port.config = old.config) :
    TxDisableInv describes s' := by
  refine ⟨horigins, ?_⟩
  intro name port hmem
  obtain ⟨old, hold, hc⟩ := hof name port hmem
  rw [show port.subsystem = old.subsystem from congrArg PmPort.Config.subsystem hc,
    show port.moduleDevice = old.moduleDevice from congrArg PmPort.Config.moduleDevice hc,
    show port.hwEnable = old.hwEnable from congrArg PmPort.Config.hwEnable hc]
  intro hsfp
  obtain ⟨op, hop, hlast⟩ := h.register name old hold hsfp
  refine ⟨op, hop, ?_⟩
  rw [hcalls, lastTxDisable_append (hnew old.subsystem op)]
  exact hlast

lemma txDisableInv_create (hhw : pf.simulation = false) (hwired : Wired describes) {s : Pmd}
    (h : TxDisableInv describes s) {intf : OvsrecInterface} {subName : String}
    (hnew : intf.name ∉ s.ovsIntfs.keys) :
    TxDisableInv describes (ovsdbIfIntfCreate pf s intf subName) := by
  have horigins := origins_ovsdbIfIntfCreate h.origins pf intf subName
  rcases ovsdbIfIntfCreate_cases pf s intf subName with ⟨yamlPort, hg, -, he⟩ | ⟨-, he⟩
  swap
  · have hcalls : (ovsdbIfIntfCreate pf s intf subName).calls =
        s.calls ++ [.intfCreate subName intf.name] := by
      rw [he]
      rfl
    refine txDisableInv_of_silent h horigins hcalls ?_ ?_
    · exact fun subsystem op => not_writesRegister (by simp [Call.isWrite])
    · rw [he]
      exact fun name port hmem => ⟨port, hmem, rfl⟩
  have hdesc : describes subName yamlPort :=
    h.origins.yaml subName yamlPort (List.mem_of_find?_eq_some hg)
  have hyname : yamlPort.name = intf.name := by simpa [pmGetYamlPort] using List.find?_some hg
  have hlog : (ovsdbIfIntfCreate pf s intf subName).calls =
      (s.calls ++ [.intfCreate subName intf.name]) ++
        ((pmConfigurePort pf (newPort pf intf subName yamlPort)).2 ++
          pmClearReset (createdPort pf intf subName yamlPort)) := by
    rw [he]
    simp [Pmd.log, createCalls]
  have hmark : ∀ subsystem op, ¬WritesRegister subsystem op [.intfCreate subName intf.name] :=
    fun subsystem op => not_writesRegister (by simp [Call.isWrite])
  refine ⟨horigins, ?_⟩
  rw [hlog, he]
  intro name port hmem hsfp
  rcases Shash.mem_add.mp hmem with hold | ⟨rfl, rfl⟩
  · obtain ⟨op, hop, hlast⟩ := h.register name port hold hsfp
    obtain ⟨hportdesc, hportname, -⟩ := h.origins.device name port hold
    refine ⟨op, hop, ?_⟩
    have hname : port.moduleDevice.name ≠ yamlPort.name := by
      rw [hportname, hyname]
      rintro rfl
      exact hnew (Shash.mem_keys_of_mem hold)
    rw [lastTxDisable_append_of_other hwired hportdesc hdesc hname hsfp hop
      fun subsystem op => writesRegister_created, lastTxDisable_append (hmark _ _)]
    exact hlast
  · rw [moduleDevice_createdPort] at hsfp
    have hregister := hwired.register subName yamlPort hdesc hsfp
    obtain ⟨op, hop⟩ := Option.ne_none_iff_exists'.mp hregister
    refine ⟨op, by rw [moduleDevice_createdPort]; exact hop, ?_⟩
    have hreset : pmClearReset (createdPort pf intf subName yamlPort) = [] :=
      pmClearReset_of_sfpPlus (by rw [moduleDevice_createdPort]; exact hsfp)
    rw [subsystem_createdPort, hwEnable_createdPort, hreset, List.append_nil]
    exact lastTxDisable_pmConfigurePort (newPort pf intf subName yamlPort) hhw hsfp hop _

lemma txDisableInv_modify (hhw : pf.simulation = false) (hwired : Wired describes) {s : Pmd}
    (hnodup : s.ovsIntfs.keys.Nodup) (h : TxDisableInv describes s) (intf : OvsrecInterface) :
    TxDisableInv describes (modifyInterface pf s intf) := by
  have horigins := origins_modifyInterface h.origins pf intf
  rcases modifyInterface_cases pf s intf with ⟨-, he⟩ | ⟨old, hold, he⟩
  · rw [he]
    exact h
  obtain ⟨enable, hport⟩ := ovsdbIfIntfModify_port pf intf old
  obtain ⟨holddesc, holdname, -⟩ := h.origins.device intf.name old hold
  -- the cached setting changes together with the register, or neither changes
  have hself : old.moduleDevice.hasConnector connectorSfpPlus = true → ∀ op,
      old.moduleDevice.sfppTxDisable = some op →
      lastTxDisable old.subsystem op s.calls = some (txValue op old.hwEnable) →
      lastTxDisable old.subsystem op (s.calls ++ (ovsdbIfIntfModify pf intf old).2) =
        some (txValue op (ovsdbIfIntfGetHwEnable pf intf)) := by
    intro hsfp op hop hlast
    unfold ovsdbIfIntfModify
    dsimp only
    split
    · exact lastTxDisable_pmConfigurePort
        { old with hwEnable := ovsdbIfIntfGetHwEnable pf intf } hhw hsfp hop s.calls
    · rename_i hsame
      rw [List.append_nil, hlast, not_not.mp hsame]
  refine ⟨horigins, ?_⟩
  rw [he, hport]
  intro name port hmem hsfp
  rcases (Shash.mem_set hnodup).mp hmem with ⟨hne, hmem'⟩ | ⟨rfl, rfl, -⟩
  · obtain ⟨op, hop, hlast⟩ := h.register name port hmem' hsfp
    obtain ⟨hdesc, hname, -⟩ := h.origins.device name port hmem'
    refine ⟨op, hop, ?_⟩
    have hother : port.moduleDevice.name ≠ old.moduleDevice.name := by
      rw [hname, holdname]
      exact hne
    exact (lastTxDisable_append_of_other hwired hdesc holddesc hother hsfp hop
      fun subsystem op => writesRegister_ovsdbIfIntfModify).trans hlast
  · obtain ⟨op, hop, hlast⟩ := h.register intf.name old hold hsfp
    exact ⟨op, hop, hself hsfp op hop hlast⟩

lemma txDisableInv_pmdReconfigure (hhw : pf.simulation = false) (hwired : Wired describes)
    {reads : YamlReads} {w : World} {idl : Idl} (hsync : Synced pf w)
    (hf : FollowsIntfs w.idl idl) (hdesc : DescribedBy describes reads idl)
    (h : TxDisableInv describes w.pmd) :
    TxDisableInv describes (pmdReconfigure pf reads idl w.pmd) := by
  by_cases he : idl.seqno = w.pmd.idlSeqno
  · rw [pmdReconfigure_of_eq he]
    exact h
  suffices hJ : TableInv idl.replica (pmdReconfigure pf reads idl w.pmd).ovsIntfs ∧
      TxDisableInv describes (pmdReconfigure pf reads idl w.pmd) from hJ.2
  refine pmdReconfigure_rule
    (J := fun s => TableInv idl.replica s.ovsIntfs ∧ TxDisableInv describes s) he
    ⟨tableInv_afterDeletes hsync.table hf, ?_⟩ ?_ ?_ ?_
  · have hsub := afterDeletes_sublist idl w.pmd
    refine txDisableInv_of_silent h ?_ (List.append_nil _).symm ?_ fun name port hmem => ?_
    · exact origins_of_config h.origins rfl
        fun name port hmem => ⟨port, hsub.subset hmem, rfl, rfl⟩
    · exact fun subsystem op => not_writesRegister (by simp)
    · exact ⟨port, hsub.subset hmem, rfl⟩
  · rintro s sub hsub - ⟨htable, hs⟩
    refine ⟨htable, txDisableInv_of_silent hs (origins_loadSubsystem hs.origins (hdesc sub hsub))
      (calls_loadSubsystem reads s sub) ?_ fun name port hmem => ⟨port, hmem, rfl⟩⟩
    intro subsystem op hwrites
    obtain ⟨inst, signal, data, hmem⟩ := hwrites
    exact absurd (kind_loadCalls hmem) (by simp [Call.kind])
  · rintro s sub hsub intf hintf hnew - ⟨htable, hs⟩
    exact ⟨tableInv_ovsdbIfIntfCreate htable
      (idl.replica.mem_interfaces sub hsub intf hintf) hnew,
      txDisableInv_create hhw hwired hs hnew⟩
  · rintro s intf - ⟨htable, hs⟩
    exact ⟨tableInv_modifyInterface htable pf intf,
      txDisableInv_modify hhw hwired htable.nodup hs intf⟩

lemma txDisableInv_step (hhw : pf.simulation = false) (hwired : Wired describes) {w : World}
    {event : Event} (hsync : Synced pf w) (h : TxDisableInv describes w.pmd)
    (hok : AdmissibleIntfs w event) (hdesc : Described describes w event) :
    TxDisableInv describes (w.step pf event).pmd := by
  cases event with
  | reconfigure reads idl => exact txDisableInv_pmdReconfigure hhw hwired hsync hok hdesc h
  | readState hw =>
    have hconfig := fun n : String × PmPort => config_pmReadModuleState pf (hw n.1) n.2
    refine txDisableInv_of_silent h (origins_map h.origins
      (f := fun n => (pmReadModuleState pf (hw n.1) n.2).port) hconfig rfl rfl) rfl ?_ ?_
    · exact fun subsystem op => not_writesRegister fun call hcall => (quiet_scanCalls hcall).2
    · intro name port hmem
      obtain ⟨old, hold, rfl⟩ := Shash.mem_map.mp hmem
      exact ⟨old, hold, hconfig (name, old)⟩
  | update committed =>
    have hconfig := fun n : String × PmPort => config_publishPort w.idl.replica n.2
    refine txDisableInv_of_silent h (origins_map h.origins
      (f := fun n => (publishPort w.idl.replica n.2).1) hconfig rfl rfl) rfl ?_ ?_
    · exact fun subsystem op => not_writesRegister (by simp [Call.isWrite])
    · intro name port hmem
      obtain ⟨old, hold, rfl⟩ := Shash.mem_map.mp hmem
      exact ⟨old, hold, hconfig (name, old)⟩

end Invariant

/-- The register of every SFP+ port in the table holds 0 if the row of the port asks for the
transmitter, and the mask of the register otherwise. -/
def TxDisableFollows (pf : Platform) (w : World) : Prop :=
  ∀ name port, (name, port) ∈ w.pmd.ovsIntfs →
    port.moduleDevice.hasConnector connectorSfpPlus = true →
    ∃ op, port.moduleDevice.moduleSignals.sfp.sfppTxDisable = some op ∧
      ∃ intf ∈ w.idl.replica.interfaces, intf.name = name ∧ intf.uuid = port.uuid ∧
        lastTxDisable port.subsystem op w.pmd.calls =
          some (if intf.hwIntfConfig.lookup pf.interfaceHwIntfConfigMapEnable =
            some pf.interfaceHwIntfConfigMapEnableTrue then 0 else op.bitMask)

/-- On hardware in which every SFP+ port has a register of its own, the transmitters follow the
database after every run. -/
theorem txDisableFollows_of_run {pf : Platform} (hhw : pf.simulation = false)
    {describes : String → YamlPort → Prop} (hwired : Wired describes) (reads : YamlReads)
    (seqno : UInt32) (events : List Event)
    (hok : Along (World.step pf)
      (fun w event => AdmissibleIntfs w event ∧ Described describes w event)
      (World.start pf reads seqno) events) :
    TxDisableFollows pf (run (World.step pf) (World.start pf reads seqno) events) := by
  have hstart : TxDisableInv describes (World.start pf reads seqno).pmd := by
    refine ⟨origins_start pf reads seqno, ?_⟩
    rw [pmd_start]
    simp
  obtain ⟨hsync, hinv⟩ := Along.invariant
    (I := fun w => Synced pf w ∧ TxDisableInv describes w.pmd)
    (fun w event hI hok => ⟨synced_step_of_intfs hI.1 hok.1,
      txDisableInv_step hhw hwired hI.1 hI.2 hok.1 hok.2⟩)
    ⟨synced_start pf reads seqno, hstart⟩ hok
  intro name port hmem hsfp
  obtain ⟨op, hop, hlast⟩ := hinv.register name port hmem hsfp
  obtain ⟨intf, hintf, hname, huuid⟩ := hsync.table.row name port hmem
  have hcache := hsync.hwEnable intf hintf port (hname ▸ hmem)
  refine ⟨op, hop, intf, hintf, hname, huuid, ?_⟩
  rw [hlast, hcache]
  unfold txValue ovsdbIfIntfGetHwEnable
  cases intf.hwIntfConfig.lookup pf.interfaceHwIntfConfigMapEnable with
  | none => simp
  | some enable => simp

lemma wired_switch : Wired (fun _ port => port ∈ Switch.ports) where
  register := by
    intro subName port hport
    revert port
    decide
  distinct := by
    intro subName port port' op hport hport' hq hq' hop hop'
    have hall : ∀ p ∈ Switch.ports, ∀ p' ∈ Switch.ports,
        p.sfppTxDisable = p'.sfppTxDisable → p.name = p'.name := by decide
    exact hall port hport port' hport' (hop.trans hop'.symm)
  reset := by
    intro subName port port' op hport hport' hsfp hq hop hreset
    have hall : ∀ p ∈ Switch.ports, ∀ p' ∈ Switch.ports, p.hasConnector connectorSfpPlus = true →
        p'.isQsfp = true → p'.resetOp ≠ p.sfppTxDisable := by decide
    exact hall port hport port' hport' hsfp hq (hreset.trans hop.symm)

/-- An SFP+ port that is created with its transmitter off, and turned on later. -/
theorem txDisableFollows_of_run_edited :
    TxDisableFollows Switch.platform (run (World.step Switch.platform)
      (World.start Switch.platform Switch.reads 0)
      [.reconfigure Switch.reads (Switch.idlOf (Switch.intf "2" 1 "false") 1),
        .readState (fun _ => Switch.hwOf Switch.lr4Page),
        .reconfigure Switch.reads (Switch.idlOf (Switch.intf "2" 1 "true") 2)]) := by
  apply txDisableFollows_of_run rfl wired_switch Switch.reads 0 _
  exact ⟨⟨⟨by decide, by decide, by decide⟩, fun _ _ _ hport => hport⟩, ⟨trivial, trivial⟩,
    ⟨⟨by decide, by decide, by decide⟩, fun _ _ _ hport => hport⟩, trivial⟩

namespace Switch

/-- A QSFP+ port whose reset is behind the register that turns the transmitter of port `2` off. -/
def tiedPort : YamlPort :=
  ⟨"1", true, some connectorQsfpPlus, "eeprom1",
    { signals 0x10 with qsfp := (signals 0x20).qsfp }⟩

def tiedReads : YamlReads := fun _ => ⟨0, 0, 0, [tiedPort, sfpPort]⟩

def tiedInterfaces : List OvsrecInterface := [intf "2" 2 "false", intf "1" 1 "true"]

def tiedReplica : Replica where
  interfaces := tiedInterfaces
  subsystems := [base tiedInterfaces]
  daemons := []
  uuid_nodup := by decide
  mem_interfaces := by simp [base]

/-- The first pass creates port `2` with its transmitter off, and then port `1`. -/
def tiedPass : List Event := [.reconfigure tiedReads { replica := tiedReplica, seqno := 1 }]

end Switch

lemma ownRegisters_tied :
    OwnRegisters (fun _ port => port ∈ [Switch.tiedPort, Switch.sfpPort]) where
  register := by
    intro subName port hport
    revert port
    decide
  distinct := by
    intro subName port port' op hport hport' hq hq' hop hop'
    have hall : ∀ p ∈ [Switch.tiedPort, Switch.sfpPort], p.isQsfp = false → p.name = "2" := by
      decide
    exact (hall port hport hq).trans (hall port' hport' hq').symm

/-- The release of a reset may turn a transmitter on that is to be off. -/
theorem not_txDisableFollows_tied :
    (OwnRegisters (fun _ port => port ∈ [Switch.tiedPort, Switch.sfpPort]) ∧
      Along (World.step Switch.platform)
        (fun w event => AdmissibleIntfs w event ∧
          Described (fun _ port => port ∈ [Switch.tiedPort, Switch.sfpPort]) w event)
        (World.start Switch.platform Switch.reads 0) Switch.tiedPass) ∧
    ¬TxDisableFollows Switch.platform (run (World.step Switch.platform)
      (World.start Switch.platform Switch.reads 0) Switch.tiedPass) := by
  refine ⟨⟨ownRegisters_tied, ⟨⟨by decide, by decide, by decide⟩, fun _ _ _ hport => hport⟩,
    trivial⟩, fun h => ?_⟩
  obtain ⟨op, hop, intf, hintf, hname, -, hlast⟩ := h "2"
    (createdPort Switch.platform (Switch.intf "2" 2 "false") "base" Switch.sfpPort)
    (Shash.mem_of_find_eq_some rfl) (by decide)
  obtain rfl := Option.some.inj hop
  have hoff : ∀ row ∈ Switch.tiedInterfaces, row.name = "2" →
      row.hwIntfConfig.lookup Switch.platform.interfaceHwIntfConfigMapEnable = some "false" := by
    decide
  rw [hoff intf hintf hname] at hlast
  exact absurd hlast (by decide)

end OpsPmd
