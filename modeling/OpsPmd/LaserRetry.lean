import OpsPmd.ControlWrites

/-!
# Laser writes that fail

`ovsdb_if_intf_modify` remembers the new setting of a port before it asks for the write that
applies it, and `pm_configure_port` only logs how the write went. So a later pass writes
again only if the row has had the other setting in between.
-/

namespace OpsPmd

open Lib

/-- The message about a write, a warning if its result is not 0. -/
inductive Report
  | failed (inst : String) (rc : Int)
  | done (inst : String)
deriving DecidableEq

/-- `pm_configure_port` with the result of its write. -/
def pmConfigurePortRc (pf : Platform) (rc : Int) (port : PmPort) :
    PmPort × List Call × List Report :=
  let (port', calls) := pmConfigurePort pf port
  (port', calls, (calls.filter Call.isWrite).map fun _ =>
    if rc ≠ 0 then .failed port.inst rc else .done port.inst)

/-- `ovsdb_if_intf_modify`, given the result of the write that it may cause. -/
def ovsdbIfIntfModifyRc (pf : Platform) (rc : Int) (intf : OvsrecInterface) (port : PmPort) :
    PmPort × List Call × List Report :=
  let hwEnable := ovsdbIfIntfGetHwEnable pf intf
  if port.hwEnable ≠ hwEnable then pmConfigurePortRc pf rc { port with hwEnable := hwEnable }
  else (port, [], [])

/-- One turn of the last loop, given the result of the write for each interface. -/
def modifyInterfaceRc (pf : Platform) (rcs : String → Int) (st : Pmd × List Report)
    (intf : OvsrecInterface) : Pmd × List Report :=
  match st.1.ovsIntfs.find intf.name with
  | none => st
  | some port =>
    let (port, calls, reports) := ovsdbIfIntfModifyRc pf (rcs intf.name) intf port
    (({ st.1 with ovsIntfs := st.1.ovsIntfs.set intf.name port }).log calls, st.2 ++ reports)

/-- The state before the last loop of a pass that is processed. -/
def beforeModify (pf : Platform) (reads : YamlReads) (idl : Idl) (s : Pmd) : Pmd :=
  idl.replica.subsystems.foldl (ovsdbIfSubsysProcess pf reads) (afterDeletes idl s)

/-- `pmd_reconfigure` with the results of the writes of its last loop. -/
def pmdReconfigureRc (pf : Platform) (rcs : String → Int) (reads : YamlReads) (idl : Idl)
    (s : Pmd) : Pmd × List Report :=
  if idl.seqno = s.idlSeqno then (s, [])
  else idl.replica.interfaces.foldl (modifyInterfaceRc pf rcs) (beforeModify pf reads idl s, [])

section Results

variable (pf : Platform) (rcs : String → Int)

lemma fst_modifyInterfaceRc (st : Pmd × List Report) (intf : OvsrecInterface) :
    (modifyInterfaceRc pf rcs st intf).1 = modifyInterface pf st.1 intf := by
  unfold modifyInterfaceRc modifyInterface
  cases st.1.ovsIntfs.find intf.name with
  | none => rfl
  | some port =>
    unfold ovsdbIfIntfModifyRc ovsdbIfIntfModify
    dsimp only
    split
    · rfl
    · rfl

/-- Whatever the results are, the state after the pass is the same. -/
theorem fst_pmdReconfigureRc (reads : YamlReads) (idl : Idl) (s : Pmd) :
    (pmdReconfigureRc pf rcs reads idl s).1 = pmdReconfigure pf reads idl s := by
  by_cases he : idl.seqno = s.idlSeqno
  · rw [pmdReconfigure_of_eq he]
    unfold pmdReconfigureRc
    rw [if_pos he]
  · have hloop : ∀ st : Pmd × List Report,
        idl.replica.interfaces.foldl (modifyInterface pf) st.1 =
          (idl.replica.interfaces.foldl (modifyInterfaceRc pf rcs) st).1 := by
      intro st
      apply List.foldl_hom Prod.fst
      intro st intf
      exact (fst_modifyInterfaceRc pf rcs st intf).symm
    rw [pmdReconfigure_of_ne he]
    unfold pmdReconfigureRc
    rw [if_neg he, ← hloop]
    rfl

end Results

section Turns

variable {pf : Platform}

lemma pmdReconfigure_eq_foldl {reads : YamlReads} {idl : Idl} {s : Pmd}
    (hne : idl.seqno ≠ s.idlSeqno) :
    pmdReconfigure pf reads idl s =
      idl.replica.interfaces.foldl (modifyInterface pf) (beforeModify pf reads idl s) :=
  pmdReconfigure_of_ne hne

/-- The calls of the turn for a row, with the table before the loop. -/
def turnCalls (pf : Platform) (s : Pmd) (intf : OvsrecInterface) : List Call :=
  match s.ovsIntfs.find intf.name with
  | none => []
  | some port => (ovsdbIfIntfModify pf intf port).2

lemma find_modifyInterface (s : Pmd) (intf : OvsrecInterface) :
    (modifyInterface pf s intf).ovsIntfs.find =
      Function.update s.ovsIntfs.find intf.name
        ((s.ovsIntfs.find intf.name).map fun port => (ovsdbIfIntfModify pf intf port).1) := by
  unfold modifyInterface
  cases hf : s.ovsIntfs.find intf.name with
  | none =>
    dsimp only [Option.map_none]
    rw [← hf, Function.update_eq_self]
  | some port =>
    exact Shash.find_set (Shash.mem_keys_of_mem (Shash.mem_of_find_eq_some hf)) _

lemma calls_modifyInterface (s : Pmd) (intf : OvsrecInterface) :
    (modifyInterface pf s intf).calls = s.calls ++ turnCalls pf s intf := by
  unfold modifyInterface turnCalls
  cases s.ovsIntfs.find intf.name with
  | none => exact (List.append_nil _).symm
  | some port => rfl

/-- The turn for one row neither changes the record of another nor what its turn will do. -/
lemma turnCalls_modifyInterface {s : Pmd} {intf intf' : OvsrecInterface}
    (h : intf'.name ≠ intf.name) :
    turnCalls pf (modifyInterface pf s intf) intf' = turnCalls pf s intf' := by
  unfold turnCalls
  rw [find_modifyInterface, Function.update_of_ne h]

/-- The last loop makes the calls of each row's turn, in the order of the rows. -/
theorem calls_foldl_modifyInterface {rows : List OvsrecInterface}
    (h : (rows.map OvsrecInterface.name).Nodup) (s : Pmd) :
    (rows.foldl (modifyInterface pf) s).calls = s.calls ++ rows.flatMap (turnCalls pf s) := by
  induction rows generalizing s with
  | nil => exact (List.append_nil _).symm
  | cons intf rows ih =>
    rw [List.map_cons, List.nodup_cons] at h
    have hturns : rows.flatMap (turnCalls pf (modifyInterface pf s intf)) =
        rows.flatMap (turnCalls pf s) := by
      apply List.flatMap_congr
      intro intf' hintf'
      apply turnCalls_modifyInterface
      intro heq
      exact h.1 (heq ▸ List.mem_map_of_mem hintf')
    rw [List.foldl_cons, ih h.2, calls_modifyInterface, hturns, List.flatMap_cons,
      List.append_assoc]

/-- A pass that is processed makes those calls last. -/
theorem calls_pmdReconfigure_eq {reads : YamlReads} {idl : Idl} {s : Pmd}
    (h : (idl.replica.interfaces.map OvsrecInterface.name).Nodup) (hne : idl.seqno ≠ s.idlSeqno) :
    (pmdReconfigure pf reads idl s).calls = (beforeModify pf reads idl s).calls ++
      idl.replica.interfaces.flatMap (turnCalls pf (beforeModify pf reads idl s)) := by
  rw [pmdReconfigure_eq_foldl hne]
  exact calls_foldl_modifyInterface h (beforeModify pf reads idl s)

variable (pf) in
lemma find_foldl_modifyInterface {rows : List OvsrecInterface}
    (h : (rows.map OvsrecInterface.name).Nodup) {intf : OvsrecInterface} (hintf : intf ∈ rows)
    (s : Pmd) :
    (rows.foldl (modifyInterface pf) s).ovsIntfs.find intf.name =
      (s.ovsIntfs.find intf.name).map fun port => (ovsdbIfIntfModify pf intf port).1 :=
  @foldl_update_of_mem Pmd OvsrecInterface String (Option PmPort) _ (modifyInterface pf)
    (fun s => s.ovsIntfs.find) OvsrecInterface.name _ find_modifyInterface rows h intf hintf s

end Turns

/-! ## The record of a row -/

/-- The calls that it takes to apply a setting to a port. -/
def settingCalls (pf : Platform) (port : PmPort) (hwEnable : Bool) : List Call :=
  (pmConfigurePort pf { port with hwEnable := hwEnable }).2

/-- The record of the row with the uuid carries the setting `cached`, and `calls` is what it
takes to apply the setting `wanted` to it. -/
structure Tracked (pf : Platform) (uuid : Uuid) (wanted : Bool) (calls : List Call)
    (cached : Bool) (port : PmPort) : Prop where
  uuid : port.uuid = uuid
  hwEnable : port.hwEnable = cached
  retry : port.retry = false
  calls : settingCalls pf port wanted = calls

/-- The table has a tracked record. -/
def HasTracked (pf : Platform) (uuid : Uuid) (wanted : Bool) (calls : List Call) (cached : Bool)
    (w : World) : Prop :=
  ∃ name port, (name, port) ∈ w.pmd.ovsIntfs ∧ Tracked pf uuid wanted calls cached port

section Records

variable {pf : Platform} {uuid : Uuid} {wanted cached : Bool} {calls : List Call}

lemma settingCalls_eq (hhw : pf.simulation = false) (port : PmPort) (hwEnable : Bool) :
    settingCalls pf port hwEnable =
      if port.moduleDevice.isQsfp then
        if port.present && port.optical then
          [.i2cDataWrite port.inst port.subsystem port.moduleDevice.moduleEeprom qsfpDisableOffset
            (qsfpDisableData { port with hwEnable := hwEnable })]
        else []
      else
        match port.moduleDevice.moduleSignals.sfp.sfppTxDisable, hwEnable with
        | regOp, true => [.i2cRegWrite port.inst .sfppTxDisable port.subsystem regOp 0]
        | some op, false =>
          [.i2cRegWrite port.inst .sfppTxDisable port.subsystem (some op) op.bitMask]
        | none, false => [.nullDeref port.inst] := by
  unfold settingCalls pmConfigurePort pmConfigureQsfp
  simp only [hhw, Bool.false_eq_true, if_false]
  split
  · cases hp : port.present with
    | false => rfl
    | true =>
      cases ho : port.optical with
      | false => rfl
      | true => rfl
  · cases port.moduleDevice.moduleSignals.sfp.sfppTxDisable with
    | none =>
      cases hwEnable with
      | false => rfl
      | true => rfl
    | some op =>
      cases hwEnable with
      | false => rfl
      | true => rfl

/-- A QSFP module is written to only if it is present. -/
lemma present_of_settingCalls (hhw : pf.simulation = false) {port : PmPort}
    (hq : port.moduleDevice.isQsfp = true) {hwEnable : Bool}
    (h : settingCalls pf port hwEnable ≠ []) : port.present = true := by
  by_contra hp
  apply h
  rw [settingCalls_eq hhw, if_pos hq]
  simp [hp]

variable (pf) in
lemma retry_pmReadModuleState (hw : ScanHw) {port : PmPort} (h : port.retry = false) :
    (pmReadModuleState pf hw port).port.retry = false := by
  cases hk : port.moduleDevice.isKnown with
  | false =>
    rw [pmReadModuleState_of_not_isKnown pf hw hk]
    exact h
  | true =>
    have hread := unread_pmReadModuleState pf hw hk
    unfold PmPort.unread at hread
    exact (Bool.or_eq_false_iff.mp hread).2

/-- A scan reads nothing of a port whose module can be written to. -/
lemma tracked_pmReadModuleState (hhw : pf.simulation = false) (hne : calls ≠ []) (hw : ScanHw)
    {port : PmPort} (h : Tracked pf uuid wanted calls cached port) :
    Tracked pf uuid wanted calls cached (pmReadModuleState pf hw port).port := by
  have hc := config_pmReadModuleState pf hw port
  refine ⟨(congrArg PmPort.Config.uuid hc).trans h.uuid,
    (congrArg PmPort.Config.hwEnable hc).trans h.hwEnable,
    retry_pmReadModuleState pf hw h.retry, ?_⟩
  cases hq : port.moduleDevice.isQsfp with
  | false =>
    have hdevice := moduleDevice_pmReadModuleState pf hw port
    have hinst : (pmReadModuleState pf hw port).port.inst = port.inst :=
      congrArg PmPort.Config.inst hc
    have hsub : (pmReadModuleState pf hw port).port.subsystem = port.subsystem :=
      congrArg PmPort.Config.subsystem hc
    rw [← h.calls, settingCalls_eq hhw, settingCalls_eq hhw, hdevice, hinst, hsub, hq]
    rfl
  | true =>
    have hcalls : settingCalls pf port wanted ≠ [] := by rwa [h.calls]
    have hp := present_of_settingCalls hhw hq hcalls
    have hread : port.unread = false := by
      unfold PmPort.unread
      rw [hp, h.retry]
      rfl
    have hsame : (pmReadModuleState pf hw port).port = port := by
      rw [pmReadModuleState_eq pf hw (isKnown_of_isQsfp hq), hread]
      rfl
    rw [hsame, h.calls]

lemma tracked_publishPort (hhw : pf.simulation = false) (replica : Replica) {port : PmPort}
    (h : Tracked pf uuid wanted calls cached port) :
    Tracked pf uuid wanted calls cached (publishPort replica port).1 := by
  unfold publishPort
  split
  · exact h
  split
  · exact h
  · refine ⟨h.uuid, h.hwEnable, h.retry, ?_⟩
    rw [← h.calls, settingCalls_eq hhw, settingCalls_eq hhw]
    rfl

lemma tracked_ovsdbIfIntfModify (hhw : pf.simulation = false) (intf : OvsrecInterface)
    {port : PmPort} (h : Tracked pf uuid wanted calls cached port) :
    Tracked pf uuid wanted calls (ovsdbIfIntfGetHwEnable pf intf)
      (ovsdbIfIntfModify pf intf port).1 := by
  rw [ovsdbIfIntfModify_port_eq hhw]
  exact ⟨h.uuid, rfl, h.retry, h.calls⟩

end Records

section BeforeModify

variable {pf : Platform} {reads : YamlReads} {w : World} {idl : Idl}

variable (reads) in
/-- The record of a row that stays is found by the row's turn as it was before the pass. -/
lemma find_beforeModify (h : Synced pf w) (hf : Follows w.idl idl) {name : String}
    {port : PmPort} (hmem : (name, port) ∈ w.pmd.ovsIntfs) {intf : OvsrecInterface}
    (hintf : intf ∈ idl.replica.interfaces) (huuid : intf.uuid = port.uuid) :
    (beforeModify pf reads idl w.pmd).ovsIntfs.find intf.name = some port := by
  have hname : intf.name = name := by
    obtain ⟨row, hrow, hname, huuid'⟩ := h.table.row name port hmem
    rw [← hname]
    exact (hf.immutable row hrow intf hintf (huuid'.trans huuid.symm)).symm
  have hkept : (name, port) ∈ (beforeModify pf reads idl w.pmd).ovsIntfs := by
    refine foldl_invariant (I := fun s : Pmd => (name, port) ∈ s.ovsIntfs) ?_
      ((mem_afterDeletes h.table).mpr ⟨hmem, intf, hintf, huuid⟩)
    intro s sub _ hs
    refine ovsdbIfSubsysProcess_rule (J := fun s => (name, port) ∈ s.ovsIntfs)
      (fun s _ hs => hs) ?_ hs
    intro s row _ _ _ hs
    rcases ovsdbIfIntfCreate_cases pf s row sub.name with ⟨yamlPort, -, -, he⟩ | ⟨-, he⟩
    · rw [he]
      exact Shash.mem_add.mpr (.inl hs)
    · rw [he]
      exact hs
  rw [hname]
  exact (Shash.mem_iff_find (tableInv_process h hf.intfs).nodup).mp hkept

end BeforeModify

/-- No record waits for a retry. -/
def NoRetry (s : Pmd) : Prop := ∀ name port, (name, port) ∈ s.ovsIntfs → port.retry = false

lemma noRetry_step {pf : Platform} (hhw : pf.simulation = false) {w : World} (event : Event)
    (hs : Synced pf w) (h : NoRetry w.pmd) : NoRetry (w.step pf event).pmd := by
  cases event with
  | reconfigure reads idl =>
    refine (records_pmdReconfigure pf reads idl (P := fun _ port => port.retry = false)
      hs.table.nodup h ?_ ?_).2
    · intro intf _ subName yamlPort _
      unfold createdPort
      rw [pmConfigurePort_port_eq hhw]
      rfl
    · intro name port hwEnable enable hport
      exact hport
  | readState hw =>
    intro name port hmem
    obtain ⟨old, hold, rfl⟩ := Shash.mem_map.mp hmem
    exact retry_pmReadModuleState pf (hw name) (h name old hold)
  | update committed =>
    intro name port hmem
    obtain ⟨old, hold, rfl⟩ := Shash.mem_map.mp hmem
    have hr := record_publishPort w.idl.replica old
    exact (congrArg PmPort.Record.retry hr).trans (h name old hold)

lemma Reachable.noRetry {pf : Platform} (hhw : pf.simulation = false) {w : World}
    (h : Reachable pf w) : NoRetry w.pmd := by
  obtain ⟨reads, seqno, events, hok, rfl⟩ := h
  have hstart : NoRetry (World.start pf reads seqno).pmd := by
    rw [pmd_start]
    intro name port hmem
    exact absurd hmem List.not_mem_nil
  have hboth := Along.invariant (I := fun w => Synced pf w ∧ NoRetry w.pmd)
    (fun w event hI hok => ⟨synced_step hI.1 hok, noRetry_step hhw event hI.1 hI.2⟩)
    ⟨synced_start pf reads seqno, hstart⟩ hok
  exact hboth.2

/-- Where the event is a pass, the row is there, and a pass that is processed finds it with
the other setting. -/
def PassesOver (pf : Platform) (uuid : Uuid) (setting : Bool) (w : World) : Event → Prop
  | .reconfigure _ idl => ∃ intf ∈ idl.replica.interfaces, intf.uuid = uuid ∧
      (idl.seqno ≠ w.pmd.idlSeqno → ovsdbIfIntfGetHwEnable pf intf ≠ setting)
  | _ => True

/-- The event is not a pass that is processed. -/
def Skips (w : World) : Event → Prop
  | .reconfigure _ idl => idl.seqno = w.pmd.idlSeqno
  | _ => True

section Between

variable {pf : Platform} {uuid : Uuid} {wanted cached : Bool} {calls : List Call} {w : World}

lemma hasTracked_processed (hhw : pf.simulation = false) (hs : Synced pf w) {reads : YamlReads}
    {idl : Idl} (hf : Follows w.idl idl) (hne : idl.seqno ≠ w.pmd.idlSeqno)
    (h : HasTracked pf uuid wanted calls cached w) {intf : OvsrecInterface}
    (hintf : intf ∈ idl.replica.interfaces) (huuid : intf.uuid = uuid) :
    HasTracked pf uuid wanted calls (ovsdbIfIntfGetHwEnable pf intf)
      (w.step pf (.reconfigure reads idl)) := by
  obtain ⟨name, port, hmem, ht⟩ := h
  have hbefore := find_beforeModify reads hs hf hmem hintf (huuid.trans ht.uuid.symm)
  have hafter := find_foldl_modifyInterface pf hf.names hintf
    (beforeModify pf reads idl w.pmd)
  rw [hbefore] at hafter
  refine ⟨intf.name, (ovsdbIfIntfModify pf intf port).1, ?_, tracked_ovsdbIfIntfModify hhw intf ht⟩
  show _ ∈ (pmdReconfigure pf reads idl w.pmd).ovsIntfs
  rw [pmdReconfigure_eq_foldl hne]
  exact Shash.mem_of_find_eq_some hafter

lemma hasTracked_step (hhw : pf.simulation = false) (hcalls : calls ≠ []) {event : Event}
    (hskip : Skips w event)
    (h : HasTracked pf uuid wanted calls cached w) :
    HasTracked pf uuid wanted calls cached (w.step pf event) := by
  cases event with
  | reconfigure reads idl =>
    obtain ⟨name, port, hmem, ht⟩ := h
    refine ⟨name, port, ?_, ht⟩
    show _ ∈ (pmdReconfigure pf reads idl w.pmd).ovsIntfs
    rwa [pmdReconfigure_of_eq hskip]
  | readState hw =>
    obtain ⟨name, port, hmem, ht⟩ := h
    exact ⟨name, _, Shash.mem_map.mpr ⟨port, hmem, rfl⟩,
      tracked_pmReadModuleState hhw hcalls (hw name) ht⟩
  | update committed =>
    obtain ⟨name, port, hmem, ht⟩ := h
    exact ⟨name, _, Shash.mem_map.mpr ⟨port, hmem, rfl⟩,
      tracked_publishPort hhw w.idl.replica ht⟩

/-- Whether the record carries the setting that was wanted depends on whether there has been
a pass that is processed. -/
theorem hasTracked_run (hhw : pf.simulation = false) (hcalls : calls ≠ []) {events : List Event}
    (hok : Along (World.step pf)
      (fun w event => Admissible w event ∧ PassesOver pf uuid wanted w event) w events)
    (hs : Synced pf w) (h : HasTracked pf uuid wanted calls cached w) :
    ∃ setting, HasTracked pf uuid wanted calls setting (run (World.step pf) w events) ∧
      (Along (World.step pf) Skips w events → setting = cached) ∧
      (¬Along (World.step pf) Skips w events → setting ≠ wanted) := by
  induction events generalizing w cached with
  | nil => exact ⟨cached, h, fun _ => rfl, fun hno => absurd trivial hno⟩
  | cons event events ih =>
    obtain ⟨⟨hadm, hpass⟩, hrest⟩ := hok
    have hs' : Synced pf (w.step pf event) := synced_step hs hadm
    by_cases hskip : Skips w event
    · obtain ⟨setting, ht, hsame, hother⟩ :=
        ih hrest hs' (hasTracked_step hhw hcalls hskip h)
      refine ⟨setting, ht, fun hall => hsame hall.2, fun hno => hother fun hall => ?_⟩
      exact hno ⟨hskip, hall⟩
    · cases event with
      | reconfigure reads idl =>
        obtain ⟨intf, hintf, huuid, hne⟩ := hpass
        obtain ⟨setting, ht, hsame, hother⟩ :=
          ih hrest hs' (hasTracked_processed hhw hs hadm hskip h hintf huuid)
        refine ⟨setting, ht, fun hall => absurd hall.1 hskip, fun _ => ?_⟩
        by_cases hall : Along (World.step pf) Skips (w.step pf (.reconfigure reads idl)) events
        · rw [hsame hall]
          exact hne hskip
        · exact hother hall
      | readState hw => exact absurd trivial hskip
      | update committed => exact absurd trivial hskip

end Between

/-! ## Writing again -/

/-- The write of a laser setting in a pass, with its result. -/
structure LaserWrite (pf : Platform) where
  world : World
  reachable : Reachable pf world
  reads : YamlReads
  idl : Idl
  follows : Follows world.idl idl
  processed : idl.seqno ≠ world.pmd.idlSeqno
  intf : OvsrecInterface
  mem : intf ∈ idl.replica.interfaces
  call : Call
  isWrite : call.isWrite = true
  turn : call ∈ turnCalls pf (beforeModify pf reads idl world.pmd) intf
  rcs : String → Int

section LaserWrite

variable {pf : Platform}

/-- The result of the write. -/
def LaserWrite.rc (write : LaserWrite pf) : Int := write.rcs write.intf.name

def LaserWrite.setting (write : LaserWrite pf) : Bool := ovsdbIfIntfGetHwEnable pf write.intf

/-- The daemon after the pass. -/
def LaserWrite.after (write : LaserWrite pf) : World :=
  ⟨write.idl, (pmdReconfigureRc pf write.rcs write.reads write.idl write.world.pmd).1⟩

/-- The next pass that is processed and finds the row of the write with the same setting. -/
structure LaserWrite.Next (write : LaserWrite pf) where
  between : List Event
  passesOver : Along (World.step pf)
    (fun w event => Admissible w event ∧ PassesOver pf write.intf.uuid write.setting w event)
    write.after between
  reads : YamlReads
  idl : Idl
  follows : Follows (run (World.step pf) write.after between).idl idl
  processed : idl.seqno ≠ (run (World.step pf) write.after between).pmd.idlSeqno
  intf : OvsrecInterface
  mem : intf ∈ idl.replica.interfaces
  uuid : intf.uuid = write.intf.uuid
  setting : ovsdbIfIntfGetHwEnable pf intf = write.setting

/-- If the write fails, the turn for the row in the next pass makes it again. -/
def LaserWrite.Retried (write : LaserWrite pf) (next : write.Next) : Prop :=
  write.rc ≠ 0 → write.call ∈ turnCalls pf
    (beforeModify pf next.reads next.idl (run (World.step pf) write.after next.between).pmd)
    next.intf

lemma LaserWrite.after_eq (write : LaserWrite pf) :
    write.after = write.world.step pf (.reconfigure write.reads write.idl) := by
  unfold LaserWrite.after
  rw [fst_pmdReconfigureRc]
  rfl

lemma turnCalls_eq {s : Pmd} {intf : OvsrecInterface} {port : PmPort}
    (h : s.ovsIntfs.find intf.name = some port) :
    turnCalls pf s intf =
      if port.hwEnable ≠ ovsdbIfIntfGetHwEnable pf intf
      then settingCalls pf port (ovsdbIfIntfGetHwEnable pf intf) else [] := by
  unfold turnCalls ovsdbIfIntfModify
  rw [h]
  dsimp only
  split
  · rfl
  · rfl

/-- After the pass the table records the setting as applied, with the calls that have made
the write. -/
lemma LaserWrite.hasTracked_after (hhw : pf.simulation = false) (write : LaserWrite pf) :
    ∃ calls, write.call ∈ calls ∧
      HasTracked pf write.intf.uuid write.setting calls write.setting write.after := by
  have hs := write.reachable.synced
  have hturn := write.turn
  cases hfind : (beforeModify pf write.reads write.idl write.world.pmd).ovsIntfs.find
    write.intf.name with
  | none =>
    unfold turnCalls at hturn
    rw [hfind] at hturn
    exact absurd hturn List.not_mem_nil
  | some port =>
    rw [turnCalls_eq hfind] at hturn
    have hmem : write.call ∈ settingCalls pf port write.setting := by
      split at hturn
      · exact hturn
      · exact absurd hturn List.not_mem_nil
    have huuid : port.uuid = write.intf.uuid := by
      obtain ⟨row, hrow, hname, huuid⟩ := (tableInv_process hs write.follows.intfs).row
        write.intf.name port (Shash.mem_of_find_eq_some hfind)
      rw [← huuid, List.inj_on_of_nodup_map write.follows.names hrow write.mem hname]
    have hafter := find_foldl_modifyInterface pf write.follows.names write.mem
      (beforeModify pf write.reads write.idl write.world.pmd)
    rw [hfind, Option.map_some, ← pmdReconfigure_eq_foldl write.processed] at hafter
    have hafter' := Shash.mem_of_find_eq_some hafter
    have hretry : port.retry = false := by
      have hnext := noRetry_step hhw (.reconfigure write.reads write.idl) hs
        (write.reachable.noRetry hhw) write.intf.name _ hafter'
      rw [ovsdbIfIntfModify_port_eq hhw] at hnext
      exact hnext
    rw [LaserWrite.after_eq]
    exact ⟨settingCalls pf port write.setting, hmem, write.intf.name, _, hafter',
      tracked_ovsdbIfIntfModify hhw write.intf ⟨huuid, rfl, hretry, rfl⟩⟩

/-- The next pass makes the write again if a pass in between has found the other setting,
whatever the result of the write has been. -/
lemma LaserWrite.mem_turn_next_iff (hhw : pf.simulation = false) (write : LaserWrite pf)
    (next : write.Next) :
    write.call ∈ turnCalls pf
      (beforeModify pf next.reads next.idl (run (World.step pf) write.after next.between).pmd)
      next.intf ↔ ¬Along (World.step pf) Skips write.after next.between := by
  have hsync : Synced pf write.after := by
    rw [LaserWrite.after_eq]
    exact synced_step write.reachable.synced write.follows
  obtain ⟨calls, hcall, hafter⟩ := write.hasTracked_after hhw
  obtain ⟨setting, ⟨name, port, hmem, ht⟩, hsame, hother⟩ :=
    hasTracked_run hhw (List.ne_nil_of_mem hcall) next.passesOver hsync hafter
  have hsync' : Synced pf (run (World.step pf) write.after next.between) :=
    Along.invariant (fun w event hI hok => synced_step hI hok.1) hsync next.passesOver
  have hfind := find_beforeModify next.reads hsync' next.follows hmem next.mem
    (next.uuid.trans ht.uuid.symm)
  rw [turnCalls_eq hfind, next.setting, ht.hwEnable, ht.calls]
  by_cases hall : Along (World.step pf) Skips write.after next.between
  · rw [hsame hall, if_neg (not_not.mpr rfl)]
    exact iff_of_false List.not_mem_nil (not_not.mpr hall)
  · rw [if_pos (hother hall)]
    exact iff_of_true hcall hall

/-- A write that fails is made again exactly if a pass in between has been processed, which
has found the row with the other setting. -/
theorem retried_iff (hhw : pf.simulation = false) (write : LaserWrite pf) (next : write.Next) :
    write.Retried next ↔
      write.rc = 0 ∨ ¬Along (World.step pf) Skips write.after next.between := by
  unfold LaserWrite.Retried
  rw [write.mem_turn_next_iff hhw next]
  exact imp_iff_not_or.trans (or_congr_left not_not)

end LaserWrite

namespace Switch

/-- The bus refuses the write that turns the transmitter of an SFP+ port on. -/
def refusedWrite : LaserWrite platform where
  world := run (World.step platform) (World.start platform reads 0)
    [.reconfigure reads (idlOf (intf "2" 1 "false") 1)]
  reachable := ⟨reads, 0, [.reconfigure reads (idlOf (intf "2" 1 "false") 1)],
    ⟨⟨by decide, by decide, by decide, by decide⟩, trivial⟩, rfl⟩
  reads := reads
  idl := idlOf (intf "2" 1 "true") 2
  follows := ⟨by decide, by decide, by decide, by decide⟩
  processed := by decide
  intf := intf "2" 1 "true"
  mem := List.mem_singleton_self _
  call := .i2cRegWrite "2" .sfppTxDisable "base" sfpPort.moduleSignals.sfp.sfppTxDisable 0
  isWrite := rfl
  turn := by decide
  rcs := fun _ => -1

/-- A scan later the row has not changed, and a pass is processed for another reason. -/
def nextPass : refusedWrite.Next where
  between := [.readState fun _ => hwOf lr4Page]
  passesOver := ⟨⟨trivial, trivial⟩, trivial⟩
  reads := reads
  idl := idlOf (intf "2" 1 "true") 3
  follows := ⟨by decide, by decide, by decide, by decide⟩
  processed := by decide
  intf := intf "2" 1 "true"
  mem := List.mem_singleton_self _
  uuid := rfl
  setting := rfl

end Switch

/-- The refused write on hardware. -/
theorem retried_iff_refusedWrite :
    Switch.refusedWrite.Retried Switch.nextPass ↔ Switch.refusedWrite.rc = 0 ∨
      ¬Along (World.step Switch.platform) Skips Switch.refusedWrite.after
        Switch.nextPass.between :=
  retried_iff rfl Switch.refusedWrite Switch.nextPass

/-- The transmitter stays off, though the row has it on. -/
theorem not_retried_refusedWrite : ¬Switch.refusedWrite.Retried Switch.nextPass := by
  intro h
  have hturn := (Switch.refusedWrite.mem_turn_next_iff rfl Switch.nextPass).mp (h (by decide))
  exact hturn ⟨trivial, trivial⟩

end OpsPmd
