import OpsPmd.Columns

/-!
# What a scan does

With the conditions that the source switches off, a scan of a port of a known kind either
leaves the port alone or parses the page of its first read. Everything about scans follows
from this one description: which fields they keep, when a removed module is noticed, and
when a page that cannot be trusted is taken for a module.
-/

namespace OpsPmd

open Lib OvsrecInterfacePmInfo

/-- The fields of a port that no scan and no publication changes. -/
structure PmPort.Config where
  inst : String
  uuid : Uuid
  moduleDevice : YamlPort
  subsystem : String
  hwEnable : Bool
  hwEnableSubport : Vector Bool 4
  split : Bool

def PmPort.config (port : PmPort) : PmPort.Config :=
  ⟨port.inst, port.uuid, port.moduleDevice, port.subsystem, port.hwEnable,
    port.hwEnableSubport, port.split⟩

/-- A port that has not been identified, or whose last page was refused. -/
def PmPort.unread (port : PmPort) : Bool := !port.present || port.retry

/-- The port after its page has been parsed without an error. -/
def identified (page : Page) (port : PmPort) : PmPort :=
  setA2ReadRequest { (pmParse page port).2.1 with present := true, retry := false }
    (pmParse page port).2.2

lemma pmParse_rc {port : PmPort} (h : port.moduleDevice.isKnown = true) (page : Page) :
    (pmParse page port).1 = 0 := by
  have hconn := connector_ne_none_of_isKnown h
  unfold pmParse
  dsimp only
  split
  · rfl
  -- the branch of an absent connector is gone by `hconn`
  simp only [h, Bool.not_true, Bool.false_eq_true, if_false]
  split
  · rfl
  split
  · rfl
  · rfl

/-- The label `retry_read` is reached once, and so is the read of the page. -/
lemma retryRead_eq (pf : Platform) (hw : ScanHw) {port : PmPort}
    (h : port.moduleDevice.isKnown = true) :
    retryRead pf hw 2 port =
      if port.unread then
        ⟨0, identified (pmReadA0 pf hw 0 port).1.data port, (pmReadA0 pf hw 0 port).2⟩
      else ⟨0, port, []⟩ := by
  have hrc : ∀ page, (pmParse page port).1 = 0 := fun page => pmParse_rc h page
  unfold retryRead scanA2 identified PmPort.unread
  simp [hrc]

theorem pmReadModuleState_eq (pf : Platform) (hw : ScanHw) {port : PmPort}
    (h : port.moduleDevice.isKnown = true) :
    pmReadModuleState pf hw port =
      if port.unread then
        ⟨0, identified (pmReadA0 pf hw 0 port).1.data port,
          (pmReadA0 pf hw 0 port).2 ++ [.readModuleState port.inst port.uuid 0]⟩
      else ⟨0, port, [.readModuleState port.inst port.uuid 0]⟩ := by
  unfold pmReadModuleState
  simp only [h, Bool.not_true, Bool.false_eq_true, if_false, retryRead_eq pf hw h]
  cases hu : port.unread
  · simp
  · simp

lemma pmReadModuleState_of_not_isKnown (pf : Platform) (hw : ScanHw) {port : PmPort}
    (h : port.moduleDevice.isKnown = false) :
    pmReadModuleState pf hw port = ⟨-1, port, [.readModuleState port.inst port.uuid (-1)]⟩ := by
  unfold pmReadModuleState
  simp [h]

lemma record_setA2ReadRequest (port : PmPort) (page : Page) :
    ∃ requested, (setA2ReadRequest port page).record =
      { port.record with a2ReadRequested := requested } := by
  unfold setA2ReadRequest
  split
  · split
    · exact ⟨true, rfl⟩
    · exact ⟨port.a2ReadRequested, rfl⟩
  split
  · exact ⟨true, rfl⟩
  · exact ⟨port.a2ReadRequested, rfl⟩

lemma ovsModuleColumns_setA2ReadRequest (port : PmPort) (page : Page) :
    (setA2ReadRequest port page).ovsModuleColumns = port.ovsModuleColumns := by
  unfold setA2ReadRequest
  repeat' split
  all_goals rfl

lemma record_identified (page : Page) (port : PmPort) :
    ∃ requested, (identified page port).record =
      { port.record with
        optical := (pmParse page port).2.1.optical
        present := true
        retry := false
        a2ReadRequested := requested } := by
  obtain ⟨requested, h⟩ := record_setA2ReadRequest
    { (pmParse page port).2.1 with present := true, retry := false } (pmParse page port).2.2
  have hparse : (pmParse page port).2.1.record =
      { port.record with optical := (pmParse page port).2.1.optical } :=
    decidesOptical_pmParse page port
  refine ⟨requested, h.trans ?_⟩
  have hrec : ({ (pmParse page port).2.1 with present := true, retry := false } : PmPort).record =
      { (pmParse page port).2.1.record with present := true, retry := false } := rfl
  rw [hrec, hparse]

lemma present_identified (page : Page) (port : PmPort) :
    (identified page port).present = true ∧ (identified page port).retry = false := by
  obtain ⟨requested, h⟩ := record_identified page port
  exact ⟨congrArg PmPort.Record.present h, congrArg PmPort.Record.retry h⟩

lemma optical_identified (page : Page) (port : PmPort) :
    (identified page port).optical = (pmParse page port).2.1.optical := by
  obtain ⟨requested, h⟩ := record_identified page port
  exact congrArg PmPort.Record.optical h

lemma ovsModuleColumns_identified (page : Page) (port : PmPort) :
    (identified page port).ovsModuleColumns = (pmParse page port).2.1.ovsModuleColumns :=
  ovsModuleColumns_setA2ReadRequest _ _

lemma config_eq_of_record_eq {port port' : PmPort} (h : port'.record = port.record) :
    port'.config = port.config := by
  have hc : ∀ p : PmPort, p.config = ⟨p.record.inst, p.record.uuid, p.record.moduleDevice,
      p.record.subsystem, p.record.hwEnable, p.record.hwEnableSubport, p.record.split⟩ :=
    fun _ => rfl
  rw [hc, hc, h]

lemma config_identified (page : Page) (port : PmPort) :
    (identified page port).config = port.config := by
  obtain ⟨requested, h⟩ := record_identified page port
  have hsame : ({ port with
      optical := (pmParse page port).2.1.optical
      present := true
      retry := false
      a2ReadRequested := requested } : PmPort).config = port.config := rfl
  rw [← hsame]
  exact config_eq_of_record_eq h

@[simp] lemma config_publishPort (replica : Replica) (port : PmPort) :
    (publishPort replica port).1.config = port.config :=
  config_eq_of_record_eq (record_publishPort replica port)

/-- A port speaks for its own row only. -/
lemma uuid_of_mem_publishPort {replica : Replica} {port : PmPort} {entry : Uuid × PmInfo}
    (h : entry ∈ (publishPort replica port).2) : entry.1 = port.uuid := by
  unfold publishPort at h
  split at h
  · contradiction
  split at h
  · contradiction
  · rw [← Option.some.inj h]

@[simp] lemma config_pmReadModuleState (pf : Platform) (hw : ScanHw) (port : PmPort) :
    (pmReadModuleState pf hw port).port.config = port.config := by
  cases h : port.moduleDevice.isKnown with
  | false => rw [pmReadModuleState_of_not_isKnown pf hw h]
  | true =>
    rw [pmReadModuleState_eq pf hw h]
    split
    · exact config_identified _ port
    · rfl

lemma moduleDevice_pmReadModuleState (pf : Platform) (hw : ScanHw) (port : PmPort) :
    (pmReadModuleState pf hw port).port.moduleDevice = port.moduleDevice :=
  congrArg PmPort.Config.moduleDevice (config_pmReadModuleState pf hw port)

/-- After a scan a port of a known kind counts as present, whatever the hardware says. -/
lemma unread_pmReadModuleState (pf : Platform) (hw : ScanHw) {port : PmPort}
    (h : port.moduleDevice.isKnown = true) :
    (pmReadModuleState pf hw port).port.unread = false := by
  rw [pmReadModuleState_eq pf hw h]
  split
  · obtain ⟨hp, hr⟩ := present_identified (pmReadA0 pf hw 0 port).1.data port
    unfold PmPort.unread
    rw [hp, hr]
    rfl
  · rename_i hu
    simpa using hu

lemma present_of_unread {port : PmPort} (h : port.unread = false) : port.present = true := by
  unfold PmPort.unread at h
  cases hp : port.present
  · simp [hp] at h
  · rfl

/-- The pages that a scan reads are those of the first read. -/
lemma readA0_mem_calls {pf : Platform} {hw : ScanHw} {port : PmPort} {inst : String} {rc : Int}
    {page : Page} (h : port.moduleDevice.isKnown = true)
    (hmem : .readA0 inst rc page ∈ (pmReadModuleState pf hw port).calls) :
    port.unread = true ∧ rc = (pmReadA0 pf hw 0 port).1.rc ∧
      page = (pmReadA0 pf hw 0 port).1.data := by
  rw [pmReadModuleState_eq pf hw h] at hmem
  split at hmem
  · rename_i hu
    refine ⟨hu, ?_⟩
    have hmem' : Call.readA0 inst rc page ∈ (pmReadA0 pf hw 0 port).2 := by simpa using hmem
    unfold pmReadA0 at hmem' ⊢
    split at hmem'
    · split at hmem'
      · simp_all
      · simp at hmem'
    · rename_i hsim
      simp only [List.mem_singleton, Call.readA0.injEq] at hmem'
      simp [hsim, hmem']
  · simp at hmem

/-- A scan reads a page, or faults in the simulation, and reports. It writes nothing. -/
lemma mem_calls_pmReadModuleState {pf : Platform} {hw : ScanHw} {port : PmPort} {call : Call}
    (h : call ∈ (pmReadModuleState pf hw port).calls) :
    (∃ rc page, call = .readA0 port.inst rc page) ∨ call = .nullDeref port.inst ∨
      call = .readModuleState port.inst port.uuid (pmReadModuleState pf hw port).rc := by
  have hread : ∀ call ∈ (pmReadA0 pf hw 0 port).2,
      (∃ rc page, call = .readA0 port.inst rc page) ∨ call = .nullDeref port.inst := by
    intro call hcall
    unfold pmReadA0 at hcall
    split at hcall
    · split at hcall
      · rename_i page _
        exact .inl ⟨0, page, List.mem_singleton.mp hcall⟩
      · exact .inr (List.mem_singleton.mp hcall)
    · exact .inl ⟨_, _, List.mem_singleton.mp hcall⟩
  cases hk : port.moduleDevice.isKnown with
  | false =>
    rw [pmReadModuleState_of_not_isKnown pf hw hk] at h ⊢
    exact .inr (.inr (List.mem_singleton.mp h))
  | true =>
    rw [pmReadModuleState_eq pf hw hk] at h ⊢
    split at h
    · rename_i hu
      rw [if_pos hu]
      rcases List.mem_append.mp h with h | h
      · rcases hread call h with h | h
        · exact .inl h
        · exact .inr (.inl h)
      · exact .inr (.inr (List.mem_singleton.mp h))
    · rename_i hu
      rw [if_neg hu]
      exact .inr (.inr (List.mem_singleton.mp h))

/-- Insertions, removals and scans, as they reach one port. The first two are commands of the
simulation; on hardware a scan meets whatever module is plugged in. -/
inductive SlotEvent
  | insert (page : Page)
  | remove
  | scan (hw : ScanHw)

/-- The port, and whether a scan has found it empty. -/
structure Slot where
  port : PmPort
  sawAbsent : Bool := false

section Removal

variable (pf : Platform)

def slotStep (s : Slot) : SlotEvent → Slot
  | .insert page => { s with port := { s.port with moduleData := some page } }
  | .remove => { s with port := { s.port with moduleData := none } }
  | .scan hw =>
    ⟨(pmReadModuleState pf hw s.port).port, s.sawAbsent || !pmGetPresence pf hw 0 s.port⟩

structure ReportsAbsent (port : PmPort) : Prop where
  present : port.present = false
  columns : port.ovsModuleColumns = fun field => match field with
    | .connector => some connectorAbsent
    | .connectorStatus => some connectorStatusUnrecognized
    | _ => none

/-- A scan of an empty port reports that it is empty, and a scan that reads a page after the
port has been empty reports the module with that page. -/
def Reported (s : Slot) : SlotEvent → Prop
  | .scan hw =>
    (pmGetPresence pf hw 0 s.port = false → ReportsAbsent (pmReadModuleState pf hw s.port).port) ∧
    (s.sawAbsent = true → pmGetPresence pf hw 0 s.port = true →
      ∀ inst page, .readA0 inst 0 page ∈ (pmReadModuleState pf hw s.port).calls →
        (pmReadModuleState pf hw s.port).port.ovsModuleColumns =
          (pmParse page s.port).2.1.ovsModuleColumns)
  | _ => True

def FoundPresent (s : Slot) : SlotEvent → Prop
  | .scan hw => pmGetPresence pf hw 0 s.port = true
  | _ => True

/-- Removals and replacements are reported in a run exactly when no scan of the run finds
the port empty. -/
theorem reported_iff_foundPresent {port : PmPort} (h : port.moduleDevice.isKnown = true)
    (events : List SlotEvent) :
    Along (slotStep pf) (Reported pf) ⟨port, false⟩ events ↔
      Along (slotStep pf) (FoundPresent pf) ⟨port, false⟩ events := by
  let I : Slot → Prop := fun s => s.sawAbsent = false ∧ s.port.moduleDevice.isKnown = true
  have hstep : ∀ s event, I s → FoundPresent pf s event → I (slotStep pf s event) := by
    rintro s event ⟨hs, hk⟩ hf
    cases event with
    | insert page => exact ⟨hs, hk⟩
    | remove => exact ⟨hs, hk⟩
    | scan hw =>
      have hf' : pmGetPresence pf hw 0 s.port = true := hf
      refine ⟨by simp [slotStep, hs, hf'], ?_⟩
      show (pmReadModuleState pf hw s.port).port.moduleDevice.isKnown = true
      rw [moduleDevice_pmReadModuleState]
      exact hk
  have hiff : ∀ s event, I s → (Reported pf s event ↔ FoundPresent pf s event) := by
    rintro s event ⟨hs, hk⟩
    cases event with
    | insert page => exact Iff.rfl
    | remove => exact Iff.rfl
    | scan hw =>
      constructor
      · rintro ⟨habsent, -⟩
        by_contra hf
        have hf' : pmGetPresence pf hw 0 s.port = false := by simpa [FoundPresent] using hf
        have hp := present_of_unread (unread_pmReadModuleState pf hw hk)
        rw [(habsent hf').present] at hp
        contradiction
      · intro hf
        have hf' : pmGetPresence pf hw 0 s.port = true := hf
        refine ⟨fun hn => ?_, fun hn => ?_⟩
        · rw [hf'] at hn
          contradiction
        · rw [hs] at hn
          contradiction
  refine along_congr_of_invariant (fun s event hI _ => hiff s event hI) ?_ ⟨rfl, h⟩
    (along_true _ events)
  intro s event hI _ hr
  exact hstep s event hI ((hiff s event hI).mp hr)

end Removal

/-- The registers of an empty cage, whose bus still answers. -/
def emptyHw (page : Page) : ScanHw where
  modPresent := fun _ _ _ _ => ⟨0, 0⟩
  serialId := fun _ _ _ _ => ⟨0, page⟩
  dom := fun _ _ _ => ⟨0, Page.zero⟩

/-- A module that stays is scanned twice. -/
theorem reported_iff_foundPresent_lr4 :
    Along (slotStep Switch.platform) (Reported Switch.platform) ⟨Switch.port1, false⟩
        [.insert Switch.lr4Page, .scan (Switch.hwOf Switch.lr4Page),
          .scan (Switch.hwOf Switch.lr4Page)] ↔
      Along (slotStep Switch.platform) (FoundPresent Switch.platform) ⟨Switch.port1, false⟩
        [.insert Switch.lr4Page, .scan (Switch.hwOf Switch.lr4Page),
          .scan (Switch.hwOf Switch.lr4Page)] :=
  reported_iff_foundPresent _ (by decide) _

/-- A module is scanned and pulled out: the next scan still shows the module. -/
theorem not_reported_removal : ¬ Along (slotStep Switch.platform) (Reported Switch.platform)
    ⟨Switch.port1, false⟩
    [.insert Switch.lr4Page, .scan (Switch.hwOf Switch.lr4Page), .remove,
      .scan (emptyHw Page.zero)] := by
  rintro ⟨-, -, -, ⟨habsent, -⟩, -⟩
  have hp := (habsent (by decide)).present
  contradiction

/-! ## Pages that cannot be trusted -/

/-- An attempt of the scan succeeded with a page whose checksums are right. -/
def GoodRead (scan : Scan) : Prop :=
  ∃ inst page, .readA0 inst 0 page ∈ scan.calls ∧ sfppSumVerify page = 0

def ReadsPage (scan : Scan) : Prop := ∃ inst rc page, Call.readA0 inst rc page ∈ scan.calls

def Unrecognized (port : PmPort) : Prop :=
  port.ovsModuleColumns = fun field => match field with
    | .connector => some connectorUnknown
    | .connectorStatus => some connectorStatusUnrecognized
    | _ => none

section BadPages

variable (pf : Platform)

/-- The port after one scan for each answer of the hardware. -/
def scans (port : PmPort) (hws : List ScanHw) : PmPort :=
  run (fun port hw => (pmReadModuleState pf hw port).port) port hws

/-- Without a good read the port is not recognized and the next scan reads again; once some
later scan reads a good page, the port is identified from it. -/
structure RefusesBadPages (port : PmPort) (hw : ScanHw) : Prop where
  unrecognized : ¬ GoodRead (pmReadModuleState pf hw port) →
    Unrecognized (pmReadModuleState pf hw port).port
  retried : ¬ GoodRead (pmReadModuleState pf hw port) → ∀ next,
    pmGetPresence pf next 0 (pmReadModuleState pf hw port).port = true →
    ReadsPage (pmReadModuleState pf next (pmReadModuleState pf hw port).port)
  recovers : ∀ hws last inst page,
    .readA0 inst 0 page ∈ (pmReadModuleState pf last
      (scans pf (pmReadModuleState pf hw port).port hws)).calls →
    sfppSumVerify page = 0 →
    (pmReadModuleState pf last
        (scans pf (pmReadModuleState pf hw port).port hws)).port.ovsModuleColumns =
      (pmParse page (scans pf (pmReadModuleState pf hw port).port hws)).2.1.ovsModuleColumns

lemma moduleDevice_scans (port : PmPort) (hws : List ScanHw) :
    (scans pf port hws).moduleDevice = port.moduleDevice :=
  run_invariant (I := fun p : PmPort => p.moduleDevice = port.moduleDevice)
    (fun p hw hp => (moduleDevice_pmReadModuleState pf hw p).trans hp) rfl hws

lemma supportedSpeeds_deleteCable (port : PmPort) (optical : Bool) (connector status : Text)
    (speed : Int) :
    (port.classify optical connector status speed).deleteCable.ovsModuleColumns .supportedSpeeds
      ≠ none := by
  simp [PmPort.classify, PmPort.deleteCable, joinSpeeds, Function.update]

lemma supportedSpeeds_classifySfpPlus (page : Page) (port : PmPort) :
    (classifySfpPlus page port).ovsModuleColumns .supportedSpeeds ≠ none := by
  rw [classifySfpPlus_eq]
  exact supportedSpeeds_deleteCable port _ _ _ _

lemma supportedSpeeds_classifyQsfpPlus (page : Page) (port : PmPort) :
    (classifyQsfpPlus page port).ovsModuleColumns .supportedSpeeds ≠ none := by
  obtain ⟨_, _, _, _, -, h⟩ := exists_classifyQsfpPlus page
  rw [h]
  exact supportedSpeeds_deleteCable port _ _ _ _

lemma supportedSpeeds_classifyQsfp28 (page : Page) (port : PmPort) :
    (classifyQsfp28 page port).ovsModuleColumns .supportedSpeeds ≠ none := by
  obtain ⟨_, _, _, _, -, h⟩ := exists_classifyQsfp28 page
  rw [h]
  exact supportedSpeeds_deleteCable port _ _ _ _

/-- Whatever the page holds, the parser finds speeds for a pluggable port of a known kind. -/
lemma supportedSpeeds_pmParse {port : PmPort} (h : port.moduleDevice.isKnown = true)
    (hp : port.moduleDevice.pluggable = true) (page : Page) :
    (pmParse page port).2.1.ovsModuleColumns .supportedSpeeds ≠ none := by
  have hconn := connector_ne_none_of_isKnown h
  unfold pmParse
  simp only [hp, h, hconn, Bool.not_true, Bool.false_eq_true, if_false]
  split
  · simpa [fillSfpPlus, Function.update] using
      supportedSpeeds_classifySfpPlus (SfpSerialId.setEnet10gbaseSr page) port
  split
  · simpa [fillQsfp, Function.update] using
      supportedSpeeds_classifyQsfpPlus (SfpSerialId.setEnet10gbaseSr page) port
  · rw [fillQsfp28_eq]
    simpa [fillQsfp, Function.update] using
      supportedSpeeds_classifyQsfp28 (SfpSerialId.setEnet10gbaseSr page) port

/-- A scan of a module that is there makes one attempt, so it is good if that attempt is. -/
lemma goodRead_iff {hw : ScanHw} {port : PmPort} (h : port.moduleDevice.isKnown = true)
    (hunread : port.unread = true) (hpresent : pmGetPresence pf hw 0 port = true) :
    GoodRead (pmReadModuleState pf hw port) ↔
      (pmReadA0 pf hw 0 port).1.rc = 0 ∧ sfppSumVerify (pmReadA0 pf hw 0 port).1.data = 0 := by
  constructor
  · rintro ⟨inst, page, hmem, hsum⟩
    obtain ⟨-, hrc, hpage⟩ := readA0_mem_calls h hmem
    exact ⟨hrc.symm, hpage ▸ hsum⟩
  · rintro ⟨hrc, hsum⟩
    refine ⟨port.inst, (pmReadA0 pf hw 0 port).1.data, ?_, hsum⟩
    have hcalls : (pmReadA0 pf hw 0 port).2 =
        [.readA0 port.inst (pmReadA0 pf hw 0 port).1.rc (pmReadA0 pf hw 0 port).1.data] := by
      unfold pmReadA0
      unfold pmGetPresence at hpresent
      split at hpresent
      · rename_i hsim
        obtain ⟨module, hmodule⟩ := Option.isSome_iff_exists.mp hpresent
        simp [hsim, hmodule]
      · rename_i hsim
        simp [hsim]
    rw [pmReadModuleState_eq pf hw h, if_pos hunread, hcalls, hrc]
    simp

/-- A scan does not move the module. -/
lemma pmGetPresence_pmReadModuleState {hw next : ScanHw} {port : PmPort}
    (h : port.moduleDevice.isKnown = true) :
    pmGetPresence pf next 0 (pmReadModuleState pf hw port).port = pmGetPresence pf next 0 port := by
  rw [pmReadModuleState_eq pf hw h]
  split
  · obtain ⟨requested, hrecord⟩ := record_identified (pmReadA0 pf hw 0 port).1.data port
    have hdata := congrArg PmPort.Record.moduleData hrecord
    have hdevice := congrArg PmPort.Record.moduleDevice hrecord
    have hsubsystem := congrArg PmPort.Record.subsystem hrecord
    have hdata' : (identified (pmReadA0 pf hw 0 port).1.data port).moduleData = port.moduleData :=
      hdata
    have hdevice' : (identified (pmReadA0 pf hw 0 port).1.data port).moduleDevice =
        port.moduleDevice := hdevice
    have hsubsystem' : (identified (pmReadA0 pf hw 0 port).1.data port).subsystem =
        port.subsystem := hsubsystem
    unfold pmGetPresence
    rw [hdata', hdevice', hsubsystem']
  · rfl

/-- A scan of a module that has not been identified refuses bad pages exactly when its first
read of the page is good. -/
theorem refusesBadPages_iff {hw : ScanHw} {port : PmPort}
    (h : port.moduleDevice.isKnown = true) (hunread : port.unread = true)
    (hpresent : pmGetPresence pf hw 0 port = true) :
    RefusesBadPages pf port hw ↔
      (pmReadA0 pf hw 0 port).1.rc = 0 ∧ sfppSumVerify (pmReadA0 pf hw 0 port).1.data = 0 := by
  rw [← goodRead_iff pf h hunread hpresent]
  constructor
  · intro hrefuse
    by_contra hbad
    -- the page has been parsed, so that no later scan reads it again
    obtain ⟨inst, rc, page, hmem⟩ := hrefuse.retried hbad hw
      ((pmGetPresence_pmReadModuleState pf h).trans hpresent)
    have hknown : (pmReadModuleState pf hw port).port.moduleDevice.isKnown = true := by
      rw [moduleDevice_pmReadModuleState]
      exact h
    have hread := (readA0_mem_calls hknown hmem).1
    rw [unread_pmReadModuleState pf hw h] at hread
    contradiction
  · intro hgood
    refine ⟨fun hbad => absurd hgood hbad, fun hbad => absurd hgood hbad, ?_⟩
    intro hws last inst page hmem _
    have hk : (scans pf (pmReadModuleState pf hw port).port hws).moduleDevice.isKnown = true := by
      rw [moduleDevice_scans, moduleDevice_pmReadModuleState]
      exact h
    obtain ⟨hu, -, hpage⟩ := readA0_mem_calls hk hmem
    rw [pmReadModuleState_eq pf last hk, if_pos hu, ovsModuleColumns_identified, hpage]

/-- A page with one bit set and no checksum for it, on port `1`. -/
theorem refusesBadPages_iff_lr4 :
    RefusesBadPages Switch.platform Switch.port1 (Switch.hwOf Switch.lr4Page) ↔
      (pmReadA0 Switch.platform (Switch.hwOf Switch.lr4Page) 0 Switch.port1).1.rc = 0 ∧
      sfppSumVerify
        (pmReadA0 Switch.platform (Switch.hwOf Switch.lr4Page) 0 Switch.port1).1.data = 0 :=
  refusesBadPages_iff _ (by decide) (by decide) (by decide)

/-- The corrupted page is taken for a long-range module. -/
theorem not_refusesBadPages_lr4 :
    ¬ RefusesBadPages Switch.platform Switch.port1 (Switch.hwOf Switch.lr4Page) := by
  intro hrefuse
  have hbad : ¬ GoodRead (pmReadModuleState Switch.platform (Switch.hwOf Switch.lr4Page)
      Switch.port1) := by
    rw [goodRead_iff Switch.platform (by decide) (by decide) (by decide)]
    decide +kernel
  have hcols := congrFun (hrefuse.unrecognized hbad) .supportedSpeeds
  rw [pmReadModuleState_eq _ _ (by decide), if_pos (by decide),
    ovsModuleColumns_identified] at hcols
  exact supportedSpeeds_pmParse (by decide) (by decide) _ hcols

end BadPages

end OpsPmd
