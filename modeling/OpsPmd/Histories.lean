import OpsPmd.MemorySafety
import OpsPmd.Table

/-!
# What a record knows

Since a record is created, its module is read once and reported once. The record is at every
time a function of its setting, of the page that was read, if it was, and of whether the
report has been made.
-/

namespace OpsPmd

open Lib

/-- The pages that have been read from the module of a port, and what has been put into
transactions for its row, with the outcome of the commit. -/
structure History where
  pages : List Page := []
  reports : List (PmInfo × Bool) := []

/-- The entry of a transaction for the row `uuid`. -/
def History.report (uuid : Uuid) (committed : Bool) (h : History) (entry : Uuid × PmInfo) :
    History :=
  if entry.1 = uuid then { h with reports := h.reports ++ [(entry.2, committed)] } else h

def History.step (name : String) (uuid : Uuid) (h : History) : Call → History
  | .intfCreate _ inst => if inst = name then {} else h
  | .readA0 inst _ page => if inst = name then { h with pages := h.pages ++ [page] } else h
  | .commitBlock txn committed => txn.pmInfo.foldl (History.report uuid committed) h
  | _ => h

/-- What has happened since the daemon last set out to create a record for `name`. -/
def history (name : String) (uuid : Uuid) (calls : List Call) : History :=
  calls.foldl (History.step name uuid) {}

/-- The record when it was new, with the setting of today. -/
def PmPort.blank (port : PmPort) : PmPort :=
  { port with
    ovsModuleColumns := fun _ => none
    ovsModuleDomColumns := fun _ => none
    moduleInfoChanged := false
    present := false
    retry := false
    a2ReadRequested := false
    optical := false }

/-- The record is what its history makes of a new one. -/
inductive FollowsHistory (port : PmPort) : History → Prop
  | unread : port = port.blank → FollowsHistory port {}
  | unreported (page : Page) : port.moduleDevice.isKnown = true →
      port = identified page port.blank → FollowsHistory port { pages := [page] }
  | reported (page : Page) (committed : Bool) : port.moduleDevice.isKnown = true →
      port = { identified page port.blank with moduleInfoChanged := false } →
      FollowsHistory port
        { pages := [page], reports := [(pmInfoOf port.ovsModuleColumns, committed)] }

/-- The fields that scans and publications write to. -/
structure PmPort.Contents where
  columns : OvsModuleInfo := fun _ => none
  domColumns : OvsModuleDomInfo := fun _ => none
  moduleInfoChanged : Bool := false
  present : Bool := false
  retry : Bool := false
  a2ReadRequested : Bool := false
  optical : Bool := false

def PmPort.contents (port : PmPort) : PmPort.Contents :=
  ⟨port.ovsModuleColumns, port.ovsModuleDomColumns, port.moduleInfoChanged, port.present,
    port.retry, port.a2ReadRequested, port.optical⟩

def PmPort.fill (port : PmPort) (c : PmPort.Contents) : PmPort :=
  { port with
    ovsModuleColumns := c.columns
    ovsModuleDomColumns := c.domColumns
    moduleInfoChanged := c.moduleInfoChanged
    present := c.present
    retry := c.retry
    a2ReadRequested := c.a2ReadRequested
    optical := c.optical }

section Contents

variable {fl : FloatArith}

/-- A macro call looks at the contents only. -/
lemma exists_apply (stmt : Stmt fl) : ∃ g : PmPort.Contents → PmPort.Contents,
    ∀ port : PmPort, stmt.apply port = port.fill (g port.contents) := by
  -- the macros that assign under a condition
  have hcolumn : ∀ (test : OvsModuleInfo → Bool) field value,
      ∃ g : PmPort.Contents → PmPort.Contents, ∀ port : PmPort,
        (if test port.ovsModuleColumns then port.setColumn field value else port) =
          port.fill (g port.contents) := by
    intro test field value
    refine ⟨fun c => if test c.columns then { c with
      columns := Function.update c.columns field value
      moduleInfoChanged := true } else c, fun port => ?_⟩
    rw [apply_ite port.fill]
    rfl
  have hdom : ∀ (test : OvsModuleDomInfo → Bool) field value,
      ∃ g : PmPort.Contents → PmPort.Contents, ∀ port : PmPort,
        (if test port.ovsModuleDomColumns then port.setDomColumn field value else port) =
          port.fill (g port.contents) := by
    intro test field value
    refine ⟨fun c => if test c.domColumns then { c with
      domColumns := Function.update c.domColumns field value
      moduleInfoChanged := true } else c, fun port => ?_⟩
    rw [apply_ite port.fill]
    rfl
  have hset : ∀ field value, ∃ g : PmPort.Contents → PmPort.Contents,
      ∀ port : PmPort, port.setColumn field value = port.fill (g port.contents) :=
    fun field value => ⟨fun c => { c with
      columns := Function.update c.columns field value
      moduleInfoChanged := true }, fun _ => rfl⟩
  have hdelete : ∀ field, ∃ g : PmPort.Contents → PmPort.Contents,
      ∀ port : PmPort, port.deleteColumn field = port.fill (g port.contents) := by
    intro field
    obtain ⟨g, hg⟩ := hcolumn (fun columns => columns field ≠ none) field none
    refine ⟨g, fun port => ?_⟩
    rw [← hg port]
    unfold PmPort.deleteColumn
    simp only [decide_eq_true_eq]
  cases stmt with
  | flag flag value =>
    cases flag with
    | present => exact ⟨fun c => { c with present := value }, fun _ => rfl⟩
    | retry => exact ⟨fun c => { c with retry := value }, fun _ => rfl⟩
    | a2ReadRequested => exact ⟨fun c => { c with a2ReadRequested := value }, fun _ => rfl⟩
    | optical => exact ⟨fun c => { c with optical := value }, fun _ => rfl⟩
  | setStaticString field value => exact hset field (some value)
  | setSupportedSpeeds speeds => exact hset .supportedSpeeds (joinSpeeds speeds)
  | setBinary field value => exact hset field (some (hexToAscii value))
  | setString field value =>
    exact hcolumn (fun columns => PmPort.differs (columns field) value) field (some value)
  | setIntString field value =>
    exact hcolumn (fun columns => (columns field).all (fun s => strtol s ≠ value)) field
      (some (decimal value))
  | delete field => exact hdelete field
  | deleteFree field => exact hdelete field
  | setFloatString field value =>
    exact hdom (fun columns => (columns field).all (fun s => !fl.eq (fl.ofInt (strtol s)) value))
      field (some (fl.fmt value))
  | setFlagString field value =>
    exact hdom (fun columns => PmPort.differs (columns field) value) field (some value)

lemma exists_applyAll (stmts : List (Stmt fl)) : ∃ g : PmPort.Contents → PmPort.Contents,
    ∀ port : PmPort, applyAll port stmts = port.fill (g port.contents) := by
  induction stmts with
  | nil => exact ⟨id, fun _ => rfl⟩
  | cons stmt stmts ih =>
    obtain ⟨g, hg⟩ := ih
    obtain ⟨g₁, hg₁⟩ := exists_apply stmt
    refine ⟨g ∘ g₁, fun port => ?_⟩
    show applyAll (stmt.apply port) stmts = _
    rw [hg₁, hg]
    rfl

variable (fl) in
/-- Identifying a module is a list of macro calls that only the device and the page decide. -/
lemma identified_eq_applyAll (page : Page) (port : PmPort) :
    identified page port = applyAll port ((parseScript fl page port.moduleDevice).2.1 ++
      [.flag .present true, .flag .retry false] ++
      a2RequestScript fl port.moduleDevice (parseScript fl page port.moduleDevice).2.2) := by
  have hdev := moduleDevice_pmParse page port
  unfold identified
  rw [parseScript_eq fl] at hdev ⊢
  rw [applyAll_append, applyAll_append]
  refine Eq.symm (applyAll_a2RequestScript ?_ _)
  exact hdev

end Contents

lemma exists_identified (device : YamlPort) (page : Page) :
    ∃ g : PmPort.Contents → PmPort.Contents, ∀ port : PmPort, port.moduleDevice = device →
      identified page port = port.fill (g port.contents) := by
  obtain ⟨g, hg⟩ := exists_applyAll ((parseScript Switch.hundredths page device).2.1 ++
    [.flag .present true, .flag .retry false] ++
    a2RequestScript Switch.hundredths device (parseScript Switch.hundredths page device).2.2)
  refine ⟨g, ?_⟩
  rintro port rfl
  rw [identified_eq_applyAll Switch.hundredths]
  exact hg port

@[simp] lemma blank_identified (page : Page) (port : PmPort) :
    (identified page port).blank = port.blank := by
  obtain ⟨g, hg⟩ := exists_identified port.moduleDevice page
  rw [hg port rfl]
  rfl

lemma identified_setting (page : Page) (hwEnable : Bool) (enable : UInt8) (port : PmPort) :
    identified page { port with hwEnable := hwEnable, portEnable := enable } =
      { identified page port with hwEnable := hwEnable, portEnable := enable } := by
  obtain ⟨g, hg⟩ := exists_identified port.moduleDevice page
  have hport := hg port rfl
  have hset := hg { port with hwEnable := hwEnable, portEnable := enable } rfl
  rw [hset, hport]
  rfl

lemma FollowsHistory.setting {port : PmPort} {h : History} (hwEnable : Bool) (enable : UInt8)
    (hf : FollowsHistory port h) :
    FollowsHistory { port with hwEnable := hwEnable, portEnable := enable } h := by
  cases hf with
  | unread hport =>
    exact .unread (congrArg (fun p : PmPort => { p with
      hwEnable := hwEnable, portEnable := enable }) hport)
  | unreported page hk hport =>
    refine .unreported page hk ?_
    refine Eq.trans ?_ (identified_setting page hwEnable enable port.blank).symm
    exact congrArg (fun p : PmPort => { p with
      hwEnable := hwEnable, portEnable := enable }) hport
  | reported page committed hk hport =>
    refine .reported page committed hk ?_
    have hset := identified_setting page hwEnable enable port.blank
    refine Eq.trans (congrArg (fun p : PmPort => { p with
      hwEnable := hwEnable, portEnable := enable }) hport) ?_
    exact (congrArg (fun p : PmPort => { p with moduleInfoChanged := false }) hset).symm

/-- A scan reads the page if the record is new, and else leaves the record alone. -/
lemma FollowsHistory.scan {pf : Platform} (hhw : pf.simulation = false) (hw : ScanHw)
    {port : PmPort} {h : History} (hf : FollowsHistory port h) :
    FollowsHistory (pmReadModuleState pf hw port).port
      ((pmReadModuleState pf hw port).calls.foldl (History.step port.inst port.uuid) h) := by
  cases hk : port.moduleDevice.isKnown with
  | false =>
    rw [pmReadModuleState_of_not_isKnown pf hw hk]
    exact hf
  | true =>
    have hread : ∀ page, (identified page port.blank).unread = false := by
      intro page
      obtain ⟨hpresent, hretry⟩ := present_identified page port.blank
      unfold PmPort.unread
      rw [hpresent, hretry]
      rfl
    rw [pmReadModuleState_eq pf hw hk]
    cases hf with
    | unread hport =>
      have hunread : port.unread = true := by
        rw [hport]
        rfl
      rw [if_pos hunread]
      have hcalls : (pmReadA0 pf hw 0 port).2 = [.readA0 port.inst (pmReadA0 pf hw 0 port).1.rc
          (pmReadA0 pf hw 0 port).1.data] := by
        unfold pmReadA0
        simp [hhw]
      have hfold : ((pmReadA0 pf hw 0 port).2 ++ [Call.readModuleState port.inst port.uuid 0]).foldl
          (History.step port.inst port.uuid) {} =
          { pages := [(pmReadA0 pf hw 0 port).1.data] } := by
        rw [hcalls]
        simp [History.step]
      show FollowsHistory (identified _ port) (List.foldl _ _ (_ ++ _))
      rw [hfold]
      have hdev : (identified (pmReadA0 pf hw 0 port).1.data port).moduleDevice =
          port.moduleDevice := congrArg PmPort.Config.moduleDevice (config_identified _ port)
      refine .unreported _ (hdev ▸ hk) ?_
      rw [blank_identified, ← hport]
    | unreported page hk' hport =>
      have hunread : port.unread = false := by
        rw [hport]
        exact hread page
      rw [if_neg (by simp [hunread])]
      exact .unreported page hk' hport
    | reported page committed hk' hport =>
      have hunread : port.unread = false := by
        rw [hport]
        exact hread page
      rw [if_neg (by simp [hunread])]
      exact .reported page committed hk' hport

/-- A publication reports what has been read and not reported yet. -/
lemma FollowsHistory.publish {replica : Replica} (committed : Bool) {port : PmPort} {h : History}
    (hf : FollowsHistory port h) :
    FollowsHistory (publishPort replica port).1
      ((publishPort replica port).2.toList.foldl (History.report port.uuid committed) h) := by
  unfold publishPort
  split
  · exact hf
  split
  · exact hf
  rename_i hchanged
  cases hf with
  | unread hport =>
    rw [hport] at hchanged
    exact absurd rfl hchanged
  | unreported page hk hport =>
    have hstep : History.report port.uuid committed { pages := [page] }
        (port.uuid, pmInfoOf port.ovsModuleColumns) =
        { pages := [page], reports := [(pmInfoOf port.ovsModuleColumns, committed)] } :=
      if_pos rfl
    show FollowsHistory _ (History.report _ _ _ _)
    rw [hstep]
    refine .reported page committed hk ?_
    exact congrArg (fun p : PmPort => { p with moduleInfoChanged := false }) hport
  | reported page committed' hk hport =>
    rw [hport] at hchanged
    exact absurd rfl hchanged

/-! ## Steps of the daemon -/

/-- The history of any port stays what it was. -/
def Call.silent : Call → Bool
  | .intfCreate .. => false
  | .readA0 .. => false
  | .commitBlock .. => false
  | _ => true

lemma history_append (name : String) (uuid : Uuid) (xs ys : List Call) :
    history name uuid (xs ++ ys) = ys.foldl (History.step name uuid) (history name uuid xs) :=
  List.foldl_append

lemma history_append_of_silent {name : String} {uuid : Uuid} {xs ys : List Call}
    (h : ∀ call ∈ ys, call.silent = true) :
    history name uuid (xs ++ ys) = history name uuid xs := by
  rw [history_append]
  refine foldl_eq_self (fun call hcall s => ?_) _
  have hsilent := h call hcall
  cases call with
  | intfCreate subsystem inst => contradiction
  | readA0 inst rc page => contradiction
  | commitBlock txn committed => contradiction
  | _ => rfl

lemma silent_pmConfigurePort {pf : Platform} {port : PmPort} {call : Call}
    (h : call ∈ (pmConfigurePort pf port).2) : call.silent = true := by
  unfold pmConfigurePort pmConfigureQsfp at h
  split at h
  · split at h
    · simp at h
    split at h
    · simp at h
    split at h
    · simp at h
    · rw [List.mem_singleton.mp h]
      rfl
  split at h
  · simp at h
  split at h
  all_goals
    rw [List.mem_singleton.mp h]
    rfl

lemma silent_pmClearReset {port : PmPort} {call : Call} (h : call ∈ pmClearReset port) :
    call.silent = true := by
  obtain ⟨signal, regOp, data, rfl, -⟩ := mem_pmClearReset h
  rfl

lemma silent_loadCalls {reads : YamlReads} {sub : OvsrecSubsystem} {call : Call}
    (h : call ∈ loadCalls reads sub) : call.silent = true := by
  obtain rfl | rfl | rfl := mem_loadCalls h
  · rfl
  · rfl
  · rfl

lemma TableInv.eq_of_uuid_eq {replica : Replica} {intfs : Shash String PmPort}
    (h : TableInv replica intfs) {n m : String × PmPort} (hn : n ∈ intfs) (hm : m ∈ intfs)
    (huuid : n.2.uuid = m.2.uuid) : n = m := by
  obtain ⟨intf, hintf, hname, hu⟩ := h.row n.1 n.2 hn
  obtain ⟨intf', hintf', hname', hu'⟩ := h.row m.1 m.2 hm
  have hsame : intf = intf' := List.inj_on_of_nodup_map replica.uuid_nodup hintf hintf'
    (hu.trans (huuid.trans hu'.symm))
  have hkey : n.1 = m.1 := by rw [← hname, ← hname', hsame]
  obtain ⟨name, port⟩ := n
  obtain ⟨name', port'⟩ := m
  obtain rfl : name = name' := hkey
  rw [Shash.eq_of_mem_of_nodup h.nodup hn hm]

/-- `P` holds of every record and its history. -/
def Records (P : PmPort → History → Prop) (s : Pmd) : Prop :=
  ∀ name port, (name, port) ∈ s.ovsIntfs → P port (history name port.uuid s.calls)

/-- `P` holds of new records, and neither a change of the setting nor a scan breaks it, as long as
the hardware is as it may be for the port of that name. -/
structure Kept (pf : Platform) (hardware : String → ScanHw → Prop)
    (P : PmPort → History → Prop) : Prop where
  create : ∀ intf subName yamlPort, P (createdPort pf intf subName yamlPort) {}
  modify : ∀ intf port h, P port h → P (ovsdbIfIntfModify pf intf port).1 h
  scan : ∀ hw port h, hardware port.inst hw → P port h → P (pmReadModuleState pf hw port).port
    ((pmReadModuleState pf hw port).calls.foldl (History.step port.inst port.uuid) h)

lemma kept_followsHistory {pf : Platform} (hhw : pf.simulation = false) :
    Kept pf (fun _ _ => True) FollowsHistory where
  create := by
    intro intf subName yamlPort
    obtain ⟨enable, hport⟩ := pmConfigurePort_port pf (newPort pf intf subName yamlPort)
    refine .unread ?_
    unfold createdPort
    rw [hport]
    rfl
  modify := by
    intro intf port h hf
    obtain ⟨enable, hport⟩ := ovsdbIfIntfModify_port pf intf port
    rw [hport]
    exact hf.setting (ovsdbIfIntfGetHwEnable pf intf) enable
  scan := fun hw _ _ _ hf => hf.scan hhw hw

namespace Kept

variable {pf : Platform} {hardware : String → ScanHw → Prop} {P : PmPort → History → Prop}
  {replica : Replica} {s : Pmd}

lemma of_subset {s' : Pmd} {new : List Call} (h : Records P s)
    (hsub : ∀ n ∈ s'.ovsIntfs, n ∈ s.ovsIntfs) (hcalls : s'.calls = s.calls ++ new)
    (hnew : ∀ call ∈ new, call.silent = true) : Records P s' := by
  intro name port hmem
  rw [hcalls, history_append_of_silent hnew]
  exact h name port (hsub _ hmem)

lemma ovsdbIfIntfCreate (hP : Kept pf hardware P) (h : Records P s) {intf : OvsrecInterface}
    (subName : String) (hnew : intf.name ∉ s.ovsIntfs.keys) :
    Records P (ovsdbIfIntfCreate pf s intf subName) := by
  have hother : ∀ name port, (name, port) ∈ s.ovsIntfs → ∀ hardware : List Call,
      (∀ call ∈ hardware, call.silent = true) →
      P port (history name port.uuid (s.calls ++ .intfCreate subName intf.name :: hardware)) := by
    intro name port hmem hardware hsilent
    have hne : intf.name ≠ name := by
      rintro rfl
      exact hnew (Shash.mem_keys_of_mem hmem)
    rw [List.append_cons, history_append_of_silent hsilent, history_append]
    show P port (if intf.name = name then _ else _)
    rw [if_neg hne]
    exact h name port hmem
  have hwrites : ∀ yamlPort, ∀ call ∈
      (pmConfigurePort pf (newPort pf intf subName yamlPort)).2 ++
        pmClearReset (createdPort pf intf subName yamlPort), call.silent = true := by
    intro yamlPort call hcall
    rcases List.mem_append.mp hcall with hc | hc
    · exact silent_pmConfigurePort hc
    · exact silent_pmClearReset hc
  rcases ovsdbIfIntfCreate_cases pf s intf subName with ⟨yamlPort, -, -, he⟩ | ⟨-, he⟩
  · rw [he]
    intro name port hmem
    rcases Shash.mem_add.mp hmem with hold | ⟨rfl, rfl⟩
    · exact hother name port hold _ (hwrites yamlPort)
    · show P _ (history _ _ (s.calls ++ createCalls pf intf subName yamlPort))
      unfold createCalls
      rw [List.append_cons, history_append_of_silent (hwrites yamlPort), history_append]
      show P _ (if intf.name = intf.name then {} else _)
      rw [if_pos rfl]
      exact hP.create intf subName yamlPort
  · rw [he]
    intro name port hmem
    exact hother name port hmem [] (by simp)

lemma modifyInterface (hP : Kept pf hardware P) (hnodup : s.ovsIntfs.keys.Nodup) (h : Records P s)
    (intf : OvsrecInterface) : Records P (modifyInterface pf s intf) := by
  rcases modifyInterface_cases pf s intf with ⟨-, he⟩ | ⟨old, hold, he⟩
  · rw [he]
    exact h
  have huuid : (ovsdbIfIntfModify pf intf old).1.uuid = old.uuid := by
    obtain ⟨enable, hport⟩ := ovsdbIfIntfModify_port pf intf old
    rw [hport]
  rw [he]
  intro name port hmem
  have hsilent : ∀ call ∈ (ovsdbIfIntfModify pf intf old).2, call.silent = true :=
    fun call hcall => silent_pmConfigurePort (mem_ovsdbIfIntfModify hcall)
  show P port (history name port.uuid (s.calls ++ (ovsdbIfIntfModify pf intf old).2))
  rw [history_append_of_silent hsilent]
  rcases (Shash.mem_set hnodup).mp hmem with ⟨-, hmem'⟩ | ⟨rfl, rfl, -⟩
  · exact h name port hmem'
  · rw [huuid]
    exact hP.modify intf old _ (h intf.name old hold)

theorem pmdReconfigure (hP : Kept pf hardware P) {reads : YamlReads} {w : World} {idl : Idl}
    (hsync : Synced pf w) (hf : Follows w.idl idl) (h : Records P w.pmd) :
    Records P (pmdReconfigure pf reads idl w.pmd) := by
  by_cases he : idl.seqno = w.pmd.idlSeqno
  · rw [pmdReconfigure_of_eq he]
    exact h
  suffices hJ : TableInv idl.replica (OpsPmd.pmdReconfigure pf reads idl w.pmd).ovsIntfs ∧
      Records P (OpsPmd.pmdReconfigure pf reads idl w.pmd) from hJ.2
  refine pmdReconfigure_rule (J := fun s => TableInv idl.replica s.ovsIntfs ∧ Records P s) he
    ⟨tableInv_afterDeletes hsync.table hf.intfs, ?_⟩ ?_ ?_ ?_
  · exact of_subset h (fun n hn => (afterDeletes_sublist idl w.pmd).subset hn)
      (List.append_nil _).symm (by simp)
  · rintro s sub - - ⟨htable, hs⟩
    exact ⟨htable, of_subset hs (fun _ hn => hn) (calls_loadSubsystem reads s sub)
      fun call hcall => silent_loadCalls hcall⟩
  · rintro s sub hsub intf hintf hnew - ⟨htable, hs⟩
    exact ⟨tableInv_ovsdbIfIntfCreate htable (idl.replica.mem_interfaces sub hsub intf hintf) hnew,
      hP.ovsdbIfIntfCreate hs sub.name hnew⟩
  · rintro s intf - ⟨htable, hs⟩
    exact ⟨tableInv_modifyInterface htable pf intf, hP.modifyInterface htable.nodup hs intf⟩

/-- In the log of a scan of all ports, the entries about a port are those of its own scan. -/
theorem pmReadState (hP : Kept pf hardware P) (htable : TableInv replica s.ovsIntfs)
    (h : Records P s) {hw : String → ScanHw} (hhw : ∀ name, hardware name (hw name)) :
    Records P (pmReadState pf hw s) := by
  intro name port hmem
  obtain ⟨old, hold, rfl⟩ := Shash.mem_map.mp hmem
  have huuid : (pmReadModuleState pf (hw name) old).port.uuid = old.uuid :=
    congrArg PmPort.Config.uuid (config_pmReadModuleState pf (hw name) old)
  have hinst := htable.inst name old hold
  rw [calls_pmReadState, history_append, huuid]
  unfold scanCalls
  rw [foldl_flatMap_of_only hold (List.Nodup.of_map Prod.fst htable.nodup)]
  · have hscan := hP.scan (hw name) old _ (hinst ▸ hhw name) (h name old hold)
    rwa [hinst] at hscan
  · rintro ⟨name', other⟩ hother hne call hcall h'
    have hname : other.inst ≠ name := by
      rw [htable.inst name' other hother]
      rintro rfl
      exact hne (congrArg _ (Shash.eq_of_mem_of_nodup htable.nodup hother hold))
    rcases mem_calls_pmReadModuleState hcall with ⟨rc, page, rfl⟩ | rfl | rfl
    · exact if_neg hname
    · rfl
    · rfl

end Kept

/-- In a transaction, the entries for the row of a port are those of its own publication. -/
lemma records_pmOvsdbUpdate {replica : Replica} {committed : Bool} {s : Pmd}
    {P Q : PmPort → History → Prop} (htable : TableInv replica s.ovsIntfs) (h : Records P s)
    (hpublish : ∀ name port, (name, port) ∈ s.ovsIntfs → ∀ h, P port h →
      Q (publishPort replica port).1
        ((publishPort replica port).2.toList.foldl (History.report port.uuid committed) h)) :
    Records Q (pmOvsdbUpdate replica committed s) := by
  intro name port hmem
  obtain ⟨old, hold, rfl⟩ := Shash.mem_map.mp hmem
  have huuid : (publishPort replica old).1.uuid = old.uuid :=
    congrArg PmPort.Config.uuid (config_publishPort replica old)
  rw [huuid]
  show Q _ (history _ _ (s.calls ++ [.commitBlock ⟨s.ovsIntfs.filterMap
    fun node : String × PmPort => (publishPort replica node.2).2, _⟩ committed]))
  rw [history_append, List.filterMap_eq_flatMap_toList]
  show Q _ (List.foldl (History.report old.uuid committed) _ (List.flatMap _ _))
  rw [foldl_flatMap_of_only hold (List.Nodup.of_map Prod.fst htable.nodup)]
  · exact hpublish name old hold _ (h name old hold)
  · intro node hnode hne entry hentry h'
    refine if_neg ?_
    rw [uuid_of_mem_publishPort (Option.mem_toList.mp hentry)]
    intro heq
    exact hne (htable.eq_of_uuid_eq hnode hold heq)

lemma Reachable.followsHistory {pf : Platform} (hhw : pf.simulation = false) {w : World}
    (h : Reachable pf w) : Records FollowsHistory w.pmd := by
  obtain ⟨reads, seqno, events, hok, rfl⟩ := h
  have hstart : Synced pf (World.start pf reads seqno) ∧
      Records FollowsHistory (World.start pf reads seqno).pmd :=
    ⟨synced_start pf reads seqno, by simp [Records, pmd_start]⟩
  have hkept := kept_followsHistory hhw
  refine (Along.invariant (I := fun w => Synced pf w ∧ Records FollowsHistory w.pmd)
    ?_ hstart hok).2
  rintro w event ⟨hsync, h⟩ hadmissible
  refine ⟨synced_step hsync hadmissible, ?_⟩
  cases event with
  | reconfigure reads idl => exact hkept.pmdReconfigure hsync hadmissible h
  | readState hw => exact hkept.pmReadState hsync.table h fun _ => trivial
  | update committed =>
    exact records_pmOvsdbUpdate hsync.table h fun _ _ _ _ hf => hf.publish committed

/-- On hardware, in every state that the daemon can get to, each record is a new one, or what
its device makes of the one page that was read since it was created, not reported or reported
once. -/
theorem followsHistory_of_run (pf : Platform) (hhw : pf.simulation = false) (reads : YamlReads)
    (seqno : UInt32) {events : List Event}
    (hok : Along (World.step pf) Admissible (World.start pf reads seqno) events) :
    Records FollowsHistory (run (World.step pf) (World.start pf reads seqno) events).pmd :=
  Reachable.followsHistory hhw ⟨reads, seqno, events, hok, rfl⟩

/-- The row of a port is replaced by another one of its name, and its module is read again. -/
theorem followsHistory_of_run_recreated :
    Records FollowsHistory (run (World.step Switch.platform)
      (World.start Switch.platform Switch.reads 0)
      [.reconfigure Switch.reads (Switch.idlOf (Switch.intf "1" 1 "true") 1),
        .readState (fun _ => Switch.hwOf Switch.lr4Page), .update true,
        .reconfigure Switch.reads (Switch.idlOf (Switch.intf "1" 2 "false") 2),
        .readState (fun _ => Switch.hwOf Switch.lr4Page)]).pmd := by
  apply followsHistory_of_run Switch.platform rfl
  exact ⟨⟨by decide, by decide, by decide, by decide⟩, trivial, trivial,
    ⟨by decide, by decide, by decide, by decide⟩, trivial, trivial⟩

end OpsPmd
