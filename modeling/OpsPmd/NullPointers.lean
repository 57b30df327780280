import OpsPmd.Origins

/-!
# Null pointers

Three pointers may be null when the daemon follows them: the connector of a port, which every
function of `plug.c` compares first, the operation that turns a transmitter off, and the page of
the simulated module. The real process dies there. On hardware it lives, whatever the database
and the modules do, if the description files give every pluggable port what it needs.
-/

namespace OpsPmd

open Lib

def Call.isNullDeref : Call → Bool
  | .nullDeref _ => true
  | _ => false

/-- The calls that a function of `plug.c` makes for the port, which follow no null pointer and
come after a look at the connector. -/
structure Survives (port : PmPort) (calls : List Call) : Prop where
  connector : port.moduleDevice.connector ≠ none
  calls : ∀ call ∈ calls, call.isNullDeref = false

/-- No null pointer has been followed. -/
structure NoNull (s : Pmd) : Prop where
  connector : ∀ name port, (name, port) ∈ s.ovsIntfs → port.moduleDevice.connector ≠ none
  calls : ∀ call ∈ s.calls, call.isNullDeref = false

lemma noNull_start (pf : Platform) (reads : YamlReads) (seqno : UInt32) :
    NoNull (World.start pf reads seqno).pmd := by
  rw [pmd_start]
  exact ⟨by simp, by simp⟩

section Steps

variable {pf : Platform} {s : Pmd} {name : String} {port port' : PmPort}

lemma NoNull.of_log {new : List Call} (h : NoNull (s.log new)) : NoNull s :=
  ⟨h.connector, fun call hcall => h.calls call (List.mem_append_left new hcall)⟩

lemma NoNull.log (h : NoNull s) {new : List Call} (hnew : ∀ call ∈ new, call.isNullDeref = false) :
    NoNull (s.log new) := by
  refine ⟨h.connector, fun call hcall => ?_⟩
  rcases List.mem_append.mp hcall with hold | hcall
  · exact h.calls call hold
  · exact hnew call hcall

lemma isNullDeref_pmClearReset {call : Call} (h : call ∈ pmClearReset port) :
    call.isNullDeref = false := by
  obtain ⟨signal, regOp, data, rfl, -⟩ := mem_pmClearReset h
  rfl

lemma NoNull.afterDeletes (h : NoNull s) (idl : Idl) : NoNull (afterDeletes idl s) :=
  ⟨fun name port hmem => h.connector name port ((afterDeletes_sublist idl s).subset hmem), h.calls⟩

lemma noNull_loadSubsystem_iff (reads : YamlReads) (sub : OvsrecSubsystem) :
    NoNull (loadSubsystem reads s sub) ↔ NoNull s := by
  constructor
  · intro h
    refine ⟨h.connector, fun call hcall => h.calls call ?_⟩
    rw [calls_loadSubsystem]
    exact List.mem_append_left _ hcall
  · intro h
    refine ⟨h.connector, ?_⟩
    rw [calls_loadSubsystem]
    intro call hcall
    rcases List.mem_append.mp hcall with hold | hcall
    · exact h.calls call hold
    · rcases mem_loadCalls hcall with rfl | rfl | rfl
      · rfl
      · rfl
      · rfl

/-- A creation survives if the configuration of the new port does. -/
lemma noNull_ovsdbIfIntfCreate_iff {intf : OvsrecInterface} {subName : String} {yamlPort : YamlPort}
    (h : NoNull s) (hg : pmGetYamlPort s.yaml subName intf.name = some yamlPort)
    (hp : yamlPort.pluggable = true) :
    NoNull (ovsdbIfIntfCreate pf s intf subName) ↔
      Survives (newPort pf intf subName yamlPort)
        (pmConfigurePort pf (newPort pf intf subName yamlPort)).2 := by
  rw [ovsdbIfIntfCreate_of_pluggable hg hp]
  have hdev := moduleDevice_createdPort pf intf subName yamlPort
  constructor
  · intro hn
    refine ⟨?_, fun call hcall => hn.calls call ?_⟩
    · have hconnector := hn.connector intf.name _ (Shash.mem_add.mpr (.inr ⟨rfl, rfl⟩))
      rw [hdev] at hconnector
      exact hconnector
    · exact List.mem_append_right _ (List.mem_cons_of_mem _ (List.mem_append_left _ hcall))
  · intro hs
    have hadd : NoNull { s with
        ovsIntfs := s.ovsIntfs.add intf.name (createdPort pf intf subName yamlPort) } := by
      refine ⟨fun name port hmem => ?_, h.calls⟩
      rcases Shash.mem_add.mp hmem with hold | ⟨rfl, rfl⟩
      · exact h.connector name port hold
      · rw [hdev]
        exact hs.connector
    refine hadd.log fun call hcall => ?_
    rcases List.mem_cons.mp hcall with rfl | hcall
    · rfl
    rcases List.mem_append.mp hcall with hcall | hcall
    · exact hs.calls call hcall
    · exact isNullDeref_pmClearReset hcall

lemma NoNull.of_ovsdbIfIntfCreate {intf : OvsrecInterface} {subName : String}
    (h : NoNull (ovsdbIfIntfCreate pf s intf subName)) : NoNull s := by
  rcases ovsdbIfIntfCreate_cases pf s intf subName with ⟨yamlPort, -, -, hc⟩ | ⟨-, hc⟩
  · rw [hc] at h
    have hadd := h.of_log
    exact ⟨fun name port hmem => hadd.connector name port (Shash.mem_add.mpr (.inl hmem)),
      hadd.calls⟩
  · rw [hc] at h
    exact h.of_log

lemma NoNull.of_createMissing {intf : OvsrecInterface} {subName : String}
    (h : NoNull (createMissing pf subName s intf)) : NoNull s := by
  unfold OpsPmd.createMissing at h
  split at h
  · exact h.of_ovsdbIfIntfCreate
  · exact h

/-- A record is changed, but not its device. -/
lemma noNull_set_iff {calls : List Call} (h : NoNull s) (hmem : (name, port) ∈ s.ovsIntfs)
    (hdev : port'.moduleDevice = port.moduleDevice) :
    NoNull (({ s with ovsIntfs := s.ovsIntfs.set name port' } : Pmd).log calls) ↔
      Survives port calls := by
  constructor
  · intro hn
    exact ⟨h.connector name port hmem,
      fun call hcall => hn.calls call (List.mem_append_right _ hcall)⟩
  · intro hs
    have hset : NoNull { s with ovsIntfs := s.ovsIntfs.set name port' } := by
      refine ⟨fun name' other hmem' => ?_, h.calls⟩
      rcases Shash.mem_of_mem_set hmem' with hold | ⟨-, rfl⟩
      · exact h.connector name' other hold
      · rw [hdev]
        exact hs.connector
    exact hset.log hs.calls

variable (pf) in
lemma moduleDevice_ovsdbIfIntfModify (intf : OvsrecInterface) (port : PmPort) :
    (ovsdbIfIntfModify pf intf port).1.moduleDevice = port.moduleDevice := by
  obtain ⟨enable, hport⟩ := ovsdbIfIntfModify_port pf intf port
  rw [hport]

lemma NoNull.of_modifyInterface {intf : OvsrecInterface}
    (h : NoNull (modifyInterface pf s intf)) : NoNull s := by
  unfold OpsPmd.modifyInterface at h
  cases hf : s.ovsIntfs.find intf.name with
  | none =>
    rw [hf] at h
    exact h
  | some old =>
    rw [hf] at h
    have hset : NoNull { s with
        ovsIntfs := s.ovsIntfs.set intf.name (ovsdbIfIntfModify pf intf old).1 } := h.of_log
    refine ⟨fun name port hmem => ?_, hset.calls⟩
    rcases Shash.mem_set_of_mem hmem with hkept | ⟨-, hold⟩
    · exact hset.connector name port hkept
    -- the record that was overwritten had the device of the one that is there now
    obtain rfl := Option.some.inj (hf.symm.trans hold)
    have hkey := Shash.mem_keys_of_mem (Shash.mem_of_find_eq_some hf)
    have hfind := Shash.find_set hkey (ovsdbIfIntfModify pf intf old).1
    rw [← moduleDevice_ovsdbIfIntfModify pf intf old]
    refine hset.connector intf.name _ (Shash.mem_of_find_eq_some ?_)
    rw [hfind, Function.update_self]

/-- What has once followed a null pointer has done so for ever. -/
lemma NoNull.of_ovsdbIfSubsysProcess {reads : YamlReads} {sub : OvsrecSubsystem}
    (h : NoNull (ovsdbIfSubsysProcess pf reads s sub)) : NoNull s := by
  by_contra hnot
  exact ovsdbIfSubsysProcess_rule (J := fun s => ¬NoNull s)
    (fun s _ hs hn => hs ((noNull_loadSubsystem_iff reads sub).mp hn))
    (fun s intf _ _ _ hs hn => hs hn.of_ovsdbIfIntfCreate) hnot h

lemma noNull_pmReadState_iff (h : NoNull s) (hw : String → ScanHw) :
    NoNull (pmReadState pf hw s) ↔
      ∀ n ∈ s.ovsIntfs, Survives n.2 (pmReadModuleState pf (hw n.1) n.2).calls := by
  constructor
  · intro hn n hmem
    refine ⟨h.connector n.1 n.2 hmem, fun call hcall => hn.calls call ?_⟩
    rw [calls_pmReadState]
    exact List.mem_append_right _ (List.mem_flatMap.mpr ⟨n, hmem, hcall⟩)
  · intro hall
    refine ⟨fun name port hmem => ?_, fun call hcall => ?_⟩
    · obtain ⟨old, hold, rfl⟩ := Shash.mem_map.mp hmem
      have hdev := congrArg PmPort.Config.moduleDevice (config_pmReadModuleState pf (hw name) old)
      exact fun hnone =>
        h.connector name old hold ((congrArg YamlPort.connector hdev).symm.trans hnone)
    · rw [calls_pmReadState] at hcall
      rcases List.mem_append.mp hcall with hold | hscan
      · exact h.calls call hold
      · obtain ⟨n, hmem, hcall⟩ := List.mem_flatMap.mp hscan
        exact (hall n hmem).calls call hcall

lemma NoNull.pmOvsdbUpdate (h : NoNull s) (replica : Replica) (committed : Bool) :
    NoNull (pmOvsdbUpdate replica committed s) := by
  refine ⟨fun name port hmem => ?_, fun call hcall => ?_⟩
  · obtain ⟨old, hold, rfl⟩ := Shash.mem_map.mp hmem
    have hdev := congrArg PmPort.Config.moduleDevice (config_publishPort replica old)
    exact fun hnone =>
      h.connector name old hold ((congrArg YamlPort.connector hdev).symm.trans hnone)
  · rcases List.mem_append.mp hcall with hold | hcommit
    · exact h.calls call hold
    · rw [List.mem_singleton.mp hcommit]
      rfl

end Steps

/-- What the functions of `plug.c` follow without a test. -/
structure Equipped (device : YamlPort) : Prop where
  connector : device.connector ≠ none
  sfppTxDisable : device.isQsfp = false → device.moduleSignals.sfp.sfppTxDisable ≠ none

/-- The files give every pluggable port what the daemon needs. -/
def Complete (describes : String → YamlPort → Prop) : Prop :=
  ∀ subName port, describes subName port → port.pluggable = true → Equipped port

section Hardware

variable {describes : String → YamlPort → Prop} (hcomplete : Complete describes)
  {pf : Platform} (hhw : pf.simulation = false) {s : Pmd} {port : PmPort}
include hcomplete hhw

omit hcomplete in
lemma survives_pmConfigurePort (h : Equipped port.moduleDevice) :
    Survives port (pmConfigurePort pf port).2 := by
  refine ⟨h.connector, fun call hcall => ?_⟩
  unfold pmConfigurePort pmConfigureQsfp at hcall
  simp only [hhw, Bool.false_eq_true, if_false] at hcall
  split at hcall
  · split at hcall
    · exact absurd hcall List.not_mem_nil
    split at hcall
    · exact absurd hcall List.not_mem_nil
    · rw [List.mem_singleton.mp hcall]
      rfl
  rename_i hq
  split at hcall
  · rw [List.mem_singleton.mp hcall]
    rfl
  · rw [List.mem_singleton.mp hcall]
    rfl
  · rename_i hnone _
    exact absurd hnone (h.sfppTxDisable (by simpa using hq))

omit hcomplete in
lemma survives_pmReadModuleState (h : Equipped port.moduleDevice) (hw : ScanHw) :
    Survives port (pmReadModuleState pf hw port).calls := by
  refine ⟨h.connector, ?_⟩
  have hread : ∀ call ∈ (pmReadA0 pf hw 0 port).2, call.isNullDeref = false := by
    intro call hcall
    unfold pmReadA0 at hcall
    simp only [hhw, Bool.false_eq_true, if_false] at hcall
    rw [List.mem_singleton.mp hcall]
    rfl
  cases hk : port.moduleDevice.isKnown with
  | false =>
    rw [pmReadModuleState_of_not_isKnown pf hw hk]
    intro call hcall
    rw [List.mem_singleton.mp hcall]
    rfl
  | true =>
    rw [pmReadModuleState_eq pf hw hk]
    intro call hcall
    split at hcall
    · rcases List.mem_append.mp hcall with hcall | hcall
      · exact hread call hcall
      · rw [List.mem_singleton.mp hcall]
        rfl
    · rw [List.mem_singleton.mp hcall]
      rfl

/-- A pass creates ports with what they need, and configures no others. -/
lemma noNull_pmdReconfigure {reads : YamlReads} {idl : Idl} (h : NoNull s)
    (ho : Origins describes s) (hd : DescribedBy describes reads idl) :
    NoNull (pmdReconfigure pf reads idl s) := by
  by_cases he : idl.seqno = s.idlSeqno
  · rw [pmdReconfigure_of_eq he]
    exact h
  refine (pmdReconfigure_rule (J := fun s => Origins describes s ∧ NoNull s) he ⟨?_, ?_⟩ ?_ ?_ ?_).2
  · exact ho.afterDeletes idl
  · exact h.afterDeletes idl
  · rintro s sub hsub - ⟨ho, h⟩
    exact ⟨origins_loadSubsystem ho (hd sub hsub), (noNull_loadSubsystem_iff reads sub).mpr h⟩
  · rintro s sub - intf - - - ⟨ho, h⟩
    refine ⟨origins_ovsdbIfIntfCreate ho pf intf sub.name, ?_⟩
    rcases ovsdbIfIntfCreate_cases pf s intf sub.name with ⟨yamlPort, hg, hp, -⟩ | ⟨-, hc⟩
    · refine (noNull_ovsdbIfIntfCreate_iff h hg hp).mpr (survives_pmConfigurePort hhw ?_)
      have hdescribed := ho.yaml sub.name yamlPort (List.mem_of_find?_eq_some hg)
      exact hcomplete sub.name yamlPort hdescribed hp
    · rw [hc]
      refine h.log fun call hcall => ?_
      rw [List.mem_singleton.mp hcall]
      rfl
  · rintro s intf - ⟨ho, h⟩
    refine ⟨origins_modifyInterface ho pf intf, ?_⟩
    rcases modifyInterface_cases pf s intf with ⟨-, hc⟩ | ⟨old, hold, hc⟩
    · rw [hc]
      exact h
    · have hmade := ho.device intf.name old hold
      have hequipped : Equipped old.moduleDevice :=
        hcomplete old.subsystem old.moduleDevice hmade.described hmade.pluggable
      let port : PmPort := { old with hwEnable := ovsdbIfIntfGetHwEnable pf intf }
      have hport : Survives port (pmConfigurePort pf port).2 :=
        survives_pmConfigurePort hhw hequipped
      rw [hc]
      refine (noNull_set_iff h hold (moduleDevice_ovsdbIfIntfModify pf intf old)).mpr ?_
      exact ⟨hequipped.connector, fun call hcall => hport.calls call (mem_ovsdbIfIntfModify hcall)⟩

/-- The two parts are kept together: what is known of the descriptions makes the next step
safe. -/
lemma noNull_step {w : World} (event : Event) (h : Origins describes w.pmd ∧ NoNull w.pmd)
    (hd : Described describes w event) :
    Origins describes (w.step pf event).pmd ∧ NoNull (w.step pf event).pmd := by
  obtain ⟨ho, h⟩ := h
  cases event with
  | reconfigure reads idl =>
    exact ⟨origins_pmdReconfigure ho pf hd, noNull_pmdReconfigure hcomplete hhw h ho hd⟩
  | readState hw =>
    refine ⟨origins_map ho (f := fun n => (pmReadModuleState pf (hw n.1) n.2).port)
      (fun n => config_pmReadModuleState pf (hw n.1) n.2) rfl rfl, ?_⟩
    refine (noNull_pmReadState_iff h hw).mpr fun n hmem => ?_
    have hmade := ho.device n.1 n.2 hmem
    exact survives_pmReadModuleState hhw
      (hcomplete n.2.subsystem n.2.moduleDevice hmade.described hmade.pluggable) (hw n.1)
  | update committed =>
    exact ⟨origins_map ho (f := fun n => (publishPort w.idl.replica n.2).1)
      (fun n => config_publishPort w.idl.replica n.2) rfl rfl, h.pmOvsdbUpdate _ _⟩

end Hardware

/-- On hardware whose descriptions are complete, no run follows a null pointer. -/
theorem noNull_of_run (pf : Platform) (hhw : pf.simulation = false)
    {describes : String → YamlPort → Prop} (hcomplete : Complete describes) (reads : YamlReads)
    (seqno : UInt32) {events : List Event}
    (hok : Along (World.step pf) (Described describes) (World.start pf reads seqno) events) :
    Along (World.step pf) (fun w event => NoNull (w.step pf event).pmd)
      (World.start pf reads seqno) events :=
  Along.of_invariant (fun _ event h hd => noNull_step hcomplete hhw event h hd)
    (fun _ event h hd => (noNull_step hcomplete hhw event h hd).2)
    ⟨origins_start pf reads seqno, noNull_start pf reads seqno⟩ hok

namespace Switch

lemma complete_ports : Complete fun _ port => port ∈ ports := by
  intro subName port hport _
  have hall : ∀ port ∈ ports, port.connector ≠ none ∧
      port.moduleSignals.sfp.sfppTxDisable ≠ none := by decide
  exact ⟨(hall port hport).1, fun _ => (hall port hport).2⟩

end Switch

end OpsPmd
