import OpsPmd.NullPointers
import OpsPmd.Publish

/-!
# One port does not touch the others

Two runs of the daemon that differ in the module of one port, and in how the interface of that
port is configured, do the same with every other port: the records agree, what is read from its
module and written to its module and its registers agrees, and so do the rows of the database.
A null pointer would break this, since the daemon dies for all ports, so that the descriptions
have to be complete.
-/

namespace OpsPmd

open Lib

/-- The rows are the same but for the configuration of the odd port. -/
structure AgreeIntf (odd : String) (intf intf' : OvsrecInterface) : Prop where
  uuid : intf.uuid = intf'.uuid
  name : intf.name = intf'.name
  other : intf.name ≠ odd → intf = intf'

structure AgreeSub (odd : String) (sub sub' : OvsrecSubsystem) : Prop where
  uuid : sub.uuid = sub'.uuid
  name : sub.name = sub'.name
  interfaces : List.Forall₂ (AgreeIntf odd) sub.interfaces sub'.interfaces

/-- The passes meet the same but for what the module of the odd port answers and for the
configuration of its interface. -/
structure AgreePass (odd : String) (pass pass' : Pass) : Prop where
  runs : pass.runs = pass'.runs
  seqno : pass.idl.seqno = pass'.idl.seqno
  interfaces : List.Forall₂ (AgreeIntf odd) pass.idl.replica.interfaces
    pass'.idl.replica.interfaces
  subsystems : List.Forall₂ (fun sub sub' => AgreeSub odd sub sub' ∧
    pass.reads sub = pass'.reads sub') pass.idl.replica.subsystems pass'.idl.replica.subsystems
  daemons : pass.idl.replica.daemons = pass'.idl.replica.daemons
  hw : ∀ name, name ≠ odd → pass.hw name = pass'.hw name
  committed : pass.committed = pass'.committed

structure AgreePort (odd : String) (port port' : PmPort) : Prop where
  inst : port.inst = port'.inst
  uuid : port.uuid = port'.uuid
  other : port.inst ≠ odd → port = port'

/-- The call is about hardware description files, or it is made for a port that is not the odd
one. -/
def Call.apart (odd : String) : Call → Bool
  | .commitBlock .. => false
  | .i2cRegWrite inst .. => inst ≠ odd
  | .i2cDataWrite inst .. => inst ≠ odd
  | .nullDeref inst => inst ≠ odd
  | .readA0 inst .. => inst ≠ odd
  | .readModuleState inst .. => inst ≠ odd
  | .intfCreate _ inst => inst ≠ odd
  | _ => true

structure Agree (odd : String) (s s' : Pmd) : Prop where
  intfs : Shash.Related (AgreePort odd) s.ovsIntfs s'.ovsIntfs
  subs : s.ovsSubs = s'.ovsSubs
  seqno : s.idlSeqno = s'.idlSeqno
  curHw : s.curHwSet = s'.curHwSet
  yaml : s.yaml = s'.yaml
  calls : s.calls.filter (Call.apart odd) = s'.calls.filter (Call.apart odd)

section Steps

variable {odd : String} {s s' : Pmd}

lemma AgreePort.refl (port : PmPort) : AgreePort odd port port := ⟨rfl, rfl, fun _ => rfl⟩

lemma any_uuid_eq {rows rows' : List OvsrecInterface}
    (h : List.Forall₂ (AgreeIntf odd) rows rows') (uuid : Uuid) :
    rows.any (fun intf => intf.uuid = uuid) = rows'.any (fun intf => intf.uuid = uuid) := by
  induction h with
  | nil => rfl
  | cons hrow _ ih => rw [List.any_cons, List.any_cons, ih, hrow.uuid]

/-- More calls, those apart from the odd port being the same. -/
lemma Agree.log (h : Agree odd s s') {new new' : List Call}
    (hnew : new.filter (Call.apart odd) = new'.filter (Call.apart odd)) :
    Agree odd (s.log new) (s'.log new') := by
  refine ⟨h.intfs, h.subs, h.seqno, h.curHw, h.yaml, ?_⟩
  show (s.calls ++ new).filter _ = (s'.calls ++ new').filter _
  rw [List.filter_append, List.filter_append, h.calls, hnew]

lemma apart_pmConfigurePort {pf : Platform} {port : PmPort} (hodd : port.inst = odd) {call : Call}
    (h : call ∈ (pmConfigurePort pf port).2) : call.apart odd = false := by
  unfold pmConfigurePort pmConfigureQsfp at h
  split at h
  · split at h
    · simp at h
    split at h
    · simp at h
    split at h
    · simp at h
    · rw [List.mem_singleton.mp h]
      simp [Call.apart, hodd]
  split at h
  · simp at h
  split at h
  all_goals
    rw [List.mem_singleton.mp h]
    simp [Call.apart, hodd]

lemma apart_pmClearReset {port : PmPort} (hodd : port.inst = odd) {call : Call}
    (h : call ∈ pmClearReset port) : call.apart odd = false := by
  obtain ⟨signal, regOp, data, rfl, -⟩ := mem_pmClearReset h
  simp [Call.apart, hodd]

lemma apart_ovsdbIfIntfModify {pf : Platform} {intf : OvsrecInterface} {port : PmPort}
    (hodd : port.inst = odd) {call : Call} (h : call ∈ (ovsdbIfIntfModify pf intf port).2) :
    call.apart odd = false := by
  have hconfigure := mem_ovsdbIfIntfModify h
  refine apart_pmConfigurePort ?_ hconfigure
  exact hodd

lemma apart_pmReadModuleState {pf : Platform} {hw : ScanHw} {port : PmPort}
    (hodd : port.inst = odd) {call : Call} (h : call ∈ (pmReadModuleState pf hw port).calls) :
    call.apart odd = false := by
  rcases mem_calls_pmReadModuleState h with ⟨rc, page, rfl⟩ | rfl | rfl
  · simp [Call.apart, hodd]
  · simp [Call.apart, hodd]
  · simp [Call.apart, hodd]

lemma filter_apart_eq_nil {calls : List Call} (h : ∀ call ∈ calls, call.apart odd = false) :
    calls.filter (Call.apart odd) = [] :=
  List.filter_eq_nil_iff.mpr fun call hcall => by simp [h call hcall]

variable {pf : Platform}

lemma Agree.deleteInterfaces (h : Agree odd s s') {replica replica' : Replica}
    (hrows : List.Forall₂ (AgreeIntf odd) replica.interfaces replica'.interfaces) :
    Agree odd (deleteInterfaces replica s) (deleteInterfaces replica' s') := by
  refine ⟨?_, h.subs, h.seqno, h.curHw, h.yaml, h.calls⟩
  refine List.rel_foldl ?_ h.intfs h.intfs
  rintro intfs intfs' hrelated node node' ⟨-, hport⟩
  dsimp only
  rw [any_uuid_eq hrows, hport.uuid, hport.inst]
  split
  · exact hrelated
  · exact hrelated.delete node'.2.inst

lemma Agree.deleteSubsystems (h : Agree odd s s') {replica replica' : Replica}
    (huuid : replica.subsystems.map OvsrecSubsystem.uuid =
      replica'.subsystems.map OvsrecSubsystem.uuid) :
    Agree odd (deleteSubsystems replica s) (deleteSubsystems replica' s') := by
  have hany : ∀ uuid, replica.subsystems.any (fun sub => sub.uuid = uuid) =
      replica'.subsystems.any (fun sub => sub.uuid = uuid) := by
    intro uuid
    have hmap : ∀ subs : List OvsrecSubsystem, subs.any (fun sub => sub.uuid = uuid) =
        (subs.map OvsrecSubsystem.uuid).any (fun u => u = uuid) := fun subs => by
      rw [List.any_map]
      rfl
    rw [hmap, hmap, huuid]
  refine ⟨h.intfs, ?_, h.seqno, h.curHw, h.yaml, h.calls⟩
  unfold OpsPmd.deleteSubsystems
  dsimp only
  rw [h.subs]
  simp only [hany]

lemma Agree.ovsdbIfIntfCreate (h : Agree odd s s') {intf intf' : OvsrecInterface}
    (hintf : AgreeIntf odd intf intf') (subName : String) :
    Agree odd (ovsdbIfIntfCreate pf s intf subName) (ovsdbIfIntfCreate pf s' intf' subName) := by
  have hmark : ∀ hardware hardware' : List Call, (intf.name = odd →
      (∀ call ∈ hardware, call.apart odd = false) ∧ ∀ call ∈ hardware', call.apart odd = false) →
      (intf.name ≠ odd → hardware = hardware') →
      (Call.intfCreate subName intf.name :: hardware).filter (Call.apart odd) =
        (Call.intfCreate subName intf'.name :: hardware').filter (Call.apart odd) := by
    intro hardware hardware' hsame hother
    rw [hintf.name]
    by_cases ho : intf.name = odd
    · have hskip : (Call.intfCreate subName intf'.name).apart odd = false := by
        simp [Call.apart, ← hintf.name, ho]
      obtain ⟨hnone, hnone'⟩ := hsame ho
      rw [List.filter_cons_of_neg (by simp [hskip]), List.filter_cons_of_neg (by simp [hskip]),
        filter_apart_eq_nil hnone, filter_apart_eq_nil hnone']
    · rw [hother ho]
  have hyaml : pmGetYamlPort s.yaml subName intf.name =
      pmGetYamlPort s'.yaml subName intf'.name := by
    rw [h.yaml, hintf.name]
  rcases ovsdbIfIntfCreate_cases pf s intf subName with ⟨yamlPort, hg, hp, hc⟩ | ⟨hnot, hc⟩
  · rw [hc, ovsdbIfIntfCreate_of_pluggable (hyaml ▸ hg) hp]
    have hport : AgreePort odd (createdPort pf intf subName yamlPort)
        (createdPort pf intf' subName yamlPort) := by
      refine ⟨?_, ?_, fun hne => ?_⟩
      · rw [inst_createdPort, inst_createdPort, hintf.name]
      · rw [uuid_createdPort, uuid_createdPort, hintf.uuid]
      · rw [inst_createdPort] at hne
        rw [hintf.other hne]
    have hadd : Agree odd
        { s with ovsIntfs := s.ovsIntfs.add intf.name (createdPort pf intf subName yamlPort) }
        { s' with
          ovsIntfs := s'.ovsIntfs.add intf'.name (createdPort pf intf' subName yamlPort) } := by
      refine ⟨?_, h.subs, h.seqno, h.curHw, h.yaml, h.calls⟩
      rw [hintf.name]
      exact h.intfs.add hport
    refine hadd.log (hmark _ _ (fun ho => ⟨?_, ?_⟩) fun ho => ?_)
    · intro call hcall
      rcases List.mem_append.mp hcall with hcall | hcall
      · exact apart_pmConfigurePort ho hcall
      · exact apart_pmClearReset ((inst_createdPort pf intf subName yamlPort).trans ho) hcall
    · intro call hcall
      have ho' : intf'.name = odd := hintf.name.symm.trans ho
      rcases List.mem_append.mp hcall with hcall | hcall
      · exact apart_pmConfigurePort ho' hcall
      · exact apart_pmClearReset ((inst_createdPort pf intf' subName yamlPort).trans ho') hcall
    · rw [hintf.other ho]
  · have hnot' : ∀ yamlPort, pmGetYamlPort s'.yaml subName intf'.name = some yamlPort →
        yamlPort.pluggable = false := hyaml ▸ hnot
    rw [hc, ovsdbIfIntfCreate_of_not_pluggable hnot']
    exact h.log (hmark [] [] (fun _ => ⟨by simp, by simp⟩) fun _ => rfl)

lemma Agree.createMissing (h : Agree odd s s') {intf intf' : OvsrecInterface}
    (hintf : AgreeIntf odd intf intf') (subName : String) :
    Agree odd (createMissing pf subName s intf) (createMissing pf subName s' intf') := by
  unfold OpsPmd.createMissing
  cases hf : s'.ovsIntfs.find intf'.name with
  | none =>
    have hnone : s.ovsIntfs.find intf.name = none := by
      rw [hintf.name]
      exact h.intfs.find_eq_none_iff.mpr hf
    rw [hnone]
    exact h.ovsdbIfIntfCreate hintf subName
  | some port' =>
    obtain ⟨port, hfind, -⟩ := h.intfs.find hf
    rw [hintf.name, hfind]
    exact h

lemma Agree.loadSubsystem (h : Agree odd s s') {reads reads' : YamlReads}
    {sub sub' : OvsrecSubsystem} (hsub : AgreeSub odd sub sub') (hreads : reads sub = reads' sub') :
    Agree odd (loadSubsystem reads s sub) (loadSubsystem reads' s' sub') := by
  refine ⟨h.intfs, ?_, h.seqno, h.curHw, ?_, ?_⟩
  · rw [ovsSubs_loadSubsystem, ovsSubs_loadSubsystem, h.subs, hsub.name, hsub.uuid]
  · rw [yaml_loadSubsystem, yaml_loadSubsystem, h.yaml, hsub.name, hreads]
  · rw [calls_loadSubsystem, calls_loadSubsystem, List.filter_append, List.filter_append, h.calls]
    unfold loadCalls
    rw [hsub.name, hreads]

lemma Agree.ovsdbIfSubsysProcess (h : Agree odd s s') {reads reads' : YamlReads}
    {sub sub' : OvsrecSubsystem} (hsub : AgreeSub odd sub sub') (hreads : reads sub = reads' sub') :
    Agree odd (ovsdbIfSubsysProcess pf reads s sub) (ovsdbIfSubsysProcess pf reads' s' sub') := by
  have hloop : ∀ s s', Agree odd s s' →
      Agree odd (sub.interfaces.foldl (OpsPmd.createMissing pf sub.name) s)
        (sub'.interfaces.foldl (OpsPmd.createMissing pf sub'.name) s') := by
    intro s s' hs
    rw [hsub.name]
    exact List.rel_foldl (fun _ _ hs _ _ hintf => hs.createMissing hintf sub'.name) hs
      hsub.interfaces
  by_cases hmem : sub'.name ∈ s'.ovsSubs.keys
  · have hmem' : sub.name ∈ s.ovsSubs.keys := by
      rw [h.subs, hsub.name]
      exact hmem
    rw [ovsdbIfSubsysProcess_of_mem hmem, ovsdbIfSubsysProcess_of_mem hmem']
    exact hloop s s' h
  · have hmem' : sub.name ∉ s.ovsSubs.keys := by
      rw [h.subs, hsub.name]
      exact hmem
    rw [ovsdbIfSubsysProcess_of_not_mem hmem, ovsdbIfSubsysProcess_of_not_mem hmem', hreads]
    have hload := h.loadSubsystem hsub hreads
    split
    · exact hload
    · exact hloop _ _ hload

variable (pf) in
lemma agreePort_ovsdbIfIntfModify {intf intf' : OvsrecInterface} {port port' : PmPort}
    (hport : AgreePort odd port port') (hname : intf.name = port.inst)
    (hintf : AgreeIntf odd intf intf') :
    AgreePort odd (ovsdbIfIntfModify pf intf port).1 (ovsdbIfIntfModify pf intf' port').1 ∧
      (ovsdbIfIntfModify pf intf port).2.filter (Call.apart odd) =
        (ovsdbIfIntfModify pf intf' port').2.filter (Call.apart odd) := by
  by_cases ho : port.inst = odd
  · obtain ⟨enable, hset⟩ := ovsdbIfIntfModify_port pf intf port
    obtain ⟨enable', hset'⟩ := ovsdbIfIntfModify_port pf intf' port'
    refine ⟨?_, ?_⟩
    · rw [hset, hset']
      exact ⟨hport.inst, hport.uuid, fun hne => absurd ho hne⟩
    · have ho' : port'.inst = odd := hport.inst.symm.trans ho
      rw [filter_apart_eq_nil fun call hcall => apart_ovsdbIfIntfModify ho hcall,
        filter_apart_eq_nil fun call hcall => apart_ovsdbIfIntfModify ho' hcall]
  · rw [hport.other ho, hintf.other (hname ▸ ho)]
    exact ⟨AgreePort.refl _, rfl⟩

lemma Agree.modifyInterface (h : Agree odd s s')
    (hinst : ∀ name port, (name, port) ∈ s.ovsIntfs → port.inst = name)
    {intf intf' : OvsrecInterface} (hintf : AgreeIntf odd intf intf') :
    Agree odd (modifyInterface pf s intf) (modifyInterface pf s' intf') := by
  unfold OpsPmd.modifyInterface
  cases hf : s'.ovsIntfs.find intf'.name with
  | none =>
    have hnone : s.ovsIntfs.find intf.name = none := by
      rw [hintf.name]
      exact h.intfs.find_eq_none_iff.mpr hf
    rw [hnone]
    exact h
  | some port' =>
    obtain ⟨port, hfind, hport⟩ := h.intfs.find hf
    rw [← hintf.name] at hfind
    rw [hfind]
    have hname := hinst intf.name port (Shash.mem_of_find_eq_some hfind)
    obtain ⟨hport', hcalls⟩ := agreePort_ovsdbIfIntfModify pf hport hname.symm hintf
    have hset : Agree odd
        { s with ovsIntfs := s.ovsIntfs.set intf.name (ovsdbIfIntfModify pf intf port).1 }
        { s' with
          ovsIntfs := s'.ovsIntfs.set intf'.name (ovsdbIfIntfModify pf intf' port').1 } := by
      refine ⟨?_, h.subs, h.seqno, h.curHw, h.yaml, h.calls⟩
      rw [hintf.name]
      exact h.intfs.overwrite hport'
    exact hset.log hcalls

lemma Agree.pmdReconfigure {w : World} (hsync : Synced pf w) {pass pass' : Pass}
    (hpass : AgreePass odd pass pass') (hf : Follows w.idl pass.idl) (h : Agree odd w.pmd s') :
    Agree odd (pmdReconfigure pf pass.reads pass.idl w.pmd)
      (pmdReconfigure pf pass'.reads pass'.idl s') := by
  by_cases he : pass.idl.seqno = w.pmd.idlSeqno
  · have he' : pass'.idl.seqno = s'.idlSeqno := by rw [← hpass.seqno, he, h.seqno]
    rw [pmdReconfigure_of_eq he, pmdReconfigure_of_eq he']
    exact h
  have he' : pass'.idl.seqno ≠ s'.idlSeqno := by
    rw [← hpass.seqno, ← h.seqno]
    exact he
  have hsubs : pass.idl.replica.subsystems.map OvsrecSubsystem.uuid =
      pass'.idl.replica.subsystems.map OvsrecSubsystem.uuid :=
    List.forall₂_eq_eq_eq ▸ List.forall₂_map_left_iff.mpr (List.forall₂_map_right_iff.mpr
      (hpass.subsystems.imp fun _ _ hsub => hsub.1.uuid))
  have hstart : Agree odd { w.pmd with idlSeqno := pass.idl.seqno }
      { s' with idlSeqno := pass'.idl.seqno } :=
    ⟨h.intfs, h.subs, hpass.seqno, h.curHw, h.yaml, h.calls⟩
  have hdelete : Agree odd (afterDeletes pass.idl w.pmd) (afterDeletes pass'.idl s') :=
    (hstart.deleteInterfaces hpass.interfaces).deleteSubsystems hsubs
  have hprocess : Agree odd
      (pass.idl.replica.subsystems.foldl (OpsPmd.ovsdbIfSubsysProcess pf pass.reads)
        (afterDeletes pass.idl w.pmd))
      (pass'.idl.replica.subsystems.foldl (OpsPmd.ovsdbIfSubsysProcess pf pass'.reads)
        (afterDeletes pass'.idl s')) :=
    List.rel_foldl (fun _ _ hs _ _ hsub => hs.ovsdbIfSubsysProcess hsub.1 hsub.2) hdelete
      hpass.subsystems
  rw [pmdReconfigure_of_ne he, pmdReconfigure_of_ne he']
  -- the last loop finds records by name, so that the table has to be in order
  refine (List.rel_foldl (P := fun s s' => TableInv pass.idl.replica s.ovsIntfs ∧ Agree odd s s')
    ?_ ⟨tableInv_process hsync hf.intfs, hprocess⟩ hpass.interfaces).2
  rintro s s' ⟨htable, hs⟩ intf intf' hintf
  exact ⟨tableInv_modifyInterface htable pf intf, hs.modifyInterface htable.inst hintf⟩

lemma Agree.pmReadState (h : Agree odd s s')
    (hinst : ∀ name port, (name, port) ∈ s.ovsIntfs → port.inst = name)
    {hw hw' : String → ScanHw} (hhw : ∀ name, name ≠ odd → hw name = hw' name) :
    Agree odd (pmReadState pf hw s) (pmReadState pf hw' s') := by
  refine ⟨?_, h.subs, h.seqno, h.curHw, h.yaml, ?_⟩
  · refine h.intfs.map fun name port port' hmem hport => ?_
    have hname := hinst name port hmem
    by_cases ho : port.inst = odd
    · have hconfig := config_pmReadModuleState pf (hw name) port
      have hconfig' := config_pmReadModuleState pf (hw' name) port'
      have hi := congrArg PmPort.Config.inst hconfig
      refine ⟨?_, ?_, fun hne => absurd (hi.trans ho) hne⟩
      · exact hi.trans (hport.inst.trans (congrArg PmPort.Config.inst hconfig').symm)
      · exact (congrArg PmPort.Config.uuid hconfig).trans
          (hport.uuid.trans (congrArg PmPort.Config.uuid hconfig').symm)
    · rw [← hport.other ho, hhw name (hname ▸ ho)]
      exact AgreePort.refl _
  · rw [calls_pmReadState, calls_pmReadState, List.filter_append, List.filter_append, h.calls]
    unfold scanCalls
    rw [List.filter_flatMap, List.filter_flatMap]
    congr 1
    refine h.intfs.flatMap_eq fun name port port' hmem hport => ?_
    have hname := hinst name port hmem
    by_cases ho : port.inst = odd
    · have ho' : port'.inst = odd := hport.inst.symm.trans ho
      rw [filter_apart_eq_nil fun call hcall => apart_pmReadModuleState ho hcall,
        filter_apart_eq_nil fun call hcall => apart_pmReadModuleState ho' hcall]
    · rw [← hport.other ho, hhw name (hname ▸ ho)]

lemma publishPort_congr {replica replica' : Replica}
    (hrows : List.Forall₂ (AgreeIntf odd) replica.interfaces replica'.interfaces)
    (port : PmPort) : publishPort replica port = publishPort replica' port := by
  unfold publishPort
  rw [any_uuid_eq hrows]

lemma Agree.pmOvsdbUpdate (h : Agree odd s s') {replica replica' : Replica}
    (hrows : List.Forall₂ (AgreeIntf odd) replica.interfaces replica'.interfaces)
    (hdaemons : replica.daemons = replica'.daemons) (committed : Bool) :
    Agree odd (pmOvsdbUpdate replica committed s) (pmOvsdbUpdate replica' committed s') := by
  refine ⟨?_, h.subs, h.seqno, ?_, h.yaml, ?_⟩
  · refine h.intfs.map fun name port port' _ hport => ?_
    rw [publishPort_congr hrows]
    have hconfig := config_publishPort replica' port
    have hconfig' := config_publishPort replica' port'
    have hi := congrArg PmPort.Config.inst hconfig
    refine ⟨?_, ?_, fun hne => ?_⟩
    · exact hi.trans (hport.inst.trans (congrArg PmPort.Config.inst hconfig').symm)
    · exact (congrArg PmPort.Config.uuid hconfig).trans
        (hport.uuid.trans (congrArg PmPort.Config.uuid hconfig').symm)
    · rw [hport.other fun ho => hne (hi.trans ho)]
  · unfold OpsPmd.pmOvsdbUpdate
    dsimp only [Pmd.log]
    rw [h.curHw, hdaemons]
  · rw [calls_pmOvsdbUpdate, calls_pmOvsdbUpdate, List.filter_append, List.filter_append, h.calls]
    rfl

end Steps

/-! ## The database -/

/-- The transaction says the same about all rows but those of the odd port. -/
lemma lastWrite_updateTxn_agree {odd : String} {s s' : Pmd} (h : Agree odd s s')
    {replica replica' : Replica} (htable : TableInv replica s.ovsIntfs)
    (hrows : List.Forall₂ (AgreeIntf odd) replica.interfaces replica'.interfaces)
    {nameOf : Uuid → String} (hnames : KeepsNames nameOf replica) {uuid : Uuid}
    (hne : nameOf uuid ≠ odd) :
    lastWrite some uuid (updateTxn replica s).pmInfo =
      lastWrite some uuid (updateTxn replica' s').pmInfo := by
  unfold lastWrite updateTxn
  dsimp only
  rw [List.filterMap_filterMap, List.filterMap_filterMap, List.filterMap_eq_flatMap_toList,
    List.filterMap_eq_flatMap_toList]
  congr 1
  refine h.intfs.flatMap_eq fun name port port' hmem hport => ?_
  rw [publishPort_congr hrows]
  by_cases ho : port.inst = odd
  · have hother : port.uuid ≠ uuid := by
      obtain ⟨intf, hintf, hname, huuid⟩ := htable.row name port hmem
      rintro rfl
      apply hne
      rw [← huuid, hnames intf hintf, hname, ← htable.inst name port hmem, ho]
    have hsilent : ∀ p : PmPort, p.uuid ≠ uuid → ((publishPort replica' p).2.bind fun e =>
        (some e).bind fun w : Uuid × PmInfo => if w.1 = uuid then some w.2 else none) = none := by
      intro p hp
      cases he : (publishPort replica' p).2 with
      | none => rfl
      | some e =>
        have hentry := uuid_of_mem_publishPort he
        exact if_neg (hentry ▸ hp)
    rw [hsilent port hother, hsilent port' (hport.uuid ▸ hother)]
  · rw [hport.other ho]

/-- The two daemons differ in nothing but the odd port, and the databases in nothing but its
rows. -/
structure AgreeServer (nameOf : Uuid → String) (odd : String) (s s' : Server) : Prop where
  pmd : Agree odd s.world.pmd s'.world.pmd
  pmInfo : ∀ uuid, nameOf uuid ≠ odd → s.db.pmInfo uuid = s'.db.pmInfo uuid
  curHw : s.db.curHw = s'.db.curHw

lemma AgreeServer.serverStep {pf : Platform} {nameOf : Uuid → String} {odd : String}
    {s s' : Server} (h : AgreeServer nameOf odd s s') (hsync : Synced pf s.world)
    {pass pass' : Pass} (hpass : AgreePass odd pass pass')
    (hf : pass.runs = true → Follows s.world.idl pass.idl)
    (hnames : KeepsNames nameOf pass.idl.replica) :
    AgreeServer nameOf odd (serverStep pf s pass) (serverStep pf s' pass') := by
  cases hr : pass.runs with
  | false =>
    have hr' : pass'.runs = false := hpass.runs.symm.trans hr
    rw [serverStep_of_not_runs pf s hr, serverStep_of_not_runs pf s' hr']
    exact h
  | true =>
    have hr' : pass'.runs = true := hpass.runs.symm.trans hr
    have htable : TableInv pass.idl.replica
        (pmdReconfigure pf pass.reads pass.idl s.world.pmd).ovsIntfs :=
      tableInv_pmdReconfigure hsync (hf hr).intfs
    have hbefore : Agree odd (beforeUpdate pf pass s.world.pmd)
        (beforeUpdate pf pass' s'.world.pmd) :=
      (h.pmd.pmdReconfigure hsync hpass (hf hr)).pmReadState htable.inst hpass.hw
    have htable' : TableInv pass.idl.replica (beforeUpdate pf pass s.world.pmd).ovsIntfs :=
      tableInv_map htable fun node => config_pmReadModuleState pf (pass.hw node.1) node.2
    have hpmd : (OpsPmd.serverStep pf s pass).world.pmd = _ := pmd_pass pf s.world hr
    have hpmd' : (OpsPmd.serverStep pf s' pass').world.pmd = _ := pmd_pass pf s'.world hr'
    refine ⟨?_, fun uuid hne => ?_, ?_⟩
    · rw [hpmd, hpmd', ← hpass.committed]
      exact hbefore.pmOvsdbUpdate hpass.interfaces hpass.daemons pass.committed
    · rw [db_serverStep pf s hr, db_serverStep pf s' hr', ← hpass.committed]
      have hlast := lastWrite_updateTxn_agree hbefore htable' hpass.interfaces hnames hne
      split
      · show (lastWrite some uuid _).getD _ = (lastWrite some uuid _).getD _
        rw [hlast, h.pmInfo uuid hne]
      · exact h.pmInfo uuid hne
    · rw [db_serverStep pf s hr, db_serverStep pf s' hr', ← hpass.committed]
      split
      · show (s.db.curHw || (updateTxn _ _).curHw) = (s'.db.curHw || (updateTxn _ _).curHw)
        unfold updateTxn
        rw [h.curHw, hbefore.curHw, hpass.daemons]
      · exact h.curHw

namespace Switch

end Switch

end OpsPmd
