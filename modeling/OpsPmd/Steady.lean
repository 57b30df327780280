import OpsPmd.Reports

/-!
# Passes without news

As long as the counter of the snapshots stands still, a daemon on hardware that has made its
passes reads no page, writes nothing and has nothing to say. It goes on reading the presence
registers, but whatever they answer, a module that is changed in the meantime goes unnoticed.
-/

namespace OpsPmd

open Lib

/-- The call reads no page and changes nothing outside the daemon: it is the end of a scan or an
empty transaction. -/
def Call.idle : Call → Prop
  | .readModuleState .. => True
  | .commitBlock txn _ => txn = ⟨[], false⟩
  | _ => False

/-- The second state is the first with idle calls in its log. -/
structure Steady (s s' : Server) : Prop where
  intfs : s'.world.pmd.ovsIntfs = s.world.pmd.ovsIntfs
  subs : s'.world.pmd.ovsSubs = s.world.pmd.ovsSubs
  db : s'.db = s.db
  calls : ∃ idle, (∀ call ∈ idle, Call.idle call) ∧
    s'.world.pmd.calls = s.world.pmd.calls ++ idle

lemma Steady.refl (s : Server) : Steady s s :=
  ⟨rfl, rfl, rfl, [], List.forall_mem_nil _, (List.append_nil _).symm⟩

lemma Steady.trans {s s' s'' : Server} (h : Steady s s') (h' : Steady s' s'') : Steady s s'' := by
  obtain ⟨idle, hidle, hcalls⟩ := h.calls
  obtain ⟨idle', hidle', hcalls'⟩ := h'.calls
  refine ⟨h'.intfs.trans h.intfs, h'.subs.trans h.subs, h'.db.trans h.db, idle ++ idle', ?_, ?_⟩
  · intro call hcall
    rcases List.mem_append.mp hcall with hfirst | hsecond
    · exact hidle call hfirst
    · exact hidle' call hsecond
  · rw [hcalls', hcalls, List.append_assoc]

/-- Nothing is left to read or to publish, and `cur_hw` has been set if there is a row for it. -/
structure Rest (pf : Platform) (s : Server) : Prop where
  reports : ReportInv pf s
  curHw : (!s.world.pmd.curHwSet &&
    s.world.idl.replica.daemons.any (fun row => row.name = nameInDaemonTable)) = false

lemma rest_start (pf : Platform) (reads : YamlReads) (seqno : UInt32) (db : Database) :
    Rest pf ⟨World.start pf reads seqno, db⟩ :=
  ⟨reportInv_start pf reads seqno db, rfl⟩

section Rest

variable {pf : Platform} {s : Server} {pass : Pass}

lemma rest_serverStep (hhw : pf.simulation = false) (h : Rest pf s)
    (hf : pass.runs = true → Follows s.world.idl pass.idl) : Rest pf (serverStep pf s pass) := by
  refine ⟨reportInv_serverStep hhw h.reports hf, ?_⟩
  cases hr : pass.runs with
  | false =>
    rw [serverStep_of_not_runs pf s hr]
    exact h.curHw
  | true =>
    have hpmd : (serverStep pf s pass).world.pmd = _ := pmd_pass pf s.world hr
    have hidl : (serverStep pf s pass).world.idl = pass.idl := if_pos hr
    rw [hpmd, hidl, curHwSet_pmOvsdbUpdate]
    unfold updateTxn
    cases (beforeUpdate pf pass s.world.pmd).curHwSet with
    | false => simp
    | true => rfl

/-- A loop over the interfaces that leaves every record as it is. -/
lemma map_ovsIntfs_eq_self {intfs : Shash String PmPort} {f : String × PmPort → PmPort}
    (h : ∀ n ∈ intfs, f n = n.2) : intfs.map (fun n => (n.1, f n)) = intfs := by
  have hid : intfs.map (fun n => (n.1, f n)) = intfs.map id :=
    List.map_congr_left fun n hn => congrArg (Prod.mk n.1) (h n hn)
  rw [hid, List.map_id]

/-- A scan finds every record as it should be. -/
lemma pmReadState_of_rest (h : Rest pf s) (hw : String → ScanHw) :
    ∃ marks, (∀ call ∈ marks, Call.idle call) ∧
      pmReadState pf hw s.world.pmd = s.world.pmd.log marks := by
  have hscan : ∀ n ∈ s.world.pmd.ovsIntfs, (pmReadModuleState pf (hw n.1) n.2).port = n.2 ∧
      ∀ call ∈ (pmReadModuleState pf (hw n.1) n.2).calls, Call.idle call := by
    rintro ⟨name, port⟩ hmem
    cases hk : port.moduleDevice.isKnown with
    | false =>
      rw [pmReadModuleState_of_not_isKnown pf (hw name) hk]
      exact ⟨rfl, List.forall_mem_singleton.mpr trivial⟩
    | true =>
      have hread := h.reports.read name port hmem hk
      rw [pmReadModuleState_eq pf (hw name) hk, hread]
      exact ⟨rfl, List.forall_mem_singleton.mpr trivial⟩
  refine ⟨s.world.pmd.ovsIntfs.flatMap fun n => (pmReadModuleState pf (hw n.1) n.2).calls, ?_, ?_⟩
  · intro call hcall
    obtain ⟨n, hn, hcall'⟩ := List.mem_flatMap.mp hcall
    exact (hscan n hn).2 call hcall'
  · unfold pmReadState
    rw [map_ovsIntfs_eq_self fun n hn => (hscan n hn).1]

/-- Nothing is to be published. -/
lemma publishPort_of_rest (h : Rest pf s) (replica : Replica) :
    ∀ n ∈ s.world.pmd.ovsIntfs, publishPort replica n.2 = (n.2, none) := by
  rintro ⟨name, port⟩ hmem
  apply publishPort_of_not_pending
  intro hp
  have hpublished := h.reports.published name port hmem
  rw [hp.2] at hpublished
  contradiction

lemma curHw_of_rest (h : Rest pf s) {replica : Replica} (hreplica : replica = s.world.idl.replica) :
    (!s.world.pmd.curHwSet && replica.daemons.any fun row => row.name = nameInDaemonTable) =
      false := by
  rw [hreplica]
  exact h.curHw

lemma pmInfo_of_rest (h : Rest pf s) (replica : Replica) :
    s.world.pmd.ovsIntfs.filterMap (fun n => (publishPort replica n.2).2) = [] := by
  rw [List.filterMap_eq_nil_iff]
  intro n hn
  rw [publishPort_of_rest h replica n hn]

lemma updateTxn_of_rest (h : Rest pf s) {replica : Replica}
    (hreplica : replica = s.world.idl.replica) (marks : List Call) :
    updateTxn replica (s.world.pmd.log marks) = ⟨[], false⟩ := by
  unfold updateTxn Pmd.log
  simp only [curHw_of_rest h hreplica, pmInfo_of_rest h replica]

lemma pmOvsdbUpdate_of_rest (h : Rest pf s) {replica : Replica}
    (hreplica : replica = s.world.idl.replica) (committed : Bool) (marks : List Call) :
    pmOvsdbUpdate replica committed (s.world.pmd.log marks) =
      (s.world.pmd.log marks).log [.commitBlock ⟨[], false⟩ committed] := by
  have htable : s.world.pmd.ovsIntfs.map (fun n => (n.1, (publishPort replica n.2).1)) =
      s.world.pmd.ovsIntfs :=
    map_ovsIntfs_eq_self fun n hn => congrArg Prod.fst (publishPort_of_rest h replica n hn)
  unfold pmOvsdbUpdate Pmd.log
  simp only [curHw_of_rest h hreplica, pmInfo_of_rest h replica, htable, Bool.or_false]

/-- Another pass on the snapshot that was processed last is idle. -/
lemma steady_serverStep (h : Rest pf s) (hf : pass.runs = true → Follows s.world.idl pass.idl ∧
    pass.idl.seqno = s.world.idl.seqno) : Steady s (serverStep pf s pass) := by
  cases hr : pass.runs with
  | false =>
    rw [serverStep_of_not_runs pf s hr]
    exact Steady.refl s
  | true =>
    obtain ⟨hfollows, hseqno⟩ := hf hr
    have hreplica : pass.idl.replica = s.world.idl.replica := by
      by_contra hne
      exact hfollows.seqno hne hseqno
    obtain ⟨marks, hmarks, hscan⟩ := pmReadState_of_rest h pass.hw
    have hbefore : beforeUpdate pf pass s.world.pmd = s.world.pmd.log marks := by
      unfold beforeUpdate
      rw [pmdReconfigure_of_eq (hseqno.trans h.reports.synced.seqno.symm), hscan]
    have hpmd : (serverStep pf s pass).world.pmd =
        (s.world.pmd.log marks).log [.commitBlock ⟨[], false⟩ pass.committed] := by
      show (s.world.pass pf pass).pmd = _
      rw [pmd_pass pf s.world hr, hbefore, pmOvsdbUpdate_of_rest h hreplica]
    have hdb : s.db.apply ⟨[], false⟩ = s.db := by
      unfold Database.apply
      rw [Bool.or_false]
      rfl
    refine ⟨by rw [hpmd]; rfl, by rw [hpmd]; rfl, ?_, ?_⟩
    · rw [db_serverStep pf s hr, hbefore, updateTxn_of_rest h hreplica, hdb, ite_self]
    · refine ⟨marks ++ [.commitBlock ⟨[], false⟩ pass.committed], ?_, ?_⟩
      · intro call hcall
        rcases List.mem_append.mp hcall with hmark | hcommit
        · exact hmarks call hmark
        · rw [List.mem_singleton.mp hcommit]
          rfl
      · rw [hpmd, ← List.append_assoc]
        rfl

end Rest

/-- On hardware, whatever happens to the modules while the counter of the snapshots stands still,
the records and the database stay as they are, no page is read and nothing is written. -/
theorem steady_of_passes (pf : Platform) (hhw : pf.simulation = false) (reads : YamlReads)
    (seqno : UInt32) (db : Database) {passes more : List Pass}
    (hok : Along (serverStep pf) (fun s pass => pass.runs = true → Follows s.world.idl pass.idl)
      ⟨World.start pf reads seqno, db⟩ passes)
    (hmore : Along (serverStep pf) (fun s pass => pass.runs = true →
      Follows s.world.idl pass.idl ∧ pass.idl.seqno = s.world.idl.seqno)
      (run (serverStep pf) ⟨World.start pf reads seqno, db⟩ passes) more) :
    Steady (run (serverStep pf) ⟨World.start pf reads seqno, db⟩ passes)
      (run (serverStep pf) ⟨World.start pf reads seqno, db⟩ (passes ++ more)) := by
  have hrest : Rest pf (run (serverStep pf) ⟨World.start pf reads seqno, db⟩ passes) :=
    Along.invariant (fun _ _ hI hf => rest_serverStep hhw hI hf) (rest_start pf reads seqno db) hok
  rw [run_append]
  generalize run (serverStep pf) ⟨World.start pf reads seqno, db⟩ passes = s at hrest hmore ⊢
  have hboth := Along.invariant (I := fun s' => Rest pf s' ∧ Steady s s') ?_
    ⟨hrest, Steady.refl s⟩ hmore
  · exact hboth.2
  · rintro s' pass ⟨hI, hs'⟩ hf
    exact ⟨rest_serverStep hhw hI fun hr => (hf hr).1, hs'.trans (steady_serverStep hI hf)⟩

namespace Switch

/-- The module is taken out, and nothing changes in the database. -/
def pulledPass : Pass where
  idl := idlOf (intf "1" 1 "true") 1
  reads := reads
  hw := fun _ => ⟨fun _ _ _ _ => ⟨0, 0⟩, fun _ _ _ _ => ⟨-1, Page.zero⟩,
    fun _ _ _ => ⟨-1, Page.zero⟩⟩
  committed := false

end Switch

theorem steady_of_passes_pulled :
    Steady (run (serverStep Switch.platform)
        ⟨World.start Switch.platform Switch.reads 0, ⟨fun _ => [], false⟩⟩
        [Switch.firstPass true])
      (run (serverStep Switch.platform)
        ⟨World.start Switch.platform Switch.reads 0, ⟨fun _ => [], false⟩⟩
        ([Switch.firstPass true] ++ [Switch.pulledPass])) := by
  apply steady_of_passes Switch.platform rfl
  · exact ⟨fun _ => ⟨by decide, by decide, by decide, by decide⟩, trivial⟩
  · exact ⟨fun _ => ⟨⟨by decide, by decide, by decide, by decide⟩, rfl⟩, trivial⟩

end OpsPmd
