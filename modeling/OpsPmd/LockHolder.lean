import OpsPmd.Publish
import OpsPmd.Table

/-!
# The holder of the lock

Several daemons may run, and the lock `ops_pmd` of the database picks the one that acts. The
start-up path calls the configuring functions without looking at the lock, which does no harm
as long as the replica is empty then.
-/

namespace OpsPmd

open Lib

/-- The daemon with its IDL; `exiting` is the variable of `main`. -/
structure Daemon where
  idl : Idl
  pmd : Pmd
  exiting : Bool

/-- What can happen between two looks at the lock, and a call of `pmd_run`. The messages that
`ovsdb_idl_run` takes in at its start are events before it. -/
inductive DaemonEvent
  | update (replica : Replica) (seqno : UInt32)
  | lock (held contended : Bool)
  | dump
  | exit
  | run (reads : YamlReads) (hw : String → ScanHw) (committed : Bool)

def DaemonEvent.isRun : DaemonEvent → Bool
  | .run .. => true
  | _ => false

def DaemonEvent.snapshot : DaemonEvent → Option (Replica × UInt32)
  | .update replica seqno => some (replica, seqno)
  | _ => none

/-- `main` up to its loop, with nothing received from the database and the lock requested. -/
def Daemon.start (pf : Platform) (reads : YamlReads) (seqno : UInt32) : Daemon :=
  let idl : Idl := { replica := Replica.empty, seqno := seqno, hasLock := false }
  ⟨idl, pmOvsdbIfInit pf reads idl, false⟩

/-- The loop of `main` goes on, and the checks of `pmd_run` find the lock held and not
contended. -/
def Daemon.holdsLock (d : Daemon) : Bool :=
  !d.exiting && !d.idl.lockContended && d.idl.hasLock

/-- The call that a turn of the loop makes. -/
def Daemon.passOf (d : Daemon) (reads : YamlReads) (hw : String → ScanHw) (committed : Bool) :
    Pass := ⟨d.idl, reads, hw, committed⟩

def Daemon.step (pf : Platform) (d : Daemon) : DaemonEvent → Daemon
  | .update replica seqno => { d with idl := { d.idl with replica := replica, seqno := seqno } }
  | .lock held contended =>
    { d with idl := { d.idl with hasLock := held, lockContended := contended } }
  | .dump => d
  | .exit => { d with exiting := true }
  | .run reads hw committed =>
    if d.exiting then d else { d with pmd := pmdRun pf (d.passOf reads hw committed) d.pmd }

/-- Writes to registers and modules, device initializations and transactions. -/
def Call.acts : Call → Bool
  | .i2cRegWrite .. => true
  | .i2cDataWrite .. => true
  | .yamlInitDevices .. => true
  | .commitBlock .. => true
  | _ => false

/-- If the event makes the daemon act, it is a call of `pmd_run` that found the lock held. -/
def ActsAsHolder (pf : Platform) (d : Daemon) (event : DaemonEvent) : Prop :=
  ∃ new, (d.step pf event).pmd.calls = d.pmd.calls ++ new ∧
    ∀ call ∈ new, call.acts = true →
      (∃ reads hw committed, event = .run reads hw committed) ∧ d.holdsLock = true

/-- The pass that a call of `pmd_run` makes over a snapshot that it has not processed yet. -/
def freshPass (pf : Platform) (pass : Pass) (s : Pmd) : Pmd :=
  pmOvsdbUpdate pass.idl.replica pass.committed
    (pmReadState pf pass.hw
      (pass.idl.replica.interfaces.foldl (modifyInterface pf)
        (pass.idl.replica.subsystems.foldl (ovsdbIfSubsysProcess pf pass.reads)
          (afterDeletes pass.idl s))))

/-- Only the holder of the lock acts, and what arrived before it got the lock is not lost: the
first call of `pmd_run` that finds the lock held after an update makes a pass over the snapshot
as it is then. -/
structure LockDiscipline (pf : Platform) (reads : YamlReads) (seqno : UInt32)
    (events : List DaemonEvent) : Prop where
  start : (Daemon.start pf reads seqno).pmd.calls = []
  acts : Along (Daemon.step pf) (ActsAsHolder pf) (Daemon.start pf reads seqno) events
  processes : ∀ before replica seqno' during reads' hw committed after,
    events = before ++ .update replica seqno' :: (during ++ .run reads' hw committed :: after) →
    Along (Daemon.step pf) (fun d event => event.isRun = true → d.holdsLock = false)
      ((run (Daemon.step pf) (Daemon.start pf reads seqno) before).step pf
        (.update replica seqno')) during →
    ∀ d, d = run (Daemon.step pf) (Daemon.start pf reads seqno)
        (before ++ .update replica seqno' :: during) → d.holdsLock = true →
      (d.idl.replica, d.idl.seqno) =
          (during.filterMap DaemonEvent.snapshot).getLastD (replica, seqno') ∧
        (d.step pf (.run reads' hw committed)).pmd =
          freshPass pf (d.passOf reads' hw committed) d.pmd

section Runs

variable {pf : Platform}

lemma step_run_of_not_holdsLock {d : Daemon} (h : d.holdsLock = false) (reads : YamlReads)
    (hw : String → ScanHw) (committed : Bool) : d.step pf (.run reads hw committed) = d := by
  obtain ⟨idl, s, exiting⟩ := d
  unfold Daemon.step
  cases exiting with
  | true => rfl
  | false =>
    have hruns : (Pass.mk idl reads hw committed).runs = false := h
    have hsame := congrArg World.pmd (pass_of_not_runs pf ⟨idl, s⟩ hruns)
    exact congrArg (Daemon.mk idl · false) hsame

variable (pf) in
lemma step_run_of_holdsLock {d : Daemon} (h : d.holdsLock = true) (reads : YamlReads)
    (hw : String → ScanHw) (committed : Bool) :
    (d.passOf reads hw committed).runs = true ∧ d.step pf (.run reads hw committed) =
      { d with pmd := pmdRun pf (d.passOf reads hw committed) d.pmd } := by
  obtain ⟨idl, s, exiting⟩ := d
  cases exiting with
  | true => exact absurd h (by simp [Daemon.holdsLock])
  | false => exact ⟨h, rfl⟩

/-- An event without effect on the state of the daemon makes no call. -/
lemma actsAsHolder (d : Daemon) (event : DaemonEvent) : ActsAsHolder pf d event := by
  have hsilent : (d.step pf event).pmd = d.pmd → ActsAsHolder pf d event := by
    intro h
    exact ⟨[], by rw [h, List.append_nil], by simp⟩
  cases event with
  | update replica seqno => exact hsilent rfl
  | lock held contended => exact hsilent rfl
  | dump => exact hsilent rfl
  | exit => exact hsilent rfl
  | run reads hw committed =>
    cases hlock : d.holdsLock with
    | false => exact hsilent (by rw [step_run_of_not_holdsLock hlock])
    | true =>
      obtain ⟨hruns, hstep⟩ := step_run_of_holdsLock pf hlock reads hw committed
      obtain ⟨new, -, hcalls⟩ := calls_pass pf ⟨d.idl, d.pmd⟩ hruns
      refine ⟨_, by rw [hstep]; exact hcalls, ?_⟩
      intro call _ _
      exact ⟨⟨reads, hw, committed, rfl⟩, hlock⟩

lemma idlSeqno_run {d : Daemon} (h : d.holdsLock = true) (reads : YamlReads)
    (hw : String → ScanHw) (committed : Bool) :
    (d.step pf (.run reads hw committed)).pmd.idlSeqno = d.idl.seqno := by
  obtain ⟨hruns, hstep⟩ := step_run_of_holdsLock pf h reads hw committed
  rw [hstep]
  show (World.pass pf ⟨d.idl, d.pmd⟩ (d.passOf reads hw committed)).pmd.idlSeqno = d.idl.seqno
  rw [pass_of_runs pf _ hruns]
  exact idlSeqno_pmdReconfigure d.pmd

/-- The sequence numbers of the updates. -/
def seqnos (events : List DaemonEvent) : List UInt32 :=
  (events.filterMap DaemonEvent.snapshot).map Prod.snd

lemma seqnos_append (xs ys : List DaemonEvent) : seqnos (xs ++ ys) = seqnos xs ++ seqnos ys := by
  unfold seqnos
  rw [List.filterMap_append, List.map_append]

variable (pf) in
/-- The daemon knows and has processed only the initial sequence number and those of updates. -/
lemma seqnos_run (reads : YamlReads) (seqno : UInt32) (events : List DaemonEvent) :
    (run (Daemon.step pf) (Daemon.start pf reads seqno) events).idl.seqno ∈
        seqno :: seqnos events ∧
      (run (Daemon.step pf) (Daemon.start pf reads seqno) events).pmd.idlSeqno ∈
        seqno :: seqnos events := by
  induction events using List.reverseRecOn with
  | nil => exact ⟨List.mem_cons_self, List.mem_cons_self⟩
  | append_singleton events event ih =>
    have hrun : run (Daemon.step pf) (Daemon.start pf reads seqno) (events ++ [event]) =
        (run (Daemon.step pf) (Daemon.start pf reads seqno) events).step pf event :=
      run_append _ _ events [event]
    have hold : ∀ n ∈ seqno :: seqnos events, n ∈ seqno :: seqnos (events ++ [event]) := by
      intro n hn
      rw [seqnos_append, ← List.cons_append]
      exact List.mem_append_left _ hn
    rw [hrun]
    generalize run (Daemon.step pf) (Daemon.start pf reads seqno) events = d at ih ⊢
    obtain ⟨hidl, hpmd⟩ := ih
    cases event with
    | update replica seqno' =>
      refine ⟨?_, hold _ hpmd⟩
      rw [seqnos_append, ← List.cons_append]
      exact List.mem_append_right _ List.mem_cons_self
    | lock held contended => exact ⟨hold _ hidl, hold _ hpmd⟩
    | dump => exact ⟨hold _ hidl, hold _ hpmd⟩
    | exit => exact ⟨hold _ hidl, hold _ hpmd⟩
    | run reads' hw committed =>
      cases hlock : d.holdsLock with
      | false =>
        rw [step_run_of_not_holdsLock hlock]
        exact ⟨hold _ hidl, hold _ hpmd⟩
      | true =>
        obtain ⟨-, hstep⟩ := step_run_of_holdsLock pf hlock reads' hw committed
        refine ⟨?_, ?_⟩
        · rw [hstep]
          exact hold _ hidl
        · rw [idlSeqno_run hlock]
          exact hold _ hidl

/-- While no call of `pmd_run` finds the lock held, the daemon keeps what it has, and its IDL
shows the last update. -/
lemma run_waiting (during : List DaemonEvent) (d : Daemon)
    (h : Along (Daemon.step pf) (fun d event => event.isRun = true → d.holdsLock = false) d
      during) :
    (run (Daemon.step pf) d during).pmd = d.pmd ∧
      ((run (Daemon.step pf) d during).idl.replica, (run (Daemon.step pf) d during).idl.seqno) =
        (during.filterMap DaemonEvent.snapshot).getLastD (d.idl.replica, d.idl.seqno) := by
  induction during generalizing d with
  | nil => exact ⟨rfl, rfl⟩
  | cons event during ih =>
    obtain ⟨hevent, hrest⟩ := h
    rw [run_cons]
    cases event with
    | update replica seqno =>
      obtain ⟨hpmd, hlast⟩ := ih _ hrest
      have hsnapshots : (DaemonEvent.update replica seqno :: during).filterMap
          DaemonEvent.snapshot = (replica, seqno) :: during.filterMap DaemonEvent.snapshot := rfl
      rw [hsnapshots, List.getLastD_cons]
      exact ⟨hpmd, hlast⟩
    | lock held contended => exact ih _ hrest
    | dump => exact ih _ hrest
    | exit => exact ih _ hrest
    | run reads hw committed =>
      rw [step_run_of_not_holdsLock (hevent rfl)] at hrest ⊢
      exact ih d hrest

lemma freshPass_of_ne {pass : Pass} (h : pass.runs = true) {s : Pmd}
    (hne : pass.idl.seqno ≠ s.idlSeqno) : pmdRun pf pass s = freshPass pf pass s := by
  have hpass := congrArg World.pmd (pass_of_runs pf ⟨pass.idl, s⟩ h)
  unfold freshPass
  rw [← pmdReconfigure_of_ne hne]
  exact hpass

end Runs

/-- In every run in which the IDL never shows two updates under one sequence number, only the
holder of the lock acts, and it misses no update. -/
theorem lockDiscipline (pf : Platform) (reads : YamlReads) (seqno : UInt32)
    (events : List DaemonEvent) (hfresh : (seqno :: seqnos events).Nodup) :
    LockDiscipline pf reads seqno events where
  start := rfl
  acts := by
    apply along_iff.mpr
    intro before event after _
    exact actsAsHolder _ event
  processes := by
    rintro before replica seqno' during reads' hw committed after rfl hwait d hd hlock
    have hrun : d = run (Daemon.step pf) ((run (Daemon.step pf) (Daemon.start pf reads seqno)
        before).step pf (.update replica seqno')) during :=
      hd.trans (run_append _ _ before (.update replica seqno' :: during))
    have hwaited := run_waiting during _ hwait
    rw [← hrun] at hwaited
    obtain ⟨hpmd, hlast⟩ := hwaited
    replace hlast : (d.idl.replica, d.idl.seqno) =
      (during.filterMap DaemonEvent.snapshot).getLastD (replica, seqno') := hlast
    refine ⟨hlast, ?_⟩
    obtain ⟨hruns, hstep⟩ := step_run_of_holdsLock pf hlock reads' hw committed
    rw [hstep]
    apply freshPass_of_ne hruns
    -- the sequence number that is shown came after the one that was processed last
    have hshown : d.idl.seqno ∈ seqno' :: seqnos during := by
      have hmem := List.getLastD_mem_cons (l := during.filterMap DaemonEvent.snapshot)
        (a := (replica, seqno'))
      rw [← hlast] at hmem
      exact List.mem_map_of_mem (f := Prod.snd) hmem
    have hprocessed : d.pmd.idlSeqno ∈ seqno :: seqnos before := by
      rw [hpmd]
      exact (seqnos_run pf reads seqno before).2
    have hsplit : seqno :: seqnos (before ++ .update replica seqno' ::
        (during ++ .run reads' hw committed :: after)) =
        (seqno :: seqnos before) ++ ((seqno' :: seqnos during) ++ seqnos after) := by
      simp [seqnos, List.filterMap_cons, DaemonEvent.snapshot]
    rw [hsplit] at hfresh
    have hdisjoint := List.disjoint_of_nodup_append hfresh
    intro heq
    apply hdisjoint hprocessed
    apply List.mem_append_left
    exact heq ▸ hshown

/-- The rows arrive before the lock is granted, and the lock is lost again. -/
theorem lockDiscipline_late :
    LockDiscipline Switch.platform Switch.reads 0
      [.run Switch.reads (fun _ => Switch.hwOf Switch.lr4Page) true,
        .update (Switch.single (Switch.intf "1" 1 "true")) 1,
        .run Switch.reads (fun _ => Switch.hwOf Switch.lr4Page) true, .lock true false, .dump,
        .run Switch.reads (fun _ => Switch.hwOf Switch.lr4Page) true, .lock false false, .exit] :=
  lockDiscipline Switch.platform Switch.reads 0 _ (by decide)

end OpsPmd
