import OpsPmd.ProcessRuns
import Mathlib.Data.Set.Card

/-!
# What the daemon leaks

A string is lost when no record in the table points to it. Records and uuids are never lost,
and neither is a string of a record that is still there; each record that was freed has lost
exactly one.
-/

namespace OpsPmd

open Lib

/-- The strings that are allocated and that no record in the table points to. -/
def Process.lost (p : Process) : Set ℕ :=
  {b | (p.mem.strings.heap.block b).isSome ∧
    ∀ name a cell, (name, a) ∈ p.ovsIntfs → p.mem.strings.cell (a, cell) ≠ .block b}

/-- The records that have been allocated and freed since the start. -/
def Memory.dead (m : Memory) : Set ℕ := {a | a < m.ports.next ∧ m.ports.block a = none}

namespace Memory.Represents

variable {m : Memory} {addrs : Shash String ℕ} {table : Shash String PmPort}

lemma subsystem_mem_inUse (a : ℕ) : (a, PortCell.subsystem) ∈ m.inUse := by
  intro hinst
  contradiction

lemma allocated_iff (h : m.Represents addrs table) (a : ℕ) :
    (m.ports.block a).isSome ↔ a ∈ addrs.map Prod.snd := by
  constructor
  · exact h.allocated a
  · intro hmem
    obtain ⟨n, hn, rfl⟩ := List.mem_map.mp hmem
    obtain ⟨i, hi, rfl⟩ := List.getElem_of_mem hn
    have hall := List.forall₂_iff_get.mp h.related
    have hold := (hall.2 i hi (by rw [← hall.1]; exact hi)).2
    have hblock : m.ports.block (addrs[i].2) = some _ := hold.fields
    rw [hblock]
    rfl

lemma ncard_dead (h : m.Represents addrs table) :
    m.dead.ncard + addrs.length = m.ports.next := by
  have hlive : (↑(addrs.map Prod.snd).toFinset : Set ℕ).ncard = addrs.length := by
    rw [Set.ncard_coe_finset, List.toFinset_card_of_nodup h.distinct, List.length_map]
  have hunion : m.dead ∪ ↑(addrs.map Prod.snd).toFinset = ↑(Finset.range m.ports.next) := by
    ext a
    rw [Set.mem_union, Finset.mem_coe, List.mem_toFinset, ← h.allocated_iff, Finset.coe_range,
      Set.mem_Iio]
    constructor
    · rintro (hdead | hlive)
      · exact hdead.1
      · obtain ⟨fields, hfields⟩ := Option.isSome_iff_exists.mp hlive
        exact Heap.lt_next_of_block hfields
    · intro hlt
      cases hb : m.ports.block a with
      | none => exact .inl ⟨hlt, hb⟩
      | some fields => exact .inr rfl
  have hdisjoint : Disjoint m.dead ↑(addrs.map Prod.snd).toFinset := by
    rw [Set.disjoint_left]
    intro a hdead hmem
    rw [Finset.mem_coe, List.mem_toFinset, ← h.allocated_iff, hdead.2] at hmem
    contradiction
  have hfinite : m.dead.Finite := (Set.finite_lt_nat m.ports.next).subset fun a ha => ha.1
  rw [← hlive, ← Set.ncard_union_eq hdisjoint hfinite, hunion, Set.ncard_coe_finset,
    Finset.card_range]

/-- The strings that no record in the table points to are the names of the subsystems of the
freed records. -/
lemma lost_eq (h : m.Represents addrs table) :
    {b | (m.strings.heap.block b).isSome ∧
        ∀ name a cell, (name, a) ∈ addrs → m.strings.cell (a, cell) ≠ .block b} =
      {b | ∃ a ∈ m.dead, m.strings.cell (a, .subsystem) = .block b} := by
  ext b
  constructor
  · rintro ⟨hsome, hnot⟩
    obtain ⟨v, hv⟩ := Option.isSome_iff_exists.mp hsome
    obtain ⟨⟨a, cell⟩, hmem, hcell⟩ := h.sound.owned.covered b v hv
    have hlt : a < m.ports.next := by
      by_contra hle
      rw [h.sound.blank a cell (by omega)] at hcell
      contradiction
    -- a live record would point to it
    have hnone : m.ports.block a = none := by
      by_contra hlive
      have hlive' := (h.allocated_iff a).mp (Option.isSome_iff_ne_none.mpr hlive)
      obtain ⟨n, hn, rfl⟩ := List.mem_map.mp hlive'
      exact hnot n.1 n.2 cell hn hcell
    have hcellSub : cell = .subsystem := by
      rcases (h.freed a hlt hnone).other cell b hcell with hinst | hsubsystem
      · rcases hmem hinst with hle | hlive
        · exact absurd hlt (Nat.not_lt.mpr hle)
        · rw [hnone] at hlive
          contradiction
      · exact hsubsystem
    exact ⟨a, ⟨hlt, hnone⟩, hcellSub ▸ hcell⟩
  · rintro ⟨a, ha, hlost⟩
    obtain ⟨v, hv⟩ := h.sound.owned.live _ (subsystem_mem_inUse a) _ hlost
    refine ⟨?_, ?_⟩
    · rw [hv]
      rfl
    · intro name a' cell hmem hcell
      have hlive : (m.ports.block a').isSome :=
        (h.allocated_iff a').mpr (List.mem_map.mpr ⟨(name, a'), hmem, rfl⟩)
      have hsame := h.sound.owned.unique (a', cell) (fun _ => .inr hlive) _ (subsystem_mem_inUse a)
        _ hcell hlost
      rw [(Prod.mk.inj hsame).1, ha.2] at hlive
      contradiction

/-- Each freed record has lost a string of its own. -/
lemma ncard_lost (h : m.Represents addrs table) :
    {b | ∃ a ∈ m.dead, m.strings.cell (a, .subsystem) = .block b}.ncard = m.dead.ncard := by
  have hspent : ∀ a, ∃ b, a ∈ m.dead → m.strings.cell (a, .subsystem) = .block b := by
    intro a
    by_cases ha : a ∈ m.dead
    · obtain ⟨b, hb⟩ := (h.freed a ha.1 ha.2).subsystem
      exact ⟨b, fun _ => hb⟩
    · exact ⟨0, fun hdead => absurd hdead ha⟩
  choose lost hlost using hspent
  have hinj : Set.InjOn lost m.dead := by
    intro a ha a' ha' he
    have hcell := hlost a' ha'
    rw [← he] at hcell
    have hsame := h.sound.owned.unique _ (subsystem_mem_inUse a) _ (subsystem_mem_inUse a') _
      (hlost a ha) hcell
    exact (Prod.mk.inj hsame).1
  have himage : lost '' m.dead =
      {b | ∃ a ∈ m.dead, m.strings.cell (a, .subsystem) = .block b} := by
    ext b
    constructor
    · rintro ⟨a, ha, rfl⟩
      exact ⟨a, ha, hlost a ha⟩
    · rintro ⟨a, ha, hb⟩
      exact ⟨a, ha, Ptr.block.inj ((hlost a ha).symm.trans hb)⟩
  rw [← himage, hinj.ncard_image]

end Memory.Represents

/-- The uuids that are allocated are those in the table. -/
lemma Process.Represents.uuid_allocated_iff {p : Process} {s : Pmd} (h : p.Represents s) (a : ℕ) :
    (p.uuids.block a).isSome ↔ a ∈ p.ovsSubs.map Prod.snd := by
  constructor
  · exact h.subsAllocated a
  · intro ha
    obtain ⟨n, hn, rfl⟩ := List.mem_map.mp ha
    obtain ⟨i, hi, rfl⟩ := List.getElem_of_mem hn
    have hall := List.forall₂_iff_get.mp h.subs
    have hblock : p.uuids.block (p.ovsSubs[i].2) = some _ :=
      (hall.2 i hi (by rw [← hall.1]; exact hi)).2
    rw [hblock]
    rfl

/-- The leak of the daemon: records and uuids are allocated exactly as long as they are in their
tables, each once, and the strings that nothing points to are the names of the subsystems of
the records that have been freed, one for each of them. -/
structure LeaksSubsystemNames (p : Process) : Prop where
  records : ∀ a, (p.mem.ports.block a).isSome ↔ a ∈ p.ovsIntfs.map Prod.snd
  recordsDistinct : (p.ovsIntfs.map Prod.snd).Nodup
  uuids : ∀ a, (p.uuids.block a).isSome ↔ a ∈ p.ovsSubs.map Prod.snd
  uuidsDistinct : (p.ovsSubs.map Prod.snd).Nodup
  lost : p.lost = {b | ∃ a ∈ p.mem.dead, p.mem.strings.cell (a, .subsystem) = .block b}
  freed : p.lost.ncard = p.mem.dead.ncard
  strings : p.lost.ncard + p.ovsIntfs.length = p.mem.ports.next

/-- After any run that the process survives, every record and every uuid that is allocated is
in its table, and the strings that are lost are the subsystem names of the freed records. -/
theorem leaksSubsystemNames_of_run (pf : Platform) (reads : YamlReads) (seqno : UInt32)
    {events : List Event}
    (hok : Along (World.step pf) Admissible (World.start pf reads seqno) events) :
    ∀ w', events.foldlM (ProcessWorld.step pf) (ProcessWorld.start seqno) = some w' →
      LeaksSubsystemNames w'.process := by
  intro w' hw'
  have h := ((implements_run pf reads seqno hok).post w' hw').process
  have hlost : w'.process.lost = _ := h.intfs.lost_eq
  have hfreed : w'.process.lost.ncard = w'.process.mem.dead.ncard := by
    rw [hlost]
    exact h.intfs.ncard_lost
  refine ⟨h.intfs.allocated_iff, h.intfs.distinct, h.uuid_allocated_iff, h.subsDistinct, hlost,
    hfreed, ?_⟩
  rw [hfreed]
  exact h.intfs.ncard_dead

/-- The record of the first row is freed, and one string is lost with it. -/
theorem leaksSubsystemNames_of_run_recreated :
    ∃ w', Switch.recreated.foldlM (ProcessWorld.step Switch.platform) (ProcessWorld.start 0) =
        some w' ∧ LeaksSubsystemNames w'.process := by
  obtain ⟨w', hw', -⟩ := (implements_run Switch.platform Switch.reads 0
    Switch.admissible_recreated).exists_result Switch.neverNull_recreated
  exact ⟨w', hw', leaksSubsystemNames_of_run Switch.platform Switch.reads 0
    Switch.admissible_recreated w' hw'⟩

end OpsPmd
