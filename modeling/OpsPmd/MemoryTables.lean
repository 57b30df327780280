import OpsPmd.Deletion
import OpsPmd.Lib.Outcome
import OpsPmd.Process

/-!
# Tables of records in memory

What a memory and a table of addresses have to satisfy to stand for a table of records, and
how records come, change and go. A record that has gone leaves one string behind, the name
of its subsystem.
-/

namespace OpsPmd

open Lib

/-- The record as far as it is known without its columns. -/
def PmPort.bare (port : PmPort) : PmPort := port.fields.toPort port.inst port.subsystem

/-- The function neither looks at the columns nor changes a string. -/
structure Plain (f : PmPort → PmPort × List Call) : Prop where
  fields : ∀ port, (f port.bare).1.fields = (f port).1.fields
  calls : ∀ port, (f port.bare).2 = (f port).2
  inst : ∀ port, (f port).1.inst = port.inst
  subsystem : ∀ port, (f port).1.subsystem = port.subsystem
  columns : ∀ port, (f port).1.ovsModuleColumns = port.ovsModuleColumns
  domColumns : ∀ port, (f port).1.ovsModuleDomColumns = port.ovsModuleDomColumns

section Plain

variable (pf : Platform)

lemma plain_pmConfigurePort : Plain (pmConfigurePort pf) := by
  have hport : ∀ port, ∃ enable, (pmConfigurePort pf port).1 = { port with portEnable := enable } :=
    pmConfigurePort_port pf
  have hbare : ∀ port : PmPort, (pmConfigurePort pf port.bare).1.portEnable =
      (pmConfigurePort pf port).1.portEnable ∧
      (pmConfigurePort pf port.bare).2 = (pmConfigurePort pf port).2 := by
    intro port
    have hdev : port.bare.moduleDevice = port.moduleDevice := rfl
    have hq : qsfpDisableData port.bare = qsfpDisableData port := rfl
    have hpresent : port.bare.present = port.present := rfl
    have hoptical : port.bare.optical = port.optical := rfl
    have henable : port.bare.hwEnable = port.hwEnable := rfl
    unfold pmConfigurePort pmConfigureQsfp
    simp only [hdev, hq, hpresent, hoptical, henable]
    repeat' split
    all_goals exact ⟨rfl, rfl⟩
  refine ⟨fun port => ?_, fun port => (hbare port).2, fun port => ?_, fun port => ?_,
    fun port => ?_, fun port => ?_⟩
  · obtain ⟨enable, h⟩ := hport port
    obtain ⟨enable', h'⟩ := hport port.bare
    have hsame := (hbare port).1
    rw [h, h'] at hsame ⊢
    have he : enable' = enable := hsame
    rw [he]
    rfl
  all_goals
    obtain ⟨enable, h⟩ := hport port
    rw [h]

lemma plain_pmClearReset : Plain fun port => (port, pmClearReset port) :=
  ⟨fun _ => rfl, fun _ => rfl, fun _ => rfl, fun _ => rfl, fun _ => rfl, fun _ => rfl⟩

lemma plain_ovsdbIfIntfModify (intf : OvsrecInterface) : Plain (ovsdbIfIntfModify pf intf) := by
  have hconfigure := plain_pmConfigurePort pf
  have hcases : ∀ port, ovsdbIfIntfModify pf intf port =
      if port.hwEnable ≠ ovsdbIfIntfGetHwEnable pf intf then
        pmConfigurePort pf { port with hwEnable := ovsdbIfIntfGetHwEnable pf intf }
      else (port, []) := fun _ => rfl
  have henable : ∀ port : PmPort, port.bare.hwEnable = port.hwEnable := fun _ => rfl
  have hbare : ∀ port : PmPort,
      ({ port.bare with hwEnable := ovsdbIfIntfGetHwEnable pf intf } : PmPort) =
        ({ port with hwEnable := ovsdbIfIntfGetHwEnable pf intf } : PmPort).bare := fun _ => rfl
  refine ⟨fun port => ?_, fun port => ?_, fun port => ?_, fun port => ?_, fun port => ?_,
    fun port => ?_⟩
  · rw [hcases, hcases, henable, hbare]
    split
    · exact hconfigure.fields _
    · rfl
  · rw [hcases, hcases, henable, hbare]
    split
    · exact hconfigure.calls _
    · rfl
  · rw [hcases]
    split
    · exact hconfigure.inst _
    · rfl
  · rw [hcases]
    split
    · exact hconfigure.subsystem _
    · rfl
  · rw [hcases]
    split
    · exact hconfigure.columns _
    · rfl
  · rw [hcases]
    split
    · exact hconfigure.domColumns _
    · rfl

lemma calls_pmReadModuleState_bare (hw : ScanHw) (port : PmPort) :
    (pmReadModuleState pf hw port.bare).calls = (pmReadModuleState pf hw port).calls := by
  have hread : pmReadA0 pf hw 0 port.bare = pmReadA0 pf hw 0 port := rfl
  have hunread : port.bare.unread = port.unread := rfl
  cases hk : port.moduleDevice.isKnown with
  | false =>
    have hk' : port.bare.moduleDevice.isKnown = false := hk
    rw [pmReadModuleState_of_not_isKnown pf hw hk, pmReadModuleState_of_not_isKnown pf hw hk']
    rfl
  | true =>
    have hk' : port.bare.moduleDevice.isKnown = true := hk
    rw [pmReadModuleState_eq pf hw hk, pmReadModuleState_eq pf hw hk', hread, hunread]
    split
    · rfl
    · rfl

/-- What a scan asks of the hardware does not depend on the columns. -/
lemma plain_pmReadModuleState (hw : ScanHw) :
    Plain fun port => (port, (pmReadModuleState pf hw port).calls) :=
  ⟨fun _ => rfl, calls_pmReadModuleState_bare pf hw, fun _ => rfl, fun _ => rfl, fun _ => rfl,
    fun _ => rfl⟩

lemma readModuleStateScript_bare (hw : ScanHw) (connector : Ptr Text) (port : PmPort) :
    readModuleStateScript pf hw connector port.bare =
      readModuleStateScript pf hw connector port := by
  have hread : pmReadA0 pf hw 0 port.bare = pmReadA0 pf hw 0 port := rfl
  unfold readModuleStateScript retryReadScript scanA2Script
  simp only [Bool.and_false, Bool.or_true, Bool.false_eq_true, if_false, if_true, hread]
  rfl

end Plain

/-- A record that has been freed: the one string that is still allocated for it is the name
of its subsystem. -/
structure Memory.Spent (m : Memory) (a : ℕ) : Prop where
  subsystem : ∃ b, m.strings.cell (a, .subsystem) = .block b
  other : ∀ cell b, m.strings.cell (a, cell) = .block b → cell = .inst ∨ cell = .subsystem

namespace Memory

variable {m m' : Memory} {a : ℕ} {port : PmPort}

lemma record_of_holds (h : Holds m a port) : m.record a = some port.bare := by
  unfold record
  simp only [h.fields, h.inst, h.subsystem, Option.bind_eq_bind, Option.bind_some]
  simp [PmPort.bare]

lemma Spent.of_apart {b : ℕ} (h : m.Spent b) (hapart : Apart a m m') (hne : b ≠ a) :
    m'.Spent b where
  subsystem := by
    rw [hapart.cell b _ hne]
    exact h.subsystem
  other := by
    intro cell c hc
    rw [hapart.cell b _ hne] at hc
    exact h.other cell c hc

lemma inUse_newRecord (m : Memory) (port : PmPort) :
    (Process.newRecord m port).inUse = m.inUse := by
  have hiff : ∀ b, (m.ports.next + 1 ≤ b ∨
      (Function.update m.ports.block m.ports.next (some port.fields) b).isSome) ↔
      (m.ports.next ≤ b ∨ (m.ports.block b).isSome) := by
    intro b
    by_cases hb : b = m.ports.next
    · simp [hb]
    · rw [Function.update_of_ne hb]
      have hle : m.ports.next + 1 ≤ b ↔ m.ports.next ≤ b := by omega
      rw [hle]
  ext ⟨b, cell⟩
  exact imp_congr_right fun _ => hiff b

/-- A new record holds what it is made with. -/
lemma newRecord_spec (hs : Sound m) (hcol : port.ovsModuleColumns = fun _ => none)
    (hdom : port.ovsModuleDomColumns = fun _ => none) :
    Sound (Process.newRecord m port) ∧ Holds (Process.newRecord m port) m.ports.next port ∧
      Apart m.ports.next m (Process.newRecord m port) := by
  have hmem : ∀ cell, (m.ports.next, cell) ∈ m.inUse := fun _ _ => .inl le_rfl
  have hblank := fun cell => hs.blank m.ports.next cell le_rfl
  have hinst : SetsAt m (m.strings.strdup (m.ports.next, .inst) port.inst.toList) m.ports.next
      .inst (some port.inst.toList) := hs.owned.strdup (hmem .inst) trivial (hblank .inst) _
  have hnull : (m.strings.strdup (m.ports.next, .inst) port.inst.toList).cell
      (m.ports.next, .subsystem) = .null :=
    (hinst.cell _ (by simp)).trans (hblank .subsystem)
  have hsub := hinst.owned.strdup (hmem .subsystem) trivial hnull port.subsystem.toList
  -- the other pointers of the record are null, and those of other records are left alone
  have hcell : ∀ b cell, (b, cell) ≠ (m.ports.next, PortCell.inst) →
      (b, cell) ≠ (m.ports.next, PortCell.subsystem) →
      (Process.newRecord m port).strings.cell (b, cell) = m.strings.cell (b, cell) :=
    fun b cell hi hu => (hsub.cell _ hu).trans (hinst.cell _ hi)
  have hnone : ∀ cell, cell ≠ PortCell.inst → cell ≠ PortCell.subsystem →
      (Process.newRecord m port).strings.read (m.ports.next, cell) = some none := by
    intro cell hi hu
    refine Cells.read_of_null ((hcell _ _ ?_ ?_).trans (hblank cell))
    · exact fun he => hi (Prod.mk.inj he).2
    · exact fun he => hu (Prod.mk.inj he).2
  have hblock : (Process.newRecord m port).ports.block =
      Function.update m.ports.block m.ports.next (some port.fields) := rfl
  have hne : ∀ {b cell cell'}, b ≠ m.ports.next →
      ((b, cell) : ℕ × PortCell) ≠ (m.ports.next, cell') :=
    fun hb he => hb (Prod.mk.inj he).1
  refine ⟨⟨?_, ?_⟩, ⟨?_, ?_, hsub.self, ?_, ?_⟩, ⟨?_, ?_, ?_⟩⟩
  · rw [inUse_newRecord]
    exact hsub.owned
  · intro b cell hb
    have hb' : m.ports.next + 1 ≤ b := hb
    have hba : b ≠ m.ports.next := by omega
    rw [hcell b cell (hne hba) (hne hba)]
    exact hs.blank b cell (by omega)
  · rw [hblock, Function.update_self]
  · exact (hsub.read _ (hmem .inst) (by simp)).trans hinst.self
  · intro field
    rw [hcol]
    exact hnone _ nofun nofun
  · intro field
    rw [hdom]
    exact hnone _ nofun nofun
  · intro b hb
    rw [hblock, Function.update_of_ne hb]
  · intro b cell hb
    exact hcell b cell (hne hb) (hne hb)
  · intro b cell hb hm
    exact (hsub.read _ hm (hne hb)).trans (hinst.read _ hm (hne hb))

lemma ovsModuleColumns_pmDeleteAllData {field : ModuleColumn} (h : field.isStatic = false)
    (port : PmPort) : (pmDeleteAllData port).ovsModuleColumns field = none := by
  cases field with
  | connector => contradiction
  | connectorStatus => contradiction
  | cableTechnology => contradiction
  | powerMode => contradiction
  | _ => simp [pmDeleteAllData, Function.update]

lemma cell_of_read_none {k : ℕ × PortCell} (h : m.strings.read k = some none) (b : ℕ) :
    m.strings.cell k ≠ .block b := by
  intro hc
  unfold Cells.read at h
  rw [hc] at h
  obtain ⟨v, -, hv⟩ := Option.map_eq_some_iff.mp h
  contradiction

/-- Freeing a record that is there does not fault and forgets one string. -/
lemma pmdFreePmPort_spec (fl : FloatArith) (hs : Sound m) (h : Holds m a port)
    (hdom : port.ovsModuleDomColumns = fun _ => none) :
    ∃ m', Process.pmdFreePmPort fl m a = some m' ∧ Sound m' ∧ Apart a m m' ∧ m'.Spent a ∧
      m'.ports.block a = none ∧ m'.ports.next = m.ports.next := by
  have hd : Disciplined (deleteAllDataScript fl) := disciplined_deleteAllData
  obtain ⟨m₁, hexec, hs₁, h₁, hframe⟩ := exists_foldlM_exec hs h hd
  rw [applyAll_deleteAllData] at h₁
  obtain ⟨strings, hfree, hcell, howned, hread⟩ := hs₁.owned.free (mem_inUse h₁ .inst) trivial
  obtain ⟨ports, hports, hblock, hnext⟩ := Heap.free_of_block h₁.fields
  have hlt : a < m₁.ports.next := Heap.lt_next_of_block h₁.fields
  have hinUse : (⟨ports, strings⟩ : Memory).inUse = m₁.inUse \ {(a, .inst)} := by
    ext ⟨b, cell⟩
    show (cell = .inst → ports.next ≤ b ∨ (ports.block b).isSome) ↔
      (cell = .inst → m₁.ports.next ≤ b ∨ (m₁.ports.block b).isSome) ∧
        ((b, cell) : ℕ × PortCell) ≠ (a, .inst)
    rw [hblock, hnext]
    by_cases hb : b = a
    · subst hb
      by_cases hc : cell = .inst
      · simp [hc, hlt]
      · simp [hc]
    · simp [hb]
  refine ⟨⟨ports, strings⟩, ?_, ⟨?_, ?_⟩, ⟨?_, ?_, ?_⟩, ⟨?_, ?_⟩, ?_, hnext.trans hframe.next⟩
  · unfold Process.pmdFreePmPort
    simp [hexec, hfree, hports]
  · rw [hinUse]
    exact howned
  · intro b cell hb
    rw [hcell]
    exact hs₁.blank b cell (hnext ▸ hb)
  · intro b hb
    show ports.block b = _
    rw [hblock, Function.update_of_ne hb]
    exact hframe.block b hb
  · intro b cell hb
    rw [hcell]
    exact hframe.cell b cell hb
  · intro b cell hb hm
    rw [hread (b, cell) (hframe.inUse ▸ hm) fun he => hb (Prod.mk.inj he).1]
    exact hframe.read b cell hb hm
  · rw [hcell]
    have hsub := h₁.subsystem
    unfold Cells.read at hsub
    cases hc : m₁.strings.cell (a, .subsystem) with
    | null =>
      rw [hc] at hsub
      exact absurd (Option.some.inj hsub) nofun
    | const v => exact absurd hc (hs₁.owned.notConst _ (mem_inUse h₁ .subsystem) trivial v)
    | block b => exact ⟨b, rfl⟩
  · intro cell b hb
    rw [hcell] at hb
    cases cell with
    | inst => exact .inl rfl
    | subsystem => exact .inr rfl
    | column field =>
      cases hf : field.isStatic with
      | true => exact absurd hb (hs₁.owned.notBlock _ (mem_inUse h₁ _) (not_owner hf) b)
      | false =>
        refine absurd hb (cell_of_read_none ?_ b)
        rw [h₁.column, ovsModuleColumns_pmDeleteAllData hf]
    | domColumn field =>
      refine absurd hb (cell_of_read_none ?_ b)
      rw [h₁.domColumn, ovsModuleDomColumns_pmDeleteAllData, hdom]
  · show ports.block a = none
    rw [hblock, Function.update_self]

end Memory

/-! ## Tables in memory -/

/-- The addresses of `addrs` are those of the records of `table`, which are all that are
allocated. -/
structure Memory.Represents (m : Memory) (addrs : Shash String ℕ) (table : Shash String PmPort) :
    Prop where
  sound : m.Sound
  related : Shash.Related m.Holds addrs table
  distinct : (addrs.map Prod.snd).Nodup
  allocated : ∀ a, (m.ports.block a).isSome → a ∈ addrs.map Prod.snd
  freed : ∀ a < m.ports.next, m.ports.block a = none → m.Spent a
  dom : ∀ name port, (name, port) ∈ table → port.ovsModuleDomColumns = fun _ => none

namespace Memory.Represents

variable {m m' : Memory} {addrs : Shash String ℕ} {table : Shash String PmPort} {name : String}
  {a : ℕ} {port port' : PmPort}

/-- A record that is changed where it lies. -/
lemma set (h : m.Represents addrs table) (hf : addrs.find name = some a) (hold : m.Holds a port)
    (hs : m'.Sound) (hnew : m'.Holds a port') (hframe : Frame a m m')
    (hdom : port'.ovsModuleDomColumns = fun _ => none) :
    m'.Represents addrs (table.set name port') where
  sound := hs
  related := h.related.set h.distinct hf (fun _ _ hne hR => hR.of_apart hframe.toApart hne) hnew
  distinct := h.distinct
  allocated := fun b hb => h.allocated b (hframe.allocated b ▸ hb)
  freed := by
    intro b hlt hb
    have hne : b ≠ a := by
      rintro rfl
      rw [hnew.fields] at hb
      contradiction
    rw [hframe.block b hne] at hb
    exact (h.freed b (hframe.next ▸ hlt) hb).of_apart hframe.toApart hne
  dom := by
    intro name' q hq
    rcases Shash.mem_of_mem_set hq with hq' | ⟨-, rfl⟩
    · exact h.dom name' q hq'
    · exact hdom

lemma add (h : m.Represents addrs table) (hcol : port.ovsModuleColumns = fun _ => none)
    (hdom : port.ovsModuleDomColumns = fun _ => none) :
    (Process.newRecord m port).Represents (addrs.add name m.ports.next) (table.add name port) := by
  obtain ⟨hs, hholds, hapart⟩ := newRecord_spec h.sound hcol hdom
  have hfresh : m.ports.next ∉ addrs.map Prod.snd := by
    intro hmem
    obtain ⟨n, hn, he⟩ := List.mem_map.mp hmem
    have hall : ∀ n ∈ addrs, n.2 < m.ports.next := by
      intro n hn
      obtain ⟨i, hi, rfl⟩ := List.getElem_of_mem hn
      exact Heap.lt_next_of_block ((List.forall₂_iff_get.mp h.related).2 i hi
        (by rw [← (List.forall₂_iff_get.mp h.related).1]; exact hi)).2.fields
    exact absurd (hall n hn) (by omega)
  refine ⟨hs, ?_, ?_, ?_, ?_, ?_⟩
  · refine Shash.Related.add (h.related.mono ?_) hholds
    intro _ b q hb _ hR
    refine hR.of_apart hapart ?_
    rintro rfl
    exact hfresh (Shash.snd_mem_of_mem hb)
  · unfold Shash.add
    rw [List.map_append, List.nodup_append]
    refine ⟨h.distinct, by simp, ?_⟩
    intro x hx y hy hxy
    have hnext : y = m.ports.next := by simpa using hy
    exact hfresh (hxy.trans hnext ▸ hx)
  · intro b hb
    unfold Shash.add
    rw [List.map_append, List.mem_append]
    by_cases hne : b = m.ports.next
    · exact .inr (by simp [hne])
    · rw [hapart.block b hne] at hb
      exact .inl (h.allocated b hb)
  · intro b hlt hb
    have hne : b ≠ m.ports.next := by
      rintro rfl
      rw [hholds.fields] at hb
      contradiction
    have hlt' : b < m.ports.next + 1 := hlt
    rw [hapart.block b hne] at hb
    exact (h.freed b (by omega) hb).of_apart hapart hne
  · intro name' q hq
    rcases Shash.mem_add.mp hq with hq' | ⟨-, rfl⟩
    · exact h.dom name' q hq'
    · exact hdom

/-- The record that a name is found to have is freed, and the name is deleted. -/
lemma delete (fl : FloatArith) (h : m.Represents addrs table) (hf : addrs.find name = some a)
    (hold : m.Holds a port) (hdom : port.ovsModuleDomColumns = fun _ => none) :
    ∃ m', Process.pmdFreePmPort fl m a = some m' ∧ Apart a m m' ∧
      m'.Represents (addrs.delete name) (table.delete name) := by
  obtain ⟨m', hfree, hs, hapart, hspent, hnone, hnext⟩ := pmdFreePmPort_spec fl h.sound hold hdom
  have hmem : ∀ {n}, n ∈ addrs.delete name ↔ n ∈ addrs ∧ n.2 ≠ a :=
    fun {n} => Shash.mem_delete_iff h.distinct hf
  refine ⟨m', hfree, hapart, hs, ?_, ?_, ?_, ?_, ?_⟩
  · refine (h.related.delete name).mono ?_
    intro name' b q hb _ hR
    exact hR.of_apart hapart (hmem.mp hb).2
  · exact (List.eraseP_sublist.map Prod.snd).nodup h.distinct
  · intro b hb
    have hne : b ≠ a := by
      rintro rfl
      rw [hnone] at hb
      contradiction
    rw [hapart.block b hne] at hb
    obtain ⟨n, hn, rfl⟩ := List.mem_map.mp (h.allocated b hb)
    exact List.mem_map.mpr ⟨n, hmem.mpr ⟨hn, hne⟩, rfl⟩
  · intro b hlt hb
    by_cases hne : b = a
    · exact hne ▸ hspent
    · rw [hapart.block b hne] at hb
      exact (h.freed b (hnext ▸ hlt) hb).of_apart hapart hne
  · intro name' q hq
    exact h.dom name' q (List.eraseP_sublist.subset hq)

/-- A loop over the table that changes each record where it lies, and does not create or free
any. -/
theorem foldlM {σ ω : Type*} (mem : σ → Memory) (log : σ → List ω)
    (g : String × PmPort → PmPort) (out : String × PmPort → List ω) {I : σ → Prop}
    {ok : String × PmPort → Prop} {f : σ → String × ℕ → Option σ}
    (hstep : ∀ st n port, I st → (mem st).Sound → (mem st).Holds n.2 port →
      Outcome (ok (n.1, port)) (f st n) fun st' => I st' ∧ (mem st').Sound ∧
        (mem st').Holds n.2 (g (n.1, port)) ∧ Frame n.2 (mem st) (mem st') ∧
        log st' = log st ++ out (n.1, port))
    (hdom : ∀ n, (g n).ovsModuleDomColumns = n.2.ovsModuleDomColumns) {st : σ} (hI : I st)
    (h : (mem st).Represents addrs table) :
    Outcome (∀ n ∈ table, ok n) (addrs.foldlM f st) fun st' =>
      I st' ∧ log st' = log st ++ table.flatMap out ∧
        (mem st').Represents addrs (table.map fun n => (n.1, g n)) := by
  -- what the loop keeps of the addresses
  let J : σ → Prop := fun st' => I st' ∧ (mem st').Sound ∧
    (mem st').ports.next = (mem st).ports.next ∧
    (∀ b, ((mem st').ports.block b).isSome = ((mem st).ports.block b).isSome) ∧
    ∀ b, (mem st').ports.block b = none → (mem st).Spent b → (mem st').Spent b
  have hJ : J st := ⟨hI, h.sound, rfl, fun _ => rfl, fun _ _ hb => hb⟩
  have hturn : ∀ st₁ n port, J st₁ → (mem st₁).Holds n.2 port →
      Outcome (ok (n.1, port)) (f st₁ n) fun st₂ => J st₂ ∧
        (mem st₂).Holds n.2 (g (n.1, port)) ∧ log st₂ = log st₁ ++ out (n.1, port) ∧
        ∀ b q, b ≠ n.2 → (mem st₁).Holds b q → (mem st₂).Holds b q := by
    rintro st₁ n port ⟨hI₁, hs₁, hnext₁, halloc₁, hspent₁⟩ hold
    refine (hstep st₁ n port hI₁ hs₁ hold).mono ?_
    rintro st₂ ⟨hI₂, hs₂, hold₂, hframe, hlog⟩
    refine ⟨⟨hI₂, hs₂, hframe.next.trans hnext₁,
      fun b => (hframe.allocated b).trans (halloc₁ b), ?_⟩, hold₂, hlog,
      fun b q hne hq => hq.of_apart hframe.toApart hne⟩
    intro b hb hspent
    have hne : b ≠ n.2 := by
      rintro rfl
      rw [hold₂.fields] at hb
      contradiction
    rw [hframe.block b hne] at hb
    exact (hspent₁ b hb hspent).of_apart hframe.toApart hne
  refine (Shash.Related.foldlM hturn h.related h.distinct hJ).mono ?_
  rintro st' ⟨⟨hI', hs', hnext, halloc, hspent⟩, hlog, hrel, -⟩
  refine ⟨hI', hlog, hs', hrel, h.distinct, ?_, ?_, ?_⟩
  · intro b hb
    exact h.allocated b (halloc b ▸ hb)
  · intro b hlt hb
    have hnone : (mem st).ports.block b = none := by
      have hsame := halloc b
      rw [hb] at hsame
      simpa using hsame.symm
    exact hspent b hb (h.freed b (hnext ▸ hlt) hnone)
  · intro name port hmem
    obtain ⟨n, hn, heq⟩ := List.mem_map.mp hmem
    obtain ⟨-, rfl⟩ := Prod.mk.inj heq
    rw [hdom n]
    exact h.dom n.1 n.2 hn

end Memory.Represents

end OpsPmd
