import OpsPmd.MemoryTables
import OpsPmd.Quiet

/-!
# When the daemon faults

The process follows the daemon as it was modelled without a memory: from records that are held
in memory, every function comes to an end and leaves records that are held in memory, unless it
follows a null pointer. What makes the deletions safe is that a record lies in the table under
the name that it holds itself.
-/

namespace OpsPmd

open Lib

lemma ovsModuleDomColumns_setA2ReadRequest (port : PmPort) (page : Page) :
    (setA2ReadRequest port page).ovsModuleDomColumns = port.ovsModuleDomColumns := by
  unfold setA2ReadRequest
  repeat' split
  all_goals rfl

/-- The scan never gets to the diagnostics. -/
lemma ovsModuleDomColumns_pmReadModuleState (pf : Platform) (hw : ScanHw) (port : PmPort) :
    (pmReadModuleState pf hw port).port.ovsModuleDomColumns = port.ovsModuleDomColumns := by
  cases hk : port.moduleDevice.isKnown with
  | false => rw [pmReadModuleState_of_not_isKnown pf hw hk]
  | true =>
    rw [pmReadModuleState_eq pf hw hk]
    split
    · exact (ovsModuleDomColumns_setA2ReadRequest _ _).trans (ovsModuleDomColumns_pmParse _ port)
    · rfl

lemma ovsModuleDomColumns_publishPort (replica : Replica) (port : PmPort) :
    (publishPort replica port).1.ovsModuleDomColumns = port.ovsModuleDomColumns := by
  unfold publishPort
  split
  · rfl
  split
  · rfl
  · rfl

namespace Process

lemma outcome_guarded {f : PmPort → PmPort × List Call} (hf : Plain f) (port : PmPort) :
    Outcome (Survives port (f port).2) (guarded f port.bare) fun out => out = f port.bare := by
  unfold guarded
  rw [hf.calls]
  by_cases hconnector : port.moduleDevice.connector = none
  · have hbare : port.bare.moduleDevice.connector = none := hconnector
    rw [if_pos hbare]
    exact .none fun h => h.connector hconnector
  have hbare : ¬port.bare.moduleDevice.connector = none := hconnector
  rw [if_neg hbare]
  by_cases hnull : (f port).2.any Call.isNullDeref = true
  · rw [if_pos hnull]
    refine .none fun h => ?_
    obtain ⟨call, hcall, hderef⟩ := List.any_eq_true.mp hnull
    rw [h.calls call hcall] at hderef
    contradiction
  · rw [if_neg hnull]
    refine .of_exists ⟨hconnector, fun call hcall => ?_⟩ ⟨_, rfl, rfl⟩
    exact Bool.eq_false_iff.mpr fun hderef => hnull (List.any_eq_true.mpr ⟨call, hcall, hderef⟩)

/-- The connector is looked at again only if the setting changes. -/
lemma outcome_ovsdbIfIntfModify (pf : Platform) (intf : OvsrecInterface) {port : PmPort}
    (hconnector : port.moduleDevice.connector ≠ none) :
    Outcome (Survives port (OpsPmd.ovsdbIfIntfModify pf intf port).2)
      (ovsdbIfIntfModify pf intf port.bare) fun out =>
        out = OpsPmd.ovsdbIfIntfModify pf intf port.bare := by
  have henable : port.bare.hwEnable = port.hwEnable := rfl
  unfold ovsdbIfIntfModify OpsPmd.ovsdbIfIntfModify
  dsimp only
  rw [henable]
  by_cases hchange : port.hwEnable ≠ ovsdbIfIntfGetHwEnable pf intf
  · rw [if_pos hchange, if_pos hchange, if_pos hchange]
    let port' : PmPort := { port with hwEnable := ovsdbIfIntfGetHwEnable pf intf }
    refine (outcome_guarded (plain_pmConfigurePort pf) port').congr ?_
    exact ⟨fun h => ⟨h.connector, h.calls⟩, fun h => ⟨h.connector, h.calls⟩⟩
  · rw [if_neg hchange, if_neg hchange, if_neg hchange]
    exact .of_exists ⟨hconnector, by simp⟩ ⟨_, rfl, rfl⟩

end Process

/-- The process is the daemon with its records and uuids in memory. -/
structure Process.Represents (p : Process) (s : Pmd) : Prop where
  intfs : p.mem.Represents p.ovsIntfs s.ovsIntfs
  subs : Shash.Related (fun a uuid => p.uuids.block a = some uuid) p.ovsSubs s.ovsSubs
  subsDistinct : (p.ovsSubs.map Prod.snd).Nodup
  subsAllocated : ∀ a, (p.uuids.block a).isSome → a ∈ p.ovsSubs.map Prod.snd
  idlSeqno : p.idlSeqno = s.idlSeqno
  curHwSet : p.curHwSet = s.curHwSet
  yaml : p.yaml = s.yaml
  calls : p.calls = s.calls

namespace Process.Represents

variable {p : Process} {s : Pmd} {name : String} {port : PmPort} {a : ℕ}

lemma find_none (h : p.Represents s) (hf : s.ovsIntfs.find name = none) :
    p.ovsIntfs.find name = none := h.intfs.related.find_eq_none_iff.mpr hf

lemma find_some (h : p.Represents s) (hf : s.ovsIntfs.find name = some port) :
    ∃ a, p.ovsIntfs.find name = some a ∧ p.mem.Holds a port := h.intfs.related.find hf

lemma log (h : p.Represents s) (calls : List Call) : (p.log calls).Represents (s.log calls) where
  intfs := h.intfs
  subs := h.subs
  subsDistinct := h.subsDistinct
  subsAllocated := h.subsAllocated
  idlSeqno := h.idlSeqno
  curHwSet := h.curHwSet
  yaml := h.yaml
  calls := by
    show p.calls ++ calls = s.calls ++ calls
    rw [h.calls]

/-- Another memory and another table of interfaces, and all else as it was. -/
lemma with_intfs (h : p.Represents s) {mem : Memory} {addrs : Shash String ℕ}
    {table : Shash String PmPort} (hmem : mem.Represents addrs table) :
    ({ p with mem := mem, ovsIntfs := addrs } : Process).Represents
      { s with ovsIntfs := table } :=
  ⟨hmem, h.subs, h.subsDistinct, h.subsAllocated, h.idlSeqno, h.curHwSet, h.yaml, h.calls⟩

/-- A plain function on the record of a name, as far as it survives. -/
lemma runOn {f : PmPort → PmPort × List Call} {f' : PmPort → Option (PmPort × List Call)}
    {ok : Prop} (hf : Plain f) (h : p.Represents s) (hfind : s.ovsIntfs.find name = some port)
    (ha : p.ovsIntfs.find name = some a) (hold : p.mem.Holds a port)
    (hf' : Outcome ok (f' port.bare) fun out => out = f port.bare) :
    Outcome ok (p.runOn a f') fun p' => p'.ovsIntfs = p.ovsIntfs ∧ p'.mem.Holds a (f port).1 ∧
      p'.Represents (({ s with
        ovsIntfs := s.ovsIntfs.set name (f port).1 } : Pmd).log (f port).2) := by
  unfold Process.runOn
  simp only [Memory.record_of_holds hold, Option.bind_eq_bind, Option.bind_some]
  refine hf'.bind id fun hok out hout => ?_
  subst hout
  have hdom : port.ovsModuleDomColumns = fun _ => none :=
    h.intfs.dom name port (Shash.mem_of_find_eq_some hfind)
  obtain ⟨mem, hupdate, hs, hnew, hframe⟩ :=
    Memory.exists_update (fun _ => (f port.bare).1.fields) h.intfs.sound hold (hf.fields port)
      (hf.inst port) (hf.subsystem port) (hf.columns port) (hf.domColumns port)
  have hmem := h.intfs.set ha hold hs hnew hframe ((hf.domColumns port).trans hdom)
  refine .of_exists hok ⟨({ p with mem := mem } : Process).log (f port.bare).2, ?_, rfl, hnew, ?_⟩
  · rw [hupdate]
    rfl
  · rw [hf.calls]
    exact (h.with_intfs hmem).log _

/-! ## Creation -/

theorem ovsdbIfIntfCreate (pf : Platform) (h : p.Represents s) (hn : NoNull s)
    {intf : OvsrecInterface} (subName : String) (hnew : intf.name ∉ s.ovsIntfs.keys) :
    Outcome (NoNull (OpsPmd.ovsdbIfIntfCreate pf s intf subName))
      (p.ovsdbIfIntfCreate pf intf subName) fun p' =>
        p'.Represents (OpsPmd.ovsdbIfIntfCreate pf s intf subName) := by
  have h₀ := h.log [.intfCreate subName intf.name]
  have hyaml : pmGetYamlPort (p.log [.intfCreate subName intf.name]).yaml subName intf.name =
      pmGetYamlPort s.yaml subName intf.name := by
    rw [← h.yaml]
    rfl
  rcases ovsdbIfIntfCreate_cases pf s intf subName with ⟨yamlPort, hg, hp, hc⟩ | ⟨hnot, hc⟩
  · refine Outcome.congr ?_ (noNull_ovsdbIfIntfCreate_iff hn hg hp).symm
    let port := newPort pf intf subName yamlPort
    let mem := Process.newRecord p.mem port
    let p₁ : Process := { p.log [.intfCreate subName intf.name] with
      mem := mem, ovsIntfs := p.ovsIntfs.add intf.name p.mem.ports.next }
    have hadd : mem.Represents (p.ovsIntfs.add intf.name p.mem.ports.next)
        (s.ovsIntfs.add intf.name port) := h.intfs.add rfl rfl
    obtain ⟨-, hold, -⟩ : mem.Sound ∧ mem.Holds p.mem.ports.next port ∧ _ :=
      Memory.newRecord_spec h.intfs.sound rfl rfl
    have hkey : intf.name ∉ p.ovsIntfs.keys := h.intfs.related.keys_eq ▸ hnew
    have ha : p₁.ovsIntfs.find intf.name = some p.mem.ports.next := by
      show (p.ovsIntfs.add intf.name p.mem.ports.next).find intf.name = _
      rw [Shash.find_add hkey, Function.update_self]
    have hset : ∀ q q', (s.ovsIntfs.add intf.name q).set intf.name q' =
        s.ovsIntfs.add intf.name q' := fun q q' => Shash.set_add hnew q q'
    have hfind : ∀ q, (s.ovsIntfs.add intf.name q).find intf.name = some q := by
      intro q
      rw [Shash.find_add hnew, Function.update_self]
    unfold Process.ovsdbIfIntfCreate
    simp only [hyaml, hg, hp, Bool.not_true, Bool.false_eq_true, if_false]
    have hread : mem.strings.read (p.mem.ports.next, .inst) = some (some intf.name.toList) :=
      hold.inst
    have hstr : String.ofList intf.name.toList = intf.name := by simp
    show Outcome _ ((mem.strings.read (p.mem.ports.next, .inst)).bind _) _
    rw [hread]
    show Outcome _ ((Process.runOn _ _ _).bind _) _
    rw [hstr]
    show Outcome _ ((p₁.runOn p.mem.ports.next (Process.pmConfigurePort pf)).bind _) _
    have hconfigure := (h₀.with_intfs hadd).runOn (plain_pmConfigurePort pf) (hfind port) ha hold
      (Process.outcome_guarded (plain_pmConfigurePort pf) port)
    refine hconfigure.bind id ?_
    rintro hsurvives p₂ ⟨haddrs₂, hold₂, h₂⟩
    rw [show (_ : Pmd).ovsIntfs.set intf.name _ = _ from hset port _] at h₂
    have hreset : Survives (createdPort pf intf subName yamlPort)
        (OpsPmd.pmClearReset (createdPort pf intf subName yamlPort)) := by
      refine ⟨?_, fun call hcall => isNullDeref_pmClearReset hcall⟩
      rw [moduleDevice_createdPort]
      exact hsurvives.connector
    obtain ⟨p₃, hrun₃, -, -, h₃⟩ :=
      (h₂.runOn plain_pmClearReset (hfind _) ((congrArg (·.find intf.name) haddrs₂).trans ha) hold₂
        (Process.outcome_guarded plain_pmClearReset _)).exists_result hreset
    refine .of_exists hsurvives ⟨p₃, hrun₃, ?_⟩
    rw [hc]
    unfold Pmd.log at h₃ ⊢
    simpa only [hset, createCalls, createdPort, List.append_assoc, List.cons_append,
      List.nil_append] using h₃
  · rw [hc]
    have hmark : NoNull (s.log [.intfCreate subName intf.name]) := by
      refine hn.log fun call hcall => ?_
      rw [List.mem_singleton.mp hcall]
      rfl
    refine .of_exists hmark ⟨p.log [.intfCreate subName intf.name], ?_, h₀⟩
    unfold Process.ovsdbIfIntfCreate
    simp only [hyaml]
    cases hg : pmGetYamlPort s.yaml subName intf.name with
    | none => rfl
    | some yamlPort => simp [hnot yamlPort hg]

lemma createMissing (pf : Platform) (h : p.Represents s) (hn : NoNull s) (intf : OvsrecInterface)
    (subName : String) :
    Outcome (NoNull (OpsPmd.createMissing pf subName s intf))
      (Process.createMissing pf subName p intf) fun p' =>
        p'.Represents (OpsPmd.createMissing pf subName s intf) := by
  unfold Process.createMissing OpsPmd.createMissing
  cases hf : s.ovsIntfs.find intf.name with
  | none =>
    rw [h.find_none hf]
    exact h.ovsdbIfIntfCreate pf hn subName (Shash.find_eq_none_iff.mp hf)
  | some port =>
    obtain ⟨a, ha, -⟩ := h.find_some hf
    rw [ha]
    exact .of_exists hn ⟨p, rfl, h⟩

/-- A subsystem that is not known yet gets a uuid of its own. -/
lemma loadSubsystem (reads : YamlReads) (h : p.Represents s) (sub : OvsrecSubsystem) :
    (Process.pmReadYamlFiles reads (({ p with
      uuids := p.uuids.alloc sub.uuid
      ovsSubs := p.ovsSubs.add sub.name p.uuids.next } : Process).log [.subsAdd sub.name])
      sub).2.Represents (OpsPmd.loadSubsystem reads s sub) := by
  have hblock : (p.uuids.alloc sub.uuid).block =
      Function.update p.uuids.block p.uuids.next (some sub.uuid) := rfl
  have hlt : ∀ a, (p.uuids.block a).isSome → a ≠ p.uuids.next := by
    rintro a ha rfl
    rw [p.uuids.block_next] at ha
    contradiction
  have hfresh : p.uuids.next ∉ p.ovsSubs.map Prod.snd := by
    intro hmem
    obtain ⟨n, hn, he⟩ := List.mem_map.mp hmem
    obtain ⟨i, hi, rfl⟩ := List.getElem_of_mem hn
    have hall := List.forall₂_iff_get.mp h.subs
    have hsome := (hall.2 i hi (by rw [← hall.1]; exact hi)).2
    exact hlt _ (by rw [show p.ovsSubs[i].2 = (p.ovsSubs.get ⟨i, hi⟩).2 from rfl, hsome]; rfl) he
  refine ⟨h.intfs, ?_, ?_, ?_, h.idlSeqno, h.curHwSet, ?_, ?_⟩
  · refine Shash.Related.add (h.subs.mono ?_) ?_
    · intro _ a uuid _ _ ha
      show (p.uuids.alloc sub.uuid).block a = some uuid
      rw [hblock, Function.update_of_ne (hlt a (by rw [ha]; rfl)), ha]
    · show (p.uuids.alloc sub.uuid).block p.uuids.next = some sub.uuid
      rw [hblock, Function.update_self]
  · show ((p.ovsSubs.add sub.name p.uuids.next).map Prod.snd).Nodup
    unfold Shash.add
    rw [List.map_append, List.nodup_append]
    refine ⟨h.subsDistinct, by simp, ?_⟩
    intro x hx y hy hxy
    have hnext : y = p.uuids.next := by simpa using hy
    exact hfresh (hxy.trans hnext ▸ hx)
  · intro a ha
    have ha' : (Function.update p.uuids.block p.uuids.next (some sub.uuid) a).isSome := ha
    show a ∈ (p.ovsSubs.add sub.name p.uuids.next).map Prod.snd
    unfold Shash.add
    rw [List.map_append, List.mem_append]
    by_cases hne : a = p.uuids.next
    · exact .inr (by simp [hne])
    · rw [Function.update_of_ne hne] at ha'
      exact .inl (h.subsAllocated a ha')
  · show Function.update p.yaml sub.name (reads sub).ports = _
    rw [h.yaml]
    rfl
  · show p.calls ++ _ ++ _ = _
    rw [h.calls]
    rfl

theorem ovsdbIfSubsysProcess (pf : Platform) (reads : YamlReads) (h : p.Represents s)
    (hn : NoNull s) (sub : OvsrecSubsystem) :
    Outcome (NoNull (OpsPmd.ovsdbIfSubsysProcess pf reads s sub))
      (Process.ovsdbIfSubsysProcess pf reads p sub) fun p' =>
        p'.Represents (OpsPmd.ovsdbIfSubsysProcess pf reads s sub) := by
  have hloop : ∀ p s, Process.Represents p s → NoNull s →
      Outcome (NoNull (sub.interfaces.foldl (OpsPmd.createMissing pf sub.name) s))
        (sub.interfaces.foldlM (Process.createMissing pf sub.name) p) fun p' =>
          p'.Represents (sub.interfaces.foldl (OpsPmd.createMissing pf sub.name) s) :=
    fun p s h hn => Outcome.foldlM (fun _ _ intf _ h hn => h.createMissing pf hn intf sub.name)
      (fun _ _ _ hn => hn.of_createMissing) h hn
  have hkeys : p.ovsSubs.keys = s.ovsSubs.keys := h.subs.keys_eq
  unfold Process.ovsdbIfSubsysProcess
  by_cases hmem : sub.name ∈ s.ovsSubs.keys
  · obtain ⟨a, ha⟩ := Shash.exists_find_of_mem_keys (hkeys ▸ hmem)
    rw [ovsdbIfSubsysProcess_of_mem hmem, ha]
    exact hloop p s h hn
  · have hnone : p.ovsSubs.find sub.name = none := Shash.find_eq_none_iff.mpr (hkeys ▸ hmem)
    have hload := h.loadSubsystem reads sub
    have hnload : NoNull (OpsPmd.loadSubsystem reads s sub) :=
      (noNull_loadSubsystem_iff reads sub).mpr hn
    rw [ovsdbIfSubsysProcess_of_not_mem hmem, hnone]
    show Outcome _ (if (reads sub).rc ≠ 0 then _ else _) _
    by_cases hrc : (reads sub).rc ≠ 0
    · rw [if_pos hrc, if_pos hrc]
      exact .of_exists hnload ⟨_, rfl, hload⟩
    · rw [if_neg hrc, if_neg hrc]
      exact hloop _ _ hload hnload

/-- A turn of the loop of deletions. The uuid lies where the table says. -/
lemma deleteSubsystem (h : p.Represents s) (replica : Replica) {uuid : Uuid}
    (ha : p.ovsSubs.find name = some a) (huuid : p.uuids.block a = some uuid) :
    ∃ p', Process.deleteSubsystem replica p (name, a) = some p' ∧
      p'.Represents { s with
        ovsSubs := if replica.subsystems.any (fun sub => sub.uuid = uuid) then s.ovsSubs
          else s.ovsSubs.delete name } ∧
      (∀ b, b ≠ a → p'.uuids.block b = p.uuids.block b) ∧
      (∀ n ∈ p.ovsSubs, n.2 ≠ a → n ∈ p'.ovsSubs) := by
  unfold Process.deleteSubsystem
  simp only [huuid, Option.bind_eq_bind, Option.bind_some]
  by_cases hrow : replica.subsystems.any (fun sub => sub.uuid = uuid) = true
  · simp only [hrow, if_true]
    exact ⟨p, rfl, h, fun _ _ => rfl, fun _ hn _ => hn⟩
  · obtain ⟨uuids, hfree, hblock, -⟩ := Heap.free_of_block huuid
    have hmem : ∀ {n}, n ∈ p.ovsSubs.delete name ↔ n ∈ p.ovsSubs ∧ n.2 ≠ a :=
      fun {n} => Shash.mem_delete_iff h.subsDistinct ha
    have hother : ∀ b, b ≠ a → uuids.block b = p.uuids.block b := by
      intro b hb
      rw [hblock, Function.update_of_ne hb]
    simp only [hrow, Bool.false_eq_true, if_false, ha, hfree, Option.bind_some]
    refine ⟨_, rfl, ⟨h.intfs, ?_, ?_, ?_, h.idlSeqno, h.curHwSet, h.yaml, h.calls⟩, hother,
      fun n hn hne => hmem.mpr ⟨hn, hne⟩⟩
    · refine (h.subs.delete name).mono ?_
      intro _ b u hb _ hu
      exact (hother b (hmem.mp hb).2).trans hu
    · exact (List.eraseP_sublist.map Prod.snd).nodup h.subsDistinct
    · intro b hb
      have hne : b ≠ a := by
        rintro rfl
        rw [hblock, Function.update_self] at hb
        contradiction
      rw [hother b hne] at hb
      obtain ⟨n, hn, rfl⟩ := List.mem_map.mp (h.subsAllocated b hb)
      exact List.mem_map.mpr ⟨n, hmem.mpr ⟨hn, hne⟩, rfl⟩

lemma deleteSubsystems (h : p.Represents s) (hnodup : s.ovsSubs.keys.Nodup) (replica : Replica) :
    ∃ p', p.ovsSubs.foldlM (Process.deleteSubsystem replica) p = some p' ∧
      p'.Represents (OpsPmd.deleteSubsystems replica s) := by
  -- the nodes still to be visited are in both tables
  let S : Process → String × ℕ → String × Uuid → Prop := fun p n n' =>
    (n.1 = n'.1 ∧ p.uuids.block n.2 = some n'.2) ∧ n ∈ p.ovsSubs
  have hS : List.Forall₂ (S p) p.ovsSubs s.ovsSubs :=
    ((List.forall₂_and_left (p := fun n => n ∈ p.ovsSubs) _ _).mpr ⟨fun _ hn => hn, h.subs⟩).imp
      fun _ _ hn => hn.symm
  suffices hloop : ∃ p', p.ovsSubs.foldlM (Process.deleteSubsystem replica) p = some p' ∧
      p'.Represents (OpsPmd.deleteSubsystems replica s) ∧
      (OpsPmd.deleteSubsystems replica s).ovsSubs.keys.Nodup by
    obtain ⟨p', hrun, hp', -⟩ := hloop
    exact ⟨p', hrun, hp'⟩
  refine exists_foldlM_apart (S := S)
    (I := fun p subs => p.Represents { s with ovsSubs := subs } ∧ subs.keys.Nodup) ?_ hS
    h.subsDistinct ⟨h, hnodup⟩
  rintro p subs n n' ⟨h, hnodup⟩ ⟨⟨hname, huuid⟩, hmem⟩
  have hkeys : p.ovsSubs.keys.Nodup := h.subs.keys_eq ▸ hnodup
  obtain ⟨p₁, hstep, h₁, hblock, hkeep⟩ :=
    h.deleteSubsystem replica ((Shash.mem_iff_find hkeys).mp hmem) huuid
  rw [hname] at h₁
  refine ⟨p₁, hstep, ⟨h₁, ?_⟩, ?_⟩
  · split
    · exact hnodup
    · exact (List.eraseP_sublist.map Prod.fst).nodup hnodup
  · rintro m m' hne ⟨⟨hm, hu⟩, hmem'⟩
    exact ⟨⟨hm, (hblock m.2 hne).trans hu⟩, hkeep m hmem' hne⟩

/-- A turn of the loop of deletions. The record has the name under which it is found. -/
lemma deleteInterface (pf : Platform) (h : p.Represents s) (replica : Replica)
    (ha : p.ovsIntfs.find name = some a) (hold : p.mem.Holds a port) (hinst : port.inst = name)
    (hdom : port.ovsModuleDomColumns = fun _ => none) :
    ∃ p', Process.deleteInterface pf replica p (name, a) = some p' ∧
      p'.Represents { s with
        ovsIntfs := if replica.interfaces.any (fun intf => intf.uuid = port.uuid) then s.ovsIntfs
          else s.ovsIntfs.delete name } ∧
      (∀ b q, b ≠ a → p.mem.Holds b q → p'.mem.Holds b q) ∧
      (∀ n ∈ p.ovsIntfs, n.2 ≠ a → n ∈ p'.ovsIntfs) := by
  have huuid : port.bare.uuid = port.uuid := rfl
  have hname : port.bare.inst = name := hinst
  unfold Process.deleteInterface
  simp only [Memory.record_of_holds hold, Option.bind_eq_bind, Option.bind_some, huuid, hname]
  by_cases hrow : replica.interfaces.any (fun intf => intf.uuid = port.uuid) = true
  · simp only [hrow, if_true]
    exact ⟨p, rfl, h, fun _ _ _ hq => hq, fun _ hn _ => hn⟩
  · obtain ⟨mem, hfree, hapart, hmem⟩ := h.intfs.delete pf.float ha hold hdom
    simp only [hrow, Bool.false_eq_true, if_false, ha, hfree, Option.bind_some]
    exact ⟨_, rfl, h.with_intfs hmem, fun b q hne hq => hq.of_apart hapart hne,
      fun n hn hne => (Shash.mem_delete_iff h.intfs.distinct ha).mpr ⟨hn, hne⟩⟩

lemma deleteInterfaces (pf : Platform) (h : p.Represents s) (hnodup : s.ovsIntfs.keys.Nodup)
    (hinst : ∀ name port, (name, port) ∈ s.ovsIntfs → port.inst = name) (replica : Replica) :
    ∃ p', p.ovsIntfs.foldlM (Process.deleteInterface pf replica) p = some p' ∧
      p'.Represents (OpsPmd.deleteInterfaces replica s) := by
  let S : Process → String × ℕ → String × PmPort → Prop := fun p n n' =>
    (n.1 = n'.1 ∧ p.mem.Holds n.2 n'.2) ∧ n ∈ p.ovsIntfs ∧ n'.2.inst = n.1 ∧
      n'.2.ovsModuleDomColumns = fun _ => none
  have hS : List.Forall₂ (S p) p.ovsIntfs s.ovsIntfs := by
    refine List.forall₂_iff_get.mpr ⟨h.intfs.related.length_eq, fun i hi hi' => ?_⟩
    have hn := h.intfs.related.get hi hi'
    have hmem' : s.ovsIntfs.get ⟨i, hi'⟩ ∈ s.ovsIntfs := List.get_mem _ _
    exact ⟨hn, List.get_mem _ _, (hinst _ _ hmem').trans hn.1.symm, h.intfs.dom _ _ hmem'⟩
  suffices hloop : ∃ p', p.ovsIntfs.foldlM (Process.deleteInterface pf replica) p = some p' ∧
      p'.Represents (OpsPmd.deleteInterfaces replica s) ∧
      (OpsPmd.deleteInterfaces replica s).ovsIntfs.keys.Nodup by
    obtain ⟨p', hrun, hp', -⟩ := hloop
    exact ⟨p', hrun, hp'⟩
  refine exists_foldlM_apart (S := S)
    (I := fun p intfs => p.Represents { s with ovsIntfs := intfs } ∧ intfs.keys.Nodup) ?_ hS
    h.intfs.distinct ⟨h, hnodup⟩
  rintro p intfs n n' ⟨h, hnodup⟩ ⟨⟨hname, hold⟩, hmem, hown, hdom⟩
  have hkeys : p.ovsIntfs.keys.Nodup := h.intfs.related.keys_eq ▸ hnodup
  obtain ⟨p₁, hstep, h₁, hholds, hkeep⟩ :=
    h.deleteInterface pf replica ((Shash.mem_iff_find hkeys).mp hmem) hold hown hdom
  rw [← hown] at h₁
  refine ⟨p₁, hstep, ⟨h₁, ?_⟩, ?_⟩
  · split
    · exact hnodup
    · exact (List.eraseP_sublist.map Prod.fst).nodup hnodup
  · rintro m m' hne ⟨⟨hm, hq⟩, hmem', hrest⟩
    exact ⟨⟨hm, hholds m.2 m'.2 hne hq⟩, hkeep m hmem' hne, hrest⟩

/-! ## Passes -/

/-- A record keeps its device when it is modified, and the connector has been looked at when the
record was created. -/
lemma modifyInterface (pf : Platform) (h : p.Represents s) (hn : NoNull s)
    (intf : OvsrecInterface) :
    Outcome (NoNull (OpsPmd.modifyInterface pf s intf)) (Process.modifyInterface pf p intf)
      fun p' => p'.Represents (OpsPmd.modifyInterface pf s intf) := by
  unfold Process.modifyInterface
  cases hf : s.ovsIntfs.find intf.name with
  | none =>
    have hself : OpsPmd.modifyInterface pf s intf = s := by
      unfold OpsPmd.modifyInterface
      rw [hf]
    rw [hself, h.find_none hf]
    exact .of_exists hn ⟨p, rfl, h⟩
  | some port =>
    have hmodify : OpsPmd.modifyInterface pf s intf = ({ s with
        ovsIntfs := s.ovsIntfs.set intf.name (OpsPmd.ovsdbIfIntfModify pf intf port).1 }).log
        (OpsPmd.ovsdbIfIntfModify pf intf port).2 := by
      unfold OpsPmd.modifyInterface
      rw [hf]
    obtain ⟨a, ha, hold⟩ := h.find_some hf
    have hmem := Shash.mem_of_find_eq_some hf
    rw [hmodify, ha]
    refine Outcome.congr ?_
      (noNull_set_iff hn hmem (moduleDevice_ovsdbIfIntfModify pf intf port)).symm
    refine (h.runOn (plain_ovsdbIfIntfModify pf intf) hf ha hold ?_).mono fun p' hp' => hp'.2.2
    exact Process.outcome_ovsdbIfIntfModify pf intf (hn.connector intf.name port hmem)

theorem pmdReconfigure (pf : Platform) (reads : YamlReads) (idl : Idl) (h : p.Represents s)
    (hn : NoNull s) (hnodup : s.ovsIntfs.keys.Nodup)
    (hinst : ∀ name port, (name, port) ∈ s.ovsIntfs → port.inst = name)
    (hsubs : s.ovsSubs.keys.Nodup) :
    Outcome (NoNull (OpsPmd.pmdReconfigure pf reads idl s)) (p.pmdReconfigure pf reads idl)
      fun p' => p'.Represents (OpsPmd.pmdReconfigure pf reads idl s) := by
  unfold Process.pmdReconfigure
  rw [h.idlSeqno]
  by_cases he : idl.seqno = s.idlSeqno
  · rw [if_pos he, pmdReconfigure_of_eq he]
    exact .of_exists hn ⟨p, rfl, h⟩
  rw [if_neg he, pmdReconfigure_of_ne he]
  have h₀ : ({ p with idlSeqno := idl.seqno } : Process).Represents
      { s with idlSeqno := idl.seqno } :=
    ⟨h.intfs, h.subs, h.subsDistinct, h.subsAllocated, rfl, h.curHwSet, h.yaml, h.calls⟩
  obtain ⟨p₁, hp₁, h₁⟩ := h₀.deleteInterfaces pf hnodup hinst idl.replica
  obtain ⟨p₂, hp₂, h₂⟩ : ∃ p₂ : Process, _ ∧ p₂.Represents (afterDeletes idl s) :=
    h₁.deleteSubsystems hsubs idl.replica
  simp only [hp₁, hp₂, Option.bind_eq_bind, Option.bind_some]
  have hcreate : Outcome (NoNull (idl.replica.subsystems.foldl
      (OpsPmd.ovsdbIfSubsysProcess pf reads) (afterDeletes idl s)))
      (idl.replica.subsystems.foldlM (Process.ovsdbIfSubsysProcess pf reads) p₂)
      fun p' => p'.Represents (idl.replica.subsystems.foldl
        (OpsPmd.ovsdbIfSubsysProcess pf reads) (afterDeletes idl s)) :=
    Outcome.foldlM (fun _ _ sub _ h hn => h.ovsdbIfSubsysProcess pf reads hn sub)
      (fun _ _ _ hn => hn.of_ovsdbIfSubsysProcess) h₂ (hn.afterDeletes idl)
  have hkeep : ∀ s, ∀ intf ∈ idl.replica.interfaces,
      NoNull (OpsPmd.modifyInterface pf s intf) → NoNull s := fun _ _ _ hn => hn.of_modifyInterface
  refine hcreate.bind (foldl_reflects hkeep) fun hn₃ p₃ h₃ => ?_
  exact Outcome.foldlM (fun _ _ intf _ h hn => h.modifyInterface pf hn intf) hkeep h₃ hn₃

theorem pmReadState (pf : Platform) (hw : String → ScanHw) (h : p.Represents s) (hn : NoNull s) :
    Outcome (NoNull (OpsPmd.pmReadState pf hw s)) (p.pmReadState pf hw) fun p' =>
      p'.Represents (OpsPmd.pmReadState pf hw s) := by
  let I : Process → Prop := fun p' => { p with mem := p'.mem, calls := p'.calls } = p'
  have hstep : ∀ st (n : String × ℕ) port, I st → st.mem.Sound → st.mem.Holds n.2 port →
      Outcome (Survives port (OpsPmd.pmReadModuleState pf (hw n.1) port).calls)
        (Process.pmReadModuleState pf hw st n) fun st' => I st' ∧ st'.mem.Sound ∧
          st'.mem.Holds n.2 (OpsPmd.pmReadModuleState pf (hw n.1) port).port ∧
          Memory.Frame n.2 st.mem st'.mem ∧
          st'.calls = st.calls ++ (OpsPmd.pmReadModuleState pf (hw n.1) port).calls := by
    intro st n port hI hs hold
    obtain ⟨mem, hexec, hs', hold', hframe⟩ := Memory.exists_foldlM_exec hs hold
      (disciplined_readModuleStateScript pf (hw n.1)
        (st.mem.strings.cell (n.2, .column .connector)) port)
    rw [readModuleStateScript_eq] at hold'
    unfold Process.pmReadModuleState
    simp only [Memory.record_of_holds hold, Option.bind_eq_bind, Option.bind_some]
    refine (Process.outcome_guarded (plain_pmReadModuleState pf (hw n.1)) port).bind id ?_
    rintro hsurvives out rfl
    simp only [readModuleStateScript_bare, calls_pmReadModuleState_bare, hexec, Option.bind_some]
    refine .of_exists hsurvives ⟨_, rfl, ?_, hs', hold', hframe, rfl⟩
    rw [← hI]
    rfl
  have hloop : Outcome
      (∀ n ∈ s.ovsIntfs, Survives n.2 (OpsPmd.pmReadModuleState pf (hw n.1) n.2).calls)
      (p.pmReadState pf hw) _ :=
    Memory.Represents.foldlM (I := I) Process.mem Process.calls
      (fun n => (OpsPmd.pmReadModuleState pf (hw n.1) n.2).port)
      (fun n => (OpsPmd.pmReadModuleState pf (hw n.1) n.2).calls) hstep
      (fun n => ovsModuleDomColumns_pmReadModuleState pf (hw n.1) n.2) rfl h.intfs
  refine (hloop.congr (noNull_pmReadState_iff hn hw).symm).mono ?_
  rintro p' ⟨hI, hcalls, hmem⟩
  rw [← hI]
  rw [h.calls] at hcalls
  exact ⟨hmem, h.subs, h.subsDistinct, h.subsAllocated, h.idlSeqno, h.curHwSet, h.yaml, hcalls⟩

lemma pmInfo_of_holds {m : Memory} (hold : m.Holds a port) :
    Process.pmInfo m a = some (pmInfoOf port.ovsModuleColumns) := by
  have hentries : ∀ keys : List (String × ModuleColumn),
      (keys.mapM fun entry => (m.strings.read (a, .column entry.2)).map fun value =>
        value.map fun text => (entry.1, text)) =
        some (keys.map fun entry => (port.ovsModuleColumns entry.2).map fun text =>
          (entry.1, text)) := by
    intro keys
    induction keys with
    | nil => rfl
    | cons entry keys ih =>
      rw [List.mapM_cons, ih, hold.column]
      rfl
  unfold Process.pmInfo
  rw [hentries]
  show some (List.filterMap id (List.map _ _)) = _
  rw [List.filterMap_map]
  rfl

/-- A publication follows no pointers but those to records and strings. -/
theorem pmOvsdbUpdate (replica : Replica) (committed : Bool) (h : p.Represents s) :
    ∃ p', p.pmOvsdbUpdate replica committed = some p' ∧
      p'.Represents (OpsPmd.pmOvsdbUpdate replica committed s) := by
  have hstep : ∀ (st : Memory × List (Uuid × PmInfo)) (n : String × ℕ) port, True →
      st.1.Sound → st.1.Holds n.2 port →
      Outcome True (Process.publishPort replica st n) fun st' => True ∧ st'.1.Sound ∧
        st'.1.Holds n.2 (OpsPmd.publishPort replica port).1 ∧ Memory.Frame n.2 st.1 st'.1 ∧
        st'.2 = st.2 ++ (OpsPmd.publishPort replica port).2.toList := by
    intro st n port _ hs hold
    refine .of_exists trivial ?_
    have huuid : port.bare.uuid = port.uuid := rfl
    have hchanged : port.bare.moduleInfoChanged = port.moduleInfoChanged := rfl
    unfold Process.publishPort OpsPmd.publishPort
    simp only [Memory.record_of_holds hold, pmInfo_of_holds hold, huuid, hchanged,
      Option.bind_eq_bind, Option.bind_some]
    split
    · exact ⟨st, rfl, trivial, hs, hold, Memory.Frame.refl n.2 st.1, (List.append_nil _).symm⟩
    split
    · exact ⟨st, rfl, trivial, hs, hold, Memory.Frame.refl n.2 st.1, (List.append_nil _).symm⟩
    · obtain ⟨mem, hupdate, hs', hold', hframe⟩ : ∃ mem, st.1.update n.2
          (fun fields => { fields with moduleInfoChanged := false }) = some mem ∧ mem.Sound ∧
          mem.Holds n.2 { port with moduleInfoChanged := false } ∧ Memory.Frame n.2 st.1 mem :=
        Memory.exists_update _ hs hold rfl rfl rfl rfl rfl
      rw [hupdate]
      exact ⟨_, rfl, trivial, hs', hold', hframe, rfl⟩
  obtain ⟨⟨mem, txn⟩, hloop, -, htxn, hmem⟩ := (Memory.Represents.foldlM
    (σ := Memory × List (Uuid × PmInfo)) Prod.fst Prod.snd
    (fun n => (OpsPmd.publishPort replica n.2).1)
    (fun n => (OpsPmd.publishPort replica n.2).2.toList) hstep
    (fun n => ovsModuleDomColumns_publishPort replica n.2) trivial
    (show Memory.Represents (p.mem, ([] : List (Uuid × PmInfo))).1 _ _ from h.intfs)).exists_result
    fun _ _ => trivial
  have htxn' : txn = s.ovsIntfs.filterMap fun n => (OpsPmd.publishPort replica n.2).2 := by
    rw [List.filterMap_eq_flatMap_toList]
    exact htxn
  let setCurHw := !p.curHwSet && replica.daemons.any (fun row => row.name = nameInDaemonTable)
  refine ⟨({ p with mem := mem, curHwSet := p.curHwSet || setCurHw } : Process).log
    [.commitBlock ⟨txn, setCurHw⟩ committed], ?_, ?_⟩
  · unfold Process.pmOvsdbUpdate
    simp only [hloop, Option.bind_eq_bind, Option.bind_some]
    rfl
  · subst htxn'
    refine ⟨hmem, h.subs, h.subsDistinct, h.subsAllocated, h.idlSeqno, ?_, h.yaml, ?_⟩
    · show (p.curHwSet || (!p.curHwSet && _)) = _
      rw [h.curHwSet]
      rfl
    · show p.calls ++ [.commitBlock ⟨_, !p.curHwSet && _⟩ committed] = _
      rw [h.curHwSet, h.calls]
      rfl

end Process.Represents

/-- The process stands for the daemon, which is in a state that it can get to. -/
structure Implements (pf : Platform) (w' : ProcessWorld) (w : World) : Prop where
  idl : w'.idl = w.idl
  process : w'.process.Represents w.pmd
  synced : Synced pf w
  subs : w.pmd.ovsSubs.keys.Nodup

lemma implements_start (pf : Platform) (reads : YamlReads) (seqno : UInt32) :
    Implements pf (ProcessWorld.start seqno) (World.start pf reads seqno) where
  idl := rfl
  process := by
    have hmem : Memory.empty.Represents [] [] := by
      refine ⟨⟨⟨?_, ?_, ?_, ?_, ?_⟩, fun _ _ _ => rfl⟩, List.Forall₂.nil, List.nodup_nil, ?_, ?_,
        ?_⟩
      all_goals simp [Memory.empty, Heap.empty]
    rw [pmd_start]
    exact ⟨hmem, List.Forall₂.nil, List.nodup_nil, by simp [ProcessWorld.start, Heap.empty], rfl,
      rfl, rfl, rfl⟩
  synced := synced_start pf reads seqno
  subs := List.nodup_nil

lemma implements_step {pf : Platform} {w' : ProcessWorld} {w : World} {event : Event}
    (h : Implements pf w' w) (hn : NoNull w.pmd) (hok : Admissible w event) :
    Outcome (NoNull (w.step pf event).pmd) (w'.step pf event) fun w'' =>
      Implements pf w'' (w.step pf event) := by
  have hsynced := synced_step h.synced hok
  have hsubs : (w.step pf event).pmd.ovsSubs.keys.Nodup := nodup_step h.subs
  cases event with
  | reconfigure reads idl =>
    exact (h.process.pmdReconfigure pf reads idl hn h.synced.table.nodup h.synced.table.inst
      h.subs).map fun p hrep => ⟨rfl, hrep, hsynced, hsubs⟩
  | readState hw =>
    exact (h.process.pmReadState pf hw hn).map fun p hrep => ⟨h.idl, hrep, hsynced, hsubs⟩
  | update committed =>
    obtain ⟨p, hp, hrep⟩ := h.process.pmOvsdbUpdate w.idl.replica committed
    refine .of_exists (hn.pmOvsdbUpdate w.idl.replica committed)
      ⟨{ w' with process := p }, ?_, h.idl, hrep, hsynced, hsubs⟩
    simp [ProcessWorld.step, h.idl, hp]

/-- In every state of the run the daemon has followed no null pointer. -/
def NeverNull (pf : Platform) (w : World) (events : List Event) : Prop :=
  Along (World.step pf) (fun w event => NoNull (w.step pf event).pmd) w events

lemma implements_run (pf : Platform) (reads : YamlReads) (seqno : UInt32) {events : List Event}
    (hok : Along (World.step pf) Admissible (World.start pf reads seqno) events) :
    Outcome (NeverNull pf (World.start pf reads seqno) events)
      (events.foldlM (ProcessWorld.step pf) (ProcessWorld.start seqno)) fun w' =>
        Implements pf w' (run (World.step pf) (World.start pf reads seqno) events) := by
  have hstep : ∀ (w' : ProcessWorld) (w : World) event, Implements pf w' w → NoNull w.pmd →
      Admissible w event → Outcome (NoNull (w.step pf event).pmd) (w'.step pf event) fun w'' =>
        Implements pf w'' (w.step pf event) := fun _ _ _ h hn hok => implements_step h hn hok
  exact Outcome.along (N := fun w : World => NoNull w.pmd) hstep
    (implements_start pf reads seqno) (noNull_start pf reads seqno) hok

/-- Whatever the order of reconfigurations, scans and publications, the process faults exactly
if it follows a null pointer: it never follows a pointer to memory that is not there, never
frees memory twice and never frees a text that was not allocated. As long as it lives, its
tables are those of the daemon without a memory. -/
theorem represents_of_run (pf : Platform) (reads : YamlReads) (seqno : UInt32)
    {events : List Event}
    (hok : Along (World.step pf) Admissible (World.start pf reads seqno) events) :
    ((∃ w', events.foldlM (ProcessWorld.step pf) (ProcessWorld.start seqno) = some w') ↔
      NeverNull pf (World.start pf reads seqno) events) ∧
    ∀ w', events.foldlM (ProcessWorld.step pf) (ProcessWorld.start seqno) = some w' →
      w'.idl = (run (World.step pf) (World.start pf reads seqno) events).idl ∧
      w'.process.Represents (run (World.step pf) (World.start pf reads seqno) events).pmd := by
  have h := implements_run pf reads seqno hok
  refine ⟨Option.isSome_iff_exists.symm.trans h.isSome_iff, fun w' hw' => ?_⟩
  exact ⟨(h.post w' hw').idl, (h.post w' hw').process⟩

namespace Switch

/-- A row is deleted and created again under its name, between scans and publications. -/
def recreated : List Event :=
  [.reconfigure reads (idlOf (intf "1" 1 "true") 1), .readState (fun _ => hwOf lr4Page),
    .update true, .reconfigure reads (idlOf (intf "1" 2 "false") 2),
    .readState (fun _ => hwOf lr4Page)]

lemma admissible_recreated :
    Along (World.step platform) Admissible (World.start platform reads 0) recreated :=
  ⟨⟨by decide, by decide, by decide, by decide⟩, trivial, trivial,
    ⟨by decide, by decide, by decide, by decide⟩, trivial, trivial⟩

lemma neverNull_recreated : NeverNull platform (World.start platform reads 0) recreated :=
  noNull_of_run platform rfl complete_ports reads 0
    ⟨fun _ _ _ hport => hport, trivial, trivial, fun _ _ _ hport => hport, trivial, trivial⟩

end Switch

/-- The daemon survives the second row, and has in memory what the first one and its module have
left. -/
theorem represents_of_run_recreated :
    ∃ w', Switch.recreated.foldlM (ProcessWorld.step Switch.platform) (ProcessWorld.start 0) =
        some w' ∧
      w'.idl = (run (World.step Switch.platform) (World.start Switch.platform Switch.reads 0)
        Switch.recreated).idl ∧
      w'.process.Represents (run (World.step Switch.platform)
        (World.start Switch.platform Switch.reads 0) Switch.recreated).pmd := by
  obtain ⟨hlives, hrep⟩ :=
    represents_of_run Switch.platform Switch.reads 0 Switch.admissible_recreated
  obtain ⟨w', hw'⟩ := hlives.mpr Switch.neverNull_recreated
  exact ⟨w', hw', hrep w' hw'⟩

end OpsPmd
