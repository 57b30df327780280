import OpsPmd.Origins

/-!
# Writes to the control byte of QSFP modules

Byte 86 of a QSFP module disables its lasers. It is written only to a port that a scan has
found present and optical, so a reconfiguration writes exactly to those such ports whose
setting it changes, and never to a port that it creates. Where a write goes to is the device
that the description of the port names, in the subsystem of the port.
-/

namespace OpsPmd

open Lib

/-- A device of a subsystem. -/
abbrev Eeprom := String × String

/-- The device that the module of the port answers as. -/
def PmPort.eeprom (port : PmPort) : Eeprom := (port.subsystem, port.moduleDevice.moduleEeprom)

/-- The device whose byte 86 a call writes, and the value. -/
def controlWrite : Call → Option (Eeprom × UInt8)
  | .i2cDataWrite _ subsystem device offset data =>
    if offset = qsfpDisableOffset then some ((subsystem, device), data) else none
  | _ => none

lemma controlWrite_of_not_isWrite {call : Call} (h : call.isWrite = false) :
    controlWrite call = none := by
  cases call with
  | i2cDataWrite inst subsystem device offset data => exact absurd h (by simp [Call.isWrite])
  | _ => rfl

def controlByte (hwEnable : Bool) : UInt8 := if hwEnable then 0x00 else 0x0f

/-- `pm_configure_qsfp` would write. -/
def PmPort.writable (port : PmPort) : Bool :=
  port.moduleDevice.isQsfp && port.present && port.optical

lemma qsfpDisableData_of_not_split {port : PmPort} (h : port.split = false) :
    qsfpDisableData port = controlByte port.hwEnable := by
  unfold qsfpDisableData controlByte
  rw [h]
  cases port.hwEnable
  · rfl
  · rfl

section Writes

variable {pf : Platform} (hhw : pf.simulation = false)
include hhw

lemma pmConfigurePort_port_eq (port : PmPort) : (pmConfigurePort pf port).1 = port := by
  unfold pmConfigurePort pmConfigureQsfp
  simp only [hhw, Bool.false_eq_true, if_false]
  split
  · split
    · rfl
    split
    · rfl
    · rfl
  · split
    · rfl
    · rfl
    · rfl

lemma lastControl_pmConfigurePort (port : PmPort) (eeprom : Eeprom) (calls : List Call) :
    lastWrite controlWrite eeprom (calls ++ (pmConfigurePort pf port).2) =
      if port.writable = true ∧ port.eeprom = eeprom then some (qsfpDisableData port)
      else lastWrite controlWrite eeprom calls := by
  have hquiet : ∀ new : List Call, (∀ call ∈ new, controlWrite call = none) →
      lastWrite controlWrite eeprom (calls ++ new) = lastWrite controlWrite eeprom calls := by
    intro new hnew
    refine lastWrite_append_of_forall fun call hcall data hwrite => ?_
    rw [hnew call hcall] at hwrite
    exact absurd hwrite (by simp)
  unfold pmConfigurePort PmPort.writable
  cases hq : port.moduleDevice.isQsfp with
  | false =>
    simp only [hhw, Bool.false_eq_true, if_false, Bool.false_and, false_and]
    apply hquiet
    intro call hcall
    split at hcall
    all_goals
      rw [List.mem_singleton.mp hcall]
      rfl
  | true =>
    unfold pmConfigureQsfp
    simp only [hhw, if_true, Bool.false_eq_true, if_false, Bool.true_and]
    cases hp : port.present with
    | false => simp
    | true =>
      cases ho : port.optical with
      | false => simp
      | true =>
        simp only [Bool.not_true, Bool.false_eq_true, if_false, Bool.and_self, true_and]
        by_cases heeprom : port.eeprom = eeprom
        · rw [if_pos heeprom]
          subst heeprom
          exact lastWrite_append_cons rfl (by simp)
        · rw [if_neg heeprom]
          refine lastWrite_append_of_forall fun call hcall data hwrite => ?_
          rw [List.mem_singleton.mp hcall] at hwrite
          exact heeprom (Prod.mk.inj (Option.some.inj hwrite)).1

lemma ovsdbIfIntfModify_port_eq (intf : OvsrecInterface) (port : PmPort) :
    (ovsdbIfIntfModify pf intf port).1 =
      { port with hwEnable := ovsdbIfIntfGetHwEnable pf intf } := by
  unfold ovsdbIfIntfModify
  dsimp only
  split
  · exact pmConfigurePort_port_eq hhw _
  · rename_i h
    rw [← not_not.mp h]

lemma lastControl_ovsdbIfIntfModify (intf : OvsrecInterface) (port : PmPort) (eeprom : Eeprom)
    (calls : List Call) :
    lastWrite controlWrite eeprom (calls ++ (ovsdbIfIntfModify pf intf port).2) =
      if port.writable = true ∧ port.hwEnable ≠ ovsdbIfIntfGetHwEnable pf intf ∧
        port.eeprom = eeprom
      then some (qsfpDisableData { port with hwEnable := ovsdbIfIntfGetHwEnable pf intf })
      else lastWrite controlWrite eeprom calls := by
  unfold ovsdbIfIntfModify
  dsimp only
  split
  · rename_i hne
    rw [lastControl_pmConfigurePort hhw]
    have hw : ({ port with hwEnable := ovsdbIfIntfGetHwEnable pf intf } : PmPort).writable =
        port.writable := rfl
    have heeprom : ({ port with hwEnable := ovsdbIfIntfGetHwEnable pf intf } : PmPort).eeprom =
        port.eeprom := rfl
    simp only [hw, heeprom, hne, ne_eq, not_false_eq_true, true_and]
  · rename_i hsame
    simp [hsame]

end Writes

/-! ## What a reconfiguration writes -/

/-- A record that no scan has touched. -/
structure Fresh (port : PmPort) : Prop where
  present : port.present = false
  retry : port.retry = false
  split : port.split = false

lemma controlWrite_pmClearReset {port : PmPort} {call : Call} (h : call ∈ pmClearReset port) :
    controlWrite call = none := by
  obtain ⟨signal, regOp, data, rfl, -⟩ := mem_pmClearReset h
  rfl

/-- No two QSFP ports of a subsystem name one device. -/
def Caged (describes : String → YamlPort → Prop) : Prop :=
  ∀ subName port port', describes subName port → describes subName port' →
    port.isQsfp = true → port'.isQsfp = true → port.moduleEeprom = port'.moduleEeprom →
    port.name = port'.name

lemma Origins.name_eq {describes : String → YamlPort → Prop} (hcaged : Caged describes) {s : Pmd}
    (h : Origins describes s) {name name' : String} {port port' : PmPort}
    (hmem : (name, port) ∈ s.ovsIntfs) (hmem' : (name', port') ∈ s.ovsIntfs)
    (hq : port.moduleDevice.isQsfp = true) (hq' : port'.moduleDevice.isQsfp = true)
    (heeprom : port.eeprom = port'.eeprom) : name = name' := by
  obtain ⟨hdesc, hname, -⟩ := h.device name port hmem
  obtain ⟨hdesc', hname', -⟩ := h.device name' port' hmem'
  obtain ⟨hsub, hdevice⟩ := Prod.mk.inj heeprom
  rw [hsub] at hdesc
  rw [← hname, ← hname']
  exact hcaged _ _ _ hdesc hdesc' hq hq' hdevice

/-- Every interface of the old snapshot is still there. -/
def RowsStay (last next : Replica) : Prop :=
  ∀ intf ∈ last.interfaces, ∃ intf' ∈ next.interfaces, intf'.uuid = intf.uuid

/-- The state before the interfaces are modified: no module has been written to, the old
nodes are all there, and the others are fresh. -/
structure Loaded (s s' : Pmd) : Prop where
  calls : ∃ new, s'.calls = s.calls ++ new ∧ ∀ eeprom, lastWrite controlWrite eeprom new = none
  node : ∀ name port, (name, port) ∈ s'.ovsIntfs →
    (name, port) ∈ s.ovsIntfs ∨ (name ∉ s.ovsIntfs.keys ∧ Fresh port)
  old : ∀ name port, (name, port) ∈ s.ovsIntfs → (name, port) ∈ s'.ovsIntfs

section Reconfigure

variable {pf : Platform} {reads : YamlReads} {w : World} {idl : Idl}

lemma loaded_create (hhw : pf.simulation = false) {s s' : Pmd} (h : Loaded s s')
    {intf : OvsrecInterface} {subName : String} (hnew : intf.name ∉ s'.ovsIntfs.keys) :
    Loaded s (ovsdbIfIntfCreate pf s' intf subName) := by
  obtain ⟨new, hcalls, hquiet⟩ := h.calls
  rcases ovsdbIfIntfCreate_cases pf s' intf subName with ⟨yamlPort, -, -, he⟩ | ⟨-, he⟩
  · have hcreated : createdPort pf intf subName yamlPort = newPort pf intf subName yamlPort :=
      pmConfigurePort_port_eq hhw _
    have hwritable : (newPort pf intf subName yamlPort).writable = false := by
      simp [PmPort.writable, newPort]
    rw [he]
    refine ⟨⟨new ++ createCalls pf intf subName yamlPort, by simp [Pmd.log, hcalls], ?_⟩, ?_, ?_⟩
    · intro eeprom
      have hsplit : new ++ createCalls pf intf subName yamlPort =
          ((new ++ [.intfCreate subName intf.name]) ++
            (pmConfigurePort pf (newPort pf intf subName yamlPort)).2) ++
            pmClearReset (createdPort pf intf subName yamlPort) := by
        simp [createCalls]
      rw [hsplit, lastWrite_append_of_forall, lastControl_pmConfigurePort hhw,
        if_neg (by simp [hwritable]), lastWrite_append_of_forall]
      · exact hquiet eeprom
      · intro call hcall data
        rw [List.mem_singleton.mp hcall]
        simp [controlWrite]
      · intro call hcall data
        rw [controlWrite_pmClearReset hcall]
        simp
    · intro name port hmem
      rcases Shash.mem_add.mp hmem with hold | ⟨rfl, rfl⟩
      · exact h.node name port hold
      · refine .inr ⟨fun hkeys => ?_, ?_⟩
        · obtain ⟨old, hold⟩ := Shash.mem_keys.mp hkeys
          exact hnew (Shash.mem_keys_of_mem (h.old intf.name old hold))
        · rw [hcreated]
          exact ⟨rfl, rfl, rfl⟩
    · intro name port hmem
      exact Shash.mem_add.mpr (.inl (h.old name port hmem))
  · rw [he]
    refine ⟨⟨new ++ [.intfCreate subName intf.name], by simp [Pmd.log, hcalls], ?_⟩, h.node, h.old⟩
    intro eeprom
    rw [lastWrite_append_of_forall]
    · exact hquiet eeprom
    · intro call hcall data
      rw [List.mem_singleton.mp hcall]
      simp [controlWrite]

variable {describes : String → YamlPort → Prop}

variable (reads) in
lemma loaded_process (hhw : pf.simulation = false) (hsync : Synced pf w)
    (hf : Follows w.idl idl) (hstay : RowsStay w.idl.replica idl.replica) :
    TableInv idl.replica (idl.replica.subsystems.foldl (ovsdbIfSubsysProcess pf reads)
      (afterDeletes idl w.pmd)).ovsIntfs ∧
    Loaded w.pmd (idl.replica.subsystems.foldl (ovsdbIfSubsysProcess pf reads)
      (afterDeletes idl w.pmd)) := by
  have hstart : Loaded w.pmd (afterDeletes idl w.pmd) := by
    refine ⟨⟨[], (List.append_nil _).symm, fun _ => rfl⟩, ?_, ?_⟩
    · intro name port hmem
      exact .inl ((mem_afterDeletes hsync.table).mp hmem).1
    · intro name port hmem
      obtain ⟨row, hrow, -, huuid⟩ := hsync.table.row name port hmem
      obtain ⟨row', hrow', huuid'⟩ := hstay row hrow
      exact (mem_afterDeletes hsync.table).mpr ⟨hmem, row', hrow', huuid'.trans huuid⟩
  refine foldl_invariant
    (I := fun s : Pmd => TableInv idl.replica s.ovsIntfs ∧ Loaded w.pmd s) ?_
    ⟨tableInv_afterDeletes hsync.table hf.intfs, hstart⟩
  intro s sub hsub hs
  refine ovsdbIfSubsysProcess_rule
    (J := fun s => TableInv idl.replica s.ovsIntfs ∧ Loaded w.pmd s) ?_ ?_ hs
  · rintro s - ⟨htable, hl⟩
    obtain ⟨new, hcalls, hquiet⟩ := hl.calls
    refine ⟨htable, ⟨new ++ loadCalls reads sub, by simp [hcalls], ?_⟩, hl.node, hl.old⟩
    intro eeprom
    rw [lastWrite_append_of_forall]
    · exact hquiet eeprom
    · intro call hcall data
      obtain rfl | rfl | rfl := mem_loadCalls hcall
      · simp [controlWrite]
      · simp [controlWrite]
      · simp [controlWrite]
  · rintro s intf hintf hnew - ⟨htable, hl⟩
    exact ⟨tableInv_ovsdbIfIntfCreate htable
      (idl.replica.mem_interfaces sub hsub intf hintf) hnew, loaded_create hhw hl hnew⟩

/-- What the loop over the modified interfaces does to one node, and to its module. -/
structure Modified (pf : Platform) (s s' : Pmd) (intf : OvsrecInterface) : Prop where
  node : ∀ port', (intf.name, port') ∈ s'.ovsIntfs → ∃ port, (intf.name, port) ∈ s.ovsIntfs ∧
    port' = { port with hwEnable := ovsdbIfIntfGetHwEnable pf intf } ∧
    (port.moduleDevice.isQsfp = true → lastWrite controlWrite port.eeprom (newCalls s s') =
      if port.writable = true ∧ port.hwEnable ≠ ovsdbIfIntfGetHwEnable pf intf
      then some (qsfpDisableData port') else none)

/-- The device is that of a QSFP port in the table. -/
def HasCage (s : Pmd) (eeprom : Eeprom) : Prop :=
  ∃ name port, (name, port) ∈ s.ovsIntfs ∧ port.moduleDevice.isQsfp = true ∧ port.eeprom = eeprom

lemma isQsfp_of_writable {port : PmPort} (h : port.writable = true) :
    port.moduleDevice.isQsfp = true := by
  unfold PmPort.writable at h
  rw [Bool.and_assoc, Bool.and_eq_true] at h
  exact h.1

/-- What the loop leaves alone: the table stays one, with the same names and devices, and
devices outside of it are not written to. -/
structure Looping (describes : String → YamlPort → Prop) (replica : Replica) (s s' : Pmd) :
    Prop where
  table : TableInv replica s'.ovsIntfs
  origins : Origins describes s'
  keys : s'.ovsIntfs.keys = s.ovsIntfs.keys
  cages : ∀ eeprom, HasCage s' eeprom → HasCage s eeprom
  calls : s'.calls = s.calls ++ newCalls s s'
  other : ∀ eeprom, ¬HasCage s eeprom → lastWrite controlWrite eeprom (newCalls s s') = none

lemma newCalls_modifyInterface {replica : Replica} {s s' : Pmd}
    (h : Looping describes replica s s') (intf : OvsrecInterface) {old : PmPort}
    (he : modifyInterface pf s' intf =
      ({ s' with
        ovsIntfs := s'.ovsIntfs.set intf.name (ovsdbIfIntfModify pf intf old).1 }).log
        (ovsdbIfIntfModify pf intf old).2) :
    newCalls s (modifyInterface pf s' intf) =
      newCalls s s' ++ (ovsdbIfIntfModify pf intf old).2 := by
  apply newCalls_eq
  rw [he, ← List.append_assoc, ← h.calls]
  rfl

lemma looping_modifyInterface (hhw : pf.simulation = false) {replica : Replica} {s s' : Pmd}
    (h : Looping describes replica s s') (intf : OvsrecInterface) :
    Looping describes replica s (modifyInterface pf s' intf) := by
  rcases modifyInterface_cases pf s' intf with ⟨-, he⟩ | ⟨old, hold, he⟩
  · rw [he]
    exact h
  · have hnew := newCalls_modifyInterface h intf he
    refine ⟨tableInv_modifyInterface h.table pf intf, origins_modifyInterface h.origins pf intf,
      ?_, ?_, ?_, ?_⟩
    · rw [he]
      exact (Shash.keys_set _ _ _).trans h.keys
    · rintro eeprom ⟨name, port, hmem, hq, heeprom⟩
      rw [he, ovsdbIfIntfModify_port_eq hhw] at hmem
      apply h.cages
      rcases Shash.mem_of_mem_set hmem with hmem' | ⟨rfl, rfl⟩
      · exact ⟨name, port, hmem', hq, heeprom⟩
      · exact ⟨intf.name, old, hold, hq, heeprom⟩
    · rw [hnew, he, ← List.append_assoc, ← h.calls]
      rfl
    · intro eeprom hno
      rw [hnew, lastControl_ovsdbIfIntfModify hhw, if_neg]
      · exact h.other eeprom hno
      · rintro ⟨hwritable, -, heeprom⟩
        exact hno (h.cages eeprom
          ⟨intf.name, old, hold, isQsfp_of_writable hwritable, heeprom⟩)

/-- A turn for one name leaves the node of another name and its module alone. -/
lemma modifyInterface_other (hhw : pf.simulation = false) (hcaged : Caged describes)
    {replica : Replica} {s s' : Pmd} (h : Looping describes replica s s')
    {intf intf' : OvsrecInterface} (hne : intf.name ≠ intf'.name) :
    (∀ port, (intf'.name, port) ∈ (modifyInterface pf s' intf).ovsIntfs →
      (intf'.name, port) ∈ s'.ovsIntfs) ∧
    ∀ port, (intf'.name, port) ∈ s'.ovsIntfs → port.moduleDevice.isQsfp = true →
      lastWrite controlWrite port.eeprom (newCalls s (modifyInterface pf s' intf)) =
        lastWrite controlWrite port.eeprom (newCalls s s') := by
  rcases modifyInterface_cases pf s' intf with ⟨-, he⟩ | ⟨old, hold, he⟩
  · rw [he]
    exact ⟨fun _ hmem => hmem, fun _ _ _ => rfl⟩
  constructor
  · rw [he]
    intro port hmem
    rcases Shash.mem_of_mem_set hmem with hmem' | ⟨heq, -⟩
    · exact hmem'
    · exact absurd heq.symm hne
  · intro port hmem hq
    rw [newCalls_modifyInterface h intf he, lastControl_ovsdbIfIntfModify hhw, if_neg]
    rintro ⟨hwritable, -, heeprom⟩
    exact hne (h.origins.name_eq hcaged hold hmem (isQsfp_of_writable hwritable) hq heeprom)

/-- The last loop modifies each node once, by the row of its name. -/
lemma modified_loop (hhw : pf.simulation = false) (hcaged : Caged describes) {replica : Replica}
    (hnames : (replica.interfaces.map OvsrecInterface.name).Nodup) {s : Pmd}
    (htable : TableInv replica s.ovsIntfs) (horigins : Origins describes s) :
    Looping describes replica s (replica.interfaces.foldl (modifyInterface pf) s) ∧
    ∀ intf ∈ replica.interfaces,
      Modified pf s (replica.interfaces.foldl (modifyInterface pf) s) intf := by
  have hpair : replica.interfaces.Pairwise (fun a b => a.name ≠ b.name) :=
    List.pairwise_map.mp hnames
  have hself : newCalls s s = [] := newCalls_eq (List.append_nil _).symm
  have hstart : Looping describes replica s s :=
    ⟨htable, horigins, rfl, fun _ h => h, by rw [hself, List.append_nil],
      fun eeprom _ => by rw [hself]; rfl⟩
  refine ⟨foldl_invariant (I := Looping describes replica s)
    (fun s' intf _ hs' => looping_modifyInterface hhw hs' intf) hstart, ?_⟩
  refine foldl_transforms (I := Looping describes replica s)
    (P := fun intf s' => Modified pf s s' intf)
    (Q := fun (intf : OvsrecInterface) (s' : Pmd) =>
      (∀ port, (intf.name, port) ∈ s'.ovsIntfs → (intf.name, port) ∈ s.ovsIntfs) ∧
      ∀ port, (intf.name, port) ∈ s'.ovsIntfs → port.moduleDevice.isQsfp = true →
        lastWrite controlWrite port.eeprom (newCalls s s') = none)
    hpair ?_ ?_ ?_ ?_ hstart ?_
  · intro s' intf _ hs'
    exact looping_modifyInterface hhw hs' intf
  · rintro s' intf - hs' ⟨hnode, hquiet⟩
    refine ⟨fun port' hmem => ?_⟩
    rcases modifyInterface_cases pf s' intf with ⟨hno, he⟩ | ⟨old, hold, he⟩
    · rw [he] at hmem
      exact absurd (Shash.mem_keys_of_mem hmem) hno
    · rw [newCalls_modifyInterface hs' intf he]
      rw [he, ovsdbIfIntfModify_port_eq hhw] at hmem
      rcases (Shash.mem_set hs'.table.nodup).mp hmem with ⟨hne, -⟩ | ⟨-, rfl, -⟩
      · exact absurd rfl hne
      · refine ⟨old, hnode old hold, rfl, fun hq => ?_⟩
        rw [lastControl_ovsdbIfIntfModify hhw, hquiet old hold hq]
        simp
  · rintro s' intf - intf' - hne hs' ⟨hnode, hquiet⟩
    obtain ⟨hmem, hwrite⟩ := modifyInterface_other hhw hcaged hs' hne
    refine ⟨fun port hp => hnode port (hmem port hp), fun port hp hq => ?_⟩
    exact (hwrite port (hmem port hp) hq).trans (hquiet port (hmem port hp) hq)
  · intro s' intf _ intf' _ hne hs' hmod
    obtain ⟨hmem, hwrite⟩ := modifyInterface_other hhw hcaged hs' hne.symm
    refine ⟨fun port' hp => ?_⟩
    obtain ⟨port, hport, hset, hlast⟩ := hmod.node port' (hmem port' hp)
    have hdevice : port'.moduleDevice = port.moduleDevice := by rw [hset]
    have heeprom : port'.eeprom = port.eeprom := by rw [hset]; rfl
    refine ⟨port, hport, hset, fun hq => ?_⟩
    rw [← hlast hq, ← heeprom]
    exact hwrite port' (hmem port' hp) (hdevice ▸ hq)
  · intro intf _
    exact ⟨fun _ hmem => hmem, fun _ _ _ => by rw [hself]; rfl⟩

/-- What a reconfiguration does to a node and its module: the node is an old one or fresh,
only its setting changes, and the module is written to if a writable port changed its
setting. -/
structure Reconfigured (describes : String → YamlPort → Prop) (s s' : Pmd) : Prop where
  calls : s'.calls = s.calls ++ newCalls s s'
  origins : Origins describes s'
  node : ∀ name port', (name, port') ∈ s'.ovsIntfs → ∃ port,
    ((name, port) ∈ s.ovsIntfs ∨ (name ∉ s.ovsIntfs.keys ∧ Fresh port)) ∧
    port' = { port with hwEnable := port'.hwEnable } ∧
    (port.moduleDevice.isQsfp = true → lastWrite controlWrite port.eeprom (newCalls s s') =
      if port.writable = true ∧ port.hwEnable ≠ port'.hwEnable
      then some (qsfpDisableData port') else none)
  old : ∀ name ∈ s.ovsIntfs.keys, name ∈ s'.ovsIntfs.keys
  other : ∀ eeprom, ¬HasCage s' eeprom → lastWrite controlWrite eeprom (newCalls s s') = none

lemma reconfigured (hhw : pf.simulation = false) (hcaged : Caged describes)
    (hsync : Synced pf w) (horigins : Origins describes w.pmd) (hf : Follows w.idl idl)
    (hdesc : DescribedBy describes reads idl) (hstay : RowsStay w.idl.replica idl.replica) :
    Reconfigured describes w.pmd (pmdReconfigure pf reads idl w.pmd) := by
  have horigins' := origins_pmdReconfigure horigins pf hdesc
  by_cases he : idl.seqno = w.pmd.idlSeqno
  · rw [pmdReconfigure_of_eq he]
    have hself : newCalls w.pmd w.pmd = [] := newCalls_eq (List.append_nil _).symm
    refine ⟨by rw [hself, List.append_nil], horigins, ?_, fun _ h => h,
      fun eeprom _ => by rw [hself]; rfl⟩
    intro name port hmem
    refine ⟨port, .inl hmem, rfl, fun _ => ?_⟩
    rw [hself, if_neg fun h => h.2 rfl]
    rfl
  obtain ⟨htable, hl⟩ := loaded_process reads hhw hsync hf hstay
  obtain ⟨new, hcalls, hquiet⟩ := hl.calls
  have hbefore := origins_process horigins pf hdesc
  rw [pmdReconfigure_of_ne he] at horigins' ⊢
  obtain ⟨hloop, hmod⟩ := modified_loop hhw hcaged hf.names htable hbefore
  generalize hs : idl.replica.subsystems.foldl (ovsdbIfSubsysProcess pf reads)
    (afterDeletes idl w.pmd) = s at *
  generalize hs' : idl.replica.interfaces.foldl (modifyInterface pf) s = s' at *
  have hnew : newCalls w.pmd s' = new ++ newCalls s s' := by
    apply newCalls_eq
    rw [← List.append_assoc, ← hcalls]
    exact hloop.calls
  have hwrite : ∀ eeprom, lastWrite controlWrite eeprom (newCalls w.pmd s') =
      lastWrite controlWrite eeprom (newCalls s s') := by
    intro eeprom
    rw [hnew]
    exact lastWrite_append_of_eq_none (hquiet eeprom)
  refine ⟨?_, horigins', ?_, ?_, ?_⟩
  · rw [hnew, ← List.append_assoc, ← hcalls]
    exact hloop.calls
  · intro name port' hmem
    obtain ⟨row, hrow, rfl, -⟩ := hloop.table.row name port' hmem
    obtain ⟨port, hport, hport', hlast⟩ := (hmod row hrow).node port' hmem
    have hen : port'.hwEnable = ovsdbIfIntfGetHwEnable pf row := by rw [hport']
    refine ⟨port, hl.node row.name port hport, by rw [hen]; exact hport', fun hq => ?_⟩
    rw [hwrite, hlast hq, hen]
  · intro name hname
    obtain ⟨port, hport⟩ := Shash.mem_keys.mp hname
    rw [hloop.keys]
    exact Shash.mem_keys_of_mem (hl.old name port hport)
  · intro eeprom hno
    rw [hwrite]
    apply hloop.other
    rintro ⟨name, port, hmem, hq, heeprom⟩
    apply hno
    -- the port of the cage is still there after the loop, with another setting at most
    obtain ⟨port', hport'⟩ := Shash.mem_keys.mp (hloop.keys ▸ Shash.mem_keys_of_mem hmem)
    obtain ⟨row, hrow, rfl, -⟩ := hloop.table.row name port' hport'
    obtain ⟨old, hold, rfl, -⟩ := (hmod row hrow).node port' hport'
    obtain rfl := Shash.eq_of_mem_of_nodup htable.nodup hold hmem
    exact ⟨row.name, _, hport', hq, heeprom⟩

end Reconfigure

end OpsPmd
