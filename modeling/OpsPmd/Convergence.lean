import OpsPmd.ControlWrites
import OpsPmd.CurHw
import OpsPmd.Subsystems
import OpsPmd.Takeover

/-!
# What the daemon is for

Whatever the daemon has been through, its table is what the snapshot that it processed last and
the modules make of it, and so are the rows of the database: a daemon that is started now
would come to the same.
-/

namespace OpsPmd

open Lib

/-- The record of an interface whose module has been read and reported. -/
def Site.record (site : Site) (pf : Platform) (intf : OvsrecInterface) (device : YamlPort) :
    PmPort :=
  let port := newPort pf intf (site.subOf intf.uuid) device
  if device.isKnown then
    { identified (site.page intf.name device) port with moduleInfoChanged := false }
  else port

/-- The table has a record for each interface of the snapshot with a pluggable port, and no others,
and the database has the status of the modules of known kinds. -/
structure Site.Describes (site : Site) (pf : Platform) (s : Server) : Prop where
  nodup : s.world.pmd.ovsIntfs.keys.Nodup
  port : ∀ name port, (name, port) ∈ s.world.pmd.ovsIntfs ↔
    ∃ intf ∈ s.world.idl.replica.interfaces, ∃ device, site.device intf.uuid = some device ∧
      device.pluggable = true ∧ name = intf.name ∧ port = site.record pf intf device
  pmInfo : ∀ intf ∈ s.world.idl.replica.interfaces, ∀ device,
    site.device intf.uuid = some device → device.pluggable = true → device.isKnown = true →
      s.db.pmInfo intf.uuid = moduleStatus device (site.page intf.name device)

/-- The reads of the pass succeed and give all ports of the site. -/
structure Site.Complete (site : Site) (pass : Pass) : Prop where
  fits : site.Fits pass
  rc : ∀ sub ∈ pass.idl.replica.subsystems, (pass.reads sub).rc = 0
  ports : ∀ sub ∈ pass.idl.replica.subsystems, ∀ name,
    (pass.reads sub).ports.find? (fun port => port.name = name) = site.port sub.name name

/-- The fields that only the simulation build and nobody writes to. -/
structure PmPort.Plain (port : PmPort) : Prop where
  subports : port.hwEnableSubport = Vector.replicate 4 false
  split : port.split = false
  moduleData : port.moduleData = none
  portEnable : port.portEnable = 0

section Plain

variable {pf : Platform}

lemma PmPort.Plain.of_blank {port port' : PmPort} (h : port.Plain)
    (hblank : port'.blank = port.blank) : port'.Plain where
  subports := (congrArg PmPort.hwEnableSubport hblank).trans h.subports
  split := (congrArg PmPort.split hblank).trans h.split
  moduleData := (congrArg PmPort.moduleData hblank).trans h.moduleData
  portEnable := (congrArg PmPort.portEnable hblank).trans h.portEnable

lemma blank_pmReadModuleState (hw : ScanHw) (port : PmPort) :
    (pmReadModuleState pf hw port).port.blank = port.blank := by
  cases hk : port.moduleDevice.isKnown with
  | false => rw [pmReadModuleState_of_not_isKnown pf hw hk]
  | true =>
    rw [pmReadModuleState_eq pf hw hk]
    split
    · exact blank_identified _ port
    · rfl

lemma blank_publishPort (replica : Replica) (port : PmPort) :
    (publishPort replica port).1.blank = port.blank := by
  unfold publishPort
  repeat' split
  all_goals rfl

lemma kept_plain (hhw : pf.simulation = false) :
    Kept pf (fun _ _ => True) (fun port _ => port.Plain) where
  create := by
    intro intf subName yamlPort
    unfold createdPort
    rw [pmConfigurePort_port_eq hhw]
    exact ⟨rfl, rfl, rfl, rfl⟩
  modify := by
    intro intf port h hplain
    unfold ovsdbIfIntfModify
    dsimp only
    split
    · rw [pmConfigurePort_port_eq hhw]
      exact ⟨hplain.subports, hplain.split, hplain.moduleData, hplain.portEnable⟩
    · exact hplain
  scan := fun hw port h _ hplain => hplain.of_blank (blank_pmReadModuleState hw port)

end Plain

/-- The description of every known subsystem has been read completely. -/
def Site.Loaded (site : Site) (s : Pmd) : Prop :=
  ∀ sub ∈ s.ovsSubs.keys, ∀ name, pmGetYamlPort s.yaml sub name = site.port sub name

lemma failedRead_of_kind {call : Call} (h : call.kind ≠ .subsystem) : call.failedRead = false := by
  cases call with
  | readYamlFiles subsystem rc => exact absurd rfl h
  | _ => rfl

section Descriptions

variable {pf : Platform} {site : Site} {pass : Pass} {s : Pmd}

lemma Site.Loaded.loadSubsystem (h : site.Loaded s) {reads : YamlReads} {sub : OvsrecSubsystem}
    (hports : ∀ name, (reads sub).ports.find? (fun port => port.name = name) =
      site.port sub.name name) : site.Loaded (loadSubsystem reads s sub) := by
  intro name hname inst
  have hyaml : (OpsPmd.loadSubsystem reads s sub).yaml =
      Function.update s.yaml sub.name (reads sub).ports := rfl
  unfold pmGetYamlPort
  rw [hyaml]
  by_cases hsame : name = sub.name
  · subst hsame
    rw [Function.update_self]
    exact hports inst
  · rw [ovsSubs_loadSubsystem, Shash.keys_add] at hname
    rw [Function.update_of_ne hsame]
    rcases List.mem_append.mp hname with hold | hnew
    · exact h name hold inst
    · exact absurd (List.mem_singleton.mp hnew) hsame

lemma loaded_pmdReconfigure (h : site.Loaded s) (hcomplete : site.Complete pass) :
    site.Loaded (pmdReconfigure pf pass.reads pass.idl s) := by
  by_cases he : pass.idl.seqno = s.idlSeqno
  · rw [pmdReconfigure_of_eq he]
    exact h
  apply pmdReconfigure_rule he
  · intro sub hsub
    exact h sub (keys_afterDeletes hsub)
  · intro s sub hsub _ hs
    exact hs.loadSubsystem (hcomplete.ports sub hsub)
  · intro s sub _ intf _ _ _ hs
    obtain ⟨_, _, _, hsubs, hyaml, _⟩ := ovsdbIfIntfCreate_frame pf s intf sub.name
    unfold Site.Loaded
    rw [hsubs, hyaml]
    exact hs
  · intro s intf _ hs
    obtain ⟨_, _, _, hsubs, hyaml, _⟩ := modifyInterface_frame pf s intf
    unfold Site.Loaded
    rw [hsubs, hyaml]
    exact hs

lemma failedRead_append {xs ys : List Call} (hx : ∀ call ∈ xs, call.failedRead = false)
    (hy : ∀ call ∈ ys, call.failedRead = false) : ∀ call ∈ xs ++ ys, call.failedRead = false := by
  intro call hcall
  rcases List.mem_append.mp hcall with hc | hc
  · exact hx call hc
  · exact hy call hc

lemma failedRead_pmdReconfigure (h : ∀ call ∈ s.calls, call.failedRead = false)
    (hcomplete : site.Complete pass) :
    ∀ call ∈ (pmdReconfigure pf pass.reads pass.idl s).calls, call.failedRead = false := by
  by_cases he : pass.idl.seqno = s.idlSeqno
  · rw [pmdReconfigure_of_eq he]
    exact h
  apply pmdReconfigure_rule (J := fun s : Pmd => ∀ call ∈ s.calls, call.failedRead = false) he h
  · intro s sub hsub _ hs
    rw [calls_loadSubsystem]
    apply failedRead_append hs
    intro call hcall
    rcases mem_loadCalls hcall with rfl | rfl | rfl
    · rfl
    · simp [Call.failedRead, hcomplete.rc sub hsub]
    · rfl
  · intro s sub _ intf _ _ _ hs
    obtain ⟨hardware, hkind, hcalls, -⟩ := ovsdbIfIntfCreate_frame pf s intf sub.name
    rw [hcalls]
    apply failedRead_append hs
    intro call hcall
    rcases List.mem_cons.mp hcall with rfl | hc
    · rfl
    · exact failedRead_of_kind (by rw [hkind call hc]; decide)
  · intro s intf _ hs
    obtain ⟨hardware, hkind, hcalls, -⟩ := modifyInterface_frame pf s intf
    rw [hcalls]
    apply failedRead_append hs
    intro call hcall
    exact failedRead_of_kind (by rw [hkind call hcall]; decide)

lemma orderly_of_complete {w : World} (h : ∀ call ∈ w.pmd.calls, call.failedRead = false)
    (hf : pass.runs = true → Follows w.idl pass.idl ∧ site.Complete pass) :
    Orderly pf w pass := by
  intro hr
  obtain ⟨hfollows, hcomplete⟩ := hf hr
  refine ⟨hfollows, ?_⟩
  have hcalls : ∀ call ∈ (w.pass pf pass).pmd.calls, call.failedRead = false := by
    rw [pmd_pass pf w hr, calls_pmOvsdbUpdate]
    unfold beforeUpdate
    rw [calls_pmReadState]
    apply failedRead_append (failedRead_append (failedRead_pmdReconfigure h hcomplete) ?_)
    · exact List.forall_mem_singleton.mpr rfl
    · intro call hcall
      exact failedRead_of_kind (by rw [(quiet_scanCalls hcall).1]; decide)
  intro call hcall
  exact hcalls call (List.mem_of_mem_drop hcall)

end Descriptions

/-- The snapshot is one of the site. -/
structure Site.Shown (site : Site) (replica : Replica) : Prop where
  nodup : (replica.interfaces.map OvsrecInterface.name).Nodup
  names : KeepsNames site.nameOf replica
  subs : ∀ sub ∈ replica.subsystems, ∀ intf ∈ sub.interfaces, site.subOf intf.uuid = sub.name

/-- The server between two passes of which all have read everything and committed. -/
structure Site.Follower (site : Site) (pf : Platform) (s : Server) : Prop where
  commit : CommitInv pf s
  found : site.Inv pf s.world s.db
  init : InitInv pf s.world
  plain : Records (fun port _ => port.Plain) s.world.pmd
  loaded : site.Loaded s.world.pmd
  known : ∀ sub ∈ s.world.idl.replica.subsystems, sub.name ∈ s.world.pmd.ovsSubs.keys
  shown : site.Shown s.world.idl.replica

section Follower

variable {pf : Platform} {site : Site} {pass : Pass}

lemma known_pass {w : World} (hsync : Synced pf w)
    (h : ∀ sub ∈ w.idl.replica.subsystems, sub.name ∈ w.pmd.ovsSubs.keys)
    (hf : Follows w.idl pass.idl) (hr : pass.runs = true) :
    ∀ sub ∈ (w.pass pf pass).idl.replica.subsystems,
      sub.name ∈ (w.pass pf pass).pmd.ovsSubs.keys := by
  have hidl : (w.pass pf pass).idl = pass.idl := if_pos hr
  rw [hidl, pmd_pass pf w hr]
  intro sub hsub
  show sub.name ∈ (pmdReconfigure pf pass.reads pass.idl w.pmd).ovsSubs.keys
  by_cases he : pass.idl.seqno = w.pmd.idlSeqno
  · rw [pmdReconfigure_of_eq he]
    rw [replica_eq_of_seqno_eq hsync hf.intfs he] at hsub
    exact h sub hsub
  · exact known_pmdReconfigure he hsub

lemma follower_serverStep (hhw : pf.simulation = false) {s : Server} (h : site.Follower pf s)
    (hf : pass.runs = true →
      Follows s.world.idl pass.idl ∧ site.Complete pass ∧ pass.committed = true) :
    site.Follower pf (serverStep pf s pass) := by
  cases hr : pass.runs with
  | false =>
    rw [serverStep_of_not_runs pf s hr]
    exact h
  | true =>
    obtain ⟨hfollows, hcomplete, hcommitted⟩ := hf hr
    have hsync := h.init.synced
    have hworld : (serverStep pf s pass).world = s.world.pass pf pass := rfl
    have hidl : (s.world.pass pf pass).idl = pass.idl := if_pos hr
    have hplain := (kept_plain hhw).beforeUpdate hsync hfollows h.plain fun _ => trivial
    refine ⟨commitInv_serverStep hhw h.commit fun _ => ⟨hfollows, hcommitted⟩,
      inv_serverStep hhw h.found fun _ => ⟨hfollows, hcomplete.fits⟩,
      initInv_pass h.init (orderly_of_complete h.init.reads fun _ => ⟨hfollows, hcomplete⟩),
      ?_, ?_, known_pass hsync h.known hfollows hr, ?_⟩
    · rw [hworld, pmd_pass pf s.world hr]
      exact records_pmOvsdbUpdate (tableInv_beforeUpdate hsync hfollows) hplain
        fun _ port _ _ hp => hp.of_blank (blank_publishPort pass.idl.replica port)
    · rw [hworld, pmd_pass pf s.world hr]
      exact loaded_pmdReconfigure h.loaded hcomplete
    · rw [hworld, hidl]
      exact ⟨hfollows.names, hcomplete.fits.names, hcomplete.fits.subs⟩

lemma follower_start (site : Site) (pf : Platform) (reads : YamlReads) (seqno : UInt32)
    (db : Database) : site.Follower pf ⟨World.start pf reads seqno, db⟩ where
  commit := ⟨reportInv_start pf reads seqno db, by simp [pmd_start]⟩
  found := inv_start site pf reads seqno db
  init := initInv_start pf reads seqno
  plain := by simp [Records, pmd_start]
  loaded := by simp [Site.Loaded, pmd_start, Shash.keys]
  known := by simp [World.start, Replica.empty]
  shown := ⟨List.nodup_nil, by simp [KeepsNames, World.start, Replica.empty],
    by simp [World.start, Replica.empty]⟩

/-- A module of a known kind has been read and reported, and the report is in the database. -/
lemma eq_identified_of_known {s : Server} (h : site.Follower pf s) {name : String} {port : PmPort}
    (hmem : (name, port) ∈ s.world.pmd.ovsIntfs) (hk : port.moduleDevice.isKnown = true) :
    port = { identified (site.pageOf port) port.blank with moduleInfoChanged := false } ∧
      s.db.pmInfo port.uuid = moduleStatus port.moduleDevice (site.pageOf port) := by
  obtain ⟨page, hport, hpages, hdb⟩ := h.commit.known hmem hk
  have hpage : page = site.pageOf port := by
    apply h.found.read name port hmem
    rw [hpages]
    exact List.mem_singleton_self page
  rw [pmInfoOf_identified] at hdb
  rw [hpage] at hport hdb
  exact ⟨hport, hdb⟩

variable (pf site) in
lemma config_record (intf : OvsrecInterface) (device : YamlPort) :
    (site.record pf intf device).config =
      (newPort pf intf (site.subOf intf.uuid) device).config := by
  unfold Site.record
  dsimp only
  split
  · exact config_identified _ _
  · rfl

/-- A record of the table is the one that its interface asks for. -/
lemma eq_record {s : Server} (h : site.Follower pf s) {intf : OvsrecInterface} {name : String}
    {port : PmPort} (hmem : (name, port) ∈ s.world.pmd.ovsIntfs)
    (hintf : intf ∈ s.world.idl.replica.interfaces) (hname : intf.name = name)
    (huuid : intf.uuid = port.uuid) : port = site.record pf intf port.moduleDevice := by
  have hplain := h.plain name port hmem
  have hhas := h.found.found.port name port hmem
  have hinst := h.init.synced.table.inst name port hmem
  have hen := h.init.synced.hwEnable intf hintf port (hname ▸ hmem)
  have hsub := hhas.subsystem
  rw [← huuid] at hsub
  have hblank : port.blank = newPort pf intf (site.subOf intf.uuid) port.moduleDevice := by
    unfold PmPort.blank newPort
    rw [hplain.subports, hplain.split, hplain.moduleData, hplain.portEnable, ← hen, hinst, hname,
      ← huuid, hsub]
  unfold Site.record
  rw [← hblank]
  dsimp only
  cases hk : port.moduleDevice.isKnown with
  | false =>
    obtain ⟨hport, -⟩ := (accounted_of_reportInv h.commit.reports).unknown name port hmem hk
    exact hport
  | true =>
    have hport := (eq_identified_of_known h hmem hk).1
    have hshown : site.pageOf port = site.page intf.name port.moduleDevice := by
      unfold Site.pageOf
      rw [hinst, hname]
    rw [hshown] at hport
    exact hport

/-- An interface with a pluggable port has a record. -/
lemma exists_record {s : Server} (h : site.Follower pf s) {intf : OvsrecInterface}
    (hlisted : ∃ sub ∈ s.world.idl.replica.subsystems, intf ∈ sub.interfaces) {device : YamlPort}
    (hdevice : site.device intf.uuid = some device) (hp : device.pluggable = true) :
    (intf.name, site.record pf intf device) ∈ s.world.pmd.ovsIntfs := by
  obtain ⟨sub, hsub, hin⟩ := hlisted
  have hintf := s.world.idl.replica.mem_interfaces sub hsub intf hin
  have hfind : pmGetYamlPort s.world.pmd.yaml sub.name intf.name = some device := by
    rw [h.loaded sub.name (h.known sub hsub), ← h.shown.subs sub hsub intf hin,
      ← h.shown.names intf hintf]
    exact hdevice
  obtain ⟨port, hmem⟩ := Shash.mem_keys.mp (h.init.listed sub hsub intf hin device hfind hp)
  obtain ⟨row, hrow, hname, huuid⟩ := h.init.synced.table.row intf.name port hmem
  obtain rfl := List.inj_on_of_nodup_map h.shown.nodup hrow hintf hname
  have hsame : port.moduleDevice = device := by
    have hhas := (h.found.found.port row.name port hmem).device
    rw [← huuid, hdevice] at hhas
    exact (Option.some.inj hhas).symm
  have hport := eq_record h hmem hrow rfl huuid
  rw [hsame] at hport
  rw [← hport]
  exact hmem

lemma describes_of_follower {s : Server} (h : site.Follower pf s)
    (hlisted : ∀ intf ∈ s.world.idl.replica.interfaces,
      ∃ sub ∈ s.world.idl.replica.subsystems, intf ∈ sub.interfaces) : site.Describes pf s where
  nodup := h.init.synced.table.nodup
  port := by
    intro name port
    constructor
    · intro hmem
      obtain ⟨intf, hintf, hname, huuid⟩ := h.init.synced.table.row name port hmem
      refine ⟨intf, hintf, port.moduleDevice, ?_, h.init.synced.table.pluggable name port hmem,
        hname.symm, eq_record h hmem hintf hname huuid⟩
      rw [huuid]
      exact (h.found.found.port name port hmem).device
    · rintro ⟨intf, hintf, device, hdevice, hp, rfl, rfl⟩
      exact exists_record h (hlisted intf hintf) hdevice hp
  pmInfo := by
    intro intf hintf device hdevice hp hk
    have hmem := exists_record h (hlisted intf hintf) hdevice hp
    have hconfig := config_record pf site intf device
    have huuid : (site.record pf intf device).uuid = intf.uuid :=
      congrArg PmPort.Config.uuid hconfig
    have hdev : (site.record pf intf device).moduleDevice = device :=
      congrArg PmPort.Config.moduleDevice hconfig
    have hshown : site.pageOf (site.record pf intf device) = site.page intf.name device :=
      pageOf_of_config hconfig
    have hdb := (eq_identified_of_known h hmem (hdev.symm ▸ hk)).2
    rw [huuid, hdev, hshown] at hdb
    exact hdb

/-- On hardware, after any passes that all read the whole description and commit, the table is what
the snapshot and the modules ask for, and so is the database, provided that every interface of
the snapshot is listed by a subsystem. -/
theorem describes_of_passes (pf : Platform) (hhw : pf.simulation = false) (site : Site)
    (reads : YamlReads) (seqno : UInt32) (db : Database) {passes : List Pass}
    (hok : Along (serverStep pf) (fun s pass => pass.runs = true →
      Follows s.world.idl pass.idl ∧ site.Complete pass ∧ pass.committed = true)
      ⟨World.start pf reads seqno, db⟩ passes)
    (hlisted : ∀ intf ∈ (run (serverStep pf) ⟨World.start pf reads seqno, db⟩
        passes).world.idl.replica.interfaces,
      ∃ sub ∈ (run (serverStep pf) ⟨World.start pf reads seqno, db⟩
        passes).world.idl.replica.subsystems, intf ∈ sub.interfaces) :
    site.Describes pf (run (serverStep pf) ⟨World.start pf reads seqno, db⟩ passes) :=
  describes_of_follower (Along.invariant (fun _ _ hI hf => follower_serverStep hhw hI hf)
    (follower_start site pf reads seqno db) hok) hlisted

/-- A daemon that has been through something else has the same records. -/
theorem Site.Describes.perm {pf : Platform} {site : Site} {s s' : Server}
    (h : site.Describes pf s) (h' : site.Describes pf s')
    (hreplica : s.world.idl.replica = s'.world.idl.replica) :
    s.world.pmd.ovsIntfs.Perm s'.world.pmd.ovsIntfs := by
  have hnodup : s.world.pmd.ovsIntfs.Nodup := List.Nodup.of_map Prod.fst h.nodup
  have hnodup' : s'.world.pmd.ovsIntfs.Nodup := List.Nodup.of_map Prod.fst h'.nodup
  rw [List.perm_ext_iff_of_nodup hnodup hnodup']
  rintro ⟨name, port⟩
  rw [h.port, h'.port, hreplica]

end Follower

namespace Switch

lemma complete_firstPass (committed : Bool) : site.Complete (firstPass committed) where
  fits := fits_firstPass committed
  rc := fun _ _ => rfl
  ports := fun _ _ _ => rfl

end Switch

theorem describes_of_passes_first :
    Switch.site.Describes Switch.platform (run (serverStep Switch.platform)
      ⟨World.start Switch.platform Switch.reads 0, ⟨fun _ => [], false⟩⟩
      [Switch.firstPass true, Switch.firstPass true]) := by
  apply describes_of_passes Switch.platform rfl
  · exact ⟨fun _ => ⟨⟨by decide, by decide, by decide, by decide⟩,
        Switch.complete_firstPass true, rfl⟩,
      fun _ => ⟨⟨by decide, by decide, by decide, by decide⟩,
        Switch.complete_firstPass true, rfl⟩, trivial⟩
  · decide

end OpsPmd
