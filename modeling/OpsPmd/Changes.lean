import OpsPmd.Columns

/-!
# No column changes silently

Each function that works on the columns of a port tracks changes, so along any sequence
of calls a port whose change flag is clear holds the strings of its last publication.
-/

namespace OpsPmd

open Lib OvsrecInterfacePmInfo

section Functions

variable (port : PmPort)

lemma tracks_pmDeleteAllData : port.Tracks (pmDeleteAllData port) :=
  Tracks.foldl (fun port field => port.tracks_deleteColumn field) _ _

lemma tracks_classify_deleteCable (optical : Bool) (connector status : Text) (speed : Int) :
    port.Tracks (port.classify optical connector status speed).deleteCable :=
  (port.tracks_classify optical connector status speed).trans (PmPort.tracks_deleteCable _)

lemma tracks_classifySfpPlus (page : Page) : port.Tracks (classifySfpPlus page port) := by
  rw [classifySfpPlus_eq]
  exact tracks_classify_deleteCable port _ _ _ _

lemma tracks_classifyQsfpPlus (page : Page) : port.Tracks (classifyQsfpPlus page port) := by
  obtain ⟨_, _, _, _, -, h⟩ := exists_classifyQsfpPlus page
  rw [h]
  exact tracks_classify_deleteCable port _ _ _ _

lemma tracks_classifyQsfp28 (page : Page) : port.Tracks (classifyQsfp28 page port) := by
  obtain ⟨_, _, _, _, -, h⟩ := exists_classifyQsfp28 page
  rw [h]
  exact tracks_classify_deleteCable port _ _ _ _

lemma tracks_fillSfpPlus (page : Page) : port.Tracks (fillSfpPlus page port) := by
  unfold fillSfpPlus
  refine Tracks.trans ?_ (PmPort.tracks_setBinary _ .a0 _)
  refine Tracks.trans ?_ (PmPort.tracks_setString _ .vendorSerialNumber _)
  refine Tracks.trans ?_ (PmPort.tracks_setString _ .vendorRevision _)
  refine Tracks.trans ?_ (PmPort.tracks_setString _ .vendorPartNumber _)
  refine Tracks.trans ?_ (PmPort.tracks_setString _ .vendorName _)
  exact port.tracks_deleteColumn .powerMode

lemma tracks_fillQsfp (page : Page) : port.Tracks (fillQsfp page port) := by
  unfold fillQsfp
  refine Tracks.trans ?_ (PmPort.tracks_setBinary _ .a0 _)
  refine Tracks.trans ?_ (PmPort.tracks_setString _ .vendorSerialNumber _)
  refine Tracks.trans ?_ (PmPort.tracks_setString _ .vendorRevision _)
  refine Tracks.trans ?_ (PmPort.tracks_setString _ .vendorPartNumber _)
  refine Tracks.trans ?_ (PmPort.tracks_setString _ .vendorOui _)
  refine Tracks.trans ?_ (PmPort.tracks_setString _ .vendorName _)
  exact port.tracks_deleteColumn .powerMode

lemma tracks_pmParse (page : Page) : port.Tracks (pmParse page port).2.1 := by
  unfold pmParse
  dsimp only
  split
  · rfl
  split
  · rfl
  split
  · exact (tracks_pmDeleteAllData port).trans (PmPort.tracks_setStaticString _ _ _)
  split
  · exact (tracks_classifySfpPlus port _).trans (tracks_fillSfpPlus _ _)
  split
  · exact (tracks_classifyQsfpPlus port _).trans (tracks_fillQsfp _ _)
  · rw [fillQsfp28_eq]
    exact (tracks_classifyQsfp28 port _).trans (tracks_fillQsfp _ _)

lemma tracks_setDomField (fl : FloatArith) (page : Page) (entry : DomColumn × DomField) :
    port.Tracks (setDomField fl page port entry) := by
  obtain ⟨field, value⟩ := entry
  cases value with
  | temperature msb => exact port.tracks_setFloatString fl field _
  | scaled msb digits places => exact port.tracks_setFloatString fl field _
  | flag byte bit => exact port.tracks_setBoolString field _

lemma tracks_pmSetA2 (fl : FloatArith) (page : Page) : port.Tracks (pmSetA2 fl port page) := by
  unfold pmSetA2
  split
  · rfl
  split
  · rfl
  split
  · exact port.tracks_setStaticString _ _
  split
  · exact (Tracks.foldl (fun port entry => tracks_setDomField port fl page entry) _ _).trans
      (PmPort.tracks_setBinary _ _ _)
  · exact (Tracks.foldl (fun port entry => tracks_setDomField port fl page entry) _ _).trans
      (PmPort.tracks_setBinary _ _ _)

lemma tracks_markAbsent : port.Tracks (markAbsent port) := by
  have h : port.Tracks { port with present := false } := Tracks.of_eq rfl rfl
  exact ((h.trans (tracks_pmDeleteAllData _)).trans (PmPort.tracks_setStaticString _ _ _)).trans
    (PmPort.tracks_setStaticString _ _ _)

lemma tracks_markUnreadable : port.Tracks (markUnreadable port) := by
  apply (tracks_pmDeleteAllData port).trans
  have h : (pmDeleteAllData port).Tracks
      { pmDeleteAllData port with present := true, retry := true } := Tracks.of_eq rfl rfl
  exact (h.trans (PmPort.tracks_setStaticString _ _ _)).trans (PmPort.tracks_setStaticString _ _ _)

lemma tracks_setA2ReadRequest (page : Page) : port.Tracks (setA2ReadRequest port page) := by
  unfold setA2ReadRequest
  repeat' split
  all_goals first
    | rfl
    | exact Tracks.of_eq rfl rfl

end Functions

section Scans

variable (pf : Platform) (hw : ScanHw)

lemma tracks_retryReadA2 (retryCount : Nat) (port : PmPort) :
    port.Tracks (retryReadA2 pf hw retryCount port) := by
  have hfinish : ∀ page, port.Tracks { pmSetA2 pf.float port page with a2ReadRequested := false } :=
    fun page => (tracks_pmSetA2 port pf.float page).trans (Tracks.of_eq rfl rfl)
  induction retryCount with
  | zero =>
    unfold retryReadA2
    dsimp only
    split <;> exact hfinish _
  | succ n ih =>
    unfold retryReadA2
    dsimp only
    split
    · exact ih
    · exact hfinish _

lemma tracks_scanA2 (retryCount : Nat) (port : PmPort) (calls : List Call) :
    port.Tracks (scanA2 pf hw retryCount port calls).port := by
  unfold scanA2
  split
  · rfl
  · exact tracks_retryReadA2 pf hw retryCount port

lemma tracks_parse_scan (retryCount : Nat) (port : PmPort) (page : Page) (calls : List Call) :
    port.Tracks (scanA2 pf hw retryCount
      (if (pmParse page port).1 = 0 then
        setA2ReadRequest { (pmParse page port).2.1 with present := true, retry := false }
          (pmParse page port).2.2
      else { (pmParse page port).2.1 with retry := true }) calls).port := by
  refine Tracks.trans ?_ (tracks_scanA2 pf hw retryCount _ calls)
  apply (tracks_pmParse port page).trans
  split
  · exact Tracks.trans (Tracks.of_eq rfl rfl) (tracks_setA2ReadRequest _ _)
  · exact Tracks.of_eq rfl rfl

lemma tracks_retryRead (retryCount : Nat) (port : PmPort) :
    port.Tracks (retryRead pf hw retryCount port).port := by
  induction retryCount with
  | zero =>
    unfold retryRead
    dsimp only
    split
    · split
      · exact tracks_markAbsent port
      · rfl
    split
    · split
      · exact tracks_markUnreadable port
      · exact tracks_parse_scan pf hw _ port _ _
    · exact tracks_scanA2 pf hw _ port _
  | succ n ih =>
    unfold retryRead
    dsimp only
    split
    · split
      · exact tracks_markAbsent port
      · rfl
    split
    · split
      · exact ih
      · exact tracks_parse_scan pf hw _ port _ _
    · exact tracks_scanA2 pf hw _ port _

lemma tracks_pmReadModuleState (port : PmPort) :
    port.Tracks (pmReadModuleState pf hw port).port := by
  unfold pmReadModuleState
  dsimp only
  split
  · rfl
  · exact tracks_retryRead pf hw 2 port

end Scans

/-- A call that may change the columns of one port, or publish them. -/
inductive PortOp
  | parse (page : Page)
  | setA2 (page : Page)
  | deleteAllData
  | readModuleState (hw : ScanHw)
  | update (replica : Replica)

def portStep (pf : Platform) (port : PmPort) : PortOp → PmPort
  | .parse page => (pmParse page port).2.1
  | .setA2 page => pmSetA2 pf.float port page
  | .deleteAllData => pmDeleteAllData port
  | .readModuleState hw => (pmReadModuleState pf hw port).port
  | .update replica => (publishPort replica port).1

/-- `pm_ovsdb_update` reaches the assignment that clears the port's flag. -/
def clearsFlag (port : PmPort) : PortOp → Bool
  | .update replica => (publishPort replica port).2.isSome
  | _ => false

lemma publishPort_eq_self {replica : Replica} {port : PmPort}
    (h : (publishPort replica port).2 = none) : (publishPort replica port).1 = port := by
  unfold publishPort at h ⊢
  split
  · rfl
  rename_i hrow
  rw [if_neg hrow] at h
  split
  · rfl
  rename_i hchanged
  rw [if_neg hchanged] at h
  exact absurd h (by simp)

lemma tracks_portStep (pf : Platform) (port : PmPort) (op : PortOp)
    (h : clearsFlag port op = false) : port.Tracks (portStep pf port op) := by
  cases op with
  | parse page => exact tracks_pmParse port page
  | setA2 page => exact tracks_pmSetA2 port pf.float page
  | deleteAllData => exact tracks_pmDeleteAllData port
  | readModuleState hw => exact tracks_pmReadModuleState pf hw port
  | update replica =>
    have hnone : (publishPort replica port).2 = none := by simpa [clearsFlag] using h
    rw [portStep, publishPort_eq_self hnone]

/-- What the port's strings were when they were last published, or at the start. -/
def lastPublished (pf : Platform) (start : PmPort) (ops : List PortOp) :
    Option (OvsModuleInfo × OvsModuleDomInfo) :=
  published (portStep pf) PmPort.columns clearsFlag start
    (if start.moduleInfoChanged then none else some start.columns) ops

/-- Whenever the change flag of a port is clear, its strings are the published ones. -/
theorem columns_eq_lastPublished (pf : Platform) (start : PmPort) (ops : List PortOp)
    (h : (run (portStep pf) start ops).moduleInfoChanged = false) :
    lastPublished pf start ops = some (run (portStep pf) start ops).columns := by
  refine content_eq_published (fun port op hop => tracks_portStep pf port op hop) ?_ h
  intro hstart
  rw [hstart]
  rfl

/-- A module that is scanned, published and scanned again. -/
theorem columns_eq_lastPublished_lr4 :
    lastPublished Switch.platform Switch.port1
        [.readModuleState (Switch.hwOf Switch.lr4Page),
          .update (Switch.single (Switch.intf "1" 1 "true")),
          .readModuleState (Switch.hwOf Switch.lr4Page)] =
      some (run (portStep Switch.platform) Switch.port1
        [.readModuleState (Switch.hwOf Switch.lr4Page),
          .update (Switch.single (Switch.intf "1" 1 "true")),
          .readModuleState (Switch.hwOf Switch.lr4Page)]).columns :=
  columns_eq_lastPublished _ _ _ (by decide)

end OpsPmd
