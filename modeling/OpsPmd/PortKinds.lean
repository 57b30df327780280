import OpsPmd.TxDisable

/-!
# The kind of a port

Eight functions look at the connector string of a port, each on its own. The scanning side
knows three strings and refuses every other one, while `pm_configure_port` knows two and
takes the rest for SFP+.
-/

namespace OpsPmd

open Lib OvsrecInterfacePmInfo

/-- The scanning side refuses the port. -/
structure Refused (pf : Platform) (port : PmPort) : Prop where
  presence : ∀ hw turn, pmGetPresence pf hw turn port = false
  scan : ∀ hw, (pmReadModuleState pf hw port).rc = -1 ∧ (pmReadModuleState pf hw port).port = port
  parse : ∀ page, (pmParse page port).1 = -1
  dom : ∀ page, pmSetA2 pf.float port page = port.setStaticString .connector connectorUnknown

/-- What `pm_configure_port` does fits the kind that the rest of the daemon sees. -/
structure KindsAgree (pf : Platform) (port : PmPort) : Prop where
  txDisable : ∀ inst subsystem regOp data,
    .i2cRegWrite inst .sfppTxDisable subsystem regOp data ∈ (pmConfigurePort pf port).2 →
    port.moduleDevice.hasConnector connectorSfpPlus = true
  qsfp : ∀ inst subsystem device offset data,
    .i2cDataWrite inst subsystem device offset data ∈ (pmConfigurePort pf port).2 →
    port.moduleDevice.isQsfp = true
  other : port.moduleDevice.isKnown = false → (pmConfigurePort pf port).2 = []
  noDeref : ∀ inst, .nullDeref inst ∉ (pmConfigurePort pf port).2

lemma refused_of_not_isKnown {pf : Platform} (hhw : pf.simulation = false) {port : PmPort}
    (hp : port.moduleDevice.pluggable = true) {connector : String}
    (hc : port.moduleDevice.connector = some connector)
    (h : port.moduleDevice.isKnown = false) : Refused pf port where
  presence := by
    intro hw turn
    unfold pmGetPresence
    rw [hhw, h]
    rfl
  scan := by
    intro hw
    rw [pmReadModuleState_of_not_isKnown pf hw h]
    exact ⟨rfl, rfl⟩
  parse := by
    intro page
    unfold pmParse
    simp [hp, hc, h]
  dom := by
    intro page
    unfold pmSetA2
    simp [hp, hc, h]

/-- The QSFP path writes to the module, and nowhere else. -/
lemma mem_pmConfigureQsfp {pf : Platform} {port : PmPort} {call : Call}
    (h : call ∈ (pmConfigureQsfp pf port).2) :
    call = .i2cDataWrite port.inst port.subsystem port.moduleDevice.moduleEeprom
      qsfpDisableOffset (qsfpDisableData port) := by
  unfold pmConfigureQsfp at h
  split at h
  · simp at h
  split at h
  · simp at h
  split at h
  · simp at h
  · exact List.mem_singleton.mp h

/-- On hardware the other path makes exactly one access, whatever the connector is. -/
lemma pmConfigurePort_of_not_isQsfp {pf : Platform} (hhw : pf.simulation = false) {port : PmPort}
    (hq : port.moduleDevice.isQsfp = false) :
    (pmConfigurePort pf port).2 =
      if port.hwEnable then
        [.i2cRegWrite port.inst .sfppTxDisable port.subsystem port.moduleDevice.sfppTxDisable 0]
      else match port.moduleDevice.sfppTxDisable with
        | some op => [.i2cRegWrite port.inst .sfppTxDisable port.subsystem (some op) op.bitMask]
        | none => [.nullDeref port.inst] := by
  unfold pmConfigurePort YamlPort.sfppTxDisable
  simp only [hq, hhw, Bool.false_eq_true, if_false]
  cases port.hwEnable with
  | true => rfl
  | false => cases port.moduleDevice.moduleSignals.sfp.sfppTxDisable <;> rfl

/-- The access of the other path is a write to the transmitter, or reads a mask that is not
there. -/
lemma mem_pmConfigurePort_of_not_isQsfp {pf : Platform} (hhw : pf.simulation = false)
    {port : PmPort} (hq : port.moduleDevice.isQsfp = false) {call : Call}
    (h : call ∈ (pmConfigurePort pf port).2) :
    (∃ regOp data, call = .i2cRegWrite port.inst .sfppTxDisable port.subsystem regOp data) ∨
      (call = .nullDeref port.inst ∧ port.hwEnable = false ∧
        port.moduleDevice.sfppTxDisable = none) := by
  rw [pmConfigurePort_of_not_isQsfp hhw hq] at h
  split at h
  · exact .inl ⟨_, _, List.mem_singleton.mp h⟩
  split at h
  · exact .inl ⟨_, _, List.mem_singleton.mp h⟩
  · rename_i hen _ hnone
    exact .inr ⟨List.mem_singleton.mp h, by simpa using hen, hnone⟩

lemma kindsAgree_of_isQsfp (pf : Platform) {port : PmPort}
    (hq : port.moduleDevice.isQsfp = true) : KindsAgree pf port := by
  have hcalls : (pmConfigurePort pf port).2 = (pmConfigureQsfp pf port).2 := by
    unfold pmConfigurePort
    rw [if_pos hq]
  refine ⟨?_, fun _ _ _ _ _ _ => hq, ?_, ?_⟩
  · intro inst subsystem regOp data hmem
    rw [hcalls] at hmem
    exact absurd (mem_pmConfigureQsfp hmem) (by simp)
  · intro hk
    simp [YamlPort.isKnown, hq] at hk
  · intro inst hmem
    rw [hcalls] at hmem
    exact absurd (mem_pmConfigureQsfp hmem) (by simp)

/-- Where the control side takes the SFP path, it is right for SFP+ only, and needs the operation
to turn the transmitter off. -/
lemma kindsAgree_iff_of_not_isQsfp {pf : Platform} (hhw : pf.simulation = false) {port : PmPort}
    (hq : port.moduleDevice.isQsfp = false) :
    KindsAgree pf port ↔ port.moduleDevice.hasConnector connectorSfpPlus = true ∧
      (port.hwEnable = true ∨ port.moduleDevice.sfppTxDisable ≠ none) := by
  have hcalls := pmConfigurePort_of_not_isQsfp hhw hq
  constructor
  · intro h
    cases hsfp : port.moduleDevice.hasConnector connectorSfpPlus with
    | false =>
      -- a third kind gets no access, but the path always makes one
      have hk : port.moduleDevice.isKnown = false := by simp [YamlPort.isKnown, hsfp, hq]
      have hnone := h.other hk
      rw [hcalls] at hnone
      split at hnone
      · simp at hnone
      split at hnone
      · simp at hnone
      · simp at hnone
    | true =>
      refine ⟨rfl, ?_⟩
      by_contra hoff
      obtain ⟨hen, hop⟩ := not_or.mp hoff
      have hen' : port.hwEnable = false := by simpa using hen
      have hop' : port.moduleDevice.sfppTxDisable = none := not_not.mp hop
      apply h.noDeref port.inst
      rw [hcalls, hen', hop']
      simp
  · rintro ⟨hsfp, hop⟩
    refine ⟨fun _ _ _ _ _ => hsfp, ?_, ?_, ?_⟩
    · intro inst subsystem device offset data hmem
      rcases mem_pmConfigurePort_of_not_isQsfp hhw hq hmem with ⟨regOp, value, h⟩ | ⟨h, -, -⟩
      · contradiction
      · contradiction
    · intro hk
      simp [YamlPort.isKnown, hsfp] at hk
    · intro inst hmem
      rcases mem_pmConfigurePort_of_not_isQsfp hhw hq hmem with ⟨regOp, value, h⟩ | ⟨-, hen, hnone⟩
      · contradiction
      · rcases hop with hen' | hop'
        · rw [hen] at hen'
          contradiction
        · exact hop' hnone

/-- The scanning side refuses every third kind. On hardware the control side agrees with it
exactly if the port is a QSFP, or an SFP+ whose transmitter is on or has an operation that
turns it off. -/
theorem kindsAgree_iff {pf : Platform} (hhw : pf.simulation = false) {port : PmPort}
    (hp : port.moduleDevice.pluggable = true) {connector : String}
    (hc : port.moduleDevice.connector = some connector) :
    (port.moduleDevice.isKnown = false → Refused pf port) ∧
    (KindsAgree pf port ↔ connector = connectorQsfpPlus ∨ connector = connectorQsfp28 ∨
      (connector = connectorSfpPlus ∧
        (port.hwEnable = true ∨ port.moduleDevice.moduleSignals.sfp.sfppTxDisable ≠ none))) := by
  refine ⟨refused_of_not_isKnown hhw hp hc, ?_⟩
  have hhas : ∀ name, port.moduleDevice.hasConnector name = true ↔ connector = name := by
    intro name
    simp [YamlPort.hasConnector, hc]
  have hqsfp : port.moduleDevice.isQsfp = true ↔
      connector = connectorQsfpPlus ∨ connector = connectorQsfp28 := by
    rw [YamlPort.isQsfp, Bool.or_eq_true, hhas, hhas]
  rw [← or_assoc, ← hqsfp, ← hhas connectorSfpPlus]
  cases hq : port.moduleDevice.isQsfp with
  | true => exact ⟨fun _ => .inl rfl, fun _ => kindsAgree_of_isQsfp pf hq⟩
  | false =>
    rw [kindsAgree_iff_of_not_isQsfp hhw hq]
    exact (or_iff_right Bool.false_ne_true).symm

/-- An SFP+ port whose transmitter is off. -/
theorem kindsAgree_iff_sfp :
    (Switch.port2.moduleDevice.isKnown = false → Refused Switch.platform Switch.port2) ∧
    (KindsAgree Switch.platform Switch.port2 ↔
      connectorSfpPlus = connectorQsfpPlus ∨ connectorSfpPlus = connectorQsfp28 ∨
        (connectorSfpPlus = connectorSfpPlus ∧ (Switch.port2.hwEnable = true ∨
          Switch.port2.moduleDevice.moduleSignals.sfp.sfppTxDisable ≠ none))) :=
  kindsAgree_iff rfl rfl rfl

/-- The copper jack is nobody's module, and still gets a write. -/
theorem not_kindsAgree_jack : ¬KindsAgree Switch.platform Switch.port3 := by
  intro h
  have hnone := h.other (by decide)
  revert hnone
  decide

end OpsPmd
