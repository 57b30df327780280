import OpsPmd.ControlWrites
import OpsPmd.Histories
import OpsPmd.TxDisable

/-!
# What the daemon writes

Whatever the database and the hardware do, a write is made for a record, and it goes to the
registers and the module that the YAML port of this record names: the transmitter of a port that
is not a QSFP is turned on or off, the reset of a QSFP port is released when its record is
created, and the lanes of a QSFP module are enabled or disabled once its page has told that it
is optical.
-/

namespace OpsPmd

open Lib

/-- The write may be made for the port after the calls `before`. -/
inductive Permitted (port : PmPort) (before : List Call) : Call → Prop
  | transmitter (data : UInt32) : port.moduleDevice.isQsfp = false →
      (data = 0 ∨ ∃ op, port.moduleDevice.sfppTxDisable = some op ∧ data = op.bitMask) →
      Permitted port before (.i2cRegWrite port.inst .sfppTxDisable port.subsystem
        port.moduleDevice.sfppTxDisable data)
  | release (signal : Signal) (op : BitOp) : port.moduleDevice.resetOp = some op →
      signal ≠ .sfppTxDisable → before.getLast? = some (.intfCreate port.subsystem port.inst) →
      Permitted port before (.i2cRegWrite port.inst signal port.subsystem (some op) 0)
  | lanes (page : Page) (hwEnable : Bool) : port.moduleDevice.isQsfp = true →
      (history port.inst port.uuid before).pages = [page] →
      (identified page port.blank).optical = true →
      Permitted port before (.i2cDataWrite port.inst port.subsystem port.moduleDevice.moduleEeprom
        qsfpDisableOffset (controlByte hwEnable))

/-- Every write among the calls `new` is made for a record in the table, at a time when it is
permitted. -/
def WritesPermitted (ovsIntfs : Shash String PmPort) (before new : List Call) : Prop :=
  Along (fun before call => before ++ [call]) (fun before call => call.isWrite = true →
    ∃ port, (port.inst, port) ∈ ovsIntfs ∧ Permitted port before call) before new

section Logs

variable {ovsIntfs ovsIntfs' : Shash String PmPort} {before xs ys : List Call} {port : PmPort}

lemma run_log (before calls : List Call) :
    run (fun before call => before ++ [call]) before calls = before ++ calls := by
  induction calls generalizing before with
  | nil => simp
  | cons call calls ih => rw [run_cons, ih, List.append_assoc, List.singleton_append]

lemma writesPermitted_append :
    WritesPermitted ovsIntfs before (xs ++ ys) ↔
      WritesPermitted ovsIntfs before xs ∧ WritesPermitted ovsIntfs (before ++ xs) ys := by
  unfold WritesPermitted
  rw [along_append, run_log]

/-- The records for which writes were made are still there, up to their settings. -/
lemma WritesPermitted.mono (h : WritesPermitted ovsIntfs before xs)
    (hkept : ∀ port, (port.inst, port) ∈ ovsIntfs → ∃ port', (port.inst, port') ∈ ovsIntfs' ∧
      ∃ hwEnable enable, port' = { port with hwEnable := hwEnable, portEnable := enable }) :
    WritesPermitted ovsIntfs' before xs := by
  refine along_iff.mpr fun ys call zs he hwrite => ?_
  obtain ⟨port, hmem, hpermitted⟩ := along_iff.mp h ys call zs he hwrite
  obtain ⟨port', hmem', hwEnable, enable, rfl⟩ := hkept port hmem
  refine ⟨{ port with hwEnable := hwEnable, portEnable := enable }, hmem', ?_⟩
  cases hpermitted with
  | transmitter data hq hdata => exact .transmitter data hq hdata
  | release signal op hop hsignal hlast => exact .release signal op hop hsignal hlast
  | lanes page value hq hpages hoptical =>
    refine .lanes page value hq hpages ?_
    have hset := identified_setting page hwEnable enable port.blank
    exact (congrArg PmPort.optical hset).trans hoptical

end Logs

section Configure

variable {pf : Platform} (hhw : pf.simulation = false) {ovsIntfs : Shash String PmPort}
  {port : PmPort} {before : List Call}
include hhw

end Configure

/-- What makes the next writes permitted. -/
structure WriteInv (s : Pmd) : Prop where
  records : Records FollowsHistory s
  split : ∀ name port, (name, port) ∈ s.ovsIntfs → port.split = false

/-- The daemon has come from `s` to `s'`, with permitted writes. -/
structure Wrote (s s' : Pmd) : Prop where
  inv : WriteInv s'
  calls : ∃ new, s'.calls = s.calls ++ new ∧ WritesPermitted s'.ovsIntfs s.calls new

section Steps

variable {pf : Platform} (hhw : pf.simulation = false) {replica : Replica} {s s' : Pmd}
include hhw

omit hhw in
/-- More calls, with a table that has kept its records. -/
lemma Wrote.append (h : Wrote s s') {s'' : Pmd} {new : List Call} (hinv : WriteInv s'')
    (hcalls : s''.calls = s'.calls ++ new)
    (hkept : ∀ port, (port.inst, port) ∈ s'.ovsIntfs → ∃ port', (port.inst, port') ∈ s''.ovsIntfs ∧
      ∃ hwEnable enable, port' = { port with hwEnable := hwEnable, portEnable := enable })
    (hnew : WritesPermitted s''.ovsIntfs s'.calls new) : Wrote s s'' := by
  obtain ⟨old, hold, hpermitted⟩ := h.calls
  refine ⟨hinv, old ++ new, ?_, ?_⟩
  · rw [hcalls, hold, List.append_assoc]
  · rw [writesPermitted_append, ← hold]
    exact ⟨hpermitted.mono hkept, hnew⟩

end Steps

end OpsPmd
