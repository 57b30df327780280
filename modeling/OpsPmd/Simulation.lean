import OpsPmd.Table

/-!
# Simulated modules

In the simulation build, the command `ops-pmd/sim` inserts the page in a file as the module
of a port, or removes it. `insert` lets go of an old module before it looks at the file, and
a command that is neither of the two is not answered.
-/

namespace OpsPmd

open Lib

/-- What opening and reading a file gives: nothing if it cannot be opened, else the bytes
that can be read. -/
abbrev Files := String → Option (List UInt8)

/-- `fread` of one page -/
def freadPage (bytes : List UInt8) : Option Page :=
  if h : 128 ≤ bytes.length then some ⟨(bytes.take 128).toArray, by simpa using h⟩ else none

/-- The result code, the ports, and the text for the reply. -/
structure SimResult where
  rc : Int
  ovsIntfs : Shash String PmPort
  ds : String

def pmdSimInsert (files : Files) (name file : String) (ovsIntfs : Shash String PmPort) :
    SimResult :=
  match ovsIntfs.find name with
  | none => ⟨-1, ovsIntfs, "No such interface"⟩
  | some port =>
    let port := { port with moduleData := none }
    match files file with
    | none => ⟨-1, ovsIntfs.set name port, "Can't open file"⟩
    | some bytes =>
      match freadPage bytes with
      | none => ⟨-1, ovsIntfs.set name port, "Unable to read data"⟩
      | some data =>
        ⟨0, ovsIntfs.set name { port with moduleData := some data }, "Pluggable module inserted"⟩

def pmdSimRemove (name : String) (ovsIntfs : Shash String PmPort) : SimResult :=
  match ovsIntfs.find name with
  | none => ⟨-1, ovsIntfs, "No such interface"⟩
  | some port =>
    if port.moduleData = none then ⟨-1, ovsIntfs, "Pluggable module not present"⟩
    else ⟨0, ovsIntfs.set name { port with moduleData := none }, "Pluggable module removed"⟩

/-- The arguments behind the name of the command. It is registered for two or three of them. -/
structure SimArgs where
  interface : String
  command : String
  file : Option String

inductive Reply
  | ok (text : String)
  | error (text : String)
deriving DecidableEq

/-- The end of `pmd_unixctl_sim`. -/
def simReply (result : SimResult) : Shash String PmPort × List Reply :=
  (result.ovsIntfs, [if result.rc < 0 then .error result.ds else .ok result.ds])

/-- `pmd_unixctl_sim`: the ports and the replies. For an invalid usage it composes a text, but
returns before the reply. -/
def pmdUnixctlSim (files : Files) (args : SimArgs) (ovsIntfs : Shash String PmPort) :
    Shash String PmPort × List Reply :=
  match args.file with
  | some file =>
    if args.command = "insert" then simReply (pmdSimInsert files args.interface file ovsIntfs)
    else (ovsIntfs, [])
  | none =>
    if args.command = "remove" then simReply (pmdSimRemove args.interface ovsIntfs)
    else (ovsIntfs, [])

/-- The module data that a command asks for. -/
def Requests (files : Files) (args : SimArgs) (data : Option Page) : Prop :=
  (args.command = "insert" ∧ ∃ file bytes page, args.file = some file ∧
      files file = some bytes ∧ data = some page ∧ page.toList = bytes.take 128) ∨
    (args.command = "remove" ∧ data = none)

/-- What a reply promises: after an error the ports are as they were, after a success only
the module data of the named port has changed, to what was asked for. -/
def Keeps (files : Files) (args : SimArgs) (ovsIntfs ovsIntfs' : Shash String PmPort) :
    Reply → Prop
  | .error _ => ovsIntfs' = ovsIntfs
  | .ok _ => ∃ port data, ovsIntfs.find args.interface = some port ∧ Requests files args data ∧
      ovsIntfs' = ovsIntfs.set args.interface { port with moduleData := data }

/-- The command is answered once, and the reply is true. -/
def Atomic (files : Files) (args : SimArgs) (ovsIntfs : Shash String PmPort) : Prop :=
  ∃ reply, (pmdUnixctlSim files args ovsIntfs).2 = [reply] ∧
    Keeps files args ovsIntfs (pmdUnixctlSim files args ovsIntfs).1 reply

/-- A well-formed `remove`, or a well-formed `insert` that finds no module to lose or a whole
page in its file. -/
def Harmless (files : Files) (args : SimArgs) (ovsIntfs : Shash String PmPort) : Prop :=
  (args.command = "remove" ∧ args.file = none) ∨
    (args.command = "insert" ∧ ∃ file, args.file = some file ∧
      ((∀ port, ovsIntfs.find args.interface = some port → port.moduleData = none) ∨
        ∃ bytes, files file = some bytes ∧ 128 ≤ bytes.length))

lemma freadPage_of_lt {bytes : List UInt8} (h : bytes.length < 128) : freadPage bytes = none :=
  dif_neg (Nat.not_le.mpr h)

lemma exists_freadPage {bytes : List UInt8} (h : 128 ≤ bytes.length) :
    ∃ page, freadPage bytes = some page ∧ page.toList = bytes.take 128 :=
  ⟨_, dif_pos h, rfl⟩

/-- Taking the module of a port out leaves the ports as they were exactly if it had none. -/
lemma set_moduleData_none_eq_self_iff {ovsIntfs : Shash String PmPort} {name : String}
    {port : PmPort} (h : ovsIntfs.find name = some port) :
    ovsIntfs.set name { port with moduleData := none } = ovsIntfs ↔ port.moduleData = none := by
  constructor
  · intro heq
    have hmem : name ∈ ovsIntfs.keys := Shash.mem_keys_of_mem (Shash.mem_of_find_eq_some h)
    have hfind := congrFun (Shash.find_set hmem { port with moduleData := none }) name
    rw [heq, h, Function.update_self] at hfind
    exact congrArg PmPort.moduleData (Option.some.inj hfind)
  · intro hnone
    have hsame : { port with moduleData := none } = port := by rw [← hnone]
    rw [hsame]
    exact Shash.set_of_find h

section Replies

variable {files : Files} {args : SimArgs} {ovsIntfs : Shash String PmPort}

lemma atomic_iff_of_simReply {result : SimResult}
    (h : pmdUnixctlSim files args ovsIntfs = simReply result) :
    Atomic files args ovsIntfs ↔ Keeps files args ovsIntfs result.ovsIntfs
      (if result.rc < 0 then .error result.ds else .ok result.ds) := by
  unfold Atomic
  rw [h]
  constructor
  · rintro ⟨reply, hreply, hkeeps⟩
    rw [List.singleton_inj.mp hreply]
    exact hkeeps
  · intro hkeeps
    exact ⟨_, rfl, hkeeps⟩

/-- A command that is not well-formed is not answered. -/
lemma not_atomic_of_invalid (hremove : args.file = none → args.command ≠ "remove")
    (hinsert : ∀ file, args.file = some file → args.command ≠ "insert") :
    ¬Atomic files args ovsIntfs := by
  have hsilent : (pmdUnixctlSim files args ovsIntfs).2 = [] := by
    unfold pmdUnixctlSim
    cases hf : args.file with
    | none => exact congrArg Prod.snd (if_neg (hremove hf))
    | some file => exact congrArg Prod.snd (if_neg (hinsert file hf))
  rintro ⟨reply, hreply, -⟩
  rw [hsilent] at hreply
  contradiction

lemma atomic_remove (hc : args.command = "remove") (hf : args.file = none) :
    Atomic files args ovsIntfs := by
  have hrun : pmdUnixctlSim files args ovsIntfs =
      simReply (pmdSimRemove args.interface ovsIntfs) := by
    unfold pmdUnixctlSim
    rw [hf]
    exact if_pos hc
  apply (atomic_iff_of_simReply hrun).mpr
  unfold pmdSimRemove
  cases hfind : ovsIntfs.find args.interface with
  | none => rfl
  | some port =>
    dsimp only
    split
    · rfl
    · exact ⟨port, none, hfind, .inr ⟨hc, rfl⟩, rfl⟩

/-- A well-formed `insert` is answered truly unless it loses a module. -/
lemma atomic_insert_iff {file : String} (hc : args.command = "insert")
    (hf : args.file = some file) :
    Atomic files args ovsIntfs ↔
      (∀ port, ovsIntfs.find args.interface = some port → port.moduleData = none) ∨
        ∃ bytes, files file = some bytes ∧ 128 ≤ bytes.length := by
  have hrun : pmdUnixctlSim files args ovsIntfs =
      simReply (pmdSimInsert files args.interface file ovsIntfs) := by
    unfold pmdUnixctlSim
    rw [hf]
    exact if_pos hc
  rw [atomic_iff_of_simReply hrun]
  unfold pmdSimInsert
  cases hfind : ovsIntfs.find args.interface with
  | none =>
    constructor
    · intro _
      left
      intro port hport
      contradiction
    · intro _
      rfl
  | some port =>
    have hmodule : (∀ port', some port = some port' → port'.moduleData = none) ↔
        port.moduleData = none := by simp
    rw [hmodule]
    cases hfile : files file with
    | none =>
      have hkeeps := set_moduleData_none_eq_self_iff hfind
      simpa [Keeps] using hkeeps
    | some bytes =>
      by_cases hlen : 128 ≤ bytes.length
      · obtain ⟨page, hpage, hbytes⟩ := exists_freadPage hlen
        simp only [hpage]
        constructor
        · intro _
          exact .inr ⟨bytes, rfl, hlen⟩
        · intro _
          exact ⟨port, some page, hfind,
            .inl ⟨hc, file, bytes, page, hf, hfile, rfl, hbytes⟩, rfl⟩
      · have hkeeps := set_moduleData_none_eq_self_iff hfind
        simp only [freadPage_of_lt (Nat.not_le.mp hlen)]
        simpa [Keeps, hlen] using hkeeps

end Replies

/-- For all ports, arguments and files, the command is answered once and truly exactly if it is
well-formed and does not lose a module to a file that holds no page. -/
theorem atomic_iff (files : Files) (args : SimArgs) (ovsIntfs : Shash String PmPort) :
    Atomic files args ovsIntfs ↔ Harmless files args ovsIntfs := by
  unfold Harmless
  cases hf : args.file with
  | none =>
    by_cases hc : args.command = "remove"
    · exact ⟨fun _ => .inl ⟨hc, rfl⟩, fun _ => atomic_remove hc hf⟩
    · have hnot : ¬Atomic files args ovsIntfs := by
        apply not_atomic_of_invalid
        · intro _
          exact hc
        · intro file hfile
          exact absurd (hf.symm.trans hfile) (by simp)
      simp [hnot, hc]
  | some file =>
    by_cases hc : args.command = "insert"
    · rw [atomic_insert_iff hc hf]
      simp [hc]
    · have hnot : ¬Atomic files args ovsIntfs := by
        apply not_atomic_of_invalid
        · intro hnone
          exact absurd (hf.symm.trans hnone) (by simp)
        · intro _ _
          exact hc
      simp [hnot, hc]

/-- Inserting from a file that cannot be opened takes the old module out. -/
theorem not_atomic_missing_file :
    ¬Atomic (fun _ => none) ⟨"1", "insert", some "missing"⟩
      [("1", { Switch.port1 with moduleData := some Switch.lr4Page })] := by
  rintro ⟨reply, hreply, hkeeps⟩
  have herror : reply = .error "Can't open file" := (List.singleton_inj.mp hreply).symm
  subst herror
  have hmodule := congrArg (List.map fun node => node.2.moduleData.isSome) hkeeps
  revert hmodule
  decide

end OpsPmd
