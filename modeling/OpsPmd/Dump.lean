import OpsPmd.Lib.Listing
import OpsPmd.Reports
import OpsPmd.SupportedSpeeds

/-!
# The dump command

`ops-pmd/dump` prints the records as a listing, one block for each interface. The listing is
unambiguous as long as no name and no vendor text has a newline in it: what it says about each
interface can be read off, and agrees with what has been published.
-/

namespace OpsPmd

open Lib

/-- The columns that `pm_interface_dump` prints, in its order. -/
def dumpedColumns : List ModuleColumn :=
  [.cableLength, .cableTechnology, .connector, .connectorStatus, .supportedSpeeds, .maxSpeed,
    .powerMode, .vendorName, .vendorOui, .vendorPartNumber, .vendorRevision, .vendorSerialNumber]

/-- What its format strings have before the value. -/
def dumpLabel : ModuleColumn → String
  | .cableLength => "    cable_length           = "
  | .cableTechnology => "    cable_technology       = "
  | .connector => "    connector              = "
  | .connectorStatus => "    connector_status       = "
  | .supportedSpeeds => "    supported_speeds       = "
  | .maxSpeed => "    max_speed              = "
  | .powerMode => "    power_mode             = "
  | .vendorName => "    vendor_name            = "
  | .vendorOui => "    vendor_oui             = "
  | .vendorPartNumber => "    vendor_part_number     = "
  | .vendorRevision => "    vendor_revision        = "
  | .vendorSerialNumber => "    vendor_serial_number   = "
  | .a0 | .a0Uppers | .a2 => ""

/-- `pm_interface_dump` -/
def pmInterfaceDump (port : PmPort) : Text :=
  "Pluggable info for Interface ".toList ++ port.inst.toList ++ ":\n".toList ++
    dumpedColumns.flatMap fun column =>
      match port.ovsModuleColumns column with
      | some value => (dumpLabel column).toList ++ value ++ "\n".toList
      | none => []

/-- `pm_interfaces_dump` -/
def pmInterfacesDump (intfs : Shash String PmPort) (argv : List String) : Text :=
  match argv with
  | _ :: _ :: name :: _ =>
    match intfs.find name with
    | some port => pmInterfaceDump port
    | none => []
  | _ =>
    "================ Interfaces ================\n".toList ++
      intfs.flatMap fun node : String × PmPort => pmInterfaceDump node.2

/-- `pm_debug_dump`, which is all that `pmd_unixctl_dump` replies. -/
def pmDebugDump (intfs : Shash String PmPort) (argv : List String) : Text :=
  match argv with
  | _ :: tableName :: _ =>
    if tableName = "interface" then pmInterfacesDump intfs argv else []
  | _ => pmInterfacesDump intfs []

/-! ## Reading a dump -/

/-- The line above the columns of an interface. -/
def dumpTitle (name : Text) : Text := "Pluggable info for Interface ".toList ++ name ++ [':']

def dumpEntry (entry : ModuleColumn × Text) : Text := (dumpLabel entry.1).toList ++ entry.2

def readDumpTitle (line : Text) : Option Text :=
  if "Pluggable info for Interface ".toList.isPrefixOf line then
    some (line.drop "Pluggable info for Interface ".length).dropLast
  else none

def readDumpEntry (line : Text) : Option (ModuleColumn × Text) :=
  (dumpedColumns.find? fun column => (dumpLabel column).toList.isPrefixOf line).map fun column =>
    (column, line.drop (dumpLabel column).length)

/-- The interfaces of a dump, and what it says about each. -/
def readDump (text : Text) : List (Text × List (ModuleColumn × Text)) :=
  readBlocks readDumpTitle readDumpEntry (readLines text)

/-- What there is to say about a port. -/
def PmPort.shown (port : PmPort) : List (ModuleColumn × Text) :=
  dumpedColumns.filterMap fun column => (port.ovsModuleColumns column).map (column, ·)

/-- The nodes that a command line asks for. -/
def asked (argv : List String) (intfs : Shash String PmPort) : Shash String PmPort :=
  match argv with
  | _ :: tableName :: name :: _ =>
    if tableName = "interface" then intfs.filter fun node => node.1 = name else []
  | [_, tableName] => if tableName = "interface" then intfs else []
  | _ => intfs

lemma readDumpTitle_dumpTitle (name : Text) : readDumpTitle (dumpTitle name) = some name := by
  unfold readDumpTitle dumpTitle
  rw [List.append_assoc, if_pos (by simp), ← String.length_toList, List.drop_left,
    List.dropLast_concat]

/-- Entries start with a space, and titles do not. -/
lemma readDumpTitle_dumpEntry {entry : ModuleColumn × Text} (h : entry.1 ∈ dumpedColumns) :
    readDumpTitle (dumpEntry entry) = none := by
  have hspace : ∀ column ∈ dumpedColumns, ∃ rest, (dumpLabel column).toList = ' ' :: rest := by
    intro column hcolumn
    have hhead : (dumpLabel column).toList.head? = some ' ' := by
      revert column
      decide
    exact List.head?_eq_some_iff.mp hhead
  obtain ⟨rest, hrest⟩ := hspace entry.1 h
  unfold readDumpTitle dumpEntry
  rw [hrest, if_neg]
  simp

/-- No label begins another one. -/
lemma readDumpEntry_dumpEntry {entry : ModuleColumn × Text} (h : entry.1 ∈ dumpedColumns) :
    readDumpEntry (dumpEntry entry) = some entry := by
  have hlength : ∀ column ∈ dumpedColumns, (dumpLabel column).toList.length = 29 := by decide
  have hinj : ∀ column ∈ dumpedColumns, ∀ other ∈ dumpedColumns,
      (dumpLabel other).toList = (dumpLabel column).toList → other = column := by decide
  have honly : ∀ other ∈ dumpedColumns,
      (dumpLabel other).toList.isPrefixOf (dumpEntry entry) = true → other = entry.1 := by
    intro other hother hprefix
    refine hinj entry.1 h other hother ?_
    apply List.IsPrefix.eq_of_length
    · exact List.prefix_of_prefix_length_le (List.isPrefixOf_iff_prefix.mp hprefix)
        (List.prefix_append _ _) (by rw [hlength other hother, hlength entry.1 h])
    · rw [hlength other hother, hlength entry.1 h]
  have hfind : dumpedColumns.find? (fun column =>
      (dumpLabel column).toList.isPrefixOf (dumpEntry entry)) = some entry.1 := by
    cases hf : dumpedColumns.find? (fun column =>
        (dumpLabel column).toList.isPrefixOf (dumpEntry entry)) with
    | none => exact absurd (by simp [dumpEntry]) (List.find?_eq_none.mp hf entry.1 h)
    | some other =>
      have hprefix := List.find?_some
        (p := fun column => (dumpLabel column).toList.isPrefixOf (dumpEntry entry)) hf
      rw [honly other (List.mem_of_find?_eq_some hf) hprefix]
  unfold readDumpEntry
  rw [hfind, Option.map_some]
  unfold dumpEntry
  rw [← String.length_toList, List.drop_left]

lemma pmInterfaceDump_eq (port : PmPort) :
    pmInterfaceDump port = unlines (block dumpTitle dumpEntry (port.inst.toList, port.shown)) := by
  have hcolumns : ∀ columns : List ModuleColumn,
      unlines ((columns.filterMap fun column =>
        (port.ovsModuleColumns column).map (column, ·)).map dumpEntry) =
      columns.flatMap fun column =>
        match port.ovsModuleColumns column with
        | some value => (dumpLabel column).toList ++ value ++ "\n".toList
        | none => [] := by
    intro columns
    induction columns with
    | nil => rfl
    | cons column columns ih =>
      rw [List.flatMap_cons, ← ih, List.filterMap_cons]
      cases port.ovsModuleColumns column with
      | none => rfl
      | some value =>
        show unlines (((dumpLabel column).toList ++ value) :: _) = _
        rw [unlines_cons]
        simp
  unfold block pmInterfaceDump
  rw [unlines_cons]
  show _ = dumpTitle port.inst.toList ++ '\n' :: unlines (port.shown.map dumpEntry)
  unfold PmPort.shown dumpTitle
  rw [hcolumns]
  simp

/-- The whole text as lines. -/
lemma pmInterfacesDump_eq (ports : Shash String PmPort) :
    (ports.flatMap fun node : String × PmPort => pmInterfaceDump node.2) =
      unlines (ports.flatMap fun node : String × PmPort =>
        block dumpTitle dumpEntry (node.2.inst.toList, node.2.shown)) := by
  induction ports with
  | nil => rfl
  | cons node ports ih =>
    rw [List.flatMap_cons, ih, pmInterfaceDump_eq, List.flatMap_cons, unlines_append]

/-- Everything that goes into the lines about a port is without newlines. -/
structure PmPort.OneLine (port : PmPort) : Prop where
  inst : '\n' ∉ port.inst.toList
  columns : ∀ column ∈ dumpedColumns, ∀ value, port.ovsModuleColumns column = some value →
    '\n' ∉ value

lemma mem_dumpedColumns_of_shown {port : PmPort} {entry : ModuleColumn × Text}
    (h : entry ∈ port.shown) :
    entry.1 ∈ dumpedColumns ∧ port.ovsModuleColumns entry.1 = some entry.2 := by
  obtain ⟨column, hcolumn, hentry⟩ := List.mem_filterMap.mp h
  obtain ⟨value, hvalue, rfl⟩ := Option.map_eq_some_iff.mp hentry
  exact ⟨hcolumn, hvalue⟩

lemma newline_not_mem_block {port : PmPort} (h : port.OneLine) {line : Text}
    (hline : line ∈ block dumpTitle dumpEntry (port.inst.toList, port.shown)) : '\n' ∉ line := by
  have htitle : '\n' ∉ "Pluggable info for Interface ".toList := by decide
  have hlabel : ∀ column ∈ dumpedColumns, '\n' ∉ (dumpLabel column).toList := by decide
  rcases List.mem_cons.mp hline with rfl | hline
  · unfold dumpTitle
    simp only [List.mem_append, List.mem_singleton]
    rintro ((hmem | hmem) | hmem)
    · exact htitle hmem
    · exact h.inst hmem
    · contradiction
  · obtain ⟨entry, hentry, rfl⟩ := List.mem_map.mp hline
    obtain ⟨hcolumn, hvalue⟩ := mem_dumpedColumns_of_shown hentry
    intro hmem
    rcases List.mem_append.mp hmem with hmem | hmem
    · exact hlabel entry.1 hcolumn hmem
    · exact h.columns entry.1 hcolumn entry.2 hvalue hmem

/-- Reading back the blocks of some ports, below some lines without titles. -/
lemma readDump_blocks {ports : Shash String PmPort} (h : ∀ node ∈ ports, node.2.OneLine)
    {preamble : List Text} (htitle : ∀ line ∈ preamble, readDumpTitle line = none)
    (hnewline : ∀ line ∈ preamble, '\n' ∉ line) :
    readDump (unlines preamble ++
        ports.flatMap fun node : String × PmPort => pmInterfaceDump node.2) =
      ports.map fun node => (node.2.inst.toList, node.2.shown) := by
  have hflat : (ports.flatMap fun node : String × PmPort =>
      block dumpTitle dumpEntry (node.2.inst.toList, node.2.shown)) =
      (ports.map fun node : String × PmPort => (node.2.inst.toList, node.2.shown)).flatMap
        (block dumpTitle dumpEntry) := (List.flatMap_map _ _ _).symm
  have hentry : ∀ b ∈ ports.map fun node : String × PmPort =>
      (node.2.inst.toList, node.2.shown), ∀ entry ∈ b.2, entry.1 ∈ dumpedColumns := by
    intro b hb entry hmem
    obtain ⟨node, -, rfl⟩ := List.mem_map.mp hb
    exact (mem_dumpedColumns_of_shown hmem).1
  unfold readDump
  rw [pmInterfacesDump_eq, ← unlines_append, readLines_unlines, hflat]
  · apply readBlocks_flatMap_block htitle
    · exact fun b _ => readDumpTitle_dumpTitle b.1
    · exact fun b hb entry hmem => readDumpTitle_dumpEntry (hentry b hb entry hmem)
    · exact fun b hb entry hmem => readDumpEntry_dumpEntry (hentry b hb entry hmem)
  · intro line hline
    rcases List.mem_append.mp hline with hline | hline
    · exact hnewline line hline
    · obtain ⟨node, hnode, hline⟩ := List.mem_flatMap.mp hline
      exact newline_not_mem_block (h node hnode) hline

@[simp] lemma readDump_nil : readDump [] = [] := rfl

section Table

variable {replica : Replica} {intfs : Shash String PmPort} (htable : TableInv replica intfs)
  (hone : ∀ node ∈ intfs, node.2.OneLine)
include htable hone

lemma readDump_all : readDump (pmInterfacesDump intfs []) =
    intfs.map fun node => (node.1.toList, node.2.shown) := by
  have htext : pmInterfacesDump intfs [] =
      unlines ["================ Interfaces ================".toList] ++
        intfs.flatMap fun node : String × PmPort => pmInterfaceDump node.2 := by
    have hheader : "================ Interfaces ================\n".toList =
        unlines ["================ Interfaces ================".toList] := by decide
    rw [← hheader]
    rfl
  have htitle : ∀ line ∈ ["================ Interfaces ================".toList],
      readDumpTitle line = none := by decide
  have hnewline : ∀ line ∈ ["================ Interfaces ================".toList],
      '\n' ∉ line := by decide
  rw [htext, readDump_blocks hone htitle hnewline]
  refine List.map_congr_left fun node hnode => ?_
  rw [htable.inst node.1 node.2 hnode]

lemma readDump_named (command tableName name : String) (rest : List String) :
    readDump (pmInterfacesDump intfs (command :: tableName :: name :: rest)) =
      (intfs.filter fun node => node.1 = name).map fun node => (node.1.toList, node.2.shown) := by
  rw [Shash.filter_eq_find htable.nodup]
  unfold pmInterfacesDump
  dsimp only
  cases hf : intfs.find name with
  | none => exact readDump_nil
  | some port =>
    have hmem := Shash.mem_of_find_eq_some hf
    have hone' : ∀ node ∈ [(name, port)], node.2.OneLine := by
      intro node hnode
      rw [List.mem_singleton.mp hnode]
      exact hone (name, port) hmem
    have hread := readDump_blocks hone' (List.forall_mem_nil _) (List.forall_mem_nil _)
    rw [List.flatMap_singleton, unlines_nil, List.nil_append, List.map_singleton,
      htable.inst name port hmem] at hread
    exact hread

/-- What a dump says is what the records of the interfaces asked for hold. -/
theorem readDump_pmDebugDump (argv : List String) :
    readDump (pmDebugDump intfs argv) =
      (asked argv intfs).map fun node => (node.1.toList, node.2.shown) := by
  have hall := readDump_all htable hone
  have hshort : ∀ command tableName,
      pmInterfacesDump intfs [command, tableName] = pmInterfacesDump intfs [] := fun _ _ => rfl
  match argv with
  | [] => exact hall
  | [_] => exact hall
  | [command, tableName] =>
    unfold pmDebugDump asked
    dsimp only
    split
    · rw [hshort]
      exact hall
    · exact readDump_nil
  | command :: tableName :: name :: rest =>
    unfold pmDebugDump asked
    dsimp only
    split
    · exact readDump_named htable hone command tableName name rest
    · exact readDump_nil

end Table

/-- The columns that are texts of the module itself. -/
def vendorColumns : List ModuleColumn :=
  [.vendorName, .vendorPartNumber, .vendorRevision, .vendorSerialNumber]

/-- The columns that the daemon words itself have no newlines in them. -/
def PmPort.Tidy (port : PmPort) : Prop :=
  ∀ column ∈ dumpedColumns, column ∉ vendorColumns →
    ∀ value, port.ovsModuleColumns column = some value → '\n' ∉ value

section Tidy

variable {fl : FloatArith}

/-- The macro call writes no newline to such a column. -/
def Stmt.Tidy : Stmt fl → Prop
  | .setStaticString _ value => '\n' ∉ value
  | .setString field value => field ∈ vendorColumns ∨ '\n' ∉ value
  | .setBinary field _ => field ∉ dumpedColumns
  | _ => True

def TidyAll (stmts : List (Stmt fl)) : Prop := ∀ stmt ∈ stmts, stmt.Tidy

lemma newline_not_mem_decimal (n : Int) : '\n' ∉ decimal n := by
  intro hmem
  rcases isDigit_of_mem_decimal hmem with h | h
  · contradiction
  · contradiction

lemma newline_not_mem_joinSpeeds {speeds : List Int} {text : Text}
    (h : joinSpeeds speeds = some text) : '\n' ∉ text := by
  induction speeds using List.reverseRecOn generalizing text with
  | nil => contradiction
  | append_singleton speeds speed ih =>
    rw [joinSpeeds_concat] at h
    obtain rfl := Option.some.inj h
    have hfirst : '\n' ∉ (joinSpeeds speeds).getD [] := by
      cases hj : joinSpeeds speeds with
      | none => exact List.not_mem_nil
      | some text => exact ih hj
    have hsep : '\n' ∉ (if speeds.length = 0 then [] else " ".toList : Text) := by
      split
      · exact List.not_mem_nil
      · decide
    simp only [List.mem_append, hfirst, hsep, newline_not_mem_decimal, or_self, not_false_eq_true]

lemma newline_not_mem_pmOuiFormat (oui : List UInt8) : '\n' ∉ pmOuiFormat oui := by
  have hdigit : ∀ d : Fin 16, Nat.digitChar d ≠ '\n' := by decide
  have hhex : ∀ b : UInt8, '\n' ∉ hex02 b := by
    intro b hmem
    have hb := b.toNat_lt
    rcases List.mem_cons.mp hmem with h | h
    · exact hdigit ⟨b.toNat / 16, by omega⟩ h.symm
    · exact hdigit ⟨b.toNat % 16, by omega⟩ (List.mem_singleton.mp h).symm
  have hdash : '\n' ∉ "-".toList := by decide
  unfold pmOuiFormat
  simp only [List.mem_append, hhex, hdash, or_self, not_false_eq_true]

lemma PmPort.Tidy.setColumn {port : PmPort} (h : port.Tidy) {field : ModuleColumn}
    {value : Option Text} (hvalue : field ∈ dumpedColumns → field ∉ vendorColumns →
      ∀ text, value = some text → '\n' ∉ text) : (port.setColumn field value).Tidy := by
  intro column hcolumn hvendor text htext
  by_cases hc : column = field
  · subst hc
    have hset : (port.setColumn column value).ovsModuleColumns column = value :=
      Function.update_self _ _ _
    exact hvalue hcolumn hvendor text (hset.symm.trans htext)
  · have hset : (port.setColumn field value).ovsModuleColumns column =
        port.ovsModuleColumns column := Function.update_of_ne hc _ _
    exact h column hcolumn hvendor text (hset.symm.trans htext)

lemma PmPort.Tidy.apply {port : PmPort} (h : port.Tidy) {stmt : Stmt fl} (hstmt : stmt.Tidy) :
    (stmt.apply port).Tidy := by
  have hsome : ∀ {field : ModuleColumn} {value : Text}, field ∈ vendorColumns ∨ '\n' ∉ value →
      (port.setColumn field (some value)).Tidy := by
    intro field value hor
    refine h.setColumn fun _ hvendor text htext => ?_
    rw [← Option.some.inj htext]
    exact hor.resolve_left hvendor
  have hdelete : ∀ field, (port.deleteColumn field).Tidy := by
    intro field
    unfold PmPort.deleteColumn
    split
    · exact h.setColumn nofun
    · exact h
  cases stmt with
  | flag flag value =>
    cases flag with
    | present => exact h
    | retry => exact h
    | a2ReadRequested => exact h
    | optical => exact h
  | setStaticString field value => exact hsome (.inr hstmt)
  | setSupportedSpeeds speeds =>
    exact h.setColumn fun _ _ text htext => newline_not_mem_joinSpeeds htext
  | setBinary field value => exact h.setColumn fun hcolumn => absurd hcolumn hstmt
  | setString field value =>
    show (if _ then _ else _ : PmPort).Tidy
    split
    · exact hsome hstmt
    · exact h
  | setIntString field value =>
    show (if _ then _ else _ : PmPort).Tidy
    split
    · exact hsome (.inr (newline_not_mem_decimal value))
    · exact h
  | delete field => exact hdelete field
  | deleteFree field => exact hdelete field
  | setFloatString field value =>
    show (if _ then _ else _ : PmPort).Tidy
    split
    · exact h
    · exact h
  | setFlagString field value =>
    show (if _ then _ else _ : PmPort).Tidy
    split
    · exact h
    · exact h

lemma PmPort.Tidy.applyAll {port : PmPort} (h : port.Tidy) {stmts : List (Stmt fl)}
    (hstmts : TidyAll stmts) : (applyAll port stmts).Tidy :=
  foldl_invariant (I := PmPort.Tidy) (fun _ stmt hmem hI => hI.apply (hstmts stmt hmem)) h

lemma tidyAll_append {xs ys : List (Stmt fl)} (hx : TidyAll xs) (hy : TidyAll ys) :
    TidyAll (xs ++ ys) := by
  intro stmt hmem
  rcases List.mem_append.mp hmem with h | h
  · exact hx stmt h
  · exact hy stmt h

lemma tidyAll_classifyScript (optical : Bool) {connector status : Text}
    (hconnector : '\n' ∉ connector) (hstatus : '\n' ∉ status) (speed : Int) :
    TidyAll (classifyScript fl optical connector status speed) := by
  simp [TidyAll, classifyScript, Stmt.Tidy, hconnector, hstatus]

lemma tidyAll_moduleScript (optical : Bool) {connector status : Text}
    (hconnector : '\n' ∉ connector) (hstatus : '\n' ∉ status) (speed : Int) :
    TidyAll (moduleScript fl optical connector status speed) := by
  apply tidyAll_append (tidyAll_classifyScript optical hconnector hstatus speed)
  simp [TidyAll, deleteCableScript, Stmt.Tidy]

lemma tidyAll_sfpPlusScript (page : Page) : TidyAll (sfpPlusScript fl page) := by
  unfold sfpPlusScript
  dsimp only
  split
  · apply tidyAll_append (tidyAll_classifyScript _ (by decide) (by decide) _)
    simp only [TidyAll, List.forall_mem_cons, List.not_mem_nil, false_implies, implies_true,
      and_true, Stmt.Tidy]
    split
    · decide
    · decide
  repeat' split
  all_goals exact tidyAll_moduleScript _ (by decide) (by decide) _

lemma tidyAll_qsfpPlusScript (page : Page) : TidyAll (qsfpPlusScript fl page) := by
  unfold qsfpPlusScript
  dsimp only
  repeat' split
  all_goals exact tidyAll_moduleScript _ (by decide) (by decide) _

lemma tidyAll_qsfp28Script (page : Page) : TidyAll (qsfp28Script fl page) := by
  unfold qsfp28Script
  dsimp only
  repeat' split
  all_goals exact tidyAll_moduleScript _ (by decide) (by decide) _

lemma tidyAll_fillSfpPlusScript (page : Page) : TidyAll (fillSfpPlusScript fl page) := by
  simp [TidyAll, fillSfpPlusScript, Stmt.Tidy, vendorColumns, dumpedColumns]

lemma tidyAll_fillQsfpScript (page : Page) : TidyAll (fillQsfpScript fl page) := by
  simp [TidyAll, fillQsfpScript, Stmt.Tidy, vendorColumns, dumpedColumns,
    newline_not_mem_pmOuiFormat]

/-- Nothing that the parser words itself has a newline in it. -/
theorem tidyAll_parseScript (page : Page) (device : YamlPort) :
    TidyAll (parseScript fl page device).2.1 := by
  have hdeleteAll : TidyAll (deleteAllDataScript fl) := by
    simp [TidyAll, deleteAllDataScript, Stmt.Tidy]
  have hunknown : '\n' ∉ OvsrecInterfacePmInfo.connectorUnknown := by decide
  unfold parseScript
  dsimp only
  repeat' split
  · exact List.forall_mem_nil _
  · exact List.forall_mem_nil _
  · apply tidyAll_append hdeleteAll
    simp [TidyAll, Stmt.Tidy, hunknown]
  · exact tidyAll_append (tidyAll_sfpPlusScript _) (tidyAll_fillSfpPlusScript _)
  · exact tidyAll_append (tidyAll_qsfpPlusScript _) (tidyAll_fillQsfpScript _)
  · exact tidyAll_append (tidyAll_qsfp28Script _) (tidyAll_fillQsfpScript _)

end Tidy

lemma tidy_identified {port : PmPort} (h : port.Tidy) (page : Page) :
    (identified page port).Tidy := by
  have hrequest : TidyAll (a2RequestScript Switch.hundredths port.moduleDevice
      (parseScript Switch.hundredths page port.moduleDevice).2.2) := by
    unfold a2RequestScript
    split
    · simp [TidyAll, Stmt.Tidy]
    · exact List.forall_mem_nil _
  rw [identified_eq_applyAll Switch.hundredths]
  apply h.applyAll
  refine tidyAll_append (tidyAll_append (tidyAll_parseScript page port.moduleDevice) ?_) hrequest
  simp [TidyAll, Stmt.Tidy]

lemma FollowsHistory.tidy {port : PmPort} {h : History} (hf : FollowsHistory port h) :
    port.Tidy := by
  have hblank : port.blank.Tidy := nofun
  cases hf with
  | unread hport =>
    rw [hport]
    exact hblank
  | unreported page hk hport =>
    rw [hport]
    exact tidy_identified hblank page
  | reported page committed hk hport =>
    rw [hport]
    exact tidy_identified hblank page

/-- No interface name and no vendor text has a newline in it. -/
def NoNewlines (intfs : Shash String PmPort) : Prop :=
  ∀ node ∈ intfs, '\n' ∉ node.1.toList ∧
    ∀ column ∈ vendorColumns, ∀ value ∈ node.2.ovsModuleColumns column, '\n' ∉ value

lemma oneLine_of_noNewlines {replica : Replica} {s : Pmd} (htable : TableInv replica s.ovsIntfs)
    (hrecords : Records FollowsHistory s) (hlines : NoNewlines s.ovsIntfs) :
    ∀ node ∈ s.ovsIntfs, node.2.OneLine := by
  rintro ⟨name, port⟩ hmem
  obtain ⟨hname, hvendor⟩ := hlines (name, port) hmem
  refine ⟨?_, fun column hcolumn => ?_⟩
  · rw [htable.inst name port hmem]
    exact hname
  · by_cases hc : column ∈ vendorColumns
    · exact hvendor column hc
    · exact (hrecords name port hmem).tidy column hcolumn hc

/-- On hardware, in every state that the daemon can get to, whatever a command line asks for is
printed such that it can be read back, unless there are newlines in names or vendor texts. -/
theorem readDump_of_reachable (pf : Platform) (hhw : pf.simulation = false) {w : World}
    (hw : Reachable pf w) (hlines : NoNewlines w.pmd.ovsIntfs) (argv : List String) :
    readDump (pmDebugDump w.pmd.ovsIntfs argv) =
      (asked argv w.pmd.ovsIntfs).map fun node => (node.1.toList, node.2.shown) :=
  readDump_pmDebugDump hw.synced.table
    (oneLine_of_noNewlines hw.synced.table (hw.followsHistory hhw) hlines) argv

/-- A module has been read, and the command asks for its interface. -/
theorem readDump_of_reachable_read :
    readDump (pmDebugDump (run (World.step Switch.platform)
        (World.start Switch.platform Switch.reads 0)
        [.reconfigure Switch.reads (Switch.idlOf (Switch.intf "1" 1 "true") 1),
          .readState (fun _ => Switch.hwOf Switch.lr4Page)]).pmd.ovsIntfs
        ["ops-pmd/dump", "interface", "1"]) =
      (asked ["ops-pmd/dump", "interface", "1"] (run (World.step Switch.platform)
        (World.start Switch.platform Switch.reads 0)
        [.reconfigure Switch.reads (Switch.idlOf (Switch.intf "1" 1 "true") 1),
          .readState (fun _ => Switch.hwOf Switch.lr4Page)]).pmd.ovsIntfs).map
        fun node => (node.1.toList, node.2.shown) := by
  apply readDump_of_reachable Switch.platform rfl
  · refine ⟨Switch.reads, 0, _, ?_, rfl⟩
    exact ⟨⟨by decide, by decide, by decide, by decide⟩, trivial, trivial⟩
  · unfold NoNewlines
    decide

/-! ## The dump and the database -/

/-- The keys under which `pm_ovsdb_update` publishes what the dump shows. -/
def publishedKey : ModuleColumn → Option String
  | .connector => some "connector"
  | .connectorStatus => some "connector_status"
  | .supportedSpeeds => some "supported_speeds"
  | .maxSpeed => some "max_speed"
  | _ => none

def published (entries : List (ModuleColumn × Text)) : PmInfo :=
  entries.filterMap fun entry => (publishedKey entry.1).map (·, entry.2)

lemma published_shown (port : PmPort) :
    published port.shown = pmInfoOf port.ovsModuleColumns := by
  have hstep : (fun column => ((port.ovsModuleColumns column).map (column, ·)).bind
      fun entry => (publishedKey entry.1).map (·, entry.2)) =
      fun column => (publishedKey column).bind fun key =>
        (port.ovsModuleColumns column).map (key, ·) := by
    funext column
    cases port.ovsModuleColumns column with
    | none =>
      cases publishedKey column with
      | none => rfl
      | some key => rfl
    | some value =>
      show (publishedKey column).map (·, value) = _
      cases publishedKey column with
      | none => rfl
      | some key => rfl
  unfold published PmPort.shown
  rw [List.filterMap_filterMap, hstep]
  rfl

/-- What the dump prints for an interface of a known kind says what the database has for it. -/
def DumpAgrees (s : Server) : Prop :=
  ∀ name port, (name, port) ∈ s.world.pmd.ovsIntfs → port.moduleDevice.isKnown = true →
    ∀ command, ∃ entries, readDump (pmDebugDump s.world.pmd.ovsIntfs
      [command, "interface", name]) = [(name.toList, entries)] ∧
      s.db.pmInfo port.uuid = published entries

lemma dumpAgrees_of_commitInv {pf : Platform} {s : Server} (h : CommitInv pf s)
    (hlines : NoNewlines s.world.pmd.ovsIntfs) : DumpAgrees s := by
  intro name port hmem hk command
  have htable := h.reports.synced.table
  refine ⟨port.shown, ?_, ?_⟩
  · have hone := oneLine_of_noNewlines htable
      (fun name port hmem => (h.reports.delivered name port hmem).follows) hlines
    rw [readDump_pmDebugDump htable hone]
    show ((s.world.pmd.ovsIntfs.filter fun node => node.1 = name).map _) = _
    rw [Shash.filter_eq_find htable.nodup, (Shash.mem_iff_find htable.nodup).mp hmem]
    rfl
  · obtain ⟨page, hport, -, hdb⟩ := h.known hmem hk
    have hcolumns : (identified page port.blank).ovsModuleColumns = port.ovsModuleColumns := by
      conv_rhs => rw [hport]
    rw [hdb, published_shown, hcolumns]

/-- On hardware, after any passes that have all committed, the dump agrees with the database. -/
theorem dumpAgrees_of_passes (pf : Platform) (hhw : pf.simulation = false) (reads : YamlReads)
    (seqno : UInt32) (db : Database) {passes : List Pass}
    (hok : Along (serverStep pf) (fun s pass => pass.runs = true →
      Follows s.world.idl pass.idl ∧ pass.committed = true)
      ⟨World.start pf reads seqno, db⟩ passes)
    (hlines : NoNewlines
      (run (serverStep pf) ⟨World.start pf reads seqno, db⟩ passes).world.pmd.ovsIntfs) :
    DumpAgrees (run (serverStep pf) ⟨World.start pf reads seqno, db⟩ passes) := by
  exact dumpAgrees_of_commitInv (commitInv_of_passes hhw hok) hlines

/-- The module of a first pass that commits. -/
theorem dumpAgrees_of_passes_first :
    DumpAgrees (run (serverStep Switch.platform)
      ⟨World.start Switch.platform Switch.reads 0, ⟨fun _ => [], false⟩⟩
      [Switch.firstPass true]) := by
  apply dumpAgrees_of_passes Switch.platform rfl
  · exact ⟨fun _ => ⟨⟨by decide, by decide, by decide, by decide⟩, rfl⟩, trivial⟩
  · unfold NoNewlines
    decide

end OpsPmd
