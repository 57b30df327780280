import OpsPmd.Lib.Text

/-!
# Listings

A listing is a text of lines. Some of the lines are titles, each of which opens a block, and the
lines below it are the entries of the block. A listing can be read back if titles and entries
can be told apart and no line has a newline in it.
-/

namespace OpsPmd.Lib

/-- The lines as a text, each ended by a newline. -/
def unlines (ls : List Text) : Text := ls.flatMap fun l => l ++ ['\n']

/-- The lines of a text. What follows the last newline is not a line. -/
def readLines (s : Text) : List Text := (s.splitOn '\n').dropLast

@[simp] lemma unlines_nil : unlines [] = [] := rfl

lemma unlines_cons (l : Text) (ls : List Text) : unlines (l :: ls) = l ++ '\n' :: unlines ls := by
  simp [unlines]

lemma unlines_append (ls ls' : List Text) : unlines (ls ++ ls') = unlines ls ++ unlines ls' :=
  List.flatMap_append

lemma unlines_eq_intercalate (ls : List Text) :
    unlines ls = ['\n'].intercalate (ls ++ [[]]) := by
  induction ls with
  | nil => simp
  | cons l ls ih =>
    rw [unlines_cons, ih]
    cases ls with
    | nil => simp [List.intercalate_cons_cons]
    | cons l' ls => simp [List.intercalate_cons_cons]

theorem readLines_unlines {ls : List Text} (h : ∀ l ∈ ls, '\n' ∉ l) :
    readLines (unlines ls) = ls := by
  have hall : ∀ l ∈ ls ++ [[]], '\n' ∉ l := by
    intro l hl
    rcases List.mem_append.mp hl with hl | hl
    · exact h l hl
    · rw [List.mem_singleton.mp hl]
      exact List.not_mem_nil
  unfold readLines
  rw [unlines_eq_intercalate, List.splitOn_intercalate '\n' hall (by simp), List.dropLast_concat]

section Blocks

variable {τ ε : Type*} (title : τ → Text) (entry : ε → Text) (readTitle : Text → Option τ)
  (readEntry : Text → Option ε)

/-- The lines of a block. -/
def block (b : τ × List ε) : List Text := title b.1 :: b.2.map entry

/-- One line in front of a listing that has been read: the entries above its first title, and
its blocks. -/
def readLine (line : Text) (r : List ε × List (τ × List ε)) : List ε × List (τ × List ε) :=
  match readTitle line with
  | some t => ([], (t, r.1) :: r.2)
  | none => ((readEntry line).toList ++ r.1, r.2)

/-- The blocks of a listing. -/
def readBlocks (lines : List Text) : List (τ × List ε) :=
  (lines.foldr (readLine readTitle readEntry) ([], [])).2

variable {title entry readTitle readEntry}

lemma foldr_readLine_entries {es : List ε} (hnot : ∀ e ∈ es, readTitle (entry e) = none)
    (hread : ∀ e ∈ es, readEntry (entry e) = some e) (r : List ε × List (τ × List ε)) :
    (es.map entry).foldr (readLine readTitle readEntry) r = (es ++ r.1, r.2) := by
  induction es with
  | nil => rfl
  | cons e es ih =>
    have hnot' := hnot e List.mem_cons_self
    have hread' := hread e List.mem_cons_self
    rw [List.map_cons, List.foldr_cons, ih (fun e he => hnot e (List.mem_cons_of_mem _ he))
      fun e he => hread e (List.mem_cons_of_mem _ he)]
    simp [readLine, hnot', hread']

/-- The blocks are read back, whatever lines without a title stand above them. -/
theorem readBlocks_flatMap_block {preamble : List Text} {blocks : List (τ × List ε)}
    (hpre : ∀ line ∈ preamble, readTitle line = none)
    (htitle : ∀ b ∈ blocks, readTitle (title b.1) = some b.1)
    (hnot : ∀ b ∈ blocks, ∀ e ∈ b.2, readTitle (entry e) = none)
    (hread : ∀ b ∈ blocks, ∀ e ∈ b.2, readEntry (entry e) = some e) :
    readBlocks readTitle readEntry (preamble ++ blocks.flatMap (block title entry)) = blocks := by
  have hblocks : (blocks.flatMap (block title entry)).foldr (readLine readTitle readEntry)
      ([], []) = ([], blocks) := by
    clear hpre
    induction blocks with
    | nil => rfl
    | cons b blocks ih =>
      have hrest := ih (fun b hb => htitle b (List.mem_cons_of_mem _ hb))
        (fun b hb => hnot b (List.mem_cons_of_mem _ hb))
        fun b hb => hread b (List.mem_cons_of_mem _ hb)
      rw [List.flatMap_cons, List.foldr_append, hrest]
      unfold block
      rw [List.foldr_cons, foldr_readLine_entries (hnot b List.mem_cons_self)
        (hread b List.mem_cons_self)]
      simp [readLine, htitle b List.mem_cons_self]
  unfold readBlocks
  rw [List.foldr_append, hblocks]
  induction preamble with
  | nil => rfl
  | cons line preamble ih =>
    have hrest := ih fun l hl => hpre l (List.mem_cons_of_mem _ hl)
    rw [List.foldr_cons]
    unfold readLine at hrest ⊢
    rw [hpre line List.mem_cons_self]
    exact hrest

end Blocks

end OpsPmd.Lib
