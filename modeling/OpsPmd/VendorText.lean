import OpsPmd.SfpIdentity

/-!
# Vendor texts

The QSFP cases of `pm_parse` copy four fixed-width fields of the page, overwrite their
trailing spaces with NULs, and publish what stands before the first NUL. The loop stops at
a byte that is not a space, which may be a NUL, and it never looks at the first byte.
-/

namespace OpsPmd

open Lib

section Padding

variable {α β : Type*} {p : α → Bool}

lemma rdropWhile_cons (x : α) (xs : List α) :
    (x :: xs).rdropWhile p =
      if p x = true ∧ xs.rdropWhile p = [] then [] else x :: xs.rdropWhile p := by
  induction xs using List.reverseRecOn with
  | nil => simp [List.rdropWhile_singleton]
  | append_singleton xs y ih =>
    by_cases hy : p y = true
    · rw [← List.cons_append, List.rdropWhile_concat_pos p _ _ hy,
        List.rdropWhile_concat_pos p _ _ hy, ih]
    · rw [← List.cons_append, List.rdropWhile_concat_neg p _ _ hy,
        List.rdropWhile_concat_neg p _ _ hy, if_neg (by simp)]
      rfl

/-- Nothing in front of an element that stays is dropped. -/
lemma rdropWhile_append_cons {y : α} (hy : ¬p y = true) (xs ys : List α) :
    (xs ++ y :: ys).rdropWhile p = xs ++ y :: ys.rdropWhile p := by
  induction xs with
  | nil => rw [List.nil_append, rdropWhile_cons, if_neg fun h => hy h.1, List.nil_append]
  | cons x xs ih => rw [List.cons_append, rdropWhile_cons, ih, if_neg (by simp), List.cons_append]

lemma rdropWhile_map (p : β → Bool) (f : α → β) (xs : List α) :
    (xs.map f).rdropWhile p = (xs.rdropWhile (p ∘ f)).map f := by
  unfold List.rdropWhile
  rw [← List.map_reverse, List.dropWhile_map, List.map_reverse]

end Padding

lemma toNat_charOfByte (b : UInt8) : (charOfByte b).toNat = b.toNat := by
  have hb := b.toNat_lt
  have hvalid : b.toNat.isValidChar := .inl (by omega)
  unfold charOfByte Char.ofNat
  rw [dif_pos hvalid]
  rfl

lemma charOfByte_injective : Function.Injective charOfByte := by
  intro b b' h
  apply UInt8.toNat_inj.mp
  rw [← toNat_charOfByte, ← toNat_charOfByte, h]

lemma charOfByte_eq_space (b : UInt8) : charOfByte b = ' ' ↔ b = space :=
  charOfByte_injective.eq_iff' rfl

lemma cstring_append_nul (field rest : List UInt8) :
    cstring (field ++ 0 :: rest) = cstring field := by
  unfold cstring
  induction field with
  | nil => rfl
  | cons b field ih =>
    by_cases hb : b = 0
    · subst hb
      rfl
    · simpa [hb] using ih

lemma ne_nul_of_not_mem {field : List UInt8} (h : 0 ∉ field) :
    ∀ b ∈ field, decide (b ≠ 0) = true := by
  intro b hb
  apply decide_eq_true
  rintro rfl
  exact h hb

lemma cstring_of_not_mem {field : List UInt8} (h : 0 ∉ field) :
    cstring field = field.map charOfByte := by
  unfold cstring
  rw [List.takeWhile_eq_self_iff.mpr (ne_nul_of_not_mem h)]

def dropSpaces (field : List UInt8) : List UInt8 := field.rdropWhile (· = space)

lemma dropSpaces_concat_space (field : List UInt8) :
    dropSpaces (field ++ [space]) = dropSpaces field :=
  List.rdropWhile_concat_pos _ field space (by simp)

lemma dropSpaces_concat {b : UInt8} (h : b ≠ space) (field : List UInt8) :
    dropSpaces (field ++ [b]) = field ++ [b] :=
  List.rdropWhile_concat_neg _ field b (by simpa using h)

lemma dropSpaces_append_nul (field rest : List UInt8) :
    dropSpaces (field ++ 0 :: rest) = field ++ 0 :: dropSpaces rest :=
  rdropWhile_append_cons (by decide) field rest

lemma dropSpaces_prefix_self (field : List UInt8) : dropSpaces field <+: field :=
  List.rdropWhile_prefix _ field

lemma dropSpaces_eq_nil_iff {field : List UInt8} :
    dropSpaces field = [] ↔ ∀ b ∈ field, b = space := by
  unfold dropSpaces
  simp

lemma dropSpaces_eq_self_iff {field : List UInt8} :
    dropSpaces field = field ↔ field.getLast? ≠ some space := by
  induction field using List.reverseRecOn with
  | nil => simp [dropSpaces]
  | append_singleton field b _ =>
    rw [List.getLast?_concat]
    by_cases hb : b = space
    · subst hb
      have hshort := (dropSpaces_prefix_self field).length_le
      rw [dropSpaces_concat_space]
      constructor
      · intro h
        rw [h, List.length_append, List.length_singleton] at hshort
        omega
      · intro h
        exact absurd rfl h
    · simp [dropSpaces_concat hb, hb]

/-- The first byte stays unless all bytes are spaces. -/
lemma cons_dropSpaces_eq_iff {b : UInt8} {field : List UInt8} :
    b :: dropSpaces field = dropSpaces (b :: field) ↔ ∃ b' ∈ b :: field, b' ≠ space := by
  by_cases hall : ∀ b' ∈ b :: field, b' = space
  · rw [dropSpaces_eq_nil_iff.mpr hall]
    constructor
    · intro h
      contradiction
    · rintro ⟨b', hb', hne⟩
      exact absurd (hall b' hb') hne
  · have hfirst : ¬(decide (b = space) = true ∧ dropSpaces field = []) := by
      rintro ⟨hb, hrest⟩
      have hb' : b = space := of_decide_eq_true hb
      have hrest' := dropSpaces_eq_nil_iff.mp hrest
      exact hall (List.forall_mem_cons.mpr ⟨hb', hrest'⟩)
    have hcons : dropSpaces (b :: field) = b :: dropSpaces field :=
      (rdropWhile_cons b field).trans (if_neg hfirst)
    rw [hcons]
    push Not at hall
    exact ⟨fun _ => hall, fun _ => rfl⟩

/-- Bytes and characters lose the same spaces. -/
lemma rdropWhile_map_charOfByte (field : List UInt8) :
    (field.map charOfByte).rdropWhile (· = ' ') = (dropSpaces field).map charOfByte := by
  have hcomp : (fun c : Char => decide (c = ' ')) ∘ charOfByte = fun b => decide (b = space) := by
    funext b
    simp only [Function.comp_apply, charOfByte_eq_space]
  rw [rdropWhile_map, hcomp]
  rfl

/-- From the end of a buffer in front of a NUL, the loop drops the spaces behind the first
byte. -/
lemma cstring_stripSpaces (b : UInt8) (field rest : List UInt8) :
    cstring (stripSpaces (b :: field ++ 0 :: rest) field.length) =
      cstring (b :: dropSpaces field) := by
  induction field using List.reverseRecOn generalizing rest with
  | nil => exact cstring_append_nul [b] rest
  | append_singleton field c ih =>
    have hget : (b :: (field ++ [c]) ++ 0 :: rest)[field.length + 1]? = some c := by simp
    rw [List.length_append, List.length_singleton, stripSpaces, hget]
    by_cases hc : c = space
    · subst hc
      have hset : (b :: (field ++ [space]) ++ 0 :: rest).set (field.length + 1) 0 =
          b :: field ++ 0 :: 0 :: rest := by simp
      rw [if_pos rfl, hset, ih, dropSpaces_concat_space]
    · rw [if_neg fun h => hc (Option.some.inj h), cstring_append_nul, dropSpaces_concat hc]

/-- What is published of a field: the first byte is kept even if it is a space. -/
theorem vendorText_cons (b : UInt8) (field : List UInt8) :
    vendorText (b :: field) = cstring (b :: dropSpaces field) :=
  cstring_stripSpaces b field []

/-- No space stands right before the first NUL of the field, and a field without a NUL has a
byte that is not a space. -/
structure Strippable (field : List UInt8) : Prop where
  nul : 0 ∈ field → (field.takeWhile (· ≠ 0)).getLast? ≠ some space
  full : 0 ∉ field → ∃ b ∈ field, b ≠ space

lemma map_charOfByte_inj {field field' : List UInt8} :
    field.map charOfByte = field'.map charOfByte ↔ field = field' :=
  (List.map_injective_iff.mpr charOfByte_injective).eq_iff

lemma getLast?_fieldText (field : List UInt8) : (fieldText field).getLast? ≠ some ' ' := by
  intro h
  obtain ⟨hne, hlast⟩ := List.mem_getLast?_eq_getLast h
  have hstop := List.rdropWhile_last_not (fun c : Char => decide (c = ' ')) (cstring field) hne
  exact hstop (decide_eq_true hlast.symm)

lemma takeWhile_append_nul {front : List UInt8} (h : 0 ∉ front) (rest : List UInt8) :
    (front ++ 0 :: rest).takeWhile (· ≠ 0) = front := by
  rw [List.takeWhile_append_of_pos (ne_nul_of_not_mem h), List.takeWhile_cons_of_neg (by simp),
    List.append_nil]

/-- In front of a NUL, spaces are left as they are. -/
lemma vendorText_append_nul {front : List UInt8} (h : 0 ∉ front) (rest : List UInt8) :
    vendorText (front ++ 0 :: rest) = front.map charOfByte := by
  rw [← cstring_of_not_mem h]
  cases front with
  | nil =>
    rw [List.nil_append, vendorText_cons]
    rfl
  | cons b front =>
    rw [List.cons_append, vendorText_cons, dropSpaces_append_nul, ← List.cons_append,
      cstring_append_nul]

/-- The published text is the text of the field exactly for strippable fields. -/
theorem vendorText_eq_fieldText_iff {field : List UInt8} (hne : field ≠ []) :
    vendorText field = fieldText field ↔ Strippable field := by
  by_cases hnul : 0 ∈ field
  · obtain ⟨front, rest, rfl, hfront⟩ := List.eq_append_cons_of_mem hnul
    have htake := takeWhile_append_nul hfront rest
    have htext : fieldText (front ++ 0 :: rest) = (dropSpaces front).map charOfByte := by
      unfold fieldText
      rw [cstring_append_nul, cstring_of_not_mem hfront, rdropWhile_map_charOfByte]
    rw [vendorText_append_nul hfront, htext, map_charOfByte_inj, eq_comm, dropSpaces_eq_self_iff]
    constructor
    · intro hlast
      refine ⟨fun _ => ?_, fun h => absurd hnul h⟩
      rwa [htake]
    · intro h
      have hlast := h.nul hnul
      rwa [htake] at hlast
  · obtain ⟨b, field, rfl⟩ := List.exists_cons_of_ne_nil hne
    have hdrop : 0 ∉ b :: dropSpaces field := fun hmem =>
      hnul (List.cons_subset_cons b (dropSpaces_prefix_self field).subset hmem)
    have htext : fieldText (b :: field) = (dropSpaces (b :: field)).map charOfByte := by
      unfold fieldText
      rw [cstring_of_not_mem hnul, rdropWhile_map_charOfByte]
    rw [vendorText_cons, cstring_of_not_mem hdrop, htext, map_charOfByte_inj,
      cons_dropSpaces_eq_iff]
    constructor
    · intro h
      exact ⟨fun h => absurd h hnul, fun _ => h⟩
    · intro h
      exact h.full hnul

/-- The vendor columns of a QSFP port and the fields they come from. -/
def qsfpVendor (page : Page) : List (ModuleColumn × List UInt8) :=
  [(.vendorName, QsfpSerialId.vendorName page),
    (.vendorPartNumber, QsfpSerialId.vendorPartNumber page),
    (.vendorRevision, QsfpSerialId.vendorRevision page),
    (.vendorSerialNumber, QsfpSerialId.vendorSerialNumber page)]

/-- The vendor columns hold the texts of their fields, and none of them ends in a space. -/
structure StripsVendor (page : Page) (port : PmPort) : Prop where
  text : ∀ entry ∈ qsfpVendor page, port.ovsModuleColumns entry.1 = some (fieldText entry.2)
  tight : ∀ entry ∈ qsfpVendor page, ∀ text, port.ovsModuleColumns entry.1 = some text →
    text.getLast? ≠ some ' '

lemma ne_nil_of_mem_qsfpVendor {page : Page} {entry : ModuleColumn × List UInt8}
    (h : entry ∈ qsfpVendor page) : entry.2 ≠ [] := by
  have hfield : ∀ start len : Nat, 0 < len → start < 128 → page.bytes start len ≠ [] := by
    intro start len hlen hstart
    apply List.ne_nil_of_length_pos
    simp only [Page.bytes, List.length_take, List.length_drop, Vector.length_toList]
    omega
  simp only [qsfpVendor, List.mem_cons, List.not_mem_nil, or_false] at h
  obtain rfl | rfl | rfl | rfl := h
  · exact hfield 20 16 (by decide) (by decide)
  · exact hfield 40 16 (by decide) (by decide)
  · exact hfield 56 2 (by decide) (by decide)
  · exact hfield 68 16 (by decide) (by decide)

lemma qsfpVendor_setEnet10gbaseSr (page : Page) :
    qsfpVendor (SfpSerialId.setEnet10gbaseSr page) = qsfpVendor page := by
  have hfield : ∀ start len : Nat, 3 < start →
      (SfpSerialId.setEnet10gbaseSr page).bytes start len = page.bytes start len :=
    fun start len h => Page.bytes_set_of_not_mem page 3 _ (.inl h)
  unfold qsfpVendor QsfpSerialId.vendorName QsfpSerialId.vendorPartNumber
    QsfpSerialId.vendorRevision QsfpSerialId.vendorSerialNumber
  rw [hfield 20 16 (by decide), hfield 40 16 (by decide), hfield 56 2 (by decide),
    hfield 68 16 (by decide)]

lemma vendorColumns_fillQsfp (page : Page) (port : PmPort) :
    ∀ entry ∈ qsfpVendor page,
      (fillQsfp page port).ovsModuleColumns entry.1 = some (vendorText entry.2) := by
  simp [qsfpVendor, fillQsfp]

/-- Each QSFP case publishes the same text of a field, whatever the columns held before. -/
lemma vendorColumns_pmParse {port : PmPort} (hq : port.moduleDevice.isQsfp = true)
    (hp : port.moduleDevice.pluggable = true) (page : Page) :
    ∀ entry ∈ qsfpVendor page,
      (pmParse page port).2.1.ovsModuleColumns entry.1 = some (vendorText entry.2) := by
  rw [pmParse_of_isQsfp hq hp, ← qsfpVendor_setEnet10gbaseSr]
  dsimp only
  split
  · exact vendorColumns_fillQsfp _ _
  · rw [fillQsfp28_eq]
    exact vendorColumns_fillQsfp _ _

/-- A QSFP port publishes its vendor texts as their fields have them exactly for pages whose
four fields are strippable. -/
theorem stripsVendor_iff {port : PmPort} (hq : port.moduleDevice.isQsfp = true)
    (hp : port.moduleDevice.pluggable = true) (page : Page) :
    StripsVendor page (pmParse page port).2.1 ↔
      ∀ entry ∈ qsfpVendor page, Strippable entry.2 := by
  have hcolumn := vendorColumns_pmParse hq hp page
  constructor
  · intro h entry hentry
    apply (vendorText_eq_fieldText_iff (ne_nil_of_mem_qsfpVendor hentry)).mp
    exact Option.some.inj ((hcolumn entry hentry).symm.trans (h.text entry hentry))
  · intro h
    have htext : ∀ entry ∈ qsfpVendor page,
        (pmParse page port).2.1.ovsModuleColumns entry.1 = some (fieldText entry.2) := by
      intro entry hentry
      have hne := ne_nil_of_mem_qsfpVendor hentry
      rw [hcolumn entry hentry, (vendorText_eq_fieldText_iff hne).mpr (h entry hentry)]
    refine ⟨htext, ?_⟩
    intro entry hentry text hcol hlast
    rw [htext entry hentry] at hcol
    obtain rfl := Option.some.inj hcol
    exact getLast?_fieldText entry.2 hlast

namespace Switch

/-- A module whose revision field holds nothing but its padding. -/
def blankRevisionPage : Page := (Page.zero.set (56 : Fin 128) 0x20).set (57 : Fin 128) 0x20

end Switch

theorem stripsVendor_iff_blank :
    StripsVendor Switch.blankRevisionPage
        (pmParse Switch.blankRevisionPage Switch.port1).2.1 ↔
      ∀ entry ∈ qsfpVendor Switch.blankRevisionPage, Strippable entry.2 :=
  stripsVendor_iff (by decide) rfl Switch.blankRevisionPage

/-- The revision is published as one space. -/
theorem not_stripsVendor_blank :
    ¬StripsVendor Switch.blankRevisionPage
        (pmParse Switch.blankRevisionPage Switch.port1).2.1 := by
  intro h
  have hrevision := h.tight (.vendorRevision, [0x20, 0x20]) (by decide) [' '] (by decide)
  exact hrevision rfl

end OpsPmd
