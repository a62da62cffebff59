/-
What a search finds. The values of a record stand in one text with spaces between them, and lower
case does not see across a space, so a term without spaces is found exactly if the lower case of a
single value holds it (`passesSearch_iff_value`). A piece of a value is found where it stands
exactly if its capital sigmas end words alike in the piece and in the value
(`search_finds_piece`); a piece cut out of a word after a sigma may be missed (`missed_piece`).
-/
import Fleet.Inventory.Filter
import Fleet.Proofs.Text.Case
import Fleet.Proofs.Text.Tidy
import Mathlib.Data.List.ReduceOption

namespace Fleet

/-! ## Pieces between separators -/

section Infix

variable {α : Type} {s : α} {part : List α}

theorem infix_append_cons_iff (absent : s ∉ part) (front back : List α) :
    part <:+: front ++ s :: back ↔ part <:+: front ∨ part <:+: back := by
  constructor
  · intro h
    -- whatever begins with the separator and is a piece of the part is empty
    have only : ∀ rest : List α, rest <:+ part → rest <+: s :: back → rest = [] := by
      rintro (_ | ⟨a, rest⟩) hs hp
      · rfl
      · obtain ⟨rfl, -⟩ := List.cons_prefix_cons.1 hp
        exact absurd (hs.subset List.mem_cons_self) absent
    rcases List.infix_append_iff.1 h with h | h | ⟨before, after, rfl, hb, ha⟩
    · exact .inl h
    · rcases List.infix_cons_iff.1 h with h | h
      · rw [only part List.suffix_rfl h]
        exact .inl List.nil_infix
      · exact .inr h
    · rw [only after (List.suffix_append _ _) ha, List.append_nil]
      exact .inl hb.isInfix
  · rintro (h | h)
    · exact h.trans (List.prefix_append _ _).isInfix
    · exact h.trans ((List.suffix_cons s back).trans (List.suffix_append _ _)).isInfix

/-- A part without separators stands in one of the pieces. -/
theorem infix_intercalate_iff (absent : s ∉ part) (some_left : part ≠ []) {pieces : List (List α)} :
    part <:+: [s].intercalate pieces ↔ ∃ piece ∈ pieces, part <:+: piece := by
  induction pieces with
  | nil => simpa using some_left
  | cons piece pieces ih =>
    cases pieces with
    | nil => simp
    | cons next pieces =>
      rw [List.intercalate_cons_cons, List.append_assoc, List.singleton_append,
        infix_append_cons_iff absent, ih, ← List.exists_mem_cons_iff]

theorem infix_intercalate {piece : List α} {pieces : List (List α)} (h : piece ∈ pieces) :
    piece <:+: [s].intercalate pieces := by
  induction pieces with
  | nil => cases h
  | cons first pieces ih =>
    cases pieces with
    | nil =>
      obtain rfl := List.mem_singleton.1 h
      simp
    | cons next pieces =>
      rw [List.intercalate_cons_cons, List.append_assoc]
      rcases List.mem_cons.1 h with rfl | h
      · exact (List.prefix_append _ _).isInfix
      · refine (ih h).trans ?_
        exact ((List.suffix_append _ _).trans (List.suffix_append _ _)).isInfix

end Infix

/-! ## The values of a record -/

namespace MachineRecord

/-- A value of a record that a search looks into. -/
inductive HasValue (record : MachineRecord) : String → Prop
  | hostname : HasValue record record.hostname
  | displayName {value : String} : record.displayName = some value → HasValue record value
  | serial {value : String} : record.serial = some value → HasValue record value
  | os {value : String} : record.os = some value → HasValue record value
  | blueprint {value : String} : record.blueprint = some value → HasValue record value
  | mac : HasValue record record.mac
  | ip {value : String} : record.ip = some value → HasValue record value
  | owner {value : String} : record.owner = some value → HasValue record value
  | site {value : String} : record.site = some value → HasValue record value
  | rack {value : String} : record.rack = some value → HasValue record value
  | tag {value : String} : value ∈ record.tags → HasValue record value

theorem mem_searched_iff {record : MachineRecord} {value : String} :
    value ∈ record.searched ↔ record.HasValue value ∧ value ≠ "" := by
  have some_left : (!value.isEmpty) = true ↔ value ≠ "" := by simp
  unfold searched
  rw [List.mem_filter, some_left, List.mem_append, List.reduceOption_mem_iff]
  refine and_congr_left' ⟨fun h => ?_, fun h => ?_⟩
  · rcases h with h | h
    · simp only [List.mem_cons, List.not_mem_nil, or_false, Option.some.injEq] at h
      rcases h with rfl | h | h | h | h | rfl | h | h | h | h
      · exact .hostname
      · exact .displayName h.symm
      · exact .serial h.symm
      · exact .os h.symm
      · exact .blueprint h.symm
      · exact .mac
      · exact .ip h.symm
      · exact .owner h.symm
      · exact .site h.symm
      · exact .rack h.symm
    · exact .tag h
  · cases h with
    | tag h => exact .inr h
    | hostname | mac => exact .inl (by simp)
    | displayName h | serial h | os h | blueprint h | ip h | owner h | site h | rack h =>
      exact .inl (by simp [h])

theorem lowerChars_intercalate (values : List (List Char)) :
    Text.lowerChars ([' '].intercalate values) =
      [' '].intercalate (values.map Text.lowerChars) := by
  have space : Text.Separates ' ' := Text.separates_of_isBlank rfl
  induction values with
  | nil => rfl
  | cons value values ih =>
    cases values with
    | nil => simp
    | cons next values =>
      rw [List.intercalate_cons_cons, List.append_assoc, List.singleton_append,
        Text.lowerChars_append_cons space, ih, Text.lowerChar_space, List.map_cons, List.map_cons,
        List.map_cons, List.intercalate_cons_cons, List.append_assoc]

/-- The text a search looks into is the lower case of the values, with spaces between them. -/
theorem searchText_eq (record : MachineRecord) : record.searchText =
    [' '].intercalate (record.searched.map fun value => Text.lowerChars value.toList) := by
  rw [searchText, lowerChars_intercalate, List.map_map]
  rfl

theorem lowerChars_infix_searchText {record : MachineRecord} {value : String}
    (has : record.HasValue value) (some_left : value ≠ "") :
    Text.lowerChars value.toList <:+: record.searchText := by
  rw [searchText_eq]
  exact infix_intercalate (List.mem_map_of_mem (mem_searched_iff.2 ⟨has, some_left⟩))

end MachineRecord

/-! ## Searching -/

namespace InventoryFilter

/-- Without a search text every record is found. -/
theorem passesSearch_of_unset (status : Option MachineStatus) (site : Option String)
    (record : MachineRecord) : ({ status, site } : InventoryFilter).passesSearch record = true :=
  rfl

theorem term_ne_nil {filter : InventoryFilter} (some_left : Text.trim filter.search ≠ "") :
    filter.term ≠ [] := by
  rw [term, Text.lowerChars, Text.lowerAfter_eq]
  exact Text.lowerBetween_ne_nil (by simpa using some_left)

theorem passesSearch_iff {filter : InventoryFilter} {record : MachineRecord}
    (some_left : Text.trim filter.search ≠ "") :
    filter.passesSearch record = true ↔ filter.term <:+: record.searchText := by
  have := term_ne_nil some_left
  simp [passesSearch, Text.occurs_iff, this]

/-- A term without spaces is found exactly if the lower case of a single value holds it. -/
theorem passesSearch_iff_value {filter : InventoryFilter} {record : MachineRecord}
    (some_left : Text.trim filter.search ≠ "")
    (unbroken : ' ' ∉ (Text.trim filter.search).toList) :
    filter.passesSearch record = true ↔ ∃ value, record.HasValue value ∧
      (Text.lower (Text.trim filter.search)).toList <:+: (Text.lower value).toList := by
  have nonempty := term_ne_nil some_left
  have absent : ' ' ∉ filter.term := Text.space_not_mem_lowerChars unbroken
  simp only [Text.lower, String.toList_ofList]
  rw [passesSearch_iff some_left, MachineRecord.searchText_eq,
    infix_intercalate_iff absent nonempty]
  constructor
  · rintro ⟨piece, hp, found⟩
    obtain ⟨value, searched, rfl⟩ := List.mem_map.1 hp
    exact ⟨value, (MachineRecord.mem_searched_iff.1 searched).1, found⟩
  · rintro ⟨value, has, found⟩
    refine ⟨_, List.mem_map_of_mem (MachineRecord.mem_searched_iff.2 ⟨has, ?_⟩), found⟩
    -- nothing is found in a value that is empty
    rintro rfl
    exact nonempty (List.eq_nil_of_infix_nil found)

/-- A record with a tag that ends with a sigma. -/
def street : MachineRecord :=
  { (default : MachineRecord) with hostname := "kiosk", tags := ["ΟΔΟΣ"] }

theorem passesSearch_street :
    Text.trim " δΟΣ\t" ≠ "" ∧ ' ' ∉ (Text.trim " δΟΣ\t").toList ∧
      ({ search := " δΟΣ\t" } : InventoryFilter).passesSearch street = true := by
  have visible : Text.trim " δΟΣ\t" ≠ "" := by decide +kernel
  have unbroken : ' ' ∉ (Text.trim " δΟΣ\t").toList := by decide +kernel
  exact ⟨visible, unbroken, (@passesSearch_iff_value { search := " δΟΣ\t" } street visible
    unbroken).2 ⟨"ΟΔΟΣ", .tag (List.mem_singleton.2 rfl), by decide +kernel⟩⟩

end InventoryFilter

/-! ## Pieces of a value -/

namespace Text

/-- The capital sigmas of a piece of a text end words in the piece exactly if they end words where
it stands. -/
def KeepsSigmas (before piece after : List Char) : Prop :=
  SameSigmas before.reverse piece after [] []

theorem keepsSigmas_of_not_mem {before piece after : List Char} (h : 'Σ' ∉ piece) :
    KeepsSigmas before piece after := by
  rintro x y rfl
  exact absurd List.mem_append_cons_self h

/-- In the lower case of a text the lower case of a piece stands where the piece stands. -/
def FoundInPlace (before piece after : List Char) : Prop :=
  ∃ front back, lowerChars (before ++ piece ++ after) = front ++ lowerChars piece ++ back ∧
    front.length = (lowerChars before).length

theorem lowerBetween_eq_lowerChars_iff {before piece after : List Char} :
    lowerBetween before.reverse piece after = lowerChars piece ↔
      KeepsSigmas before piece after := by
  rw [lowerChars, lowerAfter_eq, lowerBetween_eq_iff, KeepsSigmas]

theorem foundInPlace_iff {before piece after : List Char} :
    FoundInPlace before piece after ↔ KeepsSigmas before piece after := by
  have length : (lowerBetween [] before (piece ++ after)).length = (lowerChars before).length := by
    rw [lowerChars, lowerAfter_eq]
    exact length_lowerBetween ..
  have whole : lowerChars (before ++ piece ++ after) =
      lowerBetween [] before (piece ++ after) ++ lowerBetween before.reverse piece after ++
        lowerAfter (piece.reverse ++ before.reverse) after := by
    rw [lowerChars, List.append_assoc before, lowerAfter_append, List.append_nil,
      lowerAfter_append, List.append_assoc]
  rw [← lowerBetween_eq_lowerChars_iff]
  constructor
  · rintro ⟨front, back, found, place⟩
    rw [whole, List.append_assoc, List.append_assoc] at found
    have rest := (List.append_inj found (length.trans place.symm)).2
    refine (List.append_inj rest ?_).1
    rw [lowerChars, lowerAfter_eq]
    exact length_lowerBetween ..
  · intro same
    exact ⟨_, _, by rw [whole, same], length⟩

theorem lowerChars_trim_infix (s : String) :
    lowerChars (trim s).toList <:+: lowerChars s.toList := by
  obtain ⟨front, back, whole, hf, hb⟩ := exists_trimBy isBlank s.toList
  have alone : lowerBetween front.reverse (trim s).toList back = lowerChars (trim s).toList :=
    lowerBetween_of_isBlank (fun c hc => hf c (List.mem_reverse.1 hc)) hb
  rw [whole, ← alone, trim, String.toList_ofList]
  exact lowerBetween_infix ..

end Text

open Text (KeepsSigmas FoundInPlace)

/-- A search for a piece of a value finds it where it stands exactly if the piece keeps its capital
sigmas, as it does if it has none, and then the record passes. -/
theorem search_finds_piece {record : MachineRecord} {value : String} (has : record.HasValue value)
    {before after : List Char} {piece : String}
    (whole : value.toList = before ++ piece.toList ++ after) (visible : Text.trim piece ≠ "") :
    (FoundInPlace before piece.toList after ↔ KeepsSigmas before piece.toList after) ∧
      ('Σ' ∉ piece.toList → KeepsSigmas before piece.toList after) ∧
      (KeepsSigmas before piece.toList after →
        ({ search := piece } : InventoryFilter).passes record = true) := by
  refine ⟨Text.foundInPlace_iff, Text.keepsSigmas_of_not_mem, fun keeps => ?_⟩
  have nonempty : value ≠ "" := by
    intro empty
    have : piece = "" := by simp_all
    exact visible (by simp [this, Text.trim, Text.trimBy, Text.dropEndWhile])
  have found : Text.lowerChars (Text.trim piece).toList <:+: record.searchText := by
    refine (Text.lowerChars_trim_infix piece).trans (.trans ?_
      (MachineRecord.lowerChars_infix_searchText has nonempty))
    rw [whole, ← Text.lowerBetween_eq_lowerChars_iff.2 keeps]
    exact Text.lowerBetween_infix ..
  have passes := (@InventoryFilter.passesSearch_iff { search := piece } record visible).2 found
  simpa [InventoryFilter.passes, InventoryFilter.passesStatus, InventoryFilter.passesSite] using
    passes

open InventoryFilter (street)

theorem street_found : street.HasValue "ΟΔΟΣ" ∧
    "ΟΔΟΣ".toList = "ΟΔ".toList ++ "ΟΣ".toList ++ [] ∧ Text.trim "ΟΣ" ≠ "" ∧
      KeepsSigmas "ΟΔ".toList "ΟΣ".toList [] ∧
        ({ search := "ΟΣ" } : InventoryFilter).passes street = true := by
  have has : street.HasValue "ΟΔΟΣ" := .tag (List.mem_singleton.2 rfl)
  have whole : "ΟΔΟΣ".toList = "ΟΔ".toList ++ "ΟΣ".toList ++ [] := by decide
  have visible : Text.trim "ΟΣ" ≠ "" := by decide +kernel
  have keeps : KeepsSigmas "ΟΔ".toList "ΟΣ".toList [] :=
    Text.lowerBetween_eq_lowerChars_iff.1 (by decide +kernel)
  exact ⟨has, whole, visible, keeps, (search_finds_piece has whole visible).2.2 keeps⟩

/-- The search does not find every piece of a value: a sigma that the cut leaves at the end of the
piece is lowered as the last of a word there, and as an inner one in the value. -/
theorem missed_piece : ¬ ∀ (record : MachineRecord) (value piece : String)
    (before after : List Char), record.HasValue value →
      value.toList = before ++ piece.toList ++ after → Text.trim piece ≠ "" →
        ({ search := piece } : InventoryFilter).passes record = true := by
  intro every
  have found := every { (default : MachineRecord) with hostname := "ΑΣΑ" } "ΑΣΑ" "ΑΣ" [] ['Α']
    .hostname (by decide) (by decide +kernel)
  exact absurd found (by decide +kernel)

end Fleet
