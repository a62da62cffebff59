/-
The tags of a record. A tag is a listed text or stands for a label (`HasTag`); a record has all the
tags there are, each once and in ascending order, so they stay the same however lists and labels are
rearranged (`tags_normalize`).
-/
import Fleet.Proofs.Machine.Record
import Mathlib.Data.List.Sort

namespace Fleet

/-! ## What stands at a place -/

namespace Json

/-- The items of the array at a place; anything else has none. -/
def itemsAt (value : Json) (path : Path) : List Json := ((value.at? path).bind items?).getD []

/-- The entries of the object at a place; anything else has none. -/
def entriesAt (value : Json) (path : Path) : List (String × Json) :=
  ((value.at? path).bind members?).getD []

/-- The text of a scalar: a number and a truth value as they are written in JSON, and a text that
is not blank without the white space around it. -/
inductive ScalarText : Json → String → Prop where
  | number (n : Number) : ScalarText (.number n) (compact (.number n))
  | bool (b : Bool) : ScalarText (.bool b) (compact (.bool b))
  | text {s : String} (filled : ∃ c ∈ s.toList, Text.isBlank c = false) :
    ScalarText (.text s) (Text.trim s)

theorem compact_number (n : Number) : compact (.number n) = n.toText := String.ofList_toList

theorem compact_bool (b : Bool) : compact (.bool b) = if b then "true" else "false" :=
  String.ofList_toList

theorem scalarText?_eq_some_iff {value : Json} {t : String} :
    value.scalarText? = some t ↔ value.ScalarText t := by
  constructor
  · intro h
    cases value with
    | number n =>
      cases h
      exact compact_number n ▸ .number n
    | bool b =>
      cases h
      exact compact_bool b ▸ .bool b
    | text s =>
      rw [scalarText?_text] at h
      obtain ⟨filled, rfl⟩ := Text.nonBlank?_eq_some_iff_filled.1 h
      exact .text filled
    | null | array | object => cases h
  · intro h
    cases h with
    | number n => rw [compact_number, scalarText?]
    | bool b => rw [compact_bool, scalarText?]
    | text filled =>
      rw [scalarText?_text]
      exact Text.nonBlank?_eq_some_iff_filled.2 ⟨filled, rfl⟩

theorem mem_texts_iff {value : Json} {s : String} :
    s ∈ value.texts ↔ .text s ∈ value.items?.getD [] := by
  rw [texts, List.mem_filterMap]
  constructor
  · rintro ⟨item, hm, ht⟩
    cases item with
    | text => cases ht; exact hm
    | null | bool | number | array | object => cases ht
  · intro hm
    exact ⟨.text s, hm, rfl⟩

theorem itemsAt_eq (value : Json) (path : Path) :
    value.itemsAt path = ((value.at? path).getD .null).items?.getD [] := by
  rw [itemsAt]
  cases value.at? path with
  | none => rfl
  | some => rfl

theorem entriesAt_eq (value : Json) (path : Path) :
    value.entriesAt path = ((value.at? path).getD .null).members?.getD [] := by
  rw [entriesAt]
  cases value.at? path with
  | none => rfl
  | some => rfl

theorem itemsAt_of_array {value : Json} {path : Path} {items : List Json}
    (h : value.at? path = some (.array items)) : value.itemsAt path = items := by
  rw [itemsAt, h]
  rfl

end Json

/-! ## The tags of a profile -/

/-- A profile has a tag if the tag is, but for the white space around it, a text in one of the lists
of tags, or if it is made of the key and the value of a label. -/
inductive HasTag (profile : Json) : String → Prop where
  | listed {text : String} {path : Json.Path} (place : path ∈ [["tags"], ["profile", "tags"]])
      (item : .text text ∈ profile.itemsAt path)
      (filled : ∃ c ∈ text.toList, Text.isBlank c = false) : HasTag profile (Text.trim text)
  | labelled {key text : String} {value : Json}
      (entry : (key, value) ∈ profile.entriesAt ["metadata", "labels"])
      (scalar : value.ScalarText text) :
      HasTag profile s!"{Text.trim key}:{text}"

/-- A trimmed key before a tidy value has no white space at its ends, even if nothing is left of
the key. -/
theorem tidy_label {key text : String} (tidy : Text.Tidy text) :
    Text.Tidy s!"{Text.trim key}:{text}" := by
  have parts : (s!"{Text.trim key}:{text}").toList =
      Text.trimBy Text.isBlank key.toList ++ ':' :: text.toList := by
    rw [show s!"{Text.trim key}:{text}" = Text.trim key ++ ":" ++ text from rfl,
      String.toList_append, String.toList_append, Text.trim, String.toList_ofList,
      List.append_assoc]
    rfl
  obtain ⟨b, hb, last⟩ := tidy.last
  constructor
  · rw [parts]
    cases hk : (Text.trimBy Text.isBlank key.toList).head? with
    | none => exact ⟨':', by rw [List.head?_eq_none_iff.1 hk]; rfl, by decide⟩
    | some a =>
      exact ⟨a, by rw [List.head?_append, hk, Option.some_or], Text.head?_trimBy hk⟩
  · exact ⟨b, by rw [parts, List.getLast?_append, List.getLast?_cons, hb]; rfl, last⟩

theorem labelTag?_eq_some_iff {label : String × Json} {tag : String} :
    labelTag? label = some tag ↔
      ∃ text, label.2.ScalarText text ∧ s!"{Text.trim label.1}:{text}" = tag := by
  rw [labelTag?, Option.map_eq_some_iff]
  simp only [Json.scalarText?_eq_some_iff]

/-- The texts in the lists of tags. -/
theorem mem_listed_iff {profile : Json} {s : String} :
    s ∈ (Profile.tagLists.filterMap profile.at?).flatMap Json.texts ↔
      ∃ path ∈ Profile.tagLists, .text s ∈ profile.itemsAt path := by
  simp only [List.mem_flatMap, List.mem_filterMap, Json.mem_texts_iff, Json.itemsAt]
  constructor
  · rintro ⟨found, ⟨path, place, hp⟩, item⟩
    exact ⟨path, place, by rw [hp]; exact item⟩
  · rintro ⟨path, place, item⟩
    cases hp : profile.at? path with
    | none => rw [hp] at item; cases item
    | some found => exact ⟨found, ⟨path, place, hp⟩, by rw [hp] at item; exact item⟩

theorem mem_resolveTags_iff_hasTag {profile : Json} {tag : String} :
    tag ∈ resolveTags profile ↔ HasTag profile tag := by
  rw [resolveTags, Text.mem_ascending, List.filterMap_append, List.mem_append,
    List.filterMap_filterMap, List.mem_filterMap, List.mem_filterMap]
  simp only [mem_listed_iff, Option.bind_eq_some_iff, labelTag?_eq_some_iff]
  constructor
  · rintro (⟨text, ⟨path, place, item⟩, ht⟩ | ⟨⟨key, value⟩, entry, label, ⟨text, scalar, rfl⟩, ht⟩)
    · obtain ⟨filled, rfl⟩ := Text.nonBlank?_eq_some_iff_filled.1 ht
      exact .listed place item filled
    · have tidy := value.tidyIfAny_scalarText? text (Json.scalarText?_eq_some_iff.2 scalar)
      cases (Text.nonBlank?_of_tidy (tidy_label tidy)).symm.trans ht
      exact .labelled entry scalar
  · rintro (⟨place, item, filled⟩ | @⟨key, text, value, entry, scalar⟩)
    · exact .inl ⟨_, ⟨_, place, item⟩, Text.nonBlank?_eq_some_iff_filled.2 ⟨filled, rfl⟩⟩
    · have tidy := value.tidyIfAny_scalarText? text (Json.scalarText?_eq_some_iff.2 scalar)
      exact .inr ⟨_, entry, _, ⟨text, scalar, rfl⟩, Text.nonBlank?_of_tidy (tidy_label tidy)⟩

/-! ## Rearranging a profile -/

/-- The profiles list the same tags in another way, next to the same labels in any order. -/
inductive Rearranged (p q : Json) : Prop where
  /-- Each list has the same items, in any order and any number of times. -/
  | reordered (lists : ∀ path ∈ [["tags"], ["profile", "tags"]], ∀ item,
        item ∈ p.itemsAt path ↔ item ∈ q.itemsAt path)
      (labels : (p.entriesAt ["metadata", "labels"]).Perm (q.entriesAt ["metadata", "labels"]))
  /-- A text went from one list to a place in the other. -/
  | moved {source target : Json.Path} {text : String} {before after front back : List Json}
      (places : [source, target].Perm [["tags"], ["profile", "tags"]])
      (taken : p.at? source = some (.array (before ++ .text text :: after)))
      (left : q.at? source = some (.array (before ++ after)))
      (given : p.at? target = some (.array (front ++ back)))
      (received : q.at? target = some (.array (front ++ .text text :: back)))
      (labels : (p.entriesAt ["metadata", "labels"]).Perm (q.entriesAt ["metadata", "labels"]))

section Same

variable {p q : Json}

/-- It is of no account in which of the lists a text stands, and how often. -/
theorem HasTag.mono {tag : String} (h : HasTag p tag)
    (lists : ∀ item, (∃ path ∈ [["tags"], ["profile", "tags"]], item ∈ p.itemsAt path) →
      ∃ path ∈ [["tags"], ["profile", "tags"]], item ∈ q.itemsAt path)
    (labels : p.entriesAt ["metadata", "labels"] ⊆ q.entriesAt ["metadata", "labels"]) :
    HasTag q tag := by
  cases h with
  | listed place item filled =>
    obtain ⟨path, place, item⟩ := lists _ ⟨_, place, item⟩
    exact .listed place item filled
  | labelled entry scalar => exact .labelled (labels entry) scalar

theorem Rearranged.mem_lists_iff (h : Rearranged p q) (item : Json) :
    (∃ path ∈ [["tags"], ["profile", "tags"]], item ∈ p.itemsAt path) ↔
      ∃ path ∈ [["tags"], ["profile", "tags"]], item ∈ q.itemsAt path := by
  cases h with
  | reordered lists =>
    exact exists_congr fun path => and_congr_right fun place => lists path place item
  | moved places taken left given received =>
    simp only [← places.mem_iff, List.mem_cons, List.not_mem_nil, or_false, exists_eq_or_imp,
      exists_eq_left, Json.itemsAt_of_array taken, Json.itemsAt_of_array left,
      Json.itemsAt_of_array given, Json.itemsAt_of_array received, List.mem_append]
    tauto

theorem Rearranged.labels_perm (h : Rearranged p q) :
    (p.entriesAt ["metadata", "labels"]).Perm (q.entriesAt ["metadata", "labels"]) := by
  cases h with
  | reordered _ labels => exact labels
  | moved _ _ _ _ _ labels => exact labels

theorem Rearranged.hasTag_iff (h : Rearranged p q) {tag : String} :
    HasTag p tag ↔ HasTag q tag := by
  constructor
  · intro ht
    exact ht.mono (fun item => (h.mem_lists_iff item).1) h.labels_perm.subset
  · intro ht
    exact ht.mono (fun item => (h.mem_lists_iff item).2) h.labels_perm.symm.subset

end Same

/-! ## The tags of a record -/

/-- The list is the one of the tags of the profile. -/
structure TagsOf (profile : Json) (tags : List String) : Prop where
  mem_iff : ∀ tag, tag ∈ tags ↔ HasTag profile tag
  once : ∀ tag, HasTag profile tag → tags.count tag = 1
  ascending : tags.Pairwise (· < ·)

theorem tagsOf_resolveTags (profile : Json) : TagsOf profile (resolveTags profile) where
  mem_iff _ := mem_resolveTags_iff_hasTag
  once _ h :=
    List.count_eq_one_of_mem (Text.pairwise_ascending _).nodup (mem_resolveTags_iff_hasTag.2 h)
  ascending := Text.pairwise_ascending _

/-- Profiles that have the same tags have one list of them. -/
theorem TagsOf.eq {p q : Json} {tags others : List String} (h : TagsOf p tags)
    (h' : TagsOf q others) (same : ∀ tag, HasTag p tag ↔ HasTag q tag) : tags = others :=
  h.ascending.eq_of_mem_iff h'.ascending fun tag => by rw [h.mem_iff, h'.mem_iff, same]

/-- The profile of a listing entry. -/
def MachineItem.profile (item : MachineItem) : Json := item.machine.profile.getD .null

/-- A record has all the tags of its profile, each once and in ascending order, and the record of an
entry with the profile rearranged has the same ones. -/
theorem tags_normalize (item : MachineItem) :
    TagsOf item.profile (normalize item).tags ∧
      ∀ other : MachineItem, Rearranged item.profile other.profile →
        (normalize other).tags = (normalize item).tags := by
  refine ⟨tagsOf_resolveTags item.profile, fun other h => ?_⟩
  exact (tagsOf_resolveTags other.profile).eq (tagsOf_resolveTags item.profile)
    fun tag => h.hasTag_iff.symm

/-- A profile with tags in both lists and with labels. -/
def tagged : Json := .object [
  ("tags", .array [.text " web ", .text "db", .null]),
  ("profile", .object [("tags", .array [.text "eu", .text " "])]),
  ("metadata", .object [("labels", .object [
    ("rack", .number (.integer 7)), (" tier ", .text "gold "), ("note", .text "")])])]

/-- The profile with one of its tags in the other list, and the labels in another order. -/
def retagged : Json := .object [
  ("metadata", .object [("labels", .object [
    (" tier ", .text "gold "), ("note", .text ""), ("rack", .number (.integer 7))])]),
  ("tags", .array [.text " web ", .null]),
  ("profile", .object [("tags", .array [.text "db", .text "eu", .text " "])])]

theorem tags_of_moved : Rearranged tagged retagged ∧
    (normalize { machine := { profile := some retagged } }).tags =
      ["db", "eu", "rack:7", "tier:gold", "web"] := by
  have taken : tagged.at? ["tags"] =
      some (.array ([.text " web "] ++ .text "db" :: [.null])) := rfl
  have left : retagged.at? ["tags"] = some (.array ([.text " web "] ++ [.null])) := rfl
  have given : tagged.at? ["profile", "tags"] =
      some (.array ([] ++ [.text "eu", .text " "])) := rfl
  have received : retagged.at? ["profile", "tags"] =
      some (.array ([] ++ .text "db" :: [.text "eu", .text " "])) := rfl
  have moved : Rearranged tagged retagged :=
    .moved (.refl _) taken left given received (by decide +kernel)
  refine ⟨moved, ?_⟩
  rw [(tags_normalize { machine := { profile := some tagged } }).2
    { machine := { profile := some retagged } } moved]
  decide +kernel

end Fleet
