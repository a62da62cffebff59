/-
A record does not depend on how the profile and the snapshot of its entry are written
(`normalize_respelled`). Only the lines of facts follow the order and the white space of the
snapshot. Nearly all properties are the first text or number at some places; for tags it counts
which there are, and for network interfaces what is read from each of a list.
-/
import Fleet.Machine.Normalize
import Fleet.Proofs.Json.Respelled
import Fleet.Proofs.Machine.Tags

namespace Fleet

open Text (nonBlank?)
open Json (Insensitive insensitive_firstText? insensitive_scalarText?)

variable {p q : Json}

/-! ## Network interfaces -/

theorem insensitive_network (names : List Json.Path) : Insensitive (Network.ofJson? names) where
  null := by
    have unnamed : Json.null.firstText? names = none := (insensitive_firstText? names).null
    rw [Network.ofJson?, unnamed]
    rfl
  eq h := by
    have vlan := (insensitive_scalarText?.at_path ["vlan"]).eq h
    simp only [Json.at?_cons, Json.at?_nil, Option.bind_fun_some] at vlan
    simp only [Network.ofJson?, h.firstText?, vlan]

/-- The interfaces may be read inside each list, before the first one is chosen. -/
theorem resolveNetworks_eq_getD (profile : Json) : resolveNetworks profile =
    (Profile.interfaceLists.findSome? fun path => (profile.at? path).bind fun value =>
      value.items?.map (List.filterMap (Network.ofJson? Network.listedNames))).getD
        (Network.ofJson? Network.soleNames profile).toList := by
  have inside : (fun path => (profile.at? path).bind fun value =>
      value.items?.map (List.filterMap (Network.ofJson? Network.listedNames))) =
      Option.map (List.filterMap (Network.ofJson? Network.listedNames)) ∘
        fun path => (profile.at? path).bind Json.items? :=
    funext fun path => (Option.map_bind ..).symm
  rw [inside, ← List.map_findSome?, resolveNetworks]
  cases Profile.interfaceLists.findSome? fun path => (profile.at? path).bind Json.items? with
  | none => rfl
  | some entries => rfl

theorem resolveNetworks_eq (h : p.Respelled q) : resolveNetworks p = resolveNetworks q := by
  have lists := ((Json.insensitive_items? (insensitive_network Network.listedNames).eq).first
    Profile.interfaceLists).eq h
  have sole := (insensitive_network Network.soleNames).eq h
  rw [resolveNetworks_eq_getD, resolveNetworks_eq_getD, lists, sole]

/-! ## Tags -/

/-- The tags in a list. -/
theorem listedTags_eq (h : p.Respelled q) :
    p.texts.filterMap nonBlank? = q.texts.filterMap nonBlank? := by
  have items := (Json.insensitive_items? Json.insensitive_nonBlank?.eq).eq h
  have tags_eq : ∀ value : Json, value.texts.filterMap nonBlank? =
      (value.items?.map (List.filterMap Json.nonBlank?)).getD [] := by
    intro value
    rw [Json.texts, List.filterMap_filterMap]
    cases value.items? with
    | none => rfl
    | some items => rfl
  rw [tags_eq, tags_eq, items]

theorem HasTag.of_respelled {tag : String} (h : p.Respelled q) (ht : HasTag p tag) :
    HasTag q tag := by
  cases ht with
  | @listed text path place item filled =>
    rw [Json.itemsAt_eq] at item
    have there : Text.trim text ∈ ((p.at? path).getD .null).texts.filterMap nonBlank? :=
      List.mem_filterMap.2 ⟨text, Json.mem_texts_iff.2 item,
        Text.nonBlank?_eq_some_iff_filled.2 ⟨filled, rfl⟩⟩
    rw [listedTags_eq (h.at? path)] at there
    obtain ⟨other, item, same⟩ := List.mem_filterMap.1 there
    obtain ⟨filled, same⟩ := Text.nonBlank?_eq_some_iff_filled.1 same
    rw [← same]
    refine .listed place ?_ filled
    rw [Json.itemsAt_eq]
    exact Json.mem_texts_iff.1 item
  | @labelled key text value entry scalar =>
    have labels := h.at? ["metadata", "labels"]
    rw [Json.entriesAt_eq, Json.mem_members_iff fun _ => labels.distinct] at entry
    have same := insensitive_scalarText?.eq (labels.get? key)
    rw [entry, Option.getD_some, Json.scalarText?_eq_some_iff.2 scalar] at same
    cases found : ((q.at? ["metadata", "labels"]).getD .null).get? key with
    | none =>
      -- null stands for no tag
      rw [found, Option.getD_none, insensitive_scalarText?.null] at same
      cases same
    | some other =>
      rw [found, Option.getD_some] at same
      refine .labelled ?_ (Json.scalarText?_eq_some_iff.1 same.symm)
      rw [Json.entriesAt_eq]
      exact (Json.mem_members_iff fun _ => labels.symm.distinct).2 found

theorem resolveTags_eq (h : p.Respelled q) : resolveTags p = resolveTags q :=
  (tagsOf_resolveTags p).eq (tagsOf_resolveTags q) fun _ => ⟨.of_respelled h, .of_respelled h.symm⟩

/-! ## Whole records -/

/-- The entry with another profile. -/
def MachineItem.withProfile (item : MachineItem) (profile : Json) : MachineItem :=
  { item with machine := { item.machine with profile := some profile } }

/-- The entry with another snapshot, reported with a fact. -/
def MachineItem.withSnapshot (item : MachineItem) (fact : Fact) (snapshot : Json) : MachineItem :=
  { item with latestFact := some { fact with snapshot := some snapshot } }

theorem resolveStatus_eq (derived : Option String) (h : p.Respelled q) :
    resolveStatus derived p = resolveStatus derived q := by
  rw [resolveStatus, resolveStatus, h.firstText?]

theorem normalize_withProfile (item : MachineItem) (h : p.Respelled q) :
    normalize (item.withProfile p) = normalize (item.withProfile q) := by
  simp only [normalize, MachineItem.withProfile, Option.getD_some, resolveHostname, resolveIp,
    resolveHardware, resolveMemory, h.firstText?, h.firstNumber?, resolveStatus_eq _ h,
    resolveTags_eq h, resolveNetworks_eq h]

theorem normalize_withSnapshot (item : MachineItem) (fact : Fact) {s t : Json}
    (h : s.Respelled t) :
    { normalize (item.withSnapshot fact s) with facts := [] } =
      { normalize (item.withSnapshot fact t) with facts := [] } := by
  simp only [normalize, MachineItem.withSnapshot, Option.bind_some, Option.getD_some,
    resolveHostname, resolveIp, resolveHardware, resolveMemory, resolveUptime, h.firstText?,
    h.firstNumber?]

/-- A record is the same however the profile of its entry is written: in whatever order keys come,
whatever white space there is at the ends of texts, and whether entries that are null are there.
However the snapshot is written, the record is the same but for its lines of facts. -/
theorem normalize_respelled (item : MachineItem) :
    (∀ p q : Json, p.Respelled q →
      normalize (item.withProfile p) = normalize (item.withProfile q)) ∧
    ∀ (fact : Fact) (s t : Json), s.Respelled t →
      { normalize (item.withSnapshot fact s) with facts := [] } =
        { normalize (item.withSnapshot fact t) with facts := [] } :=
  ⟨fun _ _ => normalize_withProfile item, fun fact _ _ => normalize_withSnapshot item fact⟩

/-- A profile with labels. -/
def labelled : Json :=
  .object [("owner", .null), ("metadata", .object [("labels",
    .object [("b", .bool true), ("a", .text " x")])])]

/-- The same profile in other words. -/
def relabelled : Json :=
  .object [("metadata", .object [("labels", .object [("a", .text "x"), ("b", .bool true)])])]

theorem labelled_respelled : labelled.Respelled relabelled := by
  have text : (Json.text " x").Respelled (.text "x") :=
    .text ⟨[' '], [], ['x'], [], [], rfl, rfl, by simp [Text.isBlank]⟩
  have wf : (Json.object [("b", .bool true), ("a", .text " x")]).WellFormed :=
    .object (by simp) (by simp [Json.WellFormed.bool, Json.WellFormed.text])
  have labels : (Json.object [("b", .bool true), ("a", .text " x")]).Respelled
      (.object [("a", .text "x"), ("b", .bool true)]) :=
    (Json.respelled_of_perm wf (.swap ..)).trans
      (Json.respelled_of_forall₂ (by simp) (.cons ⟨rfl, text⟩ (.cons ⟨rfl, .bool true⟩ .nil)))
  have wf' : (Json.object [("labels",
      .object [("b", .bool true), ("a", .text " x")])]).WellFormed :=
    .object (by simp) (by simp [wf])
  have metadata : (Json.object [("labels",
      .object [("b", .bool true), ("a", .text " x")])]).Respelled
      (.object [("labels", .object [("a", .text "x"), ("b", .bool true)])]) :=
    Json.respelled_of_forall₂ (by simp) (.cons ⟨rfl, labels⟩ .nil)
  exact (Json.respelled_cons_null (.object (by simp) (by simp [wf', Json.WellFormed.null]))).trans
    (Json.respelled_of_forall₂ (by simp) (.cons ⟨rfl, metadata⟩ .nil))

theorem tags_of_labelled : labelled.Respelled relabelled ∧
    normalize ((default : MachineItem).withProfile labelled) =
      normalize ((default : MachineItem).withProfile relabelled) ∧
    (normalize ((default : MachineItem).withProfile relabelled)).tags = ["a:x", "b:true"] :=
  ⟨labelled_respelled, (normalize_respelled default).1 _ _ labelled_respelled, by decide +kernel⟩

end Fleet
