/-
Records are well formed, whatever the profile and the snapshot of a listing entry hold
(`wellFormed_normalize`): every text is tidy or absent, the name of the machine is never absent,
tags are in strictly ascending order, and every recent run has its summary.
-/
import Fleet.Machine.Normalize
import Fleet.Proofs.Number.Text
import Mathlib.Data.List.Forall2

namespace Fleet

open Text (Tidy TidyIfAny tidyIfAny_nonBlank? tidyIfAny_bind_nonBlank?)

/-! ## Texts in JSON values -/

theorem Json.tidyIfAny_nonBlank? (value : Json) : TidyIfAny value.nonBlank? :=
  tidyIfAny_bind_nonBlank? value.text?

theorem Json.tidyIfAny_scalarText? (value : Json) : TidyIfAny value.scalarText? := by
  intro t h
  cases value with
  | number n =>
    cases h
    exact n.solid_toText.tidy
  | bool b =>
    cases h
    cases b
    · exact Text.Solid.tidy ⟨by simp, by simp [Text.isBlank]⟩
    · exact Text.Solid.tidy ⟨by simp, by simp [Text.isBlank]⟩
  | null | text | array | object => exact Json.tidyIfAny_nonBlank? _ t h

theorem Json.tidyIfAny_firstText? (value : Json) (places : List Json.Path) :
    TidyIfAny (value.firstText? places) := by
  intro t h
  obtain ⟨path, -, ht⟩ := List.exists_of_findSome?_eq_some h
  obtain ⟨found, -, ht⟩ := Option.bind_eq_some_iff.1 ht
  exact Json.tidyIfAny_nonBlank? found t ht

/-! ## Well-formed records -/

structure Hardware.WellFormed (hardware : Hardware) : Prop where
  cpu : TidyIfAny hardware.cpu
  memory : TidyIfAny hardware.memory
  storage : TidyIfAny hardware.storage
  bmc : TidyIfAny hardware.bmc

structure Network.WellFormed (network : Network) : Prop where
  interface : Tidy network.interface
  mac : Tidy network.mac
  ip : TidyIfAny network.ip
  vlan : TidyIfAny network.vlan

structure RunSummary.WellFormed (summary : RunSummary) : Prop where
  blueprint : TidyIfAny summary.blueprint
  startedAt : TidyIfAny summary.startedAt
  finishedAt : TidyIfAny summary.finishedAt

/-- The summary is the one of the run. -/
structure RunSummary.Of (run : Run) (summary : RunSummary) : Prop where
  id : summary.id = run.id
  status : summary.status = RunStatus.classify run.status
  blueprint : summary.blueprint = Text.nonBlank? run.blueprintId
  startedAt : summary.startedAt = run.startedAt.bind Text.nonBlank?
  finishedAt : summary.finishedAt = run.finishedAt.bind Text.nonBlank?

/-- What holds of every record that is displayed. -/
structure MachineRecord.WellFormed (record : MachineRecord) : Prop where
  hostname : Tidy record.hostname
  serial : TidyIfAny record.serial
  displayName : TidyIfAny record.displayName
  ip : TidyIfAny record.ip
  os : TidyIfAny record.os
  blueprint : TidyIfAny record.blueprint
  site : TidyIfAny record.site
  rack : TidyIfAny record.rack
  position : TidyIfAny record.position
  owner : TidyIfAny record.owner
  notes : TidyIfAny record.notes
  lastCheckIn : TidyIfAny record.lastCheckIn
  hardware : record.hardware.WellFormed
  networks : ∀ network ∈ record.networks, network.WellFormed
  runs : ∀ summary ∈ record.runs, summary.WellFormed
  tags : ∀ tag ∈ record.tags, Tidy tag
  ascending : record.tags.Pairwise (· < ·)
  facts : ∀ line ∈ record.facts, TidyIfAny line.updatedAt
  length_facts : record.facts.length ≤ 12

/-! ## Single properties -/

theorem tidy_resolveHostname (machine : Machine) (profile snapshot : Json) :
    Tidy (resolveHostname machine profile snapshot) := by
  have named : TidyIfAny ((profile.firstText? Profile.hostname).or
      ((snapshot.firstText? Snapshot.hostname).or
        ((Text.nonBlank? machine.mac).or (Text.nonBlank? machine.id)))) :=
    .or (profile.tidyIfAny_firstText? _) (.or (snapshot.tidyIfAny_firstText? _)
      (.or (tidyIfAny_nonBlank? _) (tidyIfAny_nonBlank? _)))
  unfold resolveHostname
  -- the fallback is solid
  cases hn : (profile.firstText? Profile.hostname).or
      ((snapshot.firstText? Snapshot.hostname).or
        ((Text.nonBlank? machine.mac).or (Text.nonBlank? machine.id))) with
  | none => exact Text.Solid.tidy ⟨by simp, by simp [Text.isBlank]⟩
  | some name => exact named name hn

theorem tidy_of_mem_resolveTags {profile : Json} {tag : String} (h : tag ∈ resolveTags profile) :
    Tidy tag := by
  unfold resolveTags at h
  obtain ⟨source, -, ht⟩ := List.mem_filterMap.1 (Text.mem_ascending.1 h)
  exact Text.tidy_of_nonBlank? ht

theorem wellFormed_of_network {names : List Json.Path} {value : Json} {network : Network}
    (h : Network.ofJson? names value = some network) : network.WellFormed := by
  obtain ⟨interface, hi, h⟩ := Option.bind_eq_some_iff.1 h
  obtain ⟨mac, hm, h⟩ := Option.bind_eq_some_iff.1 h
  cases h
  refine ⟨value.tidyIfAny_firstText? _ _ hi, value.tidyIfAny_firstText? _ _ hm,
    value.tidyIfAny_firstText? _, ?_⟩
  intro t ht
  obtain ⟨found, -, ht⟩ := Option.bind_eq_some_iff.1 ht
  exact found.tidyIfAny_scalarText? t ht

theorem wellFormed_of_mem_resolveNetworks {profile : Json} {network : Network}
    (h : network ∈ resolveNetworks profile) : network.WellFormed := by
  unfold resolveNetworks at h
  split at h
  · obtain ⟨entry, -, hn⟩ := List.mem_filterMap.1 h
    exact wellFormed_of_network hn
  · exact wellFormed_of_network (Option.mem_toList.1 h)

theorem tidyIfAny_resolveIp {profile snapshot : Json} {networks : List Network}
    (h : ∀ network ∈ networks, network.WellFormed) :
    TidyIfAny (resolveIp profile snapshot networks) := by
  refine .or (profile.tidyIfAny_firstText? _) (.or ?_ (snapshot.tidyIfAny_firstText? _))
  intro t ht
  obtain ⟨network, hm, hip⟩ := List.exists_of_findSome?_eq_some ht
  exact (h network hm).ip t hip

/-- A number of gigabytes begins with its first digit or sign and ends with its unit. -/
theorem tidy_gigabytes (x : Binary64) : Tidy s!"{Layout.plain.text x} GB" := by
  have solid := Layout.plain.solid_text x
  have ht : (s!"{Layout.plain.text x} GB").toList = (Layout.plain.text x).toList ++ " GB".toList := by
    rw [← String.toList_append]
    rfl
  obtain ⟨c, hc, hb⟩ := solid.tidy.first
  constructor
  · exact ⟨c, by rw [ht, List.head?_append, hc, Option.some_or], hb⟩
  · exact ⟨'B', by rw [ht, List.getLast?_append]; rfl, by decide⟩

theorem tidyIfAny_resolveMemory (profile snapshot : Json) :
    TidyIfAny (resolveMemory profile snapshot) := by
  refine .or (profile.tidyIfAny_firstText? _) ?_
  intro t ht
  obtain ⟨gigabytes, -, rfl⟩ := Option.map_eq_some_iff.1 ht
  exact tidy_gigabytes gigabytes

theorem wellFormed_resolveHardware (profile snapshot : Json) :
    (resolveHardware profile snapshot).WellFormed where
  cpu := .or (profile.tidyIfAny_firstText? _) (snapshot.tidyIfAny_firstText? _)
  memory := tidyIfAny_resolveMemory profile snapshot
  storage := profile.tidyIfAny_firstText? _
  bmc := profile.tidyIfAny_firstText? _

theorem summary_of (run : Run) : RunSummary.Of run run.summary := by
  constructor <;> simp only [Run.summary]

theorem RunSummary.Of.wellFormed {run : Run} {summary : RunSummary} (h : Of run summary) :
    summary.WellFormed := by
  constructor
  · rw [h.blueprint]
    exact tidyIfAny_nonBlank? _
  · rw [h.startedAt]
    exact tidyIfAny_bind_nonBlank? _
  · rw [h.finishedAt]
    exact tidyIfAny_bind_nonBlank? _

theorem updatedAt_of_mem_factLines {snapshot : Json} {updatedAt : Option String} {line : FactLine}
    (h : line ∈ factLines snapshot updatedAt) : line.updatedAt = updatedAt := by
  obtain ⟨member, -, rfl⟩ := List.mem_map.1 h
  rfl

/-! ## Whole records -/

/-- Every listing entry gives a well-formed record, and its recent runs give the summaries one by
one, in their order. -/
theorem wellFormed_normalize (item : MachineItem) : (normalize item).WellFormed ∧
    List.Forall₂ RunSummary.Of (item.recentRuns.getD []) (normalize item).runs := by
  have reported : TidyIfAny (item.latestFact.bind fun fact => Text.nonBlank? fact.createdAt) := by
    intro t ht
    obtain ⟨fact, -, ht⟩ := Option.bind_eq_some_iff.1 ht
    exact Text.tidy_of_nonBlank? ht
  simp only [normalize]
  constructor
  · exact {
      hostname := tidy_resolveHostname _ _ _
      serial := tidyIfAny_bind_nonBlank? _
      displayName := Json.tidyIfAny_firstText? _ _
      ip := tidyIfAny_resolveIp fun _ => wellFormed_of_mem_resolveNetworks
      os := .or (Json.tidyIfAny_firstText? _ _) (Json.tidyIfAny_firstText? _ _)
      blueprint := Json.tidyIfAny_firstText? _ _
      site := Json.tidyIfAny_firstText? _ _
      rack := Json.tidyIfAny_firstText? _ _
      position := Json.tidyIfAny_firstText? _ _
      owner := Json.tidyIfAny_firstText? _ _
      notes := Json.tidyIfAny_firstText? _ _
      lastCheckIn := .or reported (tidyIfAny_nonBlank? _)
      hardware := wellFormed_resolveHardware _ _
      networks := fun _ => wellFormed_of_mem_resolveNetworks
      runs := by
        intro summary h
        obtain ⟨run, -, rfl⟩ := List.mem_map.1 h
        exact (summary_of run).wellFormed
      tags := fun _ => tidy_of_mem_resolveTags
      ascending := Text.pairwise_ascending _
      facts := by
        intro line h
        rw [updatedAt_of_mem_factLines h]
        exact reported
      length_facts := length_factLines_le _ _ }
  · rw [List.forall₂_map_right_iff]
    exact List.forall₂_same.2 fun run _ => summary_of run

end Fleet
