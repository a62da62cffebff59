/-
What an inventory counts and offers. The bucket of a status holds as many records as the filter for
the status selects, and the sites that are offered are those whose filter selects a record, each
once and in order (`agrees_ofItems`). A choice of a site is trimmed and the filter compares exactly,
so this rests on the sites of a normalized record being tidy.
-/
import Fleet.Inventory.Basic
import Fleet.Proofs.Inventory.Search
import Fleet.Proofs.Machine.Record
import Mathlib.Algebra.BigOperators.Group.List.Lemmas
import Mathlib.Algebra.GroupWithZero.Nat

namespace Fleet

open Text (TidyIfAny)

/-! ## Tallies -/

namespace StatusCounts

theorem total_add (counts : StatusCounts) (status : MachineStatus) :
    (counts.add status).total = counts.total + 1 := by
  cases status <;> simp only [total, buckets, MachineStatus.all, add, get, List.map_cons,
    List.map_nil, List.foldl_cons, List.foldl_nil] <;> omega

theorem sum_buckets (counts : StatusCounts) :
    (counts.buckets.map Prod.snd).sum = counts.total := by
  simp only [total, buckets, MachineStatus.all, List.map_cons, List.map_nil, List.foldl_cons,
    List.foldl_nil, List.sum_cons, List.sum_nil]
  omega

theorem get_foldl_add (records : List MachineRecord) (counts : StatusCounts)
    (status : MachineStatus) :
    (records.foldl (fun counts record => counts.add record.status) counts).get status =
      counts.get status + records.countP (·.status == status) := by
  induction records generalizing counts with
  | nil => rfl
  | cons record records ih =>
    rw [List.foldl_cons, ih, get_add, List.countP_cons, Nat.add_assoc, Nat.add_comm (ite _ _ _)]
    simp only [beq_iff_eq]

theorem total_foldl_add (records : List MachineRecord) (counts : StatusCounts) :
    (records.foldl (fun counts record => counts.add record.status) counts).total =
      counts.total + records.length := by
  induction records generalizing counts with
  | nil => rfl
  | cons record records ih =>
    rw [List.foldl_cons, ih, total_add, List.length_cons, Nat.add_assoc, Nat.add_comm 1]

theorem get_tally (records : List MachineRecord) (status : MachineStatus) :
    (tally records).get status = records.countP (·.status == status) := by
  have empty : ({} : StatusCounts).get status = 0 := by cases status <;> rfl
  rw [tally, get_foldl_add, empty, Nat.zero_add]

theorem total_tally (records : List MachineRecord) : (tally records).total = records.length := by
  rw [tally, total_foldl_add]
  exact Nat.zero_add _

end StatusCounts

/-! ## Filters of one clause -/

namespace InventoryFilter

theorem select_status (status : MachineStatus) (records : List MachineRecord) :
    select { status := some status } records = records.filter (·.status == status) := by
  refine List.filter_congr fun record _ => ?_
  rw [passes, passesSearch_of_unset, passesStatus, passesSite, Option.all_some, Option.all_none,
    Bool.and_true, Bool.and_true]

theorem select_site (site : String) (records : List MachineRecord) :
    select { site := some site } records = records.filter (·.site == some site) := by
  refine List.filter_congr fun record _ => ?_
  rw [passes, passesSearch_of_unset, passesStatus, passesSite, Option.all_some, Option.all_none,
    Bool.and_true, Bool.true_and]

end InventoryFilter

namespace Inventory

/-! ## Sites -/

/-- The sites of the records that have one, in the order of the records. -/
def recordSites (inventory : Inventory) : List String := inventory.records.filterMap (·.site)

theorem site_normalize (item : MachineItem) :
    (normalize item).site = (item.machine.profile.getD .null).firstText? Profile.site :=
  rfl

theorem sites_eq {inventory : Inventory}
    (tidy : ∀ record ∈ inventory.records, TidyIfAny record.site) :
    inventory.sites = Text.ascending inventory.recordSites := by
  have kept : ∀ record ∈ inventory.records, record.site.bind Text.nonBlank? = record.site := by
    intro record hr
    cases hs : record.site with
    | none => rfl
    | some site => rw [Option.bind_some, Text.nonBlank?_of_tidy (tidy record hr site hs)]
  rw [sites, recordSites, List.filterMap_congr kept]

theorem length_filter_site (inventory : Inventory) (site : String) :
    (inventory.filter { site := some site }).length = inventory.recordSites.count site := by
  rw [filter, InventoryFilter.select_site, recordSites, List.count_filterMap,
    List.countP_eq_length_filter]

/-- The counts and the choices of an inventory agree with what its filter selects. -/
structure Agrees (inventory : Inventory) : Prop where
  bucket : ∀ status, inventory.counts.get status =
    (inventory.filter { status := some status }).length
  displayed : inventory.counts.buckets.map Prod.fst =
    [.ready, .provisioning, .error, .offline, .maintenance, .unknown]
  sum : (inventory.counts.buckets.map Prod.snd).sum = inventory.size
  ascending : inventory.sites.Pairwise (· < ·)
  offered : ∀ site, site ∈ inventory.sites ↔ 0 < (inventory.filter { site := some site }).length
  located : (inventory.sites.map fun site =>
      (inventory.filter { site := some site }).length).sum =
    inventory.records.countP (·.site.isSome)

/-- Sites without blanks at their ends are offered as they stand in the records. -/
theorem agrees_of_tidy {inventory : Inventory}
    (tidy : ∀ record ∈ inventory.records, TidyIfAny record.site) : inventory.Agrees where
  bucket status := by
    rw [counts, StatusCounts.get_tally, filter, InventoryFilter.select_status,
      List.countP_eq_length_filter]
  displayed := rfl
  sum := by rw [StatusCounts.sum_buckets, counts, StatusCounts.total_tally, size]
  ascending := Text.pairwise_ascending _
  offered site := by
    rw [sites_eq tidy, Text.mem_ascending, length_filter_site, List.count_pos_iff]
  located := by
    have distinct : inventory.sites.Nodup :=
      (Text.pairwise_ascending _).imp fun below => String.ne_of_lt below
    have same : inventory.sites.Perm inventory.recordSites.dedup := by
      refine (List.perm_ext_iff_of_nodup distinct (List.nodup_dedup _)).2 fun site => ?_
      rw [sites_eq tidy, Text.mem_ascending, List.mem_dedup]
    simp only [length_filter_site]
    rw [(same.map _).sum_eq, List.sum_map_count_dedup_eq_length, recordSites,
      List.length_filterMap_eq_countP]

/-- In the inventory of a listing, the counts and the sites agree with the filter. -/
theorem agrees_ofItems (items : List MachineItem) : (ofItems items).Agrees := by
  refine agrees_of_tidy fun record hr => ?_
  obtain ⟨item, -, rfl⟩ := List.mem_map.1 hr
  rw [site_normalize]
  exact Json.tidyIfAny_firstText? _ _

end Inventory

end Fleet
