import Bedspace.Proofs.Search.ApprovedPremises
import Bedspace.Proofs.Search.TemporaryAccommodation

/-!
# What is true of a listed bed

Both searches choose from what they have read, each in its own way. Whatever they list, some things
are true of it in the whole store.

* `BedSearch.Lists` says that a search succeeds and lists a bed, `Place.Open` what is true of the
  bed then: it is one of the store, in active premises, in use on the first night, and nothing holds
  it;
* `BedSearch.findApprovedPremises_eq_ok` and `BedSearch.findTemporaryAccommodation_eq_ok` take apart
  a search that has succeeded, whatever methods are out of order;
* **`BedSearch.Lists.isOpen`**: every listed bed is open on the nights that are searched for.
-/

namespace Bedspace

open Operation

/-! ## 1. Listing -/

/-- The beds of results as places. -/
def BedSearchResults.places : BedSearchResults → List Place
  | .approvedPremises beds => beds.map ApprovedPremisesBed.place
  | .temporaryAccommodation groups => groups.flatMap TemporaryAccommodationGroup.places

namespace BedSearch

/-- The first night that is searched for. -/
def startDate : BedSearch → Date
  | approvedPremises search => search.startDate
  | temporaryAccommodation search => search.startDate

/-- The number of nights that are searched for. -/
def durationDays : BedSearch → Int
  | approvedPremises search => search.durationDays
  | temporaryAccommodation search => search.durationDays

/-- The nights that are searched for. -/
def nights (search : BedSearch) : DateRange := range search.startDate search.durationDays

/-- **A search succeeds and lists a bed**, with some usual distance and whatever methods are out of
    order. -/
def Lists (search : BedSearch) (world : World) (place : Place) : Prop :=
  ∃ faults defaultMiles results world',
    (find defaultMiles search).run faults world = (.ok results, world') ∧ place ∈ results.places

end BedSearch

/-- **A bed can be had on some nights**: it is one of the store, in active premises, in use on the
    first night and held by nothing. -/
structure Place.Open (place : Place) (store : Store) (nights : DateRange) : Prop where
  stored : ∃ inventory ∈ store.premises.rows, place ∈ inventory.places
  active : place.premises.isActive = true
  inService : place.InService nights.start
  free : store.BedFree Booking.range place.bed.id nights

/-! ## 2. What was read -/

theorem DateRange.overlaps_extendedBy {a b : DateRange} (days : Nat) (h : a.overlaps b = true) :
    (a.extendedBy days).overlaps b = true := by
  have hlast := a.stop.le_lastDay
  rw [overlaps_iff] at h
  rw [overlaps_iff, day_stop_extendedBy]
  refine ⟨h.1, ?_⟩
  omega

/-- **What is free by what was read is free**, over however early a window and with whatever
    turnaround it was read. -/
theorem Store.bedFree_of_occupancy {store : Store} {nights : DateRange} {lead : Nat}
    {turnaround : PremisesId → Nat} {bed : BedId}
    (h : (store.occupancy nights lead turnaround).blocks nights bed = false) :
    store.BedFree Booking.range bed nights := by
  obtain ⟨hbookings, hperiods⟩ := Bool.or_eq_false_iff.1 h
  rw [List.any_eq_false] at hbookings hperiods
  refine ⟨fun b hb hbed hlive => Bool.eq_false_iff.2 fun hov => ?_,
    fun p hp hbed hlive => Bool.eq_false_iff.2 fun hov => ?_⟩
  · refine hbookings b (List.mem_filter.2 ⟨hb, DateRange.overlaps_startingEarlierBy lead hov⟩) ?_
    rw [Bool.and_eq_true, decide_eq_true_eq, Booking.bookingBlocks_iff]
    exact ⟨hbed, hlive, DateRange.overlaps_extendedBy _ hov⟩
  · exact hperiods p (List.mem_filter.2 ⟨hp, hov⟩)
      (OutOfServicePeriod.blocks_iff.2 ⟨hbed, hlive, hov⟩)

/-- The free beds of active premises are open. -/
theorem Inventory.open_of_mem_freeBeds {store : Store} {inventory : Inventory}
    {required : RequiredCharacteristics} {nights : DateRange} {lead : Nat}
    {turnaround : PremisesId → Nat} {found : Room × Bed}
    (hinventory : inventory ∈ store.premises.rows)
    (hfit : required.fitPremises inventory.premises = true)
    (hfound : found ∈ inventory.freeBeds required nights (store.occupancy nights lead turnaround)) :
    (inventory.place found).Open store nights := by
  obtain ⟨hbed, hfound⟩ := List.mem_filter.1 hfound
  rw [Bool.and_eq_true, Bool.and_eq_true, Bool.not_eq_true'] at hfound
  obtain ⟨⟨_, hservice⟩, hfree⟩ := hfound
  exact
    { stored := ⟨inventory, hinventory, List.mem_map_of_mem hbed⟩
      active := (RequiredCharacteristics.fitPremises_iff.1 hfit).1
      inService := Bed.inServiceOn_iff.1 hservice
      free := Store.bedFree_of_occupancy hfree }

namespace BedSearch

/-! ## 3. Searches that have succeeded -/

variable {faults : Faults} {world world' : World}

theorem readOccupancy_eq_ok {estate : List Inventory} {nights : DateRange}
    {turnaround : PremisesId → Nat} {occupancy : Occupancy}
    (h : (readOccupancy estate nights turnaround).run faults world = (.ok occupancy, world')) :
    occupancy = world.store.occupancy nights (longestTurnaround estate) turnaround ∧
      world' = world := by
  unfold readOccupancy at h
  obtain ⟨bookings, _, hbookings, h₁⟩ := run_bind_eq_ok h
  obtain ⟨hread, rfl⟩ := run_call_eq_ok hbookings
  obtain ⟨periods, _, hperiods, h₂⟩ := run_bind_eq_ok h₁
  obtain ⟨hreadAgain, rfl⟩ := run_call_eq_ok hperiods
  cases hread
  cases hreadAgain
  cases h₂
  exact ⟨rfl, rfl⟩

/-- **A search in approved premises that has succeeded** broke no rule, around a district that is
    known, and lists what it reads from the store at once. -/
theorem findApprovedPremises_eq_ok {defaultMiles : Float} {search : ApprovedPremisesSearch}
    {beds : List ApprovedPremisesBed}
    (h : (findApprovedPremises defaultMiles search).run faults world = (.ok beds, world')) :
    approvedRules search (search.maxDistanceMiles.getD defaultMiles) = [] ∧
      ∃ district, world.store.district? search.postcodeDistrict = some district ∧
        beds = approvedListing world.store district.location
          (search.maxDistanceMiles.getD defaultMiles) search := by
  unfold findApprovedPremises at h
  obtain ⟨_, _, hobeyed, h₁⟩ := run_bind_eq_ok h
  obtain ⟨hrules, rfl⟩ := run_failIf_broken_eq_ok hobeyed
  obtain ⟨found, _, hfound, h₂⟩ := run_bind_eq_ok h₁
  obtain ⟨hdistrict, rfl⟩ := run_call_eq_ok hfound
  obtain ⟨district, _, hdemand, h₃⟩ := run_bind_eq_ok h₂
  obtain ⟨rfl, rfl⟩ := run_demand_eq_ok hdemand
  obtain ⟨estate, _, hestate, h₄⟩ := run_bind_eq_ok h₃
  obtain ⟨hread, rfl⟩ := run_call_eq_ok hestate
  obtain ⟨occupancy, _, hoccupancy, h₅⟩ := run_bind_eq_ok h₄
  obtain ⟨rfl, rfl⟩ := readOccupancy_eq_ok hoccupancy
  cases hread
  cases h₅
  refine ⟨hrules, district, ?_, rfl⟩
  rw [← district?_trim]
  exact Except.ok.inj hdistrict

/-- **A search in temporary accommodation that has succeeded** broke no rule and lists what it reads
    from the store at once. -/
theorem findTemporaryAccommodation_eq_ok {search : TemporaryAccommodationSearch}
    {groups : List TemporaryAccommodationGroup}
    (h : (findTemporaryAccommodation search).run faults world = (.ok groups, world')) :
    temporaryRules search = [] ∧ groups = temporaryListing world.store search := by
  unfold findTemporaryAccommodation at h
  obtain ⟨_, _, hobeyed, h₁⟩ := run_bind_eq_ok h
  obtain ⟨hrules, rfl⟩ := run_failIf_broken_eq_ok hobeyed
  obtain ⟨all, _, hestate, h₂⟩ := run_bind_eq_ok h₁
  obtain ⟨hread, rfl⟩ := run_call_eq_ok hestate
  obtain ⟨occupancy, _, hoccupancy, h₃⟩ := run_bind_eq_ok h₂
  obtain ⟨rfl, rfl⟩ := readOccupancy_eq_ok hoccupancy
  cases hread
  cases h₃
  exact ⟨hrules, rfl⟩

/-! ## 4. What they list -/

theorem open_of_mem_approvedListing {store : Store} {centre : Coordinates} {miles : Float}
    {search : ApprovedPremisesSearch} {found : ApprovedPremisesBed}
    (h : found ∈ approvedListing store centre miles search) :
    found.place.Open store (range search.startDate search.durationDays) := by
  have h := (List.mergeSort_perm _ _).mem_iff.1 h
  obtain ⟨inventory, hinventory, hfound⟩ := List.mem_flatMap.1 h
  unfold approvedBeds at hfound
  split at hfound
  · cases hfound
  · dsimp only at hfound
    split at hfound
    · cases hfound
    · rename_i hout
      rw [Bool.not_eq_true, Bool.or_eq_false_iff, Bool.not_eq_false'] at hout
      obtain ⟨free, hfree, rfl⟩ := List.mem_map.1 hfound
      exact Inventory.open_of_mem_freeBeds (List.mem_filter.1 hinventory).1 hout.1 hfree

theorem open_of_mem_temporaryListing {store : Store} {search : TemporaryAccommodationSearch}
    {group : TemporaryAccommodationGroup} (h : group ∈ temporaryListing store search)
    {place : Place} (hplace : place ∈ group.places) :
    place.Open store (range search.startDate search.durationDays) := by
  have h := (List.mergeSort_perm _ _).mem_iff.1 h
  obtain ⟨inventory, hinventory, hgroup⟩ := List.mem_filterMap.1 h
  unfold temporaryGroup? at hgroup
  split at hgroup
  · cases hgroup
  · rename_i hfit
    rw [Bool.not_eq_true, Bool.not_eq_false'] at hfit
    dsimp only at hgroup
    split at hgroup
    · cases hgroup
    · cases hgroup
      obtain ⟨free, hfree, rfl⟩ := List.mem_map.1 hplace
      exact Inventory.open_of_mem_freeBeds (temporaryEstate_subset hinventory) hfit
        ((List.mergeSort_perm _ _).mem_iff.1 hfree)

/-- **Every bed that a search lists is open** on the nights that are searched for, and the calendar
    has these nights. -/
theorem Lists.isOpen {search : BedSearch} {place : Place} (h : search.Lists world place) :
    durationRules search.startDate search.durationDays = [] ∧
      place.Open world.store search.nights := by
  obtain ⟨faults, defaultMiles, results, world', hrun, hplace⟩ := h
  cases search with
  | approvedPremises search =>
    obtain ⟨beds, _, hbeds, h₁⟩ := run_bind_eq_ok hrun
    cases h₁
    obtain ⟨hrules, district, _, rfl⟩ := findApprovedPremises_eq_ok hbeds
    obtain ⟨found, hfound, rfl⟩ := List.mem_map.1 hplace
    exact ⟨(List.append_eq_nil_iff.1 hrules).2, open_of_mem_approvedListing hfound⟩
  | temporaryAccommodation search =>
    obtain ⟨groups, _, hgroups, h₁⟩ := run_bind_eq_ok hrun
    cases h₁
    obtain ⟨hrules, rfl⟩ := findTemporaryAccommodation_eq_ok hgroups
    obtain ⟨group, hgroup, hplace⟩ := List.mem_flatMap.1 hplace
    exact ⟨(List.append_eq_nil_iff.1 hrules).2, open_of_mem_temporaryListing hgroup hplace⟩

end BedSearch

end Bedspace
