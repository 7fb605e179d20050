import Bedspace.Proofs.Runs
import Bedspace.Proofs.Search.Listing
import Bedspace.Proofs.Search.Scan
import Mathlib.Data.List.Perm.Basic

/-!
# The search in temporary accommodation

A booking holds its bed for the turnaround days of the premises after its departure as well. The
search reads bookings over a window that starts earlier by the longest turnaround among the premises
it looks at, and then adds to each booking the days of its own premises. It comes to the same as
looking at every bed and every booking of the store.

* `Store.BookedAtHome` and `Store.DepartsLater` say what a store has to be like: bookings name the
  premises of their bed, and depart after they arrive;
* `TemporaryAccommodationSearch.Offers` says which beds a search should list, and
  `TemporaryAccommodationSearch.Wants` which delivery units it wants;
* **`BedSearch.find_temporaryAccommodation`**: a valid search lists these beds, each with its
  premises, in groups that are in order, and counts them.
-/

namespace Bedspace

open Operation Text

/-- Every booking for a bed of some premises names these premises. -/
def Store.BookedAtHome (store : Store) : Prop :=
  ∀ inventory ∈ store.premises.rows, ∀ place ∈ inventory.places, ∀ b ∈ store.bookings.rows,
    b.bedId = place.bed.id → b.premisesId = inventory.premises.id

/-- Every booking departs after it arrives. -/
def Store.DepartsLater (store : Store) : Prop :=
  ∀ b ∈ store.bookings.rows, b.arrivalDate < b.departureDate

/-- The beds of a group as places. -/
def TemporaryAccommodationGroup.places (group : TemporaryAccommodationGroup) : List Place :=
  group.beds.map fun found => ⟨group.premises, found.1, found.2⟩

/-- A search wants a delivery unit: the name of one that is asked for, blanks around it aside and
    whatever its case, is that of the unit. A name that is nothing but blanks asks for none. -/
def TemporaryAccommodationSearch.Wants (search : TemporaryAccommodationSearch) (unit : String) :
    Prop :=
  ∃ wanted ∈ search.probationDeliveryUnits,
    trim wanted ≠ "" ∧ lowerCase (trim wanted) = lowerCase unit

/-- **What a search in temporary accommodation should list**, given which delivery units are wanted:
    the beds in active temporary accommodation of these units, with all characteristics that are
    required, in use on the first night and held by nothing in the whole store, where a booking lasts
    longer by the turnaround days of the premises. -/
structure TemporaryAccommodationSearch.Offers (search : TemporaryAccommodationSearch)
    (store : Store) (wanted : String → Prop) (nights : DateRange) (place : Place) : Prop where
  service : place.premises.service = .temporaryAccommodation
  active : place.premises.isActive = true
  unit : wanted place.premises.probationDeliveryUnit
  has : place.Has search.required
  inService : place.InService nights.start
  free : store.BedFree (fun b => b.range.extendedBy place.premises.turnaroundDays) place.bed.id
    nights

/-! ## 1. Turnaround -/

theorem le_longestTurnaround {estate : List Inventory} {inventory : Inventory}
    (h : inventory ∈ estate) :
    inventory.premises.turnaroundDays ≤ longestTurnaround estate := by
  unfold longestTurnaround
  rw [List.foldl_max]
  have hle := List.le_max?_getD_of_mem (k := 0)
    (List.mem_map_of_mem (f := fun i : Inventory => i.premises.turnaroundDays) h)
  exact Nat.le_trans hle (Nat.le_max_right _ _)

/-- Among premises of one store, the turnaround days that an identifier stands for are those of the
    premises. -/
theorem turnaroundOf_of_mem {store : Store} {estate : List Inventory} {inventory : Inventory}
    (hestate : estate ⊆ store.premises.rows) (h : inventory ∈ estate) :
    turnaroundOf estate inventory.premises.id = inventory.premises.turnaroundDays := by
  unfold turnaroundOf
  cases hfind : estate.find? fun i => i.premises.id = inventory.premises.id with
  | none =>
    have hne := List.find?_eq_none.1 hfind inventory h
    exact absurd (decide_eq_true rfl) hne
  | some found =>
    have hfits := List.find?_some hfind
    have hid : found.premises.id = inventory.premises.id := of_decide_eq_true hfits
    have hfound := hestate (List.mem_of_find?_eq_some hfind)
    have hkey : key found = key inventory := congrArg Id.text hid
    rw [store.premises.key_inj_of_mem hfound (hestate h) hkey]

theorem Booking.start_lt_stop {b : Booking} (h : b.arrivalDate < b.departureDate) :
    b.range.start < b.range.stop := by
  rw [Date.lt_def] at h ⊢
  show b.arrivalDate.day < (max b.departureDate b.arrivalDate).day
  rw [Date.day_max]
  omega

/-- What is read for a search among some premises, together with their turnaround days. -/
def Store.readLonger (store : Store) (nights : DateRange) (estate : List Inventory) : Occupancy :=
  store.occupancy nights (longestTurnaround estate) (turnaroundOf estate)

section

variable {store : Store} {search : TemporaryAccommodationSearch} {nights : DateRange}
  {estate : List Inventory} {inventory : Inventory}

/-- What was read over the window decides about a bed like all bookings of the store, where each
    lasts longer by the turnaround days of the premises. -/
theorem bedFree_iff_readLonger (hhome : store.BookedAtHome) (hdates : store.DepartsLater)
    (hnights : nights.start < nights.stop) (hestate : estate ⊆ store.premises.rows)
    (h : inventory ∈ estate) {place : Place} (hplace : place ∈ inventory.places) :
    (store.readLonger nights estate).blocks nights place.bed.id = false ↔
      store.BedFree (fun b => b.range.extendedBy place.premises.turnaroundDays) place.bed.id
        nights := by
  have hpremises := inventory.premises_of_mem_places hplace
  refine Store.bedFree_iff (fun b hb hbed => ?_) fun b hb hbed hov => ?_
  · rw [hhome inventory (hestate h) place hplace b hb hbed, turnaroundOf_of_mem hestate h, hpremises]
  · have hle : place.premises.turnaroundDays ≤ longestTurnaround estate :=
      hpremises ▸ le_longestTurnaround h
    exact DateRange.overlaps_window (Booking.start_lt_stop (hdates b hb)) hnights hle hov

/-! ## 2. The beds of one premises -/

open Classical in
/-- In premises that fit, the free beds are those that should be listed. -/
theorem map_place_longerFree (hhome : store.BookedAtHome) (hdates : store.DepartsLater)
    (hnights : nights.start < nights.stop) (hestate : estate ⊆ store.premises.rows)
    (h : inventory ∈ estate) (hservice : inventory.premises.service = .temporaryAccommodation)
    (hunit : search.Wants inventory.premises.probationDeliveryUnit)
    (hfit : search.required.fitPremises inventory.premises = true) :
    (inventory.freeBeds search.required nights (store.readLonger nights estate)).map
        inventory.place =
      inventory.places.filter (search.Offers store search.Wants nights) := by
  obtain ⟨hactive, hhas⟩ := RequiredCharacteristics.fitPremises_iff.1 hfit
  refine Inventory.map_place_freeBeds fun place hplace => ?_
  have hpremises := inventory.premises_of_mem_places hplace
  rw [bedFree_iff_readLonger hhome hdates hnights hestate h hplace]
  constructor
  · intro hoff
    exact ⟨hoff.has.room, hoff.inService, hoff.free⟩
  · rintro ⟨hroom, hservice', hfree⟩
    exact ⟨hpremises ▸ hservice, hpremises ▸ hactive, hpremises ▸ hunit,
      ⟨hpremises ▸ hhas, hroom⟩, hservice', hfree⟩

open Classical in
/-- **The group of some premises** has their beds that should be listed, and there is none without
    such beds. -/
theorem BedSearch.places_temporaryGroup (hhome : store.BookedAtHome)
    (hdates : store.DepartsLater) (hnights : nights.start < nights.stop)
    (hestate : estate ⊆ store.premises.rows) (h : inventory ∈ estate)
    (hservice : inventory.premises.service = .temporaryAccommodation)
    (hunit : search.Wants inventory.premises.probationDeliveryUnit) :
    ((temporaryGroup? search nights (store.readLonger nights estate)
        inventory).toList.flatMap TemporaryAccommodationGroup.places).Perm
      (inventory.places.filter (search.Offers store search.Wants nights)) := by
  unfold temporaryGroup?
  by_cases hfit : search.required.fitPremises inventory.premises = true
  · rw [if_neg (by simp [hfit]),
      ← map_place_longerFree hhome hdates hnights hestate h hservice hunit hfit]
    dsimp only
    by_cases hempty : (inventory.freeBeds search.required nights
        (store.readLonger nights estate)).isEmpty = true
    · rw [if_pos hempty, List.isEmpty_iff.1 hempty]
      exact .nil
    · rw [if_neg hempty, Option.toList_some, List.flatMap_singleton]
      exact (List.mergeSort_perm _ _).map inventory.place
  · rw [if_pos (by simp [hfit])]
    refine List.Perm.of_eq (inventory.filter_places_eq_nil fun place hplace hoff => hfit ?_).symm
    have hpremises := inventory.premises_of_mem_places hplace
    exact RequiredCharacteristics.fitPremises_iff.2
      ⟨hpremises ▸ hoff.active, hpremises ▸ hoff.has.premises⟩

/-! ## 3. The premises that are looked at -/

namespace BedSearch

/-- The premises that a search looks at. -/
def temporaryEstate (store : Store) (search : TemporaryAccommodationSearch) : List Inventory :=
  (store.inventory .temporaryAccommodation).filter fun inventory =>
    (wantedUnits search).contains (lowerCase inventory.premises.probationDeliveryUnit)

theorem wantedUnits_contains_iff {unit : String} :
    (wantedUnits search).contains (lowerCase unit) = true ↔ search.Wants unit := by
  unfold wantedUnits TemporaryAccommodationSearch.Wants
  rw [List.contains_iff_mem, List.mem_filter, List.mem_map, decide_eq_true_iff]
  constructor
  · rintro ⟨⟨wanted, hwanted, heq⟩, hne⟩
    refine ⟨wanted, hwanted, fun hblank => hne ?_, heq⟩
    rw [← heq, lowerCase_eq_empty_iff, hblank]
  · rintro ⟨wanted, hwanted, hne, heq⟩
    refine ⟨⟨wanted, hwanted, heq⟩, fun hempty => hne ?_⟩
    rw [← lowerCase_eq_empty_iff, heq, hempty]

theorem mem_temporaryEstate_iff :
    inventory ∈ temporaryEstate store search ↔
      inventory ∈ store.premises.rows ∧
        inventory.premises.service = .temporaryAccommodation ∧
        search.Wants inventory.premises.probationDeliveryUnit := by
  unfold temporaryEstate Store.inventory
  rw [List.mem_filter, List.mem_filter, wantedUnits_contains_iff, decide_eq_true_iff, and_assoc]

theorem temporaryEstate_subset : temporaryEstate store search ⊆ store.premises.rows :=
  fun _ h => (mem_temporaryEstate_iff.1 h).1

open Classical in
/-- A condition on beds that only premises meet that are looked at selects the same from these as
    from the whole store. -/
theorem places_temporaryEstate :
    (temporaryEstate store search).flatMap (fun inventory =>
        inventory.places.filter (search.Offers store search.Wants nights)) =
      store.places.filter (search.Offers store search.Wants nights) := by
  unfold temporaryEstate Store.inventory
  rw [List.filter_filter]
  refine Store.flatMap_filter_places fun inventory place hplace hoff => ?_
  have hpremises := inventory.premises_of_mem_places hplace
  exact Bool.and_eq_true_iff.2 ⟨wantedUnits_contains_iff.2 (hpremises ▸ hoff.unit),
    decide_eq_true (hpremises ▸ hoff.service)⟩

/-! ## 4. The search -/

/-- What a search lists that reads a store at once. -/
def temporaryListing (store : Store) (search : TemporaryAccommodationSearch) :
    List TemporaryAccommodationGroup :=
  let nights := range search.startDate search.durationDays
  let estate := temporaryEstate store search
  (estate.filterMap (temporaryGroup? search nights (store.readLonger nights estate))).mergeSort
    groupListedBefore

theorem run_findTemporaryAccommodation {world : World} (hrules : temporaryRules search = []) :
    (findTemporaryAccommodation search).run .none world =
      (.ok (temporaryListing world.store search), world) := by
  unfold findTemporaryAccommodation
  rw [run_bind_of_ok (run_obey hrules), run_bind_of_ok run_inventory]
  dsimp only
  rw [run_bind_of_ok run_readOccupancy]
  rfl

open Classical in
/-- **The beds that a search lists** are those of the store that should be listed. -/
theorem places_temporaryListing (hhome : store.BookedAtHome) (hdates : store.DepartsLater)
    (hdays : 0 < search.durationDays)
    (hstop : (range search.startDate search.durationDays).stop.day =
      search.startDate.day + search.durationDays) :
    ((temporaryListing store search).flatMap TemporaryAccommodationGroup.places).Perm
      (store.places.filter (search.Offers store search.Wants
        (range search.startDate search.durationDays))) := by
  have hnights : (range search.startDate search.durationDays).start <
      (range search.startDate search.durationDays).stop := by
    rw [Date.lt_def, hstop]
    show search.startDate.day < _
    omega
  refine ((List.mergeSort_perm _ _).flatMap_right _).trans ?_
  rw [List.filterMap_eq_flatMap_toList, List.flatMap_assoc, ← places_temporaryEstate]
  refine List.Perm.flatMap_left _ fun inventory h => ?_
  obtain ⟨_, hservice, hunit⟩ := mem_temporaryEstate_iff.1 h
  exact places_temporaryGroup hhome hdates hnights temporaryEstate_subset h hservice hunit

/-- What a group has is what the search makes of premises. -/
theorem temporaryGroup?_eq_some {occupancy : Occupancy} {group : TemporaryAccommodationGroup}
    (h : temporaryGroup? search nights occupancy inventory = some group) :
    group.premises = inventory.premises ∧ group.beds ≠ [] ∧
      group.beds.Pairwise fun a b => Precedes [a.1.name, a.2.name] [b.1.name, b.2.name] := by
  unfold temporaryGroup? at h
  split at h
  · cases h
  · dsimp only at h
    split at h
    · cases h
    · rename_i hbeds
      cases h
      refine ⟨rfl, fun hnil => hbeds ?_, pairwise_bedsByName _⟩
      have hperm := List.mergeSort_perm
        (inventory.freeBeds search.required nights occupancy) bedListedBefore
      exact List.isEmpty_iff.2 (hperm.symm.trans (.of_eq hnil)).eq_nil

/-- Every premises have one group at most. -/
theorem nodup_temporaryListing :
    ((temporaryListing store search).map fun group => group.premises.id).Nodup := by
  have hdistinct : (temporaryEstate store search).Pairwise fun a b =>
      a.premises.id ≠ b.premises.id := by
    have hrows : store.premises.rows.Pairwise fun a b => a.premises.id ≠ b.premises.id :=
      store.premises.ascending.imp fun {a b} hlt heq =>
        String.ne_of_lt hlt (congrArg Id.text heq)
    exact (hrows.filter _).filter _
  refine (((List.mergeSort_perm _ _).map _).nodup_iff).2 ?_
  refine List.pairwise_map.2 (hdistinct.filterMap _ fun a b hne group ha other hb => ?_)
  rw [(temporaryGroup?_eq_some ha).1, (temporaryGroup?_eq_some hb).1]
  exact hne

open Classical in
/-- **A search in temporary accommodation lists exactly the beds of the store that it should**, each
    as often as the store has it and in the one group of its premises. No group is empty; groups are
    in the order of the names and identifiers of premises, beds in that of the names of room and bed.
    The counts are those of groups, of different rooms and of beds. It leaves the store as it was. -/
theorem find_temporaryAccommodation {world : World} {defaultMiles : Float}
    (hrules : temporaryRules search = []) (hhome : world.store.BookedAtHome)
    (hdates : world.store.DepartsLater) :
    ∃ groups nights,
      (find defaultMiles (.temporaryAccommodation search)).run .none world =
        (.ok (.temporaryAccommodation groups), world) ∧
      nights.start = search.startDate ∧
      nights.stop.day = search.startDate.day + search.durationDays ∧
      (groups.flatMap TemporaryAccommodationGroup.places).Perm
        (world.store.places.filter (search.Offers world.store search.Wants nights)) ∧
      (∀ group ∈ groups, group.beds ≠ []) ∧
      (groups.map fun group => group.premises.id).Nodup ∧
      (groups.Pairwise fun a b =>
        Precedes [a.premises.name, a.premises.id.text] [b.premises.name, b.premises.id.text]) ∧
      (∀ group ∈ groups, group.beds.Pairwise fun a b =>
        Precedes [a.1.name, a.2.name] [b.1.name, b.2.name]) ∧
      (BedSearchResults.temporaryAccommodation groups).counts =
        ⟨groups.length,
          ((groups.flatMap TemporaryAccommodationGroup.places).map
            fun place => place.room.id.text).toFinset.card,
          (groups.flatMap TemporaryAccommodationGroup.places).length⟩ := by
  obtain ⟨hstart, hstop, hdays⟩ := range_of_durationRules (List.append_eq_nil_iff.1 hrules).2
  have hgroup {group : TemporaryAccommodationGroup}
      (h : group ∈ temporaryListing world.store search) :
      group.beds ≠ [] ∧
        group.beds.Pairwise fun a b => Precedes [a.1.name, a.2.name] [b.1.name, b.2.name] := by
    have h := (List.mergeSort_perm _ _).mem_iff.1 h
    obtain ⟨inventory, _, h⟩ := List.mem_filterMap.1 h
    exact (temporaryGroup?_eq_some h).2
  refine ⟨temporaryListing world.store search, range search.startDate search.durationDays, ?_,
    hstart, hstop, places_temporaryListing hhome hdates hdays hstop, fun group h => (hgroup h).1,
    nodup_temporaryListing, pairwise_groupsByName _, fun group h => (hgroup h).2, ?_⟩
  · unfold find
    rw [run_bind_of_ok (run_findTemporaryAccommodation hrules)]
    rfl
  · rw [BedSearchResults.counts, BedSearchResults.distinct_eq]
    unfold TemporaryAccommodationGroup.places
    rw [List.map_flatMap, List.length_flatMap, List.length_flatMap]
    simp only [List.map_map, List.length_map]
    rfl

/-- Temporary accommodation of a delivery unit, with a room of some beds and two turnaround days. -/
def roomOf (unit : String) (beds : List Bed) : Store :=
  Store.empty.putPremises
    { premises :=
        { id := ⟨"premises-1"⟩, name := "Ash House", service := .temporaryAccommodation
          status := .active, postcode := "LS2 2BB", probationDeliveryUnit := unit
          location := none, characteristics := ∅, turnaroundDays := 2 }
      rooms := [⟨⟨⟨"room-1"⟩, ⟨"premises-1"⟩, "Room 1", ∅⟩, beds⟩] }

/-- The bed in the room. -/
def theBed : Bed := ⟨⟨"bed-1"⟩, ⟨"room-1"⟩, "Bed 1", none⟩

/-- Temporary accommodation of a delivery unit with one bed. -/
def oneBedOf (unit : String) : Store := roomOf unit [theBed]

/-- The first of March 2026. -/
def firstOfMarch : Date := ⟨20513, by decide, by decide⟩

/-- A stay in that bed that ends two days before the first of March. -/
def februaryStay : Booking :=
  { id := ⟨"booking-1"⟩, crn := "X1", premisesId := ⟨"premises-1"⟩, bedId := ⟨"bed-1"⟩
    arrivalDate := firstOfMarch.earlier 9, departureDate := firstOfMarch.earlier 2
    applicationId := none, placementRequestId := none, createdOn := firstOfMarch.earlier 20
    arrival := none, nonArrival := none, cancellation := none }

/-- A house in Leeds with that stay. -/
def houseInLeeds : Store :=
  { oneBedOf "Leeds" with bookings := .ofList [februaryStay] }

/-- A search for one night from the first of March, for no unit by name and for Leeds. -/
def searchOfMarch : TemporaryAccommodationSearch :=
  { probationDeliveryUnits := [" ", "LEEDS "], startDate := firstOfMarch, durationDays := 1
    required := .none }

open Classical in
theorem find_temporaryAccommodation_sample :
    ∃ groups nights,
      (find 50.0 (.temporaryAccommodation searchOfMarch)).run .none (.ofStore houseInLeeds) =
        (.ok (.temporaryAccommodation groups), .ofStore houseInLeeds) ∧
      (groups.flatMap TemporaryAccommodationGroup.places).Perm
        (houseInLeeds.places.filter
          (searchOfMarch.Offers houseInLeeds searchOfMarch.Wants nights)) := by
  have hrules : temporaryRules searchOfMarch = [] := by decide +kernel
  have hhome : (World.ofStore houseInLeeds).store.BookedAtHome := by
    unfold Store.BookedAtHome
    decide
  have hdates : (World.ofStore houseInLeeds).store.DepartsLater := by
    unfold Store.DepartsLater
    decide
  obtain ⟨groups, nights, hrun, _, _, hperm, _⟩ :=
    find_temporaryAccommodation hrules hhome hdates
  exact ⟨groups, nights, hrun, hperm⟩

/-- Every bed of the room should be listed if its unit is wanted. -/
theorem offers_of_mem_roomOf {unit : String} {beds : List Bed} {wants : String → Prop} {place : Place}
    (hwants : wants unit) (hbeds : ∀ bed ∈ beds, bed = theBed)
    (h : place ∈ (roomOf unit beds).places) :
    searchOfMarch.Offers (roomOf unit beds) wants
      (range searchOfMarch.startDate searchOfMarch.durationDays) place := by
  obtain ⟨inventory, hinventory, h⟩ := List.mem_flatMap.1 h
  obtain rfl := List.mem_singleton.1 hinventory
  obtain ⟨found, hfound, rfl⟩ := List.mem_map.1 h
  obtain ⟨room, hroom, hfound⟩ := List.mem_flatMap.1 hfound
  obtain rfl := List.mem_singleton.1 hroom
  obtain ⟨bed, hbed, rfl⟩ := List.mem_map.1 hfound
  obtain rfl := hbeds bed hbed
  exact
    { service := rfl
      active := rfl
      unit := hwants
      has := ⟨fun _ h => (List.not_mem_nil h).elim, fun _ h => (List.not_mem_nil h).elim⟩
      inService := fun _ h => nomatch h
      free := ⟨fun _ h => (List.not_mem_nil h).elim, fun _ h => (List.not_mem_nil h).elim⟩ }

open Classical in
/-- **A unit that is asked for by nothing but blanks is no unit**: premises whose unit has no name
    are not found by it, although it is the same name once the blanks are off. And a bed that its
    room has twice is listed twice. -/
theorem blankUnit_not_found_repeatedBed_twice :
    temporaryRules searchOfMarch = [] ∧ (oneBedOf "").BookedAtHome ∧ (oneBedOf "").DepartsLater ∧
      (∃ place ∈ (oneBedOf "").places,
        searchOfMarch.Offers (oneBedOf "")
          (fun unit => ∃ wanted ∈ searchOfMarch.probationDeliveryUnits,
            lowerCase (trim wanted) = lowerCase unit)
          (range searchOfMarch.startDate searchOfMarch.durationDays) place) ∧
      (find 50.0 (.temporaryAccommodation searchOfMarch)).run .none (.ofStore (oneBedOf "")) =
        (.ok (.temporaryAccommodation []), .ofStore (oneBedOf "")) ∧
      let repeated := roomOf "Leeds" [theBed, theBed]
      repeated.BookedAtHome ∧ repeated.DepartsLater ∧ ∃ groups,
        (find 50.0 (.temporaryAccommodation searchOfMarch)).run .none (.ofStore repeated) =
          (.ok (.temporaryAccommodation groups), .ofStore repeated) ∧
        (groups.flatMap TemporaryAccommodationGroup.places).map (fun place => place.bed.id) =
          [theBed.id, theBed.id] := by
  have hrules : temporaryRules searchOfMarch = [] := by decide +kernel
  have hhome : (roomOf "Leeds" [theBed, theBed]).BookedAtHome := fun _ _ _ _ _ hb => nomatch hb
  have hdates : (roomOf "Leeds" [theBed, theBed]).DepartsLater := fun _ hb => nomatch hb
  refine ⟨hrules, ?_, ?_, ?_, ?_, hhome, hdates,
    temporaryListing (roomOf "Leeds" [theBed, theBed]) searchOfMarch, ?_, ?_⟩
  · intro _ _ _ _ _ hb
    cases hb
  · intro _ hb
    cases hb
  · exact ⟨_, List.mem_cons_self, offers_of_mem_roomOf
      ⟨" ", List.mem_cons_self, by decide +kernel⟩ (fun _ => List.mem_singleton.1)
      List.mem_cons_self⟩
  · have hestate : temporaryEstate (oneBedOf "") searchOfMarch = [] := by
      rw [← List.isEmpty_iff]
      decide +kernel
    have hlisting : temporaryListing (oneBedOf "") searchOfMarch = [] := by
      unfold temporaryListing
      rw [hestate]
      exact List.mergeSort_nil
    unfold find
    rw [run_bind_of_ok (run_findTemporaryAccommodation hrules)]
    show (Except.ok (BedSearchResults.temporaryAccommodation
      (temporaryListing (oneBedOf "") searchOfMarch)), _) = _
    rw [hlisting]
  · unfold find
    rw [run_bind_of_ok (run_findTemporaryAccommodation hrules)]
    rfl
  · obtain ⟨_, hstop, hdays⟩ := range_of_durationRules (List.append_eq_nil_iff.1 hrules).2
    have hwants : searchOfMarch.Wants "Leeds" := by
      unfold TemporaryAccommodationSearch.Wants
      decide +kernel
    have hbeds : ∀ bed ∈ [theBed, theBed], bed = theBed := by
      decide
    have hperm := places_temporaryListing hhome hdates hdays hstop
    rw [List.filter_eq_self.2 fun place hplace =>
      decide_eq_true (offers_of_mem_roomOf hwants hbeds hplace)] at hperm
    -- both are the same bed, so their order is no matter
    have hids : (List.map (fun place : Place => place.bed.id) _).Perm
        (List.replicate 2 theBed.id) := hperm.map _
    exact List.perm_replicate.1 hids

end BedSearch

end

end Bedspace
