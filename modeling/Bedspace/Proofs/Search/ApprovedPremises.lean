import Bedspace.Proofs.Loading
import Bedspace.Proofs.Runs
import Bedspace.Proofs.Search.Listing
import Bedspace.Proofs.Search.Scan

/-!
# The search in approved premises

The search reads the estate of its service, what holds beds around the nights and the centre of the
district, and chooses from that. It comes to the same as looking at every bed of the store.

* `ApprovedPremisesSearch.Offers` says which beds a search should list;
* `BedSearch.map_place_approvedBeds` says so of the beds of one premises;
* `System.ReachesLoading.nodup_places`: whatever is loaded and whatever clients do, no bed is twice
  in the store;
* **`BedSearch.find_approvedPremises`**: a valid search around a district that is known lists these
  beds, nearest first, and counts them. `BedSearch.elmAndOak` is a store in which everything that
  can keep a bed from being listed does so.
-/

namespace Bedspace

open Operation

/-- A result as a place. -/
def ApprovedPremisesBed.place (found : ApprovedPremisesBed) : Place :=
  ⟨found.premises, found.room, found.bed⟩

/-- **What a search in approved premises should list**: the beds in active approved premises not
    farther from the centre than the distance that is searched within, with all characteristics that
    are required, in use on the first night and held by nothing in the whole store. -/
structure ApprovedPremisesSearch.Offers (search : ApprovedPremisesSearch) (store : Store)
    (centre : Coordinates) (miles : Float) (nights : DateRange) (place : Place) : Prop where
  service : place.premises.service = .approvedPremises
  active : place.premises.isActive = true
  near : ∃ location, place.premises.location = some location ∧ ¬ centre.miles location > miles
  has : place.Has search.required
  inService : place.InService nights.start
  free : store.BedFree Booking.range place.bed.id nights

/-- Whether a bed can be listed as far as its room, its end date and what was read to hold it go. -/
def ApprovedPremisesSearch.takes (search : ApprovedPremisesSearch) (store : Store)
    (nights : DateRange) (lead : Nat) (place : Place) : Bool :=
  search.required.fitRoom place.room && place.bed.inServiceOn nights.start
    && !(store.occupancy nights lead fun _ => 0).blocks nights place.bed.id

namespace BedSearch

/-! ## 1. The beds of one premises -/

variable {store : Store} {search : ApprovedPremisesSearch} {centre : Coordinates} {miles : Float}
  {nights : DateRange} {lead : Nat} {inventory : Inventory}

/-- Without turnaround, a bed is free by what was read exactly if nothing in the store holds it. -/
theorem bedFree_iff_read {bed : BedId} :
    (store.occupancy nights lead fun _ => 0).blocks nights bed = false ↔
      store.BedFree Booking.range bed nights :=
  Store.bedFree_iff (fun b _ _ => b.range.extendedBy_zero)
    (fun _ _ _ h => DateRange.overlaps_startingEarlierBy lead h)

theorem takes_iff {place : Place} : search.takes store nights lead place = true ↔
    (∀ text ∈ search.required.room.rows, text ∈ place.room.characteristics.rows) ∧
      place.InService nights.start ∧
      (store.occupancy nights lead fun _ => 0).blocks nights place.bed.id = false := by
  rw [ApprovedPremisesSearch.takes, Bool.and_eq_true, Bool.and_eq_true, Bool.not_eq_true',
    RequiredCharacteristics.fitRoom, TextSet.subset_iff, Bed.inServiceOn_iff, and_assoc]
  exact Iff.rfl

/-- **A bed should be listed** exactly if its premises are such as are searched for and the search
    takes the bed, by what it has read. -/
theorem offers_iff {place : Place} (lead : Nat) :
    search.Offers store centre miles nights place ↔
      (place.premises.service = .approvedPremises ∧
        search.required.fitPremises place.premises = true ∧
        ∃ location, place.premises.location = some location ∧ ¬ centre.miles location > miles) ∧
      search.takes store nights lead place = true := by
  rw [takes_iff, bedFree_iff_read, RequiredCharacteristics.fitPremises_iff]
  constructor
  · intro h
    exact ⟨⟨h.service, ⟨h.active, h.has.premises⟩, h.near⟩, h.has.room, h.inService, h.free⟩
  · rintro ⟨⟨hservice, ⟨hactive, hpremises⟩, hnear⟩, hroom, hin, hfree⟩
    exact ⟨hservice, hactive, hnear, ⟨hpremises, hroom⟩, hin, hfree⟩

open Classical in
/-- **The results for one premises of the service** are its beds that should be listed. -/
theorem map_place_approvedBeds (hservice : inventory.premises.service = .approvedPremises) :
    (approvedBeds centre miles search nights (store.occupancy nights lead fun _ => 0)
        inventory).map ApprovedPremisesBed.place =
      inventory.places.filter (search.Offers store centre miles nights) := by
  unfold approvedBeds
  cases hloc : inventory.premises.location with
  | none =>
    refine (inventory.filter_places_eq_nil fun place hplace hoff => ?_).symm
    obtain ⟨location, hlocation, _⟩ := hoff.near
    rw [inventory.premises_of_mem_places hplace, hloc] at hlocation
    cases hlocation
  | some location =>
    dsimp only
    by_cases hout : (!search.required.fitPremises inventory.premises
        || decide (centre.miles location > miles)) = true
    · rw [if_pos hout]
      refine (inventory.filter_places_eq_nil fun place hplace hoff => ?_).symm
      obtain ⟨⟨_, hfit, location', hlocation, hnear⟩, _⟩ := (offers_iff lead).1 hoff
      rw [inventory.premises_of_mem_places hplace] at hfit hlocation
      cases hloc.symm.trans hlocation
      rw [hfit, decide_eq_false hnear] at hout
      cases hout
    · rw [if_neg hout, List.map_map]
      obtain ⟨hfit, hnear⟩ := Bool.or_eq_false_iff.1 (Bool.eq_false_iff.2 hout)
      rw [Bool.not_eq_false'] at hfit
      refine Inventory.map_place_freeBeds fun place hplace => ?_
      rw [offers_iff lead, takes_iff, inventory.premises_of_mem_places hplace]
      exact and_iff_right ⟨hservice, hfit, location, hloc, of_decide_eq_false hnear⟩

open Classical in
/-- The results for all premises that are read are the beds of the store that should be listed. -/
theorem map_place_estate :
    ((store.inventory .approvedPremises).flatMap (approvedBeds centre miles search nights
        (store.occupancy nights lead fun _ => 0))).map ApprovedPremisesBed.place =
      store.places.filter (search.Offers store centre miles nights) := by
  have hlooked (inventory : Inventory) (place : Place) (hplace : place ∈ inventory.places)
      (hoff : search.Offers store centre miles nights place) :
      decide (inventory.premises.service = .approvedPremises) = true :=
    decide_eq_true (inventory.premises_of_mem_places hplace ▸ hoff.service)
  rw [List.map_flatMap, ← Store.flatMap_filter_places hlooked]
  refine List.flatMap_congr fun inventory hinventory => ?_
  exact map_place_approvedBeds (of_decide_eq_true (List.mem_filter.1 hinventory).2)

end BedSearch

/-! ## 2. No bed twice -/

theorem Inventory.DistinctBeds.nodup_places {inventory : Inventory} (h : inventory.DistinctBeds) :
    inventory.places.Nodup := by
  refine List.Nodup.of_map (fun place => place.bed.id) ?_
  rw [places, List.map_map]
  exact h

/-- **No bed is twice in a store** whose estate was imported: not in the same premises, which have
    distinct beds, and not in others, which have another identifier. -/
theorem Store.Imported.nodup_places {store : Store} (h : store.Imported) : store.places.Nodup := by
  refine List.nodup_flatMap.2 ⟨fun inventory hinventory => ?_,
    store.premises.ascending.imp fun {a b} hlt => ?_⟩
  · exact (h.premises inventory hinventory).nodup_places
  · intro place ha hb
    have hsame := (a.premises_of_mem_places ha).symm.trans (b.premises_of_mem_places hb)
    exact String.ne_of_lt hlt (congrArg (fun premises => premises.id.text) hsame)

theorem System.ReachesLoading.nodup_places {s : System}
    (h : (idle (.ofStore .empty)).ReachesLoading s) : s.world.store.places.Nodup :=
  (h.imported (entrusted_idle Store.unused_empty.sound) Store.imported_empty).nodup_places

namespace BedSearch

variable {store : Store} {search : ApprovedPremisesSearch} {centre : Coordinates}
  {inventory : Inventory}

/-! ## 3. The search -/

/-- The distance of a result is that of its premises from the centre. -/
theorem distance_of_mem_approvedBeds {occupancy : Occupancy} {found : ApprovedPremisesBed}
    (h : found ∈ approvedBeds centre miles search nights occupancy inventory) :
    ∃ location, found.premises.location = some location ∧
      found.distanceMiles = centre.miles location := by
  unfold approvedBeds at h
  split at h
  · cases h
  · rename_i location hloc
    dsimp only at h
    split at h
    · cases h
    · obtain ⟨place, _, rfl⟩ := List.mem_map.1 h
      exact ⟨location, hloc, rfl⟩

/-- Blanks around an outcode make no difference. -/
theorem district?_trim {raw : String} : store.district? (Text.trim raw) = store.district? raw := by
  rw [Store.district?, Store.district?, normalizeOutcode, normalizeOutcode, Text.trim_trim]

/-- What a search lists that reads a store at once. -/
def approvedListing (store : Store) (centre : Coordinates) (miles : Float)
    (search : ApprovedPremisesSearch) : List ApprovedPremisesBed :=
  let nights := range search.startDate search.durationDays
  let estate := store.inventory .approvedPremises
  (estate.flatMap (approvedBeds centre miles search nights
    (store.occupancy nights (longestTurnaround estate) fun _ => 0))).mergeSort nearerFirst

theorem run_findApprovedPremises {world : World} {defaultMiles : Float} {district : District}
    (hrules : approvedRules search (search.maxDistanceMiles.getD defaultMiles) = [])
    (hdistrict : world.store.district? search.postcodeDistrict = some district) :
    (findApprovedPremises defaultMiles search).run .none world =
      (.ok (approvedListing world.store district.location
        (search.maxDistanceMiles.getD defaultMiles) search), world) := by
  have hfound : (call BedSearchError.store
      (.district (Text.trim search.postcodeDistrict))).run .none world =
      (.ok (some district), world) := by
    rw [← hdistrict, ← district?_trim]
    exact run_call_of_ok rfl
  unfold findApprovedPremises
  dsimp only
  rw [run_bind_of_ok (run_obey hrules), run_bind_of_ok hfound, run_bind_of_ok run_demand_some,
    run_bind_of_ok run_inventory, run_bind_of_ok run_readOccupancy]
  rfl

open Classical in
/-- **A search in approved premises lists exactly the beds of the store that it should**, each as
    often as the store has it, with the distance of its premises, nearest first and at one distance
    by the names of premises, room and bed, and counts them. It leaves the store as it was. So each
    bed is listed once if the store has none twice, as no store has that clients reach while estates
    are loaded. -/
theorem find_approvedPremises {world : World} {defaultMiles : Float} {district : District}
    (hrules : approvedRules search (search.maxDistanceMiles.getD defaultMiles) = [])
    (hdistrict : world.store.district? search.postcodeDistrict = some district) :
    ∃ beds nights,
      (find defaultMiles (.approvedPremises search)).run .none world =
        (.ok (.approvedPremises beds), world) ∧
      nights.start = search.startDate ∧
      nights.stop.day = search.startDate.day + search.durationDays ∧
      (beds.map ApprovedPremisesBed.place).Perm
        (world.store.places.filter (search.Offers world.store district.location
          (search.maxDistanceMiles.getD defaultMiles) nights)) ∧
      (world.store.places.Nodup ∨
          (∃ clients, (System.idle (.ofStore .empty)).ReachesLoading ⟨world, clients⟩) →
        (beds.map ApprovedPremisesBed.place).Nodup) ∧
      (∀ found ∈ beds, ∃ location, found.premises.location = some location ∧
        found.distanceMiles = district.location.miles location) ∧
      beds.Pairwise ApprovedPremisesBed.NotAfter ∧
      (BedSearchResults.approvedPremises beds).counts =
        ⟨(beds.map fun found => found.premises.id.text).toFinset.card,
          (beds.map fun found => found.room.id.text).toFinset.card, beds.length⟩ := by
  have hnights := range_of_durationRules (List.append_eq_nil_iff.1 hrules).2
  have hperm : ((approvedListing world.store district.location
        (search.maxDistanceMiles.getD defaultMiles) search).map ApprovedPremisesBed.place).Perm
      (world.store.places.filter (search.Offers world.store district.location
        (search.maxDistanceMiles.getD defaultMiles)
        (range search.startDate search.durationDays))) := by
    refine ((List.mergeSort_perm _ _).map _).trans ?_
    rw [map_place_estate]
  refine ⟨approvedListing world.store district.location
    (search.maxDistanceMiles.getD defaultMiles) search,
    range search.startDate search.durationDays, ?_, hnights.1, hnights.2.1, hperm, fun honce => ?_,
    ?_, ?_, ?_⟩
  · unfold find
    rw [run_bind_of_ok (run_findApprovedPremises hrules hdistrict)]
    rfl
  · have hplaces : world.store.places.Nodup := by
      rcases honce with honce | ⟨clients, hreach⟩
      · exact honce
      · exact hreach.nodup_places
    exact hperm.nodup_iff.2 (hplaces.filter _)
  · intro found hfound
    have hfound := (List.mergeSort_perm _ _).mem_iff.1 hfound
    obtain ⟨inventory, _, hfound⟩ := List.mem_flatMap.1 hfound
    exact distance_of_mem_approvedBeds hfound
  · exact pairwise_nearest _
  · rw [BedSearchResults.counts, BedSearchResults.distinct_eq, BedSearchResults.distinct_eq]

/-- Approved premises in Leeds. -/
def leedsHouse (id name : String) (location : Coordinates) : Premises :=
  { id := ⟨id⟩, name, service := .approvedPremises, status := .active, postcode := "LS1 1AA"
    probationDeliveryUnit := "Leeds", location := some location, characteristics := ∅
    turnaroundDays := 0 }

/-- What is asked of a room. -/
def stepFree : TextSet := (∅ : TextSet).put "step free"

/-- The night from which beds are wanted. -/
def firstNight : Date := Date.first.later 10

/-- Where the first house stands. -/
def elm : Coordinates := ⟨53.8, -1.5⟩

/-- Where the second house stands, farther north. -/
def oak : Coordinates := ⟨53.9, -1.5⟩

/-- A house with one bed that can be had, since its booking is cancelled. Of the others one is booked,
    one is out of service, one has come to its end date, and one is up some steps. -/
def elmHouse : Inventory :=
  { premises := leedsHouse "elm" "Elm House" elm
    rooms := [⟨⟨⟨"elm-1"⟩, ⟨"elm"⟩, "Room 1", stepFree⟩,
        [⟨⟨"elm-free"⟩, ⟨"elm-1"⟩, "Bed 1", none⟩, ⟨⟨"elm-booked"⟩, ⟨"elm-1"⟩, "Bed 2", none⟩,
          ⟨⟨"elm-broken"⟩, ⟨"elm-1"⟩, "Bed 3", none⟩,
          ⟨⟨"elm-ended"⟩, ⟨"elm-1"⟩, "Bed 4", some firstNight⟩]⟩,
      ⟨⟨⟨"elm-2"⟩, ⟨"elm"⟩, "Room 2", ∅⟩, [⟨⟨"elm-upstairs"⟩, ⟨"elm-2"⟩, "Bed 1", none⟩]⟩] }

/-- A house farther north with one bed. -/
def oakHouse : Inventory :=
  { premises := leedsHouse "oak" "Oak House" oak
    rooms := [⟨⟨⟨"oak-1"⟩, ⟨"oak"⟩, "Room 1", stepFree⟩,
      [⟨⟨"oak-free"⟩, ⟨"oak-1"⟩, "Bed 1", none⟩]⟩] }

/-- Both houses in a district with its centre at the first one. -/
def elmAndOak : Store :=
  { Store.empty with
    premises := .ofList [elmHouse, oakHouse]
    districts := .ofList [⟨"LS1", elm⟩]
    bookings := .ofList [
      { id := ⟨"booking-1"⟩, crn := "X1", premisesId := ⟨"elm"⟩, bedId := ⟨"elm-booked"⟩
        arrivalDate := firstNight.earlier 7, departureDate := firstNight.later 1
        applicationId := none, placementRequestId := none, createdOn := .first, arrival := none
        nonArrival := none, cancellation := none },
      { id := ⟨"booking-2"⟩, crn := "X2", premisesId := ⟨"elm"⟩, bedId := ⟨"elm-free"⟩
        arrivalDate := firstNight, departureDate := firstNight.later 7
        applicationId := none, placementRequestId := none, createdOn := .first, arrival := none
        nonArrival := none, cancellation := some ⟨.first, .noCapacity, none⟩ }]
    outOfService := .ofList [
      { id := ⟨"oos-1"⟩, premisesId := ⟨"elm"⟩, bedId := ⟨"elm-broken"⟩
        startDate := firstNight.later 27, endDate := firstNight.later 30, reason := "Burst pipe"
        notes := none, cancelledOn := none }] }

/-- A search around that district, written with blanks and in lower case, within the usual
    distance. -/
def sampleSearch : ApprovedPremisesSearch :=
  { postcodeDistrict := " ls1 ", maxDistanceMiles := none, startDate := firstNight
    durationDays := 28, required := ⟨∅, stepFree⟩ }

/-- The nights of that search. -/
def sampleNights : DateRange := .spanning firstNight (firstNight.later 28)

theorem district?_elmAndOak :
    (World.ofStore elmAndOak).store.district? sampleSearch.postcodeDistrict =
      some ⟨"LS1", elm⟩ := by
  have hcode : normalizeOutcode "LS1" = normalizeOutcode sampleSearch.postcodeDistrict := by
    rw [← String.toList_inj, normalizeOutcode, normalizeOutcode, Text.asciiUpper, Text.asciiUpper,
      String.toList_map, String.toList_map]
    decide
  exact (Table.find?_eq_some_iff _).2 ⟨List.mem_cons_self, hcode⟩

/-- The bed of the second house is known by its identifier. -/
theorem premises_of_mem_elmAndOak {place : Place} (h : place ∈ elmAndOak.places) :
    place.premises =
      if place.bed.id = ⟨"oak-free"⟩ then oakHouse.premises else elmHouse.premises := by
  have hplaces : elmAndOak.places = elmHouse.places ++ (oakHouse.places ++ []) := rfl
  rw [hplaces, List.append_nil] at h
  have helm : ⟨"oak-free"⟩ ∉ elmHouse.places.map fun place => place.bed.id := by
    decide +kernel
  have hoak : (oakHouse.places.map fun place => place.bed.id) = [⟨"oak-free"⟩] := by
    decide +kernel
  rcases List.mem_append.1 h with h | h
  · have hother : place.bed.id ≠ ⟨"oak-free"⟩ := fun e => helm (List.mem_map.2 ⟨place, h, e⟩)
    rw [if_neg hother]
    exact elmHouse.premises_of_mem_places h
  · rw [if_pos (List.mem_singleton.1 (hoak ▸ List.mem_map_of_mem h))]
    exact oakHouse.premises_of_mem_places h

theorem location_of_mem_elmAndOak {place : Place} (h : place ∈ elmAndOak.places) :
    place.premises.location = some (if place.bed.id = ⟨"oak-free"⟩ then oak else elm) := by
  rw [premises_of_mem_elmAndOak h]
  split <;> rfl

/-- **What is left of the two houses** once rooms, end dates, bookings and periods are looked at. -/
theorem map_id_takes_elmAndOak :
    (elmAndOak.places.filter (sampleSearch.takes elmAndOak sampleNights 0)).map
      (fun place => place.bed.id) = [⟨"elm-free"⟩, ⟨"oak-free"⟩] := by
  decide +kernel

open Classical in
/-- If both houses are near enough, all that is left should be listed. -/
theorem filter_offers_elmAndOak (helm : ¬ elm.miles elm > 50.0) (hoak : ¬ elm.miles oak > 50.0) :
    elmAndOak.places.filter (sampleSearch.Offers elmAndOak elm 50.0 sampleNights) =
      elmAndOak.places.filter (sampleSearch.takes elmAndOak sampleNights 0) := by
  refine List.filter_congr fun place hplace => ?_
  rw [Bool.eq_iff_iff, decide_eq_true_iff, offers_iff 0, and_iff_right]
  rw [premises_of_mem_elmAndOak hplace]
  split
  · exact ⟨rfl, by decide +kernel, oak, rfl, hoak⟩
  · exact ⟨rfl, by decide +kernel, elm, rfl, helm⟩

open Classical in
/-- **The booked, the broken, the ended and the upstairs bed are not listed**, and the other two in
    the order of their distances, if both houses are near enough. -/
theorem find_approvedPremises_sample :
    ∃ beds nights,
      (find 50.0 (.approvedPremises sampleSearch)).run .none (.ofStore elmAndOak) =
        (.ok (.approvedPremises beds), .ofStore elmAndOak) ∧
      (beds.map ApprovedPremisesBed.place).Perm
        (elmAndOak.places.filter (sampleSearch.Offers elmAndOak elm 50.0 nights)) ∧
      (beds.map ApprovedPremisesBed.place).Nodup ∧
      (∀ found ∈ beds, found.bed.id ∈ [⟨"elm-free"⟩, ⟨"oak-free"⟩]) ∧
      (¬ elm.miles elm > 50.0 → ¬ elm.miles oak > 50.0 →
        Decimal.totalOrder (elm.miles elm) (elm.miles oak) = .lt →
        beds.map (fun found => found.bed.id) = [⟨"elm-free"⟩, ⟨"oak-free"⟩]) := by
  have hrules : approvedRules sampleSearch (sampleSearch.maxDistanceMiles.getD 50.0) = [] := by
    decide +kernel
  have hids : (elmAndOak.places.map fun place => place.bed.id).Nodup := by
    decide +kernel
  obtain ⟨beds, nights, hrun, hstart, hstop, hperm, honce, hdistances, horder, _⟩ :=
    find_approvedPremises hrules district?_elmAndOak
  obtain rfl : nights = sampleNights := by
    have hlast : nights.stop = firstNight.later 28 :=
      Date.eq_of_day_eq (hstop.trans (by decide +kernel))
    rw [← DateRange.spanning_start_stop nights, hstart, hlast]
    rfl
  have hmem (found : ApprovedPremisesBed) (hfound : found ∈ beds) :
      found.place ∈ elmAndOak.places ∧
        sampleSearch.Offers elmAndOak elm 50.0 sampleNights found.place := by
    obtain ⟨hplace, hoffers⟩ := List.mem_filter.1 (hperm.mem_iff.1 (List.mem_map_of_mem hfound))
    exact ⟨hplace, of_decide_eq_true hoffers⟩
  refine ⟨beds, _, hrun, hperm, honce (.inl (.of_map _ hids)), fun found hfound => ?_,
    fun helm hoak hnearer => ?_⟩
  · obtain ⟨hplace, hoffers⟩ := hmem found hfound
    rw [← map_id_takes_elmAndOak]
    exact List.mem_map.2
      ⟨found.place, List.mem_filter.2 ⟨hplace, ((offers_iff 0).1 hoffers).2⟩, rfl⟩
  · have hpair : (beds.map fun found => found.bed.id).Perm [⟨"elm-free"⟩, ⟨"oak-free"⟩] := by
      rw [← map_id_takes_elmAndOak, ← filter_offers_elmAndOak helm hoak]
      have hbeds := hperm.map fun place => place.bed.id
      rwa [List.map_map] at hbeds
    have hdistance (found : ApprovedPremisesBed) (hfound : found ∈ beds) : found.distanceMiles =
        elm.miles (if found.bed.id = ⟨"oak-free"⟩ then oak else elm) := by
      obtain ⟨location, hlocation, e⟩ := hdistances found hfound
      have hhouse := location_of_mem_elmAndOak (hmem found hfound).1
      exact e.trans (congrArg elm.miles (Option.some.inj (hlocation.symm.trans hhouse)))
    refine map_id_eq_of_nearer (by decide) hpair horder fun a ha b hb haid hbid => ?_
    rw [hdistance a ha, hdistance b hb, haid, hbid, if_neg (by decide), if_pos rfl]
    exact hnearer

end BedSearch

end Bedspace
