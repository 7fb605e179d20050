import Bedspace.Proofs.Booking.Creation
import Bedspace.Proofs.Holding
import Bedspace.Proofs.Loading
import Bedspace.Proofs.Search.Listed

/-!
# Searches and bookings agree

Searches and bookings look at beds each in their own way. They agree on which beds can be had.

* `Place.Open.fits`: an open bed of distinct ones can be booked; `NewBooking.Fits.offers`: a bed of
  approved premises that can be booked is one that a search for the same nights should list;
* `System.SearchesAgree` says what a search and a booking have to do with each other in a state;
* **`System.reaches_searchesAgree`**: they agree in every state that clients reach while estates are
  loaded.
-/

namespace Bedspace

open Operation Text

/-! ## 1. An open bed can be booked -/

/-- **What is open can be booked** for the same nights, at premises whose beds are distinct. -/
theorem Place.Open.fits {place : Place} {store : Store} {nights : DateRange} {crn : String}
    (h : place.Open store nights) (himported : store.Imported)
    (hnights : nights.start < nights.stop) (hcrn : isEmptyTrimmed crn = false) :
    ∃ inventory, NewBooking.Fits ⟨crn, place.bed.id, nights.start, nights.stop⟩ store
      place.premises.id inventory := by
  obtain ⟨inventory, hinventory, hplace⟩ := h.stored
  obtain ⟨found, hfound, rfl⟩ := List.mem_map.1 hplace
  refine ⟨inventory, ?_⟩
  exact
    { stored := store.premises.find?_eq_some_iff.2 ⟨hinventory, rfl⟩
      active := h.active
      crn := hcrn
      dates := hnights
      bed := ⟨found, (himported.premises inventory hinventory).locate? hfound,
        Bed.inServiceOn_iff.2 h.inService⟩
      free := by
        rw [DateRange.spanning_start_stop]
        exact h.free }

/-! ## 2. A bed that can be booked is listed -/

namespace BedSearch

/-- A number of nights between two dates in order breaks no rule, and gives the nights between
    them. -/
theorem durationRules_between {start stop : Date} {days : Int} (h : start < stop)
    (hdays : start.day + days = stop.day) :
    durationRules start days = [] ∧ range start days = .spanning start stop := by
  have hfirst := start.firstDay_le
  have hlast := stop.le_lastDay
  have hlt := Date.lt_def.1 h
  have hstop : start.later? days.toNat = some stop := by
    unfold Date.later? Date.ofDay?
    rw [dif_pos (by omega)]
    refine congrArg some (Date.eq_of_day_eq ?_)
    show start.day + days.toNat = stop.day
    omega
  have hduration : (DateRange.ofDuration? start days.toNat).isNone = false := by
    unfold DateRange.ofDuration?
    rw [if_neg (by omega), hstop]
    show (DateRange.new start stop).toOption.isNone = false
    unfold DateRange.new
    rw [dif_pos h]
    rfl
  have hfew : ¬ limit32 ≤ days.toNat := by
    -- the calendar is shorter than that
    have hlimit : limit32 = 2 ^ 32 := rfl
    unfold Calendar.firstDay at hfirst
    unfold Calendar.lastDay at hlast
    omega
  constructor
  · unfold durationRules
    rw [if_neg (by omega), hduration, decide_eq_false hfew]
    rfl
  · unfold range Date.later
    rw [hstop]
    rfl

/-- What a search should list, it lists. -/
theorem exists_mem_approvedListing {store : Store} {centre : Coordinates} {miles : Float}
    {search : ApprovedPremisesSearch} {place : Place} (hplace : place ∈ store.places)
    (hoffers : search.Offers store centre miles
      (range search.startDate search.durationDays) place) :
    ∃ found ∈ approvedListing store centre miles search, found.place = place := by
  classical
  have hmem : place ∈ store.places.filter (search.Offers store centre miles
      (range search.startDate search.durationDays)) :=
    List.mem_filter.2 ⟨hplace, decide_eq_true hoffers⟩
  rw [← map_place_estate] at hmem
  obtain ⟨found, hfound, hplace⟩ := List.mem_map.1 hmem
  exact ⟨found, (List.mergeSort_perm _ _).mem_iff.2 hfound, hplace⟩

end BedSearch

/-- A known district is not asked for by blanks. -/
theorem Store.Imported.isEmptyTrimmed_of_district? {store : Store} (h : store.Imported)
    {raw : String} {district : District} (hdistrict : store.district? raw = some district) :
    isEmptyTrimmed raw = false := by
  obtain ⟨hmem, hkey⟩ := store.districts.find?_eq_some_iff.1 hdistrict
  refine Bool.eq_false_iff.2 fun hblank => ?_
  rw [← normalizeOutcode_eq_empty_iff, ← hkey] at hblank
  exact Bool.eq_false_iff.1 (h.districts district hmem) (normalizeOutcode_eq_empty_iff.1 hblank)

/-- **What can be booked in approved premises should be listed** by a search for the same nights
    that requires nothing, within a distance that the premises are not beyond. -/
theorem NewBooking.Fits.offers {request : NewBooking} {store : Store} {premises : PremisesId}
    {inventory : Inventory} (h : request.Fits store premises inventory)
    (hservice : inventory.premises.service = .approvedPremises) {location : Coordinates}
    (hlocation : inventory.premises.location = some location)
    {search : ApprovedPremisesSearch} (hrequired : search.required = .none)
    {centre : Coordinates} {miles : Float} (hnear : ¬ centre.miles location > miles) :
    ∃ place ∈ store.places, place.premises = inventory.premises ∧ place.bed.id = request.bedId ∧
      search.Offers store centre miles
        (.spanning request.arrivalDate request.departureDate) place := by
  obtain ⟨found, hfound, hservice'⟩ := h.bed
  have hmem : found ∈ inventory.beds := List.mem_of_find?_eq_some hfound
  have hfits := List.find?_some hfound
  have hid : found.2.id = request.bedId := of_decide_eq_true hfits
  have hinventory := (store.premises.find?_eq_some_iff.1 h.stored).1
  refine ⟨inventory.place found,
    List.mem_flatMap.2 ⟨inventory, hinventory, List.mem_map_of_mem hmem⟩, rfl, hid, ?_⟩
  exact
    { service := hservice
      active := h.active
      near := ⟨location, hlocation, hnear⟩
      has := by
        rw [hrequired]
        exact ⟨fun _ hnone => absurd hnone List.not_mem_nil,
          fun _ hnone => absurd hnone List.not_mem_nil⟩
      inService := Bed.inServiceOn_iff.1 hservice'
      free := hid.symm ▸ h.free }

/-- Nothing is farther away than an unlimited distance. -/
theorem not_beyond_infinity (miles : Float) : ¬ miles > 1.0 / 0.0 := by
  intro hbeyond
  have hinfinity : (1.0 / 0.0 : Float).toModel.unpack = .infinity .positive := by rfl
  have hlt := of_decide_eq_true hbeyond
  change Float.Model.UnpackedFloat.lt (1.0 / 0.0 : Float).toModel.unpack miles.toModel.unpack = true
    at hlt
  rw [hinfinity] at hlt
  generalize miles.toModel.unpack = other at hlt
  cases other with
  | infinity sign => cases sign <;> cases hlt
  | _ => cases hlt

/-! ## 3. In every state -/

/-- **Searches and bookings agree** in a state. -/
structure System.SearchesAgree (s : System) : Prop where
  /-- What a search lists can be booked for the nights that it was asked for, by whatever name that
      is more than blanks. -/
  granted : ∀ (search : BedSearch) (place : Place), search.Lists s.world place →
    ∃ departure : Date, departure.day = search.startDate.day + search.durationDays ∧
      ∀ (crn : String) (today : Date), isEmptyTrimmed crn = false → ∃ made world',
        (Bookings.create place.premises.id ⟨crn, place.bed.id, search.startDate, departure⟩ .none
          today).run .none s.world = (.ok made, world')
  /-- What is booked is listed no more by any search for one of its nights, as long as the booking
      is not cancelled and keeps its dates. -/
  withheld : ∀ (premises : PremisesId) (request : NewBooking) (links : BookingLinks) (today : Date)
      (made : Booking) (world' : World),
    (Bookings.create premises request links today).run .none s.world = (.ok made, world') →
      ∀ t, (s.serve .none (.linkedBooking premises request links today)).ReachesLoading t →
        ∀ b ∈ t.world.store.bookings.rows, b.id = made.id → b.isCancelled = false →
          b.arrivalDate = made.arrivalDate → b.departureDate = made.departureDate →
            ∀ (search : BedSearch) (place : Place), search.Lists t.world place →
              search.nights.overlaps made.range = true → place.bed.id ≠ request.bedId
  /-- What can be booked in approved premises with coordinates is listed by a search for the same
      nights around any known district, if it requires nothing and the premises are not beyond the
      distance that is searched within. -/
  listed : ∀ (premises : PremisesId) (request : NewBooking) (links : BookingLinks) (today : Date)
      (faults : Faults) (made : Booking) (world' : World),
    (Bookings.create premises request links today).run faults s.world = (.ok made, world') →
      ∀ (inventory : Inventory) (location : Coordinates),
        s.world.store.premises? premises = some inventory →
        inventory.premises.service = .approvedPremises →
        inventory.premises.location = some location →
        ∀ (search : ApprovedPremisesSearch) (district : District) (defaultMiles : Float),
          search.startDate = request.arrivalDate →
          search.startDate.day + search.durationDays = request.departureDate.day →
          search.required = .none →
          s.world.store.district? search.postcodeDistrict = some district →
          BedSearch.isDistance (search.maxDistanceMiles.getD defaultMiles) = true →
          ¬ district.location.miles location > search.maxDistanceMiles.getD defaultMiles →
          ∃ beds, (BedSearch.find defaultMiles (.approvedPremises search)).run .none s.world =
              (.ok (.approvedPremises beds), s.world) ∧
            ∃ found ∈ beds, found.premises = inventory.premises ∧ found.bed.id = request.bedId

namespace System

variable {s t : System}

/-- A request for a booking that is carried out alone leaves the world that its operation leaves. -/
theorem world_serve_linkedBooking {premises : PremisesId} {request : NewBooking}
    {links : BookingLinks} {today : Date} {made : Booking} {world' : World}
    (h : (Bookings.create premises request links today).run .none s.world = (.ok made, world')) :
    (s.serve .none (.linkedBooking premises request links today)).world = world' := by
  show ((Action.replying .booking .booking
    (Bookings.create premises request links today)).run .none s.world).2 = world'
  rw [Action.run_replying, h]

theorem granted_of_imported (hs : s.world.Sound) (himported : s.world.store.Imported)
    {search : BedSearch} {place : Place} (h : search.Lists s.world place) :
    ∃ departure : Date, departure.day = search.startDate.day + search.durationDays ∧
      ∀ (crn : String) (today : Date), isEmptyTrimmed crn = false → ∃ made world',
        (Bookings.create place.premises.id ⟨crn, place.bed.id, search.startDate, departure⟩ .none
          today).run .none s.world = (.ok made, world') := by
  obtain ⟨hrules, hopen⟩ := h.isOpen
  obtain ⟨_, hstop, hdays⟩ := BedSearch.range_of_durationRules hrules
  refine ⟨search.nights.stop, hstop, fun crn today hcrn => ?_⟩
  have hnights : search.nights.start < search.nights.stop := by
    rw [Date.lt_def]
    show search.startDate.day < search.nights.stop.day
    rw [show search.nights.stop.day = _ from hstop]
    omega
  obtain ⟨inventory, hfits⟩ := hopen.fits himported hnights hcrn
  have hid : s.world.store.bookings.contains (s.world.nextId .booking).text = false :=
    hs.contains_nextId .booking fun b hb e => ⟨b, hb, congrArg Id.mk e⟩
  exact Bookings.run_create hfits hid rfl

/-- **No search lists a bed that a live booking holds** on one of the nights. -/
theorem not_lists_of_booking {b : Booking} (hb : b ∈ t.world.store.bookings.rows)
    (hlive : b.isCancelled = false) {search : BedSearch} {place : Place}
    (h : search.Lists t.world place) (hov : search.nights.overlaps b.range = true) :
    place.bed.id ≠ b.bedId := by
  intro hbed
  have hapart := h.isOpen.2.free.bookings b hb hbed.symm hlive
  rw [DateRange.overlaps_comm, hov] at hapart
  cases hapart

theorem listed_of_imported (himported : s.world.store.Imported) {premises : PremisesId}
    {request : NewBooking} {inventory : Inventory}
    (h : request.Fits s.world.store premises inventory)
    (hservice : inventory.premises.service = .approvedPremises) {location : Coordinates}
    (hlocation : inventory.premises.location = some location)
    {search : ApprovedPremisesSearch} {district : District} {defaultMiles : Float}
    (hstart : search.startDate = request.arrivalDate)
    (hdays : search.startDate.day + search.durationDays = request.departureDate.day)
    (hrequired : search.required = .none)
    (hdistrict : s.world.store.district? search.postcodeDistrict = some district)
    (hmiles : BedSearch.isDistance (search.maxDistanceMiles.getD defaultMiles) = true)
    (hnear : ¬ district.location.miles location > search.maxDistanceMiles.getD defaultMiles) :
    ∃ beds, (BedSearch.find defaultMiles (.approvedPremises search)).run .none s.world =
        (.ok (.approvedPremises beds), s.world) ∧
      ∃ found ∈ beds, found.premises = inventory.premises ∧ found.bed.id = request.bedId := by
  have hdates : search.startDate < request.departureDate := hstart ▸ h.dates
  obtain ⟨hduration, hnights⟩ := BedSearch.durationRules_between hdates hdays
  have hrules :
      BedSearch.approvedRules search (search.maxDistanceMiles.getD defaultMiles) = [] := by
    unfold BedSearch.approvedRules
    rw [himported.isEmptyTrimmed_of_district? hdistrict, hmiles, hduration]
    rfl
  obtain ⟨place, hplace, hpremises, hbed, hoffers⟩ := h.offers hservice hlocation hrequired hnear
  rw [hstart] at hnights
  rw [← hnights, ← hstart] at hoffers
  obtain ⟨found, hfound, rfl⟩ := BedSearch.exists_mem_approvedListing hplace hoffers
  have hrun : (BedSearch.find defaultMiles (.approvedPremises search)).run .none s.world =
      (.ok (.approvedPremises (BedSearch.approvedListing s.world.store district.location
        (search.maxDistanceMiles.getD defaultMiles) search)), s.world) := by
    unfold BedSearch.find
    rw [run_bind_of_ok (BedSearch.run_findApprovedPremises hrules hdistrict)]
    rfl
  exact ⟨_, hrun, found, hfound, hpremises, hbed⟩

/-- **In every state that clients reach while estates are loaded, searches and bookings agree.** -/
theorem reaches_searchesAgree {issued : Kind → Nat}
    (h : (idle ⟨.empty, issued⟩).ReachesLoading s) : s.SearchesAgree := by
  have hunused : (World.mk .empty issued).store.Unused := Store.unused_empty
  have hsound : World.Sound ⟨.empty, issued⟩ := hunused.sound
  have h₀ := entrusted_idle hsound
  have himported : s.world.store.Imported := h.imported h₀ Store.imported_empty
  obtain ⟨held, hheld⟩ := h.entrusted h₀
  refine ⟨fun search place => granted_of_imported hheld.sound himported, ?_, ?_⟩
  · intro premises request links today made world' hrun t ht b hb hid hlive harrival hdeparture
      search place hlists hov
    obtain ⟨_, hbed, hmade⟩ := Bookings.fits_of_create hrun
    rw [← world_serve_linkedBooking hrun] at hmade
    obtain ⟨_, hserved⟩ := (h.trans (reaches_serve .start _ _).reachesLoading).entrusted h₀
    obtain ⟨b', hb', hid', hbed'⟩ := ht.booking_stays hserved hmade
    obtain rfl : b = b' := Booking.eq_of_id_eq hb hb' (hid.trans hid'.symm)
    have hrange : b.range = made.range := by
      unfold Booking.range
      rw [harrival, hdeparture]
    rw [← hrange] at hov
    exact hbed ▸ hbed' ▸ not_lists_of_booking hb hlive hlists hov
  · intro premises request links today faults made world' hrun inventory location hstored hservice
      hlocation search district defaultMiles hstart hdays hrequired hdistrict hmiles hnear
    obtain ⟨⟨inventory', hfits⟩, _⟩ := Bookings.fits_of_create hrun
    obtain rfl : inventory' = inventory := Option.some.inj (hfits.stored.symm.trans hstored)
    exact listed_of_imported himported hfits hservice hlocation hstart hdays hrequired hdistrict
      hmiles hnear

/-- An estate with a bed in approved premises and a bed in temporary accommodation. -/
def twoHousesFile : List UInt8 :=
  ("premises_id,premises_name,service,postcode,pdu,latitude,longitude,room_id,room_name,bed_id,"
    ++ "bed_name\n"
    ++ "elm,Elm House,ap,LS1 1AA,Leeds,53.8,-1.5,elm-1,Room 1,elm-1-1,Bed 1\n"
    ++ "ash,Ash House,ta,LS2 2BB,Leeds,,,ash-1,Room 1,ash-1-1,Bed 1\n").toUTF8.toList

/-- The postcode district of the approved premises. -/
def leedsFile : List UInt8 := "outcode,latitude,longitude\nLS1,53.8,-1.5\n".toUTF8.toList

/-- The state in which both houses and the district are loaded. -/
def twoHouses : System :=
  ((idle (.ofStore .empty)).loadEstate .none twoHousesFile).loadDistricts .none leedsFile

theorem reaches_twoHouses : (idle (.ofStore .empty)).ReachesLoading twoHouses :=
  (ReachesLoading.start.loadEstate).loadDistricts

/-- A search lists the bed in temporary accommodation, and so the bed can be booked. -/
theorem twoHouses_searchesAgree :
    twoHouses.SearchesAgree ∧ ∃ place,
      (BedSearch.temporaryAccommodation ⟨["leeds"], .first, 28, .none⟩).Lists
        twoHouses.world place ∧ place.bed.id = ⟨"ash-1-1"⟩ := by
  refine ⟨reaches_searchesAgree reaches_twoHouses, ?_⟩
  have hlisted : ((BedSearch.find 50.0 (.temporaryAccommodation ⟨["leeds"], .first, 28, .none⟩)).run
      .none twoHouses.world).1.toOption.map
        (fun results => results.places.map fun place => place.bed.id) = some [⟨"ash-1-1"⟩] := by
    decide +kernel
  obtain ⟨results, hresults, hids⟩ := Option.map_eq_some_iff.1 hlisted
  have hmem : (⟨"ash-1-1"⟩ : BedId) ∈ results.places.map fun place => place.bed.id :=
    hids ▸ List.mem_cons_self
  obtain ⟨place, hplace, hid⟩ := List.mem_map.1 hmem
  refine ⟨place, ⟨.none, 50.0, results, _, Prod.ext (eq_ok_of_toOption hresults) rfl, hplace⟩, hid⟩

/-- **Neither no distance nor an unlimited one is a distance to search within.** A house stands in the
    centre of the district, and yet its bed, which was booked, is not listed by a search within a
    distance of zero: the search is refused. So is one without a limit, which no premises are
    beyond. -/
theorem refusedDistance_not_listed :
    (idle (.ofStore .empty)).ReachesLoading twoHouses ∧
      (∃ made world', (Bookings.create ⟨"elm"⟩
        ⟨"X320741", ⟨"elm-1-1"⟩, .first, Date.first.later 28⟩ .none .first).run .none
          twoHouses.world = (.ok made, world')) ∧
      (∃ inventory location district, twoHouses.world.store.premises? ⟨"elm"⟩ = some inventory ∧
        inventory.premises.service = .approvedPremises ∧
        inventory.premises.location = some location ∧
        twoHouses.world.store.district? "LS1" = some district ∧
        district.location = location ∧
        ¬ district.location.miles location > 1.0 / 0.0) ∧
      ∀ distance ∈ [0.0, 1.0 / 0.0],
        ((BedSearch.find 50.0 (.approvedPremises ⟨"LS1", some distance, .first, 28, .none⟩)).run
            .none twoHouses.world).1 =
          .error (.invalid [⟨"$.maxDistanceMiles", "mustBePositive"⟩]) := by
  -- one evaluation, so that the files are read once
  have hfacts :
      ((Bookings.create ⟨"elm"⟩ ⟨"X320741", ⟨"elm-1-1"⟩, .first, Date.first.later 28⟩ .none
          .first).run .none twoHouses.world).1.toOption.isSome = true ∧
        (twoHouses.world.store.premises? ⟨"elm"⟩).any (fun inventory =>
          inventory.premises.service = .approvedPremises && inventory.premises.location.isSome) =
            true ∧
        (twoHouses.world.store.district? "LS1").isSome = true ∧
        ((twoHouses.world.store.premises? ⟨"elm"⟩).bind fun inventory =>
            inventory.premises.location.map fun location => (location.latitude, location.longitude)) =
          ((twoHouses.world.store.district? "LS1").map fun district =>
            (district.location.latitude, district.location.longitude)) ∧
        ∀ distance ∈ [0.0, 1.0 / 0.0], failure? ((BedSearch.find 50.0
          (.approvedPremises ⟨"LS1", some distance, .first, 28, .none⟩)).run .none
            twoHouses.world).1 = some (.invalid [⟨"$.maxDistanceMiles", "mustBePositive"⟩]) := by
    decide +kernel
  obtain ⟨hbooked, hstored, hknown, hcentre, hrefused⟩ := hfacts
  obtain ⟨made, hmade⟩ := Option.isSome_iff_exists.1 hbooked
  obtain ⟨inventory, hinventory, hfits⟩ := (Option.any_eq_true _ _).1 hstored
  obtain ⟨hservice, hlocated⟩ := Bool.and_eq_true_iff.1 hfits
  obtain ⟨location, hlocation⟩ := Option.isSome_iff_exists.1 hlocated
  obtain ⟨district, hdistrict⟩ := Option.isSome_iff_exists.1 hknown
  have hsame : district.location = location := by
    rw [hinventory, hdistrict, Option.bind_some, hlocation] at hcentre
    obtain ⟨hlatitude, hlongitude⟩ := Prod.mk.inj (Option.some.inj hcentre)
    show (⟨district.location.latitude, district.location.longitude⟩ : Coordinates) = location
    rw [← hlatitude, ← hlongitude]
  exact ⟨reaches_twoHouses, ⟨made, _, Prod.ext (eq_ok_of_toOption hmade) rfl⟩,
    ⟨inventory, location, district, hinventory, of_decide_eq_true hservice, hlocation, hdistrict,
      hsame, not_beyond_infinity _⟩, fun distance h => failure?_eq_some_iff.1 (hrefused distance h)⟩

end System

end Bedspace
