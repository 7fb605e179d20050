import Bedspace.Proofs.Calendar.Overlaps
import Bedspace.Proofs.Runs
import Bedspace.Search.Find

/-!
# The estate, bed by bed

What a search should find, said of the beds of the whole store one by one.

* `Store.places` lists every bed with its room and premises; `Store.BedFree` says that nothing in
  the store holds a bed on some nights, `Place.Has` and `Place.InService` say the rest of what is
  asked of a bed;
* **`Store.bedFree_iff`**: what was read for the nights of a search, from a window that is wide
  enough, decides about a bed like all bookings and periods of the store.
-/

namespace Bedspace

/-! ## 1. Beds as places -/

/-- A bed with its room and premises. -/
structure Place where
  premises : Premises
  room : Room
  bed : Bed

/-- A bed of some premises, with its room, as a place. -/
def Inventory.place (inventory : Inventory) (found : Room × Bed) : Place :=
  ⟨inventory.premises, found.1, found.2⟩

/-- The beds of some premises as places. -/
def Inventory.places (inventory : Inventory) : List Place :=
  inventory.beds.map inventory.place

/-- Every bed of the store. -/
def Store.places (store : Store) : List Place :=
  store.premises.rows.flatMap Inventory.places

/-- **No booking and no period holds a bed on some nights**, with what counts as the nights of a
    booking. Cancelled ones hold nothing. -/
structure Store.BedFree (store : Store) (held : Booking → DateRange) (bed : BedId)
    (nights : DateRange) : Prop where
  bookings : ∀ b ∈ store.bookings.rows, b.bedId = bed → b.isCancelled = false →
    (held b).overlaps nights = false
  periods : ∀ p ∈ store.outOfService.rows, p.bedId = bed → p.isCancelled = false →
    p.range.overlaps nights = false

/-- Premises and room of a place have some characteristics. -/
structure Place.Has (place : Place) (required : RequiredCharacteristics) : Prop where
  premises : ∀ text ∈ required.premises.rows, text ∈ place.premises.characteristics.rows
  room : ∀ text ∈ required.room.rows, text ∈ place.room.characteristics.rows

/-- A bed is in use on a date: it has no end date or a later one. -/
def Place.InService (place : Place) (date : Date) : Prop :=
  ∀ endDate, place.bed.endDate = some endDate → date < endDate

/-! ## 2. One bed -/

theorem TextSet.subset_iff {small large : TextSet} :
    small.subset large = true ↔ ∀ text ∈ small.rows, text ∈ large.rows := by
  unfold TextSet.subset
  rw [List.all_eq_true]
  refine forall_congr' fun text => imp_congr Iff.rfl ?_
  unfold Table.contains
  rw [Option.isSome_iff_exists]
  constructor
  · rintro ⟨found, h⟩
    obtain ⟨hmem, hkey⟩ := large.find?_eq_some_iff.1 h
    obtain rfl : found = text := hkey
    exact hmem
  · exact fun h => ⟨text, large.find?_eq_some_iff.2 ⟨h, rfl⟩⟩

theorem RequiredCharacteristics.fitPremises_iff {required : RequiredCharacteristics}
    {premises : Premises} :
    required.fitPremises premises = true ↔
      premises.isActive = true ∧
        ∀ text ∈ required.premises.rows, text ∈ premises.characteristics.rows := by
  unfold fitPremises
  rw [Bool.and_eq_true, TextSet.subset_iff]

theorem Bed.inServiceOn_iff {bed : Bed} {date : Date} :
    bed.inServiceOn date = true ↔ ∀ endDate, bed.endDate = some endDate → date < endDate := by
  unfold inServiceOn
  cases bed.endDate with
  | none => exact iff_of_true rfl fun _ h => nomatch h
  | some endDate =>
    rw [decide_eq_true_eq]
    exact ⟨fun h _ e => Option.some.inj e ▸ h, fun h => h endDate rfl⟩

theorem Booking.bookingBlocks_iff {occupancy : Occupancy} {nights : DateRange} {b : Booking} :
    occupancy.bookingBlocks nights b = true ↔
      b.isCancelled = false ∧
        (b.range.extendedBy (occupancy.turnaround b.premisesId)).overlaps nights = true := by
  unfold Occupancy.bookingBlocks blocksBed
  rw [Bool.and_eq_true, Bool.not_eq_true']

theorem OutOfServicePeriod.blocks_iff {p : OutOfServicePeriod} {bed : BedId} {nights : DateRange} :
    p.blocks bed nights = true ↔
      p.bedId = bed ∧ p.isCancelled = false ∧ p.range.overlaps nights = true := by
  unfold blocks
  rw [Bool.and_eq_true, Bool.and_eq_true, decide_eq_true_eq, Bool.not_eq_true', and_assoc]

/-- What is read for a search: the bookings over a window that starts earlier, and the periods. -/
def Store.occupancy (store : Store) (nights : DateRange) (lead : Nat)
    (turnaround : PremisesId → Nat) : Occupancy :=
  ⟨store.bookingsOver (nights.startingEarlierBy lead), store.outOfServiceOver nights, turnaround⟩

/-- **A bed is free by what was read exactly if nothing in the store holds it**, as long as no
    booking that counts for the bed lies before the window. -/
theorem Store.bedFree_iff {store : Store} {nights : DateRange} {lead : Nat}
    {turnaround : PremisesId → Nat} {held : Booking → DateRange} {bed : BedId}
    (hheld : ∀ b ∈ store.bookings.rows, b.bedId = bed →
      b.range.extendedBy (turnaround b.premisesId) = held b)
    (hwindow : ∀ b ∈ store.bookings.rows, b.bedId = bed → (held b).overlaps nights = true →
      b.range.overlaps (nights.startingEarlierBy lead) = true) :
    (store.occupancy nights lead turnaround).blocks nights bed = false ↔
      store.BedFree held bed nights := by
  unfold Occupancy.blocks
  rw [Bool.or_eq_false_iff, List.any_eq_false, List.any_eq_false]
  constructor
  · rintro ⟨hbookings, hperiods⟩
    refine ⟨fun b hb hbed hlive => Bool.eq_false_iff.2 fun hov => ?_,
      fun p hp hbed hlive => Bool.eq_false_iff.2 fun hov => ?_⟩
    · refine hbookings b (List.mem_filter.2 ⟨hb, hwindow b hb hbed hov⟩) ?_
      rw [Bool.and_eq_true, decide_eq_true_eq, Booking.bookingBlocks_iff]
      exact ⟨hbed, hlive, (hheld b hb hbed).symm ▸ hov⟩
    · refine hperiods p (List.mem_filter.2 ⟨hp, hov⟩) ?_
      exact OutOfServicePeriod.blocks_iff.2 ⟨hbed, hlive, hov⟩
  · intro h
    refine ⟨fun b hb hblocks => ?_, fun p hp hblocks => ?_⟩
    · have hb : b ∈ store.bookings.rows := (List.mem_filter.1 hb).1
      rw [Bool.and_eq_true, decide_eq_true_eq, Booking.bookingBlocks_iff] at hblocks
      obtain ⟨hbed, hlive, hov⟩ := hblocks
      have hov : (held b).overlaps nights = true := hheld b hb hbed ▸ hov
      exact Bool.false_ne_true ((h.bookings b hb hbed hlive).symm.trans hov)
    · have hp : p ∈ store.outOfService.rows := (List.mem_filter.1 hp).1
      obtain ⟨hbed, hlive, hov⟩ := OutOfServicePeriod.blocks_iff.1 hblocks
      exact Bool.false_ne_true ((h.periods p hp hbed hlive).symm.trans hov)

/-! ## 3. The beds of premises and of a service -/

theorem Inventory.premises_of_mem_places {inventory : Inventory} {place : Place}
    (h : place ∈ inventory.places) : place.premises = inventory.premises := by
  obtain ⟨found, _, rfl⟩ := List.mem_map.1 h
  rfl

open Classical in
/-- **The free beds of some premises are those that meet a condition on beds**, if the condition asks
    of the beds of these premises just for the room, the date and that nothing holds the bed. -/
theorem Inventory.map_place_freeBeds {inventory : Inventory} {required : RequiredCharacteristics}
    {nights : DateRange} {occupancy : Occupancy} {offers : Place → Prop}
    (h : ∀ place ∈ inventory.places, offers place ↔
      (∀ text ∈ required.room.rows, text ∈ place.room.characteristics.rows) ∧
        place.InService nights.start ∧ occupancy.blocks nights place.bed.id = false) :
    (inventory.freeBeds required nights occupancy).map inventory.place =
      inventory.places.filter offers := by
  have hfilter : (inventory.freeBeds required nights occupancy).map inventory.place =
      inventory.places.filter fun place =>
        required.fitRoom place.room && place.bed.inServiceOn nights.start
          && !occupancy.blocks nights place.bed.id := by
    unfold freeBeds places
    rw [List.filter_map]
    rfl
  rw [hfilter]
  refine List.filter_congr fun place hplace => ?_
  rw [Bool.eq_iff_iff, decide_eq_true_iff, h place hplace, Bool.and_eq_true, Bool.and_eq_true,
    Bool.not_eq_true', RequiredCharacteristics.fitRoom, TextSet.subset_iff, Bed.inServiceOn_iff,
    and_assoc]
  exact Iff.rfl

open Classical in
theorem Inventory.filter_places_eq_nil {inventory : Inventory} {offers : Place → Prop}
    (h : ∀ place ∈ inventory.places, ¬ offers place) : inventory.places.filter offers = [] :=
  List.filter_eq_nil_iff.2 fun place hplace hoff => h place hplace (of_decide_eq_true hoff)

open Classical in
/-- **Leaving out premises without beds to offer** does not change which beds are found. -/
theorem Store.flatMap_filter_places {store : Store} {looked : Inventory → Bool}
    {offers : Place → Prop}
    (h : ∀ inventory, ∀ place ∈ inventory.places, offers place → looked inventory = true) :
    (store.premises.rows.filter looked).flatMap (fun inventory => inventory.places.filter offers) =
      store.places.filter offers := by
  unfold places
  rw [List.filter_flatMap]
  induction store.premises.rows with
  | nil => rfl
  | cons inventory rows ih =>
    rw [List.filter_cons, List.flatMap_cons, ← ih]
    by_cases hlooked : looked inventory = true
    · rw [if_pos hlooked, List.flatMap_cons]
    · have hnone : inventory.places.filter offers = [] :=
        inventory.filter_places_eq_nil fun place hplace hoff =>
          hlooked (h inventory place hplace hoff)
      rw [if_neg hlooked, hnone, List.nil_append]

/-! ## 4. The nights of a search -/

/-- A number of nights that breaks no rule gives the nights from the start date on. -/
theorem BedSearch.range_of_durationRules {start : Date} {days : Int}
    (h : durationRules start days = []) :
    (range start days).start = start ∧ (range start days).stop.day = start.day + days ∧
      0 < days := by
  unfold durationRules at h
  split at h
  · cases h
  · rename_i hdays
    have hok := (Bool.or_eq_false_iff.1 (InvalidParams.noteIf_eq_nil.1 h)).2
    obtain ⟨nights, hnights⟩ : ∃ nights, DateRange.ofDuration? start days.toNat = some nights := by
      rw [← Option.isSome_iff_exists, ← Option.not_isNone, hok]
      rfl
    obtain ⟨_, hstop, _⟩ := DateRange.ofDuration?_eq_some hnights
    have hlast := nights.stop.le_lastDay
    refine ⟨rfl, ?_, by omega⟩
    show (max (start.later days.toNat) start).day = _
    rw [Date.day_max, Date.day_later]
    omega

/-! ## 5. What a search reads -/

namespace BedSearch

open Operation

variable {world : World}

theorem run_obey {params : InvalidParams} (h : params = []) :
    (obey params).run .none world = (.ok (), world) := by
  unfold obey
  exact run_failIf_of_false (by rw [h]; rfl)

theorem run_inventory {service : Service} :
    (call BedSearchError.store (.inventory service)).run .none world =
      (.ok (world.store.inventory service), world) :=
  run_call_of_ok rfl

theorem run_readOccupancy {estate : List Inventory} {nights : DateRange}
    {turnaround : PremisesId → Nat} :
    (readOccupancy estate nights turnaround).run .none world =
      (.ok (world.store.occupancy nights (longestTurnaround estate) turnaround), world) := by
  unfold readOccupancy
  rw [run_bind_of_ok (run_call_of_ok rfl), run_bind_of_ok (run_call_of_ok rfl)]
  rfl

end BedSearch

end Bedspace
