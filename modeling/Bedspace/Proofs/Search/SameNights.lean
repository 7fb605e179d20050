import Bedspace.Proofs.Booking.Dates
import Bedspace.Proofs.Calendar.Days
import Bedspace.Proofs.Search.Listed

/-!
# Bookings on the same nights

Premises in temporary accommodation are listed with the bookings that fall on the nights that are
searched for. Turnaround plays no part in that, although the bookings come out of the window that
was read for the sake of turnaround.

* `Store.Housed` says that the premises that a booking names have its bed; `BookingOverlap.Tells`
  says what an entry should tell of a booking, and `Booking.StaysAt` which bookings should be told;
* `Inventory.overlaps_occupancy`: how early the window starts makes no difference;
* **`BedSearch.find_sameNights`**: each group of a search that succeeds tells exactly of these
  bookings, once each, by arrival date and identifier.
-/

namespace Bedspace

open Operation

/-- **Every booking names premises of the store that have its bed.** -/
def Store.Housed (store : Store) : Prop :=
  ∀ b ∈ store.bookings.rows, ∃ place ∈ store.places,
    place.premises.id = b.premisesId ∧ place.bed.id = b.bedId

/-- **A booking falls on some nights at some premises**: it is not cancelled, and one of its own
    nights is one of these, whatever the turnaround. -/
structure Booking.StaysAt (b : Booking) (premises : PremisesId) (nights : DateRange) : Prop where
  premises : b.premisesId = premises
  live : b.isCancelled = false
  overlaps : b.range.overlaps nights = true

/-- **An entry tells of a booking on some nights**: it names the booking, its bed and the room that
    has the bed, and counts the days that lie in the booking and in the nights. -/
structure BookingOverlap.Tells (entry : BookingOverlap) (store : Store) (nights : DateRange)
    (b : Booking) : Prop where
  booking : entry.bookingId = b.id
  crn : entry.crn = b.crn
  bed : entry.bedId = b.bedId
  arrival : entry.arrivalDate = b.arrivalDate
  departure : entry.departureDate = b.departureDate
  room : ∃ place ∈ store.places,
    place.premises.id = b.premisesId ∧ place.bed.id = b.bedId ∧ place.room.id = entry.roomId
  days : entry.days =
    ({d : Date | (b.arrivalDate ≤ d ∧ d < b.departureDate) ∧ d ∈ nights} : Set Date).ncard

/-! ## 1. Days -/

/-- The days of a booking on some nights are counted from its arrival up to its departure. -/
theorem Booking.overlapDays_range {b : Booking} (hdates : b.arrivalDate < b.departureDate)
    (nights : DateRange) :
    b.range.overlapDays nights =
      ({d : Date | (b.arrivalDate ≤ d ∧ d < b.departureDate) ∧ d ∈ nights} : Set Date).ncard := by
  have hstop : b.range.stop = b.departureDate := Booking.stop_range hdates
  have hcount := b.range.overlapDays_eq_ncard nights
  rw [← hstop]
  exact hcount

/-- An entry counts one day at least and no more than the nights that are searched for. -/
theorem BookingOverlap.Tells.days_mem {entry : BookingOverlap} {store : Store} {nights : DateRange}
    {b : Booking} (h : entry.Tells store nights b) (hdates : b.arrivalDate < b.departureDate)
    (hnights : nights.start < nights.stop) (hov : b.range.overlaps nights = true) :
    1 ≤ entry.days ∧ entry.days ≤ nights.days := by
  have hdays : entry.days = b.range.overlapDays nights :=
    h.days.trans (b.overlapDays_range hdates nights).symm
  have hpos : 0 < b.range.overlapDays nights :=
    (DateRange.overlapDays_pos_iff (Booking.start_lt_stop hdates) hnights).2 hov
  have hle : b.range.overlapDays nights ≤ nights.days := b.range.overlapDays_le_days nights
  constructor <;> omega

/-! ## 2. The order of entries -/

namespace Inventory

theorem overlapBefore_iff {x y : BookingOverlap} :
    overlapBefore x y = true ↔ x.arrivalDate < y.arrivalDate ∨
      x.arrivalDate = y.arrivalDate ∧ x.bookingId.text ≤ y.bookingId.text := by
  unfold overlapBefore
  rw [Bool.or_eq_true, Bool.and_eq_true, decide_eq_true_eq, decide_eq_true_eq, decide_eq_true_eq]

/-- Entries for different bookings are put in the strict order of arrival dates and identifiers. -/
theorem pairwise_entries {entries : List BookingOverlap}
    (hids : (entries.map fun entry => entry.bookingId).Nodup) :
    (entries.mergeSort overlapBefore).Pairwise fun x y => x.arrivalDate < y.arrivalDate ∨
      x.arrivalDate = y.arrivalDate ∧ x.bookingId.text < y.bookingId.text :=
  pairwise_mergeSort_dated (fun x y => overlapBefore_iff (x := x) (y := y)) hids

/-! ## 3. The entries of some premises -/

variable {store : Store} {inventory : Inventory} {nights : DateRange}

/-- The bookings that are told of some premises, as they are read from the store. -/
def staying (store : Store) (inventory : Inventory) (nights : DateRange) : List Booking :=
  store.bookings.rows.filter fun b =>
    b.premisesId = inventory.premises.id && b.blocksBed && b.range.overlaps nights

theorem mem_staying {b : Booking} :
    b ∈ staying store inventory nights ↔
      b ∈ store.bookings.rows ∧ b.StaysAt inventory.premises.id nights := by
  unfold staying Booking.blocksBed
  rw [List.mem_filter, Bool.and_eq_true, Bool.and_eq_true, decide_eq_true_eq, Bool.not_eq_true']
  exact and_congr_right fun _ => ⟨fun h => ⟨h.1.1, h.1.2, h.2⟩, fun h => ⟨⟨h.1, h.2⟩, h.3⟩⟩

/-- **However early the window starts that was read**, the entries are made from the bookings that
    fall on the nights themselves. -/
theorem overlaps_occupancy (store : Store) (inventory : Inventory) (nights : DateRange) (lead : Nat)
    (turnaround : PremisesId → Nat) :
    inventory.overlaps nights (store.occupancy nights lead turnaround).bookings =
      ((staying store inventory nights).filterMap (inventory.overlapOf? nights)).mergeSort
        overlapBefore := by
  have hown : (store.bookingsOver (nights.startingEarlierBy lead)).filter (fun b =>
      b.premisesId = inventory.premises.id && b.blocksBed && b.range.overlaps nights) =
        staying store inventory nights := by
    unfold Store.bookingsOver staying
    rw [List.filter_filter]
    refine List.filter_congr fun b _ => ?_
    rw [Bool.and_eq_left_iff_imp]
    exact fun h => DateRange.overlaps_startingEarlierBy lead (Bool.and_eq_true_iff.1 h).2
  unfold overlaps
  rw [← hown]
  rfl

/-- **The entry of a booking whose bed the premises have.** -/
theorem exists_overlapOf (hinventory : inventory ∈ store.premises.rows) (hhoused : store.Housed)
    (hdates : store.DepartsLater) {b : Booking} (hb : b ∈ staying store inventory nights) :
    ∃ entry, inventory.overlapOf? nights b = some entry ∧ entry.Tells store nights b := by
  obtain ⟨hmem, hstays⟩ := mem_staying.1 hb
  obtain ⟨place, hplace, hpremises, hbed⟩ := hhoused b hmem
  obtain ⟨other, hother, hplace⟩ := List.mem_flatMap.1 hplace
  -- the premises that the booking names are the ones at hand
  have hsame : other = inventory := by
    refine store.premises.key_inj_of_mem hother hinventory (congrArg Id.text ?_)
    rw [← other.premises_of_mem_places hplace, hpremises, hstays.premises]
  subst hsame
  obtain ⟨found, hfound, rfl⟩ := List.mem_map.1 hplace
  have hbed : found.2.id = b.bedId := hbed
  obtain ⟨⟨room, bed⟩, hlocate⟩ := other.exists_locate? hfound
  rw [hbed] at hlocate
  obtain ⟨hlisted, hfits⟩ := other.of_locate?_eq_some hlocate
  refine ⟨_, congrArg _ hlocate, rfl, rfl, rfl, rfl, rfl, ?_, ?_⟩
  · refine ⟨other.place (room, bed), ?_, hpremises, hfits, rfl⟩
    exact List.mem_flatMap.2 ⟨other, hother, List.mem_map_of_mem hlisted⟩
  · exact b.overlapDays_range (hdates b hmem) nights

end Inventory

/-! ## 4. The groups of a search -/

/-- What is made of every member of a list is made of them one by one. -/
theorem forall₂_filterMap {α β : Type} {f : α → Option β} {xs : List α} {rel : β → α → Prop}
    (h : ∀ x ∈ xs, ∃ y, f x = some y ∧ rel y x) : List.Forall₂ rel (xs.filterMap f) xs := by
  induction xs with
  | nil => exact .nil
  | cons x xs ih =>
    obtain ⟨y, hy, hrel⟩ := h x List.mem_cons_self
    rw [List.filterMap_cons_some hy]
    exact .cons hrel (ih fun x hx => h x (List.mem_cons_of_mem _ hx))

/-- Entries that tell of different bookings are for different bookings. -/
theorem BookingOverlap.nodup_ids {store : Store} {nights : DateRange}
    {entries : List BookingOverlap} {bookings : List Booking}
    (h : List.Forall₂ (fun entry b => entry.Tells store nights b) entries bookings)
    (hids : (bookings.map Booking.id).Nodup) :
    (entries.map fun entry => entry.bookingId).Nodup := by
  have hsame : entries.map (fun entry => entry.bookingId) = bookings.map Booking.id := by
    rw [← List.forall₂_eq_eq_eq, List.forall₂_map_left_iff, List.forall₂_map_right_iff]
    exact h.imp fun _ _ htells => htells.booking
  exact hsame ▸ hids

namespace BedSearch

variable {search : TemporaryAccommodationSearch} {group : TemporaryAccommodationGroup}

/-- What a group tells is what is told of premises of the store. -/
theorem overlaps_of_mem_temporaryListing {store : Store}
    (h : group ∈ temporaryListing store search) :
    ∃ inventory ∈ store.premises.rows, group.premises = inventory.premises ∧
      group.overlaps =
        ((inventory.staying store (range search.startDate search.durationDays)).filterMap
          (inventory.overlapOf? (range search.startDate search.durationDays))).mergeSort
            Inventory.overlapBefore := by
  have h := (List.mergeSort_perm _ _).mem_iff.1 h
  obtain ⟨inventory, hinventory, hgroup⟩ := List.mem_filterMap.1 h
  refine ⟨inventory, temporaryEstate_subset hinventory, (temporaryGroup?_eq_some hgroup).1, ?_⟩
  unfold temporaryGroup? at hgroup
  split at hgroup
  · cases hgroup
  · dsimp only at hgroup
    split at hgroup
    · cases hgroup
    · cases hgroup
      exact inventory.overlaps_occupancy store _ _ _

/-- **Each group of a search that succeeds tells of the bookings on the same nights**: of all of the
    store that are at its premises and not cancelled and have a night in common with the search,
    turnaround aside, and of no others, of each once, by arrival date and identifier. The days that
    are counted are at least one and at most the nights that are searched for. -/
theorem find_sameNights {faults : Faults} {world world' : World} {defaultMiles : Float}
    {groups : List TemporaryAccommodationGroup} (hhoused : world.store.Housed)
    (hdates : world.store.DepartsLater)
    (hrun : (find defaultMiles (.temporaryAccommodation search)).run faults world =
      (.ok (.temporaryAccommodation groups), world'))
    (hgroup : group ∈ groups) :
    ∃ nights told,
      nights.start = search.startDate ∧
      nights.stop.day = search.startDate.day + search.durationDays ∧
      List.Forall₂ (fun entry b => entry.Tells world.store nights b) group.overlaps told ∧
      told.Nodup ∧
      (∀ b, b ∈ told ↔ b ∈ world.store.bookings.rows ∧ b.StaysAt group.premises.id nights) ∧
      (group.overlaps.Pairwise fun x y => x.arrivalDate < y.arrivalDate ∨
        x.arrivalDate = y.arrivalDate ∧ x.bookingId.text < y.bookingId.text) ∧
      ∀ entry ∈ group.overlaps, 1 ≤ entry.days ∧ entry.days ≤ search.durationDays := by
  obtain ⟨_, _, hfound, hlast⟩ := run_bind_eq_ok hrun
  cases hlast
  obtain ⟨hrules, rfl⟩ := findTemporaryAccommodation_eq_ok hfound
  obtain ⟨hstart, hstop, hdays⟩ := range_of_durationRules (List.append_eq_nil_iff.1 hrules).2
  obtain ⟨inventory, hinventory, hpremises, hoverlaps⟩ := overlaps_of_mem_temporaryListing hgroup
  generalize range search.startDate search.durationDays = nights at *
  have hnodup : ((inventory.staying world.store nights).map Booking.id).Nodup := by
    refine .of_map Id.text ?_
    rw [List.map_map]
    exact world.store.bookings.nodup_keys.sublist (List.filter_sublist.map key)
  have hmade : List.Forall₂ (fun entry b => entry.Tells world.store nights b)
      ((inventory.staying world.store nights).filterMap (inventory.overlapOf? nights))
      (inventory.staying world.store nights) :=
    forall₂_filterMap fun b hb => Inventory.exists_overlapOf hinventory hhoused hdates hb
  -- the entries are sorted after they are made, and the bookings along with them
  obtain ⟨told, htells, hperm⟩ := List.perm_comp_forall₂ (List.mergeSort_perm _ _) hmade
  rw [← hoverlaps] at htells
  have hmem (b : Booking) :
      b ∈ told ↔ b ∈ world.store.bookings.rows ∧ b.StaysAt group.premises.id nights := by
    rw [hperm.mem_iff, Inventory.mem_staying, hpremises]
  refine ⟨nights, told, hstart, hstop, htells, hperm.nodup_iff.2 hnodup.of_map, hmem, ?_, ?_⟩
  · rw [hoverlaps]
    exact Inventory.pairwise_entries (BookingOverlap.nodup_ids hmade hnodup)
  · intro entry hentry
    obtain ⟨b, hb, hentry⟩ := exists_of_forall₂ htells.flip hentry
    obtain ⟨hstored, hstays⟩ := (hmem b).1 hb
    have hnights : nights.start < nights.stop := by
      rw [Date.lt_def, hstart]
      omega
    have hcount : nights.days = search.durationDays := by
      unfold DateRange.days Date.daysUntil
      rw [hstart]
      omega
    rw [← hcount]
    exact hentry.days_mem (hdates b hstored) hnights hstays.overlaps

/-- Temporary accommodation in Leeds with three beds in two rooms and two turnaround days. -/
def threeBeds : Inventory :=
  { premises :=
      { id := ⟨"premises-1"⟩, name := "Ash House", service := .temporaryAccommodation
        status := .active, postcode := "LS2 2BB", probationDeliveryUnit := "Leeds"
        location := none, characteristics := ∅, turnaroundDays := 2 }
    rooms := [
      ⟨⟨⟨"room-1"⟩, ⟨"premises-1"⟩, "Room 1", ∅⟩, [⟨⟨"bed-1"⟩, ⟨"room-1"⟩, "Bed 1", none⟩]⟩,
      ⟨⟨⟨"room-2"⟩, ⟨"premises-1"⟩, "Room 2", ∅⟩,
        [⟨⟨"bed-2"⟩, ⟨"room-2"⟩, "Bed 2", none⟩, ⟨⟨"bed-3"⟩, ⟨"room-2"⟩, "Bed 3", none⟩]⟩] }

/-- That house, with a stay that ends on the last day of February and one that goes on until the
    third of March. -/
def houseOfThreeBeds : Store :=
  { Store.empty.putPremises threeBeds with
    bookings := .ofList [
      { februaryStay with departureDate := firstOfMarch.earlier 1 },
      { februaryStay with
        id := ⟨"booking-2"⟩, bedId := ⟨"bed-2"⟩, arrivalDate := firstOfMarch.earlier 1
        departureDate := firstOfMarch.later 2 }] }

/-- A search for the first week of March. -/
def searchOfFirstWeek : TemporaryAccommodationSearch := { searchOfMarch with durationDays := 7 }

/-- The stay that goes on is told of with its two nights in March, the one that is over is not. -/
theorem houseOfThreeBeds_sameNights :
    ∃ groups group nights told,
      (find 50.0 (.temporaryAccommodation searchOfFirstWeek)).run .none
        (.ofStore houseOfThreeBeds) =
          (.ok (.temporaryAccommodation groups), .ofStore houseOfThreeBeds) ∧
      group ∈ groups ∧
      group.overlaps.map (fun entry => (entry.bookingId, entry.roomId, entry.days)) =
        [(⟨"booking-2"⟩, ⟨"room-2"⟩, 2)] ∧
      List.Forall₂ (fun entry b => entry.Tells houseOfThreeBeds nights b) group.overlaps told := by
  have hrules : temporaryRules searchOfFirstWeek = [] := by decide +kernel
  have hhoused : (World.ofStore houseOfThreeBeds).store.Housed := by
    unfold Store.Housed
    decide
  have hdates : (World.ofStore houseOfThreeBeds).store.DepartsLater := by
    unfold Store.DepartsLater
    decide
  have hrun : (find 50.0 (.temporaryAccommodation searchOfFirstWeek)).run .none
      (.ofStore houseOfThreeBeds) =
        (.ok (.temporaryAccommodation (temporaryListing houseOfThreeBeds searchOfFirstWeek)),
          .ofStore houseOfThreeBeds) := by
    unfold find
    rw [run_bind_of_ok (run_findTemporaryAccommodation hrules)]
    rfl
  have htold : (temporaryListing houseOfThreeBeds searchOfFirstWeek).map (fun group =>
      group.overlaps.map fun entry => (entry.bookingId, entry.roomId, entry.days)) =
        [[(⟨"booking-2"⟩, ⟨"room-2"⟩, 2)]] := by
    decide +kernel
  obtain ⟨group, hgroups, hentries⟩ := List.map_eq_singleton_iff.1 htold
  have hgroup : group ∈ temporaryListing houseOfThreeBeds searchOfFirstWeek := by
    rw [hgroups]
    exact List.mem_singleton_self group
  obtain ⟨nights, told, _, _, htells, _⟩ := find_sameNights hhoused hdates hrun hgroup
  exact ⟨_, group, nights, told, hrun, hgroup, hentries, htells⟩

end BedSearch

end Bedspace
