import Bedspace.Proofs.Booking.Dates
import Bedspace.Proofs.Search.Listed

/-!
# Booking a bed during turnaround

A bed in temporary accommodation stays blocked for the turnaround days of the premises after a
departure. Searches go by that; the making of a booking looks at the nights of other bookings alone.

* `Store.TurningRound`: a live booking of a bed has departed by a date and its turnaround days reach
  past that date;
* **`System.reaches_bookedDuringTurnaround`**: where a booking is made, nothing holds the bed on its
  nights, and a search for them finds the bed blocked exactly if it is turning round on the arrival
  date; `System.ashHouseLet_turnaround_ignored` is a case in which it is.
-/

namespace Bedspace

open Operation

/-- **A bed is turning round on a date**: a live booking has departed by then and would still hold
    the bed if it lasted longer by its turnaround days. -/
def Store.TurningRound (store : Store) (turnaround : Booking → Nat) (bed : BedId) (date : Date) :
    Prop :=
  ∃ b ∈ store.bookings.rows, b.bedId = bed ∧ b.isCancelled = false ∧ b.departureDate ≤ date ∧
    date < b.departureDate.later (turnaround b)

/-! ## 1. One bed -/

/-- Of two stays with no night in common, one reaches into the other by its turnaround days exactly
    if the other one arrives when it has departed and before these days are over. -/
theorem Booking.overlaps_extendedBy_iff_departed {b : Booking} {nights : DateRange}
    (hdates : b.arrivalDate < b.departureDate) (hnights : nights.start < nights.stop)
    (hapart : b.range.overlaps nights = false) (days : Nat) :
    (b.range.extendedBy days).overlaps nights = true ↔
      b.departureDate ≤ nights.start ∧ nights.start < b.departureDate.later days := by
  rw [← Bool.not_eq_true, DateRange.overlaps_iff, Booking.stop_range hdates] at hapart
  rw [DateRange.overlaps_iff, DateRange.day_stop_extendedBy, Booking.stop_range hdates,
    Date.le_def, Date.lt_def, Date.day_later]
  rw [Date.lt_def] at hdates hnights
  have hstart : (b.range.extendedBy days).start.day = b.arrivalDate.day := rfl
  have hstart' : b.range.start.day = b.arrivalDate.day := rfl
  omega

section OneBed

variable {store : Store} {bed : BedId} {nights : DateRange}

/-- **A bed that nothing holds on some nights is held with turnaround exactly if it is turning
    round** when they begin. -/
theorem Store.BedFree.not_bedFree_iff (h : store.BedFree Booking.range bed nights)
    (hdates : store.DepartsLater) (hnights : nights.start < nights.stop)
    (turnaround : Booking → Nat) :
    ¬ store.BedFree (fun b => b.range.extendedBy (turnaround b)) bed nights ↔
      store.TurningRound turnaround bed nights.start := by
  have hreaches {b : Booking} (hb : b ∈ store.bookings.rows) (hbed : b.bedId = bed)
      (hlive : b.isCancelled = false) :=
    b.overlaps_extendedBy_iff_departed (hdates b hb) hnights (h.bookings b hb hbed hlive)
      (turnaround b)
  constructor
  · intro hheld
    refine Classical.byContradiction fun hnone => hheld ⟨fun b hb hbed hlive => ?_, h.periods⟩
    refine Bool.eq_false_iff.2 fun hov => hnone ⟨b, hb, hbed, hlive, ?_⟩
    exact (hreaches hb hbed hlive).1 hov
  · rintro ⟨b, hb, hbed, hlive, hdeparted⟩ hfree
    exact Bool.false_ne_true ((hfree.bookings b hb hbed hlive).symm.trans
      ((hreaches hb hbed hlive).2 hdeparted))

theorem turnaroundOf_le_longestTurnaround (estate : List Inventory) (id : PremisesId) :
    turnaroundOf estate id ≤ longestTurnaround estate := by
  unfold turnaroundOf
  split
  · exact le_longestTurnaround (List.mem_of_find?_eq_some ‹_›)
  · exact Nat.zero_le _

/-- **What a search reads** about a bed that nothing holds on its nights. -/
theorem Store.BedFree.readLonger_blocks_iff (h : store.BedFree Booking.range bed nights)
    (hdates : store.DepartsLater) (hnights : nights.start < nights.stop)
    (estate : List Inventory) :
    (store.readLonger nights estate).blocks nights bed = true ↔
      store.TurningRound (fun b => turnaroundOf estate b.premisesId) bed nights.start := by
  have hread : (store.readLonger nights estate).blocks nights bed = false ↔
      store.BedFree (fun b => b.range.extendedBy (turnaroundOf estate b.premisesId)) bed nights := by
    refine Store.bedFree_iff (fun _ _ _ => rfl) fun b hb _ hov => ?_
    exact DateRange.overlaps_window (Booking.start_lt_stop (hdates b hb)) hnights
      (turnaroundOf_le_longestTurnaround estate b.premisesId) hov
  rw [← h.not_bedFree_iff hdates hnights, ← hread, Bool.not_eq_false]

end OneBed

/-! ## 2. Bookings that are made -/

namespace System

variable {world : World} {s : System}

/-- **Where a booking is made, nothing holds the bed on its nights.** Turnaround is not looked at: the
    bed is held with any number of turnaround days exactly if it is turning round on the arrival date,
    and so says the search in temporary accommodation, whatever premises it looks at. -/
theorem reaches_bookedDuringTurnaround (h₀ : world.store.Unused)
    (h : (idle world).ReachesLoading s) {faults : Faults} {premises : PremisesId}
    {request : NewBooking} {links : BookingLinks} {today : Date} {made : Booking} {world' : World}
    (hrun : (Bookings.create premises request links today).run faults s.world =
      (.ok made, world')) :
    let nights := DateRange.spanning request.arrivalDate request.departureDate
    s.world.store.BedFree Booking.range request.bedId nights ∧
      (∀ days : Nat,
        ¬ s.world.store.BedFree (fun b => b.range.extendedBy days) request.bedId nights ↔
          s.world.store.TurningRound (fun _ => days) request.bedId request.arrivalDate) ∧
      ∀ estate : List Inventory,
        (s.world.store.readLonger nights estate).blocks nights request.bedId = true ↔
          s.world.store.TurningRound (fun b => turnaroundOf estate b.premisesId) request.bedId
            request.arrivalDate := by
  obtain ⟨⟨inventory, hfits⟩, _⟩ := Bookings.fits_of_create hrun
  have hdates := h.departsLater h₀
  have hnights : (DateRange.spanning request.arrivalDate request.departureDate).start <
      (DateRange.spanning request.arrivalDate request.departureDate).stop := by
    rw [DateRange.stop_spanning hfits.dates]
    exact hfits.dates
  exact ⟨hfits.free, fun days => hfits.free.not_bedFree_iff hdates hnights fun _ => days,
    fun estate => hfits.free.readLonger_blocks_iff hdates hnights estate⟩

/-- An estate with one bed in temporary accommodation, whose premises take two turnaround days. -/
def ashHouseFile : List UInt8 :=
  ("premises_id,premises_name,service,postcode,pdu,turnaround_days,room_id,room_name,bed_id,"
    ++ "bed_name\n"
    ++ "ash,Ash House,ta,LS2 2BB,Leeds,2,ash-1,Room 1,ash-1-1,Bed 1\n").toUTF8.toList

/-- The wish for the bed from a day on, for a number of nights. -/
def ashHouseStay (start nights : Nat) : NewBooking :=
  ⟨"X320741", ⟨"ash-1-1"⟩, Date.first.later start, Date.first.later (start + nights)⟩

/-- The estate is loaded, and the bed is booked for the first 28 nights. -/
def ashHouseLet : System :=
  ((idle (.ofStore .empty)).loadEstate .none ashHouseFile).serve .none
    (.linkedBooking ⟨"ash"⟩ (ashHouseStay 0 28) .none .first)

theorem reaches_ashHouseLet : (idle (.ofStore .empty)).ReachesLoading ashHouseLet :=
  ReachesLoading.start.loadEstate.trans (reaches_serve .start _ _).reachesLoading

/-- The first booking and two turnaround days reach into the week after it. -/
theorem ashHouseLet_held :
    ∃ b ∈ ashHouseLet.world.store.bookings.rows, b.bedId = ⟨"ash-1-1"⟩ ∧ b.isCancelled = false ∧
      (b.range.extendedBy 2).overlaps (.spanning (Date.first.later 28) (Date.first.later 35)) =
        true := by
  have hheld : (ashHouseLet.world.store.bookings.rows.any fun b =>
      b.bedId = ⟨"ash-1-1"⟩ && !b.isCancelled &&
        (b.range.extendedBy 2).overlaps
          (.spanning (Date.first.later 28) (Date.first.later 35))) = true := by
    decide +kernel
  obtain ⟨b, hb, hblocks⟩ := List.any_eq_true.1 hheld
  rw [Bool.and_eq_true, Bool.and_eq_true, decide_eq_true_eq, Bool.not_eq_true'] at hblocks
  exact ⟨b, hb, hblocks.1.1, hblocks.1.2, hblocks.2⟩

/-- That week can be booked. -/
theorem ashHouseLet_booked :
    ∃ made world', (Bookings.create ⟨"ash"⟩ (ashHouseStay 28 7) .none .first).run .none
      ashHouseLet.world = (.ok made, world') := by
  have hbooked : ((Bookings.create ⟨"ash"⟩ (ashHouseStay 28 7) .none .first).run .none
      ashHouseLet.world).1.toOption.isSome = true := by
    decide +kernel
  obtain ⟨made, hmade⟩ := Option.isSome_iff_exists.1 hbooked
  exact ⟨made, _, Prod.ext (eq_ok_of_toOption hmade) rfl⟩

/-- On the day of the departure the bed is booked again, while it is turning round. -/
theorem ashHouseLet_bookedDuringTurnaround :
    (∃ made world', (Bookings.create ⟨"ash"⟩ (ashHouseStay 28 7) .none .first).run .none
        ashHouseLet.world = (.ok made, world')) ∧
      ashHouseLet.world.store.TurningRound (fun _ => 2) ⟨"ash-1-1"⟩ (Date.first.later 28) := by
  obtain ⟨made, world', hrun⟩ := ashHouseLet_booked
  refine ⟨⟨made, world', hrun⟩, ?_⟩
  refine ((reaches_bookedDuringTurnaround Store.unused_empty reaches_ashHouseLet hrun).2.1 2).1
    fun hfree => ?_
  obtain ⟨b, hb, hbed, hlive, hov⟩ := ashHouseLet_held
  exact Bool.false_ne_true ((hfree.bookings b hb hbed hlive).symm.trans hov)

/-- **Turnaround is not kept free.** In active temporary accommodation with two turnaround days, the
    bed is booked from the day on which another booking departs, for nights on which the search lists
    no bed. -/
theorem ashHouseLet_turnaround_ignored :
    (idle (.ofStore .empty)).ReachesLoading ashHouseLet ∧
      (∃ inventory, ashHouseLet.world.store.premises? ⟨"ash"⟩ = some inventory ∧
        inventory.premises.service = .temporaryAccommodation ∧
        inventory.premises.isActive = true ∧ inventory.premises.turnaroundDays = 2) ∧
      (∃ b ∈ ashHouseLet.world.store.bookings.rows, b.bedId = ⟨"ash-1-1"⟩ ∧
        b.isCancelled = false ∧
        (b.range.extendedBy 2).overlaps
          (.spanning (Date.first.later 28) (Date.first.later 35)) = true) ∧
      (∃ made world', (Bookings.create ⟨"ash"⟩ (ashHouseStay 28 7) .none .first).run .none
        ashHouseLet.world = (.ok made, world')) ∧
      ∃ results, ((BedSearch.find 50.0
          (.temporaryAccommodation ⟨["leeds"], Date.first.later 28, 7, .none⟩)).run .none
            ashHouseLet.world).1 = .ok results ∧ results.places.length = 0 := by
  have hfacts :
      (ashHouseLet.world.store.premises? ⟨"ash"⟩).any (fun inventory =>
          inventory.premises.service = .temporaryAccommodation && inventory.premises.isActive &&
            inventory.premises.turnaroundDays = 2) = true ∧
        ((BedSearch.find 50.0
            (.temporaryAccommodation ⟨["leeds"], Date.first.later 28, 7, .none⟩)).run .none
          ashHouseLet.world).1.toOption.map (fun results => results.places.length) = some 0 := by
    decide +kernel
  obtain ⟨hpremises, hlisted⟩ := hfacts
  obtain ⟨inventory, hstored, hfits⟩ := (Option.any_eq_true _ _).1 hpremises
  obtain ⟨results, hresults, hnone⟩ := Option.map_eq_some_iff.1 hlisted
  simp only [Bool.and_eq_true, decide_eq_true_eq] at hfits
  obtain ⟨⟨hservice, hactive⟩, hdays⟩ := hfits
  exact ⟨reaches_ashHouseLet, ⟨inventory, hstored, hservice, hactive, hdays⟩, ashHouseLet_held,
    ashHouseLet_booked, ⟨results, eq_ok_of_toOption hresults, hnone⟩⟩

end System

end Bedspace
