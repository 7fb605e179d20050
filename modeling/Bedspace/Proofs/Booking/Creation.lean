import Bedspace.Booking.Lifecycle
import Bedspace.Proofs.Search.Scan
import Bedspace.Proofs.Writes

/-!
# When a bed can be booked

A booking is made in four steps: the premises are read, the wish is checked, the bed is looked at,
and the store looks once more before it writes.

* `NewBooking.Fits` is what has to be the case for that;
* **`Bookings.run_create`**: where a wish fits, the booking is made, unless its identifier is taken
  or it is for a closed placement request;
* **`Bookings.fits_of_create`**: where a booking is made, whatever methods are out of order, the
  wish did fit.
-/

namespace Bedspace

open Operation Text

/-- **What a wish for a booking needs**: the premises are there and active, the person is named, the
    dates are in order, and the bed is one of the premises, in use on the arrival date and held by
    nothing in the store. -/
structure NewBooking.Fits (request : NewBooking) (store : Store) (premises : PremisesId)
    (inventory : Inventory) : Prop where
  stored : store.premises? premises = some inventory
  active : inventory.premises.isActive = true
  crn : isEmptyTrimmed request.crn = false
  dates : request.arrivalDate < request.departureDate
  bed : ∃ found, inventory.locate? request.bedId = some found ∧
    found.2.inServiceOn request.arrivalDate = true
  free : store.BedFree Booking.range request.bedId
    (.spanning request.arrivalDate request.departureDate)

theorem Booking.blocks_iff {b : Booking} {bed : BedId} {nights : DateRange} :
    b.blocks bed nights = true ↔
      b.bedId = bed ∧ b.isCancelled = false ∧ b.range.overlaps nights = true := by
  unfold blocks blocksBed
  rw [Bool.and_eq_true, Bool.and_eq_true, decide_eq_true_eq, Bool.not_eq_true', and_assoc]

/-- A bed is free if no booking and no period blocks it. -/
theorem Store.bedFree_iff_blocks {store : Store} {bed : BedId} {nights : DateRange} :
    store.BedFree Booking.range bed nights ↔
      (∀ b ∈ store.bookings.rows, b.blocks bed nights = false) ∧
        ∀ p ∈ store.outOfService.rows, p.blocks bed nights = false := by
  constructor
  · intro h
    refine ⟨fun b hb => Bool.eq_false_iff.2 fun hblocks => ?_,
      fun p hp => Bool.eq_false_iff.2 fun hblocks => ?_⟩
    · obtain ⟨hbed, hlive, hov⟩ := Booking.blocks_iff.1 hblocks
      exact Bool.false_ne_true ((h.bookings b hb hbed hlive).symm.trans hov)
    · obtain ⟨hbed, hlive, hov⟩ := OutOfServicePeriod.blocks_iff.1 hblocks
      exact Bool.false_ne_true ((h.periods p hp hbed hlive).symm.trans hov)
  · rintro ⟨hbookings, hperiods⟩
    refine ⟨fun b hb hbed hlive => Bool.eq_false_iff.2 fun hov => ?_,
      fun p hp hbed hlive => Bool.eq_false_iff.2 fun hov => ?_⟩
    · exact Bool.eq_false_iff.1 (hbookings b hb) (Booking.blocks_iff.2 ⟨hbed, hlive, hov⟩)
    · exact Bool.eq_false_iff.1 (hperiods p hp) (OutOfServicePeriod.blocks_iff.2 ⟨hbed, hlive, hov⟩)

theorem Store.bedTaken_of_bedFree {store : Store} {bed : BedId} {nights : DateRange}
    (h : store.BedFree Booking.range bed nights) : store.bedTaken bed nights none = false := by
  obtain ⟨hbookings, hperiods⟩ := Store.bedFree_iff_blocks.1 h
  refine Bool.or_eq_false_iff.2 ⟨List.any_eq_false.2 fun b hb => ?_,
    List.any_eq_false.2 fun p hp => Bool.eq_false_iff.1 (hperiods p hp)⟩
  rw [hbookings b hb]
  exact Bool.false_ne_true

/-- The store takes a booking under a free identifier for a free bed, if its placement request is
    open or it is for none. -/
theorem Store.insertBooking_of_bedFree {store : Store} {b : Booking}
    (hid : store.bookings.contains b.id.text = false)
    (hopen : b.placementRequestId.any store.requestClosed = false)
    (hfree : store.BedFree Booking.range b.bedId b.range) :
    store.insertBooking b = .ok (b, { store with bookings := store.bookings.put b }) := by
  have huntaken := Store.bedTaken_of_bedFree hfree
  unfold insertBooking
  rw [if_neg (Bool.eq_false_iff.1 hid), if_neg (Bool.eq_false_iff.1 hopen),
    if_neg (Bool.eq_false_iff.1 huntaken)]

namespace Bookings

variable {faults : Faults} {store : Store} {world world' : World} {premises : PremisesId}
  {inventory : Inventory} {request : NewBooking} {links : BookingLinks} {today : Date}

/-! ## 1. The rules -/

theorem bedRules_eq_nil_iff {bed : BedId} {date : Date} :
    bedRules inventory bed date = [] ↔
      ∃ found, inventory.locate? bed = some found ∧ found.2.inServiceOn date = true := by
  unfold bedRules
  split
  · rename_i hnone
    rw [hnone]
    exact iff_of_false (fun h => nomatch h) fun ⟨_, h, _⟩ => nomatch h
  · rename_i room found hsome
    rw [hsome, InvalidParams.noteIf_eq_nil, Bool.not_eq_false']
    constructor
    · exact fun h => ⟨(room, found), rfl, h⟩
    · rintro ⟨_, h, hin⟩
      cases h
      exact hin

theorem creationRules_eq_nil_iff :
    creationRules inventory request = [] ↔
      isEmptyTrimmed request.crn = false ∧ request.arrivalDate < request.departureDate ∧
        ∃ found, inventory.locate? request.bedId = some found ∧
          found.2.inServiceOn request.arrivalDate = true := by
  unfold creationRules outOfOrder
  rw [List.append_eq_nil_iff, List.append_eq_nil_iff, InvalidParams.noteIf_eq_nil,
    InvalidParams.noteIf_eq_nil, bedRules_eq_nil_iff, decide_eq_false_iff_not, Date.le_def,
    Int.not_le, and_assoc]
  exact Iff.rfl

/-! ## 2. The bed -/

/-- Looking through what was read finds nothing if there is nothing to find at all, as long as
    whatever is looked for was read. -/
theorem find?_filter_eq_none_iff {α : Type} {xs : List α} {read wanted : α → Bool}
    (h : ∀ a, wanted a = true → read a = true) :
    (xs.filter read).find? wanted = none ↔ ∀ a ∈ xs, wanted a = false := by
  rw [List.find?_filter, List.find?_eq_none]
  refine forall_congr' fun a => imp_congr_right fun _ => ?_
  rw [decide_eq_true_eq, Bool.eq_false_iff]
  exact ⟨fun hnot hwanted => hnot ⟨h a hwanted, hwanted⟩, fun hnot hboth => hnot hboth.2⟩

theorem bookings_find?_eq_none_iff {bed : BedId} {nights : DateRange} :
    (store.bookingsOver nights).find? (fun b => b.blocks bed nights) = none ↔
      ∀ b ∈ store.bookings.rows, b.blocks bed nights = false :=
  find?_filter_eq_none_iff fun _ hblocks => (Booking.blocks_iff.1 hblocks).2.2

theorem periods_find?_eq_none_iff {bed : BedId} {nights : DateRange} :
    (store.outOfServiceOver nights).find? (fun p => p.blocks bed nights) = none ↔
      ∀ p ∈ store.outOfService.rows, p.blocks bed nights = false :=
  find?_filter_eq_none_iff fun _ hblocks => (OutOfServicePeriod.blocks_iff.1 hblocks).2.2

/-- Looking at a bed finds nothing wrong with it if nothing holds it. -/
theorem run_ensureBedFree {bed : BedId} {nights : DateRange}
    (h : world.store.BedFree Booking.range bed nights) :
    (ensureBedFree bed nights).run .none world = (.ok (), world) := by
  obtain ⟨hbookings, hperiods⟩ := Store.bedFree_iff_blocks.1 h
  unfold ensureBedFree
  rw [run_bind_of_ok (run_call_of_ok rfl), bookings_find?_eq_none_iff.2 hbookings,
    run_bind_of_ok (a := ()) rfl, run_bind_of_ok (run_call_of_ok rfl),
    periods_find?_eq_none_iff.2 hperiods]
  rfl

theorem bedFree_of_ensureBedFree {bed : BedId} {nights : DateRange} {u : Unit}
    (h : (ensureBedFree bed nights).run faults world = (.ok u, world')) :
    world.store.BedFree Booking.range bed nights ∧ world' = world := by
  unfold ensureBedFree at h
  obtain ⟨bookings, _, hread, h⟩ := run_bind_eq_ok h
  obtain ⟨hbookings, rfl⟩ := run_call_eq_ok hread
  obtain ⟨_, _, hchecked, h⟩ := run_bind_eq_ok h
  obtain ⟨hnoBooking, rfl⟩ := run_failWith_eq_ok hchecked
  obtain ⟨periods, _, hreadAgain, h⟩ := run_bind_eq_ok h
  obtain ⟨hperiods, rfl⟩ := run_call_eq_ok hreadAgain
  obtain ⟨hnoPeriod, rfl⟩ := run_failWith_eq_ok h
  cases hbookings
  cases hperiods
  refine ⟨Store.bedFree_iff_blocks.2 ⟨bookings_find?_eq_none_iff.1 ?_,
    periods_find?_eq_none_iff.1 ?_⟩, rfl⟩
  · exact Option.map_eq_none_iff.1 hnoBooking
  · exact Option.map_eq_none_iff.1 hnoPeriod

/-! ## 3. The booking -/

theorem run_findPremises (h : world.store.premises? premises = some inventory) :
    (findPremises premises).run .none world = (.ok inventory, world) := by
  unfold findPremises
  rw [run_bind_of_ok (run_call_of_ok rfl), h]
  rfl

/-- **What a wish that fits comes to**, if the next identifier is free and the booking is for no
    closed placement request. -/
theorem run_create_of_fits (h : request.Fits world.store premises inventory)
    (hid : world.store.bookings.contains (world.nextId .booking).text = false)
    (hopen : links.placementRequestId.any world.store.requestClosed = false) :
    let made := newBooking (world.nextId .booking) premises request links today
    (create premises request links today).run .none world =
      (.ok made, { world.afterIssue .booking with
        store := { world.store with bookings := world.store.bookings.put made } }) := by
  have hrules : creationRules inventory request = [] :=
    creationRules_eq_nil_iff.2 ⟨h.crn, h.dates, h.bed⟩
  have hissued : (issue .booking : Operation BookingError BookingId).run .none world =
      (.ok (world.nextId .booking), world.afterIssue .booking) := rfl
  have hcreate : (create premises request links today).run .none world =
      Operation.run (α := Booking) (call (.ofWrite request.bedId)
        (.insertBooking (newBooking (world.nextId .booking) premises request links today)))
        .none (world.afterIssue .booking) := by
    unfold create obey
    rw [run_bind_of_ok (run_findPremises h.stored),
      run_bind_of_ok (run_failIf_of_false (by rw [h.active]; rfl)),
      run_bind_of_ok (run_failIf_of_false (by rw [hrules]; rfl)),
      run_bind_of_ok (run_ensureBedFree h.free), run_bind_of_ok hissued]
  have hwrite := Store.insertBooking_of_bedFree
    (b := newBooking (world.nextId .booking) premises request links today) hid hopen h.free
  exact hcreate.trans (run_call_of_perform (congrArg (Call.settle world.store) hwrite))

/-- **A wish that fits is granted.** -/
theorem run_create (h : request.Fits world.store premises inventory)
    (hid : world.store.bookings.contains (world.nextId .booking).text = false)
    (hopen : links.placementRequestId.any world.store.requestClosed = false) :
    ∃ made world', (create premises request links today).run .none world = (.ok made, world') :=
  ⟨_, _, run_create_of_fits h hid hopen⟩

theorem findPremises_eq_ok
    (h : (findPremises premises).run faults world = (.ok inventory, world')) :
    world.store.premises? premises = some inventory ∧ world' = world := by
  unfold findPremises at h
  obtain ⟨found, _, hread, hdemand⟩ := run_bind_eq_ok h
  obtain ⟨hstored, rfl⟩ := run_call_eq_ok hread
  obtain ⟨rfl, rfl⟩ := run_demand_eq_ok hdemand
  exact ⟨Except.ok.inj hstored, rfl⟩

/-- **What was granted did fit**, and is in the store. -/
theorem fits_of_create {made : Booking}
    (h : (create premises request links today).run faults world = (.ok made, world')) :
    (∃ inventory, request.Fits world.store premises inventory) ∧ made.bedId = request.bedId ∧
      made ∈ world'.store.bookings.rows := by
  unfold create at h
  obtain ⟨inventory, _, hfound, h₁⟩ := run_bind_eq_ok h
  obtain ⟨hstored, rfl⟩ := findPremises_eq_ok hfound
  obtain ⟨_, _, hchecked, h₂⟩ := run_bind_eq_ok h₁
  obtain ⟨hactive, rfl⟩ := run_failIf_eq_ok hchecked
  obtain ⟨_, _, hobeyed, h₃⟩ := run_bind_eq_ok h₂
  obtain ⟨hrules, rfl⟩ := run_failIf_broken_eq_ok hobeyed
  obtain ⟨_, _, hlooked, h₄⟩ := run_bind_eq_ok h₃
  obtain ⟨hfree, rfl⟩ := bedFree_of_ensureBedFree hlooked
  obtain ⟨id, _, hissued, h₅⟩ := run_bind_eq_ok h₄
  cases hissued
  obtain ⟨hmade, rfl⟩ := run_call_eq_ok h₅
  obtain ⟨store', hwrite, hstore⟩ := Call.settle_eq_ok hmade
  obtain ⟨_, _, _, rfl, hput⟩ := Store.insertBooking_eq_ok hwrite
  rw [Bool.not_eq_false'] at hactive
  obtain ⟨hcrn, hdates, hbed⟩ := creationRules_eq_nil_iff.1 hrules
  refine ⟨⟨inventory, hstored, hactive, hcrn, hdates, hbed, hfree⟩, rfl, ?_⟩
  show _ ∈ (Call.settle _ _).2.bookings.rows
  rw [hstore, hput]
  exact Table.mem_place_self _ _

end Bookings

end Bedspace
