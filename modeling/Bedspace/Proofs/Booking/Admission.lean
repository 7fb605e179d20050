import Bedspace.Proofs.Booking.Creation
import Bedspace.Proofs.Acting

/-!
# What a wish for a booking comes to

A wish is refused for one reason at most, and which one is settled in a certain order: unknown
premises, archived premises, the rules that it breaks, and what holds the bed. Whatever passes all
of that is booked.

* `Bookings.Verdict` puts this as a table: each line gives the conditions and what the wish then
  comes to;
* `Bookings.creationRules_eq`: the rules that are reported are those that are broken, in the order
  of `Bookings.ruleTable`;
* `Bookings.run_ensureBedFree_of_holds`: looking at a bed finds whatever holds it, anywhere in the
  store;
* **`System.create_verdict`**: in every state, a wish that comes from no placement request comes to
  what the table says, and what is booked has an identifier that no booking ever had.
-/

namespace Bedspace

open Operation Text

/-! ## 1. What holds a bed -/

/-- **Something in the store holds a bed on one of some nights**: a booking or a period out of
    service, of whatever premises, that is not cancelled. -/
inductive Store.Holds (store : Store) (bed : BedId) (nights : DateRange) : BedHolder → Prop where
  | booking (b : Booking) (hb : b ∈ store.bookings.rows) (hbed : b.bedId = bed)
      (hlive : b.isCancelled = false) (hnights : b.range.overlaps nights = true) :
      Holds store bed nights (.booking b.id b.arrivalDate b.departureDate)
  | period (p : OutOfServicePeriod) (hp : p ∈ store.outOfService.rows) (hbed : p.bedId = bed)
      (hlive : p.isCancelled = false) (hnights : p.range.overlaps nights = true) :
      Holds store bed nights (.outOfService p.id p.startDate p.endDate)

theorem Store.bedFree_iff_not_holds {store : Store} {bed : BedId} {nights : DateRange} :
    store.BedFree Booking.range bed nights ↔ ∀ holder, ¬ store.Holds bed nights holder := by
  constructor
  · intro h holder hholds
    cases hholds with
    | booking b hb hbed hlive hnights =>
      exact Bool.false_ne_true ((h.bookings b hb hbed hlive).symm.trans hnights)
    | period p hp hbed hlive hnights =>
      exact Bool.false_ne_true ((h.periods p hp hbed hlive).symm.trans hnights)
  · intro h
    refine ⟨fun b hb hbed hlive => ?_, fun p hp hbed hlive => ?_⟩
    · exact Bool.eq_false_iff.2 fun hnights => h _ (.booking b hb hbed hlive hnights)
    · exact Bool.eq_false_iff.2 fun hnights => h _ (.period p hp hbed hlive hnights)

namespace Bookings

variable {world world' : World} {premises : PremisesId} {inventory : Inventory}
  {request : NewBooking} {today : Date}

/-- **If anything holds a bed, looking at the bed finds it.** Bookings are looked through first. -/
theorem run_ensureBedFree_of_holds {bed : BedId} {nights : DateRange} {holder : BedHolder}
    (h : world.store.Holds bed nights holder) :
    ∃ found, world.store.Holds bed nights found ∧
      (ensureBedFree bed nights).run .none world = (.error (.bedTaken bed found), world) := by
  unfold ensureBedFree
  rw [run_bind_of_ok (run_call_of_ok rfl)]
  cases hbookings : (world.store.bookingsOver nights).find? fun b => b.blocks bed nights with
  | some b =>
    have hblocks := List.find?_some hbookings
    obtain ⟨hbed, hlive, hnights⟩ := Booking.blocks_iff.1 hblocks
    have hb := (List.mem_filter.1 (List.mem_of_find?_eq_some hbookings)).1
    exact ⟨_, .booking b hb hbed hlive hnights, run_bind_of_error rfl⟩
  | none =>
    rw [run_bind_of_ok (a := ()) rfl, run_bind_of_ok (run_call_of_ok rfl)]
    cases hperiods : (world.store.outOfServiceOver nights).find? fun p => p.blocks bed nights with
    | some p =>
      have hblocks := List.find?_some hperiods
      obtain ⟨hbed, hlive, hnights⟩ := OutOfServicePeriod.blocks_iff.1 hblocks
      have hp := (List.mem_filter.1 (List.mem_of_find?_eq_some hperiods)).1
      exact ⟨_, .period p hp hbed hlive hnights, rfl⟩
    | none =>
      have hfree := Store.bedFree_iff_blocks.2
        ⟨bookings_find?_eq_none_iff.1 hbookings, periods_find?_eq_none_iff.1 hperiods⟩
      exact absurd h (Store.bedFree_iff_not_holds.1 hfree holder)

/-! ## 2. The rules -/

/-- The rules on a wish for a booking in the order in which they are reported, each with whether it
    is broken: the person is named, the departure comes after the arrival, the bed is in the
    premises and, if it is, it is in use on the arrival date. -/
def ruleTable (inventory : Inventory) (request : NewBooking) : List (Bool × InvalidParam) := [
  (isEmptyTrimmed request.crn, ⟨"$.crn", "empty"⟩),
  (request.departureDate ≤ request.arrivalDate, ⟨"$.departureDate", "beforeBookingArrivalDate"⟩),
  ((inventory.locate? request.bedId).isNone, ⟨"$.bedId", "doesNotExist"⟩),
  ((inventory.locate? request.bedId).any fun found => !found.2.inServiceOn request.arrivalDate,
    ⟨"$.arrivalDate", "afterBedEndDate"⟩)]

/-- The rules that are broken, in their order. -/
def brokenRules (inventory : Inventory) (request : NewBooking) : InvalidParams :=
  ((ruleTable inventory request).filter Prod.fst).map Prod.snd

theorem creationRules_eq : creationRules inventory request = brokenRules inventory request := by
  have note (broken : Bool) (param : InvalidParam) (rest : List (Bool × InvalidParam)) :
      (((broken, param) :: rest).filter Prod.fst).map Prod.snd =
        InvalidParams.noteIf broken param.propertyName param.errorType ++
          (rest.filter Prod.fst).map Prod.snd := by
    cases broken with
    | true => rfl
    | false => rfl
  have hbed : bedRules inventory request.bedId request.arrivalDate =
      InvalidParams.noteIf (inventory.locate? request.bedId).isNone "$.bedId" "doesNotExist" ++
        InvalidParams.noteIf ((inventory.locate? request.bedId).any fun found =>
          !found.2.inServiceOn request.arrivalDate) "$.arrivalDate" "afterBedEndDate" := by
    unfold bedRules
    cases inventory.locate? request.bedId with
    | none => rfl
    | some found => rfl
  unfold creationRules outOfOrder brokenRules ruleTable
  rw [note, note, note, note, List.filter_nil, List.map_nil, List.append_nil, hbed,
    List.append_assoc]

/-! ## 3. The table -/

/-- **What a wish for a booking that comes from no placement request should come to**: in each line
    the conditions first, then the result with the world after it. The conditions of two lines
    exclude each other. -/
inductive Verdict (world : World) (premises : PremisesId) (request : NewBooking) (today : Date) :
    Except BookingError Booking × World → Prop where
  | unknown (hnone : world.store.premises? premises = none) :
      Verdict world premises request today (.error (.premisesNotFound premises), world)
  | archived (inventory : Inventory) (hstored : world.store.premises? premises = some inventory)
      (harchived : inventory.premises.isActive = false) :
      Verdict world premises request today
        (.error (.obstacle (.premisesArchived premises)), world)
  | invalid (inventory : Inventory) (hstored : world.store.premises? premises = some inventory)
      (hactive : inventory.premises.isActive = true)
      (hbroken : brokenRules inventory request ≠ []) :
      Verdict world premises request today
        (.error (.invalid (brokenRules inventory request)), world)
  | taken (inventory : Inventory) (hstored : world.store.premises? premises = some inventory)
      (hactive : inventory.premises.isActive = true)
      (hobeyed : brokenRules inventory request = []) (holder : BedHolder)
      (hholds : world.store.Holds request.bedId
        (.spanning request.arrivalDate request.departureDate) holder) :
      Verdict world premises request today (.error (.bedTaken request.bedId holder), world)
  | booked (inventory : Inventory) (hstored : world.store.premises? premises = some inventory)
      (hactive : inventory.premises.isActive = true)
      (hobeyed : brokenRules inventory request = [])
      (hfree : ∀ holder, ¬ world.store.Holds request.bedId
        (.spanning request.arrivalDate request.departureDate) holder)
      (made : Booking) (world' : World)
      (hmade : made =
        { id := world.nextId .booking, crn := trim request.crn, premisesId := premises
          bedId := request.bedId, arrivalDate := request.arrivalDate
          departureDate := request.departureDate, applicationId := none
          placementRequestId := none, createdOn := today, arrival := none, nonArrival := none
          cancellation := none })
      (hnew : ∀ b ∈ world.store.bookings.rows, b.id ≠ made.id)
      (hadded : world'.store.bookings.rows.Perm (made :: world.store.bookings.rows))
      (hrest : world'.store = { world.store with bookings := world'.store.bookings }) :
      Verdict world premises request today (.ok made, world')

/-- A wish that breaks no rule is granted, or something holds the bed. -/
theorem verdict_of_obeyed (hid : world.store.bookings.contains (world.nextId .booking).text = false)
    (hstored : world.store.premises? premises = some inventory)
    (hactive : inventory.premises.isActive = true)
    (hobeyed : brokenRules inventory request = []) :
    Verdict world premises request today
      ((create premises request .none today).run .none world) := by
  have hrules : creationRules inventory request = [] := creationRules_eq.trans hobeyed
  obtain ⟨hcrn, hdates, hbed⟩ := creationRules_eq_nil_iff.1 hrules
  by_cases hfree : ∀ holder, ¬ world.store.Holds request.bedId
      (.spanning request.arrivalDate request.departureDate) holder
  · have hfits : request.Fits world.store premises inventory :=
      ⟨hstored, hactive, hcrn, hdates, hbed, Store.bedFree_iff_not_holds.2 hfree⟩
    rw [run_create_of_fits hfits hid rfl]
    refine .booked inventory hstored hactive hobeyed hfree _ _ rfl (fun b hb e => ?_) ?_ rfl
    · have hthere : world.store.bookings.contains (world.nextId .booking).text = true :=
        world.store.bookings.contains_iff.2 ⟨b, hb, congrArg Id.text e⟩
      exact Bool.false_ne_true (hid.symm.trans hthere)
    · have hwritten : world.store.bookings.Rewritten
          (world.store.bookings.put
            (newBooking (world.nextId .booking) premises request .none today))
          [] [newBooking (world.nextId .booking) premises request .none today] :=
        Table.rewritten_put_new hid
      obtain ⟨rest, hrows, hrows'⟩ := hwritten
      exact hrows'.trans (hrows.symm.cons _)
  · obtain ⟨holder, hholds⟩ := not_forall_not.1 hfree
    obtain ⟨found, hfound, hrun⟩ := run_ensureBedFree_of_holds hholds
    unfold create obey
    rw [run_bind_of_ok (run_findPremises hstored),
      run_bind_of_ok (run_failIf_of_false (by rw [hactive]; rfl)),
      run_bind_of_ok (run_failIf_of_false (by rw [hrules]; rfl)), run_bind_of_error hrun]
    exact .taken inventory hstored hactive hobeyed found hfound

/-- **A wish comes to what the table says**, if the next identifier is free. -/
theorem verdict_create (hid : world.store.bookings.contains (world.nextId .booking).text = false) :
    Verdict world premises request today
      ((create premises request .none today).run .none world) := by
  cases hstored : world.store.premises? premises with
  | none =>
    have hmissing : (findPremises premises).run .none world =
        (.error (.premisesNotFound premises), world) := by
      unfold findPremises
      rw [run_bind_of_ok (run_call_of_ok rfl), hstored]
      rfl
    unfold create
    rw [run_bind_of_error hmissing]
    exact .unknown hstored
  | some inventory =>
    cases hactive : inventory.premises.isActive with
    | false =>
      unfold create
      rw [run_bind_of_ok (run_findPremises hstored),
        run_bind_of_error (run_failIf_of_true (by rw [hactive]; rfl))]
      exact .archived inventory hstored hactive
    | true =>
      by_cases hobeyed : brokenRules inventory request = []
      · exact verdict_of_obeyed hid hstored hactive hobeyed
      · have hreported : (!(creationRules inventory request).isEmpty) = true := by
          rw [creationRules_eq, Bool.not_eq_true', List.isEmpty_eq_false_iff]
          exact hobeyed
        unfold create obey
        rw [run_bind_of_ok (run_findPremises hstored),
          run_bind_of_ok (run_failIf_of_false (by rw [hactive]; rfl)),
          run_bind_of_error (run_failIf_of_true hreported), creationRules_eq]
        exact .invalid inventory hstored hactive hobeyed

/-- What is booked has an identifier that was not in the store, and is there afterwards. -/
theorem Verdict.new_of_ok {made : Booking}
    (h : Verdict world premises request today (.ok made, world')) :
    made.id = world.nextId .booking ∧ ∀ b ∈ world.store.bookings.rows, b.id ≠ made.id := by
  cases h with
  | booked _ _ _ _ _ _ _ hmade hnew _ _ => exact ⟨congrArg Booking.id hmade, hnew⟩

end Bookings

/-! ## 4. In every state -/

namespace System

variable {world : World} {s : System}

/-- **A booking is made exactly if it is admissible, and is refused for the first reason that there
    is otherwise.** In every state that clients reach, in a store that answers: a wish for a booking
    that comes from no placement request comes to what the table says of it. What is booked gets an
    identifier that was not issued before, and that no booking has had in any state on the way. -/
theorem create_verdict (h₀ : world.store.Unused) (h : (idle world).ReachesLoading s)
    (premises : PremisesId) (request : NewBooking) (today : Date) :
    let result := (Bookings.create premises request .none today).run .none s.world
    Bookings.Verdict s.world premises request today result ∧
      ∀ made world', result = (.ok made, world') →
        (∀ n ≤ s.world.issued .booking, made.id ≠ .numbered .booking n) ∧
        ∀ t, (idle world).ReachesLoading t → t.ReachesLoading s →
          ∀ b ∈ t.world.store.bookings.rows, b.id ≠ made.id := by
  obtain ⟨held, hheld⟩ := h.entrusted (entrusted_idle h₀.sound)
  have hid : s.world.store.bookings.contains (s.world.nextId .booking).text = false :=
    hheld.sound.contains_nextId .booking fun b hb e => ⟨b, hb, congrArg Id.mk e⟩
  have hverdict : Bookings.Verdict s.world premises request today
      ((Bookings.create premises request .none today).run .none s.world) :=
    Bookings.verdict_create hid
  refine ⟨hverdict, fun made world' hmade => ?_⟩
  rw [hmade] at hverdict
  obtain ⟨hnext, hnew⟩ := hverdict.new_of_ok
  refine ⟨fun n hn e => ?_, fun t ht hts b hb e => ?_⟩
  · have hnumber : s.world.issued .booking + 1 = n := Id.numbered_injective (hnext.symm.trans e)
    omega
  · obtain ⟨_, hheld'⟩ := ht.entrusted (entrusted_idle h₀.sound)
    obtain ⟨b', hb', hsame, _⟩ := hts.booking_stays hheld' hb
    exact hnew b' hb' (hsame.trans e)

/-- A state in which the only bed is booked for four nights. -/
def oneStay : System :=
  (idle .oneBed).serveAll
    [.createBooking ⟨"premises-1"⟩ ⟨"X320741", ⟨"bed-1"⟩, .first, Date.first.later 4⟩]

theorem reaches_oneStay : (idle .oneBed).ReachesLoading oneStay :=
  (ReachesActing.start.serveAll _).reachesLoading

/-- What a wish for that bed comes to, for some nights that are numbered from the first one. -/
def wishBed (start stop : Nat) : Except BookingError Booking × World :=
  (Bookings.create ⟨"premises-1"⟩
    ⟨" X320742 ", ⟨"bed-1"⟩, Date.first.later start, Date.first.later stop⟩ .none .first).run .none
      oneStay.world

/-- A wish for nights from the last booked one on is refused because of the booking; a wish for the
    nights after it is granted, under an identifier that no booking has had. -/
theorem oneStay_verdict :
    failure? (wishBed 3 6).1 = some (.bedTaken ⟨"bed-1"⟩
      (.booking (.numbered .booking 1) .first (Date.first.later 4))) ∧
    Bookings.Verdict oneStay.world ⟨"premises-1"⟩
      ⟨" X320742 ", ⟨"bed-1"⟩, Date.first.later 3, Date.first.later 6⟩ .first (wishBed 3 6) ∧
    ∃ made world', wishBed 4 6 = (.ok made, world') ∧ made.id = .numbered .booking 2 ∧
      ∀ t, (idle .oneBed).ReachesLoading t → t.ReachesLoading oneStay →
        ∀ b ∈ t.world.store.bookings.rows, b.id ≠ made.id := by
  have htaken : failure? (wishBed 3 6).1 = some (.bedTaken ⟨"bed-1"⟩
      (.booking (.numbered .booking 1) .first (Date.first.later 4))) := by
    decide +kernel
  have hmade : (wishBed 4 6).1.toOption.map Booking.id = some (.numbered .booking 2) := by
    decide +kernel
  obtain ⟨made, hresult, hid⟩ := Option.map_eq_some_iff.1 hmade
  have hrun : wishBed 4 6 = (.ok made, (wishBed 4 6).2) := Prod.ext (eq_ok_of_toOption hresult) rfl
  refine ⟨htaken, (create_verdict World.unused_oneBed reaches_oneStay _ _ _).1, made, _, hrun, hid,
    ?_⟩
  exact ((create_verdict World.unused_oneBed reaches_oneStay _ _ _).2 made _ hrun).2

end System

end Bedspace
