import Bedspace.Api.Respond
import Bedspace.Proofs.Alone
import Bedspace.Proofs.Booking.Dates
import Bedspace.Proofs.Records

/-!
# Requests that nobody disturbs

The services look before they write, and the store looks once more when it writes, in case others have
come in between. Where nobody has, the second look finds what the first one has found.

* `ActionError.blamesOthers` tells the errors that a client should see only because of others: the
  store fails, a record has changed since it was read, a placement request was closed or a bed was
  taken meanwhile;
* `Store.MovesOnto`: an arrival would move a booking to nights on which something else holds the bed;
  only the store looks at that;
* **`System.reaches_undisturbed`**: in every state, an action that is carried out alone blames others
  exactly if it records such an arrival; no request is answered with an internal error.
-/

namespace Bedspace

open Operation

/-! ## 1. Errors that blame others -/

/-- Whether a failed operation on bookings is put down to others or to the store. -/
def BookingError.blamesOthers : BookingError → Bool
  | .store _ => true
  | .obstacle (.changedMeanwhile _) => true
  | .obstacle .requestClosedMeanwhile => true
  | .bedTaken _ .concurrentWrite => true
  | _ => false

/-- Whether a failed search is put down to the store. -/
def BedSearchError.blamesOthers : BedSearchError → Bool
  | .store _ => true
  | _ => false

/-- Whether a failed operation on applications is put down to others or to the store. -/
def ApplicationError.blamesOthers : ApplicationError → Bool
  | .store _ => true
  | .obstacle (.changedMeanwhile _) => true
  | .booking error => error.blamesOthers
  | _ => false

/-- **Whether a failed action is put down to others or to the store.** -/
def ActionError.blamesOthers : ActionError → Bool
  | .noPremises _ => false
  | .store _ => true
  | .booking error => error.blamesOthers
  | .search error => error.blamesOthers
  | .application error => error.blamesOthers

/-- **An arrival would move a booking onto others**: the booking waits for its person, its dates would
    change, and on the new nights another live booking or a period holds its bed. -/
structure Store.MovesOnto (store : Store) (current : Booking) (request : ArrivalRequest) : Prop where
  stored : current ∈ store.bookings.rows
  awaiting : Bookings.awaitingObstacle current = none
  dates : request.arrivalDate < request.expectedDepartureDate
  moved : ¬ (current.arrivalDate = request.arrivalDate ∧
    current.departureDate = request.expectedDepartureDate)
  held : (∃ b ∈ store.bookings.rows, b.id ≠ current.id ∧
      b.blocks current.bedId (.spanning request.arrivalDate request.expectedDepartureDate) = true) ∨
    ∃ p ∈ store.outOfService.rows,
      p.blocks current.bedId (.spanning request.arrivalDate request.expectedDepartureDate) = true

/-! ## 2. The second look -/

namespace Store

variable {store : Store}

/-- The store takes a period under a free identifier for a free bed. -/
theorem insertOutOfService_of_bedFree {p : OutOfServicePeriod}
    (hid : store.outOfService.contains p.id.text = false)
    (hfree : store.BedFree Booking.range p.bedId p.range) :
    store.insertOutOfService p = .ok (p, { store with outOfService := store.outOfService.put p }) := by
  have huntaken := bedTaken_of_bedFree hfree
  unfold insertOutOfService
  rw [if_neg (Bool.eq_false_iff.1 hid), if_neg (Bool.eq_false_iff.1 huntaken)]

/-- **A booking that is stored as it was read is written over**, unless it moves to nights on which
    something else holds the bed. -/
theorem replaceBooking_of_mem {current updated : Booking} (hmem : current ∈ store.bookings.rows)
    (hid : updated.id = current.id) :
    store.replaceBooking current updated =
      if (updated.blocksBed && current.range ≠ updated.range
        && store.bedTaken updated.bedId updated.range (some updated.id)) = true then
        .error .conflict
      else .ok { store with bookings := store.bookings.put updated } := by
  have hfind : store.bookings.find? current.id.text = some current :=
    store.bookings.find?_eq_some_iff.2 ⟨hmem, rfl⟩
  have hsame : ¬ (current ≠ current ∨ updated.id ≠ current.id) := by
    rintro (h | h)
    · exact h rfl
    · exact h hid
  unfold replaceBooking
  rw [hfind]
  dsimp only
  rw [if_neg hsame]

/-- **A placement request is open** that is not withdrawn and has no live booking in its tree. -/
theorem requestClosed_of_tree? {tree : Tree} (hstored : store.Stores tree) {r : PlacementRequest}
    (hr : r ∈ tree.placementRequests) (hlive : r.isWithdrawn = false)
    (hnone : tree.liveBooking? r.id = none) : store.requestClosed r.id = false := by
  have hfind : store.placementRequests.find? r.id.text = some r :=
    store.placementRequests.find?_eq_some_iff.2 ⟨(hstored.mem_requests.1 hr).1, rfl⟩
  unfold requestClosed
  rw [hfind]
  refine Bool.or_eq_false_iff.2 ⟨hlive, List.any_eq_false.2 fun b hb hbooked => ?_⟩
  have hnames : b.placementRequestId = some r.id := by
    simpa using (Bool.and_eq_true_iff.1 hbooked).1
  have hmem : b ∈ tree.bookings := hstored.mem_bookings.2 ⟨hb, .inr ⟨r, hr, hnames⟩⟩
  exact List.find?_eq_none.1 hnone b hmem hbooked

/-- What holds a bed beside a booking. -/
theorem bedTaken_except_iff {bed : BedId} {nights : DateRange} {id : BookingId} :
    store.bedTaken bed nights (some id) = true ↔
      (∃ b ∈ store.bookings.rows, b.id ≠ id ∧ b.blocks bed nights = true) ∨
        ∃ p ∈ store.outOfService.rows, p.blocks bed nights = true := by
  have hother (b : Booking) :
      (b.blocks bed nights && some b.id != some id) = true ↔ b.id ≠ id ∧ b.blocks bed nights = true := by
    simp [and_comm]
  unfold bedTaken bookingClash outOfServiceClash
  rw [Bool.or_eq_true, List.any_eq_true, List.any_eq_true]
  simp only [hother]

end Store

/-! ## 3. Bookings -/

namespace Bookings

variable {world : World}

theorem alone_obey {params : InvalidParams} {ends : Unit → World → Prop} :
    (obey params).Alone world (fun e => e.blamesOthers = false) ends ↔
      (params = [] → ends () world) := by
  unfold obey
  refine (alone_failIf (by rfl)).trans ?_
  rw [Bool.not_eq_false', List.isEmpty_iff]

theorem alone_findPremises {id : PremisesId} {ends : Inventory → World → Prop}
    (h : ∀ inventory, world.store.premises? id = some inventory → ends inventory world) :
    (findPremises id).Alone world (fun e => e.blamesOthers = false) ends := by
  unfold findPremises
  refine alone_bind.2 (alone_read rfl fun found hfound => ?_)
  refine (alone_demand (by rfl)).2 fun inventory e => h inventory ?_
  exact (Except.ok.inj hfound).trans e

theorem alone_find {premises : PremisesId} {id : BookingId} {fails : BookingError → Prop}
    {ends : Booking → World → Prop} (hmissing : fails (.bookingNotFound id))
    (h : ∀ b, world.store.booking? id = some b → b.premisesId = premises → ends b world) :
    (find premises id).Alone world fails ends := by
  unfold find
  refine alone_bind.2 (alone_read rfl fun found hfound => ?_)
  refine (alone_demand hmissing).2 fun b e => ?_
  obtain ⟨hfind, hhome⟩ := Option.filter_eq_some_iff.1 e
  exact h b ((Except.ok.inj hfound).trans hfind) (of_decide_eq_true hhome)

theorem alone_findOutOfService {premises : PremisesId} {id : OutOfServiceId}
    {ends : OutOfServicePeriod → World → Prop}
    (h : ∀ p ∈ world.store.outOfService.rows, ends p world) :
    (findOutOfService premises id).Alone world (fun e => e.blamesOthers = false) ends := by
  unfold findOutOfService
  refine alone_bind.2 (alone_read rfl fun found hfound => ?_)
  refine (alone_demand (by rfl)).2 fun p e => h p ?_
  have hfind : world.store.outOfService? id = some p :=
    (Except.ok.inj hfound).trans (Option.filter_eq_some_iff.1 e).1
  exact (world.store.outOfService.find?_eq_some_iff.1 hfind).1

/-- A bed that is found free is free in the whole store. -/
theorem alone_ensureBedFree {bed : BedId} {nights : DateRange} {ends : Unit → World → Prop}
    (h : world.store.BedFree Booking.range bed nights → ends () world) :
    (ensureBedFree bed nights).Alone world (fun e => e.blamesOthers = false) ends := by
  have named {α : Type} {found : Option α} {holder : α → BedHolder}
      (hholder : ∀ a, (BookingError.bedTaken bed (holder a)).blamesOthers = false) :
      ∀ e, (found.map fun a => BookingError.bedTaken bed (holder a)) = some e →
        e.blamesOthers = false := by
    intro e he
    obtain ⟨a, _, rfl⟩ := Option.map_eq_some_iff.1 he
    exact hholder a
  unfold ensureBedFree
  refine alone_bind.2 (alone_read rfl fun bookings hbookings => ?_)
  refine alone_bind.2 ((alone_failWith (named fun _ => rfl)).2 fun hnoBooking => ?_)
  refine alone_bind.2 (alone_read rfl fun periods hperiods => ?_)
  refine (alone_failWith (named fun _ => rfl)).2 fun hnoPeriod => h ?_
  cases hbookings
  cases hperiods
  rw [Option.map_eq_none_iff] at hnoBooking hnoPeriod
  exact Store.bedFree_iff_blocks.2
    ⟨bookings_find?_eq_none_iff.1 hnoBooking, periods_find?_eq_none_iff.1 hnoPeriod⟩

theorem alone_list {premises : PremisesId} :
    (list premises).Alone world (fun e => e.blamesOthers = false) fun _ _ => True := by
  unfold list
  refine alone_bind.2 (alone_findPremises fun _ _ => alone_bind.2 ?_)
  exact alone_read rfl fun _ _ => alone_pure.2 trivial

/-- **A booking for an open placement request, or for none**, is refused for its own sake only. -/
theorem alone_create (hs : world.Sound) {premises : PremisesId} {request : NewBooking}
    {links : BookingLinks} {today : Date}
    (hopen : links.placementRequestId.any world.store.requestClosed = false) :
    (create premises request links today).Alone world (fun e => e.blamesOthers = false)
      fun _ _ => True := by
  unfold create
  refine alone_bind.2 (alone_findPremises fun inventory _ => ?_)
  refine alone_bind.2 ((alone_failIf (by rfl)).2 fun _ => ?_)
  refine alone_bind.2 (alone_obey.2 fun _ => ?_)
  refine alone_bind.2 (alone_ensureBedFree fun hfree => ?_)
  refine alone_bind.2 (alone_issue.2 ?_)
  have hwrite := Store.insertBooking_of_bedFree
    (b := newBooking (world.nextId .booking) premises request links today)
    (hs.contains_nextId .booking fun b hb e => ⟨b, hb, congrArg Id.mk e⟩) hopen hfree
  exact alone_call_of_perform (congrArg (Call.settle world.store) hwrite) trivial

theorem alone_takeOutOfService (hs : world.Sound) {premises : PremisesId}
    {request : NewOutOfServicePeriod} :
    (takeOutOfService premises request).Alone world (fun e => e.blamesOthers = false)
      fun _ _ => True := by
  unfold takeOutOfService
  refine alone_bind.2 (alone_findPremises fun inventory _ => ?_)
  refine alone_bind.2 (alone_obey.2 fun _ => ?_)
  refine alone_bind.2 (alone_ensureBedFree fun hfree => ?_)
  refine alone_bind.2 (alone_issue.2 ?_)
  have hwrite := Store.insertOutOfService_of_bedFree
    (p := { id := world.nextId .outOfService, premisesId := premises, bedId := request.bedId
            startDate := request.startDate, endDate := request.endDate, reason := request.reason
            notes := request.notes, cancelledOn := none })
    (hs.contains_nextId .outOfService fun p hp e => ⟨p, hp, congrArg Id.mk e⟩) hfree
  exact alone_call_of_perform (congrArg (Call.settle world.store) hwrite) trivial

theorem alone_cancelOutOfService {premises : PremisesId} {id : OutOfServiceId} {today : Date} :
    (cancelOutOfService premises id today).Alone world (fun e => e.blamesOthers = false)
      fun _ _ => True := by
  unfold cancelOutOfService
  refine alone_bind.2 (alone_findOutOfService fun p hp => ?_)
  split
  · exact alone_pure.2 trivial
  · have hthere : world.store.outOfService.contains p.id.text = true :=
      world.store.outOfService.contains_iff.2 ⟨p, hp, rfl⟩
    have hwrite : world.store.replaceOutOfService { p with cancelledOn := some today } =
        .ok { world.store with
          outOfService := world.store.outOfService.put { p with cancelledOn := some today } } := by
      unfold Store.replaceOutOfService
      rw [if_pos hthere]
    refine alone_bind.2 (alone_call_of_perform (a := ())
      (congrArg (Call.settleUnit world.store) hwrite) ?_)
    exact alone_pure.2 trivial

/-- **A booking that was just read is written over**, unless it moves onto others. -/
theorem alone_replace {current updated : Booking} {fails : BookingError → Prop}
    {ends : Booking → World → Prop} (hmem : current ∈ world.store.bookings.rows)
    (hid : updated.id = current.id)
    (h : if (updated.blocksBed && current.range ≠ updated.range
        && world.store.bedTaken updated.bedId updated.range (some updated.id)) = true then
        fails (.bedTaken updated.bedId .concurrentWrite)
      else ends updated { world with
        store := { world.store with bookings := world.store.bookings.put updated } }) :
    (replace current updated).Alone world fails ends := by
  have hwrite := Store.replaceBooking_of_mem hmem hid
  unfold replace
  refine alone_bind.2 ?_
  by_cases hmoves : (updated.blocksBed && current.range ≠ updated.range
      && world.store.bedTaken updated.bedId updated.range (some updated.id)) = true
  · rw [if_pos hmoves] at h hwrite
    have hperform : (Call.replaceBooking current updated).perform world.store =
        (.error .conflict, world.store) := congrArg (Call.settleUnit world.store) hwrite
    refine alone_call.2 ⟨fun a ha => ?_, fun e he => ?_⟩
    · rw [hperform] at ha
      cases ha
    · rw [hperform] at he
      cases he
      exact h
  · rw [if_neg hmoves] at h hwrite
    exact alone_call_of_perform (a := ()) (congrArg (Call.settleUnit world.store) hwrite) h

/-- A booking whose nights stay the same is written over. -/
theorem alone_replace_of_range_eq {current updated : Booking}
    (hmem : current ∈ world.store.bookings.rows) (hid : updated.id = current.id)
    (hrange : current.range = updated.range) :
    (replace current updated).Alone world (fun e => e.blamesOthers = false) fun _ _ => True := by
  refine alone_replace hmem hid ?_
  have hstays : (updated.blocksBed && current.range ≠ updated.range
      && world.store.bedTaken updated.bedId updated.range (some updated.id)) = false := by
    simp [hrange]
  rw [if_neg (Bool.eq_false_iff.1 hstays)]
  trivial

theorem mem_of_booking? {store : Store} {id : BookingId} {b : Booking}
    (h : store.booking? id = some b) : b ∈ store.bookings.rows ∧ b.id = id := by
  obtain ⟨hb, hkey⟩ := store.bookings.find?_eq_some_iff.1 h
  exact ⟨hb, congrArg Id.mk hkey⟩

theorem alone_ensureAwaiting {b : Booking} {ends : Unit → World → Prop} :
    (ensureAwaiting b).Alone world (fun e => e.blamesOthers = false) ends ↔
      (awaitingObstacle b = none → ends () world) := by
  unfold ensureAwaiting
  rw [alone_failWith, Option.map_eq_none_iff]
  intro e he
  obtain ⟨obstacle, hobstacle, rfl⟩ := Option.map_eq_some_iff.1 he
  unfold awaitingObstacle at hobstacle
  split at hobstacle
  · cases hobstacle
    rfl
  · split at hobstacle
    · cases hobstacle
      rfl
    · split at hobstacle
      · cases hobstacle
        rfl
      · cases hobstacle

theorem alone_recordNonArrival {premises : PremisesId} {id : BookingId}
    {request : NonArrivalRequest} :
    (recordNonArrival premises id request).Alone world (fun e => e.blamesOthers = false)
      fun _ _ => True := by
  unfold recordNonArrival
  refine alone_bind.2 (alone_find (by rfl) fun current hfind _ => ?_)
  refine alone_bind.2 (alone_ensureAwaiting.2 fun _ => ?_)
  refine alone_bind.2 (alone_obey.2 fun _ => ?_)
  exact alone_replace_of_range_eq (mem_of_booking? hfind).1 rfl rfl

theorem alone_cancel {premises : PremisesId} {id : BookingId} {request : CancellationRequest} :
    (cancel premises id request).Alone world (fun e => e.blamesOthers = false)
      fun _ _ => True := by
  unfold cancel
  refine alone_bind.2 (alone_obey.2 fun _ => ?_)
  refine alone_bind.2 (alone_find (by rfl) fun current hfind _ => ?_)
  refine alone_bind.2 ((alone_failIf (by rfl)).2 fun _ => ?_)
  split
  · exact alone_pure.2 trivial
  · exact alone_replace_of_range_eq (mem_of_booking? hfind).1 rfl rfl

/-- A booking as it is once an arrival is recorded. -/
def arrived (current : Booking) (request : ArrivalRequest) : Booking :=
  { current with
    arrivalDate := request.arrivalDate
    departureDate := request.expectedDepartureDate
    arrival := some ⟨request.arrivalDate, request.expectedDepartureDate, request.notes⟩ }

/-- **The store refuses an arrival exactly if it moves the booking onto others.** -/
theorem refused_iff_movesOnto {store : Store} {current : Booking} {request : ArrivalRequest}
    (hmem : current ∈ store.bookings.rows) (hordered : current.arrivalDate < current.departureDate)
    (hawaiting : awaitingObstacle current = none)
    (hdates : request.arrivalDate < request.expectedDepartureDate) :
    ((arrived current request).blocksBed && current.range ≠ (arrived current request).range
        && store.bedTaken (arrived current request).bedId (arrived current request).range
          (some (arrived current request).id)) = true ↔
      store.MovesOnto current request := by
  have hlive : (arrived current request).blocksBed = true := by
    have hnone : current.cancellation = none := (awaitingObstacle_eq_none hawaiting).2.2
    simp [Booking.blocksBed, Booking.isCancelled, arrived, hnone]
  have hmoved : current.range ≠ (arrived current request).range ↔
      ¬ (current.arrivalDate = request.arrivalDate ∧
        current.departureDate = request.expectedDepartureDate) :=
    not_congr (DateRange.spanning_inj hordered hdates)
  have hheld : store.bedTaken (arrived current request).bedId (arrived current request).range
      (some (arrived current request).id) = true ↔ _ := Store.bedTaken_except_iff
  rw [Bool.and_eq_true, Bool.and_eq_true, decide_eq_true_eq, hmoved, hlive]
  constructor
  · rintro ⟨⟨_, hmoved⟩, htaken⟩
    exact ⟨hmem, hawaiting, hdates, hmoved, hheld.1 htaken⟩
  · intro h
    exact ⟨⟨rfl, h.moved⟩, hheld.2 h.held⟩

/-- **Recording an arrival blames others only if it moves the booking onto them.** -/
theorem alone_recordArrival (hordered : world.store.DepartsLater) {premises : PremisesId}
    {id : BookingId} {request : ArrivalRequest} :
    (recordArrival premises id request).Alone world
      (fun e => e.blamesOthers = false ∨ ∃ current, world.store.booking? id = some current ∧
        current.premisesId = premises ∧ world.store.MovesOnto current request ∧
        e = .bedTaken current.bedId .concurrentWrite)
      fun _ _ => True := by
  unfold recordArrival
  refine alone_bind.2 (alone_find (.inl rfl) fun current hfind hhome => ?_)
  obtain ⟨hmem, _⟩ := mem_of_booking? hfind
  refine alone_bind.2 ((alone_ensureAwaiting.2 fun hawaiting => ?_).imp fun _ => Or.inl)
  refine alone_bind.2 ((alone_obey.2 fun hrules => ?_).imp fun _ => Or.inl)
  have hdates : request.arrivalDate < request.expectedDepartureDate := by
    have hnot := InvalidParams.noteIf_eq_nil.1 hrules
    rw [outOfOrder, decide_eq_false_iff_not] at hnot
    exact Int.not_le.1 hnot
  show (replace current (arrived current request)).Alone world _ _
  refine alone_replace hmem rfl ?_
  have hiff := refused_iff_movesOnto hmem (hordered current hmem) hawaiting hdates
  by_cases hmoves : world.store.MovesOnto current request
  · rw [if_pos (hiff.2 hmoves)]
    exact .inr ⟨current, hfind, hhome, hmoves, rfl⟩
  · rw [if_neg (mt hiff.1 hmoves)]
    trivial

/-- An arrival that moves a booking onto others is refused as if they had just come. -/
theorem alone_recordArrival_of_movesOnto (hordered : world.store.DepartsLater)
    {id : BookingId} {current : Booking} {request : ArrivalRequest}
    (hfind : world.store.booking? id = some current)
    (h : world.store.MovesOnto current request) :
    (recordArrival current.premisesId id request).Alone world
      (fun e => e = .bedTaken current.bedId .concurrentWrite) fun _ _ => False := by
  have hfound : (find current.premisesId id).run .none world = (.ok current, world) := by
    unfold find
    rw [run_bind_of_ok (run_call_of_ok rfl), hfind, Option.filter_some,
      if_pos (decide_eq_true rfl)]
    rfl
  have hawaits : (ensureAwaiting current).run .none world = (.ok (), world) := by
    unfold ensureAwaiting
    rw [h.awaiting]
    rfl
  have hordered' : InvalidParams.noteIf
      (outOfOrder request.arrivalDate request.expectedDepartureDate)
      "$.expectedDepartureDate" "beforeBookingArrivalDate" = [] := by
    rw [InvalidParams.noteIf_eq_nil, outOfOrder, decide_eq_false_iff_not]
    exact Int.not_le.2 h.dates
  unfold recordArrival
  refine alone_bind.2 ((alone_of_run hfound).2 (alone_bind.2 ((alone_of_run hawaits).2 ?_)))
  refine alone_bind.2 ((alone_of_run (run_failIf_of_false (by rw [hordered']; rfl))).2 ?_)
  show (replace current (arrived current request)).Alone world _ _
  refine alone_replace h.stored rfl ?_
  have hiff := refused_iff_movesOnto h.stored (hordered current h.stored) h.awaiting h.dates
  rw [if_pos (hiff.2 h)]
  rfl

end Bookings

/-! ## 4. Applications -/

namespace Applications

variable {world : World}

theorem alone_obey {params : InvalidParams} {ends : Unit → World → Prop} :
    (obey params).Alone world (fun e => e.blamesOthers = false) ends ↔
      (params = [] → ends () world) := by
  unfold obey
  refine (alone_failIf (by rfl)).trans ?_
  rw [Bool.not_eq_false', List.isEmpty_iff]

theorem alone_findTree {id : ApplicationId} {ends : Tree → World → Prop}
    (h : ∀ tree, world.store.tree? id = some tree → ends tree world) :
    (findTree id).Alone world (fun e => e.blamesOthers = false) ends := by
  unfold findTree
  refine alone_bind.2 (alone_read rfl fun found hfound => ?_)
  exact (alone_demand (by rfl)).2 fun tree e => h tree ((Except.ok.inj hfound).trans e)

theorem alone_findTreeOf {entity : Entity} {ends : Tree → World → Prop}
    (h : ∀ id tree, world.store.tree? id = some tree → ends tree world) :
    (findTreeOf entity).Alone world (fun e => e.blamesOthers = false) ends := by
  unfold findTreeOf
  refine alone_bind.2 (alone_read rfl fun _ _ => ?_)
  refine alone_bind.2 ((alone_demand (by rfl)).2 fun id _ => ?_)
  exact alone_findTree fun tree htree => h id tree htree

theorem alone_ensureLive {tree : Tree} {ends : Unit → World → Prop} (h : ends () world) :
    (ensureLive tree).Alone world (fun e => e.blamesOthers = false) ends := by
  unfold ensureLive
  exact (alone_failIf (by rfl)).2 fun _ => h

theorem alone_ensureNights {dates : PlacementDates} {property : String}
    {ends : Unit → World → Prop} (h : ends () world) :
    (ensureNights dates property).Alone world (fun e => e.blamesOthers = false) ends := by
  unfold ensureNights
  exact alone_obey.2 fun _ => h

theorem alone_findPending {id : AssessmentId} {ends : Tree → World → Prop}
    (h : ∀ application tree, world.store.tree? application = some tree → ends tree world) :
    (findPending id).Alone world (fun e => e.blamesOthers = false) ends := by
  unfold findPending
  refine alone_bind.2 (alone_findTreeOf fun application tree htree => ?_)
  refine alone_bind.2 (alone_ensureLive (alone_bind.2 ?_))
  refine (alone_demand (by rfl)).2 fun assessment _ => alone_bind.2 ?_
  exact (alone_failIf (by rfl)).2 fun _ => alone_pure.2 (h application tree htree)

/-- **A tree that was just read is written over.** -/
theorem alone_save {id : ApplicationId} {before after : Tree} {fails : ApplicationError → Prop}
    {ends : Unit → World → Prop} (h : world.store.tree? id = some before)
    (hid : after.application.id = before.application.id)
    (he : ends () { world with store := world.store.putTree after }) :
    (save before after).Alone world fails ends := by
  unfold save
  exact alone_call_of_perform (a := ())
    (congrArg (Call.settleUnit world.store) (Store.saveTree_of_tree? h hid)) he

theorem alone_create (hs : world.Sound) {crn : String} {today : Date} :
    (create crn today).Alone world (fun e => e.blamesOthers = false) fun _ _ => True := by
  unfold create
  refine alone_bind.2 (alone_obey.2 fun _ => alone_bind.2 (alone_issue.2 ?_))
  have hid : world.store.applications.contains (world.nextId .application).text = false :=
    hs.contains_nextId .application fun a ha e => ⟨a, ha, congrArg Id.mk e⟩
  have hwrite (a : Application) (ha : a.id = world.nextId .application) :
      world.store.insertApplication a =
        .ok (a, { world.store with applications := world.store.applications.put a }) := by
    unfold Store.insertApplication
    rw [ha, if_neg (Bool.eq_false_iff.1 hid)]
  exact alone_call_of_perform (congrArg (Call.settle world.store) (hwrite _ rfl)) trivial

theorem alone_submit {id : ApplicationId} {today : Date} :
    (submit id today).Alone world (fun e => e.blamesOthers = false) fun _ _ => True := by
  unfold submit
  refine alone_bind.2 (alone_call.2 ⟨fun _ _ => ?_, fun e he => ?_⟩)
  · refine alone_bind.2 (alone_findTree fun tree htree => ?_)
    refine alone_bind.2 (alone_issue.2 (alone_bind.2 ?_))
    exact alone_save htree rfl (alone_pure.2 trivial)
  · -- an application that is not there or not in progress is the fault of who submits it
    have hcases : e = .notFound ∨ e = .conflict := by
      have hfails : (Call.settle world.store (world.store.markSubmitted id today)).1 = .error e := he
      unfold Store.markSubmitted at hfails
      split at hfails
      · exact .inl (Except.error.inj hfails).symm
      · split at hfails
        · cases hfails
        · exact .inr (Except.error.inj hfails).symm
    rcases hcases with rfl | rfl
    · rfl
    · rfl

theorem alone_acceptAssessment {id : AssessmentId} {dates : PlacementDates} {today : Date} :
    (acceptAssessment id dates today).Alone world (fun e => e.blamesOthers = false)
      fun _ _ => True := by
  unfold acceptAssessment
  refine alone_bind.2 (alone_ensureNights (alone_bind.2 ?_))
  refine alone_findPending fun application tree htree => ?_
  refine alone_bind.2 (alone_issue.2 (alone_bind.2 ?_))
  exact alone_save htree rfl (alone_pure.2 trivial)

theorem alone_rejectAssessment {id : AssessmentId} :
    (rejectAssessment id).Alone world (fun e => e.blamesOthers = false) fun _ _ => True := by
  unfold rejectAssessment
  refine alone_bind.2 (alone_findPending fun application tree htree => alone_bind.2 ?_)
  exact alone_save htree rfl (alone_pure.2 trivial)

theorem alone_reallocateAssessment {id : AssessmentId} {today : Date} :
    (reallocateAssessment id today).Alone world (fun e => e.blamesOthers = false)
      fun _ _ => True := by
  unfold reallocateAssessment
  refine alone_bind.2 (alone_findPending fun application tree htree => ?_)
  refine alone_bind.2 (alone_issue.2 (alone_bind.2 ?_))
  exact alone_save htree rfl (alone_pure.2 trivial)

theorem alone_createPlacement {application : ApplicationId} {today : Date} :
    (createPlacement application today).Alone world (fun e => e.blamesOthers = false)
      fun _ _ => True := by
  unfold createPlacement
  refine alone_bind.2 (alone_findTree fun tree htree => ?_)
  refine alone_bind.2 (alone_ensureLive (alone_bind.2 ?_))
  refine (alone_failIf (by rfl)).2 fun _ => alone_bind.2 (alone_issue.2 (alone_bind.2 ?_))
  exact alone_save htree rfl (alone_pure.2 trivial)

theorem alone_decidePlacement {id : PlacementApplicationId} {decision : PlacementDecision}
    {today : Date} :
    (decidePlacement id decision today).Alone world (fun e => e.blamesOthers = false)
      fun _ _ => True := by
  unfold decidePlacement
  refine alone_bind.2 (alone_findTreeOf fun application tree htree => ?_)
  refine alone_bind.2 (alone_ensureLive (alone_bind.2 ?_))
  refine (alone_demand (by rfl)).2 fun placement _ => alone_bind.2 ?_
  refine (alone_failIf (by rfl)).2 fun _ => alone_bind.2 ?_
  cases decision with
  | rejected =>
    refine alone_pure.2 (alone_bind.2 ?_)
    exact alone_save htree rfl (alone_pure.2 trivial)
  | accepted dates =>
    refine alone_bind.2 (alone_ensureNights (alone_bind.2 (alone_issue.2 ?_)))
    refine alone_pure.2 (alone_bind.2 ?_)
    exact alone_save htree rfl (alone_pure.2 trivial)

/-- **What is booked for a placement request is refused for its own sake only**: the request was found
    open. -/
theorem alone_bookRequest (hs : world.Sound) {id : PlacementRequestId} {request : PlacementBooking}
    {today : Date} :
    (bookRequest id request today).Alone world (fun e => e.blamesOthers = false)
      fun _ _ => True := by
  unfold bookRequest
  refine alone_bind.2 (alone_findTreeOf fun application tree htree => ?_)
  refine alone_bind.2 (alone_ensureLive (alone_bind.2 ?_))
  refine (alone_demand (by rfl)).2 fun placement hfind => alone_bind.2 ?_
  refine (alone_failIf (by rfl)).2 fun hlive => alone_bind.2 ?_
  refine (alone_failWith fun e he => ?_).2 fun hunbooked => alone_adapt.2 ?_
  · obtain ⟨b, _, rfl⟩ := Option.map_eq_some_iff.1 he
    rfl
  · obtain ⟨_, hstored⟩ := Store.stores_of_tree? htree
    have hid : placement.id = id := by simpa using List.find?_some hfind
    subst hid
    have hopen : world.store.requestClosed placement.id = false :=
      Store.requestClosed_of_tree? hstored (List.mem_of_find?_eq_some hfind) hlive
        (Option.map_eq_none_iff.1 hunbooked)
    exact Bookings.alone_create hs hopen

theorem alone_withdrawables {id : ApplicationId} :
    (withdrawables id).Alone world (fun e => e.blamesOthers = false) fun _ _ => True := by
  unfold withdrawables
  exact alone_bind.2 (alone_findTree fun _ _ => alone_pure.2 trivial)

theorem alone_withdraw {target : WithdrawalTarget} {request : WithdrawalRequest} {today : Date} :
    (withdraw target request today).Alone world (fun e => e.blamesOthers = false)
      fun _ _ => True := by
  unfold withdraw
  refine alone_bind.2 (alone_obey.2 fun _ => alone_bind.2 ?_)
  refine alone_findTreeOf fun application tree htree => ?_
  split
  · exact alone_throw.2 rfl
  · rename_i outcome after hwithdraw
    have hids : tree.DistinctIds := (Store.stores_of_tree? htree).2.distinctIds
    have hsame := (Tree.amends_withdraw hids hwithdraw).application.id_eq
    dsimp only
    split
    · exact alone_bind.2 (alone_save htree hsame (alone_pure.2 trivial))
    · exact alone_pure.2 trivial

end Applications

/-! ## 5. Premises and searches -/

theorem alone_request {c : Call} (h : c.reads = true) {world : World} {fails : StoreError → Prop}
    {ends : c.Answer → World → Prop} (he : ∀ a, ends a world) :
    Operation.Alone (α := no_index c.Answer) (request c) world fails ends :=
  alone_read h fun a _ => he a

namespace Premises

variable {world : World} {fails : StoreError → Prop}

theorem alone_gather {services : List Service} {ends : List Inventory → World → Prop}
    (h : ∀ found, ends found world) : (gather services).Alone world fails ends := by
  induction services generalizing ends with
  | nil => exact alone_pure.2 (h [])
  | cons service services ih =>
    refine alone_bind.2 (alone_request rfl fun found => alone_bind.2 ?_)
    exact ih fun others => alone_pure.2 (h (found ++ others))

theorem alone_list {service : Option Service} :
    (list service).Alone world fails fun _ _ => True := by
  unfold list
  exact alone_bind.2 (alone_gather fun _ => alone_pure.2 trivial)

theorem alone_find {id : PremisesId} (hmissing : fails .notFound) :
    (find id).Alone world fails fun _ _ => True := by
  unfold find
  refine alone_bind.2 (alone_request rfl fun _ => alone_bind.2 ?_)
  exact (alone_demand hmissing).2 fun _ _ => alone_pure.2 trivial

end Premises

namespace BedSearch

variable {world : World}

theorem alone_obey {params : InvalidParams} {ends : Unit → World → Prop} (h : ends () world) :
    (obey params).Alone world (fun e => e.blamesOthers = false) ends := by
  unfold obey
  exact (alone_failIf (by rfl)).2 fun _ => h

theorem alone_readOccupancy {estate : List Inventory} {range : DateRange}
    {turnaround : PremisesId → Nat} {fails : BedSearchError → Prop}
    {ends : Occupancy → World → Prop} (h : ∀ occupancy, ends occupancy world) :
    (readOccupancy estate range turnaround).Alone world fails ends := by
  unfold readOccupancy
  refine alone_bind.2 (alone_read rfl fun _ _ => alone_bind.2 ?_)
  exact alone_read rfl fun _ _ => alone_pure.2 (h _)

theorem alone_find {miles : Float} {search : BedSearch} :
    (search.find miles).Alone world (fun e => e.blamesOthers = false) fun _ _ => True := by
  cases search with
  | approvedPremises search =>
    refine alone_bind.2 ?_
    unfold findApprovedPremises
    refine alone_bind.2 (alone_obey (alone_bind.2 (alone_read rfl fun _ _ => alone_bind.2 ?_)))
    refine (alone_demand (by rfl)).2 fun district _ => alone_bind.2 (alone_read rfl fun _ _ => ?_)
    exact alone_bind.2 (alone_readOccupancy fun _ => alone_pure.2 (alone_pure.2 trivial))
  | temporaryAccommodation search =>
    refine alone_bind.2 ?_
    unfold findTemporaryAccommodation
    refine alone_bind.2 (alone_obey (alone_bind.2 (alone_read rfl fun _ _ => ?_)))
    exact alone_bind.2 (alone_readOccupancy fun _ => alone_pure.2 (alone_pure.2 trivial))

end BedSearch

/-! ## 6. Every request -/

namespace ActionError

/-- Only a store that does not work is answered with an internal error. -/
theorem blamesOthers_of_internal {e : ActionError} (h : e.problem.kind = .internal) :
    e.blamesOthers = true ∧ ∀ bed holder, e ≠ .booking (.bedTaken bed holder) := by
  cases e with
  | noPremises id => cases h
  | store e => exact ⟨rfl, fun _ _ h => nomatch h⟩
  | booking e =>
    cases e with
    | store e => exact ⟨rfl, fun _ _ h => nomatch h⟩
    | _ => cases h
  | search e =>
    cases e with
    | store e => exact ⟨rfl, fun _ _ h => nomatch h⟩
    | _ => cases h
  | application e =>
    cases e with
    | store e => exact ⟨rfl, fun _ _ h => nomatch h⟩
    | booking e =>
      cases e with
      | store e => exact ⟨rfl, fun _ _ h => nomatch h⟩
      | _ => cases h
    | cascade e => cases e <;> cases h
    | _ => cases h

end ActionError

namespace Action

variable {world : World} {settings : SearchSettings} {today : Date}

/-- What an action may fail with if nobody comes in between: an error that blames nobody, or the one
    for an arrival that moves a booking onto others. -/
def FailsAlone (world : World) (wanted : Action) (e : ActionError) : Prop :=
  e.blamesOthers = false ∨
    ∃ premises id request current, wanted = .recordArrival premises id request ∧
      world.store.booking? id = some current ∧ current.premisesId = premises ∧
      world.store.MovesOnto current request ∧
      e = .booking (.bedTaken current.bedId .concurrentWrite)

theorem alone_replying {ε α : Type} {wrap : ε → ActionError} {reply : α → Reply}
    {op : Operation ε α} {own : ε → Prop} {fails : ActionError → Prop}
    (h : op.Alone world own fun _ _ => True) (hwrap : ∀ e, own e → fails (wrap e)) :
    (replying wrap reply op).Alone world fails fun _ _ => True := by
  unfold replying
  exact alone_adapt.2 (alone_map.2 (h.imp hwrap))

/-- **An action blames others only for an arrival that moves a booking onto them.** -/
theorem alone_perform (hs : world.Sound) (hordered : world.store.DepartsLater) (wanted : Action) :
    (wanted.perform settings today).Alone world (wanted.FailsAlone world) fun _ _ => True := by
  cases wanted with
  | listPremises service criteria =>
    have hlist : (Premises.list service).Alone world (fun _ => False) fun _ _ => True :=
      Premises.alone_list
    exact alone_replying hlist fun _ h => h.elim
  | showPremises id =>
    have hfind : (Premises.find id).Alone world (fun e => e = .notFound) fun _ _ => True :=
      Premises.alone_find rfl
    refine alone_replying hfind fun e he => Or.inl ?_
    rw [he]
    rfl
  | listBookings premises criteria =>
    exact alone_replying Bookings.alone_list fun _ h => Or.inl h
  | createBooking premises request =>
    exact alone_replying (Bookings.alone_create hs rfl) fun _ h => Or.inl h
  | showBooking premises id =>
    have hfind : (Bookings.find premises id).Alone world (fun e => e.blamesOthers = false)
        fun _ _ => True := Bookings.alone_find rfl fun _ _ _ => trivial
    exact alone_replying hfind fun _ h => Or.inl h
  | recordArrival premises id request =>
    refine alone_replying (Bookings.alone_recordArrival hordered) fun e he => ?_
    rcases he with he | ⟨current, hfind, hhome, hmoves, rfl⟩
    · exact Or.inl he
    · exact Or.inr ⟨premises, id, request, current, rfl, hfind, hhome, hmoves, rfl⟩
  | recordNonArrival premises id request =>
    exact alone_replying Bookings.alone_recordNonArrival fun _ h => Or.inl h
  | cancelBooking premises id request =>
    exact alone_replying Bookings.alone_cancel fun _ h => Or.inl h
  | takeOutOfService premises request =>
    exact alone_replying (Bookings.alone_takeOutOfService hs) fun _ h => Or.inl h
  | cancelOutOfService premises id =>
    exact alone_replying Bookings.alone_cancelOutOfService fun _ h => Or.inl h
  | searchBeds search => exact alone_replying BedSearch.alone_find fun _ h => Or.inl h
  | createApplication crn =>
    exact alone_replying (Applications.alone_create hs) fun _ h => Or.inl h
  | showApplication id =>
    exact alone_replying (Applications.alone_findTree fun _ _ => trivial) fun _ h => Or.inl h
  | submit id => exact alone_replying Applications.alone_submit fun _ h => Or.inl h
  | listWithdrawables id =>
    exact alone_replying Applications.alone_withdrawables fun _ h => Or.inl h
  | withdraw target request =>
    exact alone_replying Applications.alone_withdraw fun _ h => Or.inl h
  | acceptAssessment id dates =>
    exact alone_replying Applications.alone_acceptAssessment fun _ h => Or.inl h
  | rejectAssessment id =>
    exact alone_replying Applications.alone_rejectAssessment fun _ h => Or.inl h
  | reallocateAssessment id =>
    exact alone_replying Applications.alone_reallocateAssessment fun _ h => Or.inl h
  | createPlacement application =>
    exact alone_replying Applications.alone_createPlacement fun _ h => Or.inl h
  | decidePlacement id decision =>
    exact alone_replying Applications.alone_decidePlacement fun _ h => Or.inl h
  | bookRequest id request =>
    exact alone_replying (Applications.alone_bookRequest hs) fun _ h => Or.inl h

end Action

/-- **No request is answered with an internal error** if nobody comes in between. -/
theorem status_respond {world : World} {settings : SearchSettings} {today : Date}
    (h : ∀ wanted : Action,
      (wanted.perform settings today).Alone world (wanted.FailsAlone world) fun _ _ => True)
    (request : HttpRequest) :
    ((respond settings today request).run .none world).1.status ≠ 500 := by
  have hinternal {e : ActionError} {wanted : Action} (he : wanted.FailsAlone world e) :
      e.problem.kind ≠ .internal := by
    intro hkind
    obtain ⟨hblames, htaken⟩ := e.blamesOthers_of_internal hkind
    rcases he with he | ⟨_, _, _, current, _, _, _, _, rfl⟩
    · rw [hblames] at he
      cases he
    · exact htaken _ _ rfl
  have hstatus {kind : ProblemKind} (hkind : kind ≠ .internal) : kind.status ≠ 500 := by
    cases kind with
    | internal => exact absurd rfl hkind
    | badRequest | notFound | conflict => decide
  have hperformed (wanted : Action) :
      ((respondTo settings today wanted).run .none world).1.status ≠ 500 := by
    unfold respondTo
    rw [Program.bind_eq, Program.run_bind]
    have halone := h wanted
    unfold Operation.Alone Operation.run at halone
    cases hrun : Program.run .none (ExceptT.run (wanted.perform settings today)) world with
    | mk answer after =>
      rw [hrun] at halone
      cases answer with
      | error e => exact hstatus (hinternal halone)
      | ok reply =>
        show (if wanted.creates then 201 else 200) ≠ 500
        split
        · decide
        · decide
  have hrejected (rejection : Rejection) : rejection.status ≠ 500 := by
    cases rejection with
    | body fault => cases fault <;> decide
    | unreadableSegment | unusableQuery | notDeclaredJson => decide
  unfold respond
  split
  · show (404 : Nat) ≠ 500
    decide
  · split
    · show (405 : Nat) ≠ 500
      decide
    · rename_i handler _
      have hanswer : ((respondAt settings today handler request).run .none world).1.status ≠ 500 := by
        unfold respondAt
        split
        · exact hperformed _
        · exact hrejected _
      rw [Program.bind_eq, Program.run_bind]
      dsimp only
      split
      · exact hanswer
      · exact hanswer

namespace System

variable {world : World} {s : System}

/-- **The second look never surprises a client that is alone.** In every state, an action that is
    carried out with every method in order blames others for its failure only if it records an
    arrival that moves a booking onto them, and then it does; no request is answered with an internal
    error. -/
theorem reaches_undisturbed (h₀ : world.store.Unused) (h : (idle world).ReachesLoading s)
    (settings : SearchSettings) (today : Date) :
    (∀ (wanted : Action) (e : ActionError),
      ((wanted.perform settings today).run .none s.world).1 = .error e → e.blamesOthers = true →
      ∃ premises id request current, wanted = .recordArrival premises id request ∧
        s.world.store.booking? id = some current ∧ current.premisesId = premises ∧
        s.world.store.MovesOnto current request ∧
        e = .booking (.bedTaken current.bedId .concurrentWrite)) ∧
    (∀ id request current, s.world.store.booking? id = some current →
      s.world.store.MovesOnto current request →
      (((Action.recordArrival current.premisesId id request).perform settings today).run .none
        s.world).1 = .error (.booking (.bedTaken current.bedId .concurrentWrite))) ∧
    ∀ request : HttpRequest, ((respond settings today request).run .none s.world).1.status ≠ 500 := by
  have hordered := h.departsLater h₀
  obtain ⟨held, hheld⟩ := h.entrusted (entrusted_idle h₀.sound)
  have halone (wanted : Action) : (wanted.perform settings today).Alone s.world
      (wanted.FailsAlone s.world) fun _ _ => True := wanted.alone_perform hheld.sound hordered
  refine ⟨fun wanted e he hblames => ?_, fun id request current hfind hmoves => ?_,
    status_respond halone⟩
  · rcases (halone wanted).of_error he with hown | hmoves
    · rw [hblames] at hown
      cases hown
    · exact hmoves
  · have hrun := (Bookings.alone_recordArrival_of_movesOnto hordered hfind hmoves).eq_error
    show ((Action.replying .booking .booking
      (Bookings.recordArrival current.premisesId id request)).run .none s.world).1 = _
    rw [Action.run_replying, hrun]
    rfl

/-- One bed, booked for four nights and for the four nights after them. -/
def neighbours : System :=
  let book (start : Nat) : ServiceRequest :=
    .action .default .first (.createBooking ⟨"premises-1"⟩
      ⟨"X320741", ⟨"bed-1"⟩, Date.first.later start, Date.first.later (start + 4)⟩)
  ((idle .oneBed).serve .none (book 0)).serve .none (book 4)

/-- The person of the first booking arrives in time and is expected to stay for two nights more. -/
def longerStay : ArrivalRequest := ⟨.first, Date.first.later 6, none⟩

theorem reaches_neighbours : (idle .oneBed).ReachesLoading neighbours :=
  (reaches_serve (reaches_serve .start .none _) .none _).reachesLoading

/-- The arrival moves the first booking onto the second one. -/
theorem neighbours_movesOnto :
    ∃ current, neighbours.world.store.booking? (.numbered .booking 1) = some current ∧
      current.premisesId = ⟨"premises-1"⟩ ∧ current.bedId = ⟨"bed-1"⟩ ∧
      neighbours.world.store.MovesOnto current longerStay := by
  have hfacts : (neighbours.world.store.booking? (.numbered .booking 1)).any (fun current =>
      current.premisesId = ⟨"premises-1"⟩ && current.bedId = ⟨"bed-1"⟩
        && Bookings.awaitingObstacle current = none
        && !(current.departureDate = longerStay.expectedDepartureDate)
        && neighbours.world.store.bookings.rows.any fun b => b.id ≠ current.id
          && b.blocks current.bedId
            (.spanning longerStay.arrivalDate longerStay.expectedDepartureDate)) = true := by
    decide +kernel
  obtain ⟨current, hfind, hfits⟩ := (Option.any_eq_true _ _).1 hfacts
  simp only [Bool.and_eq_true, decide_eq_true_eq, Bool.not_eq_true', decide_eq_false_iff_not,
    List.any_eq_true] at hfits
  obtain ⟨⟨⟨⟨hhome, hbed⟩, hawaiting⟩, hmoved⟩, hheld⟩ := hfits
  exact ⟨current, hfind, hhome, hbed, (Bookings.mem_of_booking? hfind).1, hawaiting, by decide,
    fun hsame => hmoved hsame.2, .inl hheld⟩

/-- It is refused as if the second booking had just come in between. -/
theorem neighbours_undisturbed :
    (((Action.recordArrival ⟨"premises-1"⟩ (.numbered .booking 1) longerStay).perform .default
      .first).run .none neighbours.world).1 =
        .error (.booking (.bedTaken ⟨"bed-1"⟩ .concurrentWrite)) := by
  obtain ⟨current, hfind, hhome, hbed, hmoves⟩ := neighbours_movesOnto
  have hrefused := (reaches_undisturbed World.unused_oneBed reaches_neighbours .default .first).2.1
    (.numbered .booking 1) longerStay current hfind hmoves
  rwa [hhome, hbed] at hrefused

end System

end Bedspace
