import Bedspace.Proofs.Footprint
import Bedspace.Proofs.Undisturbed

/-!
# Bookings on beds that are in use

A bed may have an end date, from which on it is no longer in use. Whoever makes a booking is held to
that date; whoever records an arrival is not, and the booking takes over the dates of the arrival.

* `Store.bedOf?` is the bed of a booking; `Booking.Suits` says that a booking begins while its bed is
  in use, unless an arrival is recorded;
* `Operation.BooksInUse`: while the estate is left alone, an operation makes bookings only on beds in
  use, which goes for every request (`ServiceRequest.booksInUse`);
* **`System.reaches_suits`**: all bookings suit their beds in every state, and an arrival on nights
  that are free is accepted whatever the end date of the bed; `System.closingBed_outlasted` is a case
  in which the bed is no longer in use.
-/

namespace Bedspace

open Operation

/-! ## 1. The bed of a booking -/

/-- The bed of a booking, in the premises for which it was made. -/
def Store.bedOf? (store : Store) (b : Booking) : Option Bed :=
  (store.premises? b.premisesId).bind fun inventory => (inventory.locate? b.bedId).map Prod.snd

/-- **A booking begins while its bed is in use**, or else begins on the day of a recorded arrival. -/
structure Booking.Suits (b : Booking) (bed : Bed) : Prop where
  awaited : b.arrival = none → bed.inServiceOn b.arrivalDate = true
  arrived : ∀ arrival, b.arrival = some arrival → b.arrivalDate = arrival.arrivalDate

/-- The bed of every booking is there, and the booking suits it. -/
def Store.Suited (store : Store) : Prop :=
  ∀ b ∈ store.bookings.rows, ∃ bed, store.bedOf? b = some bed ∧ b.Suits bed

theorem Store.bedOf?_congr {store store' : Store} {b b' : Booking}
    (hestate : store'.premises = store.premises) (hpremises : b'.premisesId = b.premisesId)
    (hbed : b'.bedId = b.bedId) : store'.bedOf? b' = store.bedOf? b := by
  unfold bedOf? premises?
  rw [hestate, hpremises, hbed]

theorem Booking.Change.premisesId_eq {b b' : Booking} (h : b.Change b') :
    b'.premisesId = b.premisesId := by
  cases h <;> rfl

/-- A change of a booking leaves it suited to its bed. -/
theorem Booking.Change.suits {b b' : Booking} {bed : Bed} (h : b.Change b') (hb : b.Suits bed) :
    b'.Suits bed := by
  cases h with
  | same | nonArrival | cancellation => exact ⟨hb.awaited, hb.arrived⟩
  | arrival arrival hawaiting => exact ⟨fun h => (nomatch h), fun _ h => by cases h; rfl⟩

/-! ## 2. Bookings that are made -/

/-- The estate is the same. -/
def Store.SameEstate (store store' : Store) : Prop := store'.premises = store.premises

/-- **A booking is made on a bed that is in use** on the arrival date; nothing is said of other
    calls. -/
def Call.BooksInUse (c : Call) (store : Store) : Prop :=
  match c with
  | .insertBooking b =>
    b.arrival = none ∧ ∃ bed, store.bedOf? b = some bed ∧ bed.inServiceOn b.arrivalDate = true
  | _ => True

theorem Call.booksInUse_of_method {c : Call} (hc : c.method ≠ .insertBooking) (store : Store) :
    c.BooksInUse store := by
  cases c with
  | insertBooking b => exact absurd rfl hc
  | _ => trivial

/-- **While others leave the estate alone, an operation makes bookings only on beds in use.** -/
def Operation.BooksInUse {ε α : Type} (op : Operation ε α) : Prop :=
  ∀ store, op.Amid Store.SameEstate Call.BooksInUse store (fun _ => True) fun _ _ => True

/-- An operation that makes no bookings makes none on other beds. -/
theorem Operation.Uses.booksInUse {ε α : Type} {methods : List Method} {op : Operation ε α}
    (h : op.Uses methods) (hnone : .insertBooking ∉ methods) : op.BooksInUse := by
  have hcalls (c : Call) (store : Store) (hc : c.method ∈ methods) : c.BooksInUse store :=
    Call.booksInUse_of_method (fun e => hnone (e ▸ hc)) store
  exact fun store => Program.amid_mono hcalls (fun _ _ h => h)
    (Program.Amid.restrict (h store) fun _ _ _ => trivial)

/-- The premises that were read are still the same when the booking is written. -/
theorem Bookings.create_booksInUse {premises : PremisesId} {request : NewBooking}
    {links : BookingLinks} {today : Date} :
    (create premises request links today).BooksInUse := by
  intro store
  refine amid_create (fun _ _ _ h h' => Eq.trans h' h) (fun _ => trivial) (fun c _ h => ?_) ?_
  · cases c with
    | insertBooking b => cases h
    | _ => trivial
  · intro n s₁ inventory s₂ _ hpremises hrules hsame
    obtain ⟨_, _, found, hlocated, hservice⟩ := creationRules_eq_nil_iff.1 hrules
    refine ⟨rfl, found.2, ?_, hservice⟩
    have hthere : s₂.premises? premises = some inventory := by
      unfold Store.premises? at hpremises ⊢
      rwa [show s₂.premises = s₁.premises from hsame]
    show (s₂.premises? premises).bind _ = _
    rw [hthere]
    show (inventory.locate? request.bedId).map Prod.snd = _
    rw [hlocated]
    rfl

theorem Applications.bookRequest_booksInUse {id : PlacementRequestId} {request : PlacementBooking}
    {today : Date} : (bookRequest id request today).BooksInUse := by
  intro store
  have hfound : (findTreeOf (.placementRequest id)).BooksInUse :=
    (findTreeOf_uses (List.Subset.refl _)).booksInUse (by simp)
  refine amid_bind.2 ((hfound store).imp fun tree store _ => ?_)
  have hcreate : (Bookings.create request.premisesId
      ⟨tree.application.crn, request.bedId, request.arrivalDate, request.departureDate⟩
      ⟨some tree.application.id, some id⟩ today).BooksInUse := Bookings.create_booksInUse
  have hamid (store : Store) := hcreate store
  simp [ensureLive, hamid]

theorem Action.replying_booksInUse {ε α : Type} {wrap : ε → ActionError} {reply : α → Reply}
    {op : Operation ε α} (h : op.BooksInUse) : (replying wrap reply op).BooksInUse :=
  fun store => amid_adapt.2 (amid_map.2 (h store))

/-- **No action makes a booking but on a bed that is in use.** Only two of them make any. -/
theorem Action.perform_booksInUse {settings : SearchSettings} {today : Date} (wanted : Action) :
    (wanted.perform settings today).BooksInUse := by
  by_cases hbooks : .insertBooking ∈ wanted.methods
  · cases wanted with
    | createBooking premises request => exact replying_booksInUse Bookings.create_booksInUse
    | bookRequest id request => exact replying_booksInUse Applications.bookRequest_booksInUse
    | _ => simp [methods] at hbooks
  · exact wanted.perform_uses.booksInUse hbooks

theorem ServiceRequest.program_booksInUse (request : ServiceRequest) (store : Store) :
    request.program.Amid Store.SameEstate Call.BooksInUse (fun _ _ => True) store := by
  have h : request.operation.BooksInUse := by
    cases request with
    | action settings today wanted => exact wanted.perform_booksInUse
    | linkedBooking premises request links today =>
      exact Action.replying_booksInUse Bookings.create_booksInUse
  exact Program.amid_mono (fun _ _ h => h) (fun _ _ _ => trivial) (h store)

/-! ## 3. Bookings that are stored -/

namespace Call

variable {world : World} {c : Call}

/-- **A booking that is stored after a call** was stored before it, changed in one way at most, or is
    the one that the call makes. -/
theorem Due.bookings_comes (h : c.Due world) {b' : Booking}
    (hb' : b' ∈ (c.perform world.store).2.bookings.rows) :
    (∃ b ∈ world.store.bookings.rows, b.Change b') ∨ c = .insertBooking b' := by
  rcases Call.perform_cases world.store c with e | hw
  · rw [e] at hb'
    exact .inl ⟨b', hb', .same b'⟩
  · have hserved := h.served
    generalize (c.perform world.store).2 = store' at hw hb'
    cases hw with
    | insertBooking b hnew hopen hfree =>
      rcases Table.mem_place_imp hb' with rfl | hb'
      · exact .inr rfl
      · exact .inl ⟨b', hb', .same b'⟩
    | replaceBooking current updated hmem hid hfree =>
      rcases Table.mem_place_imp hb' with rfl | hb'
      · exact .inl ⟨current, hmem, hserved.change⟩
      · exact .inl ⟨b', hb', .same b'⟩
    | saveTree before after htree hid =>
      rcases Table.mem_putAll_imp _ hb' with hb' | hb'
      · obtain ⟨b, hb, hchange⟩ := exists_of_forall₂ hserved.revises.bookings hb'
        exact .inl ⟨b, ((Store.stores_of_tree? htree).2.mem_bookings.1 hb).1, hchange⟩
      · exact .inl ⟨b', hb', .same b'⟩
    | _ => exact .inl ⟨b', hb', .same b'⟩

/-- **A due call keeps all bookings suited to their beds**, if it makes bookings only on beds in use. -/
theorem Due.suited (h : c.Due world) (hbooks : c.BooksInUse world.store)
    (hs : world.store.Suited) : (c.perform world.store).2.Suited := by
  obtain ⟨hestate, _⟩ := h.served.estate_eq world.store
  intro b' hb'
  rcases h.bookings_comes hb' with ⟨b, hb, hchange⟩ | rfl
  · obtain ⟨bed, hbed, hsuits⟩ := hs b hb
    have hsame : (c.perform world.store).2.bedOf? b' = world.store.bedOf? b :=
      Store.bedOf?_congr hestate hchange.premisesId_eq hchange.bedId_eq
    exact ⟨bed, hsame.trans hbed, hchange.suits hsuits⟩
  · obtain ⟨hnone, bed, hbed, hservice⟩ := hbooks
    refine ⟨bed, (Store.bedOf?_congr hestate rfl rfl).trans hbed, fun _ => hservice, ?_⟩
    intro arrival harrival
    rw [hnone] at harrival
    cases harrival

end Call

/-! ## 4. Arrivals -/

/-- A booking with the arrival that is recorded for it. -/
def Booking.withArrival (b : Booking) (request : ArrivalRequest) : Booking :=
  { b with
    arrivalDate := request.arrivalDate, departureDate := request.expectedDepartureDate
    arrival := some ⟨request.arrivalDate, request.expectedDepartureDate, request.notes⟩ }

/-- **An arrival is recorded for every booking that waits for one**, as long as its dates are in order
    and nothing else holds the bed on the nights between them. -/
theorem Bookings.run_recordArrival {world : World} {b : Booking} {request : ArrivalRequest}
    (hb : b ∈ world.store.bookings.rows) (hawaiting : awaitingObstacle b = none)
    (horder : request.arrivalDate < request.expectedDepartureDate)
    (hfree : world.store.bedTaken b.bedId
      (.spanning request.arrivalDate request.expectedDepartureDate) (some b.id) = false) :
    (recordArrival b.premisesId b.id request).run .none world =
      (.ok (b.withArrival request), { world with
        store := { world.store with
          bookings := world.store.bookings.put (b.withArrival request) } }) := by
  have hfind : (find b.premisesId b.id).run .none world = (.ok b, world) := by
    have hstored : world.store.booking? b.id = some b :=
      world.store.bookings.find?_eq_some_iff.2 ⟨hb, rfl⟩
    unfold find
    rw [run_bind_of_ok (run_call_of_ok rfl), hstored]
    simp [Option.filter, run_demand_some]
  have hwaits : (ensureAwaiting b).run .none world = (.ok (), world) := by
    unfold ensureAwaiting
    rw [hawaiting]
    rfl
  have hobeyed : (obey (InvalidParams.noteIf
      (outOfOrder request.arrivalDate request.expectedDepartureDate)
      "$.expectedDepartureDate" "beforeBookingArrivalDate")).run .none world =
        (.ok (), world) := by
    have horder : outOfOrder request.arrivalDate request.expectedDepartureDate = false := by
      unfold outOfOrder
      rw [decide_eq_false_iff_not, Date.le_def, Int.not_le]
      exact horder
    rw [horder]
    exact run_failIf_of_false rfl
  have hwrite : world.store.replaceBooking b (b.withArrival request) =
      .ok { world.store with bookings := world.store.bookings.put (b.withArrival request) } := by
    have huntaken : world.store.bedTaken (b.withArrival request).bedId
        (b.withArrival request).range (some (b.withArrival request).id) = false := hfree
    have hid : (b.withArrival request).id = b.id := rfl
    rw [Store.replaceBooking_of_mem hb hid, huntaken, Bool.and_false, if_neg Bool.false_ne_true]
  have hreplaced : (replace b (b.withArrival request)).run .none world =
      (.ok (b.withArrival request), { world with
        store := { world.store with
          bookings := world.store.bookings.put (b.withArrival request) } }) := by
    have hperform : (Call.replaceBooking b (b.withArrival request)).perform world.store =
        (.ok (), { world.store with
          bookings := world.store.bookings.put (b.withArrival request) }) :=
      congrArg (Call.settleUnit world.store) hwrite
    unfold replace
    rw [run_bind_of_ok (run_call_of_perform hperform)]
    rfl
  unfold recordArrival
  rw [run_bind_of_ok hfind, run_bind_of_ok hwaits, run_bind_of_ok hobeyed]
  exact hreplaced

/-! ## 5. Every state -/

namespace System

variable {world : World} {s : System}

/-- **In every state clients will make bookings only on beds in use**, and the estate is still the
    same. -/
theorem Reaches.booksInUse (h₀ : world.Sound) (h : (idle world).Reaches s) :
    s.world.store.premises = world.store.premises ∧ ∀ p ∈ s.clients,
      p.Amid Store.SameEstate Call.BooksInUse (fun _ _ => True) s.world.store := by
  induction h with
  | start => exact ⟨rfl, fun p hp => absurd hp List.not_mem_nil⟩
  | step s t hr hs ih =>
    obtain ⟨hestate, hclients⟩ := ih
    have hsame : s.world.store.SameEstate t.world.store := by
      rcases hr.due_step h₀ hs with e | ⟨c, hc, e⟩
      · exact congrArg Store.premises e
      · exact (congrArg Store.premises e).trans (hc.served.estate_eq s.world.store).1
    refine ⟨hsame.trans hestate, fun q hq => ?_⟩
    cases hs with
    | arrive request =>
      rcases List.mem_append.1 hq with hq | hq
      · exact hclients q hq
      · obtain rfl := List.mem_singleton.1 hq
        exact request.program_booksInUse s.world.store
    | move i p p' world' hi hp =>
      rcases List.mem_or_eq_of_mem_set hq with hq | rfl
      · exact (hclients q hq).wait (fun _ _ _ h h' => Eq.trans h' h) (fun _ _ => trivial) hsame
      · exact ((hclients p (List.mem_of_getElem? hi)).move rfl hp).1

/-- **All bookings suit their beds in every state.** -/
theorem Reaches.suited (h₀ : world.store.Unused) (h : (idle world).Reaches s) :
    s.world.store.Suited := by
  induction h with
  | start =>
    intro b hb
    rw [idle, h₀.bookings] at hb
    cases hb
  | step s t hr hs ih =>
    obtain ⟨_, hclients⟩ := hr.booksInUse h₀.sound
    obtain ⟨held, hheld⟩ := hr.entrusted h₀.sound
    cases hs with
    | arrive request => exact ih
    | move i p p' world' hi hp =>
      cases hp with
      | call c next =>
        obtain ⟨hbooks, _⟩ := hclients _ (List.mem_of_getElem? hi) s.world.store rfl
        exact (hheld.due hi).suited hbooks ih
      | refused c next e => exact ih
      | issue kind next => exact ih

/-- **Bookings begin while their beds are in use, unless an arrival is recorded.** In every state that
    clients reach from an estate that is left alone, the bed of a booking is one of its premises; it is
    in use on the arrival date as long as no arrival is recorded, and the booking begins on the day of
    the arrival then. That day is not compared with the end date of the bed: every booking that waits
    for an arrival takes over the dates that are recorded, if they are in order and nothing else holds
    the bed on these nights. -/
theorem reaches_suits (h₀ : world.store.Unused) (h : (idle world).Reaches s) :
    (∀ b ∈ s.world.store.bookings.rows,
      ∃ bed, world.store.bedOf? b = some bed ∧ b.Suits bed) ∧
    ∀ b ∈ s.world.store.bookings.rows, ∀ request : ArrivalRequest,
      Bookings.awaitingObstacle b = none →
      request.arrivalDate < request.expectedDepartureDate →
      s.world.store.bedTaken b.bedId
        (.spanning request.arrivalDate request.expectedDepartureDate) (some b.id) = false →
      ∃ world', (Bookings.recordArrival b.premisesId b.id request).run .none s.world =
          (.ok (b.withArrival request), world') ∧
        b.withArrival request ∈ world'.store.bookings.rows := by
  obtain ⟨hestate, _⟩ := h.booksInUse h₀.sound
  refine ⟨fun b hb => ?_, fun b hb request hawaiting horder hfree => ?_⟩
  · obtain ⟨bed, hbed, hsuits⟩ := h.suited h₀ b hb
    exact ⟨bed, (Store.bedOf?_congr hestate rfl rfl).symm.trans hbed, hsuits⟩
  · refine ⟨_, Bookings.run_recordArrival hb hawaiting horder hfree, ?_⟩
    exact Table.mem_place_self _ _

end System

/-- A world with one house that has one bed, which is in use for the first week only. -/
def World.closingBed : World :=
  .ofStore (Store.empty.putPremises
    { premises :=
        { id := ⟨"premises-1"⟩, name := "Elm House", service := .approvedPremises
          status := .active, postcode := "LS1 1AA", probationDeliveryUnit := "Leeds"
          location := none, characteristics := ∅, turnaroundDays := 0 }
      rooms := [⟨⟨⟨"room-1"⟩, ⟨"premises-1"⟩, "Room 1", ∅⟩,
        [⟨⟨"bed-1"⟩, ⟨"room-1"⟩, "Bed 1", some (Date.first.later 7)⟩]⟩] })

theorem World.unused_closingBed : closingBed.store.Unused := ⟨rfl, rfl, rfl, rfl, rfl, rfl⟩

namespace System

/-- The state in which that bed is booked for the first four nights. -/
def closingBedBooked : System :=
  (idle .closingBed).serve .none (.action .default .first (.createBooking ⟨"premises-1"⟩
    ⟨"X320741", ⟨"bed-1"⟩, .first, Date.first.later 4⟩))

theorem reaches_closingBedBooked : (idle .closingBed).Reaches closingBedBooked :=
  reaches_serve .start _ _

/-- An arrival on the day from which the bed is no longer in use. -/
def lateArrival : ArrivalRequest := ⟨Date.first.later 7, Date.first.later 9, none⟩

/-- The booking was made for a day on which the bed is in use, and takes an arrival when it is not. -/
theorem closingBedBooked_suits :
    ∃ b ∈ closingBedBooked.world.store.bookings.rows,
      (∃ bed, World.closingBed.store.bedOf? b = some bed ∧ b.Suits bed) ∧
      ∃ world', (Bookings.recordArrival b.premisesId b.id lateArrival).run .none
          closingBedBooked.world = (.ok (b.withArrival lateArrival), world') ∧
        b.withArrival lateArrival ∈ world'.store.bookings.rows := by
  have hbooked : (closingBedBooked.world.store.bookings.rows.any fun b =>
      Bookings.awaitingObstacle b = none && !closingBedBooked.world.store.bedTaken b.bedId
        (.spanning lateArrival.arrivalDate lateArrival.expectedDepartureDate) (some b.id)) =
      true := by
    decide +kernel
  obtain ⟨b, hb, hfacts⟩ := List.any_eq_true.1 hbooked
  rw [Bool.and_eq_true, decide_eq_true_eq, Bool.not_eq_true'] at hfacts
  obtain ⟨hawaiting, hfree⟩ := hfacts
  obtain ⟨hsuits, harrives⟩ := reaches_suits World.unused_closingBed reaches_closingBedBooked
  exact ⟨b, hb, hsuits b hb, harrives b hb lateArrival hawaiting (by decide +kernel) hfree⟩

/-- The state once that arrival is recorded. -/
def closingBedOutlasted : System :=
  closingBedBooked.serve .none (.action .default .first
    (.recordArrival ⟨"premises-1"⟩ (.numbered .booking 1) lateArrival))

/-- **A booking begins when its bed is no longer in use.** A booking that was made through the
    services, and that is not cancelled, begins on the end date of its bed. -/
theorem closingBed_outlasted :
    World.closingBed.store.Unused ∧ (idle .closingBed).Reaches closingBedOutlasted ∧
      ∃ b ∈ closingBedOutlasted.world.store.bookings.rows, b.isCancelled = false ∧
        ∃ bed, World.closingBed.store.bedOf? b = some bed ∧
          bed.inServiceOn b.arrivalDate = false := by
  have hlate : (closingBedOutlasted.world.store.bookings.rows.any fun b =>
      !b.isCancelled && (World.closingBed.store.bedOf? b).any fun bed =>
        !bed.inServiceOn b.arrivalDate) = true := by
    decide +kernel
  obtain ⟨b, hb, hfacts⟩ := List.any_eq_true.1 hlate
  rw [Bool.and_eq_true, Bool.not_eq_true'] at hfacts
  obtain ⟨hlive, hclosed⟩ := hfacts
  obtain ⟨bed, hbed, hended⟩ := (Option.any_eq_true _ _).1 hclosed
  rw [Bool.not_eq_true'] at hended
  exact ⟨World.unused_closingBed, reaches_serve reaches_closingBedBooked _ _, b, hb, hlive, bed,
    hbed, hended⟩

end System

end Bedspace
