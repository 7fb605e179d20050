import Bedspace.Proofs.Cascade.Heredity
import Bedspace.Proofs.Records

/-!
# The bookings of a placement request

Whoever books for a placement request has looked at its tree before, and by the time the booking is
written the request may have been booked or withdrawn by others. The store looks once more then.

* `Store.BookedOnce`: a placement request has one live booking at most, and once it is withdrawn only
  one with an arrival;
* `Call.Due.booking_comes`: a booking comes only where its placement request is not closed;
* **`System.reaches_bookedOnce`**: every state of a run is so, whatever links bookings are given.
-/

namespace Bedspace

/-- **A placement request has at most one live booking, and once it is withdrawn only one with an
    arrival.** -/
structure Store.BookedOnce (store : Store) : Prop where
  once : ∀ id, ∀ b ∈ store.bookings.rows, ∀ b' ∈ store.bookings.rows,
    b.placementRequestId = some id → b'.placementRequestId = some id →
    b.isCancelled = false → b'.isCancelled = false → b = b'
  withdrawn : ∀ r ∈ store.placementRequests.rows, r.isWithdrawn = true →
    ∀ b ∈ store.bookings.rows, b.placementRequestId = some r.id → b.isCancelled = false →
    b.hasArrival = true

/-! ## 1. Where bookings come from -/

theorem Store.eq_false_of_requestClosed {store : Store} {id : PlacementRequestId}
    (h : store.requestClosed id = false) :
    (∀ r ∈ store.placementRequests.rows, r.id = id → r.isWithdrawn = false) ∧
      ∀ b ∈ store.bookings.rows, b.placementRequestId = some id → b.isCancelled = true := by
  obtain ⟨hrequest, hbookings⟩ := Bool.or_eq_false_iff.1 h
  constructor
  · rintro r hr rfl
    have hfind : store.placementRequests.find? r.id.text = some r :=
      store.placementRequests.find?_eq_some_iff.2 ⟨hr, rfl⟩
    rw [hfind] at hrequest
    exact hrequest
  · intro b hb hid
    have hnot := List.any_eq_false.1 hbookings b hb
    simpa [hid] using hnot

/-- Only adding a booking uses up an identifier of a booking. -/
theorem Call.eq_insertBooking_of_needs {c : Call} {id : BookingId}
    (h : Right.issued .booking id ∈ c.needs) : ∃ b, c = .insertBooking b := by
  cases c with
  | insertBooking b => exact ⟨b, rfl⟩
  | saveTree before after =>
    rcases h with h | ⟨_, h⟩
    · simp only [Tree.added, List.mem_append, List.mem_map] at h
      rcases h with (⟨_, _, h⟩ | ⟨_, _, h⟩) | ⟨_, _, h⟩
      all_goals cases h
    · cases h
  | _ => cases h

/-- **A booking of the store after a due call** was there before, or is added for a placement request
    that is not closed. -/
theorem Call.Due.booking_comes {world : World} {c : Call} (h : c.Due world) {b' : Booking}
    (hb' : b' ∈ (c.perform world.store).2.bookings.rows) :
    (∃ b ∈ world.store.bookings.rows, b.Change b') ∨
      c = .insertBooking b' ∧
        ∀ id, b'.placementRequestId = some id → world.store.requestClosed id = false := by
  rcases h.revisedBy.bookings.comes b' hb' with hold | ⟨hneeds, _⟩
  · exact .inl hold
  · obtain ⟨b, rfl⟩ := Call.eq_insertBooking_of_needs hneeds
    rcases Call.perform_cases world.store (.insertBooking b) with e | hw
    · rw [e] at hb'
      exact .inl ⟨b', hb', .same b'⟩
    · generalize (Call.perform world.store (.insertBooking b)).2 = store' at hw hb'
      cases hw with
      | insertBooking _ hnew hopen hfree =>
        rcases (Table.mem_put _).1 hb' with rfl | ⟨hb', _⟩
        · exact .inr ⟨rfl, hopen⟩
        · exact .inl ⟨b', hb', .same b'⟩

/-! ## 2. Bookings hang on open requests -/

namespace Store

/-- Whether withdrawn placement requests have open bookings, in both ways of speaking. -/
theorem hereditary_bookings_iff {store : Store} :
    Hereditary Booking.hangsOn store.placementRequests.rows store.bookings.rows ↔
      ∀ r ∈ store.placementRequests.rows, r.isWithdrawn = true →
        ∀ b ∈ store.bookings.rows, b.placementRequestId = some r.id → b.isCancelled = false →
        b.hasArrival = true := by
  constructor
  · intro h r hr hw b hb hid hlive
    rw [← Bool.not_eq_false]
    intro harrival
    have hopen : TreeNode.isOpen r = true :=
      h r hr b hb (Booking.hangsOn_eq_iff.2 hid) (Booking.isOpen_iff.2 ⟨harrival, hlive⟩)
    rw [PlacementRequest.isOpen_iff.1 hopen] at hw
    cases hw
  · intro h r hr b hb hlink hopen
    obtain ⟨harrival, hlive⟩ := Booking.isOpen_iff.1 hopen
    refine PlacementRequest.isOpen_iff.2 (Bool.eq_false_iff.2 fun hw => ?_)
    rw [h r hr hw b hb (Booking.hangsOn_eq_iff.1 hlink) hlive] at harrival
    cases harrival

variable {world : World} {c : Call}

/-- **A due call opens no booking of a withdrawn placement request**, and a withdrawal leaves no
    booking of it open. -/
theorem hereditary_bookings (hc : c.Due world)
    (h : Hereditary Booking.hangsOn world.store.placementRequests.rows world.store.bookings.rows) :
    Hereditary Booking.hangsOn (c.perform world.store).2.placementRequests.rows
      (c.perform world.store).2.bookings.rows := by
  have hcomes : Table.Revised Booking.Change
      (ComesOpen Booking.hangsOn world.store.placementRequests.rows)
      world.store.bookings (c.perform world.store).2.bookings := by
    refine ⟨hc.revisedBy.bookings.stays, fun b' hb' => (hc.booking_comes hb').imp_right ?_⟩
    rintro ⟨_, hfree⟩ r hr hlink
    have hlive := eq_false_of_requestClosed (hfree r.id (Booking.hangsOn_eq_iff.1 hlink))
    exact PlacementRequest.isOpen_iff.2 (hlive.1 r hr rfl)
  have hprogress := hc.progress
  generalize (c.perform world.store).2 = store' at hcomes hprogress ⊢
  cases hprogress with
  | steady _ _ hsteady =>
    exact h.of_revised hsteady.requests hcomes fun _ _ hch => hch.hangs
  | withdrawal before target note reasonOf hstored hw =>
    have hids := hstored.distinctIds
    refine h.mark hw.requests hw.bookings Booking.hangsOn_mark
      (fun b hb => Tree.isOpen_booking hids hb) fun r hr b hb hlink => ?_
    have hid := Booking.hangsOn_eq_iff.1 hlink
    have hb := hstored.mem_bookings.2 ⟨hb, .inr ⟨r, hr, hid⟩⟩
    exact ⟨hb, .booking b hb r.id hid⟩

/-- **A due call leaves each placement request with one live booking at most.** -/
theorem BookedOnce.perform (hc : c.Due world) (h : world.store.BookedOnce) :
    (c.perform world.store).2.BookedOnce where
  withdrawn := hereditary_bookings_iff.1
    (hereditary_bookings hc (hereditary_bookings_iff.2 h.withdrawn))
  once id b₁' hb₁' b₂' hb₂' hid₁ hid₂ hlive₁ hlive₂ := by
    -- a booking that was live before closes its placement request for a new one
    have closed_of {b b' : Booking} (hb : b ∈ world.store.bookings.rows) (hch : b.Change b')
        (hid : b'.placementRequestId = some id) (hlive : b'.isCancelled = false) :
        world.store.requestClosed id ≠ false := by
      intro hopen
      have hid : b.placementRequestId = some id :=
        (Booking.placementRequestId_of_links hch.links_eq).symm.trans hid
      have hcancelled := (eq_false_of_requestClosed hopen).2 b hb hid
      rw [hch.isCancelled_of hlive] at hcancelled
      cases hcancelled
    rcases hc.booking_comes hb₁' with ⟨b₁, hb₁, hch₁⟩ | ⟨e₁, hfree₁⟩
    · rcases hc.booking_comes hb₂' with ⟨b₂, hb₂, hch₂⟩ | ⟨_, hfree₂⟩
      · have hsame : b₁ = b₂ := h.once id b₁ hb₁ b₂ hb₂
          ((Booking.placementRequestId_of_links hch₁.links_eq).symm.trans hid₁)
          ((Booking.placementRequestId_of_links hch₂.links_eq).symm.trans hid₂)
          (hch₁.isCancelled_of hlive₁) (hch₂.isCancelled_of hlive₂)
        refine Table.key_inj_of_mem _ hb₁' hb₂' (congrArg Id.text ?_)
        rw [hch₁.id_eq, hch₂.id_eq, hsame]
      · exact absurd (hfree₂ id hid₂) (closed_of hb₁ hch₁ hid₁ hlive₁)
    · rcases hc.booking_comes hb₂' with ⟨b₂, hb₂, hch₂⟩ | ⟨e₂, _⟩
      · exact absurd (hfree₁ id hid₁) (closed_of hb₂ hch₂ hid₂ hlive₂)
      · exact Call.insertBooking.inj (e₁.symm.trans e₂)

end Store

/-! ## 3. Runs -/

namespace System

/-- **No placement request ever has two live bookings, and none an open one once it is withdrawn**,
    in every state that clients reach from an unused store. -/
theorem reaches_bookedOnce {world : World} {s : System} (h₀ : world.store.Unused)
    (h : (idle world).Reaches s) : s.world.store.BookedOnce := by
  refine h.due_invariant (fun _ _ _ hc => .perform hc) h₀.sound ⟨?_, ?_⟩
  · rw [h₀.bookings]
    exact fun _ b hb => absurd hb List.not_mem_nil
  · rw [h₀.placementRequests]
    exact fun r hr => absurd hr List.not_mem_nil

/-- An application is created, submitted and accepted, all before two clients want to book for its
    placement request, for nights that do not touch. -/
def rivals : System :=
  let book (start stop : Nat) : ServiceRequest :=
    .action .default .first
      (.bookRequest (.numbered .placementRequest 1)
        ⟨⟨"premises-1"⟩, ⟨"bed-1"⟩, Date.first.later start, Date.first.later stop⟩)
  (arrived .oneBed
    [.action .default .first (.createApplication "X320741"),
    .action .default .first (.submit (.numbered .application 1)),
    .action .default .first
      (.acceptAssessment (.numbered .assessment 1) ⟨Date.first.later 0, 4⟩),
    book 0 4, book 6 9]).follow [0, 0, 1, 1, 1, 1, 2, 2, 2, 2]

/-- Both find the placement request without a booking; the one that writes second is refused. -/
theorem rivals_bookedOnce :
    (rivals.follow [3, 4, 3, 4, 3, 4, 3, 4, 3, 4, 3, 4, 4, 3]).world.store.bookings.rows.map
        (fun b => (b.id, b.placementRequestId)) =
      [(.numbered .booking 2, some (.numbered .placementRequest 1))] ∧
    (rivals.follow [3, 4, 3, 4, 3, 4, 3, 4, 3, 4, 3, 4, 4, 3]).world.store.BookedOnce :=
  ⟨by decide +kernel, reaches_bookedOnce World.unused_oneBed
    (reaches_follow (reaches_follow (reaches_arrived _ _) _) _)⟩

end System

end Bedspace
