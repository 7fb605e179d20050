import Bedspace.Proofs.Entitlement
import Bedspace.Proofs.Holding

/-!
# Recorded facts last

Bookings and whole trees are written over from copies that were read earlier, while other clients
write the same records. Nothing that was recorded gets lost by that, and nothing is recorded twice.

* `Booking.KeptAs` and the like say what of a record a later one still has; `Store.KeptIn` says so of
  all records of a store;
* `Store.Consistent` says which recorded facts exclude one another;
* **`System.reaches_keptIn`**: in every run each state is consistent, and keeps all of each earlier
  one.
-/

namespace Bedspace

/-! ## 1. One record -/

/-- What was recorded is still recorded, with the same value. -/
def Lasts {α : Type} (before after : Option α) : Prop := ∀ x, before = some x → after = some x

theorem Lasts.refl {α : Type} (before : Option α) : Lasts before before := fun _ h => h

theorem Lasts.trans {α : Type} {a b c : Option α} (h : Lasts a b) (h' : Lasts b c) : Lasts a c :=
  fun x hx => h' x (h x hx)

theorem Lasts.of_eq_none {α : Type} {before after : Option α} (h : before = none) :
    Lasts before after := by
  subst h
  exact fun _ h => nomatch h

/-- The ways of an application: it is submitted once, and withdrawn from wherever it is. -/
inductive ApplicationStatus.MovesTo : ApplicationStatus → ApplicationStatus → Prop where
  | stay (s : ApplicationStatus) : MovesTo s s
  | submit : MovesTo .inProgress .submitted
  | withdraw (s : ApplicationStatus) : MovesTo s .withdrawn

/-- **What a later application still has.** -/
structure Application.KeptAs (before after : Application) : Prop where
  id : after.id = before.id
  crn : after.crn = before.crn
  createdOn : after.createdOn = before.createdOn
  submittedOn : Lasts before.submittedOn after.submittedOn
  withdrawal : Lasts before.withdrawal after.withdrawal
  status : before.status.MovesTo after.status

/-- **What a later assessment still has.** -/
structure Assessment.KeptAs (before after : Assessment) : Prop where
  id : after.id = before.id
  applicationId : after.applicationId = before.applicationId
  allocatedOn : after.allocatedOn = before.allocatedOn
  decision : Lasts before.decision after.decision
  reallocatedOn : Lasts before.reallocatedOn after.reallocatedOn
  withdrawn : before.withdrawn = true → after.withdrawn = true

/-- **What a later placement application still has.** -/
structure PlacementApplication.KeptAs (before after : PlacementApplication) : Prop where
  id : after.id = before.id
  applicationId : after.applicationId = before.applicationId
  createdOn : after.createdOn = before.createdOn
  decision : Lasts before.decision after.decision
  withdrawal : Lasts before.withdrawal after.withdrawal

/-- **What a later placement request still has.** -/
structure PlacementRequest.KeptAs (before after : PlacementRequest) : Prop where
  id : after.id = before.id
  applicationId : after.applicationId = before.applicationId
  placementApplicationId : after.placementApplicationId = before.placementApplicationId
  expectedArrival : after.expectedArrival = before.expectedArrival
  durationDays : after.durationDays = before.durationDays
  createdOn : after.createdOn = before.createdOn
  withdrawal : Lasts before.withdrawal after.withdrawal

/-- **What a later booking still has.** Its dates stay, unless an arrival was recorded meanwhile,
    and then they are the dates of that. -/
structure Booking.KeptAs (before after : Booking) : Prop where
  id : after.id = before.id
  crn : after.crn = before.crn
  premisesId : after.premisesId = before.premisesId
  bedId : after.bedId = before.bedId
  applicationId : after.applicationId = before.applicationId
  placementRequestId : after.placementRequestId = before.placementRequestId
  createdOn : after.createdOn = before.createdOn
  arrival : Lasts before.arrival after.arrival
  nonArrival : Lasts before.nonArrival after.nonArrival
  cancellation : Lasts before.cancellation after.cancellation
  dates :
    after.arrival = before.arrival ∧ after.arrivalDate = before.arrivalDate ∧
        after.departureDate = before.departureDate ∨
      before.arrival = none ∧ ∃ arrival, after.arrival = some arrival ∧
        after.arrivalDate = arrival.arrivalDate ∧
        after.departureDate = arrival.expectedDepartureDate

theorem ApplicationStatus.MovesTo.trans {s t u : ApplicationStatus} (h : s.MovesTo t)
    (h' : t.MovesTo u) : s.MovesTo u := by
  cases h' with
  | stay => exact h
  | withdraw => exact .withdraw s
  | submit =>
    cases h with
    | stay => exact .submit

namespace Application.KeptAs

theorem refl (a : Application) : a.KeptAs a :=
  ⟨rfl, rfl, rfl, .refl _, .refl _, .stay _⟩

theorem trans {a b c : Application} (h : a.KeptAs b) (h' : b.KeptAs c) : a.KeptAs c where
  id := h'.id.trans h.id
  crn := h'.crn.trans h.crn
  createdOn := h'.createdOn.trans h.createdOn
  submittedOn := h.submittedOn.trans h'.submittedOn
  withdrawal := h.withdrawal.trans h'.withdrawal
  status := h.status.trans h'.status

end Application.KeptAs

namespace Assessment.KeptAs

theorem refl (a : Assessment) : a.KeptAs a :=
  ⟨rfl, rfl, rfl, .refl _, .refl _, fun h => h⟩

theorem trans {a b c : Assessment} (h : a.KeptAs b) (h' : b.KeptAs c) : a.KeptAs c where
  id := h'.id.trans h.id
  applicationId := h'.applicationId.trans h.applicationId
  allocatedOn := h'.allocatedOn.trans h.allocatedOn
  decision := h.decision.trans h'.decision
  reallocatedOn := h.reallocatedOn.trans h'.reallocatedOn
  withdrawn ha := h'.withdrawn (h.withdrawn ha)

end Assessment.KeptAs

namespace PlacementApplication.KeptAs

theorem refl (p : PlacementApplication) : p.KeptAs p :=
  ⟨rfl, rfl, rfl, .refl _, .refl _⟩

theorem trans {p q r : PlacementApplication} (h : p.KeptAs q) (h' : q.KeptAs r) : p.KeptAs r where
  id := h'.id.trans h.id
  applicationId := h'.applicationId.trans h.applicationId
  createdOn := h'.createdOn.trans h.createdOn
  decision := h.decision.trans h'.decision
  withdrawal := h.withdrawal.trans h'.withdrawal

end PlacementApplication.KeptAs

namespace PlacementRequest.KeptAs

theorem refl (r : PlacementRequest) : r.KeptAs r :=
  ⟨rfl, rfl, rfl, rfl, rfl, rfl, .refl _⟩

theorem trans {p q r : PlacementRequest} (h : p.KeptAs q) (h' : q.KeptAs r) : p.KeptAs r where
  id := h'.id.trans h.id
  applicationId := h'.applicationId.trans h.applicationId
  placementApplicationId := h'.placementApplicationId.trans h.placementApplicationId
  expectedArrival := h'.expectedArrival.trans h.expectedArrival
  durationDays := h'.durationDays.trans h.durationDays
  createdOn := h'.createdOn.trans h.createdOn
  withdrawal := h.withdrawal.trans h'.withdrawal

end PlacementRequest.KeptAs

namespace Booking.KeptAs

theorem refl (b : Booking) : b.KeptAs b :=
  ⟨rfl, rfl, rfl, rfl, rfl, rfl, rfl, .refl _, .refl _, .refl _, .inl ⟨rfl, rfl, rfl⟩⟩

theorem trans {a b c : Booking} (h : a.KeptAs b) (h' : b.KeptAs c) : a.KeptAs c where
  id := h'.id.trans h.id
  crn := h'.crn.trans h.crn
  premisesId := h'.premisesId.trans h.premisesId
  bedId := h'.bedId.trans h.bedId
  applicationId := h'.applicationId.trans h.applicationId
  placementRequestId := h'.placementRequestId.trans h.placementRequestId
  createdOn := h'.createdOn.trans h.createdOn
  arrival := h.arrival.trans h'.arrival
  nonArrival := h.nonArrival.trans h'.nonArrival
  cancellation := h.cancellation.trans h'.cancellation
  dates := by
    rcases h'.dates with ⟨harrival', hstart', hstop'⟩ | ⟨hnone', arrival, hthere, hstart, hstop⟩
    · rcases h.dates with ⟨harrival, hstart, hstop⟩ | ⟨hnone, arrival, hthere, hstart, hstop⟩
      · exact .inl ⟨harrival'.trans harrival, hstart'.trans hstart, hstop'.trans hstop⟩
      · exact .inr ⟨hnone, arrival, harrival'.trans hthere, hstart'.trans hstart,
          hstop'.trans hstop⟩
    · rcases h.dates with ⟨harrival, _, _⟩ | ⟨_, other, hother, _, _⟩
      · exact .inr ⟨harrival.symm.trans hnone', arrival, hthere, hstart, hstop⟩
      · rw [hnone'] at hother
        cases hother

end Booking.KeptAs

/-! ## 2. Facts that exclude one another -/

/-- An application has a date of submission and a withdrawal only if its status says so. -/
structure Application.Consistent (a : Application) : Prop where
  submittedOn : a.status = .inProgress → a.submittedOn = none
  withdrawal : a.isWithdrawn = false → a.withdrawal = none

/-- **Where an arrival is recorded, there is neither a cancellation nor a non-arrival.** -/
structure Booking.Consistent (b : Booking) : Prop where
  cancellation : b.arrival.isSome = true → b.cancellation = none
  nonArrival : b.arrival.isSome = true → b.nonArrival = none

/-- Everything recorded goes together. -/
structure Store.Consistent (store : Store) : Prop where
  applications : ∀ a ∈ store.applications.rows, a.Consistent
  bookings : ∀ b ∈ store.bookings.rows, b.Consistent

theorem Application.IsNew.consistent {a : Application} (h : a.IsNew) : a.Consistent :=
  ⟨fun _ => h.submittedOn, fun _ => h.withdrawal⟩

theorem Booking.consistent_of_awaiting {b : Booking} (h : Bookings.awaitingObstacle b = none) :
    b.Consistent := by
  obtain ⟨_, hnonArrival, hcancellation⟩ := Bookings.awaitingObstacle_eq_none h
  exact ⟨fun _ => hcancellation, fun _ => hnonArrival⟩

/-! ## 3. One change -/

namespace Application.Change

variable {a a' : Application} (h : a.Change a')

include h

theorem consistent (ha : a.Consistent) : a'.Consistent := by
  cases h with
  | same => exact ha
  | submission on hstatus =>
    refine ⟨(nomatch ·), fun _ => ha.withdrawal ?_⟩
    simp [isWithdrawn, hstatus]
  | withdrawal withdrawal hlive => exact ⟨(nomatch ·), (nomatch ·)⟩

theorem keptAs (ha : a.Consistent) : a.KeptAs a' := by
  cases h with
  | same => exact .refl a
  | submission on hstatus =>
    refine ⟨rfl, rfl, rfl, .of_eq_none (ha.submittedOn hstatus), .refl _, ?_⟩
    rw [hstatus]
    exact .submit
  | withdrawal withdrawal hlive =>
    exact ⟨rfl, rfl, rfl, .refl _, .of_eq_none (ha.withdrawal hlive), .withdraw _⟩

end Application.Change

theorem Assessment.Change.keptAs {a a' : Assessment} (h : a.Change a') : a.KeptAs a' := by
  cases h with
  | same => exact .refl a
  | decision decision hpending =>
    have hnone := (isPending_iff.1 hpending).1
    exact ⟨rfl, rfl, rfl, .of_eq_none hnone, .refl _, fun h => h⟩
  | reallocation on hpending =>
    have hnone := (isPending_iff.1 hpending).2.1
    exact ⟨rfl, rfl, rfl, .refl _, .of_eq_none hnone, fun h => h⟩
  | withdrawal hopen => exact ⟨rfl, rfl, rfl, .refl _, .refl _, fun _ => rfl⟩

theorem PlacementApplication.Change.keptAs {p p' : PlacementApplication} (h : p.Change p') :
    p.KeptAs p' := by
  cases h with
  | same => exact .refl p
  | decision decision hopen =>
    refine ⟨rfl, rfl, rfl, .of_eq_none ?_, .refl _⟩
    simpa using (Bool.or_eq_false_iff.1 hopen).2
  | withdrawal withdrawal hlive =>
    refine ⟨rfl, rfl, rfl, .refl _, .of_eq_none ?_⟩
    simpa [isWithdrawn] using hlive

theorem PlacementRequest.Change.keptAs {r r' : PlacementRequest} (h : r.Change r') :
    r.KeptAs r' := by
  cases h with
  | same => exact .refl r
  | withdrawal withdrawal hlive =>
    refine ⟨rfl, rfl, rfl, rfl, rfl, rfl, .of_eq_none ?_⟩
    simpa [isWithdrawn] using hlive

namespace Booking.Change

variable {b b' : Booking} (h : b.Change b')

include h

theorem keptAs : b.KeptAs b' := by
  cases h with
  | same => exact .refl b
  | arrival arrival hawaiting =>
    have hnone := (Bookings.awaitingObstacle_eq_none hawaiting).1
    exact ⟨rfl, rfl, rfl, rfl, rfl, rfl, rfl, .of_eq_none hnone, .refl _, .refl _,
      .inr ⟨hnone, arrival, rfl, rfl, rfl⟩⟩
  | nonArrival nonArrival hawaiting =>
    have hnone := (Bookings.awaitingObstacle_eq_none hawaiting).2.1
    exact ⟨rfl, rfl, rfl, rfl, rfl, rfl, rfl, .refl _, .of_eq_none hnone, .refl _,
      .inl ⟨rfl, rfl, rfl⟩⟩
  | cancellation cancellation hopen =>
    have hnone : b.cancellation = none := by
      simpa [isCancelled] using (isOpen_iff.1 hopen).2
    exact ⟨rfl, rfl, rfl, rfl, rfl, rfl, rfl, .refl _, .refl _, .of_eq_none hnone,
      .inl ⟨rfl, rfl, rfl⟩⟩

/-- No change of a booking records what another record of it excludes. -/
theorem consistent (hb : b.Consistent) : b'.Consistent := by
  cases h with
  | same => exact hb
  | arrival arrival hawaiting =>
    obtain ⟨_, hnonArrival, hcancellation⟩ := Bookings.awaitingObstacle_eq_none hawaiting
    exact ⟨fun _ => hcancellation, fun _ => hnonArrival⟩
  | nonArrival nonArrival hawaiting =>
    obtain ⟨hnone, _, hcancellation⟩ := Bookings.awaitingObstacle_eq_none hawaiting
    refine ⟨fun _ => hcancellation, fun ha => ?_⟩
    rw [hnone] at ha
    cases ha
  | cancellation cancellation hopen =>
    have hnone : b.arrival.isSome = false := (isOpen_iff.1 hopen).1
    constructor
    · intro ha
      exact absurd (hnone.symm.trans ha) Bool.false_ne_true
    · intro ha
      exact absurd (hnone.symm.trans ha) Bool.false_ne_true

end Booking.Change

/-! ## 4. The store -/

/-- **Every record is still there**, and with it what was recorded. -/
structure Store.KeptIn (store store' : Store) : Prop where
  applications : ∀ a ∈ store.applications.rows, ∃ a' ∈ store'.applications.rows, a.KeptAs a'
  assessments : ∀ a ∈ store.assessments.rows, ∃ a' ∈ store'.assessments.rows, a.KeptAs a'
  placementApplications : ∀ p ∈ store.placementApplications.rows,
    ∃ p' ∈ store'.placementApplications.rows, p.KeptAs p'
  placementRequests : ∀ r ∈ store.placementRequests.rows,
    ∃ r' ∈ store'.placementRequests.rows, r.KeptAs r'
  bookings : ∀ b ∈ store.bookings.rows, ∃ b' ∈ store'.bookings.rows, b.KeptAs b'

namespace Store

variable {store store' store'' : Store}

theorem KeptIn.refl (store : Store) : store.KeptIn store where
  applications a ha := ⟨a, ha, .refl a⟩
  assessments a ha := ⟨a, ha, .refl a⟩
  placementApplications p hp := ⟨p, hp, .refl p⟩
  placementRequests r hr := ⟨r, hr, .refl r⟩
  bookings b hb := ⟨b, hb, .refl b⟩

/-- What stays from a first list to a second one and from there to a third one stays altogether. -/
theorem exists_trans {α : Type} {rel : α → α → Prop}
    (htrans : ∀ x y z, rel x y → rel y z → rel x z) {xs ys zs : List α}
    (h : ∀ x ∈ xs, ∃ y ∈ ys, rel x y) (h' : ∀ y ∈ ys, ∃ z ∈ zs, rel y z) :
    ∀ x ∈ xs, ∃ z ∈ zs, rel x z := by
  intro x hx
  obtain ⟨y, hy, hxy⟩ := h x hx
  obtain ⟨z, hz, hyz⟩ := h' y hy
  exact ⟨z, hz, htrans x y z hxy hyz⟩

theorem KeptIn.trans (h : store.KeptIn store') (h' : store'.KeptIn store'') :
    store.KeptIn store'' where
  applications := exists_trans (fun _ _ _ => .trans) h.applications h'.applications
  assessments := exists_trans (fun _ _ _ => .trans) h.assessments h'.assessments
  placementApplications :=
    exists_trans (fun _ _ _ => .trans) h.placementApplications h'.placementApplications
  placementRequests := exists_trans (fun _ _ _ => .trans) h.placementRequests h'.placementRequests
  bookings := exists_trans (fun _ _ _ => .trans) h.bookings h'.bookings

namespace RevisedBy

variable {c : Call} (h : store.RevisedBy c store')

include h

theorem consistent (hs : store.Consistent) : store'.Consistent where
  applications a' ha' := by
    exact h.applications.forall_mem (fun _ _ hc ha => hc.consistent ha)
      (fun _ ha => ha.2.consistent) hs.applications a' ha'
  bookings b' hb' := by
    exact h.bookings.forall_mem (fun _ _ hc hb => hc.consistent hb)
      (fun _ hb => Booking.consistent_of_awaiting hb.2.1) hs.bookings b' hb'

theorem keptIn (hs : store.Consistent) : store.KeptIn store' where
  applications a ha := by
    obtain ⟨a', ha', hc⟩ := h.applications.stays a ha
    exact ⟨a', ha', hc.keptAs (hs.applications a ha)⟩
  assessments a ha := by
    obtain ⟨a', ha', hc⟩ := h.assessments.stays a ha
    exact ⟨a', ha', hc.keptAs⟩
  placementApplications p hp := by
    obtain ⟨p', hp', hc⟩ := h.placements.stays p hp
    exact ⟨p', hp', hc.keptAs⟩
  placementRequests r hr := by
    obtain ⟨r', hr', hc⟩ := h.requests.stays r hr
    exact ⟨r', hr', hc.keptAs⟩
  bookings b hb := by
    obtain ⟨b', hb', hc⟩ := h.bookings.stays b hb
    exact ⟨b', hb', hc.keptAs⟩

end RevisedBy

end Store

/-! ## 5. Runs -/

theorem World.unused_oneBed : oneBed.store.Unused :=
  ⟨rfl, rfl, rfl, rfl, rfl, rfl⟩

namespace System

variable {world : World} {s t : System}

theorem Reaches.trans {s₀ : System} (h : s₀.Reaches s) (h' : s.Reaches t) : s₀.Reaches t := by
  induction h' with
  | start => exact h
  | step t u _ hs ih => exact .step t u ih hs

theorem Reaches.consistent (h₀ : world.store.Unused) (h : (idle world).Reaches s) :
    s.world.store.Consistent := by
  refine h.due_invariant (fun _ _ _ hc hs => hc.revisedBy.consistent hs) h₀.sound ⟨?_, ?_⟩
  · rw [h₀.applications]
    exact fun _ ha => absurd ha List.not_mem_nil
  · rw [h₀.bookings]
    exact fun _ hb => absurd hb List.not_mem_nil

/-- **In every run each state has all that an earlier one had**, and no booking has an arrival
    together with a cancellation or a non-arrival. -/
theorem reaches_keptIn (h₀ : world.store.Unused) (hs : (idle world).Reaches s) (ht : s.Reaches t) :
    s.world.store.KeptIn t.world.store ∧ s.world.store.Consistent := by
  refine ⟨?_, hs.consistent h₀⟩
  induction ht with
  | start => exact .refl _
  | step t u hr hstep ih =>
    rcases (hs.trans hr).due_step h₀.sound hstep with e | ⟨c, hc, e⟩
    · rw [e]
      exact ih
    · rw [e]
      exact ih.trans (hc.revisedBy.keptIn ((hs.trans hr).consistent h₀))

/-- A bed is booked. A second client is about to record an arrival for the booking, and a third one
    to cancel it. -/
def booked : System :=
  let booking : BookingId := .numbered .booking 1
  (arrived .oneBed
    [.linkedBooking ⟨"premises-1"⟩
      ⟨"X320741", ⟨"bed-1"⟩, Date.first.later 0, Date.first.later 4⟩ .none Date.first,
    .action .default .first
      (.recordArrival ⟨"premises-1"⟩ booking ⟨Date.first.later 1, Date.first.later 5, none⟩),
    .action .default .first
      (.cancelBooking ⟨"premises-1"⟩ booking ⟨.first, .noCapacity, none⟩)]).follow [0, 0, 0, 0, 0]

/-- Both have read the booking before either writes; the cancellation comes second and is refused. -/
theorem booked_keptIn :
    (booked.follow [1, 2, 1, 2]).world.store.bookings.rows.map
        (fun b => (b.arrival.isSome, b.cancellation.isSome)) = [(true, false)] ∧
      booked.world.store.KeptIn (booked.follow [1, 2, 1, 2]).world.store ∧
      booked.world.store.Consistent :=
  ⟨by decide +kernel, reaches_keptIn World.unused_oneBed
    (reaches_follow (reaches_arrived _ _) _) (reaches_follow .start _)⟩

end System

end Bedspace
