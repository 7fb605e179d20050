import Bedspace.Proofs.Rewriting

/-!
# What the services write

Whatever a client asks for, the calls made for it read, or write one of the records listed here
(`Call.Served`), each after the checks that stand beside it. The records and trees a check speaks of
were read from some store before; what the store has become since is not said.

* `Call.Served.revises`, `Call.Served.change`: a tree is written over by a revision of it only, a
  booking by one change of it;
* **`ServiceRequest.rightful`**: every request makes such calls only, each with the rights that it
  has by then, of which it has `ServiceRequest.rights` when it arrives; so a property of runs has to
  be looked at for these calls and for nothing else.
-/

namespace Bedspace

/-! ## 1. The calls -/

/-- A tree that was read, of an application that was not withdrawn then. -/
def Tree.ReadLive (tree : Tree) : Prop :=
  (∃ (store : Store) (id : ApplicationId), store.tree? id = some tree) ∧
    tree.application.isWithdrawn = false

/-- An assessment that still waited for its assessor when its tree was read. -/
def Tree.ReadPending (tree : Tree) (id : AssessmentId) : Prop :=
  tree.ReadLive ∧ ∃ a, tree.assessments.find? (fun a => a.id = id) = some a ∧ a.isPending = true

/-- **A call that the services make.** -/
inductive Call.Served : Call → Prop where
  | read (c : Call) (h : c.reads = true) : Served c
  | book (store : Store) (inventory : Inventory) (n : Nat) (premises : PremisesId)
      (request : NewBooking) (links : BookingLinks) (today : Date)
      (hpremises : store.premises? premises = some inventory)
      (hactive : inventory.premises.isActive = true)
      (hrules : Bookings.creationRules inventory request = []) :
      Served (.insertBooking
        (Bookings.newBooking (.numbered .booking n) premises request links today))
  | takeOutOfService (store : Store) (inventory : Inventory) (n : Nat) (premises : PremisesId)
      (request : NewOutOfServicePeriod)
      (hpremises : store.premises? premises = some inventory)
      (hrules : Bookings.outOfServiceRules inventory request = []) :
      Served (.insertOutOfService
        { id := .numbered .outOfService n, premisesId := premises, bedId := request.bedId
          startDate := request.startDate, endDate := request.endDate, reason := request.reason
          notes := request.notes, cancelledOn := none })
  | cancelOutOfService (period : OutOfServicePeriod) (today : Date)
      (hlive : period.isCancelled = false) :
      Served (.replaceOutOfService { period with cancelledOn := some today })
  | recordArrival (current : Booking) (request : ArrivalRequest)
      (hawaiting : Bookings.awaitingObstacle current = none)
      (horder : request.arrivalDate < request.expectedDepartureDate) :
      Served (.replaceBooking current
        { current with
          arrivalDate := request.arrivalDate
          departureDate := request.expectedDepartureDate
          arrival := some ⟨request.arrivalDate, request.expectedDepartureDate, request.notes⟩ })
  | recordNonArrival (current : Booking) (request : NonArrivalRequest)
      (hawaiting : Bookings.awaitingObstacle current = none) :
      Served (.replaceBooking current
        { current with nonArrival := some ⟨request.date, request.reason, request.notes⟩ })
  | cancelBooking (current : Booking) (request : CancellationRequest)
      (hreason : request.reason.isCascaded = false) (harrival : current.hasArrival = false)
      (hlive : current.isCancelled = false) :
      Served (.replaceBooking current
        { current with cancellation := some ⟨request.date, request.reason, request.notes⟩ })
  | createApplication (n : Nat) (crn : String) (today : Date)
      (hcrn : Text.isEmptyTrimmed crn = false) :
      Served (.insertApplication
        { id := .numbered .application n, crn := Text.trim crn, status := .inProgress
          createdOn := today, submittedOn := none, withdrawal := none })
  | markSubmitted (id : ApplicationId) (today : Date) : Served (.markSubmitted id today)
  | allocate (store : Store) (id : ApplicationId) (tree : Tree) (n : Nat) (today : Date)
      (htree : store.tree? id = some tree) :
      Served (.saveTree tree
        (tree.addAssessment (Tree.newAssessment (.numbered .assessment n) id today)))
  | acceptAssessment (tree : Tree) (id : AssessmentId) (n : Nat) (dates : PlacementDates)
      (today : Date) (hpending : tree.ReadPending id) (hdays : dates.durationDays ≠ 0) :
      Served (.saveTree tree
        ((tree.decideAssessment id .accepted).addRequest
          (Tree.newRequest (.numbered .placementRequest n) tree.application.id none dates today)))
  | rejectAssessment (tree : Tree) (id : AssessmentId) (hpending : tree.ReadPending id) :
      Served (.saveTree tree (tree.decideAssessment id .rejected))
  | reallocateAssessment (tree : Tree) (id : AssessmentId) (n : Nat) (today : Date)
      (hpending : tree.ReadPending id) :
      Served (.saveTree tree
        ((tree.updateAssessment id fun a => { a with reallocatedOn := some today }).addAssessment
          (Tree.newAssessment (.numbered .assessment n) tree.application.id today)))
  | createPlacement (tree : Tree) (n : Nat) (today : Date) (hlive : tree.ReadLive)
      (haccepted : tree.acceptedAssessment?.isSome = true) :
      Served (.saveTree tree
        (tree.addPlacement
          { id := .numbered .placementApplication n, applicationId := tree.application.id
            createdOn := today, decision := none, withdrawal := none }))
  | rejectPlacement (tree : Tree) (id : PlacementApplicationId) (placement : PlacementApplication)
      (hlive : tree.ReadLive)
      (hfind : tree.placementApplications.find? (fun p => p.id = id) = some placement)
      (hopen : (placement.isWithdrawn || placement.decision.isSome) = false) :
      Served (.saveTree tree (tree.decidePlacement id .rejected))
  | acceptPlacement (tree : Tree) (id : PlacementApplicationId) (placement : PlacementApplication)
      (n : Nat) (dates : PlacementDates) (today : Date) (hlive : tree.ReadLive)
      (hfind : tree.placementApplications.find? (fun p => p.id = id) = some placement)
      (hopen : (placement.isWithdrawn || placement.decision.isSome) = false)
      (hdays : dates.durationDays ≠ 0) :
      Served (.saveTree tree
        ((tree.decidePlacement id .accepted).addRequest
          (Tree.newRequest (.numbered .placementRequest n) tree.application.id (some id) dates
            today)))
  | withdraw (store : Store) (id : ApplicationId) (tree tree' : Tree) (target : WithdrawalTarget)
      (reason : WithdrawalReason) (note : WithdrawalNote) (outcome : WithdrawalOutcome)
      (htree : store.tree? id = some tree) (hreason : reason.isCascaded = false)
      (hwithdraw : tree.withdraw target reason note = .ok (outcome, tree'))
      (hchanged : outcome.changed = true) : Served (.saveTree tree tree')

namespace Tree

variable {tree : Tree} {id : AssessmentId}

theorem ReadPending.amends_decide (h : tree.ReadPending id) (decision : Decision) :
    tree.Amends (tree.decideAssessment id decision) := by
  obtain ⟨_, a, hfind, hpending⟩ := h
  refine amends_updateAssessment fun x hx => ?_
  obtain rfl : a = x := Option.some.inj (hfind.symm.trans hx)
  exact .decision a decision hpending

theorem ReadPending.amends_reallocate (h : tree.ReadPending id) (on : Date) :
    tree.Amends (tree.updateAssessment id fun a => { a with reallocatedOn := some on }) := by
  obtain ⟨_, a, hfind, hpending⟩ := h
  refine amends_updateAssessment fun x hx => ?_
  obtain rfl : a = x := Option.some.inj (hfind.symm.trans hx)
  exact .reallocation a on hpending

end Tree

/-- **A tree is written over by a revision of it only.** -/
theorem Call.Served.revises {before after : Tree} (h : (Call.saveTree before after).Served) :
    before.Revises after := by
  cases h with
  | read _ h => cases h
  | allocate store id _ n today htree =>
    obtain ⟨hid, _⟩ := Store.stores_of_tree? htree
    exact (Tree.Amends.refl before).revises_addAssessment hid.symm rfl
  | acceptAssessment _ id n dates today hpending hdays =>
    exact (hpending.amends_decide .accepted).revises_addRequest rfl rfl
  | rejectAssessment _ id hpending => exact (hpending.amends_decide .rejected).revises
  | reallocateAssessment _ id n today hpending =>
    exact (hpending.amends_reallocate today).revises_addAssessment rfl rfl
  | createPlacement _ n today hlive haccepted =>
    exact (Tree.Amends.refl before).revises_addPlacement rfl rfl
  | rejectPlacement _ id placement hlive hfind hopen =>
    exact (Tree.amends_decidePlacement hfind hopen).revises
  | acceptPlacement _ id placement n dates today hlive hfind hopen hdays =>
    exact (Tree.amends_decidePlacement hfind hopen).revises_addRequest rfl rfl
  | withdraw store id _ _ target reason note outcome htree hreason hwithdraw hchanged =>
    obtain ⟨_, hstored⟩ := Store.stores_of_tree? htree
    exact (Tree.amends_withdraw hstored.distinctIds hwithdraw).revises

/-- **A booking is written over by one change of it only.** -/
theorem Call.Served.change {current updated : Booking}
    (h : (Call.replaceBooking current updated).Served) : current.Change updated := by
  cases h with
  | read _ h => cases h
  | recordArrival _ request hawaiting horder =>
    exact .arrival current ⟨request.arrivalDate, request.expectedDepartureDate, request.notes⟩
      hawaiting
  | recordNonArrival _ request hawaiting => exact .nonArrival current _ hawaiting
  | cancelBooking _ request hreason harrival hlive =>
    exact .cancellation current _ (Booking.isOpen_iff.2 ⟨harrival, hlive⟩)

/-- The first assessment of an application raises the number of those that stand. -/
theorem Call.Served.standing_lt {before after : Tree} (h : (Call.saveTree before after).Served)
    (hfirst : before.assessments = [])
    (hadded : after.assessments.drop before.assessments.length ≠ []) :
    before.standing < after.standing := by
  have not_amended {tree : Tree} (h : before.Amends tree)
      (hsame : after.assessments = tree.assessments) : before.standing < after.standing :=
    absurd (hsame ▸ drop_of_forall₂ h.assessments) hadded
  cases h with
  | read _ h => cases h
  | allocate store id _ n today htree =>
    rw [Tree.standing_addAssessment rfl]
    exact Nat.lt_succ_self _
  | acceptAssessment _ id n dates today hpending hdays =>
    exact not_amended (hpending.amends_decide .accepted) rfl
  | rejectAssessment _ id hpending => exact not_amended (hpending.amends_decide .rejected) rfl
  | reallocateAssessment _ id n today hpending =>
    obtain ⟨_, a, hfind, _⟩ := hpending
    rw [hfirst] at hfind
    cases hfind
  | createPlacement _ n today hlive haccepted => exact not_amended (.refl before) rfl
  | rejectPlacement _ id placement hlive hfind hopen =>
    exact not_amended (Tree.amends_decidePlacement hfind hopen) rfl
  | acceptPlacement _ id placement n dates today hlive hfind hopen hdays =>
    have h : before.Amends (before.decidePlacement id .accepted) :=
      Tree.amends_decidePlacement hfind hopen
    exact not_amended h rfl
  | withdraw store id _ _ target reason note outcome htree hreason hwithdraw hchanged =>
    obtain ⟨_, hstored⟩ := Store.stores_of_tree? htree
    exact not_amended (Tree.amends_withdraw hstored.distinctIds hwithdraw) rfl

/-! ## 2. Bookings -/

section Walk

open Operation

variable {held : Set Right}

namespace Bookings

theorem rightful_findPremises {id : PremisesId} {ends : Inventory → Set Right → Prop}
    (h : ∀ store inventory, Store.premises? store id = some inventory → ends inventory held) :
    (findPremises id).Rightful Call.Served held ends := by
  unfold findPremises
  refine rightful_bind.2 (rightful_read rfl (.read _ rfl) fun store found hfound => ?_)
  refine rightful_demand.2 fun inventory e => h store inventory ?_
  exact (Except.ok.inj hfound).trans e

theorem rightful_find {premises : PremisesId} {id : BookingId} {ends : Booking → Set Right → Prop}
    (h : ∀ booking, ends booking held) : (find premises id).Rightful Call.Served held ends := by
  unfold find
  refine rightful_bind.2 (rightful_read rfl (.read _ rfl) fun _ _ _ => ?_)
  exact rightful_demand.2 fun booking _ => h booking

theorem rightful_findOutOfService {premises : PremisesId} {id : OutOfServiceId}
    {ends : OutOfServicePeriod → Set Right → Prop} (h : ∀ period, ends period held) :
    (findOutOfService premises id).Rightful Call.Served held ends := by
  unfold findOutOfService
  refine rightful_bind.2 (rightful_read rfl (.read _ rfl) fun _ _ _ => ?_)
  exact rightful_demand.2 fun period _ => h period

theorem rightful_obey {params : InvalidParams} {ends : Unit → Set Right → Prop} :
    (obey params).Rightful Call.Served held ends ↔ (params = [] → ends () held) := by
  simp only [obey, rightful_failIf, Bool.not_eq_false', List.isEmpty_iff]

theorem rightful_ensureBedFree {bed : BedId} {range : DateRange} {ends : Unit → Set Right → Prop}
    (h : ends () held) : (ensureBedFree bed range).Rightful Call.Served held ends := by
  unfold ensureBedFree
  refine rightful_bind.2 (rightful_read rfl (.read _ rfl) fun _ _ _ => ?_)
  refine rightful_bind.2 (rightful_failWith.2 fun _ => ?_)
  refine rightful_bind.2 (rightful_read rfl (.read _ rfl) fun _ _ _ => ?_)
  exact rightful_failWith.2 fun _ => h

theorem rightful_ensureAwaiting {booking : Booking} {ends : Unit → Set Right → Prop} :
    (ensureAwaiting booking).Rightful Call.Served held ends ↔
      (awaitingObstacle booking = none → ends () held) := by
  simp only [ensureAwaiting, rightful_failWith, Option.map_eq_none_iff]

/-- Writing over a booking that was read needs no rights. -/
theorem rightful_replace {current updated : Booking}
    (h : (Call.replaceBooking current updated).Served) :
    (replace current updated).Rightful Call.Served held fun _ _ => True := by
  unfold replace
  refine rightful_bind.2 (rightful_call.2 ⟨⟨h, Set.empty_subset _⟩, fun _ _ _ => ?_⟩)
  exact rightful_pure.2 trivial

theorem rightful_list {premises : PremisesId} :
    (list premises).Rightful Call.Served held fun _ _ => True := by
  unfold list
  refine rightful_bind.2 (rightful_findPremises fun _ _ _ => ?_)
  refine rightful_bind.2 (rightful_read rfl (.read _ rfl) fun _ _ _ => ?_)
  exact rightful_pure.2 trivial

/-- A booking is made under an identifier issued for it, and with links that one has a right to. -/
theorem rightful_create {premises : PremisesId} {request : NewBooking} {links : BookingLinks}
    {today : Date} (hlinks : links ≠ .none → Right.booking links ∈ held) :
    (create premises request links today).Rightful Call.Served held fun _ _ => True := by
  unfold create
  refine rightful_bind.2 (rightful_findPremises fun store inventory hpremises => ?_)
  refine rightful_bind.2 (rightful_failIf.2 fun hactive => ?_)
  refine rightful_bind.2 (rightful_obey.2 fun hrules => ?_)
  refine rightful_bind.2 (rightful_ensureBedFree (rightful_bind.2 (rightful_issue.2 fun n => ?_)))
  refine rightful_call.2 ⟨⟨?_, ?_⟩, fun _ _ _ => trivial⟩
  · exact .book store inventory n premises request links today hpremises (by simpa using hactive)
      hrules
  · rintro right (rfl | ⟨hlinked, rfl⟩)
    · exact Set.mem_insert _ _
    · exact Set.mem_insert_of_mem _ (hlinks hlinked)

theorem rightful_takeOutOfService {premises : PremisesId} {request : NewOutOfServicePeriod} :
    (takeOutOfService premises request).Rightful Call.Served held fun _ _ => True := by
  unfold takeOutOfService
  refine rightful_bind.2 (rightful_findPremises fun store inventory hpremises => ?_)
  refine rightful_bind.2 (rightful_obey.2 fun hrules => ?_)
  refine rightful_bind.2 (rightful_ensureBedFree (rightful_bind.2 (rightful_issue.2 fun n => ?_)))
  refine rightful_call.2 ⟨⟨?_, ?_⟩, fun _ _ _ => trivial⟩
  · exact .takeOutOfService store inventory n premises request hpremises hrules
  · exact Set.singleton_subset_iff.2 (Set.mem_insert _ _)

theorem rightful_cancelOutOfService {premises : PremisesId} {id : OutOfServiceId} {today : Date} :
    (cancelOutOfService premises id today).Rightful Call.Served held fun _ _ => True := by
  unfold cancelOutOfService
  refine rightful_bind.2 (rightful_findOutOfService fun period => ?_)
  split
  · exact rightful_pure.2 trivial
  · rename_i hlive
    refine rightful_bind.2 (rightful_call.2 ⟨⟨?_, Set.empty_subset _⟩, fun _ _ _ => ?_⟩)
    · exact .cancelOutOfService period today (by simpa using hlive)
    · exact rightful_pure.2 trivial

theorem rightful_recordArrival {premises : PremisesId} {id : BookingId} {request : ArrivalRequest} :
    (recordArrival premises id request).Rightful Call.Served held fun _ _ => True := by
  unfold recordArrival
  refine rightful_bind.2 (rightful_find fun current => ?_)
  refine rightful_bind.2 (rightful_ensureAwaiting.2 fun hawaiting => ?_)
  refine rightful_bind.2 (rightful_obey.2 fun horder => rightful_replace ?_)
  refine .recordArrival current request hawaiting ?_
  have : ¬ request.expectedDepartureDate ≤ request.arrivalDate := by
    simpa [outOfOrder] using InvalidParams.noteIf_eq_nil.1 horder
  exact Int.not_le.1 this

theorem rightful_recordNonArrival {premises : PremisesId} {id : BookingId}
    {request : NonArrivalRequest} :
    (recordNonArrival premises id request).Rightful Call.Served held fun _ _ => True := by
  unfold recordNonArrival
  refine rightful_bind.2 (rightful_find fun current => ?_)
  refine rightful_bind.2 (rightful_ensureAwaiting.2 fun hawaiting => ?_)
  refine rightful_bind.2 (rightful_obey.2 fun _ => rightful_replace ?_)
  exact .recordNonArrival current request hawaiting

theorem rightful_cancel {premises : PremisesId} {id : BookingId} {request : CancellationRequest} :
    (cancel premises id request).Rightful Call.Served held fun _ _ => True := by
  unfold cancel
  refine rightful_bind.2 (rightful_obey.2 fun hreason => ?_)
  refine rightful_bind.2 (rightful_find fun current => ?_)
  refine rightful_bind.2 (rightful_failIf.2 fun harrival => ?_)
  have hreason : request.reason.isCascaded = false := InvalidParams.noteIf_eq_nil.1 hreason
  split
  · exact rightful_pure.2 trivial
  · rename_i hlive
    refine rightful_replace (.cancelBooking current request hreason harrival ?_)
    simpa using hlive

end Bookings

/-! ## 3. Applications -/

namespace Applications

/-- A tree is found if some store had it for an application; bookings can be made for its placement
    requests then. -/
theorem rightful_findTree {id : ApplicationId} {ends : Tree → Set Right → Prop}
    (h : ∀ store tree, Store.tree? store id = some tree → ends tree (held ∪ tree.bookable)) :
    (findTree id).Rightful Call.Served held ends := by
  unfold findTree
  refine rightful_bind.2 (rightful_read rfl (.read _ rfl) fun store found hfound => ?_)
  refine rightful_demand.2 fun tree e => ?_
  subst e
  exact h store tree (Except.ok.inj hfound)

theorem rightful_findTreeOf {entity : Entity} {ends : Tree → Set Right → Prop}
    (h : ∀ (store : Store) id tree, store.tree? id = some tree →
      ends tree (held ∪ tree.bookable)) :
    (findTreeOf entity).Rightful Call.Served held ends := by
  unfold findTreeOf
  refine rightful_bind.2 (rightful_read rfl (.read _ rfl) fun _ _ _ => ?_)
  refine rightful_bind.2 (rightful_demand.2 fun id _ => ?_)
  exact rightful_findTree fun store tree htree => h store id tree htree

/-- A tree is written with rights to name its new nodes, if no more assessments stand in it. -/
theorem rightful_save {snapshot updated : Tree} {ends : Unit → Set Right → Prop}
    (h : (Call.saveTree snapshot updated).Served)
    (hadded : ∀ right ∈ snapshot.added updated, right ∈ held)
    (hstanding : updated.standing = snapshot.standing) (he : ends () ∅) :
    (save snapshot updated).Rightful Call.Served held ends := by
  unfold save
  refine rightful_call.2 ⟨⟨h, ?_⟩, fun _ _ _ => he⟩
  rintro right (hright | ⟨hrise, _⟩)
  · exact hadded right hright
  · exact absurd (hstanding ▸ hrise) (Nat.lt_irrefl _)

theorem rightful_obey {params : InvalidParams} {ends : Unit → Set Right → Prop} :
    (obey params).Rightful Call.Served held ends ↔ (params = [] → ends () held) := by
  simp only [obey, rightful_failIf, Bool.not_eq_false', List.isEmpty_iff]

theorem rightful_ensureLive {tree : Tree} {ends : Unit → Set Right → Prop} :
    (ensureLive tree).Rightful Call.Served held ends ↔
      (tree.application.isWithdrawn = false → ends () held) := by
  unfold ensureLive
  exact rightful_failIf

theorem rightful_ensureNights {dates : PlacementDates} {property : String}
    {ends : Unit → Set Right → Prop} :
    (ensureNights dates property).Rightful Call.Served held ends ↔
      (dates.durationDays ≠ 0 → ends () held) := by
  unfold ensureNights
  rw [rightful_obey]
  simp [InvalidParams.noteIf_eq_nil]

/-- What is found for an assessment is a tree in which it waits for its assessor. -/
theorem rightful_findPending {id : AssessmentId} {ends : Tree → Set Right → Prop}
    (h : ∀ tree, tree.ReadPending id → ends tree (held ∪ tree.bookable)) :
    (findPending id).Rightful Call.Served held ends := by
  unfold findPending
  refine rightful_bind.2 (rightful_findTreeOf fun store application tree htree => ?_)
  refine rightful_bind.2 (rightful_ensureLive.2 fun hlive => ?_)
  refine rightful_bind.2 (rightful_demand.2 fun assessment hfind => ?_)
  refine rightful_bind.2 (rightful_failIf.2 fun hpending => rightful_pure.2 (h tree ?_))
  exact ⟨⟨⟨store, application, htree⟩, hlive⟩, assessment, hfind, by simpa using hpending⟩

theorem rightful_create {crn : String} {today : Date} :
    (create crn today).Rightful Call.Served held fun _ _ => True := by
  unfold create
  refine rightful_bind.2 (rightful_obey.2 fun hcrn => rightful_bind.2 (rightful_issue.2 fun n => ?_))
  refine rightful_call.2 ⟨⟨.createApplication n crn today ?_, ?_⟩, fun _ _ _ => trivial⟩
  · exact InvalidParams.noteIf_eq_nil.1 hcrn
  · exact Set.singleton_subset_iff.2 (Set.mem_insert _ _)

/-- The first assessment is allocated with the right that comes from having submitted. -/
theorem rightful_submit {id : ApplicationId} {today : Date} :
    (submit id today).Rightful Call.Served held fun _ _ => True := by
  unfold submit
  refine rightful_bind.2 (rightful_call.2
    ⟨⟨.markSubmitted id today, Set.empty_subset _⟩, fun _ _ _ => ?_⟩)
  refine rightful_bind.2 (rightful_findTree fun store tree htree => ?_)
  refine rightful_bind.2 (rightful_issue.2 fun n => rightful_bind.2 ?_)
  unfold save
  refine rightful_call.2 ⟨⟨.allocate store id tree n today htree, ?_⟩, fun _ _ _ => ?_⟩
  · rintro right (hright | ⟨_, rfl⟩)
    · rw [(Tree.Amends.refl tree).added_addAssessment, List.mem_singleton] at hright
      exact hright ▸ Set.mem_insert _ _
    · rw [(Store.stores_of_tree? htree).1]
      exact Set.mem_insert_of_mem _ (.inl rfl)
  · exact rightful_pure.2 trivial

theorem rightful_acceptAssessment {id : AssessmentId} {dates : PlacementDates} {today : Date} :
    (acceptAssessment id dates today).Rightful Call.Served held fun _ _ => True := by
  unfold acceptAssessment
  refine rightful_bind.2 (rightful_ensureNights.2 fun hdays => ?_)
  refine rightful_bind.2 (rightful_findPending fun tree hpending => ?_)
  refine rightful_bind.2 (rightful_issue.2 fun n => rightful_bind.2 ?_)
  refine rightful_save (.acceptAssessment tree id n dates today hpending hdays)
    (fun right hright => ?_) ?_ (rightful_pure.2 trivial)
  · rw [(hpending.amends_decide .accepted).added_addRequest, List.mem_singleton] at hright
    exact hright ▸ Set.mem_insert _ _
  · obtain ⟨_, a, hfind, _⟩ := hpending
    exact Tree.standing_decideAssessment hfind

theorem rightful_rejectAssessment {id : AssessmentId} :
    (rejectAssessment id).Rightful Call.Served held fun _ _ => True := by
  unfold rejectAssessment
  refine rightful_bind.2 (rightful_findPending fun tree hpending => rightful_bind.2 ?_)
  refine rightful_save (.rejectAssessment tree id hpending) (fun right hright => ?_) ?_
    (rightful_pure.2 trivial)
  · rw [(hpending.amends_decide .rejected).added] at hright
    exact absurd hright List.not_mem_nil
  · obtain ⟨_, a, hfind, _⟩ := hpending
    exact Tree.standing_decideAssessment hfind

theorem rightful_reallocateAssessment {id : AssessmentId} {today : Date} :
    (reallocateAssessment id today).Rightful Call.Served held fun _ _ => True := by
  unfold reallocateAssessment
  refine rightful_bind.2 (rightful_findPending fun tree hpending => ?_)
  refine rightful_bind.2 (rightful_issue.2 fun n => rightful_bind.2 ?_)
  refine rightful_save (.reallocateAssessment tree id n today hpending) (fun right hright => ?_) ?_
    (rightful_pure.2 trivial)
  · rw [(hpending.amends_reallocate today).added_addAssessment, List.mem_singleton] at hright
    exact hright ▸ Set.mem_insert _ _
  · obtain ⟨_, a, hfind, ha⟩ := hpending
    exact Tree.standing_reallocate hfind ha rfl

theorem rightful_createPlacement {application : ApplicationId} {today : Date} :
    (createPlacement application today).Rightful Call.Served held fun _ _ => True := by
  unfold createPlacement
  refine rightful_bind.2 (rightful_findTree fun store tree htree => ?_)
  refine rightful_bind.2 (rightful_ensureLive.2 fun hlive => ?_)
  refine rightful_bind.2 (rightful_failIf.2 fun haccepted => ?_)
  refine rightful_bind.2 (rightful_issue.2 fun n => rightful_bind.2 ?_)
  refine rightful_save (.createPlacement tree n today ⟨⟨store, application, htree⟩, hlive⟩ ?_)
    (fun right hright => ?_) rfl (rightful_pure.2 trivial)
  · rw [← Option.not_isNone, haccepted]
    rfl
  · rw [(Tree.Amends.refl tree).added_addPlacement, List.mem_singleton] at hright
    exact hright ▸ Set.mem_insert _ _

theorem rightful_decidePlacement {id : PlacementApplicationId} {decision : PlacementDecision}
    {today : Date} :
    (decidePlacement id decision today).Rightful Call.Served held fun _ _ => True := by
  unfold decidePlacement
  refine rightful_bind.2 (rightful_findTreeOf fun store application tree htree => ?_)
  refine rightful_bind.2 (rightful_ensureLive.2 fun hlive => ?_)
  refine rightful_bind.2 (rightful_demand.2 fun placement hfind => ?_)
  refine rightful_bind.2 (rightful_failIf.2 fun hopen => rightful_bind.2 ?_)
  have hlive : tree.ReadLive := ⟨⟨store, application, htree⟩, hlive⟩
  cases decision with
  | rejected =>
    refine rightful_pure.2 (rightful_bind.2 ?_)
    refine rightful_save (.rejectPlacement tree id placement hlive hfind hopen)
      (fun right hright => ?_) rfl (rightful_pure.2 trivial)
    rw [(Tree.amends_decidePlacement hfind hopen).added] at hright
    exact absurd hright List.not_mem_nil
  | accepted dates =>
    refine rightful_bind.2 (rightful_ensureNights.2 fun hdays => ?_)
    refine rightful_bind.2 (rightful_issue.2 fun n => rightful_pure.2 (rightful_bind.2 ?_))
    refine rightful_save (.acceptPlacement tree id placement n dates today hlive hfind hopen hdays)
      (fun right hright => ?_) rfl (rightful_pure.2 trivial)
    rw [(Tree.amends_decidePlacement hfind hopen).added_addRequest, List.mem_singleton] at hright
    exact hright ▸ Set.mem_insert _ _

/-- A booking for a placement request is made with the right that comes from its tree. -/
theorem rightful_bookRequest {id : PlacementRequestId} {request : PlacementBooking}
    {today : Date} : (bookRequest id request today).Rightful Call.Served held fun _ _ => True := by
  unfold bookRequest
  refine rightful_bind.2 (rightful_findTreeOf fun _ _ tree _ => ?_)
  refine rightful_bind.2 (rightful_ensureLive.2 fun _ => ?_)
  refine rightful_bind.2 (rightful_demand.2 fun placement hfind => ?_)
  refine rightful_bind.2 (rightful_failIf.2 fun _ => ?_)
  refine rightful_bind.2 (rightful_failWith.2 fun _ => ?_)
  refine rightful_adapt.2 (Bookings.rightful_create fun _ => .inr ⟨placement, ?_, ?_⟩)
  · exact List.mem_of_find?_eq_some hfind
  · have hid : placement.id = id := by simpa using List.find?_some hfind
    rw [hid]

theorem rightful_withdrawables {id : ApplicationId} :
    (withdrawables id).Rightful Call.Served held fun _ _ => True := by
  unfold withdrawables
  exact rightful_bind.2 (rightful_findTree fun _ _ _ => rightful_pure.2 trivial)

theorem rightful_withdraw {target : WithdrawalTarget} {request : WithdrawalRequest} {today : Date} :
    (withdraw target request today).Rightful Call.Served held fun _ _ => True := by
  unfold withdraw
  refine rightful_bind.2 (rightful_obey.2 fun hreason => ?_)
  refine rightful_bind.2 (rightful_findTreeOf fun store application tree htree => ?_)
  have hreason : request.reason.isCascaded = false := InvalidParams.noteIf_eq_nil.1 hreason
  split
  · exact rightful_throw
  · rename_i outcome tree' hwithdraw
    have hids : tree.DistinctIds := (Store.stores_of_tree? htree).2.distinctIds
    -- Only an outcome that changed something is written.
    dsimp only
    by_cases hchanged : outcome.changed = true
    · rw [if_pos hchanged]
      refine rightful_bind.2 (rightful_save ?_ (fun right hright => ?_)
        (Tree.standing_withdraw hids hwithdraw) (rightful_pure.2 trivial))
      · exact .withdraw store application tree tree' target request.reason ⟨today, request.notes⟩
          outcome htree hreason hwithdraw hchanged
      · rw [(Tree.amends_withdraw hids hwithdraw).added] at hright
        exact absurd hright List.not_mem_nil
    · rw [if_neg hchanged]
      exact rightful_pure.2 trivial

end Applications

/-! ## 4. Premises and searches -/

theorem rightful_request {c : Call} (h : c.reads = true) {ends : c.Answer → Set Right → Prop}
    (he : ∀ a, ends a (c.leaves held a)) :
    Operation.Rightful (α := no_index c.Answer) Call.Served (request c) held ends :=
  rightful_read h (.read c h) fun _ a _ => he a

namespace Premises

theorem rightful_gather {services : List Service} {ends : List Inventory → Set Right → Prop}
    (h : ∀ found, ends found held) : (gather services).Rightful Call.Served held ends := by
  induction services generalizing ends with
  | nil => exact rightful_pure.2 (h [])
  | cons service services ih =>
    refine rightful_bind.2 (rightful_request rfl fun found => ?_)
    exact rightful_bind.2 (ih fun others => rightful_pure.2 (h (found ++ others)))

theorem rightful_list {service : Option Service} :
    (list service).Rightful Call.Served held fun _ _ => True := by
  unfold list
  exact rightful_bind.2 (rightful_gather fun _ => rightful_pure.2 trivial)

theorem rightful_find {id : PremisesId} :
    (find id).Rightful Call.Served held fun _ _ => True := by
  unfold find
  refine rightful_bind.2 (rightful_request rfl fun _ => ?_)
  exact rightful_bind.2 (rightful_demand.2 fun _ _ => rightful_pure.2 trivial)

end Premises

namespace BedSearch

theorem rightful_obey {params : InvalidParams} {ends : Unit → Set Right → Prop} :
    (obey params).Rightful Call.Served held ends ↔ (params = [] → ends () held) := by
  simp only [obey, rightful_failIf, Bool.not_eq_false', List.isEmpty_iff]

theorem rightful_readOccupancy {estate : List Inventory} {range : DateRange}
    {turnaround : PremisesId → Nat} {ends : Occupancy → Set Right → Prop}
    (h : ∀ occupancy, ends occupancy held) :
    (readOccupancy estate range turnaround).Rightful Call.Served held ends := by
  unfold readOccupancy
  refine rightful_bind.2 (rightful_read rfl (.read _ rfl) fun _ _ _ => ?_)
  refine rightful_bind.2 (rightful_read rfl (.read _ rfl) fun _ _ _ => ?_)
  exact rightful_pure.2 (h _)

theorem rightful_findApprovedPremises {miles : Float} {search : ApprovedPremisesSearch}
    {ends : List ApprovedPremisesBed → Set Right → Prop} (h : ∀ beds, ends beds held) :
    (findApprovedPremises miles search).Rightful Call.Served held ends := by
  unfold findApprovedPremises
  refine rightful_bind.2 (rightful_obey.2 fun _ => ?_)
  refine rightful_bind.2 (rightful_read rfl (.read _ rfl) fun _ _ _ => ?_)
  refine rightful_bind.2 (rightful_demand.2 fun _ _ => ?_)
  refine rightful_bind.2 (rightful_read rfl (.read _ rfl) fun _ _ _ => ?_)
  exact rightful_bind.2 (rightful_readOccupancy fun _ => rightful_pure.2 (h _))

theorem rightful_findTemporaryAccommodation {search : TemporaryAccommodationSearch}
    {ends : List TemporaryAccommodationGroup → Set Right → Prop} (h : ∀ groups, ends groups held) :
    (findTemporaryAccommodation search).Rightful Call.Served held ends := by
  unfold findTemporaryAccommodation
  refine rightful_bind.2 (rightful_obey.2 fun _ => ?_)
  refine rightful_bind.2 (rightful_read rfl (.read _ rfl) fun _ _ _ => ?_)
  exact rightful_bind.2 (rightful_readOccupancy fun _ => rightful_pure.2 (h _))

theorem rightful_find {miles : Float} {search : BedSearch} :
    (search.find miles).Rightful Call.Served held fun _ _ => True := by
  cases search with
  | approvedPremises search =>
    exact rightful_bind.2 (rightful_findApprovedPremises fun _ => rightful_pure.2 trivial)
  | temporaryAccommodation search =>
    exact rightful_bind.2 (rightful_findTemporaryAccommodation fun _ => rightful_pure.2 trivial)

end BedSearch

/-! ## 5. Every request -/

namespace Action

theorem rightful_replying {ε α : Type} {wrap : ε → ActionError} {reply : α → Reply}
    {op : Operation ε α} (h : op.Rightful Call.Served held fun _ _ => True) :
    (replying wrap reply op).Rightful Call.Served held fun _ _ => True := by
  unfold replying
  exact rightful_adapt.2 (rightful_map.2 h)

/-- An action needs no rights when it is asked for. -/
theorem rightful_perform {settings : SearchSettings} {today : Date} (action : Action) :
    (action.perform settings today).Rightful Call.Served held fun _ _ => True := by
  cases action with
  | listPremises service criteria => exact rightful_replying Premises.rightful_list
  | showPremises id => exact rightful_replying Premises.rightful_find
  | listBookings premises criteria => exact rightful_replying Bookings.rightful_list
  | createBooking premises request =>
    exact rightful_replying (Bookings.rightful_create fun hlinked => absurd rfl hlinked)
  | showBooking premises id => exact rightful_replying (Bookings.rightful_find fun _ => trivial)
  | recordArrival premises id request => exact rightful_replying Bookings.rightful_recordArrival
  | recordNonArrival premises id request =>
    exact rightful_replying Bookings.rightful_recordNonArrival
  | cancelBooking premises id request => exact rightful_replying Bookings.rightful_cancel
  | takeOutOfService premises request =>
    exact rightful_replying Bookings.rightful_takeOutOfService
  | cancelOutOfService premises id =>
    exact rightful_replying Bookings.rightful_cancelOutOfService
  | searchBeds search => exact rightful_replying BedSearch.rightful_find
  | createApplication crn => exact rightful_replying Applications.rightful_create
  | showApplication id =>
    exact rightful_replying (Applications.rightful_findTree fun _ _ _ => trivial)
  | submit id => exact rightful_replying Applications.rightful_submit
  | listWithdrawables id => exact rightful_replying Applications.rightful_withdrawables
  | withdraw target request => exact rightful_replying Applications.rightful_withdraw
  | acceptAssessment id dates => exact rightful_replying Applications.rightful_acceptAssessment
  | rejectAssessment id => exact rightful_replying Applications.rightful_rejectAssessment
  | reallocateAssessment id =>
    exact rightful_replying Applications.rightful_reallocateAssessment
  | createPlacement application => exact rightful_replying Applications.rightful_createPlacement
  | decidePlacement id decision => exact rightful_replying Applications.rightful_decidePlacement
  | bookRequest id request => exact rightful_replying Applications.rightful_bookRequest

end Action

end Walk

namespace ServiceRequest

/-- The rights with which a request arrives: the links of a booking are given with it. -/
def rights : ServiceRequest → Set Right
  | .action _ _ _ => ∅
  | .linkedBooking _ _ links _ => {.booking links}

/-- **Every request makes only the calls that are listed, with the rights that it has by then**,
    whatever the answers to them are. -/
theorem rightful (request : ServiceRequest) :
    request.program.Rightful Call.Served (fun _ _ => True) request.rights := by
  have h : request.operation.Rightful Call.Served request.rights fun _ _ => True := by
    cases request with
    | action settings today wanted => exact wanted.rightful_perform
    | linkedBooking premises request links today =>
      exact Action.rightful_replying (Bookings.rightful_create fun _ => rfl)
  exact Program.rightful_mono (fun _ _ _ => trivial) h

/-- Every request makes only the calls that are listed. -/
theorem within_served (request : ServiceRequest) :
    request.program.Within Call.Served fun _ => True :=
  request.rightful.within

end ServiceRequest

end Bedspace
