import Bedspace.Proofs.InTurn
import Bedspace.Proofs.Runs

/-!
# Requests that fail

Almost every operation reads what it needs, makes up its mind and writes once, as its last call. So
if it fails, nothing has been written: the write was not reached, or it was refused, and a call that
is refused leaves the store as it was.

* `Program.ReadsOnly` and `Program.WritesLast` say so of a program, whatever the answers to its
  calls are; the same of operations follows from their parts;
* `Program.WritesLast.leads`: such a program has written nothing yet, or has ended well;
* **`ServiceRequest.store_eq_of_error`**: a request that fails leaves the store as it was, unless it
  is a submission. A submission writes twice.
-/

namespace Bedspace

/-! ## 1. Programs -/

namespace Program

variable {α β ε ε' : Type}

/-- A program that never writes. -/
def ReadsOnly : Program α → Prop
  | done _ => True
  | call c next => c.reads = true ∧ ∀ answer, (next answer).ReadsOnly
  | issue _ next => ∀ id, (next id).ReadsOnly

/-- **A program that writes last**: once a write was carried out, it ends without an error. -/
def WritesLast : Program (Except ε α) → Prop
  | done _ => True
  | call c next =>
    (∀ e, (next (.error e)).WritesLast) ∧
      ∀ answer, c.reads = true ∧ (next (.ok answer)).WritesLast ∨
        ∃ a, next (.ok answer) = .done (.ok a)
  | issue _ next => ∀ id, (next id).WritesLast

theorem ReadsOnly.bind {p : Program α} {f : α → Program β} (h : p.ReadsOnly)
    (hf : ∀ a, (f a).ReadsOnly) : (p.bind f).ReadsOnly := by
  induction p with
  | done a => exact hf a
  | call c next ih => exact ⟨h.1, fun answer => ih answer (h.2 answer)⟩
  | issue kind next ih => exact fun id => ih id (h id)

/-- What comes after a program that never writes may write last. -/
theorem ReadsOnly.bind_writesLast {p : Program α} {f : α → Program (Except ε β)} (h : p.ReadsOnly)
    (hf : ∀ a, (f a).WritesLast) : (p.bind f).WritesLast := by
  induction p with
  | done a => exact hf a
  | call c next ih =>
    obtain ⟨hreads, hnext⟩ := h
    exact ⟨fun e => ih _ (hnext _), fun answer => .inl ⟨hreads, ih _ (hnext _)⟩⟩
  | issue kind next ih => exact fun id => ih id (h id)

theorem ReadsOnly.writesLast {p : Program (Except ε α)} (h : p.ReadsOnly) : p.WritesLast := by
  rw [← p.bind_done]
  exact h.bind_writesLast fun _ => trivial

/-- A program that writes last may go on with what neither calls nor fails once it has written. -/
theorem WritesLast.bind {p : Program (Except ε α)} {f : Except ε α → Program (Except ε' β)}
    (h : p.WritesLast) (hok : ∀ a, ∃ b, f (.ok a) = .done (.ok b))
    (herror : ∀ e, (f (.error e)).WritesLast) : (p.bind f).WritesLast := by
  induction p with
  | done result =>
    cases result with
    | ok a =>
      obtain ⟨b, hb⟩ := hok a
      rw [done_bind, hb]
      exact trivial
    | error e => exact herror e
  | call c next ih =>
    refine ⟨fun e => ih _ (h.1 e), fun answer => ?_⟩
    rcases h.2 answer with ⟨hreads, hnext⟩ | ⟨a, ha⟩
    · exact .inl ⟨hreads, ih _ hnext⟩
    · refine .inr ?_
      show ∃ b, (next (.ok answer)).bind f = done (.ok b)
      rw [ha]
      exact hok a
  | issue kind next ih => exact fun id => ih id (h id)

/-- **A step of a program that writes last** leaves the store as it was, or the program ends well. -/
theorem WritesLast.move {p p' : Program (Except ε α)} {w w' : World} (h : p.WritesLast)
    (hp : p.Moves w w' p') :
    p'.WritesLast ∧ w'.store = w.store ∨ ∃ a, p' = .done (.ok a) := by
  cases hp with
  | call c next =>
    cases hans : (c.perform w.store).1 with
    | error e => exact .inl ⟨h.1 e, Call.perform_error hans⟩
    | ok answer =>
      exact (h.2 answer).imp_left fun ⟨hreads, hnext⟩ =>
        ⟨hnext, Call.perform_of_reads hreads _⟩
  | refused c next e => exact .inl ⟨h.1 e, rfl⟩
  | issue kind next => exact .inl ⟨h _, rfl⟩

/-- **A program that writes last has written nothing yet, or has ended well.** -/
theorem WritesLast.leads {p₀ p : Program (Except ε α)} {w₀ w : World} (h₀ : p₀.WritesLast)
    (h : p₀.Leads w₀ p w) :
    p.WritesLast ∧ w.store = w₀.store ∨ ∃ a, p = .done (.ok a) := by
  induction h with
  | start => exact .inl ⟨h₀, rfl⟩
  | step p p' w w' _ hp ih =>
    rcases ih with ⟨hlast, hstore⟩ | ⟨a, rfl⟩
    · exact (hlast.move hp).imp_left fun ⟨hlast', hstore'⟩ => ⟨hlast', hstore'.trans hstore⟩
    · cases hp

/-- The numbers of identifiers only grow. -/
theorem Leads.issued_le {p₀ p : Program α} {w₀ w : World} (h : p₀.Leads w₀ p w) (kind : Kind) :
    w₀.issued kind ≤ w.issued kind := by
  induction h with
  | start => exact Nat.le_refl _
  | step p p' w w' _ hp ih =>
    cases hp with
    | call c next => exact ih
    | refused c next e => exact ih
    | issue k next => exact Nat.le_trans ih (w.le_issued_afterIssue k kind)

end Program

/-! ## 2. Operations -/

namespace Operation

variable {α β ε ε' : Type}

/-- An operation that never writes. -/
def ReadsOnly (op : Operation ε α) : Prop := (ExceptT.run op).ReadsOnly

/-- **An operation that writes last**: if it fails, it has written nothing. -/
def WritesLast (op : Operation ε α) : Prop := (ExceptT.run op).WritesLast

theorem readsOnly_pure {a : α} : (pure a : Operation ε α).ReadsOnly := trivial

theorem readsOnly_throw {e : ε} : (throw e : Operation ε α).ReadsOnly := trivial

theorem readsOnly_call {wrap : StoreError → ε} {c : Call} (h : c.reads = true) :
    ReadsOnly (α := no_index c.Answer) (call wrap c) :=
  ⟨h, fun _ => trivial⟩

theorem readsOnly_issue {kind : Kind} : (issue kind : Operation ε (Id kind)).ReadsOnly :=
  fun _ => trivial

theorem readsOnly_demand {missing : ε} {found : Option α} : (demand missing found).ReadsOnly := by
  cases found <;> trivial

theorem readsOnly_failWith {fault : Option ε} : (failWith fault).ReadsOnly := by
  cases fault <;> trivial

theorem readsOnly_failIf {condition : Bool} {e : ε} : (failIf condition e).ReadsOnly :=
  readsOnly_failWith

theorem ReadsOnly.bind {op : Operation ε α} {f : α → Operation ε β} (h : op.ReadsOnly)
    (hf : ∀ a, (f a).ReadsOnly) : (op >>= f).ReadsOnly := by
  unfold ReadsOnly
  rw [ExceptT.run_bind, Program.bind_eq]
  refine Program.ReadsOnly.bind h fun result => ?_
  cases result with
  | ok a => exact hf a
  | error e => exact trivial

/-- **What is read first does not matter**: an operation writes last if what comes after it does. -/
theorem ReadsOnly.andThen {op : Operation ε α} {f : α → Operation ε β} (h : op.ReadsOnly)
    (hf : ∀ a, (f a).WritesLast) : (op >>= f).WritesLast := by
  unfold WritesLast
  rw [ExceptT.run_bind, Program.bind_eq]
  refine Program.ReadsOnly.bind_writesLast h fun result => ?_
  cases result with
  | ok a => exact hf a
  | error e => exact trivial

theorem ReadsOnly.writesLast {op : Operation ε α} (h : op.ReadsOnly) : op.WritesLast :=
  Program.ReadsOnly.writesLast h

theorem writesLast_call {wrap : StoreError → ε} {c : Call} :
    WritesLast (α := no_index c.Answer) (call wrap c) :=
  ⟨fun _ => trivial, fun answer => .inr ⟨answer, rfl⟩⟩

/-- A value may be given in the end. -/
theorem WritesLast.give {op : Operation ε α} (h : op.WritesLast) (g : α → β) :
    (op >>= fun a => pure (g a)).WritesLast := by
  unfold WritesLast
  rw [ExceptT.run_bind, Program.bind_eq]
  exact Program.WritesLast.bind h (fun a => ⟨g a, rfl⟩) fun _ => trivial

theorem WritesLast.adapt {wrap : ε → ε'} {op : Operation ε α} (h : op.WritesLast) :
    WritesLast (ExceptT.adapt wrap op : Operation ε' α) := by
  show Program.WritesLast (Except.mapError wrap <$> ExceptT.run op)
  rw [map_eq_pure_bind, Program.bind_eq]
  exact Program.WritesLast.bind h (fun a => ⟨a, rfl⟩) fun _ => trivial

/-- **An operation that writes last and fails leaves the store as it was**, whatever methods are out
    of order. -/
theorem WritesLast.store_eq {op : Operation ε α} (h : op.WritesLast) {faults : Faults} {w : World}
    {e : ε} (hfails : (op.run faults w).1 = .error e) : (op.run faults w).2.store = w.store := by
  rcases Program.WritesLast.leads h (Program.leads_run faults _ w) with ⟨_, hstore⟩ | ⟨a, ha⟩
  · exact hstore
  · have hok : (op.run faults w).1 = .ok a := Program.done.inj ha
    rw [hok] at hfails
    cases hfails

end Operation

/-! ## 3. Bookings -/

open Operation

namespace Bookings

theorem readsOnly_findPremises {id : PremisesId} : (findPremises id).ReadsOnly :=
  (readsOnly_call rfl).bind fun _ => readsOnly_demand

theorem readsOnly_find {premises : PremisesId} {id : BookingId} : (find premises id).ReadsOnly :=
  (readsOnly_call rfl).bind fun _ => readsOnly_demand

theorem readsOnly_findOutOfService {premises : PremisesId} {id : OutOfServiceId} :
    (findOutOfService premises id).ReadsOnly :=
  (readsOnly_call rfl).bind fun _ => readsOnly_demand

theorem readsOnly_obey {params : InvalidParams} : (obey params).ReadsOnly := readsOnly_failIf

theorem readsOnly_ensureAwaiting {booking : Booking} : (ensureAwaiting booking).ReadsOnly :=
  readsOnly_failWith

theorem readsOnly_list {premises : PremisesId} : (list premises).ReadsOnly := by
  unfold list
  refine readsOnly_findPremises.bind fun _ => ?_
  exact (readsOnly_call rfl).bind fun _ => readsOnly_pure

theorem readsOnly_ensureBedFree {bed : BedId} {range : DateRange} :
    (ensureBedFree bed range).ReadsOnly := by
  unfold ensureBedFree
  refine (readsOnly_call rfl).bind fun _ => readsOnly_failWith.bind fun _ => ?_
  exact (readsOnly_call rfl).bind fun _ => readsOnly_failWith

theorem writesLast_replace {current updated : Booking} : (replace current updated).WritesLast :=
  writesLast_call.give fun _ => updated

theorem writesLast_create {premises : PremisesId} {request : NewBooking} {links : BookingLinks}
    {today : Date} : (create premises request links today).WritesLast := by
  unfold create
  refine readsOnly_findPremises.andThen fun _ => readsOnly_failIf.andThen fun _ => ?_
  refine readsOnly_obey.andThen fun _ => readsOnly_ensureBedFree.andThen fun _ => ?_
  exact readsOnly_issue.andThen fun _ => writesLast_call

theorem writesLast_takeOutOfService {premises : PremisesId} {request : NewOutOfServicePeriod} :
    (takeOutOfService premises request).WritesLast := by
  unfold takeOutOfService
  refine readsOnly_findPremises.andThen fun _ => readsOnly_obey.andThen fun _ => ?_
  refine readsOnly_ensureBedFree.andThen fun _ => ?_
  exact readsOnly_issue.andThen fun _ => writesLast_call

theorem writesLast_cancelOutOfService {premises : PremisesId} {id : OutOfServiceId}
    {today : Date} : (cancelOutOfService premises id today).WritesLast := by
  unfold cancelOutOfService
  refine readsOnly_findOutOfService.andThen fun period => ?_
  split
  · exact readsOnly_pure.writesLast
  · exact writesLast_call.give fun _ => { period with cancelledOn := some today }

theorem writesLast_recordArrival {premises : PremisesId} {id : BookingId}
    {request : ArrivalRequest} : (recordArrival premises id request).WritesLast := by
  unfold recordArrival
  refine readsOnly_find.andThen fun _ => readsOnly_ensureAwaiting.andThen fun _ => ?_
  exact readsOnly_obey.andThen fun _ => writesLast_replace

theorem writesLast_recordNonArrival {premises : PremisesId} {id : BookingId}
    {request : NonArrivalRequest} : (recordNonArrival premises id request).WritesLast := by
  unfold recordNonArrival
  refine readsOnly_find.andThen fun _ => readsOnly_ensureAwaiting.andThen fun _ => ?_
  exact readsOnly_obey.andThen fun _ => writesLast_replace

theorem writesLast_cancel {premises : PremisesId} {id : BookingId}
    {request : CancellationRequest} : (cancel premises id request).WritesLast := by
  unfold cancel
  refine readsOnly_obey.andThen fun _ => readsOnly_find.andThen fun current => ?_
  refine readsOnly_failIf.andThen fun _ => ?_
  split
  · exact readsOnly_pure.writesLast
  · exact writesLast_replace

end Bookings

/-! ## 4. Applications -/

namespace Applications

theorem readsOnly_findTree {id : ApplicationId} : (findTree id).ReadsOnly :=
  (readsOnly_call rfl).bind fun _ => readsOnly_demand

theorem readsOnly_findTreeOf {entity : Entity} : (findTreeOf entity).ReadsOnly := by
  unfold findTreeOf
  exact (readsOnly_call rfl).bind fun _ => readsOnly_demand.bind fun _ => readsOnly_findTree

theorem readsOnly_obey {params : InvalidParams} : (obey params).ReadsOnly := readsOnly_failIf

theorem readsOnly_ensureLive {tree : Tree} : (ensureLive tree).ReadsOnly := readsOnly_failIf

theorem readsOnly_ensureNights {dates : PlacementDates} {property : String} :
    (ensureNights dates property).ReadsOnly :=
  readsOnly_obey

theorem readsOnly_findPending {id : AssessmentId} : (findPending id).ReadsOnly := by
  unfold findPending
  refine readsOnly_findTreeOf.bind fun _ => readsOnly_ensureLive.bind fun _ => ?_
  exact readsOnly_demand.bind fun _ => readsOnly_failIf.bind fun _ => readsOnly_pure

theorem readsOnly_withdrawables {id : ApplicationId} : (withdrawables id).ReadsOnly :=
  readsOnly_findTree.bind fun _ => readsOnly_pure

/-- A tree is saved, and what it came to is given in the end. -/
theorem writesLast_save {α : Type} {snapshot updated : Tree} {result : α} :
    (do
      save snapshot updated
      pure result).WritesLast :=
  writesLast_call.give fun _ => result

theorem writesLast_create {crn : String} {today : Date} : (create crn today).WritesLast := by
  unfold create
  exact readsOnly_obey.andThen fun _ => readsOnly_issue.andThen fun _ => writesLast_call

theorem writesLast_acceptAssessment {id : AssessmentId} {dates : PlacementDates} {today : Date} :
    (acceptAssessment id dates today).WritesLast := by
  unfold acceptAssessment
  refine readsOnly_ensureNights.andThen fun _ => readsOnly_findPending.andThen fun _ => ?_
  exact readsOnly_issue.andThen fun _ => writesLast_save

theorem writesLast_rejectAssessment {id : AssessmentId} :
    (rejectAssessment id).WritesLast := by
  unfold rejectAssessment
  exact readsOnly_findPending.andThen fun _ => writesLast_save

theorem writesLast_reallocateAssessment {id : AssessmentId} {today : Date} :
    (reallocateAssessment id today).WritesLast := by
  unfold reallocateAssessment
  refine readsOnly_findPending.andThen fun _ => ?_
  exact readsOnly_issue.andThen fun _ => writesLast_save

theorem writesLast_createPlacement {application : ApplicationId} {today : Date} :
    (createPlacement application today).WritesLast := by
  unfold createPlacement
  refine readsOnly_findTree.andThen fun _ => readsOnly_ensureLive.andThen fun _ => ?_
  refine readsOnly_failIf.andThen fun _ => ?_
  exact readsOnly_issue.andThen fun _ => writesLast_save

theorem readsOnly_decidedPlacement {snapshot : Tree} {id : PlacementApplicationId}
    {decision : PlacementDecision} {today : Date} :
    (decidedPlacement snapshot id decision today).ReadsOnly := by
  cases decision with
  | rejected => exact readsOnly_pure
  | accepted dates =>
    exact readsOnly_ensureNights.bind fun _ => readsOnly_issue.bind fun _ => readsOnly_pure

theorem writesLast_decidePlacement {id : PlacementApplicationId} {decision : PlacementDecision}
    {today : Date} : (decidePlacement id decision today).WritesLast := by
  unfold decidePlacement
  refine readsOnly_findTreeOf.andThen fun _ => readsOnly_ensureLive.andThen fun _ => ?_
  refine readsOnly_demand.andThen fun _ => readsOnly_failIf.andThen fun _ => ?_
  exact readsOnly_decidedPlacement.andThen fun _ => writesLast_save

theorem writesLast_bookRequest {id : PlacementRequestId} {request : PlacementBooking}
    {today : Date} : (bookRequest id request today).WritesLast := by
  unfold bookRequest
  refine readsOnly_findTreeOf.andThen fun _ => readsOnly_ensureLive.andThen fun _ => ?_
  refine readsOnly_demand.andThen fun _ => readsOnly_failIf.andThen fun _ => ?_
  exact readsOnly_failWith.andThen fun _ => Bookings.writesLast_create.adapt

theorem writesLast_withdraw {target : WithdrawalTarget} {request : WithdrawalRequest}
    {today : Date} : (withdraw target request today).WritesLast := by
  unfold withdraw
  refine readsOnly_obey.andThen fun _ => readsOnly_findTreeOf.andThen fun _ => ?_
  split
  · exact readsOnly_throw.writesLast
  · rename_i outcome tree' hwithdraw
    dsimp only
    by_cases hchanged : outcome.changed = true
    · rw [if_pos hchanged]
      exact writesLast_save
    · rw [if_neg hchanged]
      exact readsOnly_pure.writesLast

end Applications

/-! ## 5. Premises and searches -/

namespace Premises

theorem readsOnly_gather {services : List Service} : (gather services).ReadsOnly := by
  induction services with
  | nil => exact readsOnly_pure
  | cons service services ih =>
    exact (readsOnly_call rfl).bind fun _ => ih.bind fun _ => readsOnly_pure

theorem readsOnly_list {service : Option Service} : (list service).ReadsOnly :=
  readsOnly_gather.bind fun _ => readsOnly_pure

theorem readsOnly_find {id : PremisesId} : (find id).ReadsOnly :=
  (readsOnly_call rfl).bind fun _ => readsOnly_demand.bind fun _ => readsOnly_pure

end Premises

namespace BedSearch

theorem readsOnly_readOccupancy {estate : List Inventory} {range : DateRange}
    {turnaround : PremisesId → Nat} : (readOccupancy estate range turnaround).ReadsOnly := by
  unfold readOccupancy
  exact (readsOnly_call rfl).bind fun _ => (readsOnly_call rfl).bind fun _ => readsOnly_pure

theorem readsOnly_findApprovedPremises {miles : Float} {search : ApprovedPremisesSearch} :
    (findApprovedPremises miles search).ReadsOnly := by
  unfold findApprovedPremises
  refine readsOnly_failIf.bind fun _ => (readsOnly_call rfl).bind fun _ => ?_
  refine readsOnly_demand.bind fun _ => (readsOnly_call rfl).bind fun _ => ?_
  exact readsOnly_readOccupancy.bind fun _ => readsOnly_pure

theorem readsOnly_findTemporaryAccommodation {search : TemporaryAccommodationSearch} :
    (findTemporaryAccommodation search).ReadsOnly := by
  unfold findTemporaryAccommodation
  refine readsOnly_failIf.bind fun _ => (readsOnly_call rfl).bind fun _ => ?_
  exact readsOnly_readOccupancy.bind fun _ => readsOnly_pure

theorem readsOnly_find {miles : Float} {search : BedSearch} : (search.find miles).ReadsOnly := by
  cases search with
  | approvedPremises search =>
    exact readsOnly_findApprovedPremises.bind fun _ => readsOnly_pure
  | temporaryAccommodation search =>
    exact readsOnly_findTemporaryAccommodation.bind fun _ => readsOnly_pure

end BedSearch

/-! ## 6. Every request but a submission -/

theorem Action.writesLast_replying {ε α : Type} {wrap : ε → ActionError} {reply : α → Reply}
    {op : Operation ε α} (h : op.WritesLast) : (Action.replying wrap reply op).WritesLast := by
  unfold Action.replying
  rw [map_eq_pure_bind]
  exact (h.give reply).adapt

namespace ServiceRequest

/-- Whether a request is a submission. -/
def submits : ServiceRequest → Bool
  | action _ _ (.submit _) => true
  | _ => false

/-- Every other request writes once, as its last call. -/
theorem writesLast {request : ServiceRequest} (h : request.submits = false) :
    request.operation.WritesLast := by
  cases request with
  | linkedBooking premises request links today =>
    exact Action.writesLast_replying Bookings.writesLast_create
  | action settings today wanted =>
    cases wanted with
    | listPremises service criteria =>
      exact Action.writesLast_replying Premises.readsOnly_list.writesLast
    | showPremises id => exact Action.writesLast_replying Premises.readsOnly_find.writesLast
    | listBookings premises criteria =>
      exact Action.writesLast_replying Bookings.readsOnly_list.writesLast
    | createBooking premises request => exact Action.writesLast_replying Bookings.writesLast_create
    | showBooking premises id =>
      exact Action.writesLast_replying Bookings.readsOnly_find.writesLast
    | recordArrival premises id request =>
      exact Action.writesLast_replying Bookings.writesLast_recordArrival
    | recordNonArrival premises id request =>
      exact Action.writesLast_replying Bookings.writesLast_recordNonArrival
    | cancelBooking premises id request =>
      exact Action.writesLast_replying Bookings.writesLast_cancel
    | takeOutOfService premises request =>
      exact Action.writesLast_replying Bookings.writesLast_takeOutOfService
    | cancelOutOfService premises id =>
      exact Action.writesLast_replying Bookings.writesLast_cancelOutOfService
    | searchBeds search => exact Action.writesLast_replying BedSearch.readsOnly_find.writesLast
    | createApplication crn => exact Action.writesLast_replying Applications.writesLast_create
    | showApplication id =>
      exact Action.writesLast_replying Applications.readsOnly_findTree.writesLast
    | submit id => cases h
    | listWithdrawables id =>
      exact Action.writesLast_replying Applications.readsOnly_withdrawables.writesLast
    | withdraw target request => exact Action.writesLast_replying Applications.writesLast_withdraw
    | acceptAssessment id dates =>
      exact Action.writesLast_replying Applications.writesLast_acceptAssessment
    | rejectAssessment id =>
      exact Action.writesLast_replying Applications.writesLast_rejectAssessment
    | reallocateAssessment id =>
      exact Action.writesLast_replying Applications.writesLast_reallocateAssessment
    | createPlacement application =>
      exact Action.writesLast_replying Applications.writesLast_createPlacement
    | decidePlacement id decision =>
      exact Action.writesLast_replying Applications.writesLast_decidePlacement
    | bookRequest id request => exact Action.writesLast_replying Applications.writesLast_bookRequest

/-- **A request that fails leaves the store as it was**, unless it is a submission: whatever the
    store was and whichever of its calls are refused, only identifiers may have been issued. -/
theorem store_eq_of_error {request : ServiceRequest} {w w' : World} {e : ActionError}
    (hrequest : request.submits = false) (h : request.program.Leads w (.done (.error e)) w') :
    w'.store = w.store ∧ ∀ kind, w.issued kind ≤ w'.issued kind := by
  refine ⟨?_, h.issued_le⟩
  rcases (writesLast hrequest).leads h with ⟨_, hstore⟩ | ⟨reply, he⟩
  · exact hstore
  · cases he

/-- The tree of an application that is withdrawn cannot be saved. -/
theorem store_eq_of_unsaved_withdrawal :
    let world := (World.ofStore .empty).afterAll Date.first
      [(.none, .createApplication "X320741"), (.none, .submit (.numbered .application 1))]
    let withdrawal := ServiceRequest.action .default Date.first
      (.withdraw (.application (.numbered .application 1)) ⟨.noCapacity, none⟩)
    let faults : Faults := fun m => if m = .saveTree then some (.unavailable "down") else none
    (withdrawal.operation.run faults world).1 =
        .error (.application (.store (.unavailable "down"))) ∧
      (withdrawal.operation.run faults world).2.store = world.store := by
  intro world withdrawal faults
  have hrun : (withdrawal.operation.run faults world).1 =
      .error (.application (.store (.unavailable "down"))) :=
    failure?_eq_some_iff.1 (by decide +kernel)
  have hleads := Program.leads_run faults withdrawal.program world
  have hend : (withdrawal.program.run faults world).1 =
    .error (.application (.store (.unavailable "down"))) := hrun
  rw [hend] at hleads
  exact ⟨hrun, (store_eq_of_error rfl hleads).1⟩

end ServiceRequest

end Bedspace
