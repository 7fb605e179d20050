import Bedspace.Proofs.Amid

/-!
# The methods that a request uses

Every action uses a few methods of the store, whatever it is answered and whatever others do
meanwhile.

* `Operation.Uses` says that an operation makes calls of certain methods only;
* `Action.methods` lists the methods of each action, in the order of their first use;
* **`Action.perform_uses`**: an action makes no other calls; `ServiceRequest.program_uses` says so of all
  requests.
-/

namespace Bedspace

open Operation

/-! ## 1. Operations -/

/-- **Whatever happens meanwhile, an operation makes calls of certain methods only.** -/
def Operation.Uses {ε α : Type} (methods : List Method) (op : Operation ε α) : Prop :=
  ∀ store, op.Amid (fun _ _ => True) (fun c _ => c.method ∈ methods) store (fun _ => True)
    fun _ _ => True

theorem Operation.Uses.bind {ε α β : Type} {methods : List Method} {op : Operation ε α}
    {f : α → Operation ε β} (hop : op.Uses methods) (hf : ∀ a, (f a).Uses methods) :
    (op >>= f).Uses methods :=
  fun store => amid_bind.2 ((hop store).imp fun a store' _ => hf a store')

theorem Operation.uses_pure {ε α : Type} {methods : List Method} (a : α) :
    (pure a : Operation ε α).Uses methods :=
  fun _ => amid_pure.2 trivial

/-! ## 2. Actions -/

/-- **The methods that an action uses.** -/
def Action.methods : Action → List Method
  | listPremises _ _ => [.inventory]
  | showPremises _ => [.premises]
  | listBookings _ _ => [.premises, .bookingsAt]
  | createBooking _ _ => [.premises, .bookingsOver, .outOfServiceOver, .insertBooking]
  | showBooking _ _ => [.booking]
  | recordArrival _ _ _ | recordNonArrival _ _ _ | cancelBooking _ _ _ => [.booking, .replaceBooking]
  | takeOutOfService _ _ => [.premises, .bookingsOver, .outOfServiceOver, .insertOutOfService]
  | cancelOutOfService _ _ => [.outOfService, .replaceOutOfService]
  | searchBeds _ => [.district, .inventory, .bookingsOver, .outOfServiceOver]
  | createApplication _ => [.insertApplication]
  | showApplication _ | listWithdrawables _ => [.tree]
  | submit _ => [.markSubmitted, .tree, .saveTree]
  | createPlacement _ => [.tree, .saveTree]
  | withdraw _ _ | acceptAssessment _ _ | rejectAssessment _ | reallocateAssessment _
  | decidePlacement _ _ => [.ownerOf, .tree, .saveTree]
  | bookRequest _ _ =>
    [.ownerOf, .tree, .premises, .bookingsOver, .outOfServiceOver, .insertBooking]

section Parts

variable {methods : List Method}

theorem Bookings.create_uses {premises : PremisesId} {request : NewBooking} {links : BookingLinks}
    {today : Date}
    (h : [.premises, .bookingsOver, .outOfServiceOver, .insertBooking] ⊆ methods) :
    (create premises request links today).Uses methods := by
  simp only [List.cons_subset] at h
  intro store
  simp [create, findPremises, obey, ensureBedFree, Call.method, h]

namespace Applications

theorem findTree_uses {id : ApplicationId} (h : .tree ∈ methods) : (findTree id).Uses methods := by
  intro store
  simp [findTree, Call.method, h]

theorem findTreeOf_uses {entity : Entity} (h : [.ownerOf, .tree] ⊆ methods) :
    (findTreeOf entity).Uses methods := by
  simp only [List.cons_subset] at h
  intro store
  simp [findTreeOf, findTree, Call.method, h]

theorem save_uses {snapshot updated : Tree} (h : .saveTree ∈ methods) :
    (save snapshot updated).Uses methods := by
  intro store
  simp [save, Call.method, h]

/-- Saving a tree is followed by nothing but the reply. -/
theorem save_bind_uses {snapshot updated : Tree} {α : Type} {a : α} (h : .saveTree ∈ methods) :
    (save snapshot updated >>= fun _ => pure a).Uses methods :=
  (save_uses h).bind fun _ => uses_pure a

theorem findPending_uses {id : AssessmentId} (h : [.ownerOf, .tree] ⊆ methods) :
    (findPending id).Uses methods := by
  refine (findTreeOf_uses h).bind fun tree store => ?_
  simp [ensureLive]

theorem decidedPlacement_uses {snapshot : Tree} {id : PlacementApplicationId}
    {decision : PlacementDecision} {today : Date} :
    (decidedPlacement snapshot id decision today).Uses methods := by
  intro store
  cases decision with
  | rejected => simp [decidedPlacement]
  | accepted dates => simp [decidedPlacement, ensureNights, obey]

theorem withdraw_uses {target : WithdrawalTarget} {request : WithdrawalRequest} {today : Date} :
    (withdraw target request today).Uses [.ownerOf, .tree, .saveTree] := by
  refine .bind (fun store => by simp [obey]) fun _ =>
    (findTreeOf_uses (by simp)).bind fun snapshot => ?_
  split
  · exact fun store => amid_throw.2 trivial
  · rename_i outcome tree _
    dsimp only
    split
    · exact save_bind_uses (by simp)
    · exact uses_pure _

theorem bookRequest_uses {id : PlacementRequestId} {request : PlacementBooking} {today : Date}
    (htree : [.ownerOf, .tree] ⊆ methods)
    (hcreate : [.premises, .bookingsOver, .outOfServiceOver, .insertBooking] ⊆ methods) :
    (bookRequest id request today).Uses methods := by
  refine (findTreeOf_uses htree).bind fun tree => .bind (fun store => by simp [ensureLive]) fun _ => ?_
  refine .bind (fun store => by simp) fun _ => .bind (fun store => by simp) fun _ => ?_
  refine .bind (fun store => by simp) fun _ => ?_
  exact fun store => amid_adapt.2 (Bookings.create_uses hcreate store)

end Applications

theorem Premises.gather_uses {services : List Service} (h : .inventory ∈ methods) :
    (gather services).Uses methods := by
  induction services with
  | nil => exact uses_pure _
  | cons service services ih =>
    refine .bind (fun store => ?_) fun found => ih.bind fun others => uses_pure _
    simp [request, Call.method, h]

theorem BedSearch.find_uses {miles : Float} {search : BedSearch} :
    (search.find miles).Uses [.district, .inventory, .bookingsOver, .outOfServiceOver] := by
  intro store
  cases search with
  | approvedPremises search =>
    simp [find, findApprovedPremises, obey, readOccupancy, Call.method]
  | temporaryAccommodation search =>
    simp [find, findTemporaryAccommodation, obey, readOccupancy, Call.method]

theorem Action.replying_uses {ε α : Type} {wrap : ε → ActionError} {reply : α → Reply}
    {op : Operation ε α} (h : op.Uses methods) : (replying wrap reply op).Uses methods :=
  fun store => amid_adapt.2 (amid_map.2 (h store))

end Parts

open Bookings Applications in
/-- **An action makes calls of its methods only.** -/
theorem Action.perform_uses {settings : SearchSettings} {today : Date} (wanted : Action) :
    (wanted.perform settings today).Uses wanted.methods := by
  cases wanted with
  | listPremises service criteria =>
    exact replying_uses ((Premises.gather_uses (by simp [methods])).bind fun _ => uses_pure _)
  | showPremises id =>
    refine replying_uses fun store => ?_
    simp [Premises.find, Bedspace.request, Call.method, methods]
  | listBookings premises criteria =>
    refine replying_uses fun store => ?_
    simp [Bookings.list, findPremises, Call.method, methods]
  | createBooking premises request => exact replying_uses (create_uses (List.Subset.refl _))
  | showBooking premises id =>
    refine replying_uses fun store => ?_
    simp [Bookings.find, Call.method, methods]
  | recordArrival premises id request =>
    refine replying_uses fun store => ?_
    simp [Bookings.recordArrival, Bookings.find, ensureAwaiting, Bookings.obey, replace,
      Call.method, methods]
  | recordNonArrival premises id request =>
    refine replying_uses fun store => ?_
    simp [Bookings.recordNonArrival, Bookings.find, ensureAwaiting, Bookings.obey, replace,
      Call.method, methods]
  | cancelBooking premises id request =>
    refine replying_uses (.bind (fun store => by simp [Bookings.obey]) fun _ =>
      .bind (fun store => by simp [Bookings.find, Call.method, methods]) fun current => ?_)
    refine .bind (fun store => by simp) fun _ store => ?_
    by_cases hcancelled : current.isCancelled = true
    · simp [hcancelled]
    · simp [hcancelled, replace, Call.method, methods]
  | takeOutOfService premises request =>
    refine replying_uses fun store => ?_
    simp [Bookings.takeOutOfService, findPremises, Bookings.obey, ensureBedFree, Call.method,
      methods]
  | cancelOutOfService premises id =>
    refine replying_uses (.bind (fun store => by simp [findOutOfService, Call.method, methods])
      fun period store => ?_)
    by_cases hcancelled : period.isCancelled = true
    · simp [hcancelled]
    · simp [hcancelled, Call.method, methods]
  | searchBeds search => exact replying_uses BedSearch.find_uses
  | createApplication crn =>
    refine replying_uses fun store => ?_
    simp [Applications.create, Applications.obey, Call.method, methods]
  | showApplication id => exact replying_uses (findTree_uses (by simp [methods]))
  | submit id =>
    refine replying_uses fun store => ?_
    simp [Applications.submit, findTree, save, Call.method, methods]
  | listWithdrawables id =>
    exact replying_uses ((findTree_uses (by simp [methods])).bind fun _ => uses_pure _)
  | withdraw target request => exact replying_uses withdraw_uses
  | acceptAssessment id dates =>
    refine replying_uses (.bind (fun store => by simp [ensureNights, Applications.obey])
      fun _ => (findPending_uses (by simp [methods])).bind fun snapshot => ?_)
    exact .bind (fun store => by simp) fun _ => save_bind_uses (by simp [methods])
  | rejectAssessment id =>
    exact replying_uses ((findPending_uses (by simp [methods])).bind fun snapshot =>
      save_bind_uses (by simp [methods]))
  | reallocateAssessment id =>
    refine replying_uses ((findPending_uses (by simp [methods])).bind fun snapshot => ?_)
    exact .bind (fun store => by simp) fun _ => save_bind_uses (by simp [methods])
  | createPlacement application =>
    refine replying_uses ((findTree_uses (by simp [methods])).bind fun snapshot store => ?_)
    simp [ensureLive, save, Call.method, methods]
  | decidePlacement id decision =>
    refine replying_uses ((findTreeOf_uses (by simp [methods])).bind fun snapshot => ?_)
    refine .bind (fun store => by simp [ensureLive]) fun _ => .bind (fun store => by simp) fun _ => ?_
    refine .bind (fun store => by simp) fun _ => decidedPlacement_uses.bind fun tree => ?_
    exact save_bind_uses (by simp [methods])
  | bookRequest id request =>
    exact replying_uses (bookRequest_uses (by simp [methods]) (by simp [methods]))

/-- **The methods that a request uses.** -/
def ServiceRequest.methods : ServiceRequest → List Method
  | action _ _ wanted => wanted.methods
  | linkedBooking premises request _ _ => (Action.createBooking premises request).methods

theorem ServiceRequest.program_uses (request : ServiceRequest) (store : Store) :
    request.program.Amid (fun _ _ => True) (fun c _ => c.method ∈ request.methods)
      (fun _ _ => True) store := by
  have h : request.operation.Uses request.methods := by
    cases request with
    | action settings today wanted => exact wanted.perform_uses
    | linkedBooking premises request links today =>
      exact Action.replying_uses (Bookings.create_uses (List.Subset.refl _))
  exact Program.amid_mono (fun _ _ h => h) (fun _ _ _ => trivial) (h store)

end Bedspace
