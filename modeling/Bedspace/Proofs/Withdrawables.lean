import Bedspace.Proofs.Cascade.Standing
import Bedspace.Proofs.Ownership
import Bedspace.Proofs.Records

/-!
# What is listed as withdrawable is what can be withdrawn

The service tells what may still be withdrawn by going through the records of a tree, and withdraws by
going down from a node. Both come to the same nodes.

* `Tree.mem_withdrawables_iff`: a node is listed exactly if it is open, and once
  (`Tree.nodup_withdrawables`);
* `Applications.run_withdraw_of_open` and the lemmas after it say what a withdrawal comes to, when it
  is carried out alone: it takes an open node along, and leaves everything as it is for any other;
* **`System.reaches_withdrawables`**: in every state that clients reach by actions, the list tells of
  each node of a tree whether its withdrawal would do anything.
-/

namespace Bedspace

/-! ## 1. Trees -/

namespace Tree

variable {tree : Tree} {target : WithdrawalTarget}

/-- Whether the application of a tree is listed. -/
def listedApplication (tree : Tree) : List WithdrawalTarget :=
  if tree.application.isWithdrawn then [] else [.application tree.application.id]

/-- The records of one kind that are listed. -/
def listedNodes {α : Type} {kind : Kind} [TreeNode α] (name : Id kind → WithdrawalTarget)
    (idOf : α → Id kind) (xs : List α) : List WithdrawalTarget :=
  (xs.filter TreeNode.isOpen).map fun x => name (idOf x)

/-- **The list, kind by kind**: of each kind the open records. -/
theorem map_target_withdrawables :
    tree.withdrawables.map Withdrawable.target =
      tree.listedApplication
      ++ listedNodes .placementApplication PlacementApplication.id tree.placementApplications
      ++ listedNodes .placementRequest PlacementRequest.id tree.placementRequests
      ++ listedNodes .booking Booking.id tree.bookings := by
  have hbooking : (fun b : Booking => !b.isCancelled && !b.hasArrival) = TreeNode.isOpen :=
    funext fun b => Bool.and_comm _ _
  unfold withdrawables listedApplication
  rw [List.map_append, List.map_append, List.map_append, List.map_map, List.map_map, List.map_map,
    apply_ite (List.map Withdrawable.target), hbooking]
  rfl

section Kinds

variable {α : Type} {kind : Kind} [TreeNode α] {name : Id kind → WithdrawalTarget}
  {idOf : α → Id kind} {xs : List α}

theorem mem_listedNodes_iff (hname : ∀ i j, name i = name j → i = j) {id : Id kind} :
    name id ∈ listedNodes name idOf xs ↔
      (xs.any fun x => idOf x = id && TreeNode.isOpen x) = true := by
  unfold listedNodes
  rw [List.mem_map, List.any_eq_true]
  constructor
  · rintro ⟨x, hx, hid⟩
    obtain ⟨hx, hopen⟩ := List.mem_filter.1 hx
    exact ⟨x, hx, Bool.and_eq_true_iff.2 ⟨decide_eq_true (hname _ _ hid), hopen⟩⟩
  · rintro ⟨x, hx, hfits⟩
    obtain ⟨hid, hopen⟩ := Bool.and_eq_true_iff.1 hfits
    exact ⟨x, List.mem_filter.2 ⟨hx, hopen⟩, congrArg name (of_decide_eq_true hid)⟩

/-- Records of one kind are listed under names of this kind. -/
theorem not_mem_listedNodes {target : WithdrawalTarget} (h : ∀ id, target ≠ name id) :
    target ∉ listedNodes name idOf xs := by
  intro hmem
  obtain ⟨x, _, e⟩ := List.mem_map.1 hmem
  exact h (idOf x) e.symm

theorem disjoint_listedNodes {targets : List WithdrawalTarget} (h : ∀ id, name id ∉ targets) :
    targets.Disjoint (listedNodes name idOf xs) := by
  intro target hmem hlisted
  obtain ⟨x, _, rfl⟩ := List.mem_map.1 hlisted
  exact h (idOf x) hmem

theorem nodup_listedNodes (hname : ∀ i j, name i = name j → i = j) (hxs : (xs.map idOf).Nodup) :
    (listedNodes name idOf xs).Nodup := by
  have hsub : ((xs.filter TreeNode.isOpen).map idOf).Sublist (xs.map idOf) :=
    List.filter_sublist.map idOf
  have hnames := (hxs.sublist hsub).map fun i j hij => hname i j hij
  rwa [List.map_map] at hnames

end Kinds

theorem mem_listedApplication_iff :
    target ∈ tree.listedApplication ↔
      target = .application tree.application.id ∧ tree.application.isWithdrawn = false := by
  unfold listedApplication
  cases tree.application.isWithdrawn with
  | true => exact iff_of_false List.not_mem_nil fun h => nomatch h.2
  | false => exact List.mem_singleton.trans (and_iff_left rfl).symm

/-- **A node is listed exactly if it is open.** -/
theorem mem_withdrawables_iff :
    target ∈ tree.withdrawables.map Withdrawable.target ↔ tree.isOpen target.entity = true := by
  rw [map_target_withdrawables, List.mem_append, List.mem_append, List.mem_append,
    mem_listedApplication_iff]
  -- of the four parts, the target can only be in the one of its kind
  cases target with
  | application id =>
    refine Iff.trans (or_iff_left (not_mem_listedNodes (by simp))) ?_
    refine Iff.trans (or_iff_left (not_mem_listedNodes (by simp))) ?_
    refine Iff.trans (or_iff_left (not_mem_listedNodes (by simp))) ?_
    show _ ↔ (decide (tree.application.id = id) && TreeNode.isOpen tree.application) = true
    rw [Bool.and_eq_true, decide_eq_true_eq, Application.isOpen_iff,
      WithdrawalTarget.application.injEq, eq_comm]
  | placementApplication id =>
    refine Iff.trans (or_iff_left (not_mem_listedNodes (by simp))) ?_
    refine Iff.trans (or_iff_left (not_mem_listedNodes (by simp))) ?_
    refine Iff.trans (or_iff_right fun h => nomatch h.1) ?_
    exact mem_listedNodes_iff fun _ _ => WithdrawalTarget.placementApplication.inj
  | placementRequest id =>
    refine Iff.trans (or_iff_left (not_mem_listedNodes (by simp))) (Iff.trans (or_iff_right ?_) ?_)
    · rintro (h | h)
      · cases h.1
      · exact not_mem_listedNodes (by simp) h
    · exact mem_listedNodes_iff fun _ _ => WithdrawalTarget.placementRequest.inj
  | booking id =>
    refine Iff.trans (or_iff_right ?_) ?_
    · rintro ((h | h) | h)
      · cases h.1
      · exact not_mem_listedNodes (by simp) h
      · exact not_mem_listedNodes (by simp) h
    · exact mem_listedNodes_iff fun _ _ => WithdrawalTarget.booking.inj

/-- **No node is listed twice.** -/
theorem nodup_withdrawables (ht : tree.DistinctIds) :
    (tree.withdrawables.map Withdrawable.target).Nodup := by
  have happlication : tree.listedApplication.Nodup := by
    unfold listedApplication
    split
    · exact List.nodup_nil
    · exact List.nodup_singleton _
  have hplacements := nodup_listedNodes
    (fun _ _ => WithdrawalTarget.placementApplication.inj) ht.placements
  have hrequests := nodup_listedNodes
    (fun _ _ => WithdrawalTarget.placementRequest.inj) ht.requests
  have hbookings := nodup_listedNodes (fun _ _ => WithdrawalTarget.booking.inj) ht.bookings
  rw [map_target_withdrawables]
  refine List.nodup_append'.2 ⟨List.nodup_append'.2 ⟨List.nodup_append'.2
    ⟨happlication, hplacements, ?_⟩, hrequests, ?_⟩, hbookings, ?_⟩
  all_goals refine disjoint_listedNodes fun id h => ?_
  · cases (mem_listedApplication_iff.1 h).1
  · rcases List.mem_append.1 h with h | h
    · cases (mem_listedApplication_iff.1 h).1
    · exact not_mem_listedNodes (by simp) h
  · rcases List.mem_append.1 h with h | h
    · rcases List.mem_append.1 h with h | h
      · cases (mem_listedApplication_iff.1 h).1
      · exact not_mem_listedNodes (by simp) h
    · exact not_mem_listedNodes (by simp) h

/-! ## 2. What becomes of a node -/

variable {reason : WithdrawalReason} {note : WithdrawalNote}

/-- A withdrawal that gets under way withdraws the open ones of the nodes that it looks at. -/
theorem exists_cascade_of_withdraw (ht : tree.DistinctIds)
    (hin : tree.contains target.entity = true)
    (harrived : ∀ id, target = .booking id → tree.hasArrived id = false) :
    ∃ c : Cascade, c.withdrawn = (tree.visits target.entity).filter tree.isOpen ∧
      tree.withdraw target reason note =
        .ok (⟨target.entity, c.withdrawn, c.skipped⟩, c.tree) :=
  ⟨_, rfl, withdraw_eq ht hin harrived⟩

/-- **An open node is withdrawn.** -/
theorem withdraw_of_isOpen (ht : tree.DistinctIds) (hopen : tree.isOpen target.entity = true) :
    ∃ outcome after, tree.withdraw target reason note = .ok (outcome, after) ∧
      target.entity ∈ outcome.withdrawn ∧ after.application.id = tree.application.id := by
  have harrived : ∀ id, target = .booking id → tree.hasArrived id = false := by
    rintro id rfl
    exact hasArrived_eq_false_of_isOpen ht hopen
  obtain ⟨c, hwithdrawn, hrun⟩ :=
    exists_cascade_of_withdraw ht (contains_of_isOpen hopen) harrived
  refine ⟨_, _, hrun, ?_, (amends_withdraw ht hrun).application.id_eq⟩
  show target.entity ∈ c.withdrawn
  rw [hwithdrawn, Cascade.visits_of_open hopen, List.mem_filter]
  exact ⟨List.mem_cons_self, hopen⟩

end Tree

/-! ## 3. Withdrawing alone -/

namespace Applications

variable {world : World} {id : ApplicationId} {tree : Tree} {target : WithdrawalTarget}
  {request : WithdrawalRequest} {today : Date}

theorem run_findTreeOf {e : Entity} (hown : world.store.ownerOf e = some id)
    (htree : world.store.tree? id = some tree) :
    (findTreeOf e).run .none world = (.ok tree, world) := by
  unfold findTreeOf
  rw [Operation.run_bind_of_ok (Operation.run_call_of_ok (a := some id) ?_),
    Operation.run_bind_of_ok Operation.run_demand_some]
  · exact run_findTree htree
  · exact congrArg (fun owner => (Except.ok owner, world.store)) hown

/-- What is done with the outcome of a withdrawal on a tree that was read. -/
def settleWithdrawal (snapshot : Tree) (result : Except CascadeError (WithdrawalOutcome × Tree)) :
    Operation ApplicationError WithdrawalOutcome :=
  match result with
  | .error error => throw (.cascade error)
  | .ok (outcome, after) => do
    if outcome.changed then save snapshot after
    pure outcome

/-- **A withdrawal for a reason that may be given by hand** comes to what it makes of the tree. -/
theorem run_withdraw (hreason : request.reason.isCascaded = false)
    (hown : world.store.ownerOf target.entity = some id)
    (htree : world.store.tree? id = some tree) :
    (withdraw target request today).run .none world =
      (settleWithdrawal tree
        (tree.withdraw target request.reason ⟨today, request.notes⟩)).run .none world := by
  have hobeyed : (obey (InvalidParams.noteIf request.reason.isCascaded "$.reason" "notAllowed")).run
      .none world = (.ok (), world) := by
    rw [hreason]
    rfl
  unfold withdraw
  rw [Operation.run_bind_of_ok hobeyed, Operation.run_bind_of_ok (run_findTreeOf hown htree)]
  rfl

/-- **An open node is taken along.** -/
theorem run_withdraw_of_open (hreason : request.reason.isCascaded = false)
    (hown : world.store.ownerOf target.entity = some id)
    (htree : world.store.tree? id = some tree) (hopen : tree.isOpen target.entity = true) :
    ∃ outcome world', (withdraw target request today).run .none world = (.ok outcome, world') ∧
      target.entity ∈ outcome.withdrawn := by
  obtain ⟨rfl, hstored⟩ := Store.stores_of_tree? htree
  have htaken : ∃ outcome after,
      tree.withdraw target request.reason ⟨today, request.notes⟩ = .ok (outcome, after) ∧
        target.entity ∈ outcome.withdrawn ∧ after.application.id = tree.application.id :=
    Tree.withdraw_of_isOpen hstored.distinctIds hopen
  obtain ⟨outcome, after, hwithdraw, hmem, hid⟩ := htaken
  have hchanged : outcome.changed = true := by
    unfold WithdrawalOutcome.changed
    rw [Bool.not_eq_true', List.isEmpty_eq_false_iff]
    exact List.ne_nil_of_mem hmem
  have hsaved : (save tree after).run .none world =
      (.ok (), { world with store := world.store.putTree after }) :=
    Operation.run_call_of_perform
      (congrArg (Call.settleUnit world.store) (Store.saveTree_of_tree? htree hid))
  refine ⟨outcome, { world with store := world.store.putTree after }, ?_, hmem⟩
  rw [run_withdraw hreason hown htree, hwithdraw]
  unfold settleWithdrawal
  dsimp only
  rw [if_pos hchanged, Operation.run_bind_of_ok hsaved]
  rfl

/-- **Of a node that is not open nothing is withdrawn, and nothing is written.** -/
theorem run_withdraw_of_closed (hreason : request.reason.isCascaded = false)
    (hown : world.store.ownerOf target.entity = some id)
    (htree : world.store.tree? id = some tree) (hin : tree.contains target.entity = true)
    (hclosed : tree.isOpen target.entity = false)
    (harrived : ∀ booking, target = .booking booking → tree.hasArrived booking = false) :
    ∃ skipped, (withdraw target request today).run .none world =
      (.ok ⟨target.entity, [], skipped⟩, world) := by
  obtain ⟨_, hstored⟩ := Store.stores_of_tree? htree
  refine ⟨[⟨target.entity, tree.skipReason target.entity⟩], ?_⟩
  rw [run_withdraw hreason hown htree,
    Tree.withdraw_of_closed hstored.distinctIds hin hclosed harrived]
  rfl

/-- **A booking with an arrival is refused, and nothing is written.** -/
theorem run_withdraw_of_arrived {booking : BookingId}
    (hreason : request.reason.isCascaded = false)
    (hown : world.store.ownerOf (.booking booking) = some id)
    (htree : world.store.tree? id = some tree) (harrived : tree.hasArrived booking = true) :
    (withdraw (.booking booking) request today).run .none world =
      (.error (.cascade (.arrivalRecorded booking)), world) := by
  have hown' : world.store.ownerOf (WithdrawalTarget.booking booking).entity = some id := hown
  rw [run_withdraw hreason hown' htree, Tree.withdraw_of_hasArrived harrived]
  rfl

end Applications

/-! ## 4. In every state -/

namespace System

variable {world : World} {s : System}

/-- **What is listed as withdrawable is what a withdrawal would act on.** In every state that clients
    reach by actions, a node of a tree is listed exactly if its withdrawal, for any reason that may be
    given by hand, takes it along, and it is listed once then. The withdrawal of a node that is not
    listed leaves everything as it is: it is refused for a booking with an arrival and withdraws
    nothing otherwise. -/
theorem reaches_withdrawables (h₀ : world.store.Unused) (h : (idle world).ReachesActing s)
    {id : ApplicationId} {tree : Tree} (htree : s.world.store.tree? id = some tree)
    {target : WithdrawalTarget} (hin : tree.contains target.entity = true)
    {request : WithdrawalRequest} (hreason : request.reason.isCascaded = false) (today : Date) :
    ∃ listed, (Applications.withdrawables id).run .none s.world = (.ok listed, s.world) ∧
      let targets := listed.map Withdrawable.target
      let result := (Applications.withdraw target request today).run .none s.world
      (target ∈ targets ↔ ∃ outcome world',
        result = (.ok outcome, world') ∧ target.entity ∈ outcome.withdrawn) ∧
      (target ∈ targets → targets.count target = 1) ∧
      (target ∉ targets → ∀ booking, target = .booking booking → tree.hasArrived booking = true →
        result = (.error (.cascade (.arrivalRecorded booking)), s.world)) ∧
      (target ∉ targets →
        (∀ booking, target = .booking booking → tree.hasArrived booking = false) →
        ∃ skipped, result = (.ok ⟨target.entity, [], skipped⟩, s.world)) := by
  have hown := ((h.rooted h₀).contains_iff htree).1 hin
  obtain ⟨_, hstored⟩ := Store.stores_of_tree? htree
  have hrefused {booking : BookingId} (hbooking : target = .booking booking)
      (harrived : tree.hasArrived booking = true) :
      (Applications.withdraw target request today).run .none s.world =
        (.error (.cascade (.arrivalRecorded booking)), s.world) := by
    subst hbooking
    exact Applications.run_withdraw_of_arrived hreason hown htree harrived
  have hpassed (hnot : target ∉ tree.withdrawables.map Withdrawable.target)
      (harrived : ∀ booking, target = .booking booking → tree.hasArrived booking = false) :
      ∃ skipped, (Applications.withdraw target request today).run .none s.world =
        (.ok ⟨target.entity, [], skipped⟩, s.world) := by
    have hclosed : tree.isOpen target.entity = false :=
      Bool.eq_false_iff.2 fun hopen => hnot (Tree.mem_withdrawables_iff.2 hopen)
    exact Applications.run_withdraw_of_closed hreason hown htree hin hclosed harrived
  refine ⟨tree.withdrawables, Applications.run_withdrawables htree, ⟨fun hlisted => ?_, ?_⟩,
    fun hlisted => ?_, fun _ booking hbooking harrived => hrefused hbooking harrived, hpassed⟩
  · exact Applications.run_withdraw_of_open hreason hown htree (Tree.mem_withdrawables_iff.1 hlisted)
  · rintro ⟨outcome, world', hrun, hmem⟩
    refine Classical.byContradiction fun hnot => ?_
    by_cases harrived : ∀ booking, target = .booking booking → tree.hasArrived booking = false
    · obtain ⟨skipped, hpassed⟩ := hpassed hnot harrived
      rw [hpassed] at hrun
      cases hrun
      cases hmem
    · push Not at harrived
      obtain ⟨booking, hbooking, harrived⟩ := harrived
      rw [hrefused hbooking (Bool.eq_true_of_not_eq_false harrived)] at hrun
      cases hrun
  · exact List.count_eq_one_of_mem (Tree.nodup_withdrawables hstored.distinctIds) hlisted

/-- A withdrawal for a reason that may be given by hand. -/
def forNoCapacity : WithdrawalRequest := ⟨.noCapacity, none⟩

/-- An application whose first request is booked, with an arrival, and whose placement application has
    been accepted and withdrawn, the second request with it. -/
def halfWithdrawn : System :=
  (idle .oneBed).serveAll
    [.createApplication "X320741", .submit (.numbered .application 1),
      .acceptAssessment (.numbered .assessment 1) ⟨.first, 4⟩,
      .bookRequest (.numbered .placementRequest 1)
        ⟨⟨"premises-1"⟩, ⟨"bed-1"⟩, .first, Date.first.later 4⟩,
      .createPlacement (.numbered .application 1),
      .decidePlacement (.numbered .placementApplication 1) (.accepted ⟨.first, 7⟩),
      .withdraw (.placementApplication (.numbered .placementApplication 1)) forNoCapacity,
      .recordArrival ⟨"premises-1"⟩ (.numbered .booking 1) ⟨.first, Date.first.later 4, none⟩]

theorem reaches_halfWithdrawn : (idle .oneBed).ReachesActing halfWithdrawn :=
  ReachesActing.start.serveAll _

/-- What is listed in that state. -/
def listedHalf : Except ApplicationError (List WithdrawalTarget) :=
  ((Applications.withdrawables (.numbered .application 1)).run .none halfWithdrawn.world).1.map
    (List.map Withdrawable.target)

/-- What a withdrawal comes to in that state. -/
def withdrawHalf (target : WithdrawalTarget) :
    Except ApplicationError WithdrawalOutcome × World :=
  (Applications.withdraw target forNoCapacity .first).run .none halfWithdrawn.world

/-- The application and its first request are listed, and the request is withdrawn if it is asked for.
    The withdrawal of the booking is refused, and that of the placement application comes to nothing. -/
theorem halfWithdrawn_withdrawables :
    let request : WithdrawalTarget := .placementRequest (.numbered .placementRequest 1)
    let placement : WithdrawalTarget := .placementApplication (.numbered .placementApplication 1)
    let booking : BookingId := .numbered .booking 1
    listedHalf = .ok [.application (.numbered .application 1), request] ∧
      (∃ outcome world', withdrawHalf request = (.ok outcome, world') ∧
        request.entity ∈ outcome.withdrawn) ∧
      withdrawHalf (.booking booking) =
        (.error (.cascade (.arrivalRecorded booking)), halfWithdrawn.world) ∧
      ∃ skipped, withdrawHalf placement =
        (.ok ⟨placement.entity, [], skipped⟩, halfWithdrawn.world) := by
  intro request placement booking
  have hlist : listedHalf = .ok [.application (.numbered .application 1), request] := by
    decide +kernel
  have hnodes : (halfWithdrawn.world.store.tree? (.numbered .application 1)).any (fun tree =>
      tree.contains request.entity && tree.contains placement.entity &&
        (tree.contains (WithdrawalTarget.booking booking).entity &&
          tree.hasArrived booking)) = true := by
    decide +kernel
  obtain ⟨tree, htree, hnodes⟩ := (Option.any_eq_true _ _).1 hnodes
  simp only [Bool.and_eq_true] at hnodes
  obtain ⟨⟨hrequest, hplacement⟩, hbooking, harrived⟩ := hnodes
  have hreason : forNoCapacity.reason.isCascaded = false := rfl
  have hlisted {listed : List Withdrawable}
      (hrun : (Applications.withdrawables (.numbered .application 1)).run .none
        halfWithdrawn.world = (.ok listed, halfWithdrawn.world)) :
      listed.map Withdrawable.target = [.application (.numbered .application 1), request] := by
    unfold listedHalf at hlist
    rw [hrun] at hlist
    exact Except.ok.inj hlist
  refine ⟨hlist, ?_, ?_, ?_⟩
  · obtain ⟨listed, hrun, htaken, _⟩ := reaches_withdrawables World.unused_oneBed
      reaches_halfWithdrawn htree hrequest hreason .first
    refine htaken.1 ?_
    rw [hlisted hrun]
    decide
  · obtain ⟨listed, hrun, _, _, hrefused, _⟩ := reaches_withdrawables World.unused_oneBed
      reaches_halfWithdrawn htree hbooking hreason .first
    refine hrefused ?_ booking rfl harrived
    rw [hlisted hrun]
    decide
  · obtain ⟨listed, hrun, _, _, _, hpassed⟩ := reaches_withdrawables World.unused_oneBed
      reaches_halfWithdrawn htree hplacement hreason .first
    refine hpassed ?_ fun _ h => nomatch h
    rw [hlisted hrun]
    decide

end System

end Bedspace
