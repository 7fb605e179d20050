import Bedspace.Proofs.Cascade.Course
import Mathlib.Data.List.Forall2

/-!
# The effect of a withdrawal

A withdrawal changes the affected nodes of a tree and leaves every other record as it was.

* `Tree.Effect` says what becomes of one record, `Tree.WithdrawnTo` says so of all records of a
  tree; a marked node carries the reason that was given if it is the target, and otherwise the one
  that the node above it hands down;
* **`Tree.withdraw_effect`**: a withdrawal fails for a node that is not in the tree and for a booking
  with an arrival, and for nothing else; otherwise it has exactly this effect.
-/

namespace Bedspace

namespace Tree

/-! ## 1. One record -/

/-- **What a withdrawal makes of a record**: it differs afterwards exactly if its node is affected,
    and then by the mark for the reason that comes from where the node hangs. -/
structure Effect (tree : Tree) (target : Entity) (reason : WithdrawalReason) (note : WithdrawalNote)
    {α : Type} [TreeNode α] (before after : α) : Prop where
  sameNode : TreeNode.entity after = TreeNode.entity before
  differs : after ≠ before ↔ tree.Affected target (TreeNode.entity before)
  atTarget : tree.Affected target (TreeNode.entity before) → TreeNode.entity before = target →
    after = TreeNode.stamp note reason before
  below : ∀ parent, tree.Affected target parent → tree.Child parent (TreeNode.entity before) →
    tree.Affected target (TreeNode.entity before) →
    after = TreeNode.stamp note parent.reasonBelow before

variable {tree : Tree} {target : Entity} {reason : WithdrawalReason} {note : WithdrawalNote}

theorem stamp_ne_of_isOpen {α : Type} [TreeNode α] {a : α} (h : TreeNode.isOpen a = true) :
    TreeNode.stamp note reason a ≠ a := by
  intro e
  have hclosed := TreeNode.isOpen_stamp note reason a
  rw [e, h] at hclosed
  exact Bool.false_ne_true hclosed.symm

theorem mem_marked_iff {e : Entity} :
    e ∈ (tree.visits target).filter tree.isOpen ↔ tree.Affected target e := by
  rw [List.mem_filter]
  exact mem_visits_iff

theorem Affected.height_le {e : Entity} (h : tree.Affected target e) : height e ≤ height target :=
  (mem_visits_iff_reached.1 (mem_visits_iff.2 h).1).height_le

theorem effect_mark (ht : tree.DistinctIds) {α : Type} [TreeNode α] {a : α}
    (hagree : tree.isOpen (TreeNode.entity a) = TreeNode.isOpen a) :
    tree.Effect target reason note a
      (TreeNode.mark note (tree.reasonFor target reason)
        ((tree.visits target).filter tree.isOpen) a) where
  sameNode := TreeNode.entity_mark a
  differs := by
    by_cases h : tree.Affected target (TreeNode.entity a)
    · rw [TreeNode.mark_of_mem (mem_marked_iff.2 h)]
      exact iff_of_true (stamp_ne_of_isOpen (hagree ▸ (mem_visits_iff.2 h).2)) h
    · rw [TreeNode.mark_of_not_mem (mt mem_marked_iff.1 h)]
      exact iff_of_false (fun hne => hne rfl) h
  atTarget h e := by
    rw [TreeNode.mark_of_mem (mem_marked_iff.2 h), e, reasonFor_target]
  below parent hp hc h := by
    rw [TreeNode.mark_of_mem (mem_marked_iff.2 h),
      handsDown_reasonFor ht target reason parent _ hc hp.height_le]

/-! ## 2. All records -/

/-- What a withdrawal makes of the records of a tree, each in its place. -/
structure WithdrawnTo (tree : Tree) (target : Entity) (reason : WithdrawalReason)
    (note : WithdrawalNote) (after : Tree) : Prop where
  application : tree.Effect target reason note tree.application after.application
  assessments : List.Forall₂ (tree.Effect target reason note) tree.assessments after.assessments
  placementApplications : List.Forall₂ (tree.Effect target reason note)
    tree.placementApplications after.placementApplications
  placementRequests : List.Forall₂ (tree.Effect target reason note)
    tree.placementRequests after.placementRequests
  bookings : List.Forall₂ (tree.Effect target reason note) tree.bookings after.bookings

/-- What holds between each member and what a function makes of it holds along the lists. -/
theorem forall₂_map_right {α β : Type} {rel : α → β → Prop} {f : α → β} {xs : List α}
    (h : ∀ x ∈ xs, rel x (f x)) : List.Forall₂ rel xs (xs.map f) :=
  List.forall₂_map_right_iff.2 (List.forall₂_same.2 h)

theorem withdrawnTo_marked (ht : tree.DistinctIds) :
    tree.WithdrawnTo target reason note
      (tree.marked note (tree.reasonFor target reason)
        ((tree.visits target).filter tree.isOpen)) where
  application := effect_mark ht isOpen_application
  assessments := forall₂_map_right fun _ ha => effect_mark ht (isOpen_assessment ht ha)
  placementApplications :=
    forall₂_map_right fun _ hp => effect_mark ht (isOpen_placementApplication ht hp)
  placementRequests := forall₂_map_right fun _ hr => effect_mark ht (isOpen_placementRequest ht hr)
  bookings := forall₂_map_right fun _ hb => effect_mark ht (isOpen_booking ht hb)

/-- The tree after a withdrawal that may have failed. -/
def afterWithdrawal (tree : Tree) (target : WithdrawalTarget) (reason : WithdrawalReason)
    (note : WithdrawalNote) : Tree :=
  match tree.withdraw target reason note with
  | .ok (_, after) => after
  | .error _ => tree

theorem withdraw_of_not_contains {target : WithdrawalTarget}
    (h : tree.contains target.entity = false) :
    tree.withdraw target reason note = .error (.notInTree target.entity) := by
  unfold withdraw
  rw [h, Bool.not_false, if_pos rfl]

theorem contains_of_hasArrived {id : BookingId} (h : tree.hasArrived id = true) :
    tree.contains (.booking id) = true := by
  obtain ⟨b, hb, hid⟩ := List.any_eq_true.1 h
  exact List.any_eq_true.2 ⟨b, hb, (Bool.and_eq_true_iff.1 hid).1⟩

theorem withdraw_of_hasArrived {id : BookingId} (h : tree.hasArrived id = true) :
    tree.withdraw (.booking id) reason note = .error (.arrivalRecorded id) := by
  have hin : tree.contains (WithdrawalTarget.booking id).entity = true := contains_of_hasArrived h
  unfold withdraw
  rw [hin, Bool.not_true, if_neg Bool.false_ne_true]
  dsimp only
  rw [h, if_pos rfl]

/-- When a withdrawal fails, and with what. -/
theorem withdraw_eq_error_iff (ht : tree.DistinctIds) {target : WithdrawalTarget}
    {e : CascadeError} :
    tree.withdraw target reason note = .error e ↔
      tree.contains target.entity = false ∧ e = .notInTree target.entity ∨
      ∃ id, target = .booking id ∧ tree.hasArrived id = true ∧ e = .arrivalRecorded id := by
  constructor
  · intro h
    by_cases hin : tree.contains target.entity = true
    · refine .inr (Classical.byContradiction fun hnone => ?_)
      have harrived : ∀ id, target = .booking id → tree.hasArrived id = false := by
        rintro id rfl
        refine Bool.eq_false_iff.2 fun ha => hnone ⟨id, rfl, ha, ?_⟩
        rw [withdraw_of_hasArrived ha] at h
        exact (Except.error.inj h).symm
      rw [withdraw_eq ht hin harrived] at h
      cases h
    · have hin := Bool.eq_false_iff.2 hin
      rw [withdraw_of_not_contains hin] at h
      exact .inl ⟨hin, (Except.error.inj h).symm⟩
  · rintro (⟨hin, rfl⟩ | ⟨id, rfl, ha, rfl⟩)
    · exact withdraw_of_not_contains hin
    · exact withdraw_of_hasArrived ha

/-- **A withdrawal that succeeds** has looked at the nodes from its target on. -/
theorem course_of_withdraw (ht : tree.DistinctIds) {target : WithdrawalTarget}
    {outcome : WithdrawalOutcome} {after : Tree}
    (h : tree.withdraw target reason note = .ok (outcome, after)) :
    let c := tree.course note (tree.reasonFor target.entity reason) (tree.visits target.entity)
    tree.contains target.entity = true ∧
      outcome = ⟨target.entity, c.withdrawn, c.skipped⟩ ∧ after = c.tree := by
  have hnone (e : CascadeError) : tree.withdraw target reason note ≠ .error e := by
    rw [h]
    exact fun h => nomatch h
  have hin : tree.contains target.entity = true := by
    rw [← Bool.not_eq_false]
    exact fun hin => hnone _ ((withdraw_eq_error_iff ht).2 (.inl ⟨hin, rfl⟩))
  have harrived : ∀ id, target = .booking id → tree.hasArrived id = false := by
    intro id hid
    rw [← Bool.not_eq_true]
    exact fun ha => hnone _ ((withdraw_eq_error_iff ht).2 (.inr ⟨id, hid, ha, rfl⟩))
  rw [withdraw_eq ht hin harrived] at h
  obtain ⟨houtcome, hafter⟩ := Prod.mk.inj (Except.ok.inj h)
  exact ⟨hin, houtcome.symm, hafter.symm⟩

/-- **A withdrawal that succeeds marks the open nodes that it looks at**, each for some reason. -/
theorem eq_marked_of_withdraw (ht : tree.DistinctIds) {target : WithdrawalTarget}
    {outcome : WithdrawalOutcome} {after : Tree}
    (h : tree.withdraw target reason note = .ok (outcome, after)) :
    after = tree.marked note (tree.reasonFor target.entity reason)
      ((tree.visits target.entity).filter tree.isOpen) :=
  (course_of_withdraw ht h).2.2

/-- **A withdrawal fails for a node that is not in the tree and for a booking with an arrival;
    otherwise it changes the affected nodes and nothing else.** That the tree is as it was after a
    failure is in the type of a withdrawal, which gives a tree only with an outcome: the tree
    afterwards is then the one that there was before. -/
theorem withdraw_effect (ht : tree.DistinctIds) (target : WithdrawalTarget)
    (reason : WithdrawalReason) (note : WithdrawalNote) :
    (∀ e, tree.withdraw target reason note = .error e ↔
      tree.contains target.entity = false ∧ e = .notInTree target.entity ∨
      ∃ id, target = .booking id ∧ tree.hasArrived id = true ∧ e = .arrivalRecorded id) ∧
    (∀ e, tree.withdraw target reason note = .error e →
      tree.afterWithdrawal target reason note = tree) ∧
    ∀ outcome after, tree.withdraw target reason note = .ok (outcome, after) →
      tree.afterWithdrawal target reason note = after ∧
        tree.WithdrawnTo target.entity reason note after := by
  refine ⟨fun e => withdraw_eq_error_iff ht, fun e h => ?_, fun outcome after h => ⟨?_, ?_⟩⟩
  · unfold afterWithdrawal
    rw [h]
  · unfold afterWithdrawal
    rw [h]
  · rw [eq_marked_of_withdraw ht h]
    exact withdrawnTo_marked ht

/-- An application with a reallocated and an accepted assessment, a placement application, a first
    placement request with a booking that has an arrival, and a further one with an open booking. -/
def sample : Tree where
  application :=
    { id := ⟨"app-1"⟩, crn := "X320741", status := .submitted, createdOn := .first
      submittedOn := some .first, withdrawal := none }
  assessments :=
    let assessment (id : String) (decision : Option Decision) (reallocatedOn : Option Date) :=
      { id := ⟨id⟩, applicationId := ⟨"app-1"⟩, allocatedOn := .first, decision, reallocatedOn
        withdrawn := false }
    [assessment "as-1" none (some .first), assessment "as-2" (some .accepted) none]
  placementApplications :=
    [{ id := ⟨"pa-1"⟩, applicationId := ⟨"app-1"⟩, createdOn := .first, decision := none
       withdrawal := none }]
  placementRequests :=
    let request (id : String) (placement : Option PlacementApplicationId) :=
      { id := ⟨id⟩, applicationId := ⟨"app-1"⟩, placementApplicationId := placement
        expectedArrival := .first, durationDays := 28, createdOn := .first, withdrawal := none }
    [request "pr-1" none, request "pr-2" (some ⟨"pa-1"⟩)]
  bookings :=
    let booking (id request : String) (arrival : Option Arrival) :=
      { id := ⟨id⟩, crn := "X320741", premisesId := ⟨"p1"⟩, bedId := ⟨id⟩, arrivalDate := .first
        departureDate := .last, applicationId := some ⟨"app-1"⟩
        placementRequestId := some ⟨request⟩, createdOn := .first, arrival, nonArrival := none
        cancellation := none }
    [booking "bk-1" "pr-1" (some ⟨.first, .last, none⟩), booking "bk-2" "pr-2" none]

theorem distinctIds_sample : sample.DistinctIds :=
  ⟨by decide, by decide, by decide, by decide⟩

/-- Withdrawn from its application on, that tree changes in six nodes. -/
theorem withdraw_effect_sample :
    ∃ outcome after,
      sample.withdraw (.application ⟨"app-1"⟩) .duplicateApplication ⟨.first, none⟩
        = .ok (outcome, after) ∧ outcome.withdrawn.length = 6 ∧
      sample.WithdrawnTo (.application ⟨"app-1"⟩) .duplicateApplication ⟨.first, none⟩ after := by
  refine ⟨_, _, rfl, by decide, ?_⟩
  exact ((withdraw_effect distinctIds_sample (.application ⟨"app-1"⟩) .duplicateApplication
    ⟨.first, none⟩).2.2 _ _ rfl).2

end Tree

end Bedspace
