import Bedspace.Booking.Lifecycle
import Bedspace.Proofs.Cascade.Effect
import Bedspace.Proofs.Rights

/-!
# What may become of a record

Whatever is written over a stored record differs from it by one change, and that change was due: an
arrival is recorded for a booking that waits for its person, a decision is added to what is
undecided, only what is open is withdrawn.

* `Booking.Change` and the like are the single changes of a record of each kind;
* `Extends` carries a list of records over into another one: record by record, with at most one new
  record after them; `Tree.Revises` says so of all the nodes of a tree;
* every way in which the services change a tree is such a revision (`Tree.amends_withdraw`,
  `Tree.revises_addRequest` and the like), and beside each stand the nodes that it adds and whether
  another assessment stands after it.
-/

namespace Bedspace

/-! ## 1. Records -/

/-- One change of an application. -/
inductive Application.Change : Application → Application → Prop where
  | same (a : Application) : Change a a
  | submission (a : Application) (on : Date) (h : a.status = .inProgress) :
      Change a { a with status := .submitted, submittedOn := some on }
  | withdrawal (a : Application) (withdrawal : Withdrawal) (h : a.isWithdrawn = false) :
      Change a { a with status := .withdrawn, withdrawal := some withdrawal }

/-- One change of an assessment. -/
inductive Assessment.Change : Assessment → Assessment → Prop where
  | same (a : Assessment) : Change a a
  | decision (a : Assessment) (decision : Decision) (h : a.isPending = true) :
      Change a { a with decision := some decision }
  | reallocation (a : Assessment) (on : Date) (h : a.isPending = true) :
      Change a { a with reallocatedOn := some on }
  | withdrawal (a : Assessment) (h : TreeNode.isOpen a = true) :
      Change a { a with withdrawn := true }

/-- One change of a placement application. -/
inductive PlacementApplication.Change : PlacementApplication → PlacementApplication → Prop where
  | same (p : PlacementApplication) : Change p p
  | decision (p : PlacementApplication) (decision : Decision)
      (h : (p.isWithdrawn || p.decision.isSome) = false) :
      Change p { p with decision := some decision }
  | withdrawal (p : PlacementApplication) (withdrawal : Withdrawal) (h : p.isWithdrawn = false) :
      Change p { p with withdrawal := some withdrawal }

/-- One change of a placement request. -/
inductive PlacementRequest.Change : PlacementRequest → PlacementRequest → Prop where
  | same (r : PlacementRequest) : Change r r
  | withdrawal (r : PlacementRequest) (withdrawal : Withdrawal) (h : r.isWithdrawn = false) :
      Change r { r with withdrawal := some withdrawal }

/-- One change of a booking. An arrival moves its dates. -/
inductive Booking.Change : Booking → Booking → Prop where
  | same (b : Booking) : Change b b
  | arrival (b : Booking) (arrival : Arrival) (h : Bookings.awaitingObstacle b = none) :
      Change b
        { b with
          arrivalDate := arrival.arrivalDate, departureDate := arrival.expectedDepartureDate
          arrival := some arrival }
  | nonArrival (b : Booking) (nonArrival : NonArrival) (h : Bookings.awaitingObstacle b = none) :
      Change b { b with nonArrival := some nonArrival }
  | cancellation (b : Booking) (cancellation : Cancellation) (h : TreeNode.isOpen b = true) :
      Change b { b with cancellation := some cancellation }

/-- An application that was only created. -/
structure Application.IsNew (a : Application) : Prop where
  status : a.status = .inProgress
  submittedOn : a.submittedOn = none
  withdrawal : a.withdrawal = none

/-- A booking that waits for its person has nothing recorded yet. -/
theorem Bookings.awaitingObstacle_eq_none {b : Booking} (h : awaitingObstacle b = none) :
    b.arrival = none ∧ b.nonArrival = none ∧ b.cancellation = none := by
  unfold awaitingObstacle at h
  split at h
  · cases h
  · rename_i hcancelled
    split at h
    · cases h
    · rename_i harrival
      split at h
      · cases h
      · rename_i hnonArrival
        refine ⟨?_, ?_, ?_⟩
        · simpa [Booking.hasArrival] using harrival
        · simpa using hnonArrival
        · simpa [Booking.isCancelled] using hcancelled

namespace Application.Change

variable {a a' : Application} (h : a.Change a')

include h

theorem id_eq : a'.id = a.id := by
  cases h <;> rfl

theorem status_ne_inProgress (hs : a.status ≠ .inProgress) : a'.status ≠ .inProgress := by
  cases h with
  | same => exact hs
  | submission | withdrawal => exact fun e => nomatch e

end Application.Change

namespace Assessment.Change

variable {a a' : Assessment} (h : a.Change a')

include h

theorem id_eq : a'.id = a.id := by
  cases h <;> rfl

theorem applicationId_eq : a'.applicationId = a.applicationId := by
  cases h <;> rfl

end Assessment.Change

namespace PlacementApplication.Change

variable {p p' : PlacementApplication} (h : p.Change p')

include h

theorem id_eq : p'.id = p.id := by
  cases h <;> rfl

theorem applicationId_eq : p'.applicationId = p.applicationId := by
  cases h <;> rfl

end PlacementApplication.Change

namespace PlacementRequest.Change

variable {r r' : PlacementRequest} (h : r.Change r')

include h

theorem id_eq : r'.id = r.id := by
  cases h <;> rfl

theorem applicationId_eq : r'.applicationId = r.applicationId := by
  cases h <;> rfl

theorem placementApplicationId_eq : r'.placementApplicationId = r.placementApplicationId := by
  cases h <;> rfl

end PlacementRequest.Change

namespace Booking.Change

variable {b b' : Booking} (h : b.Change b')

include h

theorem id_eq : b'.id = b.id := by
  cases h <;> rfl

theorem bedId_eq : b'.bedId = b.bedId := by
  cases h <;> rfl

theorem links_eq : b'.links = b.links := by
  cases h <;> rfl

/-- What is cancelled stays cancelled. -/
theorem isCancelled_of (hlive : b'.isCancelled = false) : b.isCancelled = false := by
  cases h with
  | same | arrival | nonArrival => exact hlive
  | cancellation cancellation _ => cases hlive

end Booking.Change

/-! ## 2. Lists of records -/

section Lists

variable {α : Type}

/-- **A list of records is carried over into another one**: each record along `rel`, and at most one
    more record comes after them. -/
structure Extends (rel : α → α → Prop) (before after : List α) : Prop where
  kept : List.Forall₂ rel before (after.take before.length)
  added : (after.drop before.length).length ≤ 1

variable {rel : α → α → Prop} {xs ys : List α}

theorem exists_of_forall₂ {β : Type} {rel : α → β → Prop} {ys : List β}
    (h : List.Forall₂ rel xs ys) {y : β} (hy : y ∈ ys) : ∃ x ∈ xs, rel x y := by
  induction h with
  | nil => cases hy
  | cons hxy _ ih =>
    rcases List.mem_cons.1 hy with rfl | hy
    · exact ⟨_, List.mem_cons_self, hxy⟩
    · obtain ⟨x, hx, hrel⟩ := ih hy
      exact ⟨x, List.mem_cons_of_mem _ hx, hrel⟩

/-- What is carried over is still there. -/
theorem Extends.stays (h : Extends rel xs ys) {x : α} (hx : x ∈ xs) : ∃ y ∈ ys, rel x y := by
  have hback : List.Forall₂ (fun y x => rel x y) (ys.take xs.length) xs := h.kept.flip
  obtain ⟨y, hy, hrel⟩ := exists_of_forall₂ hback hx
  exact ⟨y, List.mem_of_mem_take hy, hrel⟩

/-- What is there was carried over or comes after the others. -/
theorem Extends.comes (h : Extends rel xs ys) {y : α} (hy : y ∈ ys) :
    (∃ x ∈ xs, rel x y) ∨ y ∈ ys.drop xs.length := by
  rw [← List.take_append_drop xs.length ys] at hy
  exact (List.mem_append.1 hy).imp_left fun hy => exists_of_forall₂ h.kept hy

/-- What holds of all before holds of all after them, if changes keep it and it holds of what is new. -/
theorem Extends.forall_mem (h : Extends rel xs ys) {p : α → Prop}
    (hrel : ∀ x y, rel x y → p x → p y) (hnew : ∀ y ∈ ys.drop xs.length, p y)
    (hall : ∀ x ∈ xs, p x) : ∀ y ∈ ys, p y := by
  intro y hy
  rcases h.comes hy with ⟨x, hx, hxy⟩ | hy
  · exact hrel x y hxy (hall x hx)
  · exact hnew y hy

theorem drop_of_forall₂ (h : List.Forall₂ rel xs ys) : ys.drop xs.length = [] := by
  rw [h.length_eq, List.drop_length]

theorem Extends.of_forall₂ (h : List.Forall₂ rel xs ys) : Extends rel xs ys where
  kept := by
    rw [h.length_eq, List.take_length]
    exact h
  added := by
    rw [drop_of_forall₂ h]
    exact Nat.zero_le 1

theorem drop_append_singleton (h : ys.length = xs.length) (a : α) :
    (ys ++ [a]).drop xs.length = [a] := by
  rw [← h, List.drop_left]

theorem Extends.append_singleton (h : List.Forall₂ rel xs ys) (a : α) :
    Extends rel xs (ys ++ [a]) where
  kept := by
    rw [h.length_eq, List.take_left]
    exact h
  added := by
    rw [drop_append_singleton h.length_eq.symm]
    exact Nat.le_refl 1

/-- Changing the first member that satisfies a condition carries the list over. -/
theorem forall₂_updateFirst {p : α → Bool} {f : α → α} (hrefl : ∀ x, rel x x)
    (hf : ∀ x, xs.find? p = some x → rel x (f x)) : List.Forall₂ rel xs (updateFirst p f xs) := by
  induction xs with
  | nil => exact .nil
  | cons x xs ih =>
    unfold updateFirst
    by_cases hp : p x = true
    · rw [if_pos hp]
      exact .cons (hf x (List.find?_cons_of_pos hp)) (List.forall₂_same.2 fun y _ => hrefl y)
    · rw [if_neg hp]
      refine .cons (hrefl x) (ih fun y hy => hf y ?_)
      rw [List.find?_cons_of_neg hp]
      exact hy

/-- Of a list in which the first member that satisfies a condition is changed, the rest is as it was. -/
theorem exists_of_updateFirst {p : α → Bool} {a : α} (h : xs.find? p = some a) (f : α → α) :
    ∃ front back, xs = front ++ a :: back ∧ updateFirst p f xs = front ++ f a :: back := by
  induction xs with
  | nil => cases h
  | cons x xs ih =>
    unfold updateFirst
    by_cases hp : p x = true
    · rw [List.find?_cons_of_pos hp] at h
      obtain rfl := Option.some.inj h
      exact ⟨[], xs, rfl, if_pos hp⟩
    · rw [List.find?_cons_of_neg hp] at h
      obtain ⟨front, back, rfl, hupdated⟩ := ih h
      refine ⟨x :: front, back, rfl, ?_⟩
      rw [if_neg hp, hupdated]
      rfl

/-- What changing the first member that satisfies a condition does to a count. -/
theorem countP_updateFirst {p q : α → Bool} {f : α → α} {a : α} (h : xs.find? p = some a) :
    (updateFirst p f xs).countP q + [a].countP q = xs.countP q + [f a].countP q := by
  obtain ⟨front, back, rfl, hupdated⟩ := exists_of_updateFirst h f
  rw [hupdated]
  simp only [List.countP_append, List.countP_cons, List.countP_nil]
  omega

/-- Marks on some nodes carry the records over, if each open one may be stamped. -/
theorem forall₂_mark [TreeNode α] {note : WithdrawalNote} {reasonOf : Entity → WithdrawalReason}
    {marked : List Entity} (hrefl : ∀ x, rel x x)
    (hopen : ∀ x ∈ xs, TreeNode.entity x ∈ marked → TreeNode.isOpen x = true)
    (hstamp : ∀ x reason, TreeNode.isOpen x = true → rel x (TreeNode.stamp note reason x)) :
    List.Forall₂ rel xs (xs.map (TreeNode.mark note reasonOf marked)) := by
  refine Tree.forall₂_map_right fun x hx => ?_
  by_cases hmem : TreeNode.entity x ∈ marked
  · rw [TreeNode.mark_of_mem hmem]
    exact hstamp x _ (hopen x hx hmem)
  · rw [TreeNode.mark_of_not_mem hmem]
    exact hrefl x

end Lists

/-! ## 3. Trees -/

namespace Tree

/-- **A tree is amended into another one**: every node has changed once at most, and there are no
    others. -/
structure Amends (before after : Tree) : Prop where
  application : before.application.Change after.application
  assessments : List.Forall₂ Assessment.Change before.assessments after.assessments
  placements : List.Forall₂ PlacementApplication.Change before.placementApplications
    after.placementApplications
  requests : List.Forall₂ PlacementRequest.Change before.placementRequests after.placementRequests
  bookings : List.Forall₂ Booking.Change before.bookings after.bookings

/-- **A tree is a revision of another one**: every node is carried over, and new nodes belong to the
    application and have nothing recorded yet. -/
structure Revises (before after : Tree) : Prop where
  application : before.application.Change after.application
  assessments : Extends Assessment.Change before.assessments after.assessments
  placements : Extends PlacementApplication.Change before.placementApplications
    after.placementApplications
  requests : Extends PlacementRequest.Change before.placementRequests after.placementRequests
  bookings : List.Forall₂ Booking.Change before.bookings after.bookings
  newAssessments : ∀ a ∈ after.assessments.drop before.assessments.length,
    a.applicationId = before.application.id ∧ a.isPending = true
  newPlacements : ∀ p ∈ after.placementApplications.drop before.placementApplications.length,
    p.applicationId = before.application.id ∧ (p.isWithdrawn || p.decision.isSome) = false
  newRequests : ∀ r ∈ after.placementRequests.drop before.placementRequests.length,
    r.applicationId = before.application.id ∧ r.isWithdrawn = false

variable {before tree : Tree}

theorem Amends.refl (tree : Tree) : tree.Amends tree where
  application := .same _
  assessments := List.forall₂_same.2 fun a _ => .same a
  placements := List.forall₂_same.2 fun p _ => .same p
  requests := List.forall₂_same.2 fun r _ => .same r
  bookings := List.forall₂_same.2 fun b _ => .same b

theorem amends_updateAssessment {id : AssessmentId} {f : Assessment → Assessment}
    (h : ∀ a, tree.assessments.find? (fun a => a.id = id) = some a → a.Change (f a)) :
    tree.Amends (tree.updateAssessment id f) :=
  { Amends.refl tree with assessments := forall₂_updateFirst Assessment.Change.same h }

theorem amends_decidePlacement {id : PlacementApplicationId} {decision : Decision}
    {placement : PlacementApplication}
    (hfind : tree.placementApplications.find? (fun p => p.id = id) = some placement)
    (hopen : (placement.isWithdrawn || placement.decision.isSome) = false) :
    tree.Amends (tree.decidePlacement id decision) := by
  refine { Amends.refl tree with
    placements := forall₂_updateFirst PlacementApplication.Change.same fun p hp => ?_ }
  obtain rfl : placement = p := Option.some.inj (hfind.symm.trans hp)
  exact .decision placement decision hopen

theorem amends_withdraw (ht : tree.DistinctIds) {target : WithdrawalTarget}
    {reason : WithdrawalReason} {note : WithdrawalNote} {outcome : WithdrawalOutcome} {after : Tree}
    (h : tree.withdraw target reason note = .ok (outcome, after)) : tree.Amends after := by
  rw [eq_marked_of_withdraw ht h]
  have isOpen_of_marked {e : Entity}
      (he : e ∈ (tree.visits target.entity).filter tree.isOpen) : tree.isOpen e = true :=
    (List.mem_filter.1 he).2
  refine ⟨?_, ?_, ?_, ?_, ?_⟩
  · by_cases hmem : TreeNode.entity tree.application
        ∈ (tree.visits target.entity).filter tree.isOpen
    · have hopen : TreeNode.isOpen tree.application = true :=
        isOpen_application.symm.trans (isOpen_of_marked hmem)
      unfold marked
      rw [TreeNode.mark_of_mem hmem]
      exact .withdrawal _ _ (by simpa [TreeNode.isOpen] using hopen)
    · unfold marked
      rw [TreeNode.mark_of_not_mem hmem]
      exact .same _
  · refine forall₂_mark .same (fun a ha he => ?_) fun a _ hopen => .withdrawal a hopen
    exact (isOpen_assessment ht ha).symm.trans (isOpen_of_marked he)
  · refine forall₂_mark .same (fun p hp he => ?_) fun p reason hopen => .withdrawal p _ ?_
    · exact (isOpen_placementApplication ht hp).symm.trans (isOpen_of_marked he)
    · simpa [TreeNode.isOpen] using hopen
  · refine forall₂_mark .same (fun r hr he => ?_) fun r reason hopen => .withdrawal r _ ?_
    · exact (isOpen_placementRequest ht hr).symm.trans (isOpen_of_marked he)
    · simpa [TreeNode.isOpen] using hopen
  · refine forall₂_mark .same (fun b hb he => ?_) fun b reason hopen => .cancellation b _ hopen
    exact (isOpen_booking ht hb).symm.trans (isOpen_of_marked he)

namespace Amends

variable (h : before.Amends tree)

include h

theorem revises : before.Revises tree where
  application := h.application
  assessments := .of_forall₂ h.assessments
  placements := .of_forall₂ h.placements
  requests := .of_forall₂ h.requests
  bookings := h.bookings
  newAssessments a ha := by
    rw [drop_of_forall₂ h.assessments] at ha
    cases ha
  newPlacements p hp := by
    rw [drop_of_forall₂ h.placements] at hp
    cases hp
  newRequests r hr := by
    rw [drop_of_forall₂ h.requests] at hr
    cases hr

theorem revises_addAssessment {a : Assessment} (ha : a.applicationId = before.application.id)
    (hnew : a.isPending = true) : before.Revises (tree.addAssessment a) :=
  { h.revises with
    assessments := .append_singleton h.assessments a
    newAssessments := fun x hx => by
      rw [addAssessment, drop_append_singleton h.assessments.length_eq.symm] at hx
      obtain rfl := List.mem_singleton.1 hx
      exact ⟨ha, hnew⟩ }

theorem revises_addPlacement {p : PlacementApplication}
    (hp : p.applicationId = before.application.id)
    (hnew : (p.isWithdrawn || p.decision.isSome) = false) :
    before.Revises (tree.addPlacement p) :=
  { h.revises with
    placements := .append_singleton h.placements p
    newPlacements := fun x hx => by
      rw [addPlacement, drop_append_singleton h.placements.length_eq.symm] at hx
      obtain rfl := List.mem_singleton.1 hx
      exact ⟨hp, hnew⟩ }

theorem revises_addRequest {r : PlacementRequest} (hr : r.applicationId = before.application.id)
    (hnew : r.isWithdrawn = false) : before.Revises (tree.addRequest r) :=
  { h.revises with
    requests := .append_singleton h.requests r
    newRequests := fun x hx => by
      rw [addRequest, drop_append_singleton h.requests.length_eq.symm] at hx
      obtain rfl := List.mem_singleton.1 hx
      exact ⟨hr, hnew⟩ }

theorem added : before.added tree = [] := by
  unfold Tree.added
  rw [drop_of_forall₂ h.assessments, drop_of_forall₂ h.placements, drop_of_forall₂ h.requests]
  rfl

theorem added_addAssessment (a : Assessment) :
    before.added (tree.addAssessment a) = [.issued .assessment a.id] := by
  unfold Tree.added addAssessment
  dsimp only
  rw [drop_append_singleton h.assessments.length_eq.symm, drop_of_forall₂ h.placements,
    drop_of_forall₂ h.requests]
  rfl

theorem added_addPlacement (p : PlacementApplication) :
    before.added (tree.addPlacement p) = [.issued .placementApplication p.id] := by
  unfold Tree.added addPlacement
  dsimp only
  rw [drop_append_singleton h.placements.length_eq.symm, drop_of_forall₂ h.assessments,
    drop_of_forall₂ h.requests]
  rfl

theorem added_addRequest (r : PlacementRequest) :
    before.added (tree.addRequest r) = [.issued .placementRequest r.id] := by
  unfold Tree.added addRequest
  dsimp only
  rw [drop_append_singleton h.requests.length_eq.symm, drop_of_forall₂ h.assessments,
    drop_of_forall₂ h.placements]
  rfl

end Amends

/-! ## 4. Standing assessments -/

theorem standing_decideAssessment {id : AssessmentId} {decision : Decision} {a : Assessment}
    (h : tree.assessments.find? (fun a => a.id = id) = some a) :
    (tree.decideAssessment id decision).standing = tree.standing :=
  Nat.add_right_cancel (countP_updateFirst h)

/-- The assessment that is handed on stands no more, the new one does. -/
theorem standing_reallocate {id : AssessmentId} {on : Date} {a new : Assessment}
    (h : tree.assessments.find? (fun a => a.id = id) = some a) (ha : a.isPending = true)
    (hnew : new.reallocatedOn = none) :
    ((tree.updateAssessment id fun a => { a with reallocatedOn := some on }).addAssessment
      new).standing = tree.standing := by
  have hcount := countP_updateFirst (q := fun a => a.reallocatedOn.isNone)
    (f := fun a => { a with reallocatedOn := some on }) h
  have hstood : a.reallocatedOn = none := (Assessment.isPending_iff.1 ha).2.1
  unfold standing updateAssessment addAssessment
  rw [List.countP_append]
  simp only [List.countP_cons, List.countP_nil, hnew, hstood] at hcount ⊢
  simpa using hcount

theorem standing_addAssessment {a : Assessment} (h : a.reallocatedOn = none) :
    (tree.addAssessment a).standing = tree.standing + 1 := by
  unfold standing addAssessment
  rw [List.countP_append]
  simp [h]

theorem standing_withdraw (ht : tree.DistinctIds) {target : WithdrawalTarget}
    {reason : WithdrawalReason} {note : WithdrawalNote} {outcome : WithdrawalOutcome} {after : Tree}
    (h : tree.withdraw target reason note = .ok (outcome, after)) :
    after.standing = tree.standing := by
  rw [eq_marked_of_withdraw ht h]
  unfold standing marked
  rw [List.countP_map]
  refine List.countP_congr fun a _ => ?_
  have hsame : (TreeNode.mark note (tree.reasonFor target.entity reason)
      ((tree.visits target.entity).filter tree.isOpen) a).reallocatedOn = a.reallocatedOn :=
    TreeNode.apply_mark (fun _ _ => rfl) a
  rw [Function.comp_apply, hsame]

end Tree

end Bedspace
