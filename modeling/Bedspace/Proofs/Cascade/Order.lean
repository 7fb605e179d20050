import Bedspace.Proofs.Cascade.Standing

/-!
# Withdrawals in any order

A withdrawal goes down through what is still open. What an earlier one has closed is passed over,
with everything below it, so it has to be seen that nothing is missed in this way, whichever of two
withdrawals comes first.

* `Tree.plain` leaves out of a tree what was given for its marks; trees that are the same then have
  the same nodes open, withdrawn, cancelled and arrived (`Tree.SameMarks`);
* `Tree.afterWithdrawal_eq`: a withdrawal marks the affected nodes, of which there are none if it
  fails; after it, another one affects those of its nodes that the first has not
  (`Tree.affected_either_iff`);
* **`Tree.withdraw_in_any_order`**: a withdrawal that is repeated withdraws nothing, and two of them
  come to the same in either order.
-/

namespace Bedspace

/-! ## 1. Marks without what was given for them -/

/-- A withdrawal of which nothing is told. -/
def Withdrawal.blank : Withdrawal := ⟨.other, .first, none⟩

/-- A cancellation of which nothing is told. -/
def Cancellation.blank : Cancellation := ⟨.first, .other, none⟩

/-- A kind of record that can be told without the reason, the date and the notes of its mark. -/
class PlainNode (α : Type) [TreeNode α] where
  plain : α → α
  isOpen_plain : ∀ a, TreeNode.isOpen (plain a) = TreeNode.isOpen a
  plain_stamp : ∀ note reason note' reason' a,
    plain (TreeNode.stamp note reason a) = plain (TreeNode.stamp note' reason' a)

instance : PlainNode Application where
  plain a := { a with withdrawal := a.withdrawal.map fun _ => .blank }
  isOpen_plain _ := rfl
  plain_stamp _ _ _ _ _ := rfl

/-- Nothing is given for the mark on an assessment. -/
instance : PlainNode Assessment where
  plain a := a
  isOpen_plain _ := rfl
  plain_stamp _ _ _ _ _ := rfl

instance : PlainNode PlacementApplication where
  plain p := { p with withdrawal := p.withdrawal.map fun _ => .blank }
  isOpen_plain _ := congrArg not Option.isSome_map
  plain_stamp _ _ _ _ _ := rfl

instance : PlainNode PlacementRequest where
  plain r := { r with withdrawal := r.withdrawal.map fun _ => .blank }
  isOpen_plain _ := congrArg not Option.isSome_map
  plain_stamp _ _ _ _ _ := rfl

instance : PlainNode Booking where
  plain b := { b with cancellation := b.cancellation.map fun _ => .blank }
  isOpen_plain b := congrArg (fun cancelled => !b.hasArrival && !cancelled) Option.isSome_map
  plain_stamp _ _ _ _ _ := rfl

instance : PlainNode NodeRecord where
  plain
    | .application a => .application (PlainNode.plain a)
    | .assessment a => .assessment (PlainNode.plain a)
    | .placementApplication p => .placementApplication (PlainNode.plain p)
    | .placementRequest r => .placementRequest (PlainNode.plain r)
    | .booking b => .booking (PlainNode.plain b)
  isOpen_plain
    | .application a => PlainNode.isOpen_plain a
    | .assessment a => PlainNode.isOpen_plain a
    | .placementApplication p => PlainNode.isOpen_plain p
    | .placementRequest r => PlainNode.isOpen_plain r
    | .booking b => PlainNode.isOpen_plain b
  plain_stamp
    | _, _, _, _, .application _ => rfl
    | _, _, _, _, .assessment _ => rfl
    | _, _, _, _, .placementApplication _ => rfl
    | _, _, _, _, .placementRequest _ => rfl
    | _, _, _, _, .booking _ => rfl

/-- The state of a record does not depend on what was given for its mark. -/
theorem SkipReason.describes_plain (state : SkipReason) (r : NodeRecord) :
    state.describes (PlainNode.plain r) = state.describes r := by
  cases r with
  | application a => cases state <;> rfl
  | assessment a => cases state <;> rfl
  | placementApplication p =>
    cases state with
    | alreadyWithdrawn => exact Option.isSome_map
    | arrivalRecorded | alreadyCancelled | reallocated => rfl
  | placementRequest r =>
    cases state with
    | alreadyWithdrawn => exact Option.isSome_map
    | arrivalRecorded | alreadyCancelled | reallocated => rfl
  | booking b =>
    cases state with
    | alreadyCancelled => exact Option.isSome_map
    | arrivalRecorded | alreadyWithdrawn | reallocated => rfl

/-- A tree without the reasons, dates and notes of its marks. -/
def Tree.plain (tree : Tree) : Tree where
  application := PlainNode.plain tree.application
  assessments := tree.assessments.map PlainNode.plain
  placementApplications := tree.placementApplications.map PlainNode.plain
  placementRequests := tree.placementRequests.map PlainNode.plain
  bookings := tree.bookings.map PlainNode.plain

/-- **Two trees with the same marks**: they hold the same records but for the reasons, dates and
    notes of the marks, and so have the same nodes, of which the same ones are open, withdrawn,
    cancelled, arrived and reallocated. -/
structure Tree.SameMarks (tree tree' : Tree) : Prop where
  plain : tree.plain = tree'.plain
  contains : ∀ e, tree.contains e = tree'.contains e
  isOpen : ∀ e, tree.isOpen e = tree'.isOpen e
  stands : ∀ state e, tree.stands state e = tree'.stands state e

namespace Tree

variable {tree tree' : Tree}

theorem record?_plain (e : Entity) :
    tree.plain.record? e = (tree.record? e).map PlainNode.plain := by
  cases e with
  | application id =>
    show (if tree.application.id = id then _ else _) = _
    unfold record?
    dsimp only
    split
    · rfl
    · rfl
  | assessment id | placementApplication id | placementRequest id | booking id =>
    exact TreeNode.find?_map_of_id (fun _ => rfl) fun _ => rfl

theorem SameMarks.of_plain_eq (ht : tree.DistinctIds) (ht' : tree'.DistinctIds)
    (h : tree.plain = tree'.plain) : tree.SameMarks tree' := by
  have hrecord (e : Entity) :
      (tree.record? e).map PlainNode.plain = (tree'.record? e).map PlainNode.plain := by
    rw [← record?_plain, h, record?_plain]
  -- what does not depend on what was given for a mark is the same of both records
  have hsame {p : NodeRecord → Bool} (hp : ∀ r, p (PlainNode.plain r) = p r) (e : Entity) :
      (tree.record? e).any p = (tree'.record? e).any p := by
    have hany (found : Option NodeRecord) : (found.map PlainNode.plain).any p = found.any p := by
      rw [Option.any_map]
      exact congrArg (fun p => found.any p) (funext hp)
    rw [← hany, hrecord, hany]
  refine ⟨h, fun e => ?_, fun e => ?_, fun state e => hsame state.describes_plain e⟩
  · rw [contains_eq_isSome, contains_eq_isSome, ← Option.isSome_map, hrecord, Option.isSome_map]
  · rw [isOpen_eq_any ht, isOpen_eq_any ht']
    exact hsame PlainNode.isOpen_plain e

/-! ## 2. Marks that are the same -/

section Marks

variable {note note' : WithdrawalNote} {reasonOf reasonOf' : Entity → WithdrawalReason}
  {marked marked' : List Entity}

/-- What is given for a mark makes no difference to a plain record. -/
theorem plain_mark_congr {α : Type} [TreeNode α] [PlainNode α] {a : α}
    (h : TreeNode.entity a ∈ marked ↔ TreeNode.entity a ∈ marked') :
    PlainNode.plain (TreeNode.mark note reasonOf marked a) =
      PlainNode.plain (TreeNode.mark note' reasonOf' marked' a) := by
  unfold TreeNode.mark
  by_cases ha : TreeNode.entity a ∈ marked
  · rw [if_pos ha, if_pos (h.1 ha), PlainNode.plain_stamp]
  · rw [if_neg ha, if_neg (mt h.2 ha)]

/-- One mark after another one, on other nodes, comes to marks on all of them. -/
theorem plain_mark_mark {α : Type} [TreeNode α] [PlainNode α] (hapart : marked.Disjoint marked')
    (a : α) :
    PlainNode.plain (TreeNode.mark note' reasonOf' marked' (TreeNode.mark note reasonOf marked a)) =
      PlainNode.plain (TreeNode.mark note reasonOf (marked ++ marked') a) := by
  by_cases ha : TreeNode.entity a ∈ marked
  · have hnot : TreeNode.entity (TreeNode.mark note reasonOf marked a) ∉ marked' := by
      rw [TreeNode.entity_mark]
      exact hapart ha
    rw [TreeNode.mark_of_not_mem hnot, TreeNode.mark_of_mem ha,
      TreeNode.mark_of_mem (List.mem_append_left marked' ha)]
  · rw [TreeNode.mark_of_not_mem ha]
    refine plain_mark_congr ?_
    rw [List.mem_append, or_iff_right ha]

theorem plain_marked_congr (h : ∀ e, e ∈ marked ↔ e ∈ marked') :
    (tree.marked note reasonOf marked).plain = (tree.marked note' reasonOf' marked').plain := by
  have records {α : Type} [TreeNode α] [PlainNode α] (xs : List α) :
      (xs.map (TreeNode.mark note reasonOf marked)).map PlainNode.plain =
        (xs.map (TreeNode.mark note' reasonOf' marked')).map PlainNode.plain := by
    rw [List.map_map, List.map_map]
    exact List.map_congr_left fun a _ => plain_mark_congr (h _)
  unfold Tree.plain Tree.marked
  dsimp only
  rw [plain_mark_congr (h _), records, records, records, records]

theorem plain_marked_marked (hapart : marked.Disjoint marked') :
    ((tree.marked note reasonOf marked).marked note' reasonOf' marked').plain =
      (tree.marked note reasonOf (marked ++ marked')).plain := by
  have records {α : Type} [TreeNode α] [PlainNode α] (xs : List α) :
      ((xs.map (TreeNode.mark note reasonOf marked)).map
        (TreeNode.mark note' reasonOf' marked')).map PlainNode.plain =
        (xs.map (TreeNode.mark note reasonOf (marked ++ marked'))).map PlainNode.plain := by
    rw [List.map_map, List.map_map, List.map_map]
    exact List.map_congr_left fun a _ => plain_mark_mark hapart a
  unfold Tree.plain Tree.marked
  dsimp only
  rw [plain_mark_mark hapart, records, records, records, records]

/-! ## 3. The way down after an earlier withdrawal -/

/-- What is chosen and told of records in a way that stamps leave alone stays with marks. -/
theorem map_filter_mark {α β : Type} [TreeNode α] {p : α → Bool} {f : α → β}
    (hp : ∀ reason a, p (TreeNode.stamp note reason a) = p a)
    (hf : ∀ reason a, f (TreeNode.stamp note reason a) = f a) (xs : List α) :
    ((xs.map (TreeNode.mark note reasonOf marked)).filter p).map f = (xs.filter p).map f := by
  have hchosen : p ∘ TreeNode.mark note reasonOf marked = p := funext (TreeNode.apply_mark hp)
  rw [List.filter_map, hchosen, List.map_map]
  exact List.map_congr_left fun a _ => TreeNode.apply_mark hf a

/-- **Marks leave every node hanging where it is.** -/
theorem children_marked (e : Entity) :
    (tree.marked note reasonOf marked).children e = tree.children e := by
  have nodes {α : Type} [TreeNode α] {f : α → Entity}
      (hf : ∀ reason a, f (TreeNode.stamp note reason a) = f a) (xs : List α) :
      (xs.map (TreeNode.mark note reasonOf marked)).map f = xs.map f := by
    rw [List.map_map]
    exact List.map_congr_left fun a _ => TreeNode.apply_mark hf a
  have requests (p : Option PlacementApplicationId → Bool) :
      ((tree.placementRequests.map (TreeNode.mark note reasonOf marked)).filter
        fun r => p r.placementApplicationId).map (fun r => Entity.placementRequest r.id) =
      (tree.placementRequests.filter fun r => p r.placementApplicationId).map
        fun r => Entity.placementRequest r.id :=
    map_filter_mark (fun _ _ => rfl) (fun _ _ => rfl) _
  have bookings (p : Option PlacementRequestId → Bool) :
      ((tree.bookings.map (TreeNode.mark note reasonOf marked)).filter
        fun b => p b.placementRequestId).map (fun b => Entity.booking b.id) =
      (tree.bookings.filter fun b => p b.placementRequestId).map fun b => Entity.booking b.id :=
    map_filter_mark (fun _ _ => rfl) (fun _ _ => rfl) _
  cases e with
  | application id =>
    have hid : (TreeNode.mark note reasonOf marked tree.application).id = tree.application.id :=
      Application.filedBy.id_mark tree.application
    have hassessments : (tree.assessments.map (TreeNode.mark note reasonOf marked)).map
        (fun a => Entity.assessment a.id) = tree.assessments.map fun a => .assessment a.id :=
      nodes (fun _ _ => rfl) _
    have hplacements :
        (tree.placementApplications.map (TreeNode.mark note reasonOf marked)).map
          (fun p => Entity.placementApplication p.id) =
        tree.placementApplications.map fun p => .placementApplication p.id :=
      nodes (fun _ _ => rfl) _
    unfold children Tree.marked
    dsimp only
    rw [hid, hassessments, hplacements, requests Option.isNone, bookings Option.isNone]
  | placementApplication id => exact requests fun placement => placement = some id
  | placementRequest id => exact bookings fun request => request = some id
  | assessment id | booking id => rfl

theorem child_marked_iff {parent child : Entity} :
    (tree.marked note reasonOf marked).Child parent child ↔ tree.Child parent child := by
  rw [← mem_children_iff, children_marked, mem_children_iff]

end Marks

/-- A target whose withdrawal fails is not open. -/
theorem isOpen_eq_false_of_error (ht : tree.DistinctIds) {target : WithdrawalTarget}
    {reason : WithdrawalReason} {note : WithdrawalNote} {e : CascadeError}
    (h : tree.withdraw target reason note = .error e) : tree.isOpen target.entity = false := by
  refine Bool.eq_false_iff.2 fun hopen => ?_
  rcases (withdraw_eq_error_iff ht).1 h with ⟨hnot, _⟩ | ⟨id, rfl, harrived, _⟩
  · rw [contains_of_isOpen hopen] at hnot
    cases hnot
  · rw [hasArrived_eq_false_of_isOpen ht hopen] at harrived
    cases harrived

/-- **A withdrawal, whether it succeeds or fails, marks what is open among the nodes from its target
    on.** -/
theorem afterWithdrawal_eq (ht : tree.DistinctIds) (target : WithdrawalTarget)
    (reason : WithdrawalReason) (note : WithdrawalNote) :
    tree.afterWithdrawal target reason note =
      tree.marked note (tree.reasonFor target.entity reason)
        ((tree.visits target.entity).filter tree.isOpen) := by
  unfold afterWithdrawal
  cases h : tree.withdraw target reason note with
  | ok result => exact eq_marked_of_withdraw ht h
  | error e =>
    have hclosed := isOpen_eq_false_of_error ht h
    rw [Cascade.visits_of_closed hclosed, List.filter_singleton, hclosed]
    exact marked_nil.symm

/-- When a withdrawal fails does not depend on marks, nor on what it gives for its own ones. -/
theorem withdraw_marked_eq_error_iff (ht : tree.DistinctIds) {target : WithdrawalTarget}
    {reason reason' : WithdrawalReason} {note note' noteOf : WithdrawalNote}
    {reasonOf : Entity → WithdrawalReason} {marked : List Entity} {e : CascadeError} :
    (tree.marked noteOf reasonOf marked).withdraw target reason note = .error e ↔
      tree.withdraw target reason' note' = .error e := by
  rw [withdraw_eq_error_iff ht, withdraw_eq_error_iff (distinctIds_marked ht), contains_marked]
  simp only [hasArrived_marked]

section Either

variable {first second e : Entity} {note : WithdrawalNote} {reasonOf : Entity → WithdrawalReason}

/-- What a second withdrawal takes along is open, and not among what the first one has. -/
theorem not_affected_of_affected_marked (ht : tree.DistinctIds)
    (h : (tree.marked note reasonOf ((tree.visits first).filter tree.isOpen)).Affected second e) :
    ¬ tree.Affected first e := by
  have hopen := (mem_visits_iff.2 h).2
  rw [isOpen_marked ht, Bool.and_eq_true, decide_eq_true_eq] at hopen
  exact fun hfirst => hopen.2 (mem_marked_iff.2 hfirst)

/-- It would be taken along without the first one. -/
theorem affected_of_affected_marked (ht : tree.DistinctIds)
    (h : (tree.marked note reasonOf ((tree.visits first).filter tree.isOpen)).Affected second e) :
    tree.Affected second e := by
  have hopen {e : Entity}
      (h : (tree.marked note reasonOf ((tree.visits first).filter tree.isOpen)).isOpen e = true) :
      tree.isOpen e = true := by
    rw [isOpen_marked ht] at h
    exact (Bool.and_eq_true_iff.1 h).1
  induction h with
  | target h => exact .target (hopen h)
  | child parent child _ hchild h ih =>
    exact .child parent child ih (child_marked_iff.1 hchild) (hopen h)

/-- **Between them, two withdrawals take along what each of them would by itself.** Where the way
    down of the second one ends early, the first one has been there and gone on. -/
theorem affected_either_iff (ht : tree.DistinctIds) :
    tree.Affected first e ∨
      (tree.marked note reasonOf ((tree.visits first).filter tree.isOpen)).Affected second e ↔
    tree.Affected first e ∨ tree.Affected second e := by
  have hopen {e : Entity} (h : tree.isOpen e = true) (hnot : ¬ tree.Affected first e) :
      (tree.marked note reasonOf ((tree.visits first).filter tree.isOpen)).isOpen e = true := by
    rw [isOpen_marked ht, h, Bool.true_and, decide_eq_true_eq]
    exact mt mem_marked_iff.1 hnot
  refine ⟨Or.imp_right (affected_of_affected_marked ht), ?_⟩
  rintro (h | h)
  · exact .inl h
  · induction h with
    | target h =>
      by_cases hfirst : tree.Affected first second
      · exact .inl hfirst
      · exact .inr (.target (hopen h hfirst))
    | child parent child _ hchild h ih =>
      by_cases hfirst : tree.Affected first child
      · exact .inl hfirst
      · rcases ih with hparent | hparent
        · exact .inl (.child parent child hparent hchild h)
        · exact .inr (.child parent child hparent (child_marked_iff.2 hchild) (hopen h hfirst))

end Either

/-! ## 4. Twice, and in either order -/

/-- **A withdrawal that is repeated** withdraws nothing and changes nothing. -/
theorem withdraw_again (ht : tree.DistinctIds) {target : WithdrawalTarget}
    {reason reason' : WithdrawalReason} {note note' : WithdrawalNote} {outcome : WithdrawalOutcome}
    {after : Tree} (h : tree.withdraw target reason note = .ok (outcome, after)) :
    ∃ skipped, after.withdraw target reason' note' =
      .ok (⟨target.entity, [], skipped⟩, after) := by
  obtain rfl := eq_marked_of_withdraw ht h
  refine ⟨_, withdraw_of_closed (distinctIds_marked ht) ?_ ?_ fun id hid => ?_⟩
  · rw [contains_marked]
    exact (course_of_withdraw ht h).1
  · rw [isOpen_marked ht, Bool.and_eq_false_iff, decide_eq_false_iff_not, not_not]
    cases hopen : tree.isOpen target.entity with
    | false => exact .inl rfl
    | true => exact .inr (mem_marked_iff.2 (.target hopen))
  · subst hid
    rw [hasArrived_marked, Bool.eq_false_iff]
    intro harrived
    rw [withdraw_of_hasArrived harrived] at h
    cases h

/-- The marks of two withdrawals, one after the other. -/
theorem plain_afterWithdrawal_twice (ht : tree.DistinctIds) (target target' : WithdrawalTarget)
    (reason reason' : WithdrawalReason) (note note' : WithdrawalNote) :
    ∃ marked : List Entity,
      (∀ e, e ∈ marked ↔ tree.Affected target.entity e ∨ tree.Affected target'.entity e) ∧
      ((tree.afterWithdrawal target reason note).afterWithdrawal target' reason' note').plain =
        (tree.marked note (tree.reasonFor target.entity reason) marked).plain := by
  rw [afterWithdrawal_eq ht, afterWithdrawal_eq (distinctIds_marked ht)]
  refine ⟨_, fun e => ?_, plain_marked_marked fun e he he' => ?_⟩
  · rw [List.mem_append, mem_marked_iff, mem_marked_iff]
    exact affected_either_iff ht
  · exact not_affected_of_affected_marked ht (mem_marked_iff.1 he') (mem_marked_iff.1 he)

theorem distinctIds_afterWithdrawal (ht : tree.DistinctIds) (target : WithdrawalTarget)
    (reason : WithdrawalReason) (note : WithdrawalNote) :
    (tree.afterWithdrawal target reason note).DistinctIds := by
  rw [afterWithdrawal_eq ht]
  exact distinctIds_marked ht

/-- **Withdrawals may be repeated and put in any order.** For every tree whose nodes are told apart
    by their identifiers: a withdrawal that has succeeded succeeds again, for whatever reason,
    withdraws nothing then and leaves the tree as it is. Of two withdrawals, whatever is given for
    them, each fails before the other one with the errors with which it fails after it, and the
    trees in which they end have the same marks. -/
theorem withdraw_in_any_order (ht : tree.DistinctIds) :
    (∀ target reason note outcome after, tree.withdraw target reason note = .ok (outcome, after) →
      ∀ reason' note', ∃ skipped,
        after.withdraw target reason' note' = .ok (⟨target.entity, [], skipped⟩, after)) ∧
    ∀ (t₁ t₂ : WithdrawalTarget) (reason₁ reason₂ reason₁' reason₂' : WithdrawalReason)
      (note₁ note₂ note₁' note₂' : WithdrawalNote),
      let first := tree.afterWithdrawal t₁ reason₁ note₁
      let second := tree.afterWithdrawal t₂ reason₂' note₂'
      (∀ e, tree.withdraw t₁ reason₁ note₁ = .error e ↔
        second.withdraw t₁ reason₁' note₁' = .error e) ∧
      (∀ e, first.withdraw t₂ reason₂ note₂ = .error e ↔
        tree.withdraw t₂ reason₂' note₂' = .error e) ∧
      (first.afterWithdrawal t₂ reason₂ note₂).SameMarks
        (second.afterWithdrawal t₁ reason₁' note₁') := by
  refine ⟨fun target reason note outcome after h reason' note' => withdraw_again ht h,
    fun t₁ t₂ reason₁ reason₂ reason₁' reason₂' note₁ note₂ note₁' note₂' => ?_⟩
  refine ⟨fun e => ?_, fun e => ?_, ?_⟩
  · rw [afterWithdrawal_eq ht]
    exact (withdraw_marked_eq_error_iff ht).symm
  · rw [afterWithdrawal_eq ht]
    exact withdraw_marked_eq_error_iff ht
  · obtain ⟨marked, hmarked, hplain⟩ :=
      plain_afterWithdrawal_twice ht t₁ t₂ reason₁ reason₂ note₁ note₂
    obtain ⟨marked', hmarked', hplain'⟩ :=
      plain_afterWithdrawal_twice ht t₂ t₁ reason₂' reason₁' note₂' note₁'
    refine .of_plain_eq (distinctIds_afterWithdrawal (distinctIds_afterWithdrawal ht ..) ..)
      (distinctIds_afterWithdrawal (distinctIds_afterWithdrawal ht ..) ..) ?_
    rw [hplain, hplain']
    exact plain_marked_congr fun e => by rw [hmarked, hmarked', or_comm]

/-- The sample, withdrawn from its placement application on, and then from its application on. -/
def placementFirst : Tree :=
  (sample.afterWithdrawal (.placementApplication ⟨"pa-1"⟩) .noCapacity
    ⟨.first, none⟩).afterWithdrawal (.application ⟨"app-1"⟩) .other ⟨.last, none⟩

/-- The sample, withdrawn in the other order. -/
def applicationFirst : Tree :=
  (sample.afterWithdrawal (.application ⟨"app-1"⟩) .other ⟨.last, none⟩).afterWithdrawal
    (.placementApplication ⟨"pa-1"⟩) .noCapacity ⟨.first, none⟩

/-- What is given for the marks on the placement application and below it differs, nothing else. -/
theorem sameMarks_sample :
    placementFirst ≠ applicationFirst ∧ placementFirst.SameMarks applicationFirst :=
  ⟨by decide, ((withdraw_in_any_order distinctIds_sample).2 (.placementApplication ⟨"pa-1"⟩)
    (.application ⟨"app-1"⟩) .noCapacity .other .noCapacity .other ⟨.first, none⟩ ⟨.last, none⟩
    ⟨.first, none⟩ ⟨.last, none⟩).2.2⟩

end Tree

end Bedspace
