import Bedspace.Proofs.Cascade.Standing
import Bedspace.Proofs.Rewriting

/-!
# The outcome of a withdrawal accounts for the change

What a withdrawal answers is put together along the way down: which nodes were withdrawn and which
were passed over. The answer is all that the caller sees, and it decides whether the tree is saved.

* `WithdrawalOutcome.Accounts` says of an outcome that it accounts for the difference between two
  trees: its two lists hold each node once, and tell of each node below a withdrawn one what became
  of it;
* `Tree.parent_before`: on the way down a node comes after the open one above it;
* **`Tree.withdraw_accounts`**: the outcome of a withdrawal accounts for the change, and where it
  lists nothing as withdrawn, saving the tree would write nothing.
-/

namespace Bedspace

/-- The nodes that are listed as passed over. -/
def WithdrawalOutcome.passedOver (outcome : WithdrawalOutcome) : List Entity :=
  outcome.skipped.map SkippedEntity.entity

/-- **An outcome accounts for the difference between two trees.** -/
structure WithdrawalOutcome.Accounts (outcome : WithdrawalOutcome) (before after : Tree) :
    Prop where
  withdrawnOnce : outcome.withdrawn.Nodup
  withdrawn : ∀ e, e ∈ outcome.withdrawn ↔ after.record? e ≠ before.record? e
  parentFirst : ∀ e ∈ outcome.withdrawn, e = outcome.root ∨
    ∃ parent, before.Child parent e ∧ [parent, e].Sublist outcome.withdrawn
  passedOverOnce : outcome.passedOver.Nodup
  apart : outcome.withdrawn.Disjoint outcome.passedOver
  -- a node that is passed over is as it was, and is what the reason says
  passedOver : ∀ s ∈ outcome.skipped, ∃ r, before.record? s.entity = some r ∧
    after.record? s.entity = some r ∧ s.reason.describes r = true
  passedOverBelow : ∀ e ∈ outcome.passedOver, e = outcome.root ∨
    ∃ parent ∈ outcome.withdrawn, before.Child parent e
  children : ∀ parent ∈ outcome.withdrawn, ∀ child, before.Child parent child →
    Xor (child ∈ outcome.withdrawn) (child ∈ outcome.passedOver)
  changed : outcome.changed = false ↔ after = before

namespace Tree

variable {tree : Tree} {e root : Entity}

/-! ## 1. The order on the way down -/

/-- **A node that is looked at comes after the open one above it.** -/
theorem parent_before (h : e ∈ tree.visits root) (hne : e ≠ root) :
    ∃ parent, tree.Child parent e ∧ tree.isOpen parent = true ∧
      [parent, e].Sublist (tree.visits root) := by
  induction root using descend tree with
  | h root ih =>
    rcases mem_visits.1 h with rfl | ⟨hopen, child, hchild, he⟩
    · exact absurd rfl hne
    · have hbelow : (tree.visits child).Sublist ((tree.children root).flatMap tree.visits) :=
        List.sublist_flatten_of_mem (List.mem_map_of_mem (mem_children_iff.2 hchild))
      rw [Cascade.visits_of_open hopen]
      by_cases hsame : e = child
      · subst hsame
        exact ⟨root, hchild, hopen,
          .cons_cons root ((List.singleton_sublist.2 he).trans hbelow)⟩
      · obtain ⟨parent, hparent, hparent_open, hsub⟩ := ih child hchild he hsame
        exact ⟨parent, hparent, hparent_open, .cons root (hsub.trans hbelow)⟩

/-- Among the open nodes, too. -/
theorem parent_before_of_isOpen (h : e ∈ (tree.visits root).filter tree.isOpen) (hne : e ≠ root) :
    ∃ parent, tree.Child parent e ∧
      [parent, e].Sublist ((tree.visits root).filter tree.isOpen) := by
  obtain ⟨hvisited, hopen⟩ := List.mem_filter.1 h
  obtain ⟨parent, hparent, hparent_open, hsub⟩ := parent_before hvisited hne
  have hboth : [parent, e].filter tree.isOpen = [parent, e] := by
    rw [List.filter_cons_of_pos hparent_open, List.filter_cons_of_pos hopen, List.filter_nil]
  exact ⟨parent, hparent, hboth ▸ hsub.filter tree.isOpen⟩

/-! ## 2. What is passed over -/

theorem map_entity_passedOver? (nodes : List Entity) :
    (nodes.filterMap tree.passedOver?).map SkippedEntity.entity =
      nodes.filter fun e => !tree.isOpen e := by
  induction nodes with
  | nil => rfl
  | cons node nodes ih =>
    rw [List.filterMap_cons, List.filter_cons, passedOver?]
    cases tree.isOpen node with
    | true => exact ih
    | false => exact congrArg (node :: ·) ih

/-- What is noted of a node that is passed over is what its record says. -/
theorem describes_of_passedOver? (ht : tree.DistinctIds) {s : SkippedEntity}
    (hin : tree.contains e = true) (h : tree.passedOver? e = some s) :
    s.entity = e ∧ ∃ r, tree.record? e = some r ∧ s.reason.describes r = true := by
  unfold passedOver? at h
  split at h
  · cases h
  · rename_i hclosed
    obtain rfl := Option.some.inj h
    obtain ⟨r, hr⟩ := exists_record?_of_contains hin
    have hrecord : (tree.record? e).any TreeNode.isOpen = false := by
      rw [← isOpen_eq_any ht]
      exact Bool.eq_false_iff.2 hclosed
    rw [hr] at hrecord
    exact ⟨rfl, r, hr, describes_skipReason ht hr hrecord⟩

/-! ## 3. The account -/

/-- The outcome of a withdrawal that looks at the nodes from a root on. -/
def outcomeFrom (tree : Tree) (root : Entity) : WithdrawalOutcome where
  root
  withdrawn := (tree.visits root).filter tree.isOpen
  skipped := (tree.visits root).filterMap tree.passedOver?

theorem mem_withdrawn_iff :
    e ∈ (tree.outcomeFrom root).withdrawn ↔ e ∈ tree.visits root ∧ tree.isOpen e = true :=
  List.mem_filter

theorem passedOver_outcomeFrom :
    (tree.outcomeFrom root).passedOver = (tree.visits root).filter fun e => !tree.isOpen e :=
  map_entity_passedOver? _

theorem mem_passedOver_iff :
    e ∈ (tree.outcomeFrom root).passedOver ↔ e ∈ tree.visits root ∧ tree.isOpen e = false := by
  rw [passedOver_outcomeFrom, List.mem_filter, Bool.not_eq_true']

variable {note : WithdrawalNote} {reasonOf : Entity → WithdrawalReason}

/-- **That outcome accounts for the marks on the nodes that it lists as withdrawn.** -/
theorem accounts_outcomeFrom (ht : tree.DistinctIds) (hroot : tree.contains root = true) :
    (tree.outcomeFrom root).Accounts tree
      (tree.marked note reasonOf (tree.outcomeFrom root).withdrawn) := by
  have hopen : ∀ e ∈ (tree.outcomeFrom root).withdrawn, tree.isOpen e = true :=
    fun e he => (mem_withdrawn_iff.1 he).2
  have hdiffers (e : Entity) : (tree.marked note reasonOf
      (tree.outcomeFrom root).withdrawn).record? e ≠ tree.record? e ↔
      e ∈ (tree.outcomeFrom root).withdrawn := record?_marked_ne_iff ht hopen
  have hapart {e : Entity} (hw : e ∈ (tree.outcomeFrom root).withdrawn)
      (hp : e ∈ (tree.outcomeFrom root).passedOver) : False := by
    have hclosed := (mem_passedOver_iff.1 hp).2
    rw [hopen e hw] at hclosed
    cases hclosed
  refine
    { withdrawnOnce := (nodup_visits ht root).filter _
      withdrawn := fun e => (hdiffers e).symm
      parentFirst := fun e he => ?parentFirst
      passedOverOnce := passedOver_outcomeFrom ▸ (nodup_visits ht root).filter _
      apart := fun e => hapart
      passedOver := fun s hs => ?passedOver
      passedOverBelow := fun e he => ?passedOverBelow
      children := fun parent hparent child hchild => ?children
      changed := ?changed }
  case parentFirst =>
    by_cases hne : e = root
    · exact .inl hne
    · exact .inr (parent_before_of_isOpen he hne)
  case passedOver =>
    obtain ⟨e, he, hnoted⟩ := List.mem_filterMap.1 hs
    obtain ⟨rfl, r, hr, hstate⟩ :=
      describes_of_passedOver? ht (contains_of_mem_visits hroot he) hnoted
    refine ⟨r, hr, ?_, hstate⟩
    have hlisted : s.entity ∈ (tree.outcomeFrom root).passedOver := List.mem_map_of_mem hs
    rw [← hr]
    exact Classical.byContradiction fun hne => hapart ((hdiffers _).1 hne) hlisted
  case passedOverBelow =>
    by_cases hne : e = root
    · exact .inl hne
    · obtain ⟨parent, hparent, hparent_open, hsub⟩ := parent_before (mem_passedOver_iff.1 he).1 hne
      have hvisited : parent ∈ tree.visits root := hsub.subset List.mem_cons_self
      exact .inr ⟨parent, mem_withdrawn_iff.2 ⟨hvisited, hparent_open⟩, hparent⟩
  case children =>
    obtain ⟨hvisited, hparent_open⟩ := mem_withdrawn_iff.1 hparent
    have hvisited := visits_child root hvisited hparent_open hchild
    cases hchild_open : tree.isOpen child with
    | true =>
      have hw := mem_withdrawn_iff.2 ⟨hvisited, hchild_open⟩
      exact .inl ⟨hw, hapart hw⟩
    | false =>
      have hp := mem_passedOver_iff.2 ⟨hvisited, hchild_open⟩
      exact .inr ⟨hp, fun hw => hapart hw hp⟩
  case changed =>
    unfold WithdrawalOutcome.changed
    rw [Bool.not_eq_false', List.isEmpty_iff]
    constructor
    · intro hnone
      rw [hnone, marked_nil]
    · intro hsame
      refine List.eq_nil_iff_forall_not_mem.2 fun e he => (hdiffers e).2 he ?_
      rw [hsame]

/-- **The outcome of a withdrawal is an exact account of what it changes.** For a tree whose nodes
    are told apart by their identifiers and a withdrawal from it that succeeds: each node that
    differs is listed once as withdrawn, after the node above it, and no other is; each node that
    was passed over is listed once, is as it was and in the state that is given as the reason;
    whatever is directly below a withdrawn node is in one of the lists and not in the other. The
    outcome tells of no change exactly if there is none, and to save the tree would then leave every
    store that it was read from as it is. -/
theorem withdraw_accounts (ht : tree.DistinctIds) {target : WithdrawalTarget}
    {reason : WithdrawalReason} {outcome : WithdrawalOutcome} {after : Tree}
    (h : tree.withdraw target reason note = .ok (outcome, after)) :
    outcome.root = target.entity ∧ outcome.Accounts tree after ∧
      ∀ (world : World) (id : ApplicationId), world.store.tree? id = some tree →
        outcome.changed = false →
        (Applications.save tree after).run .none world = (.ok (), world) := by
  obtain ⟨hin, rfl, hafter⟩ := course_of_withdraw ht h
  have haccounts : (tree.outcomeFrom target.entity).Accounts tree after :=
    hafter ▸ accounts_outcomeFrom ht hin
  refine ⟨rfl, haccounts, fun world id htree hunchanged => ?_⟩
  obtain ⟨_, hstored⟩ := Store.stores_of_tree? htree
  rw [haccounts.changed.1 hunchanged]
  have hsaved : world.store.saveTree tree tree = .ok world.store :=
    (Store.saveTree_of_tree? htree rfl).trans (congrArg _ (Store.putTree_of_stores hstored))
  exact Operation.run_call_of_ok (congrArg (Call.settleUnit world.store) hsaved)

/-- The sample, withdrawn from its application on. -/
def withdrawnSample : Tree :=
  sample.afterWithdrawal (.application ⟨"app-1"⟩) .duplicateApplication ⟨.first, none⟩

/-- The withdrawal of the sample passes over the reallocated assessment and the booking with an
    arrival, and lists the rest. Where the withdrawn tree is stored, its withdrawal once more writes
    nothing. -/
theorem withdraw_accounts_sample :
    (∃ outcome,
      sample.withdraw (.application ⟨"app-1"⟩) .duplicateApplication ⟨.first, none⟩
        = .ok (outcome, withdrawnSample) ∧
      outcome.withdrawn = [.application ⟨"app-1"⟩, .assessment ⟨"as-2"⟩,
        .placementApplication ⟨"pa-1"⟩, .placementRequest ⟨"pr-2"⟩, .booking ⟨"bk-2"⟩,
        .placementRequest ⟨"pr-1"⟩] ∧
      outcome.skipped = [⟨.assessment ⟨"as-1"⟩, .reallocated⟩,
        ⟨.booking ⟨"bk-1"⟩, .arrivalRecorded⟩] ∧
      outcome.Accounts sample withdrawnSample) ∧
    ∃ outcome world after,
      withdrawnSample.withdraw (.application ⟨"app-1"⟩) .other ⟨.last, none⟩
        = .ok (outcome, after) ∧
      world.store.tree? ⟨"app-1"⟩ = some withdrawnSample ∧
      (Applications.save withdrawnSample after).run .none world = (.ok (), world) := by
  have hfirst : sample.withdraw (.application ⟨"app-1"⟩) .duplicateApplication ⟨.first, none⟩ =
      .ok (_, withdrawnSample) := rfl
  have hsecond : withdrawnSample.withdraw (.application ⟨"app-1"⟩) .other ⟨.last, none⟩ =
      .ok (⟨.application ⟨"app-1"⟩, [], [⟨.application ⟨"app-1"⟩, .alreadyWithdrawn⟩]⟩,
        withdrawnSample) := rfl
  have hdistinct : withdrawnSample.DistinctIds :=
    ⟨by decide, by decide, by decide, by decide⟩
  have hstored : (World.ofStore (Store.empty.putTree withdrawnSample)).store.tree? ⟨"app-1"⟩ =
      some withdrawnSample := by
    decide +kernel
  exact ⟨⟨_, hfirst, rfl, rfl, (withdraw_accounts distinctIds_sample hfirst).2.1⟩,
    _, _, _, hsecond, hstored, (withdraw_accounts hdistinct hsecond).2.2 _ _ hstored rfl⟩

end Tree

end Bedspace
