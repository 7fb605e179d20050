import Bedspace.Proofs.Entitlement
import Bedspace.Proofs.Records

/-!
# Decisions are taken once

Every decision is written over a tree that was read before. That no two decisions from one tree are
both written shows in numbers: how many assessments of an application stand, how many were accepted,
and how many placement requests were raised for that and for each placement application.

* `Store.DecidedOnce` lists the numbers;
* `Tree.Settles` says what a saved tree makes of them, `Call.Served.settles` that all that the
  services save does so;
* `Call.Due.countP_requests` follows a number of placement requests through a write, and
  `Call.Due.countP_assessments` a number of assessments;
* **`System.reaches_decidedOnce`**: the numbers are right in every state of a run.
-/

namespace Bedspace

/-! ## 1. The numbers -/

/-- Whether a first placement request, which names no placement application, is one of an
    application. -/
def PlacementRequest.isFirstOf (id : ApplicationId) (r : PlacementRequest) : Bool :=
  r.applicationId = id && r.placementApplicationId.isNone

/-- Whether a placement request names a placement application. -/
def PlacementRequest.names (id : PlacementApplicationId) (r : PlacementRequest) : Bool :=
  r.placementApplicationId = some id

def Assessment.isAccepted (a : Assessment) : Bool := a.decision = some .accepted

/-- How many placement requests a placement application calls for. -/
def PlacementApplication.due (p : PlacementApplication) : Nat :=
  if p.decision = some .accepted then 1 else 0

/-- **Assessments are decided and placement requests raised once.** -/
structure Store.DecidedOnce (store : Store) : Prop where
  standing : ∀ id : ApplicationId,
    store.assessments.rows.countP (fun a => a.applicationId = id && a.reallocatedOn.isNone) ≤ 1
  exclusive : ∀ a ∈ store.assessments.rows,
    ¬ (a.decision.isSome = true ∧ a.reallocatedOn.isSome = true)
  unsubmitted : ∀ a ∈ store.applications.rows, a.status = .inProgress →
    ∀ x ∈ store.assessments.rows, x.applicationId ≠ a.id
  first : ∀ id : ApplicationId,
    store.placementRequests.rows.countP (PlacementRequest.isFirstOf id) =
      store.assessments.rows.countP (fun a => a.applicationId = id && a.isAccepted)
  raised : ∀ p ∈ store.placementApplications.rows,
    store.placementRequests.rows.countP (PlacementRequest.names p.id) = p.due
  sameApplication : ∀ r ∈ store.placementRequests.rows, ∀ id, r.placementApplicationId = some id →
    ∃ p ∈ store.placementApplications.rows, p.id = id ∧ p.applicationId = r.applicationId

/-- Only as many first placement requests are raised as assessments stand. -/
theorem Store.DecidedOnce.first_le {store : Store} (h : store.DecidedOnce) (id : ApplicationId) :
    store.placementRequests.rows.countP (PlacementRequest.isFirstOf id) ≤ 1 := by
  rw [h.first id]
  refine Nat.le_trans (List.countP_mono_left fun a ha haccepted => ?_) (h.standing id)
  rw [Bool.and_eq_true] at haccepted ⊢
  refine ⟨haccepted.1, ?_⟩
  have hdecided : a.decision.isSome = true := by
    rw [of_decide_eq_true haccepted.2]
    rfl
  rw [Option.isNone_iff_eq_none, ← Option.not_isSome_iff_eq_none]
  exact fun hreallocated => h.exclusive a ha ⟨hdecided, hreallocated⟩

/-! ## 2. Counting -/

section Counting

variable {α : Type} {rel : α → α → Prop} {p : α → Bool}

theorem countP_eq_of_forall₂ (hp : ∀ x y, rel x y → p y = p x) {xs ys : List α}
    (h : List.Forall₂ rel xs ys) : ys.countP p = xs.countP p := by
  induction h with
  | nil => rfl
  | cons hxy _ ih => rw [List.countP_cons, List.countP_cons, hp _ _ hxy, ih]

/-- A number that a change of a record leaves alone grows by the new records only. -/
theorem Table.Rewritten.countP_of_extends [Keyed α] {table table' : Table α} {before after : List α}
    (h : table.Rewritten table' before after) (he : Extends rel before after)
    (hp : ∀ x y, rel x y → p y = p x) :
    table'.rows.countP p = table.rows.countP p + (after.drop before.length).countP p := by
  have hcount := h.countP p
  have hkept := countP_eq_of_forall₂ hp he.kept
  have hsplit : after.countP p = (after.take before.length).countP p
      + (after.drop before.length).countP p := by
    rw [← List.countP_append, List.take_append_drop]
  omega

/-- Among records that all belong to one application, the ones of an application that have a
    property are all that have it, or none. -/
theorem countP_own {owner : α → ApplicationId} {a : ApplicationId} {xs : List α}
    (hown : ∀ x ∈ xs, owner x = a) (id : ApplicationId) :
    xs.countP (fun x => owner x = id && p x) = if a = id then xs.countP p else 0 := by
  split
  · rename_i hid
    refine List.countP_congr fun x hx => ?_
    rw [hown x hx, decide_eq_true hid, Bool.true_and]
  · rename_i hid
    refine List.countP_eq_zero.2 fun x hx h => ?_
    exact hid (hown x hx ▸ of_decide_eq_true (Bool.and_eq_true_iff.1 h).1)

end Counting

/-! ## 3. What is saved -/

namespace Tree

/-- The placement requests that a tree has after those of another one. -/
def raised (before after : Tree) : List PlacementRequest :=
  after.placementRequests.drop before.placementRequests.length

/-- **What a saved tree makes of the decisions of the one before it**: where an assessment is
    accepted a first placement request is raised, where a placement application is accepted one that
    names it, and nowhere else. -/
structure Settles (before after : Tree) : Prop where
  accepted : after.assessments.countP Assessment.isAccepted =
    before.assessments.countP Assessment.isAccepted
      + (before.raised after).countP fun r => r.placementApplicationId.isNone
  placements : ∀ p' ∈ after.placementApplications,
    (∃ p ∈ before.placementApplications, p.id = p'.id ∧
        p'.due = p.due + (before.raised after).countP (PlacementRequest.names p'.id)) ∨
      p' ∈ after.placementApplications.drop before.placementApplications.length ∧
        p'.due = (before.raised after).countP (PlacementRequest.names p'.id)
  named : ∀ r ∈ before.raised after, ∀ id, r.placementApplicationId = some id →
    ∃ p ∈ before.placementApplications, p.id = id

variable {before after tree : Tree}

/-- A tree in which no placement request is raised and nothing accepted. -/
theorem settles_of_raised_eq_nil (hraised : before.raised after = [])
    (haccepted : after.assessments.countP Assessment.isAccepted =
      before.assessments.countP Assessment.isAccepted)
    (hplacements : ∀ p' ∈ after.placementApplications,
      (∃ p ∈ before.placementApplications, p.id = p'.id ∧ p'.due = p.due) ∨
        p' ∈ after.placementApplications.drop before.placementApplications.length ∧ p'.due = 0) :
    before.Settles after where
  accepted := by
    rw [hraised]
    exact haccepted
  placements := by
    rw [hraised]
    exact hplacements
  named := by
    rw [hraised]
    exact fun r hr => absurd hr List.not_mem_nil

theorem raised_eq_nil (h : after.placementRequests.length = before.placementRequests.length) :
    before.raised after = [] := by
  unfold raised
  rw [← h, List.drop_length]

/-- A tree in which one placement request is raised, for an assessment or a placement application
    that is accepted with it. -/
theorem settles_addRequest {r : PlacementRequest}
    (hsame : tree.placementRequests.length = before.placementRequests.length)
    (haccepted : tree.assessments.countP Assessment.isAccepted =
      before.assessments.countP Assessment.isAccepted
        + if r.placementApplicationId.isNone = true then 1 else 0)
    (hplacements : ∀ p' ∈ tree.placementApplications,
      ∃ p ∈ before.placementApplications, p.id = p'.id ∧
        p'.due = p.due + if r.placementApplicationId = some p'.id then 1 else 0)
    (hnamed : ∀ id, r.placementApplicationId = some id →
      ∃ p ∈ before.placementApplications, p.id = id) :
    before.Settles (tree.addRequest r) := by
  have hraised : before.raised (tree.addRequest r) = [r] := drop_append_singleton hsame r
  constructor
  · rw [hraised, List.countP_singleton]
    exact haccepted
  · intro p' hp'
    obtain ⟨p, hp, hid, hdue⟩ := hplacements p' hp'
    refine .inl ⟨p, hp, hid, hdue.trans (congrArg (p.due + ·) ?_)⟩
    rw [hraised, List.countP_singleton]
    simp only [PlacementRequest.names, decide_eq_true_eq]
  · rw [hraised]
    intro r' hr'
    exact List.mem_singleton.1 hr' ▸ hnamed

/-- Changing the first member with an identifier changes no other one, if identifiers tell the
    members apart. -/
theorem mem_updateFirst_of_nodup {α ι : Type} [DecidableEq ι] {id : α → ι} {i : ι} {f : α → α}
    {xs : List α} (hxs : (xs.map id).Nodup) {a x : α}
    (hfind : xs.find? (fun x => id x = i) = some a)
    (hx : x ∈ updateFirst (fun x => id x = i) f xs) : x = f a ∨ x ∈ xs ∧ id x ≠ i := by
  induction xs with
  | nil => cases hx
  | cons y xs ih =>
    obtain ⟨hy, hxs⟩ := List.nodup_cons.1 hxs
    unfold updateFirst at hx
    by_cases hid : id y = i
    · rw [List.find?_cons_of_pos (by simpa using hid)] at hfind
      rw [if_pos (by simpa using hid)] at hx
      rcases List.mem_cons.1 hx with rfl | hx
      · exact .inl (congrArg f (Option.some.inj hfind))
      · refine .inr ⟨List.mem_cons_of_mem _ hx, fun e => hy ?_⟩
        rw [hid, ← e]
        exact List.mem_map_of_mem hx
    · rw [List.find?_cons_of_neg (by simpa using hid)] at hfind
      rw [if_neg (by simpa using hid)] at hx
      rcases List.mem_cons.1 hx with rfl | hx
      · exact .inr ⟨List.mem_cons_self, hid⟩
      · exact (ih hxs hfind hx).imp_right fun h => ⟨List.mem_cons_of_mem _ h.1, h.2⟩

/-- Deciding a pending assessment changes the number of accepted ones by its own. -/
theorem countP_decideAssessment {id : AssessmentId} {decision : Decision} {a : Assessment}
    (hfind : tree.assessments.find? (fun a => a.id = id) = some a) (ha : a.isPending = true) :
    (tree.decideAssessment id decision).assessments.countP Assessment.isAccepted =
      tree.assessments.countP Assessment.isAccepted + if decision = .accepted then 1 else 0 := by
  have hcount := countP_updateFirst (q := Assessment.isAccepted)
    (f := fun a => { a with decision := some decision }) hfind
  have hnone : a.decision = none := (Assessment.isPending_iff.1 ha).1
  simp only [List.countP_cons, List.countP_nil, Assessment.isAccepted, hnone] at hcount
  unfold decideAssessment updateAssessment
  simpa using hcount

theorem isAccepted_mark {note : WithdrawalNote} {reasonOf : Entity → WithdrawalReason}
    {marked : List Entity} (a : Assessment) :
    (TreeNode.mark note reasonOf marked a).isAccepted = a.isAccepted :=
  TreeNode.apply_mark (fun _ _ => rfl) a

theorem due_mark {note : WithdrawalNote} {reasonOf : Entity → WithdrawalReason}
    {marked : List Entity} (p : PlacementApplication) :
    (TreeNode.mark note reasonOf marked p).due = p.due :=
  TreeNode.apply_mark (fun _ _ => rfl) p

theorem settles_marked (note : WithdrawalNote) (reasonOf : Entity → WithdrawalReason)
    (marked : List Entity) : tree.Settles (tree.marked note reasonOf marked) := by
  refine settles_of_raised_eq_nil (raised_eq_nil (List.length_map _)) ?_ fun p' hp' => ?_
  · unfold Tree.marked
    rw [List.countP_map]
    exact List.countP_congr fun a _ => by rw [Function.comp_apply, isAccepted_mark]
  · obtain ⟨p, hp, rfl⟩ := List.mem_map.1 hp'
    exact .inl ⟨p, hp, (PlacementApplication.namedBy.id_mark p).symm, due_mark p⟩

/-- A decision on a placement application that was open is the only change of what is called for. -/
theorem due_of_mem_decidePlacement (hids : tree.DistinctIds) {id : PlacementApplicationId}
    {decision : Decision} {placement p' : PlacementApplication}
    (hfind : tree.placementApplications.find? (fun p => p.id = id) = some placement)
    (hopen : (placement.isWithdrawn || placement.decision.isSome) = false)
    (hp' : p' ∈ (tree.decidePlacement id decision).placementApplications) :
    ∃ p ∈ tree.placementApplications, p.id = p'.id ∧
      p'.due = p.due + if p'.id = id ∧ decision = .accepted then 1 else 0 := by
  rcases mem_updateFirst_of_nodup hids.placements hfind hp' with rfl | ⟨hp, hne⟩
  · have hid : placement.id = id := by simpa using List.find?_some hfind
    have hnone : placement.decision = none := by
      simpa using (Bool.or_eq_false_iff.1 hopen).2
    refine ⟨placement, List.mem_of_find?_eq_some hfind, rfl, ?_⟩
    simp [PlacementApplication.due, hid, hnone]
  · exact ⟨p', hp, rfl, by simp [hne]⟩

end Tree

theorem Tree.ReadLive.distinctIds {tree : Tree} (h : tree.ReadLive) : tree.DistinctIds := by
  obtain ⟨⟨store, id, htree⟩, _⟩ := h
  exact (Store.stores_of_tree? htree).2.distinctIds

/-- **Whatever the services save settles the decisions.** -/
theorem Call.Served.settles {before after : Tree} (h : (Call.saveTree before after).Served) :
    before.Settles after := by
  have same (p' : PlacementApplication) (hp' : p' ∈ before.placementApplications) :
      (∃ p ∈ before.placementApplications, p.id = p'.id ∧ p'.due = p.due) ∨
        p' ∈ before.placementApplications.drop before.placementApplications.length ∧ p'.due = 0 :=
    .inl ⟨p', hp', rfl, rfl⟩
  cases h with
  | read _ h => cases h
  | allocate store id _ n today htree =>
    refine Tree.settles_of_raised_eq_nil (Tree.raised_eq_nil rfl) ?_ same
    exact List.countP_append.trans (Nat.add_zero _)
  | acceptAssessment _ id n dates today hpending hdays =>
    obtain ⟨_, a, hfind, ha⟩ := hpending
    exact Tree.settles_addRequest rfl (Tree.countP_decideAssessment hfind ha)
      (fun p' hp' => ⟨p', hp', rfl, rfl⟩) fun _ h => nomatch h
  | rejectAssessment _ id hpending =>
    obtain ⟨_, a, hfind, ha⟩ := hpending
    exact Tree.settles_of_raised_eq_nil (Tree.raised_eq_nil rfl)
      (Tree.countP_decideAssessment hfind ha) same
  | reallocateAssessment _ id n today hpending =>
    obtain ⟨_, a, hfind, ha⟩ := hpending
    refine Tree.settles_of_raised_eq_nil (Tree.raised_eq_nil rfl) ?_ same
    have hcount := countP_updateFirst (q := Assessment.isAccepted)
      (f := fun a => { a with reallocatedOn := some today }) hfind
    exact List.countP_append.trans (Nat.add_right_cancel hcount)
  | createPlacement _ n today hlive haccepted =>
    refine Tree.settles_of_raised_eq_nil (Tree.raised_eq_nil rfl) rfl fun p' hp' => ?_
    rcases List.mem_append.1 hp' with hp' | hp'
    · exact .inl ⟨p', hp', rfl, rfl⟩
    · obtain rfl := List.mem_singleton.1 hp'
      refine .inr ⟨?_, rfl⟩
      unfold Tree.addPlacement
      rw [drop_append_singleton rfl]
      exact List.mem_singleton_self _
  | rejectPlacement _ id placement hlive hfind hopen =>
    refine Tree.settles_of_raised_eq_nil (Tree.raised_eq_nil rfl) rfl fun p' hp' => .inl ?_
    obtain ⟨p, hp, hid, hdue⟩ := Tree.due_of_mem_decidePlacement hlive.distinctIds hfind hopen hp'
    exact ⟨p, hp, hid, by simpa using hdue⟩
  | acceptPlacement _ id placement n dates today hlive hfind hopen hdays =>
    refine Tree.settles_addRequest rfl rfl (fun p' hp' => ?_) fun i hi => ⟨placement, ?_, ?_⟩
    · obtain ⟨p, hp, hid, hdue⟩ := Tree.due_of_mem_decidePlacement hlive.distinctIds hfind hopen hp'
      refine ⟨p, hp, hid, hdue.trans (congrArg (p.due + ·) ?_)⟩
      simp [Tree.newRequest, eq_comm]
    · exact List.mem_of_find?_eq_some hfind
    · have hid : placement.id = id := by simpa using List.find?_some hfind
      exact hid.trans (Option.some.inj hi)
  | withdraw store id _ _ target reason note outcome htree hreason hwithdraw hchanged =>
    obtain ⟨_, hstored⟩ := Store.stores_of_tree? htree
    rw [Tree.eq_marked_of_withdraw hstored.distinctIds hwithdraw]
    exact Tree.settles_marked _ _ _

/-! ## 4. One call -/

theorem World.Sound.unsubmitted {world : World} (h : world.Sound) :
    ∀ a ∈ world.store.applications.rows, a.status = .inProgress →
      ∀ x ∈ world.store.assessments.rows, x.applicationId ≠ a.id := by
  intro a ha hstatus x hx hown
  exact Store.not_submitted_of_inProgress ha hown.symm hstatus (h.assessed x hx)

/-- The assessments of a revised tree are all of its application. -/
theorem Tree.Revises.own {before after : Tree} (h : before.Revises after)
    (hown : ∀ a ∈ before.assessments, a.applicationId = before.application.id) :
    ∀ a ∈ after.assessments, a.applicationId = before.application.id := by
  exact h.assessments.forall_mem (fun _ _ hch hx => hch.applicationId_eq.trans hx)
    (fun a ha => (h.newAssessments a ha).1) hown

namespace Call.Due

variable {world : World} {before after : Tree}

/-- **A number of assessments of an application changes as it does in its tree.** -/
theorem countP_assessments (hc : (Call.saveTree before after).Due world)
    (hstored : world.store.Stores before) (id : ApplicationId) (p : Assessment → Bool) :
    (world.store.assessments.putAll after.assessments).rows.countP
          (fun a => a.applicationId = id && p a)
        + (if before.application.id = id then before.assessments.countP p else 0) =
      world.store.assessments.rows.countP (fun a => a.applicationId = id && p a)
        + if before.application.id = id then after.assessments.countP p else 0 := by
  have hown : ∀ a ∈ before.assessments, a.applicationId = before.application.id :=
    fun a ha => (hstored.mem_assessments.1 ha).2
  rw [← countP_own hown id, ← countP_own (hc.served.revises.own hown) id]
  exact (hc.rewrites hstored).assessments.countP _

/-- A number of placement requests that goes by what they belong to grows by the ones that are
    raised. -/
theorem countP_requests (hc : (Call.saveTree before after).Due world)
    (hstored : world.store.Stores before) {p : PlacementRequest → Bool}
    (hp : ∀ r r', PlacementRequest.Change r r' → p r' = p r) :
    (world.store.placementRequests.putAll after.placementRequests).rows.countP p =
      world.store.placementRequests.rows.countP p + (before.raised after).countP p :=
  (hc.rewrites hstored).requests.countP_of_extends hc.served.revises.requests hp

/-- Where another assessment comes to stand there was none: the right to allocate it is good only as
    long as there is none. -/
theorem assessments_eq_nil (hc : (Call.saveTree before after).Due world)
    (hstored : world.store.Stores before) (hrise : before.standing < after.standing) :
    before.assessments = [] := by
  obtain ⟨_, hnone⟩ := hc.rights (.allocation before.application.id) (.inr ⟨hrise, rfl⟩)
  refine List.eq_nil_iff_forall_not_mem.2 fun a ha => ?_
  obtain ⟨ha, hown⟩ := hstored.mem_assessments.1 ha
  exact hnone a ha hown

/-- Another assessment comes to stand only where the application has none at all. -/
theorem standing_le (hc : (Call.saveTree before after).Due world)
    (hstored : world.store.Stores before)
    (h : ∀ id : ApplicationId, world.store.assessments.rows.countP
      (fun a => a.applicationId = id && a.reallocatedOn.isNone) ≤ 1) (id : ApplicationId) :
    (world.store.assessments.putAll after.assessments).rows.countP
      (fun a => a.applicationId = id && a.reallocatedOn.isNone) ≤ 1 := by
  have hcount := hc.countP_assessments hstored id fun a => a.reallocatedOn.isNone
  have hle := h id
  split at hcount
  · rename_i hid
    by_cases hrise : before.standing < after.standing
    · obtain ⟨_, hnone⟩ := hc.rights (.allocation before.application.id) (.inr ⟨hrise, rfl⟩)
      have hzero : world.store.assessments.rows.countP
          (fun a => a.applicationId = id && a.reallocatedOn.isNone) = 0 := by
        refine List.countP_eq_zero.2 fun a ha h => hnone a ha ?_
        exact hid ▸ of_decide_eq_true (Bool.and_eq_true_iff.1 h).1
      have hfirst := hc.assessments_eq_nil hstored hrise
      have hone : after.assessments.length ≤ 1 := by
        have hadded := hc.served.revises.assessments.added
        rw [hfirst] at hadded
        exact hadded
      have hstand : after.assessments.countP (fun a => a.reallocatedOn.isNone) ≤ 1 :=
        Nat.le_trans List.countP_le_length hone
      omega
    · unfold Tree.standing at hrise
      omega
  · omega

end Call.Due

namespace Store.DecidedOnce

variable {world : World} {before after : Tree}

/-- The placement applications call for as many placement requests as there are. -/
theorem raised_save (h : world.store.DecidedOnce) (hc : (Call.saveTree before after).Due world)
    (hstored : world.store.Stores before) :
    ∀ p' ∈ (world.store.placementApplications.putAll after.placementApplications).rows,
      (world.store.placementRequests.putAll after.placementRequests).rows.countP
        (PlacementRequest.names p'.id) = p'.due := by
  intro p' hp'
  have hsettles := hc.served.settles
  have hcount := hc.countP_requests hstored (p := PlacementRequest.names p'.id) fun r r' hch => by
    unfold PlacementRequest.names
    rw [hch.placementApplicationId_eq]
  rw [hcount]
  obtain ⟨rest, hrows, hrows'⟩ := (hc.rewrites hstored).placements
  rcases List.mem_append.1 (hrows'.mem_iff.1 hp') with hp' | hp'
  · rcases hsettles.placements p' hp' with ⟨p, hp, hid, hdue⟩ | ⟨hnew, hdue⟩
    · rw [hdue, ← hid, h.raised p (hrows.mem_iff.2 (List.mem_append_left _ hp))]
    · -- no placement request names a placement application that was not there
      have hnone :
          world.store.placementRequests.rows.countP (PlacementRequest.names p'.id) = 0 := by
        refine List.countP_eq_zero.2 fun r hr hnames => ?_
        obtain ⟨p, hp, hid, _⟩ := h.sameApplication r hr p'.id (of_decide_eq_true hnames)
        exact (hc.rights _ (.inl (Tree.issued_mem_added_of_placement hnew))).2 ⟨p, hp, hid⟩
      rw [hnone, hdue, Nat.zero_add]
  · have hpold := hrows.mem_iff.2 (List.mem_append_right before.placementApplications hp')
    have hnone : (before.raised after).countP (PlacementRequest.names p'.id) = 0 := by
      refine List.countP_eq_zero.2 fun r hr hnames => ?_
      obtain ⟨p, hp, hid⟩ := hsettles.named r hr p'.id (of_decide_eq_true hnames)
      have hsame : p = p' := world.store.placementApplications.key_inj_of_mem
        (hrows.mem_iff.2 (List.mem_append_left _ hp)) hpold (congrArg Id.text hid)
      have hnodup := hrows.nodup_iff.1 world.store.placementApplications.nodup_rows
      exact (List.nodup_append'.1 hnodup).2.2 hp (hsame ▸ hp')
    rw [hnone, h.raised p' hpold, Nat.add_zero]

theorem sameApplication_save (h : world.store.DecidedOnce)
    (hc : (Call.saveTree before after).Due world) (hstored : world.store.Stores before) :
    ∀ r' ∈ (world.store.placementRequests.putAll after.placementRequests).rows, ∀ id,
      r'.placementApplicationId = some id →
      ∃ p ∈ (world.store.placementApplications.putAll after.placementApplications).rows,
        p.id = id ∧ p.applicationId = r'.applicationId := by
  have hrev := hc.revisedBy_saveTree hstored
  -- a placement application that was there is still there
  have later {p : PlacementApplication} (hp : p ∈ world.store.placementApplications.rows) :
      ∃ p' ∈ (world.store.placementApplications.putAll after.placementApplications).rows,
        p'.id = p.id ∧ p'.applicationId = p.applicationId := by
    obtain ⟨p', hp', hch⟩ := hrev.placements.stays p hp
    exact ⟨p', hp', hch.id_eq, hch.applicationId_eq⟩
  intro r' hr' id hid
  obtain ⟨rest, hrows, hrows'⟩ := (hc.rewrites hstored).requests
  have old {r : PlacementRequest} (hr : r ∈ world.store.placementRequests.rows)
      (hch : r.Change r') :
      ∃ p ∈ (world.store.placementApplications.putAll after.placementApplications).rows,
        p.id = id ∧ p.applicationId = r'.applicationId := by
    obtain ⟨p, hp, hpid, happ⟩ := h.sameApplication r hr id (hch.placementApplicationId_eq ▸ hid)
    obtain ⟨p', hp', hid', happ'⟩ := later hp
    exact ⟨p', hp', hid'.trans hpid, happ'.trans (happ.trans hch.applicationId_eq.symm)⟩
  rcases List.mem_append.1 (hrows'.mem_iff.1 hr') with hr' | hr'
  · rcases hc.served.revises.requests.comes hr' with ⟨r, hr, hch⟩ | hnew
    · exact old (hrows.mem_iff.2 (List.mem_append_left _ hr)) hch
    · obtain ⟨p, hp, hpid⟩ := hc.served.settles.named r' hnew id hid
      obtain ⟨hprow, happ⟩ := hstored.mem_placements.1 hp
      obtain ⟨p', hp', hid', happ'⟩ := later hprow
      refine ⟨p', hp', hid'.trans hpid, happ'.trans (happ.trans ?_)⟩
      exact (hc.served.revises.newRequests r' hnew).1.symm
  · exact old (hrows.mem_iff.2 (List.mem_append_right _ hr')) (.same r')

/-- **Saving a tree keeps the numbers right.** -/
theorem save (h : world.store.DecidedOnce)
    (hc : (Call.saveTree before after).Due world) (hstored : world.store.Stores before)
    (hs' : World.Sound { world with store := world.store.putTree after }) :
    (world.store.putTree after).DecidedOnce where
  standing := hc.standing_le hstored h.standing
  exclusive a' ha' := by
    rcases (hc.revisedBy_saveTree hstored).assessments.comes a' ha' with ⟨a, ha, hch⟩ | ⟨_, hnew, _⟩
    · have hold := h.exclusive a ha
      cases hch with
      | same => exact hold
      | withdrawal => exact hold
      | decision decision hpending => simp [(Assessment.isPending_iff.1 hpending).2.1]
      | reallocation on hpending => simp [(Assessment.isPending_iff.1 hpending).1]
    · simp [(Assessment.isPending_iff.1 hnew).1]
  unsubmitted := hs'.unsubmitted
  first id := by
    have hassessments := hc.countP_assessments hstored id Assessment.isAccepted
    have hrequests := hc.countP_requests hstored (p := PlacementRequest.isFirstOf id)
      fun r r' hch => by
        unfold PlacementRequest.isFirstOf
        rw [hch.placementApplicationId_eq, hch.applicationId_eq]
    have hraised : (before.raised after).countP (PlacementRequest.isFirstOf id) =
        if before.application.id = id then
          (before.raised after).countP fun r => r.placementApplicationId.isNone
        else 0 :=
      countP_own (fun r hr => (hc.served.revises.newRequests r hr).1) id
    have haccepted := hc.served.settles.accepted
    have hold := h.first id
    show (world.store.placementRequests.putAll after.placementRequests).rows.countP _ =
      (world.store.assessments.putAll after.assessments).rows.countP _
    split at hassessments
    · rename_i hid
      rw [if_pos hid] at hraised
      omega
    · rename_i hid
      rw [if_neg hid] at hraised
      omega
  raised := h.raised_save hc hstored
  sameApplication := h.sameApplication_save hc hstored

/-- Nothing changes where assessments, placement applications and placement requests stay. -/
theorem of_eq {store store' : Store} (h : store.DecidedOnce)
    (ha : store'.assessments = store.assessments)
    (hp : store'.placementApplications = store.placementApplications)
    (hr : store'.placementRequests = store.placementRequests)
    (hunsubmitted : ∀ a ∈ store'.applications.rows, a.status = .inProgress →
      ∀ x ∈ store'.assessments.rows, x.applicationId ≠ a.id) : store'.DecidedOnce where
  standing := ha ▸ h.standing
  exclusive := ha ▸ h.exclusive
  unsubmitted := hunsubmitted
  first := ha ▸ hr ▸ h.first
  raised := hp ▸ hr ▸ h.raised
  sameApplication := hp ▸ hr ▸ h.sameApplication

/-- **A due call keeps the numbers right.** -/
theorem perform (hs : world.Sound) {c : Call} (hc : c.Due world) (h : world.store.DecidedOnce) :
    (c.perform world.store).2.DecidedOnce := by
  have hs' := hs.perform hc
  rcases Call.perform_cases world.store c with e | hw
  · rw [e]
    exact h
  · generalize (c.perform world.store).2 = store' at hw hs' ⊢
    cases hw with
    | saveTree before after hstored hid =>
      exact h.save hc (Store.stores_of_tree? hstored).2 hs'
    | _ => exact h.of_eq rfl rfl rfl hs'.unsubmitted

end Store.DecidedOnce

/-! ## 5. Runs -/

theorem Store.Unused.decidedOnce {store : Store} (h : store.Unused) : store.DecidedOnce where
  standing id := by
    rw [h.assessments]
    exact Nat.zero_le 1
  exclusive := by
    rw [h.assessments]
    exact fun a ha => absurd ha List.not_mem_nil
  unsubmitted := by
    rw [h.applications]
    exact fun a ha => absurd ha List.not_mem_nil
  first id := by
    rw [h.assessments, h.placementRequests]
    rfl
  raised := by
    rw [h.placementApplications]
    exact fun p hp => absurd hp List.not_mem_nil
  sameApplication := by
    rw [h.placementRequests]
    exact fun r hr => absurd hr List.not_mem_nil

namespace System

theorem Reaches.decidedOnce {world : World} {s : System} (h₀ : world.store.Unused)
    (h : (idle world).Reaches s) : s.world.store.DecidedOnce :=
  h.due_invariant (fun _ _ hs hc h => h.perform hs hc) h₀.sound h₀.decidedOnce

/-- **Assessments are decided and placement requests raised once**, in every state that clients
    reach from an unused store; in particular no application has two first placement requests. -/
theorem reaches_decidedOnce {world : World} {s : System} (h₀ : world.store.Unused)
    (h : (idle world).Reaches s) :
    s.world.store.DecidedOnce ∧ ∀ id : ApplicationId,
      s.world.store.placementRequests.rows.countP (PlacementRequest.isFirstOf id) ≤ 1 :=
  ⟨h.decidedOnce h₀, (h.decidedOnce h₀).first_le⟩

/-- An application is created and submitted. Two clients are about to accept its assessment. -/
def doubleAcceptance : System :=
  let accept : ServiceRequest :=
    .action .default .first
      (.acceptAssessment (.numbered .assessment 1) ⟨Date.first.later 0, 4⟩)
  (arrived .oneBed
    [.action .default .first (.createApplication "X320741"),
    .action .default .first (.submit (.numbered .application 1)), accept, accept]).follow
      [0, 0, 1, 1, 1, 1]

/-- Both find it pending; only the one that writes first raises a placement request. -/
theorem doubleAcceptance_decidedOnce :
    (doubleAcceptance.follow [2, 3, 2, 3, 2, 3, 3, 2]).world.store.placementRequests.rows.map
        (fun r => (r.id, r.placementApplicationId)) = [(.numbered .placementRequest 2, none)] ∧
    (doubleAcceptance.follow [2, 3, 2, 3, 2, 3, 3, 2]).world.store.DecidedOnce :=
  ⟨by decide +kernel, (reaches_decidedOnce World.unused_oneBed
    (reaches_follow (reaches_follow (reaches_arrived _ _) _) _)).1⟩

end System

end Bedspace
