import Bedspace.Proofs.Amid
import Bedspace.Proofs.Ownership

/-!
# Operations stay in the tree of their application

An operation on applications is addressed to one node. It finds the tree of the node through the
owner, and whatever it writes is a node of that tree, even if others write between its calls: the node
keeps its owner meanwhile.

* `Store.SameOutside`: two stores differ in the tree of one application at most;
* `Call.StaysIn` is a call that touches only the tree of a node, as the store has it on which the call
  is carried out; it changes nothing outside (`Call.StaysIn.sameOutside`);
* `Action.amid_perform`: an action that is addressed to a node makes only such calls, while others
  change the store along `Store.Later`;
* **`System.reaches_confined`**: trees share no node, nobody is told that a node is in the wrong tree,
  and every step of an operation, and the whole of it carried out alone, leaves all other trees,
  unlinked bookings, periods out of service and the estate as they were.
-/

namespace Bedspace

open Operation

/-! ## 1. One call -/

/-- **Nothing has changed outside the tree of an application.** -/
structure Store.SameOutside (a : ApplicationId) (store store' : Store) : Prop where
  trees : ∀ b, b ≠ a → store'.tree? b = store.tree? b
  unlinked : store'.bookings.rows.filter (fun b => b.links = .none) =
    store.bookings.rows.filter fun b => b.links = .none
  outOfService : store'.outOfService = store.outOfService
  premises : store'.premises = store.premises
  districts : store'.districts = store.districts

/-- **A call that stays in the tree of a node**, as the store has it. -/
inductive Call.StaysIn (e : Entity) : Call → Store → Prop where
  | read (c : Call) (store : Store) (h : c.reads = true) : StaysIn e c store
  | markSubmitted (id : ApplicationId) (on : Date) (store : Store) (h : e = .application id) :
      StaysIn e (.markSubmitted id on) store
  | saveTree (before after : Tree) (store : Store)
      (h : store.ownerOf e = some before.application.id) : StaysIn e (.saveTree before after) store
  | insertBooking (b : Booking) (a : ApplicationId) (store : Store)
      (hlinks : b.applicationId = some a) (h : store.ownerOf e = some a) :
      StaysIn e (.insertBooking b) store

/-- What other applications own of a table stays as it is, if only what one of them owns is written
    over and what comes to it is its own. -/
theorem Table.Rewritten.filter_owner_eq {α : Type} [Keyed α] {rel : α → α → Prop}
    {owner : α → ApplicationId} {table table' : Table α} {before after : List α} {a b : ApplicationId}
    (h : table.Rewritten table' before after) (he : Extends rel before after)
    (hrel : ∀ x y, rel x y → owner y = owner x) (hbefore : ∀ x ∈ before, owner x = a)
    (hnew : ∀ y ∈ after.drop before.length, owner y = a) (hb : b ≠ a) :
    table'.rows.filter (fun x => owner x = b) = table.rows.filter fun x => owner x = b := by
  have hafter : ∀ y ∈ after, owner y = a :=
    he.forall_mem (fun x y hxy hx => (hrel x y hxy).trans hx) hnew hbefore
  have hother {x : α} (hx : owner x = a) : decide (owner x = b) = false :=
    decide_eq_false fun e => hb (e.symm.trans hx)
  exact h.filter_eq (fun x hx => hother (hbefore x hx)) fun y hy => hother (hafter y hy)

namespace Store

variable {store store' : Store} {a : ApplicationId}

theorem SameOutside.refl (a : ApplicationId) (store : Store) : SameOutside a store store :=
  ⟨fun _ _ => rfl, rfl, rfl, rfl, rfl⟩

theorem SameOutside.trans {store'' : Store} (h : SameOutside a store store')
    (h' : SameOutside a store' store'') : SameOutside a store store'' where
  trees b hb := (h'.trees b hb).trans (h.trees b hb)
  unlinked := h'.unlinked.trans h.unlinked
  outOfService := h'.outOfService.trans h.outOfService
  premises := h'.premises.trans h.premises
  districts := h'.districts.trans h.districts

/-- The tree of an application stays as it is if all that is chosen for it does. -/
theorem tree?_congr {id : ApplicationId}
    (happlication : store'.applications.find? id.text = store.applications.find? id.text)
    (hassessments : store'.assessments.rows.filter (fun a => a.applicationId = id) =
      store.assessments.rows.filter fun a => a.applicationId = id)
    (hplacements : store'.placementApplications.rows.filter (fun p => p.applicationId = id) =
      store.placementApplications.rows.filter fun p => p.applicationId = id)
    (hrequests : store'.placementRequests.rows.filter (fun r => r.applicationId = id) =
      store.placementRequests.rows.filter fun r => r.applicationId = id)
    (hbookings : store'.bookings.rows.filter (bookingBelongs id
        (store.placementRequests.rows.filter fun r => r.applicationId = id)) =
      store.bookings.rows.filter (bookingBelongs id
        (store.placementRequests.rows.filter fun r => r.applicationId = id))) :
    store'.tree? id = store.tree? id := by
  unfold tree?
  rw [happlication, hassessments, hplacements, hrequests]
  dsimp only
  rw [hbookings]

/-- Whether a booking belongs to an application is a matter of its links. -/
theorem bookingBelongs_congr {id : ApplicationId} {requests : List PlacementRequest}
    {b b' : Booking} (h : b'.links = b.links) :
    bookingBelongs id requests b' = bookingBelongs id requests b := by
  unfold bookingBelongs
  rw [Booking.applicationId_of_links h, Booking.placementRequestId_of_links h]

/-- **Writing a tree over leaves all others as they were**: its nodes are in none of them, before and
    after. -/
theorem Rooted.sameOutside_saveTree {world : World} (h : world.store.Rooted) {before after : Tree}
    (hc : (Call.saveTree before after).Due world) (hstored : world.store.Stores before) :
    SameOutside before.application.id world.store (world.store.putTree after) := by
  have hrev := hc.served.revises
  have hwritten := hc.rewrites hstored
  have hnames {b : Booking} (hb : b ∈ before.bookings) :
      b ∈ world.store.bookings.rows ∧ b.applicationId = some before.application.id :=
    (h.mem_bookings hstored).1 hb
  refine ⟨fun id hid => tree?_congr ?_ ?_ ?_ ?_ ?_, ?_, rfl, rfl, rfl⟩
  · refine Table.find?_put_of_ne _ fun e => hid ?_
    exact (congrArg Id.mk e).trans hrev.application.id_eq
  · exact hwritten.assessments.filter_owner_eq hrev.assessments (fun _ _ hch => hch.applicationId_eq)
      (fun _ hx => (hstored.mem_assessments.1 hx).2) (fun y hy => (hrev.newAssessments y hy).1) hid
  · exact hwritten.placements.filter_owner_eq hrev.placements (fun _ _ hch => hch.applicationId_eq)
      (fun _ hx => (hstored.mem_placements.1 hx).2) (fun y hy => (hrev.newPlacements y hy).1) hid
  · exact hwritten.requests.filter_owner_eq hrev.requests (fun _ _ hch => hch.applicationId_eq)
      (fun _ hx => (hstored.mem_requests.1 hx).2) (fun y hy => (hrev.newRequests y hy).1) hid
  · have hnot {b : Booking} (hb : b ∈ before.bookings) :
        bookingBelongs id (world.store.placementRequests.rows.filter fun r => r.applicationId = id)
          b = false := by
      obtain ⟨hrow, hnamed⟩ := hnames hb
      refine Bool.eq_false_iff.2 fun hbelongs => hid ?_
      exact Option.some.inj (((h.bookingBelongs_iff hrow).1 hbelongs).symm.trans hnamed)
    refine hwritten.bookings.filter_eq (fun b hb => hnot hb) fun b' hb' => ?_
    obtain ⟨b, hb, hch⟩ := exists_of_forall₂ hrev.bookings hb'
    rw [bookingBelongs_congr hch.links_eq]
    exact hnot hb
  · have hlinked {b : Booking} (hb : b ∈ before.bookings) : b.links ≠ .none := by
      intro hnone
      have hnamed := (hnames hb).2
      rw [Booking.applicationId_of_links hnone] at hnamed
      cases hnamed
    refine hwritten.bookings.filter_eq (fun b hb => decide_eq_false (hlinked hb)) fun b' hb' => ?_
    obtain ⟨b, hb, hch⟩ := exists_of_forall₂ hrev.bookings hb'
    rw [hch.links_eq]
    exact decide_eq_false (hlinked hb)

end Store

/-- **A call that stays in a tree changes nothing outside it.** -/
theorem Call.StaysIn.sameOutside {world : World} {c : Call} {e : Entity} {a : ApplicationId}
    (hstays : c.StaysIn e world.store) (hc : c.Offered world) (h : world.store.Rooted)
    (hown : world.store.ownerOf e = some a) :
    Store.SameOutside a world.store (c.perform world.store).2 := by
  have hrooted := h.perform hc
  rcases perform_cases world.store c with e | hw
  · rw [e]
    exact .refl a world.store
  · generalize (c.perform world.store).2 = store' at hrooted hw ⊢
    cases hw with
    | putPremises | putDistrict | replaceBooking | insertOutOfService | replaceOutOfService
    | insertApplication => cases hstays with | read _ _ hreads => cases hreads
    | insertBooking b hnew hopen hfree =>
      cases hstays with
      | read _ _ hreads => cases hreads
      | insertBooking _ a' _ hlinks hown' =>
        obtain rfl : a' = a := Option.some.inj (hown'.symm.trans hown)
        have hwritten := Table.rewritten_put_new (a := b) hnew
        refine ⟨fun id hid => Store.tree?_congr rfl rfl rfl rfl ?_, ?_, rfl, rfl, rfl⟩
        · refine hwritten.filter_eq (fun _ hx => absurd hx List.not_mem_nil) fun y hy => ?_
          obtain rfl := List.mem_singleton.1 hy
          refine Bool.eq_false_iff.2 fun hbelongs => hid ?_
          have hnamed := (hrooted.bookingBelongs_iff (Table.mem_place_self y _)).1 hbelongs
          exact Option.some.inj (hnamed.symm.trans hlinks)
        · refine hwritten.filter_eq (fun _ hx => absurd hx List.not_mem_nil) fun y hy => ?_
          obtain rfl := List.mem_singleton.1 hy
          refine decide_eq_false fun hnone => ?_
          rw [Booking.applicationId_of_links hnone] at hlinks
          cases hlinks
    | markSubmitted id on x hfind hstatus =>
      cases hstays with
      | read _ _ hreads => cases hreads
      | markSubmitted _ _ _ he =>
        subst he
        obtain ⟨y, hfind', hid⟩ := Option.map_eq_some_iff.1 hown
        obtain rfl : x = y := Option.some.inj (hfind.symm.trans hfind')
        refine ⟨fun b hb => Store.tree?_congr ?_ rfl rfl rfl rfl, rfl, rfl, rfl, rfl⟩
        exact Table.find?_put_of_ne _ fun e => hb ((congrArg Id.mk e).trans hid)
    | saveTree before after htree hid =>
      cases hstays with
      | read _ _ hreads => cases hreads
      | saveTree _ _ _ hown' =>
        obtain rfl : before.application.id = a := Option.some.inj (hown'.symm.trans hown)
        exact h.sameOutside_saveTree hc.due (Store.stores_of_tree? htree).2

/-! ## 2. What others do meanwhile -/

/-- **What others may do to the store**: nodes keep their owners, and nothing is named that is not
    stored. -/
structure Store.Later (store store' : Store) : Prop where
  keeps : store.KeepsOwners store'
  rooted : store'.Rooted

namespace Store.Later

variable {store store' store'' : Store}

theorem refl (h : store.Rooted) : store.Later store := ⟨fun _ _ hown => hown, h⟩

theorem trans (h : store.Later store') (h' : store'.Later store'') : store.Later store'' :=
  ⟨fun e a hown => h'.keeps e a (h.keeps e a hown), h'.rooted⟩

end Store.Later

/-- Whether a failed operation on applications says that a node is not in its tree. -/
def ApplicationError.misplaces : ApplicationError → Bool
  | .cascade (.notInTree _) => true
  | _ => false

/-- Whether a failed action says that a node is not in its tree. -/
def ActionError.misplaces : ActionError → Bool
  | .application error => error.misplaces
  | _ => false

theorem ApplicationError.ofSave_misplaces (id : ApplicationId) (e : StoreError) :
    (ofSave id e).misplaces = false := by
  cases e <;> rfl

theorem ApplicationError.ofSubmission_misplaces (id : ApplicationId) (e : StoreError) :
    (ofSubmission id e).misplaces = false := by
  cases e <;> rfl

/-! ## 3. Applications -/

namespace Applications

variable {e : Entity} {store : Store}

/-- **While others go on, an operation stays in the tree of a node**, and no error of it says that a
    node is not in its tree. -/
def Confined {α : Type} (e : Entity) (op : Operation ApplicationError α) (store : Store)
    (ends : α → Store → Prop) : Prop :=
  op.Amid Store.Later (Call.StaysIn e) store (fun error => error.misplaces = false) ends

theorem confined_obey {params : InvalidParams} {ends : Unit → Store → Prop} (h : ends () store) :
    Confined e (obey params) store ends :=
  (amid_failIf (by rfl)).2 fun _ => h

theorem confined_ensureLive {tree : Tree} {ends : Unit → Store → Prop} (h : ends () store) :
    Confined e (ensureLive tree) store ends :=
  (amid_failIf (by rfl)).2 fun _ => h

theorem confined_ensureNights {dates : PlacementDates} {property : String}
    {ends : Unit → Store → Prop} (h : ends () store) :
    Confined e (ensureNights dates property) store ends :=
  confined_obey h

/-- A tree that is found belongs to the application that it was asked for. -/
theorem confined_findTree {id : ApplicationId} {ends : Tree → Store → Prop}
    (h : ∀ store' tree, store.Later store' → store'.tree? id = some tree → ends tree store') :
    Confined e (findTree id) store ends := by
  unfold findTree
  refine amid_bind.2 (amid_read rfl (fun _ => by rfl) (fun s => .read _ s rfl) ?_)
  intro s found hlater hfound
  exact (amid_demand (by rfl)).2 fun tree htree => h s tree hlater ((Except.ok.inj hfound).trans htree)

/-- **The tree that is found for a node contains it**, even if others write between the two reads. -/
theorem confined_findTreeOf {node : Entity} {ends : Tree → Store → Prop}
    (h : ∀ store' tree, store.Later store' → store'.tree? tree.application.id = some tree →
      store'.ownerOf node = some tree.application.id → tree.contains node = true →
      ends tree store') :
    Confined e (findTreeOf node) store ends := by
  unfold findTreeOf
  refine amid_bind.2 (amid_read rfl (fun _ => by rfl) (fun s => .read _ s rfl) ?_)
  intro s₁ owner h₁ howner
  refine amid_bind.2 ((amid_demand (by rfl)).2 fun id hid => ?_)
  refine confined_findTree fun s₂ tree h₂ htree => ?_
  have hown : s₂.ownerOf node = some id := h₂.keeps node id ((Except.ok.inj howner).trans hid)
  obtain ⟨rfl, _⟩ := Store.stores_of_tree? htree
  exact h s₂ tree (h₁.trans h₂) htree hown ((h₂.rooted.contains_iff htree).2 hown)

/-- A tree is written over that was found for the node. -/
theorem confined_save {snapshot updated : Tree} {ends : Unit → Store → Prop}
    (hown : store.ownerOf e = some snapshot.application.id) (h : ∀ store', ends () store') :
    Confined e (save snapshot updated) store ends := by
  unfold save
  refine amid_call (ApplicationError.ofSave_misplaces _) (fun s hlater => ?_) fun s _ _ _ => h _
  exact .saveTree snapshot updated s (hlater.keeps e _ hown)

theorem confined_findPending {id : AssessmentId} {ends : Tree → Store → Prop}
    (h : ∀ store' tree, store'.ownerOf (.assessment id) = some tree.application.id →
      ends tree store') :
    Confined e (findPending id) store ends := by
  unfold findPending
  refine amid_bind.2 (confined_findTreeOf fun s tree _ _ hown _ => ?_)
  refine amid_bind.2 (confined_ensureLive (amid_bind.2 ?_))
  refine (amid_demand (by rfl)).2 fun assessment _ => amid_bind.2 ?_
  exact (amid_failIf (by rfl)).2 fun _ => h s tree hown

/-- An application that is found owns itself. -/
theorem ownerOf_of_tree? {store : Store} {id : ApplicationId} {tree : Tree}
    (htree : store.tree? id = some tree) :
    tree.application.id = id ∧ store.ownerOf (.application id) = some tree.application.id := by
  obtain ⟨rfl, hstored⟩ := Store.stores_of_tree? htree
  exact ⟨rfl, Table.find?_map_eq_some_iff.2 ⟨_, hstored.application, rfl, rfl⟩⟩

theorem confined_submit {id : ApplicationId} {today : Date} :
    Confined (.application id) (submit id today) store fun _ _ => True := by
  unfold submit
  refine amid_bind.2 (amid_call (ApplicationError.ofSubmission_misplaces id) ?_ ?_)
  · exact fun s _ => .markSubmitted id today s rfl
  · intro s _ _ _
    refine amid_bind.2 (confined_findTree fun s' tree _ htree => ?_)
    refine amid_bind.2 (amid_issue.2 fun n => amid_bind.2 ?_)
    exact confined_save (ownerOf_of_tree? htree).2 fun _ => trivial

theorem confined_acceptAssessment {id : AssessmentId} {dates : PlacementDates} {today : Date} :
    Confined (.assessment id) (acceptAssessment id dates today) store fun _ _ => True := by
  unfold acceptAssessment
  refine amid_bind.2 (confined_ensureNights (amid_bind.2 ?_))
  refine confined_findPending fun s tree hown => amid_bind.2 (amid_issue.2 fun n => ?_)
  exact amid_bind.2 (confined_save hown fun _ => trivial)

theorem confined_rejectAssessment {id : AssessmentId} :
    Confined (.assessment id) (rejectAssessment id) store fun _ _ => True := by
  unfold rejectAssessment
  refine amid_bind.2 (confined_findPending fun s tree hown => ?_)
  exact amid_bind.2 (confined_save hown fun _ => trivial)

theorem confined_reallocateAssessment {id : AssessmentId} {today : Date} :
    Confined (.assessment id) (reallocateAssessment id today) store fun _ _ => True := by
  unfold reallocateAssessment
  refine amid_bind.2 (confined_findPending fun s tree hown => amid_bind.2 (amid_issue.2 fun n => ?_))
  exact amid_bind.2 (confined_save hown fun _ => trivial)

theorem confined_createPlacement {id : ApplicationId} {today : Date} :
    Confined (.application id) (createPlacement id today) store fun _ _ => True := by
  unfold createPlacement
  refine amid_bind.2 (confined_findTree fun s tree _ htree => ?_)
  refine amid_bind.2 (confined_ensureLive (amid_bind.2 ?_))
  refine (amid_failIf (by rfl)).2 fun _ => amid_bind.2 (amid_issue.2 fun n => ?_)
  exact amid_bind.2 (confined_save (ownerOf_of_tree? htree).2 fun _ => trivial)

theorem confined_decidedPlacement {tree : Tree} {id : PlacementApplicationId}
    {decision : PlacementDecision} {today : Date} {ends : Tree → Store → Prop}
    (h : ∀ decided, ends decided store) :
    Confined e (decidedPlacement tree id decision today) store ends := by
  cases decision with
  | rejected => exact amid_pure.2 (h _)
  | accepted dates =>
    refine amid_bind.2 (confined_ensureNights (amid_bind.2 (amid_issue.2 fun n => ?_)))
    exact amid_pure.2 (h _)

theorem confined_decidePlacement {id : PlacementApplicationId} {decision : PlacementDecision}
    {today : Date} :
    Confined (.placementApplication id) (decidePlacement id decision today) store
      fun _ _ => True := by
  unfold decidePlacement
  refine amid_bind.2 (confined_findTreeOf fun s tree _ _ hown _ => ?_)
  refine amid_bind.2 (confined_ensureLive (amid_bind.2 ?_))
  refine (amid_demand (by rfl)).2 fun placement _ => amid_bind.2 ?_
  refine (amid_failIf (by rfl)).2 fun _ => amid_bind.2 (confined_decidedPlacement fun decided => ?_)
  exact amid_bind.2 (confined_save hown fun _ => trivial)

/-- A booking for a placement request is made for the application that owns the request. -/
theorem confined_bookRequest {id : PlacementRequestId} {request : PlacementBooking}
    {today : Date} :
    Confined (.placementRequest id) (bookRequest id request today) store fun _ _ => True := by
  unfold bookRequest
  refine amid_bind.2 (confined_findTreeOf fun s tree _ _ hown _ => ?_)
  refine amid_bind.2 (confined_ensureLive (amid_bind.2 ?_))
  refine (amid_demand (by rfl)).2 fun placement _ => amid_bind.2 ?_
  refine (amid_failIf (by rfl)).2 fun _ => amid_bind.2 ((amid_failWith ?_).2 fun _ => ?_)
  · intro error herror
    obtain ⟨booking, _, rfl⟩ := Option.map_eq_some_iff.1 herror
    rfl
  · refine amid_adapt.2 (Bookings.amid_create (fun _ _ _ h h' => h.trans h') (fun _ => by rfl)
      (fun c s h => .read c s h) ?_)
    exact fun n s₁ _ s' h₁ _ _ h' =>
      .insertBooking _ tree.application.id s' rfl ((h₁.trans h').keeps _ _ hown)

theorem confined_withdrawables {id : ApplicationId} :
    Confined (.application id) (withdrawables id) store fun _ _ => True := by
  unfold withdrawables
  exact amid_bind.2 (confined_findTree fun _ _ _ _ => amid_pure.2 trivial)

/-- **A withdrawal finds its target in the tree.** -/
theorem confined_withdraw {target : WithdrawalTarget} {request : WithdrawalRequest} {today : Date} :
    Confined target.entity (withdraw target request today) store fun _ _ => True := by
  unfold withdraw
  refine amid_bind.2 (confined_obey (amid_bind.2 ?_))
  refine confined_findTreeOf fun s tree _ htree hown hcontains => ?_
  obtain ⟨_, hstored⟩ := Store.stores_of_tree? htree
  split
  · rename_i error hwithdraw
    rcases (Tree.withdraw_eq_error_iff hstored.distinctIds).1 hwithdraw with
      ⟨hmissing, _⟩ | ⟨id, _, _, rfl⟩
    · rw [hcontains] at hmissing
      cases hmissing
    · exact amid_throw.2 rfl
  · rename_i outcome after _
    dsimp only
    by_cases hchanged : outcome.changed = true
    · rw [if_pos hchanged]
      exact amid_bind.2 (confined_save hown fun _ => amid_pure.2 trivial)
    · rw [if_neg hchanged]
      exact amid_pure.2 trivial

end Applications

/-! ## 4. Actions -/

namespace Action

/-- **The node to which an action is addressed**, if it is one on applications that are there. -/
def addressee : Action → Option Entity
  | .showApplication id => some (.application id)
  | .submit id => some (.application id)
  | .listWithdrawables id => some (.application id)
  | .withdraw target _ => some target.entity
  | .acceptAssessment id _ => some (.assessment id)
  | .rejectAssessment id => some (.assessment id)
  | .reallocateAssessment id => some (.assessment id)
  | .createPlacement id => some (.application id)
  | .decidePlacement id _ => some (.placementApplication id)
  | .bookRequest id _ => some (.placementRequest id)
  | _ => none

variable {e : Entity} {store : Store} {settings : SearchSettings} {today : Date}

theorem confined_replying {α : Type} {reply : α → Reply} {op : Operation ApplicationError α}
    (h : Applications.Confined e op store fun _ _ => True) :
    (replying .application reply op).Amid Store.Later (Call.StaysIn e) store
      (fun error => error.misplaces = false) fun _ _ => True := by
  unfold replying
  exact amid_adapt.2 (amid_map.2 h)

/-- **An action that is addressed to a node stays in its tree**, while others go on. -/
theorem confined_perform {wanted : Action} (haddressee : wanted.addressee = some e) :
    (wanted.perform settings today).Amid Store.Later (Call.StaysIn e) store
      (fun error => error.misplaces = false) fun _ _ => True := by
  cases wanted with
  | showApplication id =>
    cases haddressee
    exact confined_replying (Applications.confined_findTree fun _ _ _ _ => trivial)
  | submit id =>
    cases haddressee
    exact confined_replying Applications.confined_submit
  | listWithdrawables id =>
    cases haddressee
    exact confined_replying Applications.confined_withdrawables
  | withdraw target request =>
    cases haddressee
    exact confined_replying Applications.confined_withdraw
  | acceptAssessment id dates =>
    cases haddressee
    exact confined_replying Applications.confined_acceptAssessment
  | rejectAssessment id =>
    cases haddressee
    exact confined_replying Applications.confined_rejectAssessment
  | reallocateAssessment id =>
    cases haddressee
    exact confined_replying Applications.confined_reallocateAssessment
  | createPlacement id =>
    cases haddressee
    exact confined_replying Applications.confined_createPlacement
  | decidePlacement id decision =>
    cases haddressee
    exact confined_replying Applications.confined_decidePlacement
  | bookRequest id request =>
    cases haddressee
    exact confined_replying Applications.confined_bookRequest
  | _ => cases haddressee

/-- An operation whose errors are none of applications is told nothing about trees. -/
theorem amid_replying {ε α : Type} {wrap : ε → ActionError} {reply : α → Reply}
    {op : Operation ε α} (hwrap : ∀ error, (wrap error).misplaces = false) :
    (replying wrap reply op).Amid Store.Later (fun _ _ => True) store
      (fun error => error.misplaces = false) fun _ _ => True := by
  unfold replying
  refine amid_adapt.2 (Program.amid_of_forall (fun result _ => ?_) _ _)
  cases result with
  | ok reply => trivial
  | error error => exact hwrap error

/-- **No action fails because a node is not in its tree**, while others go on. -/
theorem amid_perform (wanted : Action) :
    (wanted.perform settings today).Amid Store.Later (fun _ _ => True) store
      (fun error => error.misplaces = false) fun _ _ => True := by
  cases haddressee : wanted.addressee with
  | some e =>
    exact Program.amid_mono (fun _ _ _ => trivial) (fun _ _ h => h) (confined_perform haddressee)
  | none =>
    cases wanted with
    | createApplication crn =>
      unfold perform replying Applications.create Applications.obey
      refine amid_adapt.2 (amid_map.2 (amid_bind.2 ((amid_failIf (by rfl)).2 fun _ => ?_)))
      refine amid_bind.2 (amid_issue.2 fun n => ?_)
      exact amid_call (fun _ => by rfl) (fun _ _ => trivial) fun _ _ _ _ => trivial
    | listPremises | listBookings | createBooking | showBooking | recordArrival
    | recordNonArrival | cancelBooking | takeOutOfService | cancelOutOfService | searchBeds =>
      exact amid_replying fun _ => rfl
    | showPremises id =>
      exact amid_replying fun error => by cases error <;> rfl
    | _ => cases haddressee

end Action

/-! ## 5. Runs -/

namespace System

variable {world : World} {s t : System}

/-- A result that does not say that a node is not in its tree. -/
def Placed (result : Except ActionError Reply) (_ : Store) : Prop :=
  ∀ error, result = .error error → error.misplaces = false

/-- **Every client keeps to what its calls are bound to**, while the others go on, and is not told that
    a node is not in its tree. -/
def Amid (makes : Nat → Call → Store → Prop) (s : System) : Prop :=
  ∀ i (p : Program (Except ActionError Reply)), s.clients[i]? = some p →
    p.Amid Store.Later (makes i) Placed s.world.store

namespace ReachesActing

/-- After a step of one client the store is a later one. -/
theorem later_move (h₀ : world.store.Unused) (h : (idle world).ReachesActing s) {i : Nat}
    {p p' : Program (Except ActionError Reply)} {world' : World} (hi : s.clients[i]? = some p)
    (hp : p.Moves s.world world' p') : s.world.store.Later world'.store := by
  have hrooted := (ReachesActing.move s i p p' world' h hi hp).rooted h₀
  rcases h.offered_move h₀.sound hi hp with e | ⟨c, hc, e⟩
  · have hsame : world'.store.Later world'.store := .refl hrooted
    rwa [e] at hsame ⊢
  · refine ⟨?_, hrooted⟩
    rw [e]
    exact hc.due.revisedBy.keepsOwners

/-- **Clients keep to their bounds in all that follows**, if those who come later are not bound. -/
theorem amid {makes : Nat → Call → Store → Prop} (h₀ : world.store.Unused)
    (hs : (idle world).ReachesActing s) (h : s.Amid makes)
    (hfree : ∀ i, s.clients.length ≤ i → ∀ c store, makes i c store) (ht : s.ReachesActing t) :
    t.Amid makes ∧ s.clients.length ≤ t.clients.length ∧ s.world.store.Later t.world.store := by
  have hwait {i : Nat} {store store' : Store} (p : Program (Except ActionError Reply))
      (hlater : store.Later store') (hp : p.Amid Store.Later (makes i) Placed store) :
      p.Amid Store.Later (makes i) Placed store' :=
    hp.wait (fun _ _ _ h₁ h₂ => Store.Later.trans h₁ h₂) (fun _ hplaced => hplaced) hlater
  induction ht with
  | start => exact ⟨h, Nat.le_refl _, .refl (hs.rooted h₀)⟩
  | ask t settings today wanted hr ih =>
    obtain ⟨hclients, hlength, hlater⟩ := ih
    refine ⟨fun i p hi => ?_, ?_, hlater⟩
    · rcases getElem?_ask_cases hi with ⟨_, hi⟩ | ⟨rfl, rfl⟩
      · exact hclients i p hi
      · have hasked : (wanted.perform settings today).Amid Store.Later (fun _ _ => True)
            t.world.store (fun error => error.misplaces = false) fun _ _ => True :=
          wanted.amid_perform
        exact Program.amid_mono (fun c store _ => hfree _ hlength c store) (fun _ _ h => h)
          hasked.errors
    · unfold System.ask
      rw [List.length_append]
      exact Nat.le_trans hlength (Nat.le_add_right _ _)
  | move t i p p' world' hr hi hp ih =>
    obtain ⟨hclients, hlength, hlater⟩ := ih
    have hnext : t.world.store.Later world'.store := (hs.trans hr).later_move h₀ hi hp
    refine ⟨fun j q hj => ?_, by rwa [List.length_set], hlater.trans hnext⟩
    rcases Entrusted.getElem?_set_cases hi j q hj with ⟨rfl, rfl⟩ | ⟨_, hj⟩
    · exact ((hclients j p hi).move (.refl ((hs.trans hr).rooted h₀)) hp).1
    · exact hwait q hnext (hclients j q hj)
  | load t c hr hc ih =>
    obtain ⟨hclients, hlength, hlater⟩ := ih
    have hrooted := (ReachesActing.load t c (hs.trans hr) hc).rooted h₀
    have hnext : t.world.store.Later (t.load c).world.store :=
      ⟨(hc.revisedBy t.world.store).keepsOwners, hrooted⟩
    exact ⟨fun j q hj => hwait q hnext (hclients j q hj), hlength, hlater.trans hnext⟩

theorem unbound (h₀ : world.store.Unused) (h : (idle world).ReachesActing s) :
    s.Amid fun _ _ _ => True := by
  have hnone : (idle world).Amid fun _ _ _ => True := by
    intro i p hp
    rw [idle, List.getElem?_nil] at hp
    cases hp
  exact (ReachesActing.start.amid h₀ hnone (fun _ _ _ _ => trivial) h).1

/-- **Nobody is told that a node is not in its tree.** -/
theorem not_misplaced (h₀ : world.store.Unused) (h : (idle world).ReachesActing s)
    {error : ActionError} (hmem : .done (.error error) ∈ s.clients) : error.misplaces = false := by
  obtain ⟨i, hi⟩ := List.mem_iff_getElem?.1 hmem
  exact h.unbound h₀ i _ hi error rfl

/-- **Each step of an action that is addressed to a node stays in the tree of the node's owner**,
    whatever others do between these steps. -/
theorem sameOutside_move (h₀ : world.store.Unused) (h : (idle world).ReachesActing s)
    {settings : SearchSettings} {today : Date} {wanted : Action} {e : Entity} {a : ApplicationId}
    (haddressee : wanted.addressee = some e) (hown : s.world.store.ownerOf e = some a)
    (ht : (s.ask settings today wanted).ReachesActing t)
    {p p' : Program (Except ActionError Reply)} {world' : World}
    (hi : t.clients[s.clients.length]? = some p) (hp : p.Moves t.world world' p') :
    Store.SameOutside a t.world.store world'.store := by
  let makes (i : Nat) : Call → Store → Prop :=
    if i = s.clients.length then Call.StaysIn e else fun _ _ => True
  have hstays : makes s.clients.length = Call.StaysIn e := if_pos rfl
  have hfree {i : Nat} (hne : i ≠ s.clients.length) : makes i = fun _ _ => True := if_neg hne
  have hasked := ReachesActing.ask s settings today wanted h
  have hbound : (s.ask settings today wanted).Amid makes := by
    intro i q hq
    rcases getElem?_ask_cases hq with ⟨hlt, hq⟩ | ⟨rfl, rfl⟩
    · rw [hfree (Nat.ne_of_lt hlt)]
      exact h.unbound h₀ i q hq
    · rw [hstays]
      exact (Action.confined_perform haddressee).errors
  have hothers : ∀ i, (s.ask settings today wanted).clients.length ≤ i →
      ∀ c store, makes i c store := by
    intro i hge c store
    unfold System.ask at hge
    rw [List.length_append, List.length_singleton] at hge
    rw [hfree (Nat.ne_of_gt hge)]
    trivial
  obtain ⟨hclients, _, hlater⟩ := hasked.amid h₀ hbound hothers ht
  have hreached := hasked.trans ht
  have hrooted := hreached.rooted h₀
  have hclient := hclients _ p hi
  rw [hstays] at hclient
  cases hp with
  | call c next =>
    obtain ⟨hc, _⟩ := hclient t.world.store (.refl hrooted)
    exact hc.sameOutside (hreached.offered h₀.sound hi) hrooted (hlater.keeps e a hown)
  | refused c next error => exact .refl a _
  | issue kind next => exact .refl a _

/-- **Carried out alone, with any faults, the whole action stays in that tree.** -/
theorem sameOutside_run (h₀ : world.store.Unused) (h : (idle world).ReachesActing s)
    {settings : SearchSettings} {today : Date} {wanted : Action} {e : Entity} {a : ApplicationId}
    (haddressee : wanted.addressee = some e) (hown : s.world.store.ownerOf e = some a)
    (faults : Faults) :
    Store.SameOutside a s.world.store
      ((wanted.perform settings today).run faults s.world).2.store := by
  have hpoints {p : Program (Except ActionError Reply)} {w : World}
      (hp : (ServiceRequest.action settings today wanted).program.Leads s.world p w) :
      Store.SameOutside a s.world.store w.store := by
    induction hp with
    | start => exact .refl a _
    | step p p' w w' hp hmove ih =>
      have hled : (s.ask settings today wanted).ReachesActing
          ⟨w, (s.ask settings today wanted).clients.set s.clients.length p⟩ :=
        ReachesActing.start.leads getElem?_ask hp
      have hclient : ((s.ask settings today wanted).clients.set s.clients.length p)[
          s.clients.length]? = some p := List.getElem?_set_self (by
        rw [System.ask, List.length_append, List.length_singleton]
        exact Nat.lt_succ_self _)
      exact ih.trans (h.sameOutside_move h₀ haddressee hown hled hclient hmove)
  exact hpoints (Program.leads_run faults _ s.world)

end ReachesActing

/-- **Trees share no node, and operations stay inside their own.** In every state that clients reach by
    actions, a node has an owner exactly if it lies in the owner's tree; each assessment, placement
    application, placement request and linked booking lies in one tree and an unlinked booking in none;
    and nobody is told that a node is not in its tree. An action that is addressed to a node of an
    application changes nothing outside its tree: neither carried out alone, with any faults, nor by any
    of its steps while others go on. -/
theorem reaches_confined (h₀ : world.store.Unused) (h : (idle world).ReachesActing s) :
    s.world.store.Apart ∧
      (∀ e : Entity, .done (.error (.application (.cascade (.notInTree e)))) ∉ s.clients) ∧
      (∀ settings today (wanted : Action) faults (e : Entity),
        ((wanted.perform settings today).run faults s.world).1 ≠
          .error (.application (.cascade (.notInTree e)))) ∧
      ∀ settings today (wanted : Action) e a, wanted.addressee = some e →
        s.world.store.ownerOf e = some a →
        (∀ faults, Store.SameOutside a s.world.store
          ((wanted.perform settings today).run faults s.world).2.store) ∧
        ∀ t p p' world', (s.ask settings today wanted).ReachesActing t →
          t.clients[s.clients.length]? = some p → p.Moves t.world world' p' →
          Store.SameOutside a t.world.store world'.store := by
  refine ⟨(h.rooted h₀).apart, fun e hmem => ?_, fun settings today wanted faults e hrun => ?_,
    fun settings today wanted e a haddressee hown => ⟨fun faults => ?_, ?_⟩⟩
  · cases h.not_misplaced h₀ hmem
  · have hserved := h.serve faults settings today wanted
    have hlast : .done ((wanted.perform settings today).run faults s.world).1 ∈
        (s.serve faults (.action settings today wanted)).clients :=
      List.mem_append_right _ (List.mem_singleton.2 rfl)
    rw [hrun] at hlast
    cases hserved.not_misplaced h₀ hlast
  · exact h.sameOutside_run h₀ haddressee hown faults
  · intro t p p' world' ht hi hp
    exact h.sameOutside_move h₀ haddressee hown ht hi hp

/-- Two applications, of which the second one is booked, and a booking of its own. -/
def twoApplications : System :=
  (idle .oneBed).serveAll
    [.createApplication "X320741", .createApplication "X320742",
      .submit (.numbered .application 1), .submit (.numbered .application 2),
      .acceptAssessment (.numbered .assessment 2) ⟨.first, 4⟩,
      .bookRequest (.numbered .placementRequest 1)
        ⟨⟨"premises-1"⟩, ⟨"bed-1"⟩, .first, Date.first.later 4⟩,
      .createBooking ⟨"premises-1"⟩
        ⟨"X320743", ⟨"bed-1"⟩, Date.first.later 4, Date.first.later 8⟩]

theorem reaches_twoApplications : (idle .oneBed).ReachesActing twoApplications :=
  ReachesActing.start.serveAll _

/-- The withdrawal of the second one, with its booking. -/
def withdrawSecond : Action :=
  .withdraw (.application (.numbered .application 2)) ⟨.noCapacity, none⟩

/-- The second application is withdrawn and its booking cancelled; the first one and the booking that
    stands on its own are as they were. -/
theorem twoApplications_confined :
    let after := ((withdrawSecond.perform .default .first).run .none twoApplications.world).2.store
    after.applications.rows.map Application.status = [.submitted, .withdrawn] ∧
      after.bookings.rows.map Booking.isCancelled = [true, false] ∧
      Store.SameOutside (.numbered .application 2) twoApplications.world.store after :=
  ⟨by decide +kernel, by decide +kernel,
    ((reaches_confined World.unused_oneBed reaches_twoApplications).2.2.2 .default .first
      withdrawSecond _ _ rfl (by decide +kernel)).1 .none⟩

end System

end Bedspace
