import Bedspace.Proofs.Decisions
import Bedspace.Proofs.InTurn
import Bedspace.Proofs.RequestBookings
import Bedspace.Proofs.Runs

/-!
# Withdrawn throughout

If requests are dealt with in turn, whatever is withdrawn is withdrawn with all that hangs on it.

* `Store.Hereditary`: nothing open hangs on what is not open, on any level of the trees;
* `Store.Linked`: bookings with links are for a placement request that is there, and for its
  application;
* `Call.Due.comesOpen`: in turn, new records come where everything they hang on is open;
* **`World.serves_withdrawnThroughout`**: in every world that actions lead to in turn, whatever
  calls are refused, all of a withdrawn application is withdrawn, and nothing under it can be.
-/

namespace Bedspace

/-- **All that hangs on what is withdrawn is withdrawn as well**, or is passed over: a reallocated
    assessment, a booking with an arrival. -/
structure Store.WithdrawnThroughout (store : Store) : Prop where
  assessments : ∀ id tree, store.tree? id = some tree → tree.application.isWithdrawn = true →
    ∀ a ∈ tree.assessments, a.withdrawn = true ∨ a.reallocatedOn.isSome = true
  placements : ∀ id tree, store.tree? id = some tree → tree.application.isWithdrawn = true →
    ∀ p ∈ tree.placementApplications, p.isWithdrawn = true
  requests : ∀ id tree, store.tree? id = some tree → tree.application.isWithdrawn = true →
    ∀ r ∈ tree.placementRequests, r.isWithdrawn = true
  bookings : ∀ id tree, store.tree? id = some tree → tree.application.isWithdrawn = true →
    ∀ b ∈ tree.bookings, b.isCancelled = true ∨ b.hasArrival = true
  belowPlacement : ∀ p ∈ store.placementApplications.rows, p.isWithdrawn = true →
    ∀ r ∈ store.placementRequests.rows, r.placementApplicationId = some p.id →
    r.isWithdrawn = true
  belowRequest : ∀ r ∈ store.placementRequests.rows, r.isWithdrawn = true →
    ∀ b ∈ store.bookings.rows, b.placementRequestId = some r.id →
    b.isCancelled = true ∨ b.hasArrival = true

/-! ## 1. The invariant -/

/-- **Nothing open hangs on what is not open.** -/
structure Store.Hereditary (store : Store) : Prop where
  assessments : Bedspace.Hereditary Assessment.hangsOn store.applications.rows
    store.assessments.rows
  placements : Bedspace.Hereditary PlacementApplication.hangsOn store.applications.rows
    store.placementApplications.rows
  firstRequests : Bedspace.Hereditary PlacementRequest.hangsOn store.applications.rows
    store.placementRequests.rows
  requests : Bedspace.Hereditary PlacementRequest.hangsOn store.placementApplications.rows
    store.placementRequests.rows
  bookings : Bedspace.Hereditary Booking.hangsOn store.placementRequests.rows store.bookings.rows

/-- **Bookings have no links, or those of a placement request and its application.** -/
def Store.Linked (store : Store) : Prop :=
  ∀ b ∈ store.bookings.rows, b.links = .none ∨
    ∃ r ∈ store.placementRequests.rows, b.links = ⟨some r.applicationId, some r.id⟩

/-- What holds of a store when requests are dealt with in turn. -/
structure Store.Orderly (store : Store) : Prop where
  decided : store.DecidedOnce
  hereditary : store.Hereditary
  linked : store.Linked

/-! ## 2. Where new records come -/

namespace Tree

/-- **What a saved tree adds**: only an application that is not withdrawn gets more, apart from its
    first assessment, and only an open placement application gets a placement request. -/
structure AddsLive (before after : Tree) : Prop where
  assessments : after.assessments.drop before.assessments.length ≠ [] →
    before.application.isWithdrawn = false ∨ before.standing < after.standing
  placements : after.placementApplications.drop before.placementApplications.length ≠ [] →
    before.application.isWithdrawn = false
  requests : ∀ r ∈ before.raised after, before.application.isWithdrawn = false ∧
    ∀ p ∈ before.placementApplications, r.placementApplicationId = some p.id →
      p.isWithdrawn = false

variable {before after tree : Tree}

theorem addsLive_of_live (hlive : before.application.isWithdrawn = false)
    (hraised : ∀ r ∈ before.raised after, r.placementApplicationId = none) :
    before.AddsLive after where
  assessments _ := .inl hlive
  placements _ := hlive
  requests r hr := by
    refine ⟨hlive, fun p _ hp => ?_⟩
    rw [hraised r hr] at hp
    cases hp

theorem Amends.addsLive (h : before.Amends after) : before.AddsLive after where
  assessments hne := absurd (drop_of_forall₂ h.assessments) hne
  placements hne := absurd (drop_of_forall₂ h.placements) hne
  requests r hr := by
    rw [raised_eq_nil h.requests.length_eq.symm] at hr
    cases hr

theorem not_mem_raised (h : after.placementRequests.length = before.placementRequests.length)
    {r : PlacementRequest} : r ∉ before.raised after := by
  rw [raised_eq_nil h]
  exact List.not_mem_nil

theorem eq_of_mem_raised_addRequest
    (h : tree.placementRequests.length = before.placementRequests.length)
    {r new : PlacementRequest} (hr : r ∈ before.raised (tree.addRequest new)) : r = new := by
  unfold raised addRequest at hr
  rw [drop_append_singleton h] at hr
  exact List.mem_singleton.1 hr

end Tree

/-- **Whatever the services save adds only to what is live.** -/
theorem Call.Served.addsLive {before after : Tree} (h : (Call.saveTree before after).Served) :
    before.AddsLive after := by
  cases h with
  | read _ h => cases h
  | allocate store id _ n today htree =>
    refine ⟨fun _ => .inr ?_, fun hne => ?_, fun r hr => absurd hr (Tree.not_mem_raised rfl)⟩
    · rw [Tree.standing_addAssessment rfl]
      exact Nat.lt_succ_self _
    · exact absurd List.drop_length hne
  | acceptAssessment _ id n dates today hpending hdays =>
    refine Tree.addsLive_of_live hpending.1.2 fun r hr => ?_
    rw [Tree.eq_of_mem_raised_addRequest rfl hr]
    rfl
  | rejectAssessment _ id hpending => exact (hpending.amends_decide .rejected).addsLive
  | reallocateAssessment _ id n today hpending =>
    exact Tree.addsLive_of_live hpending.1.2 fun r hr => absurd hr (Tree.not_mem_raised rfl)
  | createPlacement _ n today hlive haccepted =>
    exact Tree.addsLive_of_live hlive.2 fun r hr => absurd hr (Tree.not_mem_raised rfl)
  | rejectPlacement _ id placement hlive hfind hopen =>
    exact (Tree.amends_decidePlacement hfind hopen).addsLive
  | acceptPlacement _ id placement n dates today hlive hfind hopen hdays =>
    refine ⟨fun _ => .inl hlive.2, fun _ => hlive.2, fun r hr => ⟨hlive.2, fun p hp hnames => ?_⟩⟩
    rw [Tree.eq_of_mem_raised_addRequest rfl hr] at hnames
    -- the placement application that is decided is the only one with its identifier
    have hid : id = p.id := Option.some.inj hnames
    have hsame : placement = p := by
      have hfound := Tree.find?_of_mem hlive.distinctIds.placements hp
      rw [← hid, hfind] at hfound
      exact Option.some.inj hfound
    exact hsame ▸ (Bool.or_eq_false_iff.1 hopen).1
  | withdraw store id _ _ target reason note outcome htree hreason hwithdraw hchanged =>
    obtain ⟨_, hstored⟩ := Store.stores_of_tree? htree
    exact (Tree.amends_withdraw hstored.distinctIds hwithdraw).addsLive

/-- New records come where everything that they hang on is open. -/
structure Store.ComesOpen (store store' : Store) : Prop where
  assessments : Table.Revised Assessment.Change
    (Bedspace.ComesOpen Assessment.hangsOn store.applications.rows)
    store.assessments store'.assessments
  placements : Table.Revised PlacementApplication.Change
    (Bedspace.ComesOpen PlacementApplication.hangsOn store.applications.rows)
    store.placementApplications store'.placementApplications
  firstRequests : Table.Revised PlacementRequest.Change
    (Bedspace.ComesOpen PlacementRequest.hangsOn store.applications.rows)
    store.placementRequests store'.placementRequests
  requests : Table.Revised PlacementRequest.Change
    (Bedspace.ComesOpen PlacementRequest.hangsOn store.placementApplications.rows)
    store.placementRequests store'.placementRequests

theorem Store.ComesOpen.of_eq {store store' : Store}
    (ha : store'.assessments = store.assessments)
    (hp : store'.placementApplications = store.placementApplications)
    (hr : store'.placementRequests = store.placementRequests) : store.ComesOpen store' where
  assessments := ha ▸ .refl .same
  placements := hp ▸ .refl .same
  firstRequests := hr ▸ .refl .same
  requests := hr ▸ .refl .same

namespace Call.Due

variable {world : World}

/-- The application of a stored tree is the only one with its identifier. -/
theorem comesOpen_application {tree : Tree} (hstored : world.store.Stores tree)
    (hlive : tree.application.isWithdrawn = false) {β : Type} {hangsOn : β → Option Entity} {y : β}
    (hy : ∀ id, hangsOn y = some (.application id) → id = tree.application.id) :
    ComesOpen hangsOn world.store.applications.rows y := by
  intro x hx hlink
  have hsame : x = tree.application := world.store.applications.key_inj_of_mem hx
    hstored.application (congrArg Id.text (hy x.id hlink))
  exact Application.isOpen_iff.2 (hsame ▸ hlive)

theorem comesOpen_saveTree {before after : Tree} (hc : (Call.saveTree before after).Due world)
    (hsecure : ∀ right ∈ (Call.saveTree before after).needs, right.Secure world.store)
    (hstored : world.store.Stores before) :
    world.store.ComesOpen (world.store.putTree after) := by
  have hrev := hc.served.revises
  have hw := hc.rewrites hstored
  have hadds := hc.served.addsLive
  refine ⟨?_, ?_, ?_, ?_⟩
  · refine hw.assessments.revised hrev.assessments .same fun a ha => ?_
    have hlive : before.application.isWithdrawn = false := by
      rcases hadds.assessments (List.ne_nil_of_mem ha) with hlive | hrise
      · exact hlive
      · -- the first assessment goes to an application that is still submitted
        obtain ⟨b, hb, hid, hstatus⟩ :=
          hsecure (.allocation before.application.id) (.inr ⟨hrise, rfl⟩)
        have hsame : b = before.application := world.store.applications.key_inj_of_mem hb
          hstored.application (congrArg Id.text hid)
        rw [← hsame]
        simp [Application.isWithdrawn, hstatus]
    refine comesOpen_application hstored hlive fun id hlink => ?_
    exact (Assessment.hangsOn_eq_iff.1 hlink).symm.trans (hrev.newAssessments a ha).1
  · refine hw.placements.revised hrev.placements .same fun p hp => ?_
    refine comesOpen_application hstored (hadds.placements (List.ne_nil_of_mem hp))
      fun id hlink => ?_
    exact (PlacementApplication.hangsOn_eq_iff.1 hlink).symm.trans (hrev.newPlacements p hp).1
  · refine hw.requests.revised hrev.requests .same fun r hr => ?_
    refine comesOpen_application hstored (hadds.requests r hr).1 fun id hlink => ?_
    exact (PlacementRequest.hangsOn_application_iff.1 hlink).2.symm.trans (hrev.newRequests r hr).1
  · refine hw.requests.revised hrev.requests .same fun r hr p hp hlink => ?_
    have hnames := PlacementRequest.hangsOn_placement_iff.1 hlink
    obtain ⟨q, hq, hid⟩ := hc.served.settles.named r hr p.id hnames
    have hsame : q = p := world.store.placementApplications.key_inj_of_mem
      (hstored.mem_placements.1 hq).1 hp (congrArg Id.text hid)
    exact PlacementApplication.isOpen_iff.2 ((hadds.requests r hr).2 p (hsame ▸ hq) hnames)

/-- **In turn, new records come where everything they hang on is open.** -/
theorem comesOpen {c : Call} (hc : c.Due world)
    (hsecure : ∀ right ∈ c.needs, right.Secure world.store) :
    world.store.ComesOpen (c.perform world.store).2 := by
  rcases Call.perform_cases world.store c with e | hw
  · rw [e]
    exact .of_eq rfl rfl rfl
  · generalize (c.perform world.store).2 = store' at hw ⊢
    cases hw with
    | saveTree before after hstored hid =>
      exact hc.comesOpen_saveTree hsecure (Store.stores_of_tree? hstored).2
    | _ => exact .of_eq rfl rfl rfl

end Call.Due

/-! ## 3. One call -/

namespace Store

variable {world : World} {c : Call}

/-- **In turn, a due call hangs nothing open on what is not open**, and a withdrawal leaves nothing
    open on what it closes. -/
theorem Hereditary.perform (hc : c.Due world)
    (hsecure : ∀ right ∈ c.needs, right.Secure world.store) (hd : world.store.DecidedOnce)
    (h : world.store.Hereditary) : (c.perform world.store).2.Hereditary := by
  have hcomes := hc.comesOpen hsecure
  have hbookings := hereditary_bookings hc h.bookings
  have hprogress := hc.progress
  generalize (c.perform world.store).2 = store' at hcomes hbookings hprogress ⊢
  cases hprogress with
  | steady _ _ hs =>
    exact {
      assessments := h.assessments.of_revised hs.applications hcomes.assessments
        fun _ _ hch => hch.hangs
      placements := h.placements.of_revised hs.applications hcomes.placements
        fun _ _ hch => hch.hangs
      firstRequests := h.firstRequests.of_revised hs.applications hcomes.firstRequests
        fun _ _ hch => hch.hangs
      requests := h.requests.of_revised hs.placements hcomes.requests fun _ _ hch => hch.hangs
      bookings := hbookings }
  | withdrawal tree target note reasonOf hstored hw =>
    have hids := hstored.distinctIds
    refine ⟨?_, ?_, ?_, ?_, hbookings⟩
    · refine h.assessments.mark hw.application hw.assessments Assessment.hangsOn_mark
        (fun a ha => Tree.isOpen_assessment hids ha) fun x hx a ha hlink => ?_
      obtain rfl := List.mem_singleton.1 hx
      have ha := hstored.mem_assessments.2 ⟨ha, Assessment.hangsOn_eq_iff.1 hlink⟩
      exact ⟨ha, .assessment a ha⟩
    · refine h.placements.mark hw.application hw.placements PlacementApplication.hangsOn_mark
        (fun p hp => Tree.isOpen_placementApplication hids hp) fun x hx p hp hlink => ?_
      obtain rfl := List.mem_singleton.1 hx
      have hp := hstored.mem_placements.2 ⟨hp, PlacementApplication.hangsOn_eq_iff.1 hlink⟩
      exact ⟨hp, .placement p hp⟩
    · refine h.firstRequests.mark hw.application hw.requests PlacementRequest.hangsOn_mark
        (fun r hr => Tree.isOpen_placementRequest hids hr) fun x hx r hr hlink => ?_
      obtain rfl := List.mem_singleton.1 hx
      obtain ⟨hnone, hown⟩ := PlacementRequest.hangsOn_application_iff.1 hlink
      have hr := hstored.mem_requests.2 ⟨hr, hown⟩
      exact ⟨hr, .firstRequest r hr hnone⟩
    · refine h.requests.mark hw.placements hw.requests PlacementRequest.hangsOn_mark
        (fun r hr => Tree.isOpen_placementRequest hids hr) fun p hp r hr hlink => ?_
      have hnames := PlacementRequest.hangsOn_placement_iff.1 hlink
      -- a placement request is in the tree of the placement application that it names
      obtain ⟨q, hq, hid, happ⟩ := hd.sameApplication r hr p.id hnames
      obtain ⟨hprow, hown⟩ := hstored.mem_placements.1 hp
      have hsame : q = p := world.store.placementApplications.key_inj_of_mem hq hprow
        (congrArg Id.text hid)
      have hr := hstored.mem_requests.2 ⟨hr, happ.symm.trans (hsame ▸ hown)⟩
      exact ⟨hr, .request r hr p.id hnames⟩

/-- **Links are on offer** that name a stored placement request and its application. -/
def Offers (store : Store) (links : BookingLinks) : Prop :=
  ∃ r ∈ store.placementRequests.rows, links = ⟨some r.applicationId, some r.id⟩

/-- A placement request that was there is still there, of the same application. -/
theorem RevisedBy.offers {store store' : Store} (h : store.RevisedBy c store') {links : BookingLinks}
    (hlinks : store.Offers links) : store'.Offers links := by
  obtain ⟨r, hr, rfl⟩ := hlinks
  obtain ⟨r', hr', hch⟩ := h.requests.stays r hr
  exact ⟨r', hr', by rw [hch.id_eq, hch.applicationId_eq]⟩

/-- Where links are given only if they are on offer, no booking has others. -/
theorem Linked.perform (hc : c.Due world)
    (hoffered : ∀ links, Right.booking links ∈ c.needs → world.store.Offers links)
    (h : world.store.Linked) : (c.perform world.store).2.Linked := by
  have hrev := hc.revisedBy
  intro b' hb'
  rcases hrev.bookings.comes b' hb' with ⟨b, hb, hch⟩ | ⟨_, _, hlinks⟩
  · rw [hch.links_eq]
    exact (h b hb).imp_right hrev.offers
  · by_cases hnone : b'.links = .none
    · exact .inl hnone
    · exact .inr (hrev.offers (hoffered _ (hlinks hnone)))

theorem Orderly.perform (hs : world.Sound) (hc : c.Due world)
    (hsecure : ∀ right ∈ c.needs, right.Secure world.store) (h : world.store.Orderly) :
    (c.perform world.store).2.Orderly where
  decided := h.decided.perform hs hc
  hereditary := h.hereditary.perform hc hsecure h.decided
  linked := h.linked.perform hc fun _ hlinks => hsecure _ hlinks

theorem Unused.orderly {store : Store} (h : store.Unused) : store.Orderly where
  decided := h.decidedOnce
  hereditary := {
    assessments := .of_eq_nil h.applications
    placements := .of_eq_nil h.applications
    firstRequests := .of_eq_nil h.applications
    requests := .of_eq_nil h.placementApplications
    bookings := .of_eq_nil h.placementRequests }
  linked := by
    unfold Linked
    rw [h.bookings]
    exact fun _ hb => absurd hb List.not_mem_nil

/-! ## 4. What it comes to -/

/-- The placement requests of a withdrawn placement application are withdrawn. -/
theorem Hereditary.belowPlacement {store : Store} (h : store.Hereditary) {p : PlacementApplication}
    (hp : p ∈ store.placementApplications.rows) (hw : p.isWithdrawn = true) {r : PlacementRequest}
    (hr : r ∈ store.placementRequests.rows) (hnames : r.placementApplicationId = some p.id) :
    r.isWithdrawn = true := by
  rw [← Bool.not_eq_false]
  intro hlive
  have hopen := h.requests p hp r hr (PlacementRequest.hangsOn_placement_iff.2 hnames)
    (PlacementRequest.isOpen_iff.2 hlive)
  rw [PlacementApplication.isOpen_iff.1 hopen] at hw
  cases hw

/-- The bookings of a withdrawn placement request are cancelled or have an arrival. -/
theorem Hereditary.belowRequest {store : Store} (h : store.Hereditary) {r : PlacementRequest}
    (hr : r ∈ store.placementRequests.rows) (hw : r.isWithdrawn = true) {b : Booking}
    (hb : b ∈ store.bookings.rows) (hid : b.placementRequestId = some r.id) :
    b.isCancelled = true ∨ b.hasArrival = true := by
  cases hlive : b.isCancelled with
  | true => exact .inl rfl
  | false => exact .inr (hereditary_bookings_iff.1 h.bookings r hr hw b hb hid hlive)

/-- Nothing that hangs on a withdrawn application is open. -/
theorem Stores.not_isOpen_below {store : Store} {tree : Tree} (hstored : store.Stores tree)
    (hw : tree.application.isWithdrawn = true) {β : Type} [TreeNode β]
    {hangsOn : β → Option Entity} {ys : List β}
    (hys : Bedspace.Hereditary hangsOn store.applications.rows ys) {y : β} (hy : y ∈ ys)
    (hlink : hangsOn y = some (.application tree.application.id)) : TreeNode.isOpen y ≠ true := by
  intro hopen
  have happ := hys tree.application hstored.application y hy hlink hopen
  rw [Application.isOpen_iff.1 happ] at hw
  cases hw

namespace Orderly

variable {store : Store} {tree : Tree}

/-- A booking of a tree is for one of its placement requests. -/
theorem request_of_booking (h : store.Orderly) (hstored : store.Stores tree) {b : Booking}
    (hb : b ∈ tree.bookings) : ∃ r ∈ tree.placementRequests, b.placementRequestId = some r.id := by
  obtain ⟨hbrow, happ | hrequest⟩ := hstored.mem_bookings.1 hb
  · rcases h.linked b hbrow with hnone | ⟨r, hr, hlinks⟩
    · rw [Booking.applicationId_of_links hnone] at happ
      cases happ
    · rw [Booking.applicationId_of_links hlinks] at happ
      exact ⟨r, hstored.mem_requests.2 ⟨hr, Option.some.inj happ⟩,
        Booking.placementRequestId_of_links hlinks⟩
  · exact hrequest

variable (h : store.Orderly) (hstored : store.Stores tree)
  (hw : tree.application.isWithdrawn = true)

include h hstored hw

theorem assessment_passed {a : Assessment} (ha : a ∈ tree.assessments) :
    a.withdrawn = true ∨ a.reallocatedOn.isSome = true := by
  obtain ⟨harow, hown⟩ := hstored.mem_assessments.1 ha
  have hclosed := hstored.not_isOpen_below hw h.hereditary.assessments harow
    (Assessment.hangsOn_eq_iff.2 hown)
  rw [Ne, Assessment.isOpen_iff, not_and_or, Bool.not_eq_false] at hclosed
  exact hclosed.imp_right Option.isSome_iff_ne_none.2

theorem placement_withdrawn {p : PlacementApplication} (hp : p ∈ tree.placementApplications) :
    p.isWithdrawn = true := by
  obtain ⟨hprow, hown⟩ := hstored.mem_placements.1 hp
  have hclosed := hstored.not_isOpen_below hw h.hereditary.placements hprow
    (PlacementApplication.hangsOn_eq_iff.2 hown)
  rwa [Ne, PlacementApplication.isOpen_iff, Bool.not_eq_false] at hclosed

/-- The placement requests of a withdrawn application hang on it or on a placement application,
    which is withdrawn as well. -/
theorem request_withdrawn {r : PlacementRequest} (hr : r ∈ tree.placementRequests) :
    r.isWithdrawn = true := by
  obtain ⟨hrrow, hown⟩ := hstored.mem_requests.1 hr
  cases hnames : r.placementApplicationId with
  | none =>
    have hclosed := hstored.not_isOpen_below hw h.hereditary.firstRequests hrrow
      (PlacementRequest.hangsOn_application_iff.2 ⟨hnames, hown⟩)
    rwa [Ne, PlacementRequest.isOpen_iff, Bool.not_eq_false] at hclosed
  | some id =>
    obtain ⟨p, hp, rfl, happ⟩ := h.decided.sameApplication r hrrow id hnames
    have hpw := h.placement_withdrawn hstored hw
      (hstored.mem_placements.2 ⟨hp, happ.trans hown⟩)
    exact h.hereditary.belowPlacement hp hpw hrrow hnames

theorem booking_passed {b : Booking} (hb : b ∈ tree.bookings) :
    b.isCancelled = true ∨ b.hasArrival = true := by
  obtain ⟨r, hr, hid⟩ := h.request_of_booking hstored hb
  exact h.hereditary.belowRequest (hstored.mem_requests.1 hr).1
    (h.request_withdrawn hstored hw hr) (hstored.mem_bookings.1 hb).1 hid

/-- **Nothing in the tree of a withdrawn application may still be withdrawn.** -/
theorem withdrawables_eq_nil : tree.withdrawables = [] := by
  have hplacements : (tree.placementApplications.filter fun p => !p.isWithdrawn) = [] := by
    refine List.filter_eq_nil_iff.2 fun p hp => ?_
    rw [h.placement_withdrawn hstored hw hp]
    exact Bool.false_ne_true
  have hrequests : (tree.placementRequests.filter fun r => !r.isWithdrawn) = [] := by
    refine List.filter_eq_nil_iff.2 fun r hr => ?_
    rw [h.request_withdrawn hstored hw hr]
    exact Bool.false_ne_true
  have hbookings : (tree.bookings.filter fun b => !b.isCancelled && !b.hasArrival) = [] := by
    refine List.filter_eq_nil_iff.2 fun b hb => ?_
    rcases h.booking_passed hstored hw hb with hpassed | hpassed
    all_goals simp [hpassed]
  rw [Tree.withdrawables, hw, hplacements, hrequests, hbookings]
  rfl

end Orderly

theorem Orderly.withdrawnThroughout {store : Store} (h : store.Orderly) :
    store.WithdrawnThroughout where
  assessments _ _ htree hw _ ha := h.assessment_passed (stores_of_tree? htree).2 hw ha
  placements _ _ htree hw _ hp := h.placement_withdrawn (stores_of_tree? htree).2 hw hp
  requests _ _ htree hw _ hr := h.request_withdrawn (stores_of_tree? htree).2 hw hr
  bookings _ _ htree hw _ hb := h.booking_passed (stores_of_tree? htree).2 hw hb
  belowPlacement _ hp hw _ hr hnames := h.hereditary.belowPlacement hp hw hr hnames
  belowRequest _ hr hw _ hb hid := h.hereditary.belowRequest hr hw hb hid

end Store

namespace Applications

variable {world : World} {id : ApplicationId} {tree : Tree}

theorem run_findTree (h : world.store.tree? id = some tree) :
    (findTree id).run .none world = (.ok tree, world) := by
  unfold findTree
  rw [Operation.run_bind_of_ok (Operation.run_call_of_ok (a := some tree) ?_)]
  · exact Operation.run_demand_some
  · exact congrArg (fun found => (Except.ok found, world.store)) h

/-- **Asked what may still be withdrawn**, the service answers with the withdrawables of the tree. -/
theorem run_withdrawables (h : world.store.tree? id = some tree) :
    (withdrawables id).run .none world = (.ok tree.withdrawables, world) := by
  unfold withdrawables
  rw [Operation.run_bind_of_ok (run_findTree h)]
  rfl

end Applications

/-! ## 5. Requests in turn -/

namespace World

variable {world w : World}

/-- **When requests are dealt with in turn, a withdrawn application is withdrawn throughout**, and
    so are withdrawn placement applications and placement requests; nothing is left to be withdrawn
    under a withdrawn application. -/
theorem serves_withdrawnThroughout (h₀ : world.store.Unused) (h : world.Serves w) :
    w.store.WithdrawnThroughout ∧
      ∀ id tree, w.store.tree? id = some tree → tree.application.isWithdrawn = true →
        tree.withdrawables = [] ∧
        (Applications.withdrawables id).run .none w = (.ok [], w) := by
  obtain ⟨_, horderly⟩ := h.secure_invariant (fun _ _ hs hc hsecure => .perform hs hc hsecure)
    h₀.sound h₀.orderly
  refine ⟨horderly.withdrawnThroughout, fun id tree htree hw => ?_⟩
  have hnil := horderly.withdrawables_eq_nil (Store.stores_of_tree? htree).2 hw
  refine ⟨hnil, ?_⟩
  rw [Applications.run_withdrawables htree, hnil]

/-- An application is accepted, and once more on a placement application, and a bed is booked for
    its first placement request. It is withdrawn, which fails at first since the tree cannot be
    saved; after that nothing more is booked for it. -/
def closed : World :=
  let application : ApplicationId := .numbered .application 1
  let saveFails : Faults := fun method =>
    if method = .saveTree then some (.unavailable "no connection") else none
  let book (request start : Nat) : Action :=
    .bookRequest (.numbered .placementRequest request)
      ⟨⟨"premises-1"⟩, ⟨"bed-1"⟩, Date.first.later start, Date.first.later (start + 4)⟩
  oneBed.afterAll .first
    [(.none, .createApplication "X320741"), (.none, .submit application),
    (.none, .acceptAssessment (.numbered .assessment 1) ⟨.first, 4⟩),
    (.none, .createPlacement application),
    (.none, .decidePlacement (.numbered .placementApplication 1) (.accepted ⟨.first, 7⟩)),
    (.none, book 1 0),
    (saveFails, .withdraw (.application application) ⟨.noCapacity, none⟩),
    (.none, .withdraw (.application application) ⟨.noCapacity, none⟩),
    (.none, book 2 6)]

/-- The booking is cancelled with the application, and no other one follows. -/
theorem closed_withdrawnThroughout :
    closed.store.applications.rows.map Application.status = [.withdrawn] ∧
      closed.store.placementRequests.rows.map PlacementRequest.isWithdrawn = [true, true] ∧
      closed.store.bookings.rows.map Booking.isCancelled = [true] ∧
      closed.store.WithdrawnThroughout :=
  ⟨by decide +kernel, by decide +kernel, by decide +kernel,
    (serves_withdrawnThroughout unused_oneBed (.afterAll .start _)).1⟩

end World

end Bedspace
