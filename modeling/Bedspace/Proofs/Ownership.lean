import Bedspace.Proofs.Acting

/-!
# To which application a record belongs

A node of a tree names its application, and a booking with links names that of its placement request.
Since nothing is named that is not there, the owner of a node is the application in whose tree it is,
and no two trees share a node.

* `Store.Rooted`: no record names an application or a placement request that is not stored; this holds
  in every state that clients reach by actions (`System.ReachesActing.rooted`);
* `Store.Rooted.ownerOf_eq_some_iff`: a node has an owner exactly if it lies in the owner's tree;
* `Store.KeepsOwners`: a node that has an owner keeps it, whatever is written
  (`Store.RevisedBy.keepsOwners`);
* **`Store.Rooted.apart`**: every assessment, placement application, placement request and linked
  booking lies in one tree, an unlinked booking in none.
-/

namespace Bedspace

/-! ## 1. Nothing is named that is not there -/

namespace Store

/-- **No record names an application or a placement request that is not stored.** -/
structure Rooted (store : Store) : Prop where
  assessments : ∀ a ∈ store.assessments.rows, store.holds .application a.applicationId
  placements : ∀ p ∈ store.placementApplications.rows, store.holds .application p.applicationId
  requests : ∀ r ∈ store.placementRequests.rows, store.holds .application r.applicationId
  linked : store.Linked

/-- What comes to a store in one call names applications that were there before. -/
structure ComesRooted (store store' : Store) : Prop where
  assessments : Table.Revised Assessment.Change
    (fun a => store.holds .application a.applicationId) store.assessments store'.assessments
  placements : Table.Revised PlacementApplication.Change
    (fun p => store.holds .application p.applicationId)
    store.placementApplications store'.placementApplications
  requests : Table.Revised PlacementRequest.Change
    (fun r => store.holds .application r.applicationId)
    store.placementRequests store'.placementRequests

variable {store store' : Store}

theorem Unused.rooted (h : store.Unused) : store.Rooted where
  assessments a ha := by
    rw [h.assessments] at ha
    cases ha
  placements p hp := by
    rw [h.placementApplications] at hp
    cases hp
  requests r hr := by
    rw [h.placementRequests] at hr
    cases hr
  linked := h.orderly.linked

theorem RevisedBy.holds_application {c : Call} (h : store.RevisedBy c store') {id : ApplicationId}
    (ha : store.holds .application id) : store'.holds .application id := by
  obtain ⟨a, ha, rfl⟩ := ha
  obtain ⟨a', ha', hch⟩ := h.applications.stays a ha
  exact ⟨a', ha', hch.id_eq⟩

end Store

/-- **New nodes are of an application that is stored.** -/
theorem Call.Due.comesRooted {world : World} {c : Call} (hc : c.Due world) :
    world.store.ComesRooted (c.perform world.store).2 := by
  rcases perform_cases world.store c with e | hw
  · rw [e]
    exact ⟨.refl .same, .refl .same, .refl .same⟩
  · generalize (c.perform world.store).2 = store' at hw ⊢
    cases hw with
    | saveTree before after htree hid =>
      obtain ⟨_, hstored⟩ := Store.stores_of_tree? htree
      have hrev := hc.served.revises
      have hwritten := hc.rewrites hstored
      have hthere {id : ApplicationId} (h : id = before.application.id) :
          world.store.holds .application id := ⟨before.application, hstored.application, h.symm⟩
      exact ⟨
        hwritten.assessments.revised hrev.assessments .same
          fun a ha => hthere (hrev.newAssessments a ha).1,
        hwritten.placements.revised hrev.placements .same
          fun p hp => hthere (hrev.newPlacements p hp).1,
        hwritten.requests.revised hrev.requests .same
          fun r hr => hthere (hrev.newRequests r hr).1⟩
    | _ => exact ⟨.refl .same, .refl .same, .refl .same⟩

namespace Store.Rooted

/-- A due call that books only what is on offer names nothing that is not stored. -/
theorem perform {world : World} {c : Call} (h : world.store.Rooted) (hc : c.Offered world) :
    (c.perform world.store).2.Rooted := by
  have hcomes := hc.due.comesRooted
  have hthere {id : ApplicationId} (hid : world.store.holds .application id) :
      (c.perform world.store).2.holds .application id := hc.due.revisedBy.holds_application hid
  refine ⟨?_, ?_, ?_, h.linked.perform hc.due hc.offers⟩
  · refine hcomes.assessments.forall_mem (fun _ _ hch hx => ?_) (fun _ => hthere) h.assessments
    exact hch.applicationId_eq ▸ hthere hx
  · refine hcomes.placements.forall_mem (fun _ _ hch hx => ?_) (fun _ => hthere) h.placements
    exact hch.applicationId_eq ▸ hthere hx
  · refine hcomes.requests.forall_mem (fun _ _ hch hx => ?_) (fun _ => hthere) h.requests
    exact hch.applicationId_eq ▸ hthere hx

/-- A load writes none of these records. -/
theorem load {store : Store} {c : Call} (h : store.Rooted) (hc : c.Loads) :
    (c.perform store).2.Rooted := by
  cases hc with
  | premises => exact ⟨h.assessments, h.placements, h.requests, h.linked⟩
  | district => exact ⟨h.assessments, h.placements, h.requests, h.linked⟩

end Store.Rooted

/-- **Where clients ask for actions, nothing is named that is not stored.** -/
theorem System.ReachesActing.rooted {world : World} {s : System} (h₀ : world.store.Unused)
    (h : (idle world).ReachesActing s) : s.world.store.Rooted :=
  h.invariant h₀.sound (fun _ _ hc hrooted => hrooted.perform hc)
    (fun _ _ hc hrooted => hrooted.load hc) h₀.rooted

/-! ## 2. Owners and trees -/

theorem Table.find?_map_eq_some_iff {α β : Type} [Keyed α] {table : Table α} {f : α → β} {k : String}
    {b : β} : (table.find? k).map f = some b ↔ ∃ x ∈ table.rows, key x = k ∧ f x = b := by
  rw [Option.map_eq_some_iff]
  constructor
  · rintro ⟨x, hfind, hb⟩
    obtain ⟨hx, hkey⟩ := table.find?_eq_some_iff.1 hfind
    exact ⟨x, hx, hkey, hb⟩
  · rintro ⟨x, hx, hkey, hb⟩
    exact ⟨x, table.find?_eq_some_iff.2 ⟨hx, hkey⟩, hb⟩

namespace Store

variable {store : Store} {tree : Tree} {e : Entity} {a : ApplicationId}

/-- **A node lies in the tree of an application.** -/
def LiesIn (store : Store) (e : Entity) (a : ApplicationId) : Prop :=
  ∃ tree, store.tree? a = some tree ∧ tree.contains e = true

/-- The nodes of one kind that a tree has are the records of this kind that its application owns. -/
theorem any_iff_find?_map {α : Type} [Keyed α] {kind : Kind} {table : Table α} {nodes : List α}
    {id : Id kind} {idOf : α → Id kind} {owner : α → ApplicationId}
    (hkey : ∀ x, key x = (idOf x).text) (hnodes : ∀ x, x ∈ nodes ↔ x ∈ table.rows ∧ owner x = a) :
    (nodes.any fun x => idOf x = id) = true ↔ (table.find? id.text).map owner = some a := by
  simp only [List.any_eq_true, decide_eq_true_eq, Table.find?_map_eq_some_iff, hnodes]
  constructor
  · rintro ⟨x, ⟨hx, hown⟩, rfl⟩
    exact ⟨x, hx, hkey x, hown⟩
  · rintro ⟨x, hx, hid, hown⟩
    exact ⟨x, ⟨hx, hown⟩, congrArg Id.mk ((hkey x).symm.trans hid)⟩

theorem exists_tree?_of_holds (h : store.holds .application a) : ∃ tree, store.tree? a = some tree := by
  obtain ⟨application, hmem, rfl⟩ := h
  have hfind : store.applications.find? application.id.text = some application :=
    store.applications.find?_eq_some_iff.2 ⟨hmem, rfl⟩
  unfold tree?
  rw [hfind]
  exact ⟨_, rfl⟩

namespace Rooted

variable (h : store.Rooted)

include h

/-- A booking belongs to the application that it names, by placement requests of which the stored ones
    are of this application. -/
theorem bookingBelongs_iff_of {requests : List PlacementRequest}
    (hrequests : ∀ r ∈ requests, ∀ r' ∈ store.placementRequests.rows, r'.id = r.id →
      r'.applicationId = a)
    {b : Booking} (hb : b ∈ store.bookings.rows) :
    bookingBelongs a requests b = true ↔ b.applicationId = some a := by
  unfold bookingBelongs
  rw [Bool.or_eq_true, decide_eq_true_eq, or_iff_left_iff_imp, Option.any_eq_true]
  rintro ⟨request, hnames, hrequest⟩
  obtain ⟨r, hr, hid⟩ := List.any_eq_true.1 hrequest
  rw [decide_eq_true_eq] at hid
  rcases h.linked b hb with hnone | ⟨r', hr', hlinks⟩
  · rw [Booking.placementRequestId_of_links hnone] at hnames
    cases hnames
  · have hid' : r'.id = r.id := Option.some.inj
      ((Booking.placementRequestId_of_links hlinks).symm.trans (hnames.trans (hid ▸ rfl)))
    rw [← hrequests r hr r' hr' hid']
    exact Booking.applicationId_of_links hlinks

theorem bookingBelongs_iff {b : Booking} (hb : b ∈ store.bookings.rows) :
    bookingBelongs a (store.placementRequests.rows.filter fun r => r.applicationId = a) b = true ↔
      b.applicationId = some a := by
  refine h.bookingBelongs_iff_of (fun r hr r' hr' hid => ?_) hb
  obtain ⟨hr, hown⟩ := List.mem_filter.1 hr
  -- a placement request is stored once
  have hsame : r' = r := store.placementRequests.key_inj_of_mem hr' hr (congrArg Id.text hid)
  exact hsame ▸ of_decide_eq_true hown

/-- A booking is in the tree of the application that it names. -/
theorem mem_bookings (hstored : store.Stores tree) {b : Booking} :
    b ∈ tree.bookings ↔
      b ∈ store.bookings.rows ∧ b.applicationId = some tree.application.id := by
  rw [hstored.bookings, List.mem_filter, hstored.requests]
  exact and_congr_right fun hb => h.bookingBelongs_iff hb

/-- The owner of a booking is the application that it names. -/
theorem ownerOf_booking {id : BookingId} :
    store.ownerOf (.booking id) = some a ↔
      ∃ b ∈ store.bookings.rows, key b = id.text ∧ b.applicationId = some a := by
  have howner {b : Booking} (hb : b ∈ store.bookings.rows) :
      (b.applicationId.or (b.placementRequestId.bind fun request =>
        (store.placementRequests.find? request.text).map PlacementRequest.applicationId)) =
          b.applicationId := by
    rcases h.linked b hb with hnone | ⟨r, _, hlinks⟩
    · rw [Booking.applicationId_of_links hnone, Booking.placementRequestId_of_links hnone]
      rfl
    · rw [Booking.applicationId_of_links hlinks]
      rfl
  unfold ownerOf
  dsimp only
  rw [Option.bind_eq_some_iff]
  constructor
  · rintro ⟨b, hfind, hb⟩
    obtain ⟨hmem, hkey⟩ := store.bookings.find?_eq_some_iff.1 hfind
    exact ⟨b, hmem, hkey, (howner hmem).symm.trans hb⟩
  · rintro ⟨b, hmem, hkey, hb⟩
    exact ⟨b, store.bookings.find?_eq_some_iff.2 ⟨hmem, hkey⟩, (howner hmem).trans hb⟩

/-- **A stored tree contains exactly the nodes that its application owns.** -/
theorem contains_iff (htree : store.tree? a = some tree) :
    tree.contains e = true ↔ store.ownerOf e = some a := by
  obtain ⟨rfl, hstored⟩ := stores_of_tree? htree
  cases e with
  | application id =>
    unfold Tree.contains ownerOf
    rw [decide_eq_true_eq, Table.find?_map_eq_some_iff]
    constructor
    · rintro rfl
      exact ⟨tree.application, hstored.application, rfl, rfl⟩
    · rintro ⟨x, _, hkey, hid⟩
      exact hid.symm.trans (congrArg Id.mk hkey)
  | assessment id => exact any_iff_find?_map (fun _ => rfl) fun _ => hstored.mem_assessments
  | placementApplication id => exact any_iff_find?_map (fun _ => rfl) fun _ => hstored.mem_placements
  | placementRequest id => exact any_iff_find?_map (fun _ => rfl) fun _ => hstored.mem_requests
  | booking id =>
    rw [h.ownerOf_booking]
    unfold Tree.contains
    simp only [List.any_eq_true, decide_eq_true_eq, h.mem_bookings hstored]
    constructor
    · rintro ⟨x, ⟨hx, hown⟩, rfl⟩
      exact ⟨x, hx, rfl, hown⟩
    · rintro ⟨x, hx, hkey, hown⟩
      exact ⟨x, ⟨hx, hown⟩, congrArg Id.mk hkey⟩

/-- An application that owns a node is stored. -/
theorem holds_of_ownerOf (hown : store.ownerOf e = some a) : store.holds .application a := by
  cases e with
  | application id =>
    obtain ⟨x, hx, _, hid⟩ := Table.find?_map_eq_some_iff.1 hown
    exact ⟨x, hx, hid⟩
  | assessment id =>
    obtain ⟨x, hx, _, rfl⟩ := Table.find?_map_eq_some_iff.1 hown
    exact h.assessments x hx
  | placementApplication id =>
    obtain ⟨x, hx, _, rfl⟩ := Table.find?_map_eq_some_iff.1 hown
    exact h.placements x hx
  | placementRequest id =>
    obtain ⟨x, hx, _, rfl⟩ := Table.find?_map_eq_some_iff.1 hown
    exact h.requests x hx
  | booking id =>
    obtain ⟨b, hb, _, happ⟩ := h.ownerOf_booking.1 hown
    rcases h.linked b hb with hnone | ⟨r, hr, hlinks⟩
    · rw [Booking.applicationId_of_links hnone] at happ
      cases happ
    · rw [Booking.applicationId_of_links hlinks] at happ
      obtain rfl := Option.some.inj happ
      exact h.requests r hr

/-- **A node has an owner exactly if it lies in the owner's tree.** -/
theorem ownerOf_eq_some_iff : store.ownerOf e = some a ↔ store.LiesIn e a := by
  constructor
  · intro hown
    obtain ⟨tree, htree⟩ := exists_tree?_of_holds (h.holds_of_ownerOf hown)
    exact ⟨tree, htree, (h.contains_iff htree).2 hown⟩
  · rintro ⟨tree, htree, hcontains⟩
    exact (h.contains_iff htree).1 hcontains

/-- What has an owner lies in one tree. -/
theorem existsUnique_liesIn (hown : store.ownerOf e = some a) : ∃! b, store.LiesIn e b := by
  refine ⟨a, h.ownerOf_eq_some_iff.1 hown, fun b hb => ?_⟩
  exact Option.some.inj ((h.ownerOf_eq_some_iff.2 hb).symm.trans hown)

end Rooted

/-- **Trees share no node**: each node lies in one tree, apart from unlinked bookings, which lie in
    none. -/
structure Apart (store : Store) : Prop where
  owner : ∀ e a, store.ownerOf e = some a ↔ store.LiesIn e a
  assessments : ∀ x ∈ store.assessments.rows, ∃! a, store.LiesIn (.assessment x.id) a
  placements : ∀ p ∈ store.placementApplications.rows,
    ∃! a, store.LiesIn (.placementApplication p.id) a
  requests : ∀ r ∈ store.placementRequests.rows, ∃! a, store.LiesIn (.placementRequest r.id) a
  linked : ∀ b ∈ store.bookings.rows, b.links ≠ .none → ∃! a, store.LiesIn (.booking b.id) a
  unlinked : ∀ b ∈ store.bookings.rows, b.links = .none → ∀ a, ¬ store.LiesIn (.booking b.id) a

theorem Rooted.apart (h : store.Rooted) : store.Apart where
  owner _ _ := h.ownerOf_eq_some_iff
  assessments x hx :=
    h.existsUnique_liesIn (Table.find?_map_eq_some_iff.2 ⟨x, hx, rfl, rfl⟩)
  placements p hp :=
    h.existsUnique_liesIn (Table.find?_map_eq_some_iff.2 ⟨p, hp, rfl, rfl⟩)
  requests r hr :=
    h.existsUnique_liesIn (Table.find?_map_eq_some_iff.2 ⟨r, hr, rfl, rfl⟩)
  linked b hb hlinked := by
    obtain ⟨r, _, hlinks⟩ := (h.linked b hb).resolve_left hlinked
    exact h.existsUnique_liesIn
      (h.ownerOf_booking.2 ⟨b, hb, rfl, Booking.applicationId_of_links hlinks⟩)
  unlinked b hb hnone a hlies := by
    obtain ⟨b', hb', hkey, happ⟩ := h.ownerOf_booking.1 (h.ownerOf_eq_some_iff.2 hlies)
    obtain rfl := store.bookings.key_inj_of_mem hb' hb hkey
    rw [Booking.applicationId_of_links hnone] at happ
    cases happ

end Store

/-! ## 3. Owners stay -/

/-- A record that is found is found later, changed along `rel`. -/
theorem Table.Revised.find? {α : Type} [Keyed α] {rel : α → α → Prop} {new : α → Prop}
    {table table' : Table α} (h : Revised rel new table table')
    (hkey : ∀ x y, rel x y → key y = key x) {k : String} {x : α} (hx : table.find? k = some x) :
    ∃ y, table'.find? k = some y ∧ rel x y := by
  obtain ⟨hmem, hk⟩ := table.find?_eq_some_iff.1 hx
  obtain ⟨y, hy, hxy⟩ := h.stays x hmem
  exact ⟨y, table'.find?_eq_some_iff.2 ⟨hy, (hkey x y hxy).trans hk⟩, hxy⟩

/-- What is read from a record that is found is read from it later, if no change touches it. -/
theorem Table.Revised.find?_map {α β : Type} [Keyed α] {rel : α → α → Prop} {new : α → Prop}
    {table table' : Table α} (h : Revised rel new table table')
    (hkey : ∀ x y, rel x y → key y = key x) {f : α → β} (hf : ∀ x y, rel x y → f y = f x)
    {k : String} {b : β} (hb : (table.find? k).map f = some b) :
    (table'.find? k).map f = some b := by
  obtain ⟨x, hx, rfl⟩ := Option.map_eq_some_iff.1 hb
  obtain ⟨y, hy, hxy⟩ := h.find? hkey hx
  exact Option.map_eq_some_iff.2 ⟨y, hy, hf x y hxy⟩

/-- **Every node that has an owner keeps it.** -/
def Store.KeepsOwners (store store' : Store) : Prop :=
  ∀ e a, store.ownerOf e = some a → store'.ownerOf e = some a

/-- Whatever is written, nodes keep their owners. -/
theorem Store.RevisedBy.keepsOwners {store store' : Store} {c : Call}
    (h : store.RevisedBy c store') : store.KeepsOwners store' := by
  have hrequest {request : PlacementRequestId} {a : ApplicationId}
      (hown : store.ownerOf (.placementRequest request) = some a) :
      store'.ownerOf (.placementRequest request) = some a :=
    h.requests.find?_map (fun _ _ hch => congrArg Id.text hch.id_eq)
      (fun _ _ hch => hch.applicationId_eq) hown
  intro e a hown
  cases e with
  | application id =>
    exact h.applications.find?_map (fun _ _ hch => congrArg Id.text hch.id_eq)
      (fun _ _ hch => hch.id_eq) hown
  | assessment id =>
    exact h.assessments.find?_map (fun _ _ hch => congrArg Id.text hch.id_eq)
      (fun _ _ hch => hch.applicationId_eq) hown
  | placementApplication id =>
    exact h.placements.find?_map (fun _ _ hch => congrArg Id.text hch.id_eq)
      (fun _ _ hch => hch.applicationId_eq) hown
  | placementRequest id => exact hrequest hown
  | booking id =>
    obtain ⟨b, hfind, hb⟩ := Option.bind_eq_some_iff.1 hown
    obtain ⟨b', hfind', hch⟩ := h.bookings.find? (fun _ _ hch => congrArg Id.text hch.id_eq) hfind
    refine Option.bind_eq_some_iff.2 ⟨b', hfind', ?_⟩
    rw [Booking.applicationId_of_links hch.links_eq,
      Booking.placementRequestId_of_links hch.links_eq]
    cases happ : b.applicationId with
    | some id =>
      rw [happ] at hb
      exact hb
    | none =>
      rw [happ, Option.none_or] at hb
      obtain ⟨request, hnames, hr⟩ := Option.bind_eq_some_iff.1 hb
      rw [Option.none_or]
      exact Option.bind_eq_some_iff.2 ⟨request, hnames, hrequest hr⟩

end Bedspace
