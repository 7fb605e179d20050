import Bedspace.Proofs.Changes

/-!
# Parts of a table written anew

A write replaces some records of a table by others and leaves the rest of it as it was.

* `Table.Rewritten` says so of one table, up to the order of the rows, which is enough to count
  them; `Table.rewritten_of_extends` shows it for records that are carried over with at most one
  new one among them, if that one is filed under a new key;
* `Table.Revised` keeps of it what becomes of each record: it stays, changed in one way at most;
* `Store.Stores` says how the tree of an application is cut out of the tables.
-/

namespace Bedspace

/-! ## 1. Tables -/

namespace Table

variable {α : Type} [Keyed α] {table table' : Table α} {before after : List α}

/-- **Some records of a table are replaced by others**, and the rest of it is as it was. -/
def Rewritten (table table' : Table α) (before after : List α) : Prop :=
  ∃ rest, table.rows.Perm (before ++ rest) ∧ table'.rows.Perm (after ++ rest)

/-- What a count loses with the records that are replaced it gains with the ones in their place. -/
theorem Rewritten.countP (h : table.Rewritten table' before after) (p : α → Bool) :
    table'.rows.countP p + before.countP p = table.rows.countP p + after.countP p := by
  obtain ⟨rest, hrows, hrows'⟩ := h
  rw [hrows.countP_eq, hrows'.countP_eq, List.countP_append, List.countP_append]
  omega

theorem eq_of_rows_eq (h : table.rows = table'.rows) : table = table' := by
  obtain ⟨rows, _⟩ := table
  obtain ⟨rows', _⟩ := table'
  obtain rfl : rows = rows' := h
  rfl

/-- Rows in ascending order are told by what is among them. -/
theorem eq_of_perm {xs ys : List α} (h : xs.Perm ys) (hxs : xs.Pairwise fun a b => key a < key b)
    (hys : ys.Pairwise fun a b => key a < key b) : xs = ys :=
  h.eq_of_pairwise (fun _ _ _ _ hxy hyx => absurd hyx (String.lt_asymm hxy)) hxs hys

/-- What is chosen from a table stays as it is, in its order, if nothing that is replaced or put in
    its place is chosen. -/
theorem Rewritten.filter_eq (h : table.Rewritten table' before after) {p : α → Bool}
    (hbefore : ∀ x ∈ before, p x = false) (hafter : ∀ x ∈ after, p x = false) :
    table'.rows.filter p = table.rows.filter p := by
  obtain ⟨rest, hrows, hrows'⟩ := h
  have hchosen {replaced : List α} (hnone : ∀ x ∈ replaced, p x = false) :
      (replaced ++ rest).filter p = rest.filter p := by
    have hempty : replaced.filter p = [] :=
      List.filter_eq_nil_iff.2 fun x hx => Bool.eq_false_iff.1 (hnone x hx)
    rw [List.filter_append, hempty, List.nil_append]
  have hperm : (table'.rows.filter p).Perm (table.rows.filter p) := by
    have hleft := hrows'.filter p
    have hright := hrows.filter p
    rw [hchosen hafter] at hleft
    rw [hchosen hbefore] at hright
    exact hleft.trans hright.symm
  exact eq_of_perm hperm (table'.ascending.filter p) (table.ascending.filter p)

theorem nodup_rows (table : Table α) : table.rows.Nodup := .of_map key table.nodup_keys

/-- **Writing records over some of the rows**: the keys of these rows are among the keys written,
    and no other row has one of them. -/
theorem rewritten_putAll (hsub : before.Sublist table.rows) (hkeys : (after.map key).Nodup)
    (hcovered : ∀ x ∈ before, key x ∈ after.map key)
    (honly : ∀ x ∈ table.rows, key x ∈ after.map key → x ∈ before) :
    table.Rewritten (table.putAll after) before after := by
  have hrest : (table.rows.filter fun x => decide (key x ∉ after.map key)).Nodup :=
    table.nodup_rows.sublist List.filter_sublist
  refine ⟨table.rows.filter fun x => decide (key x ∉ after.map key), ?_, ?_⟩
  · refine (List.perm_ext_iff_of_nodup table.nodup_rows ?_).2 fun x => ?_
    · refine List.nodup_append'.2 ⟨table.nodup_rows.sublist hsub, hrest, fun x hx hx' => ?_⟩
      exact of_decide_eq_true (List.mem_filter.1 hx').2 (hcovered x hx)
    · rw [List.mem_append, List.mem_filter, decide_eq_true_eq]
      constructor
      · intro hx
        by_cases hk : key x ∈ after.map key
        · exact .inl (honly x hx hk)
        · exact .inr ⟨hx, hk⟩
      · rintro (hx | ⟨hx, _⟩)
        · exact hsub.subset hx
        · exact hx
  · refine (List.perm_ext_iff_of_nodup (table.putAll after).nodup_rows ?_).2 fun x => ?_
    · refine List.nodup_append'.2 ⟨.of_map key hkeys, hrest, fun x hx hx' => ?_⟩
      exact of_decide_eq_true (List.mem_filter.1 hx').2 (List.mem_map_of_mem hx)
    · rw [table.mem_putAll hkeys, List.mem_append, List.mem_filter, decide_eq_true_eq]

/-- **Writing rows of a table over themselves** leaves it as it is. -/
theorem putAll_of_sublist {records : List α} (hsub : records.Sublist table.rows) :
    table.putAll records = table := by
  obtain ⟨rest, hrows, hrows'⟩ := rewritten_putAll hsub (table.nodup_keys.sublist (hsub.map key))
    (fun x hx => List.mem_map_of_mem hx) fun x hx hk => by
      obtain ⟨y, hy, e⟩ := List.mem_map.1 hk
      exact table.key_inj_of_mem (hsub.subset hy) hx e ▸ hy
  exact eq_of_rows_eq
    (eq_of_perm (hrows'.trans hrows.symm) (table.putAll records).ascending table.ascending)

/-- Records that are carried over keep their keys. -/
theorem map_key_of_extends {rel : α → α → Prop} (hrel : ∀ x y, rel x y → key y = key x)
    (he : Extends rel before after) :
    after.map key = before.map key ++ (after.drop before.length).map key := by
  have hkept : (after.take before.length).map key = before.map key := by
    rw [← List.forall₂_eq_eq_eq, List.forall₂_map_left_iff, List.forall₂_map_right_iff]
    exact (he.kept.imp hrel).flip
  rw [← hkept, ← List.map_append, List.take_append_drop]

/-- **Records that are carried over, with at most one new one**, are written over the rows that they
    come from. -/
theorem rewritten_of_extends {rel : α → α → Prop} (hrel : ∀ x y, rel x y → key y = key x)
    (hsub : before.Sublist table.rows) (he : Extends rel before after)
    (hfresh : ∀ y ∈ after.drop before.length, table.contains (key y) = false) :
    table.Rewritten (table.putAll after) before after := by
  have hkeys := map_key_of_extends hrel he
  have hnew (x : α) (hx : x ∈ table.rows) : key x ∉ (after.drop before.length).map key := by
    intro hk
    obtain ⟨y, hy, e⟩ := List.mem_map.1 hk
    have hthere : table.contains (key y) = true := table.contains_iff.2 ⟨x, hx, e.symm⟩
    rw [hfresh y hy] at hthere
    exact Bool.false_ne_true hthere
  refine rewritten_putAll hsub ?_ (fun x hx => ?_) fun x hx hk => ?_
  · rw [hkeys]
    refine List.nodup_append'.2 ⟨table.nodup_keys.sublist (hsub.map key), ?_, fun k hk hk' => ?_⟩
    · -- a list of at most one member has no member twice
      match after.drop before.length, he.added with
      | [], _ => exact List.nodup_nil
      | [y], _ => exact List.nodup_singleton (key y)
    · obtain ⟨x, hx, rfl⟩ := List.mem_map.1 hk
      exact hnew x (hsub.subset hx) hk'
  · rw [hkeys]
    exact List.mem_append_left _ (List.mem_map_of_mem hx)
  · rw [hkeys] at hk
    rcases List.mem_append.1 hk with hk | hk
    · obtain ⟨y, hy, e⟩ := List.mem_map.1 hk
      exact table.key_inj_of_mem (hsub.subset hy) hx e ▸ hy
    · exact absurd hk (hnew x hx)

theorem rewritten_put {current updated : α} (hmem : current ∈ table.rows)
    (hkey : key updated = key current) :
    table.Rewritten (table.put updated) [current] [updated] :=
  rewritten_of_extends (fun _ _ h => h) (List.singleton_sublist.2 hmem)
    (.of_forall₂ (.cons hkey .nil)) fun _ hy => absurd hy List.not_mem_nil

theorem rewritten_put_new {a : α} (hnew : table.contains (key a) = false) :
    table.Rewritten (table.put a) [] [a] := by
  have he : Extends (fun x y => key y = key x) [] [a] := .append_singleton .nil a
  exact rewritten_of_extends (fun _ _ h => h) (List.nil_sublist _) he
    fun _ hy => List.mem_singleton.1 hy ▸ hnew

/-- **Every record of a table stays, changed along `rel` at most, and what comes is `new`.** -/
structure Revised (rel : α → α → Prop) (new : α → Prop) (table table' : Table α) : Prop where
  stays : ∀ x ∈ table.rows, ∃ y ∈ table'.rows, rel x y
  comes : ∀ y ∈ table'.rows, (∃ x ∈ table.rows, rel x y) ∨ new y

theorem Revised.refl {rel : α → α → Prop} {new : α → Prop} (hrefl : ∀ x, rel x x) :
    Revised rel new table table where
  stays x hx := ⟨x, hx, hrefl x⟩
  comes x hx := .inl ⟨x, hx, hrefl x⟩

/-- What holds of all records holds of all later, if changes keep it and it holds of what comes. -/
theorem Revised.forall_mem {rel : α → α → Prop} {new p p' : α → Prop}
    (h : Revised rel new table table') (hrel : ∀ x y, rel x y → p x → p' y)
    (hnew : ∀ y, new y → p' y) (hall : ∀ x ∈ table.rows, p x) : ∀ y ∈ table'.rows, p' y := by
  intro y hy
  rcases h.comes y hy with ⟨x, hx, hxy⟩ | hy
  · exact hrel x y hxy (hall x hx)
  · exact hnew y hy

theorem Rewritten.revised {rel : α → α → Prop} {new : α → Prop}
    (h : table.Rewritten table' before after) (he : Extends rel before after)
    (hrefl : ∀ x, rel x x) (hnew : ∀ y ∈ after.drop before.length, new y) :
    Revised rel new table table' := by
  obtain ⟨rest, hrows, hrows'⟩ := h
  refine ⟨fun x hx => ?_, fun y hy => ?_⟩
  · rcases List.mem_append.1 (hrows.mem_iff.1 hx) with hx | hx
    · obtain ⟨y, hy, hrel⟩ := he.stays hx
      exact ⟨y, hrows'.mem_iff.2 (List.mem_append_left _ hy), hrel⟩
    · exact ⟨x, hrows'.mem_iff.2 (List.mem_append_right _ hx), hrefl x⟩
  · rcases List.mem_append.1 (hrows'.mem_iff.1 hy) with hy | hy
    · refine (he.comes hy).imp (fun h => ?_) (hnew y)
      obtain ⟨x, hx, hrel⟩ := h
      exact ⟨x, hrows.mem_iff.2 (List.mem_append_left _ hx), hrel⟩
    · exact .inl ⟨y, hrows.mem_iff.2 (List.mem_append_right _ hy), hrefl y⟩

end Table

/-! ## 2. The tree of an application -/

/-- **A tree is the one that the tables hold of its application.** -/
structure Store.Stores (store : Store) (tree : Tree) : Prop where
  application : tree.application ∈ store.applications.rows
  assessments : tree.assessments =
    store.assessments.rows.filter fun a => a.applicationId = tree.application.id
  placements : tree.placementApplications =
    store.placementApplications.rows.filter fun p => p.applicationId = tree.application.id
  requests : tree.placementRequests =
    store.placementRequests.rows.filter fun r => r.applicationId = tree.application.id
  bookings : tree.bookings =
    store.bookings.rows.filter
      (Store.bookingBelongs tree.application.id tree.placementRequests)

namespace Store

variable {store : Store} {tree : Tree}

theorem stores_of_tree? {id : ApplicationId} (h : store.tree? id = some tree) :
    tree.application.id = id ∧ store.Stores tree := by
  obtain ⟨application, hfind, rfl⟩ := Option.map_eq_some_iff.1 h
  obtain ⟨hmem, hkey⟩ := store.applications.find?_eq_some_iff.1 hfind
  have hid : application.id = id := congrArg Id.mk hkey
  subst hid
  exact ⟨rfl, hmem, rfl, rfl, rfl, rfl⟩

/-- A tree that is stored is found. -/
theorem tree?_of_stores (h : store.Stores tree) :
    store.tree? tree.application.id = some tree := by
  have hfind : store.applications.find? tree.application.id.text = some tree.application :=
    store.applications.find?_eq_some_iff.2 ⟨h.application, rfl⟩
  unfold tree?
  rw [hfind, Option.map_some, ← h.assessments, ← h.placements, ← h.requests]
  exact congrArg (fun bookings => some { tree with bookings }) h.bookings.symm

/-- **Writing the tree of an application as it is stored** changes nothing. -/
theorem putTree_of_stores (h : store.Stores tree) : store.putTree tree = store := by
  have happlication : store.applications.put tree.application = store.applications :=
    Table.putAll_of_sublist (List.singleton_sublist.2 h.application)
  have hassessments : tree.assessments.Sublist store.assessments.rows :=
    h.assessments ▸ List.filter_sublist
  have hplacements : tree.placementApplications.Sublist store.placementApplications.rows :=
    h.placements ▸ List.filter_sublist
  have hrequests : tree.placementRequests.Sublist store.placementRequests.rows :=
    h.requests ▸ List.filter_sublist
  have hbookings : tree.bookings.Sublist store.bookings.rows := h.bookings ▸ List.filter_sublist
  unfold putTree
  rw [happlication, Table.putAll_of_sublist hassessments, Table.putAll_of_sublist hplacements,
    Table.putAll_of_sublist hrequests, Table.putAll_of_sublist hbookings]

/-- A tree that is stored as it was read is written over. -/
theorem saveTree_of_tree? {id : ApplicationId} {before after : Tree}
    (h : store.tree? id = some before) (hid : after.application.id = before.application.id) :
    store.saveTree before after = .ok (store.putTree after) := by
  have hbefore : store.tree? before.application.id = some before := (stores_of_tree? h).1.symm ▸ h
  have hsame : ¬ (before ≠ before ∨ after.application.id ≠ before.application.id) := by
    rintro (h | h)
    · exact h rfl
    · exact h hid
  unfold saveTree
  rw [hbefore]
  dsimp only
  rw [if_neg hsame]

namespace Stores

variable (h : store.Stores tree)

include h

theorem sublist_assessments : tree.assessments.Sublist store.assessments.rows :=
  h.assessments ▸ List.filter_sublist

theorem sublist_placements :
    tree.placementApplications.Sublist store.placementApplications.rows :=
  h.placements ▸ List.filter_sublist

theorem sublist_requests : tree.placementRequests.Sublist store.placementRequests.rows :=
  h.requests ▸ List.filter_sublist

theorem sublist_bookings : tree.bookings.Sublist store.bookings.rows :=
  h.bookings ▸ List.filter_sublist

theorem mem_assessments {a : Assessment} :
    a ∈ tree.assessments ↔
      a ∈ store.assessments.rows ∧ a.applicationId = tree.application.id := by
  rw [h.assessments, List.mem_filter, decide_eq_true_eq]

theorem mem_placements {p : PlacementApplication} :
    p ∈ tree.placementApplications ↔
      p ∈ store.placementApplications.rows ∧ p.applicationId = tree.application.id := by
  rw [h.placements, List.mem_filter, decide_eq_true_eq]

theorem mem_requests {r : PlacementRequest} :
    r ∈ tree.placementRequests ↔
      r ∈ store.placementRequests.rows ∧ r.applicationId = tree.application.id := by
  rw [h.requests, List.mem_filter, decide_eq_true_eq]

/-- A booking is in a tree if it names the application or one of its placement requests. -/
theorem mem_bookings {b : Booking} :
    b ∈ tree.bookings ↔ b ∈ store.bookings.rows ∧
      (b.applicationId = some tree.application.id ∨
        ∃ r ∈ tree.placementRequests, b.placementRequestId = some r.id) := by
  rw [h.bookings, List.mem_filter, bookingBelongs, Bool.or_eq_true, decide_eq_true_eq,
    Option.any_eq_true]
  simp only [List.any_eq_true, decide_eq_true_eq]
  refine and_congr_right fun _ => or_congr_right ?_
  constructor
  · rintro ⟨id, hid, r, hr, rfl⟩
    exact ⟨r, hr, hid⟩
  · rintro ⟨r, hr, hid⟩
    exact ⟨r.id, hid, r, hr, rfl⟩

/-- The nodes of a stored tree are told apart by their identifiers. -/
theorem distinctIds : tree.DistinctIds where
  assessments := .of_map Id.text (by
    rw [List.map_map]
    exact store.assessments.nodup_keys.sublist (h.sublist_assessments.map key))
  placements := .of_map Id.text (by
    rw [List.map_map]
    exact store.placementApplications.nodup_keys.sublist (h.sublist_placements.map key))
  requests := .of_map Id.text (by
    rw [List.map_map]
    exact store.placementRequests.nodup_keys.sublist (h.sublist_requests.map key))
  bookings := .of_map Id.text (by
    rw [List.map_map]
    exact store.bookings.nodup_keys.sublist (h.sublist_bookings.map key))

end Stores

end Store

end Bedspace
