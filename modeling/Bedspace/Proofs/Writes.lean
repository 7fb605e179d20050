import Bedspace.Store.Call

/-!
# What the calls write

A call that is refused, or that only reads, leaves the store as it was. Every other call has passed
the checks of its operation, and the store after it is the store before it with certain records
written.

* `Call.Writes` lists the writes with all that was checked;
* **`Call.perform_cases`**: a call leaves the store as it was or is one of these writes, so that
  nothing has to look into the operations of the store again.
-/

namespace Bedspace

namespace Store

variable {store store' : Store}

/-! ## 1. Each operation -/

theorem insertBooking_eq_ok {b b' : Booking} (h : store.insertBooking b = .ok (b', store')) :
    store.bookings.contains b.id.text = false ∧
      (∀ request, b.placementRequestId = some request → store.requestClosed request = false) ∧
      store.bedTaken b.bedId b.range none = false ∧ b' = b ∧
      store' = { store with bookings := store.bookings.put b } := by
  unfold insertBooking at h
  split at h
  · cases h
  · rename_i hnew
    split at h
    · cases h
    · rename_i hopen
      split at h
      · cases h
      · rename_i hfree
        cases h
        refine ⟨by simpa using hnew, fun request hr => ?_, by simpa using hfree, rfl, rfl⟩
        rw [hr] at hopen
        simpa using hopen

theorem replaceBooking_eq_ok {current updated : Booking}
    (h : store.replaceBooking current updated = .ok store') :
    current ∈ store.bookings.rows ∧ updated.id = current.id ∧
      (updated.isCancelled = false → current.range ≠ updated.range →
        store.bedTaken updated.bedId updated.range (some updated.id) = false) ∧
      store' = { store with bookings := store.bookings.put updated } := by
  unfold replaceBooking at h
  split at h
  · cases h
  · rename_i existing hfind
    split at h
    · cases h
    · rename_i hsame
      have he : existing = current := Classical.byContradiction fun e => hsame (.inl e)
      have hid : updated.id = current.id := Classical.byContradiction fun e => hsame (.inr e)
      subst he
      split at h
      · cases h
      · rename_i hclear
        refine ⟨(store.bookings.find?_eq_some_iff.1 hfind).1, hid, fun hlive hmoved => ?_, ?_⟩
        · simpa [Booking.blocksBed, hlive, hmoved] using hclear
        · cases h
          rfl

theorem insertOutOfService_eq_ok {p p' : OutOfServicePeriod}
    (h : store.insertOutOfService p = .ok (p', store')) :
    store.outOfService.contains p.id.text = false ∧
      store.bedTaken p.bedId p.range none = false ∧
      store' = { store with outOfService := store.outOfService.put p } := by
  unfold insertOutOfService at h
  split at h
  · cases h
  · rename_i hnew
    split at h
    · cases h
    · rename_i hfree
      refine ⟨by simpa using hnew, by simpa using hfree, ?_⟩
      cases h
      rfl

theorem replaceOutOfService_eq_ok {p : OutOfServicePeriod}
    (h : store.replaceOutOfService p = .ok store') :
    store.outOfService.contains p.id.text = true ∧
      store' = { store with outOfService := store.outOfService.put p } := by
  unfold replaceOutOfService at h
  split at h
  · rename_i hthere
    refine ⟨hthere, ?_⟩
    cases h
    rfl
  · cases h

theorem insertApplication_eq_ok {a a' : Application}
    (h : store.insertApplication a = .ok (a', store')) :
    store.applications.contains a.id.text = false ∧
      store' = { store with applications := store.applications.put a } := by
  unfold insertApplication at h
  split at h
  · cases h
  · rename_i hnew
    refine ⟨by simpa using hnew, ?_⟩
    cases h
    rfl

theorem markSubmitted_eq_ok {id : ApplicationId} {on : Date} {a' : Application}
    (h : store.markSubmitted id on = .ok (a', store')) :
    ∃ a, store.applications.find? id.text = some a ∧ a.status = .inProgress ∧
      a' = { a with status := .submitted, submittedOn := some on } ∧
      store' = { store with applications := store.applications.put a' } := by
  unfold markSubmitted at h
  split at h
  · cases h
  · rename_i a hfind
    split at h
    · rename_i hstatus
      refine ⟨a, hfind, hstatus, ?_⟩
      cases h
      exact ⟨rfl, rfl⟩
    · cases h

theorem saveTree_eq_ok {snapshot updated : Tree} (h : store.saveTree snapshot updated = .ok store') :
    store.tree? snapshot.application.id = some snapshot ∧
      updated.application.id = snapshot.application.id ∧ store' = store.putTree updated := by
  unfold saveTree at h
  split at h
  · cases h
  · rename_i stored htree
    split at h
    · cases h
    · rename_i hsame
      have hs : stored = snapshot := Classical.byContradiction fun e => hsame (.inl e)
      have hid : updated.application.id = snapshot.application.id :=
        Classical.byContradiction fun e => hsame (.inr e)
      refine ⟨hs ▸ htree, hid, ?_⟩
      cases h
      rfl

/-! ## 2. Trees of a store -/

/-- The bookings of a stored tree are stored bookings. -/
theorem mem_bookings_of_tree? {id : ApplicationId} {tree : Tree} (h : store.tree? id = some tree)
    {b : Booking} (hb : b ∈ tree.bookings) : b ∈ store.bookings.rows := by
  obtain ⟨application, _, rfl⟩ := Option.map_eq_some_iff.1 h
  exact (List.mem_filter.1 hb).1

end Store

/-! ## 3. Any call -/

/-- **A call that writes**, with what was checked and the store after it. -/
inductive Call.Writes (store : Store) : Call → Store → Prop where
  | putPremises (inventory : Inventory) :
      Writes store (.putPremises inventory) (store.putPremises inventory)
  | putDistrict (district : District) :
      Writes store (.putDistrict district) (store.putDistrict district)
  | insertBooking (b : Booking) (hnew : store.bookings.contains b.id.text = false)
      (hopen : ∀ request, b.placementRequestId = some request →
        store.requestClosed request = false)
      (hfree : store.bedTaken b.bedId b.range none = false) :
      Writes store (.insertBooking b) { store with bookings := store.bookings.put b }
  | replaceBooking (current updated : Booking) (hmem : current ∈ store.bookings.rows)
      (hid : updated.id = current.id)
      (hfree : updated.isCancelled = false → current.range ≠ updated.range →
        store.bedTaken updated.bedId updated.range (some updated.id) = false) :
      Writes store (.replaceBooking current updated)
        { store with bookings := store.bookings.put updated }
  | insertOutOfService (p : OutOfServicePeriod)
      (hnew : store.outOfService.contains p.id.text = false)
      (hfree : store.bedTaken p.bedId p.range none = false) :
      Writes store (.insertOutOfService p) { store with outOfService := store.outOfService.put p }
  | replaceOutOfService (p : OutOfServicePeriod)
      (hthere : store.outOfService.contains p.id.text = true) :
      Writes store (.replaceOutOfService p) { store with outOfService := store.outOfService.put p }
  | insertApplication (a : Application)
      (hnew : store.applications.contains a.id.text = false) :
      Writes store (.insertApplication a) { store with applications := store.applications.put a }
  | markSubmitted (id : ApplicationId) (on : Date) (a : Application)
      (hfind : store.applications.find? id.text = some a) (hstatus : a.status = .inProgress) :
      Writes store (.markSubmitted id on)
        { store with
          applications := store.applications.put
            { a with status := .submitted, submittedOn := some on } }
  | saveTree (snapshot updated : Tree)
      (hstored : store.tree? snapshot.application.id = some snapshot)
      (hid : updated.application.id = snapshot.application.id) :
      Writes store (.saveTree snapshot updated) (store.putTree updated)

namespace Call

theorem settle_cases {α : Type} {store : Store} (result : Except StoreError (α × Store)) :
    (settle store result).2 = store ∨ ∃ a store', result = .ok (a, store') ∧
      (settle store result).2 = store' := by
  cases result with
  | error e => exact .inl rfl
  | ok r => exact .inr ⟨r.1, r.2, rfl, rfl⟩

theorem settleUnit_cases {store : Store} (result : Except StoreError Store) :
    (settleUnit store result).2 = store ∨ ∃ store', result = .ok store' ∧
      (settleUnit store result).2 = store' := by
  cases result with
  | error e => exact .inl rfl
  | ok store' => exact .inr ⟨store', rfl, rfl⟩

theorem settle_eq_ok {α : Type} {store : Store} {result : Except StoreError (α × Store)} {a : α}
    (h : (settle store result).1 = .ok a) :
    ∃ store', result = .ok (a, store') ∧ (settle store result).2 = store' := by
  cases result with
  | error e => cases h
  | ok r =>
    obtain rfl : r.1 = a := Except.ok.inj h
    exact ⟨r.2, rfl, rfl⟩

/-- Submitting succeeds for an application in progress only. -/
theorem perform_markSubmitted {store : Store} {id : ApplicationId} {on : Date} {a' : Application}
    (h : (perform store (.markSubmitted id on)).1 = .ok a') :
    ∃ a, store.applications.find? id.text = some a ∧ a.status = .inProgress ∧
      (perform store (.markSubmitted id on)).2 =
        { store with
          applications := store.applications.put
            { a with status := .submitted, submittedOn := some on } } := by
  obtain ⟨store', hok, e⟩ := settle_eq_ok h
  obtain ⟨a, hfind, hstatus, rfl, rfl⟩ := Store.markSubmitted_eq_ok hok
  exact ⟨a, hfind, hstatus, e⟩

/-- **A call leaves the store as it was, or is a write that passed its checks.** -/
theorem perform_cases (store : Store) (c : Call) :
    (c.perform store).2 = store ∨ c.Writes store (c.perform store).2 := by
  cases c with
  | putPremises inventory => exact .inr (.putPremises inventory)
  | putDistrict district => exact .inr (.putDistrict district)
  | insertBooking b =>
    refine (settle_cases (store.insertBooking b)).imp_right ?_
    rintro ⟨b', store', hok, e⟩
    obtain ⟨hnew, hopen, hfree, _, rfl⟩ := Store.insertBooking_eq_ok hok
    exact e ▸ .insertBooking b hnew hopen hfree
  | replaceBooking current updated =>
    refine (settleUnit_cases (store.replaceBooking current updated)).imp_right ?_
    rintro ⟨store', hok, e⟩
    obtain ⟨hmem, hid, hfree, rfl⟩ := Store.replaceBooking_eq_ok hok
    exact e ▸ .replaceBooking current updated hmem hid hfree
  | insertOutOfService p =>
    refine (settle_cases (store.insertOutOfService p)).imp_right ?_
    rintro ⟨p', store', hok, e⟩
    obtain ⟨hnew, hfree, rfl⟩ := Store.insertOutOfService_eq_ok hok
    exact e ▸ .insertOutOfService p hnew hfree
  | replaceOutOfService p =>
    refine (settleUnit_cases (store.replaceOutOfService p)).imp_right ?_
    rintro ⟨store', hok, e⟩
    obtain ⟨hthere, rfl⟩ := Store.replaceOutOfService_eq_ok hok
    exact e ▸ .replaceOutOfService p hthere
  | insertApplication a =>
    refine (settle_cases (store.insertApplication a)).imp_right ?_
    rintro ⟨a', store', hok, e⟩
    obtain ⟨hnew, rfl⟩ := Store.insertApplication_eq_ok hok
    exact e ▸ .insertApplication a hnew
  | markSubmitted id on =>
    refine (settle_cases (store.markSubmitted id on)).imp_right ?_
    rintro ⟨a', store', hok, e⟩
    obtain ⟨a, hfind, hstatus, rfl, rfl⟩ := Store.markSubmitted_eq_ok hok
    exact e ▸ .markSubmitted id on a hfind hstatus
  | saveTree snapshot updated =>
    refine (settleUnit_cases (store.saveTree snapshot updated)).imp_right ?_
    rintro ⟨store', hok, e⟩
    obtain ⟨hstored, hid, rfl⟩ := Store.saveTree_eq_ok hok
    exact e ▸ .saveTree snapshot updated hstored hid
  | _ => exact .inl rfl

end Call

end Bedspace
