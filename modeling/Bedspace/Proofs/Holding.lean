import Bedspace.Proofs.Calendar.Overlaps
import Bedspace.Proofs.Cascade.Cancelling
import Bedspace.Proofs.Requests
import Bedspace.Proofs.Writes

/-!
# A bed is held by one thing at a time

However the calls of clients fall between one another, no bed is ever held twice on one day.

* `Store.HeldOnce` says so of a store, for bookings, for periods out of service and between them;
* two facts carry it over a write: a store that holds no more than before (`Store.HoldsNoMore`)
  keeps it, and so does a write that puts a booking or a period where nothing else is
  (`heldOnce_putBooking`, `heldOnce_putPeriod`);
* `Call.KeepsHoldings` is what makes a call safe on whatever store it meets: what is added or moved
  is checked when it is written, and everything else frees a bed or leaves it as it was. It holds of
  every call that a service makes (`Call.Served.keepsHoldings`);
* **`reaches_heldOnce`**: in every state that clients reach from a store without bookings and
  periods, every bed is held once.
-/

namespace Bedspace

/-! ## 1. What holds a bed -/

/-- A bed and the nights on which it is held, as long as this is not cancelled. -/
structure Holding where
  bed : BedId
  nights : DateRange
  live : Bool

/-- How a booking holds its bed. -/
def Booking.holding (booking : Booking) : Holding :=
  ⟨booking.bedId, booking.range, !booking.isCancelled⟩

/-- How a period holds its bed. -/
def OutOfServicePeriod.holding (period : OutOfServicePeriod) : Holding :=
  ⟨period.bedId, period.range, !period.isCancelled⟩

/-- Two things do not hold one bed on one day. -/
def Holding.ApartFrom (a b : Holding) : Prop :=
  a.live = true → b.live = true → a.bed = b.bed → a.nights.overlaps b.nights = false

/-- **No bed is held by two things on one day.** -/
structure Store.HeldOnce (store : Store) : Prop where
  bookings : ∀ a ∈ store.bookings.rows, ∀ b ∈ store.bookings.rows, a ≠ b →
    a.holding.ApartFrom b.holding
  mixed : ∀ a ∈ store.bookings.rows, ∀ p ∈ store.outOfService.rows,
    a.holding.ApartFrom p.holding
  periods : ∀ p ∈ store.outOfService.rows, ∀ q ∈ store.outOfService.rows, p ≠ q →
    p.holding.ApartFrom q.holding

theorem Holding.ApartFrom.symm {a b : Holding} (h : a.ApartFrom b) : b.ApartFrom a := by
  intro hb ha hbed
  rw [← h ha hb hbed.symm]
  exact DateRange.overlaps_comm _ _

/-- What is not live is apart from everything. -/
theorem Holding.apartFrom_of_not_live {a b : Holding} (h : ¬ a.live = true) : a.ApartFrom b :=
  fun ha => absurd ha h

/-- A booking that does not hold a bed on the nights of a holding is apart from it. -/
theorem Booking.apartFrom_of_blocks {c : Booking} {a : Holding}
    (h : c.blocks a.bed a.nights = false) : c.holding.ApartFrom a := by
  intro hc _ hbed
  have hbed : c.bedId = a.bed := hbed
  have hlive : c.blocksBed = true := hc
  unfold blocks at h
  rw [decide_eq_true hbed, hlive] at h
  exact h

/-- A period that does not hold a bed on the nights of a holding is apart from it. -/
theorem OutOfServicePeriod.apartFrom_of_blocks {p : OutOfServicePeriod} {a : Holding}
    (h : p.blocks a.bed a.nights = false) : p.holding.ApartFrom a := by
  intro hp _ hbed
  have hbed : p.bedId = a.bed := hbed
  have hlive : (!p.isCancelled) = true := hp
  unfold blocks at h
  rw [decide_eq_true hbed, hlive] at h
  exact h

theorem Booking.eq_of_id_eq {store : Store} {a b : Booking} (ha : a ∈ store.bookings.rows)
    (hb : b ∈ store.bookings.rows) (h : a.id = b.id) : a = b :=
  store.bookings.key_inj_of_mem ha hb (congrArg Id.text h)

theorem OutOfServicePeriod.eq_of_id_eq {store : Store} {p q : OutOfServicePeriod}
    (hp : p ∈ store.outOfService.rows) (hq : q ∈ store.outOfService.rows) (h : p.id = q.id) :
    p = q :=
  store.outOfService.key_inj_of_mem hp hq (congrArg Id.text h)

namespace Store

/-! ## 2. Stores that hold no more -/

/-- What holds a bed in the second store held it in the same way in the first one. -/
structure HoldsNoMore (before after : Store) : Prop where
  bookings : ∀ b ∈ after.bookings.rows, b.holding.live = true →
    ∃ a ∈ before.bookings.rows, a.id = b.id ∧ a.holding = b.holding
  periods : ∀ q ∈ after.outOfService.rows, q.holding.live = true →
    ∃ p ∈ before.outOfService.rows, p.id = q.id ∧ p.holding = q.holding

theorem HeldOnce.of_holdsNoMore {before after : Store} (h : before.HeldOnce)
    (hless : before.HoldsNoMore after) : after.HeldOnce where
  bookings a' ha' b' hb' hne hal hbl := by
    obtain ⟨a, ha, hida, hha⟩ := hless.bookings a' ha' hal
    obtain ⟨b, hb, hidb, hhb⟩ := hless.bookings b' hb' hbl
    have hab : a ≠ b := by
      rintro rfl
      exact hne (Booking.eq_of_id_eq ha' hb' (hida.symm.trans hidb))
    rw [← hha] at hal ⊢
    rw [← hhb] at hbl ⊢
    exact h.bookings a ha b hb hab hal hbl
  mixed a' ha' p' hp' hal hpl := by
    obtain ⟨a, ha, _, hha⟩ := hless.bookings a' ha' hal
    obtain ⟨p, hp, _, hhp⟩ := hless.periods p' hp' hpl
    rw [← hha] at hal ⊢
    rw [← hhp] at hpl ⊢
    exact h.mixed a ha p hp hal hpl
  periods p' hp' q' hq' hne hpl hql := by
    obtain ⟨p, hp, hidp, hhp⟩ := hless.periods p' hp' hpl
    obtain ⟨q, hq, hidq, hhq⟩ := hless.periods q' hq' hql
    have hpq : p ≠ q := by
      rintro rfl
      exact hne (OutOfServicePeriod.eq_of_id_eq hp' hq' (hidp.symm.trans hidq))
    rw [← hhp] at hpl ⊢
    rw [← hhq] at hql ⊢
    exact h.periods p hp q hq hpq hpl hql

/-- A store with the same bookings and periods holds no more. -/
theorem holdsNoMore_of_eq {before after : Store} (hb : after.bookings = before.bookings)
    (hp : after.outOfService = before.outOfService) : before.HoldsNoMore after where
  bookings b h _ := ⟨b, hb ▸ h, rfl, rfl⟩
  periods p h _ := ⟨p, hp ▸ h, rfl, rfl⟩

/-! ## 3. Writing where nothing else is -/

theorem booking_apartFrom_of_bedTaken {store : Store} {a : Holding} {except : Option BookingId}
    (h : store.bedTaken a.bed a.nights except = false) {c : Booking}
    (hc : c ∈ store.bookings.rows) (hex : some c.id ≠ except) : c.holding.ApartFrom a := by
  refine Booking.apartFrom_of_blocks ?_
  have hclash : store.bookingClash a.bed a.nights except = false := (Bool.or_eq_false_iff.1 h).1
  have hrow := List.any_eq_false.1 hclash c hc
  simpa [bne_iff_ne.2 hex] using hrow

theorem period_apartFrom_of_bedTaken {store : Store} {a : Holding} {except : Option BookingId}
    (h : store.bedTaken a.bed a.nights except = false) {p : OutOfServicePeriod}
    (hp : p ∈ store.outOfService.rows) : p.holding.ApartFrom a := by
  refine OutOfServicePeriod.apartFrom_of_blocks ?_
  have hclash : store.outOfServiceClash a.bed a.nights = false := (Bool.or_eq_false_iff.1 h).2
  simpa using List.any_eq_false.1 hclash p hp

/-- **A booking may be written where the bed is free of everything else.** -/
theorem heldOnce_putBooking {store : Store} {b : Booking} (h : store.HeldOnce)
    (hfree : ∀ c ∈ store.bookings.rows, key c ≠ key b → c.holding.ApartFrom b.holding)
    (hperiods : ∀ p ∈ store.outOfService.rows, p.holding.ApartFrom b.holding) :
    ({ store with bookings := store.bookings.put b } : Store).HeldOnce where
  bookings x hx y hy hne := by
    rcases store.bookings.mem_put.1 hx with rfl | ⟨hx', hkx⟩
    · rcases store.bookings.mem_put.1 hy with rfl | ⟨hy', hky⟩
      · exact absurd rfl hne
      · exact (hfree y hy' hky).symm
    · rcases store.bookings.mem_put.1 hy with rfl | ⟨hy', _⟩
      · exact hfree x hx' hkx
      · exact h.bookings x hx' y hy' hne
  mixed x hx p hp := by
    rcases store.bookings.mem_put.1 hx with rfl | ⟨hx, _⟩
    · exact (hperiods p hp).symm
    · exact h.mixed x hx p hp
  periods := h.periods

/-- **A period may be written where the bed is free of everything else.** -/
theorem heldOnce_putPeriod {store : Store} {p : OutOfServicePeriod} (h : store.HeldOnce)
    (hbookings : ∀ c ∈ store.bookings.rows, c.holding.ApartFrom p.holding)
    (hfree : ∀ q ∈ store.outOfService.rows, key q ≠ key p → q.holding.ApartFrom p.holding) :
    ({ store with outOfService := store.outOfService.put p } : Store).HeldOnce where
  bookings := h.bookings
  mixed x hx q hq := by
    rcases store.outOfService.mem_put.1 hq with rfl | ⟨hq, _⟩
    · exact hbookings x hx
    · exact h.mixed x hx q hq
  periods x hx y hy hne := by
    rcases store.outOfService.mem_put.1 hx with rfl | ⟨hx', hkx⟩
    · rcases store.outOfService.mem_put.1 hy with rfl | ⟨hy', hky⟩
      · exact absurd rfl hne
      · exact (hfree y hy' hky).symm
    · rcases store.outOfService.mem_put.1 hy with rfl | ⟨hy', _⟩
      · exact hfree x hx' hkx
      · exact h.periods x hx' y hy' hne

end Store

/-! ## 4. Calls -/

/-- **What makes a call safe on any store**: a changed booking keeps its bed and stays cancelled, a
    changed period is cancelled, and a changed tree has no live booking of its own. -/
def Call.KeepsHoldings : Call → Prop
  | .replaceBooking current updated =>
    current.bedId = updated.bedId ∧ (current.isCancelled = true → updated.isCancelled = true)
  | .replaceOutOfService period => period.isCancelled = true
  | .saveTree snapshot updated =>
    ∀ b ∈ updated.bookings, b.isCancelled = false → b ∈ snapshot.bookings
  | _ => True

namespace Store

variable {store : Store}

/-- A booking written over the one that was there, on the same nights or cancelled, holds no more. -/
theorem holdsNoMore_putBooking {current updated : Booking} (hc : current ∈ store.bookings.rows)
    (hid : updated.id = current.id) (hbed : current.bedId = updated.bedId)
    (hcancelled : current.isCancelled = true → updated.isCancelled = true)
    (hsame : updated.isCancelled = false → current.range = updated.range) :
    store.HoldsNoMore { store with bookings := store.bookings.put updated } where
  bookings b hb hlive := by
    rcases store.bookings.mem_put.1 hb with rfl | ⟨hb, _⟩
    · have hbl : b.isCancelled = false := by simpa [Booking.holding] using hlive
      have hcl : current.isCancelled = false := by
        cases hx : current.isCancelled with
        | false => rfl
        | true => rw [hcancelled hx] at hbl; cases hbl
      refine ⟨current, hc, hid.symm, ?_⟩
      unfold Booking.holding
      rw [hbed, hsame hbl, hcl, hbl]
    · exact ⟨b, hb, rfl, rfl⟩
  periods p hp _ := ⟨p, hp, rfl, rfl⟩

/-- A tree without live bookings of its own, written over the one that was there, holds no more. -/
theorem holdsNoMore_putTree {snapshot updated : Tree} {id : ApplicationId}
    (hstored : store.tree? id = some snapshot)
    (hb : ∀ b ∈ updated.bookings, b.isCancelled = false → b ∈ snapshot.bookings) :
    store.HoldsNoMore (store.putTree updated) where
  bookings b hrow hlive := by
    rcases store.bookings.mem_putAll_imp hrow with hbu | hbs
    · have hsnap := hb b hbu (by simpa [Booking.holding] using hlive)
      exact ⟨b, mem_bookings_of_tree? hstored hsnap, rfl, rfl⟩
    · exact ⟨b, hbs, rfl, rfl⟩
  periods p hp _ := ⟨p, hp, rfl, rfl⟩

/-- **A step of the store keeps every bed held once.** -/
theorem HeldOnce.perform {c : Call} (h : store.HeldOnce) (hc : c.KeepsHoldings) :
    (c.perform store).2.HeldOnce := by
  rcases c.perform_cases store with e | hw
  · rw [e]
    exact h
  · generalize (c.perform store).2 = store' at hw ⊢
    cases hw with
    | putPremises inventory => exact h.of_holdsNoMore (holdsNoMore_of_eq rfl rfl)
    | putDistrict district => exact h.of_holdsNoMore (holdsNoMore_of_eq rfl rfl)
    | insertBooking b hnew hopen hfree =>
      have hfree : store.bedTaken b.holding.bed b.holding.nights none = false := hfree
      refine heldOnce_putBooking h (fun c hc _ => ?_) (fun p hp => ?_)
      · exact booking_apartFrom_of_bedTaken hfree hc (Option.some_ne_none _)
      · exact period_apartFrom_of_bedTaken hfree hp
    | replaceBooking current updated hmem hid hfree =>
      -- either the nights moved and the bed was checked, or the booking holds what it held
      by_cases hmoved : updated.isCancelled = false ∧ current.range ≠ updated.range
      · have hfree' : store.bedTaken updated.holding.bed updated.holding.nights (some updated.id)
            = false := hfree hmoved.1 hmoved.2
        refine heldOnce_putBooking h (fun c hc hkey => ?_)
          (fun p hp => period_apartFrom_of_bedTaken hfree' hp)
        exact booking_apartFrom_of_bedTaken hfree' hc fun e =>
          hkey (congrArg Id.text (Option.some.inj e))
      · refine h.of_holdsNoMore (holdsNoMore_putBooking hmem hid hc.1 hc.2 fun hlive => ?_)
        exact Classical.byContradiction fun hne => hmoved ⟨hlive, hne⟩
    | insertOutOfService p hnew hfree =>
      have hfree : store.bedTaken p.holding.bed p.holding.nights none = false := hfree
      refine heldOnce_putPeriod h (fun c hc => ?_) (fun q hq _ => ?_)
      · exact booking_apartFrom_of_bedTaken hfree hc (Option.some_ne_none _)
      · exact period_apartFrom_of_bedTaken hfree hq
    | replaceOutOfService p hthere =>
      have hp : p.isCancelled = true := hc
      have hdead : ¬ p.holding.live = true := by simp [OutOfServicePeriod.holding, hp]
      exact heldOnce_putPeriod h (fun _ _ => (Holding.apartFrom_of_not_live hdead).symm)
        (fun _ _ _ => (Holding.apartFrom_of_not_live hdead).symm)
    | insertApplication a hnew => exact h.of_holdsNoMore (holdsNoMore_of_eq rfl rfl)
    | markSubmitted id on a hfind hstatus => exact h.of_holdsNoMore (holdsNoMore_of_eq rfl rfl)
    | saveTree snapshot updated hstored hid =>
      exact h.of_holdsNoMore (holdsNoMore_putTree hstored hc)

end Store

/-! ## 5. Runs -/

/-- What a service writes keeps the holdings, whatever has happened to the store since it was
    checked. -/
theorem Call.Served.keepsHoldings {c : Call} (h : c.Served) : c.KeepsHoldings := by
  cases h with
  | read c h =>
    unfold Call.reads at h
    split at h
    all_goals trivial
  | book | takeOutOfService | createApplication | markSubmitted => trivial
  | cancelOutOfService period today hlive => rfl
  | recordArrival current request hawaiting horder => exact ⟨rfl, fun h => h⟩
  | recordNonArrival current request hawaiting => exact ⟨rfl, fun h => h⟩
  | cancelBooking current request hreason harrival hlive => exact ⟨rfl, fun _ => rfl⟩
  | withdraw store id tree tree' target reason note outcome htree hreason hwithdraw hchanged =>
    exact Tree.onlyCancels_withdraw hwithdraw
  -- Every other change of a tree leaves its bookings as they are.
  | allocate | acceptAssessment | rejectAssessment | reallocateAssessment | createPlacement
  | rejectPlacement | acceptPlacement => exact fun b hb _ => hb

theorem Store.heldOnce_of_empty {store : Store} (hb : store.bookings.rows = [])
    (hp : store.outOfService.rows = []) : store.HeldOnce where
  bookings a ha := by
    rw [hb] at ha
    cases ha
  mixed a ha := by
    rw [hb] at ha
    cases ha
  periods p hmem := by
    rw [hp] at hmem
    cases hmem

/-- **No bed is held by two things on one day**, in every state that clients reach from a store
    without bookings and periods out of service. -/
theorem System.reaches_heldOnce {world : World} {s : System}
    (hb : world.store.bookings.rows = []) (hp : world.store.outOfService.rows = [])
    (h : (idle world).Reaches s) : s.world.store.HeldOnce :=
  h.store_invariant (fun _ _ hinv hc => hinv.perform hc.keepsHoldings)
    ServiceRequest.within_served (Store.heldOnce_of_empty hb hp)

/-- A world with one house that has one bed. -/
def World.oneBed : World :=
  .ofStore (Store.empty.putPremises
    { premises :=
        { id := ⟨"premises-1"⟩, name := "Elm House", service := .approvedPremises
          status := .active, postcode := "LS1 1AA", probationDeliveryUnit := "Leeds"
          location := none, characteristics := ∅, turnaroundDays := 0 }
      rooms := [⟨⟨⟨"room-1"⟩, ⟨"premises-1"⟩, "Room 1", ∅⟩,
        [⟨⟨"bed-1"⟩, ⟨"room-1"⟩, "Bed 1", none⟩]⟩] })

/-- Two clients want that bed on nights that overlap. Each of them finds it free before either
    writes, and the second one writes first. -/
def System.contest : System :=
  let wish (start stop : Nat) : ServiceRequest :=
    .linkedBooking ⟨"premises-1"⟩
      ⟨"X320741", ⟨"bed-1"⟩, Date.first.later start, Date.first.later stop⟩ .none Date.first
  (arrived .oneBed [wish 0 4, wish 2 6]).follow [0, 1, 0, 1, 0, 1, 0, 1, 1, 0]

/-- Only one of the two gets the bed. -/
theorem System.contest_heldOnce :
    contest.world.store.bookings.rows.map Booking.id = [.numbered .booking 2] ∧
      contest.world.store.HeldOnce :=
  ⟨by decide +kernel, reaches_heldOnce rfl rfl (reaches_follow (reaches_arrived _ _) _)⟩

end Bedspace
