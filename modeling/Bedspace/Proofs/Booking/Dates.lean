import Bedspace.Proofs.Booking.Creation
import Bedspace.Proofs.Loading
import Bedspace.Proofs.Search.TemporaryAccommodation

/-!
# Dates of bookings

A booking is made for dates that are in order, and recording an arrival checks the new ones; nothing
else moves them.

* **`System.ReachesLoading.departsLater`**: in every state all bookings depart after they arrive;
* so the nights of a booking end on its departure date (`Booking.stop_range`), and two bookings with
  the same nights have the same dates (`DateRange.spanning_inj`).
-/

namespace Bedspace

/-! ## 1. One call -/

/-- Saving a tree moves the dates of no booking. -/
theorem Call.Served.sameDates {before after : Tree} (h : (Call.saveTree before after).Served)
    {b : Booking} (hb : b ∈ after.bookings) :
    ∃ x ∈ before.bookings,
      b.arrivalDate = x.arrivalDate ∧ b.departureDate = x.departureDate := by
  cases h with
  | read _ h => cases h
  | withdraw store id _ _ target reason note outcome htree hreason hwithdraw hchanged =>
    obtain ⟨_, hstored⟩ := Store.stores_of_tree? htree
    rw [Tree.eq_marked_of_withdraw hstored.distinctIds hwithdraw] at hb
    obtain ⟨x, hx, rfl⟩ := List.mem_map.1 hb
    exact ⟨x, hx, TreeNode.apply_mark (fun _ _ => rfl) x, TreeNode.apply_mark (fun _ _ => rfl) x⟩
  | _ => exact ⟨b, hb, rfl, rfl⟩

/-- A booking written over another one departs after it arrives, if the other one did. -/
theorem Call.Served.arrives_lt_departs {current updated : Booking}
    (h : (Call.replaceBooking current updated).Served)
    (hdates : current.arrivalDate < current.departureDate) :
    updated.arrivalDate < updated.departureDate := by
  cases h with
  | read _ h => cases h
  | recordArrival _ request hawaiting horder => exact horder
  | recordNonArrival | cancelBooking => exact hdates

/-- **A due call keeps the dates of bookings in order.** -/
theorem Store.DepartsLater.perform {world : World} {c : Call} (hc : c.Due world)
    (h : world.store.DepartsLater) : (c.perform world.store).2.DepartsLater := by
  rcases Call.perform_cases world.store c with e | hw
  · rw [e]
    exact h
  · have hserved := hc.served
    generalize (c.perform world.store).2 = store' at hw ⊢
    cases hw with
    | insertBooking b hnew hopen hfree =>
      intro x hx
      rcases Table.mem_place_imp hx with rfl | hx
      · cases hserved with
        | read _ h => cases h
        | book store inventory n premises request links today hpremises hactive hrules =>
          exact (Bookings.creationRules_eq_nil_iff.1 hrules).2.1
      · exact h x hx
    | replaceBooking current updated hmem hid hfree =>
      intro x hx
      rcases Table.mem_place_imp hx with rfl | hx
      · exact hserved.arrives_lt_departs (h current hmem)
      · exact h x hx
    | saveTree before after htree hid =>
      intro x hx
      rcases Table.mem_putAll_imp _ hx with hx | hx
      · obtain ⟨y, hy, harrival, hdeparture⟩ := hserved.sameDates hx
        have hdates := h y ((Store.stores_of_tree? htree).2.mem_bookings.1 hy).1
        rwa [← harrival, ← hdeparture] at hdates
      · exact h x hx
    | _ => exact h

theorem Store.Unused.departsLater {store : Store} (h : store.Unused) : store.DepartsLater := by
  intro b hb
  rw [h.bookings] at hb
  cases hb

/-! ## 2. Runs -/

/-- **In every state all bookings depart after they arrive.** -/
theorem System.ReachesLoading.departsLater {world : World} {s : System}
    (h₀ : world.store.Unused) (h : (idle world).ReachesLoading s) :
    s.world.store.DepartsLater := by
  refine h.invariant (entrusted_idle h₀.sound) (fun _ _ hc hdates => hdates.perform hc) ?_
    h₀.departsLater
  intro store c hc hdates
  cases hc with
  | premises | district => exact hdates

/-! ## 3. Nights -/

theorem DateRange.stop_spanning {start stop : Date} (h : start < stop) :
    (spanning start stop).stop = stop := by
  refine Date.eq_of_day_eq ?_
  rw [Date.lt_def] at h
  show (max stop start).day = _
  rw [Date.day_max]
  omega

/-- Dates that are in order can be read off the nights between them. -/
theorem DateRange.spanning_inj {start stop start' stop' : Date} (h : start < stop)
    (h' : start' < stop') :
    spanning start stop = spanning start' stop' ↔ start = start' ∧ stop = stop' := by
  constructor
  · intro e
    have hstop := congrArg DateRange.stop e
    rw [stop_spanning h, stop_spanning h'] at hstop
    exact ⟨congrArg DateRange.start e, hstop⟩
  · rintro ⟨rfl, rfl⟩
    rfl

theorem Booking.stop_range {b : Booking} (h : b.arrivalDate < b.departureDate) :
    b.range.stop = b.departureDate :=
  DateRange.stop_spanning h

end Bedspace
