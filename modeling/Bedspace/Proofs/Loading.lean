import Bedspace.Proofs.Estate.Imported
import Bedspace.Proofs.InTurn

/-!
# Runs in which an estate is loaded

Estates and districts are loaded from files into a store that clients use, at first and possibly
later again, between any two of their steps.

* `Call.Loads` is a call that writes premises or a district of a file, `System.ReachesLoading` a run
  of clients in which such calls come in between;
* a load adds to none of the records that clients write (`Call.Loads.revisedBy`), so their rights
  hold good in spite of it (`System.Entrusted.load`);
* **`System.ReachesLoading.invariant`**: what due calls and loads preserve holds in every state.
  `System.ReachesLoading.imported` is one case of it: all premises and districts are such as files
  give them.
-/

namespace Bedspace

/-! ## 1. Loads -/

/-- **A call that loads**: it writes premises of an imported estate or an imported district. -/
inductive Call.Loads : Call → Prop where
  | premises (input : List UInt8) (estate : Estate) (inventory : Inventory)
      (h : readEstate input = .ok estate) (hmem : inventory ∈ estate) :
      Loads (.putPremises inventory)
  | district (input : List UInt8) (districts : List District) (district : District)
      (h : readDistricts input = .ok districts) (hmem : district ∈ districts) :
      Loads (.putDistrict district)

/-- All premises and districts are such as an import gives them. -/
structure Store.Imported (store : Store) : Prop where
  premises : ∀ inventory ∈ store.premises.rows, inventory.DistinctBeds
  districts : ∀ district ∈ store.districts.rows, district.Named

theorem Store.imported_empty : empty.Imported :=
  ⟨fun _ h => absurd h List.not_mem_nil, fun _ h => absurd h List.not_mem_nil⟩

namespace Call

/-- A load leaves alone what clients write. -/
theorem Loads.revisedBy {c : Call} (h : c.Loads) (store : Store) :
    store.RevisedBy c (c.perform store).2 := by
  cases h with
  | premises => exact { Store.RevisedBy.refl with }
  | district => exact { Store.RevisedBy.refl with }

theorem Loads.needs_eq {c : Call} (h : c.Loads) : c.needs = ∅ := by
  cases h <;> rfl

theorem Loads.imported {c : Call} (h : c.Loads) {store : Store} (hs : store.Imported) :
    (c.perform store).2.Imported := by
  cases h with
  | premises input estate inventory h hmem =>
    refine ⟨fun other hother => ?_, hs.districts⟩
    rcases Table.mem_place_imp hother with rfl | hother
    · exact readEstate_distinctBeds h other hmem
    · exact hs.premises other hother
  | district input districts district h hmem =>
    refine ⟨hs.premises, fun other hother => ?_⟩
    rcases Table.mem_place_imp hother with rfl | hother
    · exact readDistricts_named h other hmem
    · exact hs.districts other hother

/-- **The services write neither premises nor districts.** -/
theorem Served.estate_eq {c : Call} (h : c.Served) (store : Store) :
    (c.perform store).2.premises = store.premises ∧
      (c.perform store).2.districts = store.districts := by
  rcases perform_cases store c with e | hw
  · rw [e]
    exact ⟨rfl, rfl⟩
  · generalize (c.perform store).2 = store' at hw ⊢
    cases hw with
    | putPremises | putDistrict => cases h with | read _ h => cases h
    | _ => exact ⟨rfl, rfl⟩

theorem Due.imported {world : World} {c : Call} (h : c.Due world) (hs : world.store.Imported) :
    (c.perform world.store).2.Imported := by
  obtain ⟨hpremises, hdistricts⟩ := h.served.estate_eq world.store
  exact ⟨hpremises ▸ hs.premises, hdistricts ▸ hs.districts⟩

end Call

/-! ## 2. Runs -/

namespace System

/-- The state after a load. -/
def load (s : System) (c : Call) : System :=
  { s with world := { s.world with store := (c.perform s.world.store).2 } }

/-- **The states that clients reach while estates are loaded.** -/
inductive ReachesLoading (s₀ : System) : System → Prop where
  | start : ReachesLoading s₀ s₀
  | step (s t : System) (h : ReachesLoading s₀ s) (hs : Step s t) : ReachesLoading s₀ t
  | load (s : System) (c : Call) (h : ReachesLoading s₀ s) (hc : c.Loads) :
      ReachesLoading s₀ (s.load c)

variable {s₀ s t : System}

theorem Reaches.reachesLoading (h : s₀.Reaches s) : s₀.ReachesLoading s := by
  induction h with
  | start => exact .start
  | step s t _ hs ih => exact .step s t ih hs

/-- Loads leave the rights of all clients as good as they were. -/
theorem Entrusted.load {held : Nat → Set Right} (h : s.Entrusted held) {c : Call} (hc : c.Loads) :
    (s.load c).Entrusted held := by
  have hunused (right : Right) : right ∉ c.needs := by
    rw [hc.needs_eq]
    exact Set.notMem_empty right
  exact
    { sound := h.sound.revised (hc.revisedBy _) fun right hright => absurd hright (hunused right)
      rightful := h.rightful
      valid := fun i right hright => (h.valid i right hright).keep (hc.revisedBy _) (hunused right)
      apart := h.apart }

namespace ReachesLoading

variable {held : Nat → Set Right}

theorem trans (h : s₀.ReachesLoading s) (h' : s.ReachesLoading t) : s₀.ReachesLoading t := by
  induction h' with
  | start => exact h
  | step t u _ hs ih => exact .step t u ih hs
  | load t c _ hc ih => exact .load t c ih hc

/-- In every state of a run all clients have only rights that hold good. -/
theorem entrusted (h : s₀.ReachesLoading s) (h₀ : s₀.Entrusted held) :
    ∃ held', s.Entrusted held' := by
  induction h with
  | start => exact ⟨held, h₀⟩
  | step s t _ hs ih =>
    obtain ⟨held', ih⟩ := ih
    exact ih.step hs
  | load s c _ hc ih =>
    obtain ⟨held', ih⟩ := ih
    exact ⟨held', ih.load hc⟩

/-- **What due calls and loads preserve holds in every state of a run.** -/
theorem invariant {Inv : Store → Prop} (h : s₀.ReachesLoading s) (h₀ : s₀.Entrusted held)
    (hdue : ∀ (world : World) (c : Call), c.Due world → Inv world.store →
      Inv (c.perform world.store).2)
    (hload : ∀ (store : Store) (c : Call), c.Loads → Inv store → Inv (c.perform store).2)
    (hinv : Inv s₀.world.store) : Inv s.world.store := by
  induction h with
  | start => exact hinv
  | step s t hr hs ih =>
    obtain ⟨held', hheld⟩ := hr.entrusted h₀
    rcases hheld.due_step hs with e | ⟨c, hc, e⟩
    · exact e ▸ ih
    · exact e ▸ hdue s.world c hc ih
  | load s c _ hc ih => exact hload s.world.store c hc ih

/-- **What was loaded is such as an import gives it**, in every state. -/
theorem imported (h : s₀.ReachesLoading s) (h₀ : s₀.Entrusted held)
    (hs : s₀.world.store.Imported) : s.world.store.Imported :=
  h.invariant h₀ (fun _ _ hc hs => hc.imported hs) (fun _ _ hc hs => hc.imported hs) hs

/-- **A booking stays, for the same bed.** -/
theorem booking_stays (h : s₀.ReachesLoading s) (h₀ : s₀.Entrusted held) {b : Booking}
    (hb : b ∈ s₀.world.store.bookings.rows) :
    ∃ b' ∈ s.world.store.bookings.rows, b'.id = b.id ∧ b'.bedId = b.bedId := by
  have hrevised {store store' : Store} {c : Call} (hc : store.RevisedBy c store')
      (hb : ∃ b' ∈ store.bookings.rows, b'.id = b.id ∧ b'.bedId = b.bedId) :
      ∃ b' ∈ store'.bookings.rows, b'.id = b.id ∧ b'.bedId = b.bedId := by
    obtain ⟨b', hb', hid, hbed⟩ := hb
    obtain ⟨b'', hb'', hchange⟩ := hc.bookings.stays b' hb'
    exact ⟨b'', hb'', hchange.id_eq.trans hid, hchange.bedId_eq.trans hbed⟩
  exact h.invariant h₀ (fun _ _ hc => hrevised hc.revisedBy)
    (fun store _ hc => hrevised (hc.revisedBy store)) ⟨b, hb, rfl, rfl⟩

end ReachesLoading

/-! ## 3. Whole files -/

/-- The state after the estate of a file is loaded, if there is one to be read from it. -/
def loadEstate (s : System) (faults : Faults) (input : List UInt8) : System :=
  match readEstate input with
  | .ok estate => { s with world := ((Estate.load estate).run faults s.world).2 }
  | .error _ => s

/-- The state after the postcode districts of a file are loaded, if there are any to be read from
    it. -/
def loadDistricts (s : System) (faults : Faults) (input : List UInt8) : System :=
  match readDistricts input with
  | .ok districts => { s with world := ((District.loadAll districts).run faults s.world).2 }
  | .error _ => s

namespace ReachesLoading

variable {faults : Faults} {input : List UInt8}

/-- A load that is carried out alone, or refused. -/
theorem request (h : s₀.ReachesLoading s) {c : Call} (hc : c.Loads) :
    s₀.ReachesLoading { s with world := (Operation.run (α := no_index c.Answer)
      (Bedspace.request c) faults s.world).2 } := by
  cases hfault : faults c.method with
  | some e =>
    unfold Bedspace.request
    rw [Operation.run_call_of_fault hfault]
    exact h
  | none =>
    unfold Bedspace.request
    rw [Operation.run_call_of_no_fault hfault]
    exact .load s c h hc

/-- **Making writes one after the other**, each of which is part of a run, is part of it. -/
theorem performAll {α : Type} {write : α → Operation StoreError Unit} {as : List α}
    (hwrite : ∀ a ∈ as, ∀ s, s₀.ReachesLoading s →
      s₀.ReachesLoading { s with world := ((write a).run faults s.world).2 })
    (h : s₀.ReachesLoading s) :
    s₀.ReachesLoading
      { s with world := ((Bedspace.performAll write as).run faults s.world).2 } := by
  induction as generalizing s with
  | nil => exact h
  | cons a as ih =>
    obtain ⟨hfirst, hrest⟩ := List.forall_mem_cons.1 hwrite
    have hdone := hfirst s h
    unfold Bedspace.performAll
    rw [Operation.run_bind]
    cases hresult : (write a).run faults s.world with
    | mk result world' =>
      rw [hresult] at hdone
      cases result with
      | error e => exact hdone
      | ok _ => exact ih hrest hdone

/-- **Loading the estate of a file belongs to the run**, whatever methods are out of order. -/
theorem loadEstate (h : s₀.ReachesLoading s) : s₀.ReachesLoading (s.loadEstate faults input) := by
  unfold System.loadEstate
  split
  · rename_i estate hestate
    unfold Estate.load
    rw [← map_eq_pure_bind, Operation.run_map]
    exact h.performAll fun inventory hmem s hs =>
      hs.request (.premises input estate inventory hestate hmem)
  · exact h

/-- Loading the districts of a file belongs to the run. -/
theorem loadDistricts (h : s₀.ReachesLoading s) :
    s₀.ReachesLoading (s.loadDistricts faults input) := by
  unfold System.loadDistricts
  split
  · rename_i districts hdistricts
    unfold District.loadAll
    rw [← map_eq_pure_bind, Operation.run_map]
    exact h.performAll fun district hmem s hs =>
      hs.request (.district input districts district hdistricts hmem)
  · exact h

end ReachesLoading

end System

end Bedspace
