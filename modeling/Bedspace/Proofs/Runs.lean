import Bedspace.Api.Action

/-!
# Operations carried out alone

What an operation comes to from a given world when nothing else happens meanwhile.

* `Operation.run_bind` follows one operation after another, and `run_bind_of_ok` goes on after a
  part that succeeds;
* the other lemmas give the parts: a call that answers (`run_call_of_ok`) or is refused
  (`run_call_of_fault`), a value that is there, a condition that does not hold;
* `Action.run_replying` gives an action from its operation;
* `run_bind_eq_ok` takes an operation that has succeeded apart, the lemmas after it say what a part
  has met that has succeeded;
* `failure?` is the error of a result, which can be compared where results cannot.
-/

namespace Bedspace

/-! ## 1. Results -/

/-- The error of a result that is one. -/
def failure? {ε α : Type} : Except ε α → Option ε
  | .error e => some e
  | .ok _ => none

theorem failure?_eq_some_iff {ε α : Type} {result : Except ε α} {e : ε} :
    failure? result = some e ↔ result = .error e := by
  cases result with
  | error e' =>
    constructor
    · exact fun h => congrArg Except.error (Option.some.inj h)
    · exact fun h => congrArg some (Except.error.inj h)
  | ok a => exact iff_of_false (fun h => nomatch h) fun h => nomatch h

theorem eq_ok_of_toOption {ε α : Type} {result : Except ε α} {a : α}
    (h : result.toOption = some a) : result = .ok a := by
  cases result with
  | error e => cases h
  | ok a' => exact congrArg Except.ok (Option.some.inj h)

theorem exists_of_map_eq_ok {ε α β : Type} {result : Except ε α} {f : α → β} {b : β}
    (h : result.map f = .ok b) : ∃ a, result = .ok a ∧ f a = b := by
  cases result with
  | error e => cases h
  | ok a => exact ⟨a, rfl, Except.ok.inj h⟩

theorem exists_of_bind_eq_ok {ε α β : Type} {result : Except ε α} {f : α → Except ε β} {b : β}
    (h : result >>= f = .ok b) : ∃ a, result = .ok a ∧ f a = .ok b := by
  cases result with
  | error e => cases h
  | ok a => exact ⟨a, rfl, h⟩

theorem eq_ok_of_mapError {ε ε' α : Type} {result : Except ε α} {wrap : ε → ε'} {a : α}
    (h : result.mapError wrap = .ok a) : result = .ok a := by
  cases result with
  | ok b => exact congrArg Except.ok (Except.ok.inj h)
  | error e => cases h

theorem exists_of_bind_eq_error {ε α β : Type} {result : Except ε α} {f : α → Except ε β} {e : ε}
    (h : result >>= f = .error e) : result = .error e ∨ ∃ a, result = .ok a ∧ f a = .error e := by
  cases result with
  | error e' =>
    cases h
    exact .inl rfl
  | ok a => exact .inr ⟨a, rfl, h⟩

theorem exists_of_mapError_eq_error {ε ε' α : Type} {result : Except ε α} {wrap : ε → ε'} {e : ε'}
    (h : result.mapError wrap = .error e) : ∃ e', result = .error e' ∧ wrap e' = e := by
  cases result with
  | error e' => exact ⟨e', rfl, Except.error.inj h⟩
  | ok a => cases h

/-! ## 2. What an operation comes to -/

namespace Operation

variable {ε α β : Type} {faults : Faults} {world world' : World}

/-- **An operation that goes on with the value of another one** runs after it, unless that fails. -/
theorem run_bind {op : Operation ε α} {f : α → Operation ε β} :
    (op >>= f).run faults world =
      match op.run faults world with
      | (.ok a, world') => (f a).run faults world'
      | (.error e, world') => (.error e, world') := by
  unfold run
  rw [ExceptT.run_bind, Program.bind_eq, Program.run_bind]
  rcases (ExceptT.run op).run faults world with ⟨a | e, world'⟩
  · rfl
  · rfl

theorem run_bind_of_ok {op : Operation ε α} {f : α → Operation ε β} {a : α}
    (h : op.run faults world = (.ok a, world')) :
    (op >>= f).run faults world = (f a).run faults world' := by
  rw [run_bind, h]

/-- A call that answers. -/
theorem run_call_of_perform {wrap : StoreError → ε} {c : Call} {a : c.Answer} {store' : Store}
    (h : c.perform world.store = (.ok a, store')) :
    run (α := no_index c.Answer) (call wrap c) .none world =
      (.ok a, { world with store := store' }) := by
  show ((c.perform world.store).1.mapError wrap, { world with store := (c.perform world.store).2 })
    = _
  rw [h]
  rfl

/-- A call that answers and leaves the store as it was. -/
theorem run_call_of_ok {wrap : StoreError → ε} {c : Call} {a : c.Answer}
    (h : c.perform world.store = (.ok a, world.store)) :
    run (α := no_index c.Answer) (call wrap c) .none world = (.ok a, world) :=
  run_call_of_perform h

/-- A call that is refused fails with the error of its method. -/
theorem run_call_of_fault {wrap : StoreError → ε} {c : Call} {e : StoreError}
    (h : faults c.method = some e) :
    run (α := no_index c.Answer) (call wrap c) faults world = (.error (wrap e), world) := by
  show ((Program.answer faults world.store c).1.mapError wrap,
    { world with store := (Program.answer faults world.store c).2 }) = _
  unfold Program.answer
  rw [h]
  rfl

/-- A call that is not refused comes to what the store makes of it. -/
theorem run_call_of_no_fault {wrap : StoreError → ε} {c : Call} (h : faults c.method = none) :
    run (α := no_index c.Answer) (call wrap c) faults world =
      ((c.perform world.store).1.mapError wrap,
        { world with store := (c.perform world.store).2 }) := by
  show ((Program.answer faults world.store c).1.mapError wrap,
    { world with store := (Program.answer faults world.store c).2 }) = _
  unfold Program.answer
  rw [h]

theorem run_bind_of_error {op : Operation ε α} {f : α → Operation ε β} {e : ε}
    (h : op.run faults world = (.error e, world')) :
    (op >>= f).run faults world = (.error e, world') := by
  rw [run_bind, h]

theorem run_demand_some {missing : ε} {a : α} :
    (demand missing (some a)).run faults world = (.ok a, world) :=
  rfl

theorem run_failIf_of_false {condition : Bool} {e : ε} (h : condition = false) :
    (failIf condition e).run faults world = (.ok (), world) := by
  subst h
  rfl

theorem run_failIf_of_true {condition : Bool} {e : ε} (h : condition = true) :
    (failIf condition e).run faults world = (.error e, world) := by
  subst h
  rfl

theorem run_adapt {ε' : Type} {wrap : ε → ε'} {op : Operation ε α} :
    run (ExceptT.adapt wrap op : Operation ε' α) faults world =
      ((op.run faults world).1.mapError wrap, (op.run faults world).2) := by
  show Program.run faults (Except.mapError wrap <$> ExceptT.run op) world = _
  rw [map_eq_pure_bind, Program.bind_eq, Program.run_bind]
  rfl

theorem run_map {f : α → β} {op : Operation ε α} :
    (f <$> op).run faults world = ((op.run faults world).1.map f, (op.run faults world).2) := by
  rw [map_eq_pure_bind, run_bind]
  rcases op.run faults world with ⟨a | e, world'⟩
  · rfl
  · rfl

/-! ## 3. What an operation has met that succeeds -/

/-- **Where an operation succeeds that goes on with the value of another one**, so do both. -/
theorem run_bind_eq_ok {world'' : World} {op : Operation ε α} {f : α → Operation ε β} {b : β}
    (h : (op >>= f).run faults world = (.ok b, world'')) :
    ∃ a world', op.run faults world = (.ok a, world') ∧
      (f a).run faults world' = (.ok b, world'') := by
  rw [run_bind] at h
  split at h
  · exact ⟨_, _, ‹_›, h⟩
  · cases h

/-- A call that succeeds is not refused, and comes to what the store makes of it. -/
theorem run_call_eq_ok {wrap : StoreError → ε} {c : Call} {a : c.Answer}
    (h : run (α := no_index c.Answer) (call wrap c) faults world = (.ok a, world')) :
    (c.perform world.store).1 = .ok a ∧
      world' = { world with store := (c.perform world.store).2 } := by
  cases hfault : faults c.method with
  | some e =>
    rw [run_call_of_fault hfault] at h
    cases h
  | none =>
    rw [run_call_of_no_fault hfault] at h
    obtain ⟨hresult, rfl⟩ := Prod.mk.inj h
    exact ⟨eq_ok_of_mapError hresult, rfl⟩

theorem run_demand_eq_ok {missing : ε} {found : Option α} {a : α}
    (h : (demand missing found).run faults world = (.ok a, world')) :
    found = some a ∧ world' = world := by
  cases found with
  | none => cases h
  | some b =>
    cases h
    exact ⟨rfl, rfl⟩

theorem run_failWith_eq_ok {fault : Option ε} {u : Unit}
    (h : (failWith fault).run faults world = (.ok u, world')) : fault = none ∧ world' = world := by
  cases fault with
  | none =>
    cases h
    exact ⟨rfl, rfl⟩
  | some e => cases h

theorem run_failIf_eq_ok {condition : Bool} {e : ε} {u : Unit}
    (h : (failIf condition e).run faults world = (.ok u, world')) :
    condition = false ∧ world' = world := by
  obtain ⟨hnone, hworld⟩ := run_failWith_eq_ok h
  refine ⟨Bool.eq_false_iff.2 fun htrue => ?_, hworld⟩
  rw [if_pos htrue] at hnone
  cases hnone

/-- Where some rules are to be obeyed and nothing fails, none is broken. -/
theorem run_failIf_broken_eq_ok {γ : Type} {broken : List γ} {e : ε} {u : Unit}
    (h : (failIf (!broken.isEmpty) e).run faults world = (.ok u, world')) :
    broken = [] ∧ world' = world := by
  obtain ⟨hempty, hworld⟩ := run_failIf_eq_ok h
  rw [Bool.not_eq_false', List.isEmpty_iff] at hempty
  exact ⟨hempty, hworld⟩

end Operation

section Actions

variable {ε α : Type} {wrap : ε → ActionError} {reply : α → Reply} {op : Operation ε α}
  {faults : Faults} {world : World}

/-- **An action comes to what its operation comes to**, told as a reply or as an error of
    actions. -/
theorem Action.run_replying :
    (replying wrap reply op).run faults world =
      (((op.run faults world).1.map reply).mapError wrap, (op.run faults world).2) := by
  unfold replying
  rw [Operation.run_adapt, Operation.run_map]

/-- If an action succeeds, so does its operation. -/
theorem Action.exists_of_run_replying_eq_ok {world' : World} {told : Reply}
    (h : (replying wrap reply op).run faults world = (.ok told, world')) :
    ∃ a, op.run faults world = (.ok a, world') ∧ reply a = told := by
  rw [run_replying] at h
  obtain ⟨htold, rfl⟩ := Prod.mk.inj h
  obtain ⟨a, hresult, ha⟩ := exists_of_map_eq_ok (eq_ok_of_mapError htold)
  exact ⟨a, Prod.ext hresult rfl, ha⟩

/-- If an action fails, so does its operation. -/
theorem Action.exists_of_run_replying_eq_error {e : ActionError}
    (h : ((replying wrap reply op).run faults world).1 = .error e) :
    ∃ e', (op.run faults world).1 = .error e' := by
  rw [run_replying] at h
  cases hresult : (op.run faults world).1 with
  | error e' => exact ⟨e', rfl⟩
  | ok a =>
    rw [hresult] at h
    cases h

end Actions

end Bedspace
