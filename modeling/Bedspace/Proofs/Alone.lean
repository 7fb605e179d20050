import Bedspace.Proofs.Rights

/-!
# What an operation carried out alone may come to

An operation that is carried out alone, with every method in order, gives one result. `Operation.Alone`
bounds it from both sides: the errors with which it may fail, and what holds of its value and of the
world after it.

* `Operation.alone_bind` and the lemmas after it reduce the bound to the parts of an operation;
* `Operation.Alone.of_error`, `Operation.Alone.eq_error` turn it back into what a run gives.
-/

namespace Bedspace

/-- A call that reads is answered. -/
theorem Call.answer_of_reads {c : Call} (h : c.reads = true) (store : Store) :
    ∃ a, c.perform store = (.ok a, store) := by
  unfold reads at h
  split at h
  all_goals first | exact ⟨_, rfl⟩ | exact absurd h Bool.false_ne_true

namespace Operation

variable {ε ε' α β : Type} {world : World} {fails : ε → Prop} {ends : α → World → Prop}

/-- **Carried out alone from a world, with every method in order, an operation** fails with an error
    that satisfies `fails`, or gives a value that satisfies `ends` with the world after it. -/
def Alone (op : Operation ε α) (world : World) (fails : ε → Prop) (ends : α → World → Prop) : Prop :=
  match op.run .none world with
  | (.ok a, world') => ends a world'
  | (.error e, _) => fails e

theorem Alone.of_error {op : Operation ε α} (h : op.Alone world fails ends) {e : ε}
    (he : (op.run .none world).1 = .error e) : fails e := by
  unfold Alone at h
  split at h
  · rename_i hrun
    rw [hrun] at he
    cases he
  · rename_i e' _ hrun
    rw [hrun] at he
    exact Except.error.inj he ▸ h

/-- An operation that may do nothing but fail with one error does so. -/
theorem Alone.eq_error {op : Operation ε α} {e : ε}
    (h : op.Alone world (fun e' => e' = e) fun _ _ => False) :
    (op.run .none world).1 = .error e := by
  unfold Alone at h
  split at h
  · exact h.elim
  · rename_i hrun
    rw [hrun, h]

/-- What an operation gives is all that it may come to. -/
theorem alone_of_run {op : Operation ε α} {a : α} {world' : World}
    (h : op.run .none world = (.ok a, world')) : op.Alone world fails ends ↔ ends a world' := by
  unfold Alone
  rw [h]

theorem Alone.imp {op : Operation ε α} (h : op.Alone world fails ends) {fails' : ε → Prop}
    (hfails : ∀ e, fails e → fails' e) : op.Alone world fails' ends := by
  unfold Alone at h ⊢
  split
  · rename_i hrun
    rw [hrun] at h
    exact h
  · rename_i hrun
    rw [hrun] at h
    exact hfails _ h

theorem alone_pure {a : α} : (pure a : Operation ε α).Alone world fails ends ↔ ends a world :=
  Iff.rfl

theorem alone_throw {e : ε} : (throw e : Operation ε α).Alone world fails ends ↔ fails e :=
  Iff.rfl

/-- **An operation that goes on with the value of another one** is carried out after it. -/
theorem alone_bind {op : Operation ε α} {f : α → Operation ε β} {ends : β → World → Prop} :
    (op >>= f).Alone world fails ends ↔
      op.Alone world fails fun a world => (f a).Alone world fails ends := by
  unfold Alone
  rw [run_bind]
  rcases op.run .none world with ⟨e | a, world'⟩
  · exact Iff.rfl
  · exact Iff.rfl

theorem alone_map {op : Operation ε α} {f : α → β} {ends : β → World → Prop} :
    (f <$> op).Alone world fails ends ↔
      op.Alone world fails fun a world => ends (f a) world := by
  unfold Alone
  rw [run_map]
  rcases op.run .none world with ⟨e | a, world'⟩
  · exact Iff.rfl
  · exact Iff.rfl

theorem alone_adapt {wrap : ε → ε'} {op : Operation ε α} {fails : ε' → Prop} :
    Alone (ExceptT.adapt wrap op : Operation ε' α) world fails ends ↔
      op.Alone world (fun e => fails (wrap e)) ends := by
  unfold Alone
  rw [run_adapt]
  rcases op.run .none world with ⟨e | a, world'⟩
  · exact Iff.rfl
  · exact Iff.rfl

/-- A call comes to what the store makes of it. -/
theorem alone_call {wrap : StoreError → ε} {c : Call} {ends : c.Answer → World → Prop} :
    Alone (α := no_index c.Answer) (call wrap c) world fails ends ↔
      (∀ a, (c.perform world.store).1 = .ok a →
        ends a { world with store := (c.perform world.store).2 }) ∧
      ∀ e, (c.perform world.store).1 = .error e → fails (wrap e) := by
  unfold Alone
  rw [run_call_of_no_fault rfl]
  cases (c.perform world.store).1 with
  | ok a =>
    constructor
    · exact fun h => ⟨fun b hb => Except.ok.inj hb ▸ h, fun _ he => (nomatch he)⟩
    · exact fun h => h.1 a rfl
  | error e =>
    constructor
    · exact fun h => ⟨fun _ ha => (nomatch ha), fun e' he => Except.error.inj he ▸ h⟩
    · exact fun h => h.2 e rfl

/-- A call that the store carries out does not fail. -/
theorem alone_call_of_perform {wrap : StoreError → ε} {c : Call} {ends : c.Answer → World → Prop}
    {a : c.Answer} {store' : Store} (h : c.perform world.store = (.ok a, store'))
    (he : ends a { world with store := store' }) :
    Alone (α := no_index c.Answer) (call wrap c) world fails ends := by
  unfold Alone
  rw [run_call_of_perform h]
  exact he

/-- A call that reads does not fail and leaves the world as it was. -/
theorem alone_read {wrap : StoreError → ε} {c : Call} {ends : c.Answer → World → Prop}
    (hreads : c.reads = true) (h : ∀ a, (c.perform world.store).1 = .ok a → ends a world) :
    Alone (α := no_index c.Answer) (call wrap c) world fails ends := by
  obtain ⟨a, ha⟩ := Call.answer_of_reads hreads world.store
  exact alone_call_of_perform ha (h a (congrArg Prod.fst ha))

theorem alone_issue {kind : Kind} {ends : Id kind → World → Prop} :
    (issue kind : Operation ε (Id kind)).Alone world fails ends ↔
      ends (world.nextId kind) (world.afterIssue kind) :=
  Iff.rfl

theorem alone_demand {missing : ε} {found : Option α} (hmissing : fails missing) :
    (demand missing found).Alone world fails ends ↔ ∀ a, found = some a → ends a world := by
  cases found with
  | none => exact iff_of_true hmissing fun _ h => nomatch h
  | some b => exact alone_pure.trans ⟨fun h _ e => Option.some.inj e ▸ h, fun h => h b rfl⟩

theorem alone_failWith {fault : Option ε} {ends : Unit → World → Prop}
    (hfault : ∀ e, fault = some e → fails e) :
    (failWith fault).Alone world fails ends ↔ (fault = none → ends () world) := by
  cases fault with
  | none => exact alone_pure.trans ⟨fun h _ => h, fun h => h rfl⟩
  | some e => exact iff_of_true (hfault e rfl) fun h => nomatch h

theorem alone_failIf {condition : Bool} {e : ε} {ends : Unit → World → Prop} (he : fails e) :
    (failIf condition e).Alone world fails ends ↔ (condition = false → ends () world) := by
  unfold failIf
  cases condition with
  | true => exact iff_of_true he fun h => nomatch h
  | false => exact alone_pure.trans ⟨fun h _ => h, fun h => h rfl⟩

end Operation

end Bedspace
