import Bedspace.Store.Call

/-!
# Programs over the store

What a service does is a `Program`: a value that ends with a result, or makes one call on the store
and goes on with its answer, or has an identifier issued and goes on with it. Nothing else happens
between two calls, so a program shows exactly where other programs can come in between.

* `Program.run` carries a program out alone, over a `World`: the store and the numbers issued so
  far;
* `Operation ε α` is a program that fails with an `ε` or gives an `α`; an error of a call is turned
  into an `ε` at the call (`Operation.call`).
-/

namespace Bedspace

/-- A program that ends with a result of type `α`. -/
inductive Program (α : Type) where
  | done (result : α)
  | call (call : Call) (next : Except StoreError call.Answer → Program α)
  | issue (kind : Kind) (next : Id kind → Program α)

/-- The store and, for each kind, the number of identifiers issued so far. -/
structure World where
  store : Store
  issued : Kind → Nat

namespace World

/-- A world in which no identifier has been issued. -/
def ofStore (store : Store) : World := ⟨store, fun _ => 0⟩

/-- The next identifier of a kind. -/
def nextId (world : World) (kind : Kind) : Id kind := .numbered kind (world.issued kind + 1)

/-- The world once that identifier is issued. -/
def afterIssue (world : World) (kind : Kind) : World :=
  { world with issued := fun k => if k = kind then world.issued k + 1 else world.issued k }

end World

namespace Program

variable {α β : Type}

/-- The program that goes on with the result of another one. -/
protected def bind (p : Program α) (f : α → Program β) : Program β :=
  match p with
  | done a => f a
  | call c next => call c fun answer => (next answer).bind f
  | issue kind next => issue kind fun id => (next id).bind f

instance : Monad Program where
  pure := done
  bind := Program.bind

/-- The answer to a call over a store, if some methods may be out of order, and the store after. -/
def answer (faults : Faults) (store : Store) (c : Call) : Except StoreError c.Answer × Store :=
  match faults c.method with
  | some e => (.error e, store)
  | none => c.perform store

/-- **Carries a program out alone.** -/
def run (faults : Faults) : Program α → World → α × World
  | done a, world => (a, world)
  | call c next, world =>
    let (reply, store) := answer faults world.store c
    (next reply).run faults { world with store }
  | issue kind next, world =>
    (next (world.nextId kind)).run faults (world.afterIssue kind)

/-! ## Laws -/

@[simp] theorem pure_eq_done (a : α) : (pure a : Program α) = done a := rfl

@[simp] theorem bind_eq (p : Program α) (f : α → Program β) : p >>= f = p.bind f := rfl

@[simp] theorem done_bind (a : α) (f : α → Program β) : (done a).bind f = f a := rfl

@[simp] theorem run_done (faults : Faults) (a : α) (world : World) :
    (done a).run faults world = (a, world) := rfl

/-- A program that goes on with another one's result runs after it. -/
theorem run_bind (faults : Faults) (p : Program α) (f : α → Program β) (world : World) :
    (p.bind f).run faults world =
      let (a, world') := p.run faults world
      (f a).run faults world' := by
  induction p generalizing world with
  | done a => rfl
  | call c next ih => exact ih _ _
  | issue kind next ih => exact ih _ _

@[simp] theorem bind_done (p : Program α) : p.bind done = p := by
  induction p with
  | done a => rfl
  | call c next ih => exact congrArg (call c) (funext fun answer => ih answer)
  | issue kind next ih => exact congrArg (issue kind) (funext fun id => ih id)

theorem bind_assoc {γ : Type} (p : Program α) (f : α → Program β) (g : β → Program γ) :
    (p.bind f).bind g = p.bind fun a => (f a).bind g := by
  induction p with
  | done a => rfl
  | call c next ih => exact congrArg (call c) (funext fun answer => ih answer)
  | issue kind next ih => exact congrArg (issue kind) (funext fun id => ih id)

instance : LawfulMonad Program :=
  LawfulMonad.mk' Program bind_done (fun _ _ => rfl) bind_assoc

end Program

/-- A program that may fail with an `ε`. -/
abbrev Operation (ε α : Type) := ExceptT ε Program α

namespace Operation

variable {ε α : Type}

/-- The operation of a program. -/
def ofProgram (p : Program (Except ε α)) : Operation ε α := ExceptT.mk p

/-- Makes a call; its error becomes an error of the operation. -/
def call (wrap : StoreError → ε) (c : Call) : Operation ε c.Answer :=
  ofProgram (.call c fun reply => .done (reply.mapError wrap))

/-- Has an identifier issued. -/
def issue (kind : Kind) : Operation ε (Id kind) :=
  ofProgram (.issue kind fun id => .done (.ok id))

/-- A value that has to be there. -/
def demand (missing : ε) : Option α → Operation ε α
  | some a => pure a
  | none => throw missing

/-- Fails if there is something to fail with. -/
def failWith : Option ε → Operation ε Unit
  | some e => throw e
  | none => pure ()

/-- Fails if a condition holds. -/
def failIf (condition : Bool) (e : ε) : Operation ε Unit :=
  failWith (if condition then some e else none)

/-- Carries an operation out alone. -/
def run (op : Operation ε α) (faults : Faults) (world : World) : Except ε α × World :=
  Program.run faults (ExceptT.run op) world

end Operation

end Bedspace
