import Bedspace.Proofs.Rights

/-!
# What an operation may come to while others go on

Between the calls of a client the store changes by what others do. If all that is known of them is a
relation `later` between the stores before and after, a client has to reckon with every store that is
later than the one it has left.

* `Program.Amid` bounds a program by that: each call satisfies `makes` with the store on which it is
  carried out, and each result satisfies `ends` with the store that the program leaves;
* `Program.Amid.wait`: the bound holds as well from every later store, and if less is reckoned with of
  others (`Program.Amid.restrict`);
* `Program.Amid.move`: a step of the program itself keeps to it;
* `Operation.amid_bind` and the lemmas after it reduce the bound to the parts of an operation;
* `Bookings.amid_create` is the bound on the making of a booking, which several operations do.
-/

namespace Bedspace

/-! ## 1. Programs -/

namespace Program

variable {α β : Type} {later : Store → Store → Prop} {makes : Call → Store → Prop}

/-- **From a store on, while others change it along `later`**, every call of a program satisfies
    `makes` and every result satisfies `ends`. Any call may be refused. -/
def Amid (later : Store → Store → Prop) (makes : Call → Store → Prop) (ends : α → Store → Prop) :
    Program α → Store → Prop
  | done a, store => ends a store
  | call c next, store =>
    ∀ store', later store store' →
      makes c store' ∧
      (next (c.perform store').1).Amid later makes ends (c.perform store').2 ∧
      ∀ e, (next (.error e)).Amid later makes ends store'
  | issue kind next, store => ∀ n, (next (.numbered kind n)).Amid later makes ends store

/-- **What is reckoned with from a store is reckoned with from every later one.** -/
theorem Amid.wait {ends : α → Store → Prop} {p : Program α} {store store' : Store}
    (h : p.Amid later makes ends store)
    (htrans : ∀ s₁ s₂ s₃, later s₁ s₂ → later s₂ s₃ → later s₁ s₃)
    (hends : ∀ a, ends a store → ends a store') (hlater : later store store') :
    p.Amid later makes ends store' := by
  induction p with
  | done a => exact hends a h
  | call c next _ => exact fun store'' h' => h store'' (htrans store store' store'' hlater h')
  | issue kind next ih => exact fun n => ih _ (h n)

theorem amid_mono {makes' : Call → Store → Prop} {ends ends' : α → Store → Prop}
    (hmakes : ∀ c store, makes c store → makes' c store)
    (hends : ∀ a store, ends a store → ends' a store) {p : Program α} {store : Store}
    (h : p.Amid later makes ends store) : p.Amid later makes' ends' store := by
  induction p generalizing store with
  | done a => exact hends a store h
  | call c next ih =>
    intro store' hlater
    obtain ⟨hc, hnext, herror⟩ := h store' hlater
    exact ⟨hmakes c store' hc, ih _ hnext, fun e => ih _ (herror e)⟩
  | issue kind next ih => exact fun n => ih _ (h n)

/-- **What is reckoned with of others** is reckoned with if less is. -/
theorem Amid.restrict {later' : Store → Store → Prop} {ends : α → Store → Prop} {p : Program α}
    {store : Store} (h : p.Amid later makes ends store)
    (hlater : ∀ s₁ s₂, later' s₁ s₂ → later s₁ s₂) : p.Amid later' makes ends store := by
  induction p generalizing store with
  | done a => exact h
  | call c next ih =>
    intro store' h'
    obtain ⟨hc, hnext, herror⟩ := h store' (hlater store store' h')
    exact ⟨hc, ih _ hnext, fun e => ih _ (herror e)⟩
  | issue kind next ih => exact fun n => ih _ (h n)

theorem amid_congr {ends ends' : α → Store → Prop} (h : ∀ a store, ends a store ↔ ends' a store)
    {p : Program α} {store : Store} :
    p.Amid later makes ends store ↔ p.Amid later makes ends' store :=
  ⟨amid_mono (fun _ _ hc => hc) fun a store => (h a store).1,
    amid_mono (fun _ _ hc => hc) fun a store => (h a store).2⟩

/-- Nothing is asked of the calls, and every result will do. -/
theorem amid_of_forall {ends : α → Store → Prop} (hends : ∀ a store, ends a store) (p : Program α)
    (store : Store) : p.Amid later (fun _ _ => True) ends store := by
  induction p generalizing store with
  | done a => exact hends a store
  | call c next ih => exact fun store' _ => ⟨trivial, ih _ _, fun e => ih _ _⟩
  | issue kind next ih => exact fun n => ih _ _

theorem amid_bind {ends : β → Store → Prop} {p : Program α} {f : α → Program β} {store : Store} :
    (p.bind f).Amid later makes ends store ↔
      p.Amid later makes (fun a store => (f a).Amid later makes ends store) store := by
  induction p generalizing store with
  | done a => exact Iff.rfl
  | call c next ih =>
    refine forall_congr' fun store' => imp_congr_right fun _ => and_congr_right fun _ => ?_
    exact and_congr (ih _) (forall_congr' fun e => ih _)
  | issue kind next ih => exact forall_congr' fun n => ih _

theorem amid_map {ends : β → Store → Prop} {p : Program α} {f : α → β} {store : Store} :
    (f <$> p).Amid later makes ends store ↔
      p.Amid later makes (fun a store => ends (f a) store) store := by
  rw [map_eq_pure_bind]
  exact amid_bind

/-- **A step of a program itself** leads to where the rest of it keeps to the bound, and the call that
    it makes does so as well. -/
theorem Amid.move {ends : α → Store → Prop} {p p' : Program α} {world world' : World}
    (h : p.Amid later makes ends world.store) (hrefl : later world.store world.store)
    (hp : p.Moves world world' p') :
    p'.Amid later makes ends world'.store ∧
      (world'.store = world.store ∨
        ∃ c : Call, makes c world.store ∧ world'.store = (c.perform world.store).2) := by
  cases hp with
  | call c next =>
    obtain ⟨hc, hnext, _⟩ := h world.store hrefl
    exact ⟨hnext, .inr ⟨c, hc, rfl⟩⟩
  | refused c next e => exact ⟨(h world.store hrefl).2.2 e, .inl rfl⟩
  | issue kind next => exact ⟨h _, .inl rfl⟩

end Program

/-! ## 2. Operations -/

namespace Operation

variable {ε ε' α β : Type} {later : Store → Store → Prop} {makes : Call → Store → Prop}
  {store : Store} {fails : ε → Prop} {ends : α → Store → Prop}

/-- **While others go on, an operation** fails with an error that satisfies `fails`, or gives a value
    that satisfies `ends` with the store it leaves. -/
def Amid (later : Store → Store → Prop) (makes : Call → Store → Prop) (op : Operation ε α)
    (store : Store) (fails : ε → Prop) (ends : α → Store → Prop) : Prop :=
  (ExceptT.run op).Amid later makes
    (fun
      | .ok a, store => ends a store
      | .error e, _ => fails e) store

theorem Amid.imp {ends' : α → Store → Prop} {op : Operation ε α}
    (h : Amid later makes op store fails ends) (hends : ∀ a store, ends a store → ends' a store) :
    Amid later makes op store fails ends' := by
  refine Program.amid_mono (fun _ _ hc => hc) (fun result store hresult => ?_) h
  cases result with
  | ok a => exact hends a store hresult
  | error e => exact hresult

/-- The errors of an operation, as results of its program. -/
theorem Amid.errors {op : Operation ε α} (h : Amid later makes op store fails ends) :
    (ExceptT.run op).Amid later makes (fun result _ => ∀ e, result = .error e → fails e) store := by
  refine Program.amid_mono (fun _ _ hc => hc) (fun result _ hresult e he => ?_) h
  subst he
  exact hresult

@[simp] theorem amid_pure {a : α} :
    (pure a : Operation ε α).Amid later makes store fails ends ↔ ends a store :=
  Iff.rfl

@[simp] theorem amid_throw {e : ε} :
    (throw e : Operation ε α).Amid later makes store fails ends ↔ fails e :=
  Iff.rfl

/-- **An operation that goes on with the value of another one** does so from the store that the other
    one leaves. -/
@[simp] theorem amid_bind {op : Operation ε α} {f : α → Operation ε β} {ends : β → Store → Prop} :
    (op >>= f).Amid later makes store fails ends ↔
      op.Amid later makes store fails fun a store => (f a).Amid later makes store fails ends := by
  unfold Amid
  rw [ExceptT.run_bind, Program.bind_eq, Program.amid_bind]
  refine Program.amid_congr fun result store => ?_
  cases result with
  | ok a => exact Iff.rfl
  | error e => exact Iff.rfl

@[simp] theorem amid_map {op : Operation ε α} {f : α → β} {ends : β → Store → Prop} :
    (f <$> op).Amid later makes store fails ends ↔
      op.Amid later makes store fails fun a store => ends (f a) store := by
  rw [map_eq_pure_bind, amid_bind]
  exact Iff.rfl

@[simp] theorem amid_adapt {wrap : ε → ε'} {op : Operation ε α} {fails : ε' → Prop} :
    Amid later makes (ExceptT.adapt wrap op : Operation ε' α) store fails ends ↔
      op.Amid later makes store (fun e => fails (wrap e)) ends := by
  show Program.Amid later makes _ (Except.mapError wrap <$> ExceptT.run op) store ↔ _
  rw [Program.amid_map]
  refine Program.amid_congr fun result store => ?_
  cases result with
  | ok a => exact Iff.rfl
  | error e => exact Iff.rfl

/-- A call is carried out on some later store, if it is not refused. -/
@[simp] theorem amid_call_iff {wrap : StoreError → ε} {c : Call} {ends : c.Answer → Store → Prop}
    (hwrap : ∀ e, fails (wrap e)) :
    Amid (α := no_index c.Answer) later makes (call wrap c) store fails ends ↔
      ∀ store', later store store' → makes c store' ∧
        ∀ a, (c.perform store').1 = .ok a → ends a (c.perform store').2 := by
  constructor
  · intro h store' hlater
    obtain ⟨hmakes, hnext, _⟩ := h store' hlater
    refine ⟨hmakes, fun a ha => ?_⟩
    rw [ha] at hnext
    exact hnext
  · intro h store' hlater
    obtain ⟨hmakes, hends⟩ := h store' hlater
    refine ⟨hmakes, ?_, fun e => hwrap e⟩
    cases hans : (c.perform store').1 with
    | ok a => exact hends a hans
    | error e => exact hwrap e

theorem amid_call {wrap : StoreError → ε} {c : Call} {ends : c.Answer → Store → Prop}
    (hwrap : ∀ e, fails (wrap e)) (hmakes : ∀ store', later store store' → makes c store')
    (h : ∀ store' a, later store store' → (c.perform store').1 = .ok a →
      ends a (c.perform store').2) :
    Amid (α := no_index c.Answer) later makes (call wrap c) store fails ends :=
  (amid_call_iff hwrap).2 fun store' hlater =>
    ⟨hmakes store' hlater, fun a ha => h store' a hlater ha⟩

/-- A call that reads finds what some later store has. -/
theorem amid_read {wrap : StoreError → ε} {c : Call} {ends : c.Answer → Store → Prop}
    (hreads : c.reads = true) (hwrap : ∀ e, fails (wrap e)) (hmakes : ∀ store', makes c store')
    (h : ∀ store' a, later store store' → (c.perform store').1 = .ok a → ends a store') :
    Amid (α := no_index c.Answer) later makes (call wrap c) store fails ends := by
  refine amid_call hwrap (fun store' _ => hmakes store') fun store' a hlater ha => ?_
  rw [Call.perform_of_reads hreads]
  exact h store' a hlater ha

@[simp] theorem amid_issue {kind : Kind} {ends : Id kind → Store → Prop} :
    (issue kind : Operation ε (Id kind)).Amid later makes store fails ends ↔
      ∀ n, ends (.numbered kind n) store :=
  Iff.rfl

@[simp] theorem amid_demand {missing : ε} {found : Option α} (hmissing : fails missing) :
    (demand missing found).Amid later makes store fails ends ↔
      ∀ a, found = some a → ends a store := by
  cases found with
  | none => exact iff_of_true hmissing fun _ h => nomatch h
  | some b => exact amid_pure.trans ⟨fun h _ e => Option.some.inj e ▸ h, fun h => h b rfl⟩

@[simp] theorem amid_failWith {fault : Option ε} {ends : Unit → Store → Prop}
    (hfault : ∀ e, fault = some e → fails e) :
    (failWith fault).Amid later makes store fails ends ↔ (fault = none → ends () store) := by
  cases fault with
  | none => exact amid_pure.trans ⟨fun h _ => h, fun h => h rfl⟩
  | some e => exact iff_of_true (hfault e rfl) fun h => nomatch h

@[simp] theorem amid_failIf {condition : Bool} {e : ε} {ends : Unit → Store → Prop} (he : fails e) :
    (failIf condition e).Amid later makes store fails ends ↔
      (condition = false → ends () store) := by
  unfold failIf
  cases condition with
  | true => exact iff_of_true he fun h => nomatch h
  | false => exact amid_pure.trans ⟨fun h _ => h, fun h => h rfl⟩

end Operation

/-! ## 3. Making a booking -/

open Operation in
/-- **A booking is made on some later store**, after reads only, for premises that were read from a
    store on the way and for a wish that obeys their rules. -/
theorem Bookings.amid_create {later : Store → Store → Prop} {makes : Call → Store → Prop}
    {store : Store} {premises : PremisesId} {request : NewBooking} {links : BookingLinks}
    {today : Date} {fails : BookingError → Prop}
    (htrans : ∀ s₁ s₂ s₃, later s₁ s₂ → later s₂ s₃ → later s₁ s₃)
    (hfails : ∀ error, fails error)
    (hreads : ∀ (c : Call) store, c.reads = true → makes c store)
    (hbook : ∀ n s₁ inventory s₂, later store s₁ → s₁.premises? premises = some inventory →
      creationRules inventory request = [] → later s₁ s₂ →
      makes (.insertBooking (newBooking (.numbered .booking n) premises request links today)) s₂) :
    (create premises request links today).Amid later makes store fails fun _ _ => True := by
  unfold create findPremises obey ensureBedFree
  refine amid_bind.2 (amid_bind.2 (amid_read rfl (fun _ => hfails _) (fun s => hreads _ s rfl) ?_))
  intro s₁ found h₁ hfound
  refine (amid_demand (hfails _)).2 fun inventory hinventory => ?_
  have hpremises : s₁.premises? premises = some inventory := (Except.ok.inj hfound).trans hinventory
  refine amid_bind.2 ((amid_failIf (hfails _)).2 fun _ => ?_)
  refine amid_bind.2 ((amid_failIf (hfails _)).2 fun hobeyed => ?_)
  have hrules : creationRules inventory request = [] := by
    simpa only [Bool.not_eq_false', List.isEmpty_iff] using hobeyed
  refine amid_bind.2 (amid_bind.2 (amid_read rfl (fun _ => hfails _) (fun s => hreads _ s rfl) ?_))
  intro s₂ bookings h₂ _
  refine amid_bind.2 ((amid_failWith fun _ _ => hfails _).2 fun _ => ?_)
  refine amid_bind.2 (amid_read rfl (fun _ => hfails _) (fun s => hreads _ s rfl) ?_)
  intro s₃ periods h₃ _
  refine (amid_failWith fun _ _ => hfails _).2 fun _ => ?_
  refine amid_bind.2 (amid_issue.2 fun n => ?_)
  refine amid_call (fun _ => hfails _) (fun s₄ h₄ => ?_) fun _ _ _ _ => trivial
  exact hbook n s₁ inventory s₄ h₁ hpremises hrules (htrans _ _ _ h₂ (htrans _ _ _ h₃ h₄))

end Bedspace
