import Bedspace.Proofs.Footprint
import Bedspace.Proofs.InTurn
import Bedspace.Proofs.Records

/-!
# Cancelling a period that is cancelled

To cancel a period out of service, a client reads it and then writes it with the date of its
cancellation. Whoever reads it once it is cancelled leaves it as it is. Whoever has read it before
writes it all the same, since the write does not look at what is stored by then.

* `Program.cancelling` and `Program.writing` are the two points of such a client, and all others replace
  no period (`ServiceRequest.program_stage`);
* `Store.PeriodStep` is what one step of a client does to the stored periods (`Program.Stage.move`);
* `System.dates` are the dates on which a period is cancelled or about to be cancelled;
* **`System.reaches_redated`**: a cancelled period stays cancelled on one of these dates, which is what
  clients are told, and each of them can come to be the stored one;
  `System.cancelledTwice_overwritten` is a case with two of them.
-/

namespace Bedspace

/-! ## 1. Periods with another date -/

namespace OutOfServicePeriod

/-- A period as it is if it is cancelled on a day. -/
def cancelledAs (p : OutOfServicePeriod) (on : Date) : OutOfServicePeriod :=
  { p with cancelledOn := some on }

variable {p : OutOfServicePeriod} {on on' : Date}

@[simp] theorem cancelledAs_id : (p.cancelledAs on).id = p.id := rfl

@[simp] theorem isCancelled_cancelledAs : (p.cancelledAs on).isCancelled = true := rfl

@[simp] theorem cancelledAs_cancelledAs : (p.cancelledAs on).cancelledAs on' = p.cancelledAs on' :=
  rfl

theorem cancelledAs_eq_self (h : p.cancelledOn = some on) : p.cancelledAs on = p := by
  unfold cancelledAs
  rw [← h]

end OutOfServicePeriod

/-- A write replaces the period with the same identifier, however it is stored. -/
theorem Call.perform_replaceOutOfService {store : Store} {p : OutOfServicePeriod}
    (hthere : store.outOfService.contains p.id.text = true) :
    (Call.replaceOutOfService p).perform store =
      (.ok (), { store with outOfService := store.outOfService.put p }) := by
  have hreplace : store.replaceOutOfService p =
      .ok { store with outOfService := store.outOfService.put p } := if_pos hthere
  exact congrArg (Call.settleUnit store) hreplace

/-! ## 2. Where clients stand -/

namespace Program

variable {p : OutOfServicePeriod} {q q' : Program (Except ActionError Reply)} {world world' : World}

/-- A client that has read a period and is about to write it. -/
def writing (p : OutOfServicePeriod) : Program (Except ActionError Reply) :=
  .call (.replaceOutOfService p) fun
    | .ok _ => .done (.ok (.outOfService p))
    | .error e => .done (.error (.booking (.store e)))

/-- What a client does about a period that it wants to cancel, once it has been answered. -/
def afterReading (premises : PremisesId) (id : OutOfServiceId) (today : Date) :
    Except StoreError (Option OutOfServicePeriod) → Program (Except ActionError Reply)
  | .error e => .done (.error (.booking (.store e)))
  | .ok found =>
    match found.filter fun p => p.premisesId = premises with
    | none => .done (.error (.booking (.outOfServiceNotFound id)))
    | some p =>
      if p.isCancelled then .done (.ok (.outOfService p)) else writing (p.cancelledAs today)

/-- A client that wants a period to be cancelled and has done nothing yet. -/
def cancelling (premises : PremisesId) (id : OutOfServiceId) (today : Date) :
    Program (Except ActionError Reply) :=
  .call (.outOfService id) (afterReading premises id today)

theorem program_cancelOutOfService {settings : SearchSettings} {premises : PremisesId}
    {id : OutOfServiceId} {today : Date} :
    (ServiceRequest.action settings today (.cancelOutOfService premises id)).program =
      cancelling premises id today := by
  refine congrArg (Program.call (.outOfService id)) (funext fun answer => ?_)
  cases answer with
  | error e => rfl
  | ok found =>
    show ExceptT.run (Action.replying .booking .outOfService
      (Operation.demand (.outOfServiceNotFound id) (found.filter fun p => p.premisesId = premises) >>=
        fun period => if period.isCancelled then pure period else
          (Operation.call .store (.replaceOutOfService (period.cancelledAs today)) >>= fun _ =>
            pure (period.cancelledAs today)))) = _
    unfold afterReading
    dsimp only
    cases found.filter fun p => p.premisesId = premises with
    | none => rfl
    | some p =>
      show ExceptT.run (Action.replying .booking .outOfService (if p.isCancelled then _ else _)) = _
      dsimp only
      by_cases hcancelled : p.isCancelled = true
      · rw [if_pos hcancelled, if_pos hcancelled]
        rfl
      · rw [if_neg hcancelled, if_neg hcancelled]
        refine congrArg (Program.call _) (funext fun answer => ?_)
        cases answer with
        | ok _ => rfl
        | error e => rfl

theorem writing_inj {p' : OutOfServicePeriod} (h : writing p = writing p') : p = p' :=
  Call.replaceOutOfService.inj (Program.call.inj h).1

theorem afterReading_cases (premises : PremisesId) (id : OutOfServiceId) (today : Date)
    (found : Option OutOfServicePeriod) :
    (∃ e, afterReading premises id today (.ok found) = .done (.error e)) ∨
      ∃ p, found = some p ∧
        (p.isCancelled = true ∧
            afterReading premises id today (.ok found) = .done (.ok (.outOfService p)) ∨
          p.isCancelled = false ∧
            afterReading premises id today (.ok found) = writing (p.cancelledAs today)) := by
  unfold afterReading
  dsimp only
  split
  · exact .inl ⟨_, rfl⟩
  · rename_i p hfound
    refine .inr ⟨p, (Option.filter_eq_some_iff.1 hfound).1, ?_⟩
    split
    · rename_i hcancelled
      exact .inl ⟨hcancelled, rfl⟩
    · rename_i hlive
      exact .inr ⟨Bool.eq_false_iff.2 hlive, rfl⟩

/-- **Whoever reads a period to cancel it** fails, or replies with it if it is cancelled, or else is
    about to write it. -/
theorem cancelling_moves {premises : PremisesId} {id : OutOfServiceId} {today : Date}
    (h : (cancelling premises id today).Moves world world' q') :
    world' = world ∧ ((∃ e, q' = .done (.error e)) ∨
      ∃ p ∈ world.store.outOfService.rows, p.id = id ∧
        (p.isCancelled = true ∧ q' = .done (.ok (.outOfService p)) ∨
          p.isCancelled = false ∧ q' = writing (p.cancelledAs today))) := by
  cases h with
  | refused c next e => exact ⟨rfl, .inl ⟨_, rfl⟩⟩
  | call c next =>
    refine ⟨rfl, (afterReading_cases premises id today (world.store.outOfService? id)).imp_right ?_⟩
    rintro ⟨p, hfind, hnext⟩
    obtain ⟨hp, hid⟩ := world.store.outOfService.find?_eq_some_iff.1 hfind
    exact ⟨p, hp, congrArg Id.mk hid, hnext⟩

/-- A cancelled period is what the reply to its cancellation gives. -/
theorem cancelling_replies {today : Date} (hp : p ∈ world.store.outOfService.rows)
    (hcancelled : p.isCancelled = true) :
    (cancelling p.premisesId p.id today).Moves world world (.done (.ok (.outOfService p))) := by
  have hfind : world.store.outOfService? p.id = some p :=
    world.store.outOfService.find?_eq_some_iff.2 ⟨hp, rfl⟩
  have hnext : afterReading p.premisesId p.id today (.ok (world.store.outOfService? p.id)) =
      .done (.ok (.outOfService p)) := by
    unfold afterReading
    rw [hfind]
    simp [Option.filter, hcancelled]
  exact hnext ▸ Moves.call (.outOfService p.id) (afterReading p.premisesId p.id today)

/-- **A period is stored as it is written**, if there is one with its identifier. -/
theorem writing_stores (hthere : world.store.outOfService.contains p.id.text = true) :
    (writing p).Moves world
      { world with
        store := { world.store with outOfService := world.store.outOfService.put p } }
      (.done (.ok (.outOfService p))) := by
  have hmoves : (writing p).Moves world _ _ := Moves.call (.replaceOutOfService p) _
  rwa [Call.perform_replaceOutOfService hthere] at hmoves

/-- **Whoever is about to write a period** fails, or stores it, whatever is stored by then. -/
theorem writing_moves (h : (writing p).Moves world world' q') :
    world' = world ∧ (∃ e, q' = .done (.error e)) ∨
      world'.store.outOfService = world.store.outOfService.put p ∧
        q' = .done (.ok (.outOfService p)) := by
  cases h with
  | refused c next e => exact .inl ⟨rfl, _, rfl⟩
  | call c next =>
    by_cases hthere : world.store.outOfService.contains p.id.text = true
    · rw [Call.perform_replaceOutOfService hthere]
      exact .inr ⟨rfl, rfl⟩
    · have hreplace : world.store.replaceOutOfService p = .error .notFound := if_neg hthere
      have hperform : (Call.replaceOutOfService p).perform world.store =
          (.error .notFound, world.store) := congrArg (Call.settleUnit world.store) hreplace
      rw [hperform]
      exact .inl ⟨rfl, _, rfl⟩

/-- A program that replaces no period. -/
def Apart (q : Program (Except ActionError Reply)) : Prop :=
  ∀ store, q.Amid (fun _ _ => True) (fun c _ => c.method ≠ .replaceOutOfService)
    (fun _ _ => True) store

theorem apart_done {result : Except ActionError Reply} : Apart (.done result) := fun _ => trivial

theorem not_apart_writing : ¬ Apart (writing p) := fun h => (h .empty .empty trivial).1 rfl

/-- **Where a client stands, as far as periods go.** -/
inductive Stage (store : Store) : Program (Except ActionError Reply) → Prop where
  | asked (premises : PremisesId) (id : OutOfServiceId) (today : Date) :
      Stage store (cancelling premises id today)
  | read (p : OutOfServicePeriod) (on : Date) (hp : p ∈ store.outOfService.rows) :
      Stage store (writing (p.cancelledAs on))
  | apart (q : Program (Except ActionError Reply)) (h : q.Apart) : Stage store q

end Program

/-- **A request cancels a period or is apart.** -/
theorem ServiceRequest.program_stage (request : ServiceRequest) :
    (∃ premises id today, request.program = .cancelling premises id today) ∨ request.program.Apart := by
  by_cases h : .replaceOutOfService ∈ request.methods
  · cases request with
    | linkedBooking => simp [methods, Action.methods] at h
    | action settings today wanted =>
      cases wanted with
      | cancelOutOfService premises id =>
        exact .inl ⟨premises, id, today, Program.program_cancelOutOfService⟩
      | _ => simp [methods, Action.methods] at h
  · have hother (c : Call) (_ : Store) (hc : c.method ∈ request.methods) :
        c.method ≠ .replaceOutOfService := fun e => h (e ▸ hc)
    exact .inr fun store => Program.amid_mono hother (fun _ _ h => h) (request.program_uses store)

/-! ## 3. What a step does to the periods -/

/-- **A step of a client keeps all periods, or writes one that the client has read.** -/
inductive Store.PeriodStep (store : Store) (q : Program (Except ActionError Reply)) (store' : Store) :
    Prop where
  | kept (h : store.outOfService.rows ⊆ store'.outOfService.rows)
  | written (p : OutOfServicePeriod) (on : Date) (hp : p ∈ store.outOfService.rows)
      (hq : q = .writing (p.cancelledAs on))
      (h : store'.outOfService = store.outOfService.put (p.cancelledAs on))

/-- A call of another method keeps all periods. -/
theorem Call.outOfService_subset {store : Store} {c : Call}
    (hc : c.method ≠ .replaceOutOfService) :
    store.outOfService.rows ⊆ (c.perform store).2.outOfService.rows := by
  rcases Call.perform_cases store c with e | hw
  · rw [e]
    exact fun _ hp => hp
  · generalize (c.perform store).2 = store' at hw ⊢
    cases hw with
    | replaceOutOfService p hthere => exact absurd rfl hc
    | insertOutOfService p hnew hfree =>
      refine fun p' hp' => store.outOfService.mem_put.2 (.inr ⟨hp', fun hkey => ?_⟩)
      exact Bool.false_ne_true (hnew ▸ store.outOfService.contains_iff.2 ⟨p', hp', hkey⟩)
    | _ => exact fun _ hp => hp

namespace Store.PeriodStep

variable {store store' : Store} {q : Program (Except ActionError Reply)} {p : OutOfServicePeriod}

/-- A stored period stays, or its client writes it with another date. -/
theorem mem_cases (h : store.PeriodStep q store') (hp : p ∈ store.outOfService.rows) :
    p ∈ store'.outOfService.rows ∨
      ∃ on, q = .writing (p.cancelledAs on) ∧ p.cancelledAs on ∈ store'.outOfService.rows := by
  cases h with
  | kept h => exact .inl (h hp)
  | written p' on hp' hq h =>
    rw [h]
    by_cases hkey : p.id.text = p'.id.text
    · obtain rfl := store.outOfService.key_inj_of_mem hp hp' hkey
      exact .inr ⟨on, hq, Table.mem_place_self _ _⟩
    · exact .inl (store.outOfService.mem_put.2 (.inr ⟨hp, hkey⟩))

/-- Whoever has read a period before a step has read it after the step. -/
theorem stage (h : store.PeriodStep q store') {q' : Program (Except ActionError Reply)}
    (hq' : q'.Stage store) : q'.Stage store' := by
  cases hq' with
  | asked premises id today => exact .asked premises id today
  | apart q' hq' => exact .apart q' hq'
  | read p on hp =>
    rcases h.mem_cases hp with hp | ⟨on', _, hp⟩
    · exact .read p on hp
    · exact OutOfServicePeriod.cancelledAs_cancelledAs ▸ .read (p.cancelledAs on') on hp

end Store.PeriodStep

namespace Program.Stage

variable {q q' : Program (Except ActionError Reply)} {world world' : World}

/-- **What a client does to the periods by one step**, and where it stands then. -/
theorem move (h : q.Stage world.store) (hm : q.Moves world world' q') :
    world.store.PeriodStep q world'.store ∧
      (q'.Apart ∨ ∃ p ∈ world.store.outOfService.rows, p.isCancelled = false ∧
        ∃ on, q' = writing (p.cancelledAs on)) := by
  cases h with
  | asked premises id today =>
    obtain ⟨rfl, ⟨e, rfl⟩ | ⟨p, hp, _, ⟨_, rfl⟩ | ⟨hlive, rfl⟩⟩⟩ := cancelling_moves hm
    · exact ⟨.kept (List.Subset.refl _), .inl apart_done⟩
    · exact ⟨.kept (List.Subset.refl _), .inl apart_done⟩
    · exact ⟨.kept (List.Subset.refl _), .inr ⟨p, hp, hlive, today, rfl⟩⟩
  | read p on hp =>
    obtain ⟨rfl, e, rfl⟩ | ⟨hwritten, rfl⟩ := writing_moves hm
    · exact ⟨.kept (List.Subset.refl _), .inl apart_done⟩
    · exact ⟨.written p on hp rfl hwritten, .inl apart_done⟩
  | apart q h =>
    refine ⟨.kept ?_, .inl fun store => ?_⟩
    · rcases ((h world.store).move trivial hm).2 with e | ⟨c, hc, e⟩
      · rw [e]
        exact List.Subset.refl _
      · rw [e]
        exact Call.outOfService_subset hc
    · exact ((h world.store).move trivial hm).1.wait (fun _ _ _ _ _ => trivial) (fun _ _ => trivial)
        trivial

end Program.Stage
/-! ## 4. Runs -/

namespace System

variable {world : World} {s t : System} {p : OutOfServicePeriod} {days : Set Date}

/-- Where clients stand in all states that they reach. -/
def Staged (s : System) : Prop := ∀ q ∈ s.clients, q.Stage s.world.store

theorem Staged.step (h : s.Staged) (hs : Step s t) : t.Staged := by
  intro q hq
  cases hs with
  | arrive request =>
    rcases List.mem_append.1 hq with hq | hq
    · exact h q hq
    · obtain rfl := List.mem_singleton.1 hq
      obtain ⟨premises, id, today, e⟩ | hapart := request.program_stage
      · exact e ▸ .asked premises id today
      · exact .apart _ hapart
  | move i q₀ q' world' hi hm =>
    obtain ⟨hperiods, hnext⟩ := (h q₀ (List.mem_of_getElem? hi)).move hm
    rcases List.mem_or_eq_of_mem_set hq with hq | rfl
    · exact hperiods.stage (h q hq)
    · obtain hapart | ⟨p, hp, _, on, rfl⟩ := hnext
      · exact .apart _ hapart
      · exact hperiods.stage (.read p on hp)

theorem Reaches.staged (h : (idle world).Reaches s) : s.Staged := by
  induction h with
  | start => exact fun q hq => absurd hq List.not_mem_nil
  | step s t _ hs ih => exact ih.step hs

/-- The dates on which a period is cancelled, or on which clients that have read it are about to cancel
    it. -/
def dates (s : System) (p : OutOfServicePeriod) : Set Date :=
  {on | p.cancelledOn = some on ∨ .writing (p.cancelledAs on) ∈ s.clients}

/-- **A period is cancelled on one of some dates**, and nobody is about to cancel it on another one. -/
structure Redated (p : OutOfServicePeriod) (days : Set Date) (s : System) : Prop where
  staged : s.Staged
  stored : ∃ on ∈ days, p.cancelledAs on ∈ s.world.store.outOfService.rows
  clients : ∀ on, .writing (p.cancelledAs on) ∈ s.clients → on ∈ days

theorem Staged.redated (h : s.Staged) (hp : p ∈ s.world.store.outOfService.rows)
    (hcancelled : p.isCancelled = true) : s.Redated p (s.dates p) := by
  obtain ⟨on, hon⟩ := Option.isSome_iff_exists.1 hcancelled
  have hself := OutOfServicePeriod.cancelledAs_eq_self hon
  exact ⟨h, ⟨on, .inl hon, hself.symm ▸ hp⟩, fun _ hwriting => .inr hwriting⟩

/-- A client that reads the period finds it cancelled. -/
theorem Redated.eq_of_id (h : s.Redated p days) {p' : OutOfServicePeriod}
    (hp' : p' ∈ s.world.store.outOfService.rows) (hid : p'.id = p.id) :
    ∃ on ∈ days, p' = p.cancelledAs on := by
  obtain ⟨on, hon, hstored⟩ := h.stored
  exact ⟨on, hon, s.world.store.outOfService.key_inj_of_mem hp' hstored (congrArg Id.text hid)⟩

theorem Redated.step (h : s.Redated p days) (hs : Step s t) : t.Redated p days := by
  have hstaged := h.staged.step hs
  cases hs with
  | arrive request =>
    refine ⟨hstaged, h.stored, fun on hwriting => ?_⟩
    rcases List.mem_append.1 hwriting with hwriting | hwriting
    · exact h.clients on hwriting
    · have hprogram := (List.mem_singleton.1 hwriting).symm
      obtain ⟨premises, id, today, e⟩ | hapart := request.program_stage
      · cases e.symm.trans hprogram
      · exact absurd (hprogram ▸ hapart) Program.not_apart_writing
  | move i q q' world' hi hm =>
    have hq := List.mem_of_getElem? hi
    obtain ⟨hperiods, hnext⟩ := (h.staged q hq).move hm
    refine ⟨hstaged, ?_, fun on hwriting => ?_⟩
    · obtain ⟨on, hon, hstored⟩ := h.stored
      obtain hkept | ⟨on', hwriting, hwritten⟩ := hperiods.mem_cases hstored
      · exact ⟨on, hon, hkept⟩
      · exact ⟨on', h.clients on' (hwriting ▸ hq), hwritten⟩
    · rcases List.mem_or_eq_of_mem_set hwriting with hwriting | rfl
      · exact h.clients on hwriting
      · obtain hapart | ⟨p', hp', hlive, on', e⟩ := hnext
        · exact absurd hapart Program.not_apart_writing
        · -- the one that is read is the one that is stored, and that is cancelled
          have hsame := Program.writing_inj e
          have hid : p'.id = p.id := by
            rw [← OutOfServicePeriod.cancelledAs_id, ← hsame, OutOfServicePeriod.cancelledAs_id]
          obtain ⟨on'', _, rfl⟩ := h.eq_of_id hp' hid
          rw [OutOfServicePeriod.isCancelled_cancelledAs] at hlive
          cases hlive

theorem Redated.reaches (h : s.Redated p days) (ht : s.Reaches t) : t.Redated p days := by
  induction ht with
  | start => exact h
  | step t u _ hs ih => exact ih.step hs

/-- **What every step of a client keeps up** holds of the client as long as the run goes on. -/
theorem Reaches.client {Inv : System → Prop} {P : Program (Except ActionError Reply) → Prop}
    (hstep : ∀ s t, Inv s → Step s t → Inv t)
    (hmove : ∀ s q q' world', Inv s → P q → q.Moves s.world world' q' → P q')
    (hs : Inv s) {i : Nat} {q : Program (Except ActionError Reply)} (hi : s.clients[i]? = some q)
    (hq : P q) (h : s.Reaches t) : ∃ q', t.clients[i]? = some q' ∧ P q' := by
  suffices Inv t ∧ ∃ q', t.clients[i]? = some q' ∧ P q' from this.2
  induction h with
  | start => exact ⟨hs, q, hi, hq⟩
  | step t u _ hstepped ih =>
    obtain ⟨hinv, q', hi', hq'⟩ := ih
    refine ⟨hstep t u hinv hstepped, ?_⟩
    rcases hstepped.client_cases hi' with hsame | hown
    · exact ⟨q', hsame, hq'⟩
    · cases hown with
      | move p p' world' hi'' hm =>
        obtain rfl := Option.some.inj (hi''.symm.trans hi')
        exact ⟨p', List.getElem?_set_self (List.getElem?_eq_some_iff.1 hi').1,
          hmove t p p' world' hinv hq' hm⟩

end System

/-! ## 5. What clients are told -/

namespace Program

variable {q q' : Program (Except ActionError Reply)} {world world' : World}

/-- A client that wants the period with an identifier to be cancelled, or has ended. -/
inductive Cancels (id : OutOfServiceId) : Program (Except ActionError Reply) → Prop where
  | asked (premises : PremisesId) (today : Date) : Cancels id (cancelling premises id today)
  | read (p : OutOfServicePeriod) (hid : p.id = id) : Cancels id (writing p)
  | ended (result : Except ActionError Reply) : Cancels id (.done result)

theorem Cancels.move {id : OutOfServiceId} (h : q.Cancels id) (hm : q.Moves world world' q') :
    q'.Cancels id := by
  cases h with
  | asked premises today =>
    obtain ⟨_, ⟨e, rfl⟩ | ⟨p, _, hid, ⟨_, rfl⟩ | ⟨_, rfl⟩⟩⟩ := cancelling_moves hm
    · exact .ended _
    · exact .ended _
    · exact .read _ hid
  | read p hid =>
    obtain ⟨_, e, rfl⟩ | ⟨_, rfl⟩ := writing_moves hm
    · exact .ended _
    · exact .ended _
  | ended result => nomatch hm

/-- A client that wants a period to be cancelled, and is answered with one of some dates. -/
inductive Answered (p : OutOfServicePeriod) (days : Set Date) :
    Program (Except ActionError Reply) → Prop where
  | asked (premises : PremisesId) (today : Date) : Answered p days (cancelling premises p.id today)
  | read (on : Date) (hon : on ∈ days) : Answered p days (writing (p.cancelledAs on))
  | replied (on : Date) (hon : on ∈ days) :
      Answered p days (.done (.ok (.outOfService (p.cancelledAs on))))
  | failed (e : ActionError) : Answered p days (.done (.error e))

end Program

namespace System.Redated

variable {s : System} {p : OutOfServicePeriod} {days : Set Date}
  {q q' : Program (Except ActionError Reply)}

theorem answered_move {world' : World} (h : s.Redated p days) (hq : q.Answered p days)
    (hm : q.Moves s.world world' q') : q'.Answered p days := by
  cases hq with
  | asked premises today =>
    obtain ⟨_, ⟨e, rfl⟩ | ⟨p', hp', hid, hread⟩⟩ := Program.cancelling_moves hm
    · exact .failed e
    · obtain ⟨on, hon, rfl⟩ := h.eq_of_id hp' hid
      obtain ⟨_, rfl⟩ | ⟨hlive, _⟩ := hread
      · exact .replied on hon
      · cases hlive
  | read on hon =>
    obtain ⟨_, e, rfl⟩ | ⟨_, rfl⟩ := Program.writing_moves hm
    · exact .failed e
    · exact .replied on hon
  | replied on hon => nomatch hm
  | failed e => nomatch hm

/-- Whoever wants a period to be cancelled that is cancelled by now has read it before, if it has read
    it. -/
theorem answered (h : s.Redated p days) (hq : q ∈ s.clients) (hcancels : q.Cancels p.id)
    (hgoes : ∀ result, q ≠ .done result) : q.Answered p days := by
  cases hcancels with
  | asked premises today => exact .asked premises today
  | ended result => exact absurd rfl (hgoes result)
  | read p' hid =>
    generalize hwriting : Program.writing p' = q at hq
    cases h.staged q hq with
    | asked premises id today => cases hwriting
    | apart q hapart => exact absurd (hwriting ▸ hapart) Program.not_apart_writing
    | read p₀ on hp₀ =>
      obtain rfl := Program.writing_inj hwriting
      obtain ⟨on', _, rfl⟩ := h.eq_of_id hp₀ hid
      exact .read on (h.clients on hq)

end System.Redated

/-! ## 6. Cancelling again -/

namespace System

variable {world : World} {s : System} {p : OutOfServicePeriod}

/-- **Every date on which somebody is about to cancel a period can come to be the stored one.** -/
theorem reaches_date (hp : p ∈ s.world.store.outOfService.rows) (hcancelled : p.isCancelled = true)
    {on : Date} (hon : on ∈ s.dates p) :
    ∃ t, s.Reaches t ∧ p.cancelledAs on ∈ t.world.store.outOfService.rows ∧
      .done (.ok (.outOfService (p.cancelledAs on))) ∈ t.clients := by
  obtain hon | hwriting := hon
  · rw [OutOfServicePeriod.cancelledAs_eq_self hon]
    let request : ServiceRequest := .action .default .first (.cancelOutOfService p.premisesId p.id)
    have hlast : (s.clients ++ [request.program])[s.clients.length]? =
        some (.cancelling p.premisesId p.id .first) :=
      List.getElem?_concat_length.trans (congrArg some Program.program_cancelOutOfService)
    refine ⟨_, .step _ _ (.step _ _ .start (.arrive s request)) (.move _ s.clients.length _ _ _ hlast
      (Program.cancelling_replies hp hcancelled)), hp, ?_⟩
    exact List.mem_set (List.getElem?_eq_some_iff.1 hlast).1 _
  · obtain ⟨i, hi⟩ := List.mem_iff_getElem?.1 hwriting
    have hthere : s.world.store.outOfService.contains p.id.text = true :=
      s.world.store.outOfService.contains_iff.2 ⟨p, hp, rfl⟩
    refine ⟨_, .step _ _ .start (.move s i _ _ _ hi (Program.writing_stores hthere)),
      Table.mem_place_self _ _, ?_⟩
    exact List.mem_set (List.getElem?_eq_some_iff.1 hi).1 _

/-- **A date is final** exactly if nobody is about to cancel the period on another one. -/
theorem Staged.final_iff (h : s.Staged) (hp : p ∈ s.world.store.outOfService.rows) {on : Date}
    (hon : p.cancelledOn = some on) :
    (∀ t, s.Reaches t → p ∈ t.world.store.outOfService.rows) ↔ s.dates p = {on} := by
  have hself := OutOfServicePeriod.cancelledAs_eq_self hon
  have hcancelled : p.isCancelled = true := Option.isSome_iff_exists.2 ⟨on, hon⟩
  constructor
  · intro hfinal
    refine Set.eq_singleton_iff_unique_mem.2 ⟨.inl hon, fun on' hon' => ?_⟩
    obtain ⟨t, ht, hstored, _⟩ := reaches_date hp hcancelled hon'
    have hsame : p.cancelledAs on' = p :=
      t.world.store.outOfService.key_inj_of_mem hstored (hfinal t ht) rfl
    rw [← hsame] at hon
    exact Option.some.inj hon
  · intro hdates t ht
    obtain ⟨on', hon', hstored⟩ := ((h.redated hp hcancelled).reaches ht).stored
    rw [hdates, Set.mem_singleton_iff] at hon'
    rwa [hon', hself] at hstored

/-- **A period stays cancelled, but not on its date.** The period that is cancelled in a state stays
    cancelled in all that follows, with nothing changed but the date, and the date is always the one that
    it has or one on which a client is about to cancel it that has read it before. One of these is what
    every client is told whose call to cancel it is under way then or comes later, unless the call fails.
    Each of them can be stored and told, so that the date is final only if there is no other one. -/
theorem reaches_redated (h : (idle world).Reaches s) (hp : p ∈ s.world.store.outOfService.rows)
    (hcancelled : p.isCancelled = true) :
    (∀ t, s.Reaches t → ∃ on ∈ s.dates p, p.cancelledAs on ∈ t.world.store.outOfService.rows) ∧
    (∀ (r t u : System) (i : Nat) settings today premises,
      r.clients[i]? =
        some (ServiceRequest.action settings today (.cancelOutOfService premises p.id)).program →
      r.Reaches t → s.Reaches t → (∀ result, t.clients[i]? ≠ some (.done result)) → t.Reaches u →
      ∀ reply, u.clients[i]? = some (.done (.ok reply)) →
        ∃ on ∈ s.dates p, reply = .outOfService (p.cancelledAs on)) ∧
    (∀ on ∈ s.dates p, ∃ t, s.Reaches t ∧ p.cancelledAs on ∈ t.world.store.outOfService.rows ∧
      .done (.ok (.outOfService (p.cancelledAs on))) ∈ t.clients) ∧
    ∀ on, p.cancelledOn = some on →
      ((∀ t, s.Reaches t → p ∈ t.world.store.outOfService.rows) ↔ s.dates p = {on}) := by
  have hs : s.Redated p (s.dates p) := h.staged.redated hp hcancelled
  refine ⟨fun t ht => (hs.reaches ht).stored, ?_, fun on hon => reaches_date hp hcancelled hon,
    fun on hon => h.staged.final_iff hp hon⟩
  intro r t u i settings today premises hr hrt ht hgoes hu reply hreply
  have hasked : (ServiceRequest.action settings today
      (.cancelOutOfService premises p.id)).program.Cancels p.id :=
    Program.program_cancelOutOfService ▸ .asked premises today
  obtain ⟨q, hq, hcancels⟩ := hrt.client (P := Program.Cancels p.id) (fun _ _ _ _ => trivial)
    (fun _ _ _ _ _ => Program.Cancels.move) trivial hr hasked
  have hanswered : q.Answered p (s.dates p) :=
    (hs.reaches ht).answered (List.mem_of_getElem? hq) hcancels fun result e => hgoes result (e ▸ hq)
  obtain ⟨q', hq', hanswered⟩ := hu.client (fun _ _ => Redated.step)
    (fun _ _ _ _ => Redated.answered_move) (hs.reaches ht) hq hanswered
  obtain rfl := Option.some.inj (hq'.symm.trans hreply)
  cases hanswered with
  | replied on hon => exact ⟨on, hon, rfl⟩

/-- The day of the cancellation that a client is told of, once it has ended. -/
def toldDay? : Program (Except ActionError Reply) → Option Date
  | .done (.ok (.outOfService p)) => p.cancelledOn
  | _ => none

/-- Whether a client has ended. -/
def hasEnded : Program (Except ActionError Reply) → Bool
  | .done _ => true
  | _ => false

/-- A bed is taken out of service, and two clients want that cancelled, on different days. -/
def twoCancel : System :=
  let period : OutOfServiceId := .numbered .outOfService 1
  arrived .oneBed
    [.action .default .first (.takeOutOfService ⟨"premises-1"⟩
      ⟨⟨"bed-1"⟩, .first, Date.first.later 4, "Burst pipe", none⟩),
    .action .default (Date.first.later 1) (.cancelOutOfService ⟨"premises-1"⟩ period),
    .action .default (Date.first.later 2) (.cancelOutOfService ⟨"premises-1"⟩ period)]

/-- Both have read the period, and one of them has written it. -/
def cancelledOnce : System := twoCancel.follow [0, 0, 0, 0, 0, 1, 2, 1]

/-- The other one has written it as well. -/
def cancelledTwice : System := cancelledOnce.follow [2]

theorem reaches_cancelledOnce : twoCancel.Reaches cancelledOnce := reaches_follow .start _

theorem reaches_cancelledTwice : cancelledOnce.Reaches cancelledTwice := reaches_follow .start _

theorem cancelledOnce_redated :
    ∃ p ∈ cancelledOnce.world.store.outOfService.rows, p.isCancelled = true ∧
      (∀ t, cancelledOnce.Reaches t →
        ∃ on ∈ cancelledOnce.dates p, p.cancelledAs on ∈ t.world.store.outOfService.rows) ∧
      (∀ reply, cancelledTwice.clients[2]? = some (.done (.ok reply)) →
        ∃ on ∈ cancelledOnce.dates p, reply = .outOfService (p.cancelledAs on)) ∧
      (∀ on ∈ cancelledOnce.dates p, ∃ t, cancelledOnce.Reaches t ∧
        p.cancelledAs on ∈ t.world.store.outOfService.rows ∧
        .done (.ok (.outOfService (p.cancelledAs on))) ∈ t.clients) ∧
      ((∀ t, cancelledOnce.Reaches t → p ∈ t.world.store.outOfService.rows) ↔
        cancelledOnce.dates p = {Date.first.later 1}) := by
  have hstored : (cancelledOnce.world.store.outOfService.rows.any fun p =>
      p.id = .numbered .outOfService 1 && p.cancelledOn = some (Date.first.later 1)) = true := by
    decide +kernel
  obtain ⟨p, hp, hfacts⟩ := List.any_eq_true.1 hstored
  rw [Bool.and_eq_true, decide_eq_true_eq, decide_eq_true_eq] at hfacts
  obtain ⟨hid, hon⟩ := hfacts
  have hcancelled : p.isCancelled = true := Option.isSome_iff_exists.2 ⟨_, hon⟩
  have hgoes : cancelledOnce.clients[2]?.any hasEnded = false := by
    decide +kernel
  obtain ⟨hlater, hreplies, hdates, hfinal⟩ :=
    reaches_redated ((reaches_arrived _ _).trans reaches_cancelledOnce) hp hcancelled
  refine ⟨p, hp, hcancelled, hlater, ?_, hdates, hfinal _ hon⟩
  refine hreplies twoCancel cancelledOnce cancelledTwice 2 .default (Date.first.later 2)
    ⟨"premises-1"⟩ (hid ▸ rfl) reaches_cancelledOnce .start (fun result e => ?_) reaches_cancelledTwice
  rw [e] at hgoes
  cases hgoes

/-- **A cancelled period is cancelled again.** The day on which a period is cancelled gives way to
    another one, and two clients are told different days. -/
theorem cancelledTwice_overwritten :
    (idle .oneBed).Reaches cancelledOnce ∧ cancelledOnce.Reaches cancelledTwice ∧
      cancelledOnce.world.store.outOfService.rows.map (fun p => (p.id, p.cancelledOn)) =
        [(.numbered .outOfService 1, some (Date.first.later 1))] ∧
      cancelledTwice.world.store.outOfService.rows.map (fun p => (p.id, p.cancelledOn)) =
        [(.numbered .outOfService 1, some (Date.first.later 2))] ∧
      cancelledTwice.clients.map toldDay? =
        [none, some (Date.first.later 1), some (Date.first.later 2)] :=
  ⟨(reaches_arrived _ _).trans reaches_cancelledOnce, reaches_cancelledTwice, by decide +kernel,
    by decide +kernel, by decide +kernel⟩

end System

end Bedspace
