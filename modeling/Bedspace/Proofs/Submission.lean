import Bedspace.Proofs.Decisions
import Bedspace.Proofs.WritesLast

/-!
# Submissions that fail

A submission writes twice: it marks the application, which only one of several submissions can do,
and then saves the tree with the first assessment. If it fails in between, the mark stays.

* `Store.Stranded` says of an application that it was marked and has no assessment;
* `Applications.run_submit_of_unmarked` and `Applications.run_submit_of_marked` say what a
  submission that is carried out alone comes to, whatever methods are out of order;
* `System.NobodyAllocates.strandedForGood`: an application that is stranded stays so, unless some
  client still has the right to allocate its first assessment;
* `System.Submitting` is where a client stands that submits an application amid others; once it has
  marked it, nobody else can allocate the first assessment (`System.Allocating`), so if it fails the
  application is stranded for good (`System.Allocating.strandedForGood`);
* **`System.reaches_failedSubmission`**: a submission that fails has changed nothing, or has left
  the application stranded for good.
-/

namespace Bedspace

/-! ## 1. Applications without an assessment -/

namespace Store

/-- An application is still in progress. -/
def InProgress (store : Store) (id : ApplicationId) : Prop :=
  ∃ a ∈ store.applications.rows, a.id = id ∧ a.status = .inProgress

/-- **An application is not in progress any more, and has no assessment.** -/
structure Stranded (store : Store) (id : ApplicationId) : Prop where
  submitted : ∃ a ∈ store.applications.rows, a.id = id ∧ a.status ≠ .inProgress
  unassessed : ∀ x ∈ store.assessments.rows, x.applicationId ≠ id

/-- The store with one of its applications turned into a submitted one. -/
def withSubmitted (store : Store) (a : Application) (on : Date) : Store :=
  { store with
    applications := store.applications.put { a with status := .submitted, submittedOn := some on } }

variable {store : Store} {id : ApplicationId}

/-- The right to allocate the first assessment would hold good. -/
theorem stranded_iff {world : World} :
    world.store.Stranded id ↔ (Right.allocation id).Valid world :=
  ⟨fun h => ⟨h.submitted, h.unassessed⟩, fun h => ⟨h.1, h.2⟩⟩

theorem inProgress_iff :
    store.InProgress id ↔
      ∃ a, store.applications.find? id.text = some a ∧ a.status = .inProgress := by
  constructor
  · rintro ⟨a, ha, rfl, hstatus⟩
    exact ⟨a, store.applications.find?_eq_some_iff.2 ⟨ha, rfl⟩, hstatus⟩
  · rintro ⟨a, hfind, hstatus⟩
    obtain ⟨ha, hid⟩ := store.applications.find?_eq_some_iff.1 hfind
    exact ⟨a, ha, congrArg Id.mk hid, hstatus⟩

theorem Stranded.not_inProgress (h : store.Stranded id) : ¬ store.InProgress id := by
  rintro ⟨a, ha, hid, hstatus⟩
  exact not_submitted_of_inProgress ha hid hstatus h.submitted

theorem perform_markSubmitted_of_inProgress {a : Application} {on : Date}
    (hfind : store.applications.find? id.text = some a) (hstatus : a.status = .inProgress) :
    (Call.markSubmitted id on).perform store =
      (.ok { a with status := .submitted, submittedOn := some on }, store.withSubmitted a on) := by
  show Call.settle store (store.markSubmitted id on) = _
  unfold markSubmitted
  rw [hfind]
  dsimp only
  rw [if_pos hstatus]
  rfl

/-- What is not in progress cannot be marked. -/
theorem perform_markSubmitted_of_not_inProgress {on : Date} (h : ¬ store.InProgress id) :
    (Call.markSubmitted id on).perform store =
      (.error (if store.applications.contains id.text then .conflict else .notFound), store) := by
  show Call.settle store (store.markSubmitted id on) = _
  unfold markSubmitted Table.contains
  cases hfind : store.applications.find? id.text with
  | none => rfl
  | some a =>
    dsimp only
    rw [if_neg fun hstatus => h (inProgress_iff.2 ⟨a, hfind, hstatus⟩)]
    rfl

/-- An application that was in progress is stranded by the mark. -/
theorem stranded_withSubmitted {a : Application} {on : Date}
    (hfind : store.applications.find? id.text = some a)
    (hnone : ∀ x ∈ store.assessments.rows, x.applicationId ≠ id) :
    (store.withSubmitted a on).Stranded id where
  submitted := by
    obtain ⟨_, hid⟩ := store.applications.find?_eq_some_iff.1 hfind
    exact ⟨_, Table.mem_place_self _ _, congrArg Id.mk hid, fun e => nomatch e⟩
  unassessed := hnone

/-- The mark can be told from the store as it was. -/
theorem withSubmitted_ne {a : Application} {on : Date}
    (hfind : store.applications.find? id.text = some a) (hstatus : a.status = .inProgress) :
    store.withSubmitted a on ≠ store := by
  obtain ⟨ha, _⟩ := store.applications.find?_eq_some_iff.1 hfind
  intro e
  have hmarked : { a with status := .submitted, submittedOn := some on } ∈
      (store.withSubmitted a on).applications.rows :=
    Table.mem_place_self _ _
  rw [e] at hmarked
  have hsame := store.applications.key_inj_of_mem hmarked ha rfl
  rw [← hsame] at hstatus
  cases hstatus

end Store

/-- An application that is in progress has no assessment. -/
theorem World.Sound.unassessed {world : World} (h : world.Sound) {id : ApplicationId}
    (hid : world.store.InProgress id) :
    ∀ x ∈ world.store.assessments.rows, x.applicationId ≠ id := by
  obtain ⟨a, ha, rfl, hstatus⟩ := hid
  exact h.unsubmitted a ha hstatus

/-! ## 2. A submission carried out alone -/

namespace Applications

open Operation

variable {faults : Faults} {world : World} {id : ApplicationId} {today : Date}

/-- What a submission does once it has marked the application. -/
def allocateFirst (id : ApplicationId) (today : Date) : Operation ApplicationError Tree := do
  let snapshot ← findTree id
  let assessmentId ← issue .assessment
  let tree := snapshot.addAssessment (Tree.newAssessment assessmentId id today)
  save snapshot tree
  pure tree

theorem submit_eq : submit id today =
    (call (.ofSubmission id) (.markSubmitted id today) >>= fun _ => allocateFirst id today) := rfl

theorem writesLast_allocateFirst : (allocateFirst id today).WritesLast :=
  readsOnly_findTree.andThen fun _ => readsOnly_issue.andThen fun _ => writesLast_save

/-- A submission that cannot mark the application fails and changes nothing. -/
theorem run_submit_of_unmarked
    (h : ¬ (faults .markSubmitted = none ∧ world.store.InProgress id)) :
    ∃ e, (submit id today).run faults world = (.error e, world) := by
  cases hfault : faults .markSubmitted with
  | some e =>
    have hmethod : faults (Call.markSubmitted id today).method = some e := hfault
    exact ⟨.ofSubmission id e, run_bind_of_error (run_call_of_fault hmethod)⟩
  | none =>
    have hmethod : faults (Call.markSubmitted id today).method = none := hfault
    have hnot : ¬ world.store.InProgress id := fun hin => h ⟨hfault, hin⟩
    refine ⟨.ofSubmission id
      (if world.store.applications.contains id.text then .conflict else .notFound),
      run_bind_of_error ?_⟩
    rw [run_call_of_no_fault hmethod, Store.perform_markSubmitted_of_not_inProgress hnot]
    rfl

/-- Once an application is stranded, a submission is told that it was submitted before. -/
theorem run_submit_of_stranded (h : world.store.Stranded id) :
    (submit id today).run .none world = (.error (.alreadySubmitted id), world) := by
  obtain ⟨a, ha, hid, _⟩ := h.submitted
  have hthere : world.store.applications.contains id.text = true :=
    world.store.applications.contains_iff.2 ⟨a, ha, congrArg Id.text hid⟩
  refine run_bind_of_error ?_
  rw [run_call_of_no_fault rfl,
    Store.perform_markSubmitted_of_not_inProgress h.not_inProgress, hthere]
  rfl

/-- **A submission that marks the application and fails leaves the mark and nothing else**: what
    comes after the mark writes last. -/
theorem run_submit_of_marked {a : Application} (hfault : faults .markSubmitted = none)
    (hfind : world.store.applications.find? id.text = some a) (hstatus : a.status = .inProgress)
    {e : ApplicationError} (hfails : ((submit id today).run faults world).1 = .error e) :
    ((submit id today).run faults world).2.store = world.store.withSubmitted a today := by
  have hmark : (call (ApplicationError.ofSubmission id) (.markSubmitted id today)).run faults world
      = (.ok { a with status := .submitted, submittedOn := some today },
        { world with store := world.store.withSubmitted a today }) := by
    have hmethod : faults (Call.markSubmitted id today).method = none := hfault
    rw [run_call_of_no_fault hmethod, Store.perform_markSubmitted_of_inProgress hfind hstatus]
    rfl
  rw [submit_eq, run_bind_of_ok hmark] at hfails ⊢
  exact writesLast_allocateFirst.store_eq hfails

end Applications

/-! ## 3. Who may allocate -/

/-- A program that neither has nor can come to have by its own steps the right to allocate the first
    assessment of an application that is past being submitted. -/
def Program.NeverAllocates (p : Program (Except ActionError Reply)) (id : ApplicationId) : Prop :=
  ∃ held, p.Rightful Call.Served (fun _ _ => True) held ∧ .allocation id ∉ held

theorem ServiceRequest.program_neverAllocates (request : ServiceRequest) (id : ApplicationId) :
    request.program.NeverAllocates id := by
  refine ⟨request.rights, request.rightful, ?_⟩
  cases request with
  | action => exact Set.notMem_empty _
  | linkedBooking => exact fun h => nomatch Set.mem_singleton_iff.1 h

/-- The right to allocate comes from marking an application that is in progress only. -/
theorem Call.allocation_not_mem_leaves {store : Store} {c : Call} {a : c.Answer}
    (ha : (c.perform store).1 = .ok a) {id : ApplicationId} (hid : ¬ store.InProgress id)
    {held : Set Right} (hheld : .allocation id ∉ held) : .allocation id ∉ c.leaves held a := by
  intro hright
  rcases mem_leaves_cases ha hright with ⟨_, hold | ⟨_, _, _, _, _, e⟩⟩ | ⟨marked, on, rfl, e⟩
  · exact hheld hold
  · cases e
  · cases e
    obtain ⟨current, hfind, hstatus, _⟩ := perform_markSubmitted ha
    exact hid (Store.inProgress_iff.2 ⟨current, hfind, hstatus⟩)

namespace Program.NeverAllocates

variable {p p' : Program (Except ActionError Reply)} {world world' : World} {id : ApplicationId}

theorem done {result : Except ActionError Reply} : NeverAllocates (.done result) id :=
  ⟨∅, trivial, Set.notMem_empty _⟩

/-- **A step does not give the right to allocate** to an application that is not in progress. -/
theorem move (h : p.NeverAllocates id) (hid : ¬ world.store.InProgress id)
    (hp : p.Moves world world' p') : p'.NeverAllocates id := by
  obtain ⟨held, hrightful, hnot⟩ := h
  cases hp with
  | call c next =>
    obtain ⟨_, hok, herror⟩ := hrightful
    cases hans : (c.perform world.store).1 with
    | ok a => exact ⟨_, hok _ a hans, Call.allocation_not_mem_leaves hans hid hnot⟩
    | error e => exact ⟨held, herror e, hnot⟩
  | refused c next e => exact ⟨held, hrightful.2.2 e, hnot⟩
  | issue kind next =>
    refine ⟨_, hrightful _, ?_⟩
    rintro (e | hright)
    · cases e
    · exact hnot hright

/-- A step without the right to allocate leaves an application stranded. -/
theorem stranded {s : System} {held : Nat → Set Right} {i : Nat} (h : p.NeverAllocates id)
    (hheld : s.Entrusted held) (hi : s.clients[i]? = some p) (hid : s.world.store.Stranded id)
    (hp : p.Moves s.world world' p') : world'.store.Stranded id := by
  cases hp with
  | refused c next e => exact hid
  | issue kind next => exact hid
  | call c next =>
    obtain ⟨own, hrightful, hnot⟩ := h
    have hkept := (Store.stranded_iff.1 hid).keep (hheld.due hi).revisedBy
      fun hneeds => hnot (hrightful.1.2 hneeds)
    exact Store.stranded_iff.2 hkept

end Program.NeverAllocates

namespace System

variable {world : World} {s t : System} {id : ApplicationId}

/-- No client has, or may come to have, the right to allocate the first assessment of an application
    that is past being submitted. -/
def NobodyAllocates (s : System) (id : ApplicationId) : Prop :=
  ∀ p ∈ s.clients, p.NeverAllocates id

/-- **An application is stranded for good**: in every later state it has no assessment and is not in
    progress any more, and whoever submits it is told that it was submitted before. -/
def StrandedForGood (s : System) (id : ApplicationId) : Prop :=
  ∀ t, s.Reaches t → t.world.store.Stranded id ∧
    ∀ on, (Applications.submit id on).run .none t.world = (.error (.alreadySubmitted id), t.world)

theorem NobodyAllocates.step (h : s.NobodyAllocates id) (hid : ¬ s.world.store.InProgress id)
    (hs : Step s t) : t.NobodyAllocates id := by
  intro q hq
  cases hs with
  | arrive request =>
    rcases List.mem_append.1 hq with hq | hq
    · exact h q hq
    · exact List.mem_singleton.1 hq ▸ request.program_neverAllocates id
  | move i p p' world' hi hp =>
    rcases List.mem_or_eq_of_mem_set hq with hq | rfl
    · exact h q hq
    · exact (h p (List.mem_of_getElem? hi)).move hid hp

/-- A step leaves an application stranded if nobody has the right to allocate to it. -/
theorem Step.stranded (h : s.NobodyAllocates id) (hreach : (idle world).Reaches s)
    (h₀ : world.Sound) (hid : s.world.store.Stranded id) (hs : Step s t) :
    t.world.store.Stranded id := by
  obtain ⟨held, hheld⟩ := hreach.entrusted h₀
  cases hs with
  | arrive request => exact hid
  | move i p p' world' hi hp =>
    exact (h p (List.mem_of_getElem? hi)).stranded hheld hi hid hp

/-- **An application that is stranded stays so** in every later state, if nobody has the right to
    allocate to it. -/
theorem NobodyAllocates.strandedForGood (h : s.NobodyAllocates id)
    (hreach : (idle world).Reaches s) (h₀ : world.Sound) (hid : s.world.store.Stranded id) :
    s.StrandedForGood id := by
  intro t ht
  have hboth : t.NobodyAllocates id ∧ t.world.store.Stranded id := by
    induction ht with
    | start => exact ⟨h, hid⟩
    | step t u hr hs ih =>
      obtain ⟨hnobody, hstranded⟩ := ih
      exact ⟨hnobody.step hstranded.not_inProgress hs,
        hs.stranded hnobody (hreach.trans hr) h₀ hstranded⟩
  exact ⟨hboth.2, fun on => Applications.run_submit_of_stranded hboth.2⟩

/-- Nobody has the right to allocate to an application that is in progress. -/
theorem nobodyAllocates_of_inProgress (hreach : (idle world).Reaches s) (h₀ : world.Sound)
    (hid : s.world.store.InProgress id) : s.NobodyAllocates id := by
  obtain ⟨held, hheld⟩ := hreach.entrusted h₀
  intro p hp
  obtain ⟨i, hi⟩ := List.mem_iff_getElem?.1 hp
  refine ⟨held i, hheld.rightful i p hi, fun hright => ?_⟩
  have hstranded := Store.stranded_iff.2 (hheld.valid i _ hright)
  exact hstranded.not_inProgress hid

theorem nobodyAllocates_serve (hreach : (idle world).Reaches s) (h₀ : world.Sound)
    (hid : s.world.store.InProgress id) {faults : Faults} {request : ServiceRequest} :
    (s.serve faults request).NobodyAllocates id := by
  intro p hp
  rcases List.mem_append.1 hp with hp | hp
  · exact nobodyAllocates_of_inProgress hreach h₀ hid p hp
  · exact List.mem_singleton.1 hp ▸ .done

/-! ## 4. A submission amid other clients -/

/-- **A client has marked an application** and is the only one that may allocate its first assessment,
    which it has not done yet. -/
structure Allocating (s : System) (i : Nat) (id : ApplicationId) : Prop where
  stranded : s.world.store.Stranded id
  others : ∀ j p, s.clients[j]? = some p → j = i ∨ p.NeverAllocates id
  own : ∃ p, s.clients[i]? = some p ∧ p.WritesLast

namespace Allocating

variable {i : Nat}

theorem nobodyAllocates (h : s.Allocating i id) {result : Except ActionError Reply}
    (hi : s.clients[i]? = some (.done result)) : s.NobodyAllocates id := by
  intro p hp
  obtain ⟨j, hj⟩ := List.mem_iff_getElem?.1 hp
  rcases h.others j p hj with rfl | hnever
  · exact Option.some.inj (hi.symm.trans hj) ▸ .done
  · exact hnever

/-- **A step of any client leaves it like that**, unless the client itself ends well. -/
theorem step (h : s.Allocating i id) (hreach : (idle world).Reaches s) (h₀ : world.Sound)
    (hs : Step s t) :
    t.Allocating i id ∨ ∃ reply, t.clients[i]? = some (.done (.ok reply)) := by
  obtain ⟨q, hq, hlast⟩ := h.own
  obtain ⟨hlt, _⟩ := List.getElem?_eq_some_iff.1 hq
  cases hs with
  | arrive request =>
    refine .inl ⟨h.stranded, fun j p hj => ?_, q, (List.getElem?_append_left hlt).trans hq, hlast⟩
    rw [List.getElem?_append] at hj
    split at hj
    · exact h.others j p hj
    · have hp := List.mem_singleton.1 (List.mem_of_getElem? hj)
      exact .inr (hp ▸ request.program_neverAllocates id)
  | move j p p' world' hj hp =>
    by_cases hij : j = i
    · subst hij
      obtain rfl := Option.some.inj (hj.symm.trans hq)
      rcases hlast.move hp with ⟨hlast', hstore⟩ | ⟨reply, rfl⟩
      · refine .inl ⟨hstore.symm ▸ h.stranded, fun k q hk => ?_, p', List.getElem?_set_self hlt,
          hlast'⟩
        exact (Entrusted.getElem?_set_cases hj k q hk).imp And.left
          fun ⟨hkj, hk⟩ => (h.others k q hk).resolve_left hkj
      · exact .inr ⟨reply, List.getElem?_set_self hlt⟩
    · obtain ⟨held, hheld⟩ := hreach.entrusted h₀
      have hnever := (h.others j p hj).resolve_left hij
      refine .inl ⟨hnever.stranded hheld hj h.stranded hp, fun k q hk => ?_, q,
        (List.getElem?_set_ne hij).trans hq, hlast⟩
      rcases Entrusted.getElem?_set_cases hj k q hk with ⟨_, rfl⟩ | ⟨_, hk⟩
      · exact .inr (hnever.move h.stranded.not_inProgress hp)
      · exact h.others k q hk

theorem reaches (h : s.Allocating i id) (hreach : (idle world).Reaches s) (h₀ : world.Sound)
    (ht : s.Reaches t) :
    t.Allocating i id ∨ ∃ reply, t.clients[i]? = some (.done (.ok reply)) := by
  induction ht with
  | start => exact .inl h
  | step t u hr hs ih =>
    rcases ih with ih | ⟨reply, hi⟩
    · exact ih.step (hreach.trans hr) h₀ hs
    · exact .inr ⟨reply, hs.done hi⟩

/-- **If the client fails, the application is stranded for good.** -/
theorem strandedForGood (h : s.Allocating i id) (hreach : (idle world).Reaches s)
    (h₀ : world.Sound) (ht : s.Reaches t) {e : ActionError}
    (hfails : t.clients[i]? = some (.done (.error e))) : t.StrandedForGood id := by
  rcases h.reaches hreach h₀ ht with h | ⟨reply, hi⟩
  · exact (h.nobodyAllocates hfails).strandedForGood (hreach.trans ht) h₀ h.stranded
  · cases hi.symm.trans hfails

end Allocating

variable {settings : SearchSettings} {today : Date} {i : Nat}

/-- **The first step of a submission** fails and leaves the store as it was, or marks the application,
    which was in progress. What comes after the mark writes last. -/
theorem submission_moves {world' : World} {q : Program (Except ActionError Reply)}
    (h : (ServiceRequest.action settings today (.submit id)).program.Moves world world' q) :
    (world'.store = world.store ∧ ∃ e, q = .done (.error e)) ∨
      (∃ a, world.store.applications.find? id.text = some a ∧ a.status = .inProgress ∧
        world'.store = world.store.withSubmitted a today) ∧ q.WritesLast := by
  obtain ⟨next, hprogram, herror, hok⟩ : ∃ next : Except StoreError Application → _,
      (ServiceRequest.action settings today (.submit id)).program =
          .call (.markSubmitted id today) next ∧
        (∀ e, ∃ e', next (.error e) = .done (.error e')) ∧ ∀ a, (next (.ok a)).WritesLast :=
    ⟨_, rfl, fun _ => ⟨_, rfl⟩,
      fun _ => Action.writesLast_replying Applications.writesLast_allocateFirst⟩
  rw [hprogram] at h
  cases h with
  | refused c next e => exact .inl ⟨rfl, herror e⟩
  | call c next =>
    by_cases hid : world.store.InProgress id
    · obtain ⟨a, hfind, hstatus⟩ := Store.inProgress_iff.1 hid
      rw [Store.perform_markSubmitted_of_inProgress hfind hstatus]
      exact .inr ⟨⟨a, hfind, hstatus, rfl⟩, hok _⟩
    · rw [Store.perform_markSubmitted_of_not_inProgress hid]
      exact .inl ⟨rfl, herror _⟩

/-- **Where a client stands that submits an application.** -/
inductive Submitting (s : System) (i : Nat) (id : ApplicationId)
    (submission : Program (Except ActionError Reply)) : Prop where
  | asked (hi : s.clients[i]? = some submission)
  | allocating (h : s.Allocating i id)
  | ended (result : Except ActionError Reply) (hi : s.clients[i]? = some (.done result))

/-- The step by which a submission marks its application lets its client allocate, and nobody else. -/
theorem asked_step (hreach : (idle world).Reaches s) (h₀ : world.Sound)
    (hi : s.clients[i]? = some (ServiceRequest.action settings today (.submit id)).program)
    (hs : StepOf i s t) :
    (t.world.store = s.world.store ∧ ∃ e, t.clients[i]? = some (.done (.error e))) ∨
      (∃ a, s.world.store.applications.find? id.text = some a ∧ a.status = .inProgress ∧
        t.world.store = s.world.store.withSubmitted a today) ∧ t.Allocating i id := by
  cases hs with
  | move p p' world' hi' hp =>
    obtain rfl := Option.some.inj (hi'.symm.trans hi)
    have hlt := (List.getElem?_eq_some_iff.1 hi).1
    rcases submission_moves hp with ⟨hstore, e, rfl⟩ | ⟨⟨a, hfind, hstatus, hstore⟩, hlast⟩
    · exact .inl ⟨hstore, e, List.getElem?_set_self hlt⟩
    · have hid := Store.inProgress_iff.2 ⟨a, hfind, hstatus⟩
      obtain ⟨held, hheld⟩ := hreach.entrusted h₀
      refine .inr ⟨⟨a, hfind, hstatus, hstore⟩, ?_, fun j q hj => ?_, p',
        List.getElem?_set_self hlt, hlast⟩
      · exact hstore.symm ▸ Store.stranded_withSubmitted hfind (hheld.sound.unassessed hid)
      · exact (Entrusted.getElem?_set_cases hi j q hj).imp And.left fun ⟨_, hj⟩ =>
          nobodyAllocates_of_inProgress hreach h₀ hid q (List.mem_of_getElem? hj)

theorem Submitting.reaches (hreach : (idle world).Reaches s) (h₀ : world.Sound)
    (hi : s.clients[i]? = some (ServiceRequest.action settings today (.submit id)).program)
    (ht : s.Reaches t) :
    t.Submitting i id (ServiceRequest.action settings today (.submit id)).program := by
  induction ht with
  | start => exact .asked hi
  | step t u hr hs ih =>
    cases ih with
    | asked hi =>
      rcases hs.client_cases hi with hi | hown
      · exact .asked hi
      · rcases asked_step (hreach.trans hr) h₀ hi hown with ⟨_, e, hi⟩ | ⟨_, h⟩
        · exact .ended _ hi
        · exact .allocating h
    | allocating h =>
      rcases h.step (hreach.trans hr) h₀ hs with h | ⟨reply, hi⟩
      · exact .allocating h
      · exact .ended _ hi
    | ended result hi => exact .ended _ (hs.done hi)

/-- **Each step of a submission that fails in the end leaves the store as it was, or strands the
    application**, whatever other clients do in between. -/
theorem failed_step {t' u : System} (hreach : (idle world).Reaches s) (h₀ : world.Sound)
    (hi : s.clients[i]? = some (ServiceRequest.action settings today (.submit id)).program)
    (ht : s.Reaches t) (hown : StepOf i t t') (hu : t'.Reaches u) {e : ActionError}
    (hfails : u.clients[i]? = some (.done (.error e))) :
    t'.world.store = t.world.store ∨
      (∃ a, t.world.store.applications.find? id.text = some a ∧ a.status = .inProgress ∧
        t'.world.store = t.world.store.withSubmitted a today) ∧ u.StrandedForGood id := by
  have hreach' := hreach.trans ht
  cases Submitting.reaches hreach h₀ hi ht with
  | asked hi =>
    rcases asked_step hreach' h₀ hi hown with ⟨hstore, _⟩ | ⟨hmarked, h⟩
    · exact .inl hstore
    · exact .inr ⟨hmarked, h.strandedForGood (.step _ _ hreach' hown.step) h₀ hu hfails⟩
  | allocating h =>
    obtain ⟨q, hq, hlast⟩ := h.own
    cases hown with
    | move p p' world' hi' hp =>
      obtain rfl := Option.some.inj (hi'.symm.trans hq)
      rcases hlast.move hp with ⟨_, hstore⟩ | ⟨reply, rfl⟩
      · exact .inl hstore
      · have hdone := hu.done (List.getElem?_set_self (List.getElem?_eq_some_iff.1 hq).1)
        cases hdone.symm.trans hfails
  | ended result hi =>
    cases hown with
    | move p p' world' hi' hp =>
      cases Option.some.inj (hi.symm.trans hi')
      cases hp

/-! ## 5. What a submission leaves behind -/

/-- **A submission that fails has changed nothing, or has left the application stranded for good.**
    Carried out at once, it has changed nothing exactly if it did not come to mark the application.
    Amid other clients, each of its steps has changed nothing but the one by which it has marked the
    application. If there was such a step, the application has no assessment in any state that comes
    after the failure, whatever clients do, and every further submission is told that it was submitted
    before. -/
theorem reaches_failedSubmission (h₀ : world.store.Unused) (hs : (idle world).Reaches s)
    (settings : SearchSettings) (today : Date) (id : ApplicationId) :
    let submission := ServiceRequest.action settings today (.submit id)
    (∀ faults e, (submission.program.run faults s.world).1 = .error e →
      let after := s.serve faults submission
      (after.world.store = s.world.store ↔
        ¬ (faults .markSubmitted = none ∧ s.world.store.InProgress id)) ∧
      (after.world.store ≠ s.world.store → after.StrandedForGood id)) ∧
    ∀ i, s.clients[i]? = some submission.program → ∀ t t' u e, s.Reaches t → StepOf i t t' →
      t'.Reaches u → u.clients[i]? = some (.done (.error e)) →
        t'.world.store = t.world.store ∨
          (∃ a, t.world.store.applications.find? id.text = some a ∧ a.status = .inProgress ∧
            t'.world.store = t.world.store.withSubmitted a today) ∧ u.StrandedForGood id := by
  intro submission
  refine ⟨fun faults e hfails => ?_, fun i hi t t' u e ht hown hu hfails =>
    failed_step hs h₀.sound hi ht hown hu hfails⟩
  intro after
  have hrun : submission.program.run faults s.world =
      ((((Applications.submit id today).run faults s.world).1.map Reply.tree).mapError
        ActionError.application, ((Applications.submit id today).run faults s.world).2) :=
    Action.run_replying
  have hstore : after.world.store = ((Applications.submit id today).run faults s.world).2.store :=
    congrArg (fun r => r.2.store) hrun
  rw [hstore]
  by_cases hmarks : faults .markSubmitted = none ∧ s.world.store.InProgress id
  · obtain ⟨a, hfind, hstatus⟩ := Store.inProgress_iff.1 hmarks.2
    obtain ⟨e', hsubmit⟩ : ∃ e', ((Applications.submit id today).run faults s.world).1 =
        .error e' := Action.exists_of_run_replying_eq_error hfails
    have hmarked := Applications.run_submit_of_marked hmarks.1 hfind hstatus hsubmit
    rw [hmarked]
    have hne : s.world.store.withSubmitted a today ≠ s.world.store :=
      Store.withSubmitted_ne hfind hstatus
    refine ⟨iff_of_false hne fun hnot => hnot hmarks, fun _ => ?_⟩
    have hstranded : after.world.store.Stranded id := by
      rw [hstore, hmarked]
      obtain ⟨held, hheld⟩ := hs.entrusted h₀.sound
      exact Store.stranded_withSubmitted hfind (hheld.sound.unassessed hmarks.2)
    exact (nobodyAllocates_serve hs h₀.sound hmarks.2).strandedForGood (reaches_serve hs faults _)
      h₀.sound hstranded
  · obtain ⟨e', hsubmit⟩ : ∃ e', (Applications.submit id today).run faults s.world =
        (.error e', s.world) := Applications.run_submit_of_unmarked hmarks
    rw [hsubmit]
    exact ⟨iff_of_true rfl hmarks, fun hne => absurd rfl hne⟩

/-- The identifier of the first application. -/
def firstApplication : ApplicationId := .numbered .application 1

/-- An application is created. -/
def created : System :=
  (arrived (.ofStore .empty) [.action .default .first (.createApplication "X320741")]).follow [0, 0]

/-- Trees cannot be read. -/
def treesDown : Faults := fun method => if method = .tree then some (.unavailable "down") else none

/-- The application is submitted while trees cannot be read. -/
def halfSubmitted : System :=
  created.serve treesDown (.action .default .first (.submit firstApplication))

/-- An application is created, submitted and withdrawn. -/
def threeClients : System :=
  arrived (.ofStore .empty)
    [.action .default .first (.createApplication "X320741"),
    .action .default .first (.submit firstApplication),
    .action .default .first (.withdraw (.application firstApplication) ⟨.duplicateApplication, none⟩)]

/-- The application is there and about to be marked. -/
def aboutToMark : System := threeClients.follow [0, 0]

/-- The submission has read the tree, the withdrawal has written it, and what the submission then saves
    is out of date. -/
def outdated : System := (aboutToMark.advance 1).follow [1, 2, 2, 2, 1, 1]

/-- The failure that a client has ended with. -/
def failedWith? : Program (Except ActionError Reply) → Option ActionError
  | .done (.error e) => some e
  | _ => none

theorem failedWith?_eq_some {p : Program (Except ActionError Reply)} {e : ActionError}
    (h : failedWith? p = some e) : p = .done (.error e) := by
  unfold failedWith? at h
  split at h
  · exact Option.some.inj h ▸ rfl
  · cases h

/-- The submission has written its mark by then. -/
theorem aboutToMark_changed :
    StepOf 1 aboutToMark (aboutToMark.advance 1) ∧
      (aboutToMark.advance 1).world.store ≠ aboutToMark.world.store := by
  have hmarks : aboutToMark.world.store.applications.rows.map Application.status = [.inProgress] ∧
      (aboutToMark.advance 1).world.store.applications.rows.map Application.status =
        [.submitted] := by
    decide +kernel
  have hchanged : (aboutToMark.advance 1).world.store ≠ aboutToMark.world.store := by
    intro e
    rw [e, hmarks.1] at hmarks
    cases hmarks.2
  refine ⟨(aboutToMark.stepOf_advance 1).resolve_left fun e => hchanged ?_, hchanged⟩
  exact congrArg (fun s => s.world.store) e

/-- The submission fails, and the application stays without an assessment: trees cannot be read, or
    the tree that was read is not the one that is stored any more. -/
theorem halfSubmitted_stranded :
    halfSubmitted.world.store.applications.rows.map Application.status = [.submitted] ∧
      halfSubmitted.StrandedForGood firstApplication ∧
      outdated.clients[1]?.bind failedWith? =
        some (.application (.obstacle (.changedMeanwhile firstApplication))) ∧
      outdated.StrandedForGood firstApplication := by
  have hstatus : halfSubmitted.world.store.applications.rows.map Application.status =
      [.submitted] := by
    decide +kernel
  have hfails : ((ServiceRequest.action .default .first
      (.submit firstApplication)).program.run treesDown created.world).1 =
      .error (.application (.store (.unavailable "down"))) :=
    failure?_eq_some_iff.1 (by decide +kernel)
  have houtdated : outdated.clients[1]?.bind failedWith? =
      some (.application (.obstacle (.changedMeanwhile firstApplication))) := by
    decide +kernel
  have hcreated : (idle (.ofStore .empty)).Reaches created := reaches_follow (reaches_arrived _ _) _
  obtain ⟨hatOnce, _⟩ :=
    reaches_failedSubmission Store.unused_empty hcreated .default .first firstApplication
  have harrived : (idle (.ofStore .empty)).Reaches threeClients := reaches_arrived _ _
  obtain ⟨_, hamid⟩ :=
    reaches_failedSubmission Store.unused_empty harrived .default .first firstApplication
  refine ⟨hstatus, (hatOnce treesDown _ hfails).2 fun e => ?_, houtdated, ?_⟩
  · have hbefore : created.world.store.applications.rows.map Application.status =
        [.inProgress] := by
      decide +kernel
    have hsame := hstatus.symm.trans
      ((congrArg (fun store => store.applications.rows.map Application.status) e).trans hbefore)
    cases hsame
  · obtain ⟨p, hp, hfailure⟩ := Option.bind_eq_some_iff.1 houtdated
    have hended := hp.trans (congrArg some (failedWith?_eq_some hfailure))
    have hstep := hamid 1 rfl aboutToMark (aboutToMark.advance 1) outdated _ (reaches_follow .start _)
      aboutToMark_changed.1 (reaches_follow .start _) hended
    exact (hstep.resolve_left aboutToMark_changed.2).2

/-- **A submission that fails may leave the application submitted** and without an assessment, and
    it cannot be submitted again. -/
theorem halfSubmitted_not_undone :
    let submission := ServiceRequest.action .default .first (.submit firstApplication)
    (idle (.ofStore .empty)).Reaches created ∧
      failure? (submission.program.run treesDown created.world).1 =
        some (.application (.store (.unavailable "down"))) ∧
      created.world.store.applications.rows.map Application.status = [.inProgress] ∧
      halfSubmitted.world.store.applications.rows.map Application.status = [.submitted] ∧
      halfSubmitted.world.store.assessments.rows = [] ∧
      failure? (submission.program.run .none halfSubmitted.world).1 =
        some (.application (.alreadySubmitted firstApplication)) :=
  ⟨reaches_follow (reaches_arrived _ _) _, by decide +kernel, by decide +kernel,
    by decide +kernel, by decide +kernel, by decide +kernel⟩

end System

end Bedspace
