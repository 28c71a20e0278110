import StateFlow.Construction.Harness.Reporter

namespace StateFlow.Harness.Reporter
open Python State Mailbox Racing

/-- The sink raised on this delivery. -/
def raised (delivery : AgentStateEvent × Except Exception Unit) : Bool := !delivery.2.isOk

/-- The event of a call that will return this answer. -/
def pending (answer : Bool) : Publisher → List AgentStateEvent
  | .idle => []
  | .counting event accepted => if accepted = answer then [event] else []

section Queue
variable {P : Type} {maxQueue : Int} {reporter : Reporter P maxQueue}

/-- The events of a queue are those that the thread has taken and those that wait. -/
theorem accepted_eq (reporter : Reporter P maxQueue) :
    reporter.accepted = reporter.queue.taken.filterMap id ++ reporter.waiting := by
  rw [accepted, reporter.queue.ledger, List.filterMap_append]
  rfl

/-- The thread and `close` accept no event and count no call of a publisher. -/
structure Worked (before after : Reporter P maxQueue) : Prop where
  accepted : after.accepted = before.accepted
  publisher : after.publisher = before.publisher
  counter : after.counter = before.counter
  stopping : after.stopping = before.stopping

/-- `close` leaves the thread alone. -/
structure Sentinel (before after : Reporter P maxQueue) : Prop extends Worked before after where
  taken : after.queue.taken = before.queue.taken
  worker : after.worker = before.worker
  delivered : after.delivered = before.delivered
  failed : after.failed = before.failed

theorem sentinel_kept (reporter : Reporter P maxQueue) :
    Sentinel reporter reporter.putSentinel := by
  unfold putSentinel
  split
  · exact ⟨⟨rfl, rfl, rfl, rfl⟩, rfl, rfl, rfl, rfl⟩
  · cases offered : reporter.queue.offer none with
    | none => exact ⟨⟨rfl, rfl, rfl, rfl⟩, rfl, rfl, rfl, rfl⟩
    | some queue =>
        obtain ⟨accepted, taken, _⟩ := offer_eq_some offered
        refine ⟨⟨?_, rfl, rfl, rfl⟩, taken, rfl, rfl, rfl⟩
        show queue.accepted.filterMap id = reporter.queue.accepted.filterMap id
        simp [accepted]

theorem work_worked (outcome : Except Exception Unit) : Worked reporter (reporter.work outcome) := by
  unfold work
  split
  · exact ⟨rfl, rfl, rfl, rfl⟩
  · exact ⟨rfl, rfl, rfl, rfl⟩
  · split
    · exact ⟨rfl, rfl, rfl, rfl⟩
    · rename_i took
      exact ⟨congrArg (List.filterMap id) (take_eq_some took).2.1, rfl, rfl, rfl⟩
    · rename_i took
      exact ⟨congrArg (List.filterMap id) (take_eq_some took).2.1, rfl, rfl, rfl⟩
  · exact ⟨rfl, rfl, rfl, rfl⟩
  · exact ⟨rfl, rfl, rfl, rfl⟩

/-- The events that the thread took are those that it delivered and the one in its hand. It counted
the deliveries that raised, and it leaves its loop after the stop flag only. -/
structure Ledger (reporter : Reporter P maxQueue) : Prop where
  taken : reporter.queue.taken.filterMap id =
    reporter.delivered.map Prod.fst ++ reporter.worker.inHand
  failed : reporter.failed = reporter.delivered.countP raised
  guarded : reporter.worker = .checkEmpty ∨ reporter.worker = .exited → reporter.stopping = true

theorem ledger_work (ledger : Ledger reporter) (outcome : Except Exception Unit) :
    Ledger (reporter.work outcome) := by
  have taken := ledger.taken
  unfold work
  split
  · rename_i point
    rw [point] at taken
    refine ⟨?_, ledger.failed, ?_⟩
    · split <;> exact taken
    · cases reporter.stopping <;> simp
  · rename_i point
    rw [point] at taken
    refine ⟨?_, ledger.failed, fun _ => ledger.guarded (.inl point)⟩
    split <;> exact taken
  · rename_i point
    rw [point] at taken
    split
    · exact ⟨taken, ledger.failed, by simp⟩
    · rename_i took
      refine ⟨?_, ledger.failed, by simp⟩
      simpa [(take_eq_some took).2.2, Worker.inHand] using taken
    · rename_i took
      refine ⟨?_, ledger.failed, by simp⟩
      simpa [(take_eq_some took).2.2, Worker.inHand] using taken
  · rename_i event point
    rw [point] at taken
    refine ⟨?_, ?_, by simp⟩
    · simpa [Worker.inHand] using taken
    · cases outcome with
      | ok value => simp [ledger.failed, raised, Except.isOk, Except.toBool]
      | error exception => simp [ledger.failed, raised, Except.isOk, Except.toBool]
  · exact ledger

/-- The deliveries follow the order of the queue, and a counter shows operations that were made. -/
structure Sound (reporter : Reporter P maxQueue) : Prop extends Ledger reporter where
  served : ∀ answer, Served (fun count _ => count + 1) 0 (reporter.counter answer)
  counting : ∀ thread, ∀ event ∈ pending true (reporter.publisher thread),
    event ∈ reporter.accepted
  returned : ∀ event ∈ reporter.returned true, event ∈ reporter.accepted

theorem sound_sentinel (sound : Sound reporter) : Sound reporter.putSentinel := by
  have kept := sentinel_kept reporter
  refine ⟨⟨?_, ?_, ?_⟩, ?_, ?_, ?_⟩
  · rw [kept.taken, kept.delivered, kept.worker]
    exact sound.taken
  · rw [kept.failed, kept.delivered]
    exact sound.failed
  · rw [kept.worker, kept.stopping]
    exact sound.guarded
  · rw [kept.counter]
    exact sound.served
  · rw [kept.publisher, kept.accepted]
    exact sound.counting
  · rw [Reporter.returned, kept.counter, kept.accepted]
    exact sound.returned

theorem sound_work (sound : Sound reporter) (outcome : Except Exception Unit) :
    Sound (reporter.work outcome) := by
  have worked : Worked reporter (reporter.work outcome) := work_worked outcome
  refine ⟨ledger_work sound.toLedger outcome, ?_, ?_, ?_⟩
  · rw [worked.counter]
    exact sound.served
  · rw [worked.publisher, worked.accepted]
    exact sound.counting
  · rw [Reporter.returned, worked.counter, worked.accepted]
    exact sound.returned

theorem sound_fresh : Sound (fresh : Reporter P maxQueue) where
  taken := rfl
  failed := rfl
  guarded left := by simp [fresh] at left
  served _ := served_fresh
  counting _ _ inside := by cases inside
  returned _ inside := by cases inside

/-- A counter of one publisher shows all its calls. -/
structure Counted (reporter : Reporter P maxQueue) : Prop where
  exact : ∀ answer, Exact (fun count _ => count + 1) 0 (reporter.counter answer)
  logged : ∀ thread,
    reporter.accepted = reporter.returned true ++ pending true (reporter.publisher thread)

theorem counted_fresh : Counted (fresh : Reporter P maxQueue) :=
  ⟨fun _ => exact_fresh, fun _ => rfl⟩

end Queue

section Publishers
variable {P : Type} [DecidableEq P] {maxQueue : Int} {reporter : Reporter P maxQueue}

/-- An offer counts its event as accepted exactly when the queue took it. -/
theorem offer_cases (reporter : Reporter P maxQueue) (thread : P) (event : AgentStateEvent) :
    reporter.offer thread event = reporter ∨
    (reporter.publisher thread = .idle ∧ ∃ answer queue,
      reporter.offer thread event =
        { reporter with
          queue := queue
          publisher := Function.update reporter.publisher thread (.counting event answer) } ∧
      queue.taken = reporter.queue.taken ∧
      queue.accepted.filterMap id =
        reporter.accepted ++ pending true (.counting event answer)) := by
  unfold offer
  split
  · rename_i idle offered
    obtain ⟨accepted, taken, _⟩ := offer_eq_some offered
    refine .inr ⟨idle, true, _, rfl, taken, ?_⟩
    simp [accepted, Reporter.accepted, pending]
  · rename_i idle refused
    exact .inr ⟨idle, false, reporter.queue, rfl, rfl, by simp [Reporter.accepted, pending]⟩
  · exact .inl rfl

/-- A publisher that counts reads its counter first. -/
theorem readCount_cases (reporter : Reporter P maxQueue) (thread : P) :
    reporter.readCount thread = reporter ∨
    ∃ event answer, reporter.publisher thread = .counting event answer ∧
      reporter.readCount thread =
        { reporter with
          counter := Function.update reporter.counter answer
            ((reporter.counter answer).read thread) } := by
  unfold readCount
  split
  · exact .inl rfl
  · rename_i event answer counting
    split
    · exact .inl rfl
    · exact .inr ⟨event, answer, counting, rfl⟩

/-- A publisher returns with the write of its counter. -/
theorem writeCount_cases (reporter : Reporter P maxQueue) (thread : P) :
    reporter.writeCount thread = reporter ∨
    ∃ event answer seen, reporter.publisher thread = .counting event answer ∧
      (reporter.counter answer).held thread = some seen ∧
      reporter.writeCount thread =
        { reporter with
          counter := Function.update reporter.counter answer
            ((reporter.counter answer).write (fun count _ => count + 1) thread event)
          publisher := Function.update reporter.publisher thread .idle } := by
  unfold writeCount
  split
  · exact .inl rfl
  · rename_i event answer counting
    split
    · rename_i holds
      obtain ⟨seen, held⟩ := Option.isSome_iff_exists.mp holds
      exact .inr ⟨event, answer, seen, counting, held, rfl⟩
    · exact .inl rfl

theorem sound_offer (sound : Sound reporter) (thread : P) (event : AgentStateEvent) :
    Sound (reporter.offer thread event) := by
  obtain same | ⟨idle, answer, queue, offered, taken, accepted⟩ := offer_cases reporter thread event
  · rw [same]
    exact sound
  · have grown : (reporter.offer thread event).accepted =
        reporter.accepted ++ pending true (.counting event answer) := by
      rw [offered]
      exact accepted
    rw [offered] at grown ⊢
    refine ⟨⟨?_, sound.failed, sound.guarded⟩, sound.served, ?_, ?_⟩
    · rw [← sound.taken]
      exact congrArg (List.filterMap id) taken
    · intro other event' inside
      rw [grown]
      by_cases same : other = thread
      · subst same
        exact List.mem_append_right _ (by simpa using inside)
      · exact List.mem_append_left _ (sound.counting other event' (by simpa [same] using inside))
    · intro event' inside
      rw [grown]
      exact List.mem_append_left _ (sound.returned event' inside)

theorem sound_readCount (sound : Sound reporter) (thread : P) :
    Sound (reporter.readCount thread) := by
  obtain same | ⟨event, answer, counting, read⟩ := readCount_cases reporter thread
  · rw [same]
    exact sound
  · rw [read]
    refine ⟨⟨sound.taken, sound.failed, sound.guarded⟩, ?_, sound.counting, ?_⟩
    · intro other
      by_cases same : other = answer
      · subst same
        simpa using served_read (sound.served other) thread
      · simpa [same] using sound.served other
    · intro event' inside
      apply sound.returned event'
      by_cases same : true = answer
      · subst same
        simpa [Reporter.returned] using inside
      · simpa [Reporter.returned, same] using inside

theorem sound_writeCount (sound : Sound reporter) (thread : P) :
    Sound (reporter.writeCount thread) := by
  obtain same | ⟨event, answer, seen, counting, holds, written⟩ := writeCount_cases reporter thread
  · rw [same]
    exact sound
  · rw [written]
    refine ⟨⟨sound.taken, sound.failed, sound.guarded⟩, ?_, ?_, ?_⟩
    · intro other
      by_cases same : other = answer
      · subst same
        simpa using served_write (sound.served other) thread event
      · simpa [same] using sound.served other
    · intro other event' inside
      by_cases same : other = thread
      · simp [same, pending] at inside
      · exact sound.counting other event' (by simpa [same] using inside)
    · intro event' inside
      by_cases same : true = answer
      · subst same
        have listed : event' ∈ reporter.returned true ∨ event' = event := by
          simpa [Reporter.returned, write_of_held holds] using inside
        rcases listed with before | new
        · exact sound.returned event' before
        · apply sound.counting thread
          rw [counting, new]
          simp [pending]
      · exact sound.returned event' (by simpa [Reporter.returned, same] using inside)

theorem sound_act (sound : Sound reporter) (turn : ReporterTurn P) : Sound (reporter.act turn) := by
  cases turn with
  | offer thread event => exact sound_offer sound thread event
  | readCount thread => exact sound_readCount sound thread
  | writeCount thread => exact sound_writeCount sound thread
  | stop =>
      exact ⟨⟨sound.taken, sound.failed, fun _ => rfl⟩, sound.served, sound.counting,
        sound.returned⟩
  | sentinel => exact sound_sentinel sound
  | work outcome => exact sound_work sound outcome

theorem sound_run (sound : Sound reporter) (turns : List (ReporterTurn P)) :
    Sound (reporter.run turns) := by
  induction turns generalizing reporter with
  | nil => exact sound
  | cons turn rest ih => exact ih (sound_act sound turn)

theorem counted_readCount (counted : Counted reporter) (thread : P) :
    Counted (reporter.readCount thread) := by
  obtain same | ⟨event, answer, counting, read⟩ := readCount_cases reporter thread
  · rw [same]
    exact counted
  · rw [read]
    constructor
    · intro other
      by_cases same : other = answer
      · subst same
        simpa using exact_read (counted.exact other) thread
      · simpa [same] using counted.exact other
    · intro other
      refine (counted.logged other).trans (congrArg (· ++ _) ?_)
      by_cases same : true = answer
      · subst same
        simp [Reporter.returned]
      · simp [Reporter.returned, same]

section Alone
variable [alone : Subsingleton P]

theorem counted_offer (counted : Counted reporter) (thread : P) (event : AgentStateEvent) :
    Counted (reporter.offer thread event) := by
  obtain same | ⟨idle, answer, queue, offered, _, accepted⟩ := offer_cases reporter thread event
  · rw [same]
    exact counted
  · rw [offered]
    refine ⟨counted.exact, fun other => ?_⟩
    obtain rfl := alone.elim other thread
    have before := counted.logged other
    rw [idle] at before
    show queue.accepted.filterMap id = _
    rw [accepted, before]
    simp [pending, Reporter.returned]

theorem counted_writeCount (counted : Counted reporter) (thread : P) :
    Counted (reporter.writeCount thread) := by
  obtain same | ⟨event, answer, seen, counting, holds, written⟩ := writeCount_cases reporter thread
  · rw [same]
    exact counted
  · rw [written]
    constructor
    · intro other
      by_cases same : other = answer
      · subst same
        have only : ∀ another, another ≠ thread → (reporter.counter other).held another = none :=
          fun another different => absurd (alone.elim another thread) different
        simpa using exact_write (counted.exact other) only event
      · simpa [same] using counted.exact other
    · intro other
      obtain rfl := alone.elim other thread
      refine (counted.logged other).trans ?_
      rw [counting]
      by_cases same : true = answer
      · subst same
        simp [Reporter.returned, write_of_held holds, pending]
      · simp [Reporter.returned, pending, Ne.symm same]

theorem counted_act (counted : Counted reporter) (turn : ReporterTurn P) :
    Counted (reporter.act turn) := by
  cases turn with
  | offer thread event => exact counted_offer counted thread event
  | readCount thread => exact counted_readCount counted thread
  | writeCount thread => exact counted_writeCount counted thread
  | stop => exact ⟨counted.exact, counted.logged⟩
  | sentinel =>
      have kept := sentinel_kept reporter
      refine ⟨?_, fun thread => ?_⟩
      · show ∀ answer, Exact _ 0 (reporter.putSentinel.counter answer)
        rw [kept.counter]
        exact counted.exact
      · show reporter.putSentinel.accepted = _
        rw [kept.accepted, Reporter.returned]
        show _ = (reporter.putSentinel.counter true).done ++ pending true
          (reporter.putSentinel.publisher thread)
        rw [kept.counter, kept.publisher]
        exact counted.logged thread
  | work outcome =>
      have worked : Worked reporter (reporter.work outcome) := work_worked outcome
      refine ⟨?_, fun thread => ?_⟩
      · show ∀ answer, Exact _ 0 ((reporter.work outcome).counter answer)
        rw [worked.counter]
        exact counted.exact
      · show (reporter.work outcome).accepted = ((reporter.work outcome).counter true).done ++
          pending true ((reporter.work outcome).publisher thread)
        rw [worked.accepted, worked.counter, worked.publisher]
        exact counted.logged thread

theorem counted_run (counted : Counted reporter) (turns : List (ReporterTurn P)) :
    Counted (reporter.run turns) := by
  induction turns generalizing reporter with
  | nil => exact counted
  | cons turn rest ih => exact ih (counted_act counted turn)

end Alone

end Publishers

section Shutdown
variable {P : Type} {maxQueue : Int} {reporter : Reporter P maxQueue}

/-- The turns of the thread that remain before it exits, at most. -/
def fuel (reporter : Reporter P maxQueue) : Nat :=
  5 * (reporter.queue.waiting.length + reporter.closing) +
    match reporter.worker with
    | .exited => 0
    | .checkEmpty => 1
    | .checkStop => 2
    | .deliver _ => 3
    | .fetch => if reporter.queue.waiting.isEmpty then 3 else 0

/-- A stopped thread comes closer to its exit with each turn. -/
theorem fuel_work (stopping : reporter.stopping = true) (running : reporter.worker ≠ .exited)
    (outcome : Except Exception Unit) : fuel (reporter.work outcome) < fuel reporter := by
  cases point : reporter.worker with
  | checkStop => simp [work, fuel, point, stopping]
  | checkEmpty =>
      cases held : reporter.queue.waiting with
      | nil => simp [work, fuel, point, held]
      | cons item rest => simp [work, fuel, point, held]
  | fetch =>
      cases took : reporter.queue.take with
      | none => simp [work, fuel, point, took, take_eq_none.mp took]
      | some entry =>
          obtain ⟨item, rest⟩ := entry
          have split := (take_eq_some took).1
          cases item with
          | none =>
              simp only [work, fuel, point, took, split]
              simp only [List.length_cons, List.isEmpty_cons]
              omega
          | some event =>
              simp only [work, fuel, point, took, split]
              simp only [List.length_cons, List.isEmpty_cons]
              omega
  | deliver event => simp [work, fuel, point]
  | exited => exact absurd point running

theorem fuel_sentinel (reporter : Reporter P maxQueue) :
    fuel reporter.putSentinel ≤ fuel reporter := by
  unfold putSentinel
  split
  · exact le_rfl
  · rename_i closing counted
    cases offered : reporter.queue.offer none with
    | none => simp only [fuel, Option.getD_none, counted]; omega
    | some queue =>
        obtain ⟨_, _, waiting⟩ := offer_eq_some offered
        have longer : (reporter.queue.waiting ++ [none]).isEmpty = false := by simp
        simp only [fuel, Option.getD_some, counted, waiting, longer, List.length_append,
          List.length_singleton]
        cases reporter.worker with
        | fetch => simp only [Bool.false_eq_true, if_false]; omega
        | _ => simp only; omega

/-- The thread exits when the flag is set and it has delivered all events. -/
theorem work_exits {outcome : Except Exception Unit} (ledger : Ledger reporter)
    (running : reporter.worker ≠ .exited) (exited : (reporter.work outcome).worker = .exited) :
    (reporter.work outcome).accepted = (reporter.work outcome).delivered.map Prod.fst := by
  have kept : (reporter.work outcome).accepted = reporter.accepted := (work_worked outcome).accepted
  cases point : reporter.worker with
  | checkStop =>
      simp only [work, point] at exited
      split at exited <;> cases exited
  | checkEmpty =>
      have taken := ledger.taken
      cases held : reporter.queue.waiting with
      | nil =>
          rw [kept, accepted_eq, taken, Reporter.waiting, held]
          simp [work, point, Worker.inHand]
      | cons item rest => simp [work, point, held] at exited
  | fetch =>
      simp only [work, point] at exited
      split at exited <;> cases exited
  | deliver event => simp [work, point] at exited
  | exited => exact absurd point running

/-- An exited thread delivers nothing any more. -/
theorem work_exited {outcome : Except Exception Unit} (exited : reporter.worker = .exited) :
    reporter.work outcome = reporter := by
  simp [work, exited]

end Shutdown

section Drain
variable {P : Type} [DecidableEq P] {maxQueue : Int} {reporter : Reporter P maxQueue}

/-- A turn that offers no event and begins no call of `close`. -/
def Quiet : ReporterTurn P → Prop
  | .offer .. | .stop => False
  | _ => True

def isWork : ReporterTurn P → Bool
  | .work _ => true
  | _ => false

/-- The counters of the publishers do not concern the thread. -/
theorem count_kept (turn : ReporterTurn P) (thread : P)
    (counts : turn = .readCount thread ∨ turn = .writeCount thread) :
    (reporter.act turn).queue = reporter.queue ∧ (reporter.act turn).worker = reporter.worker ∧
      (reporter.act turn).delivered = reporter.delivered ∧
      (reporter.act turn).closing = reporter.closing ∧
      (reporter.act turn).stopping = reporter.stopping := by
  rcases counts with rfl | rfl
  · show (reporter.readCount thread).queue = _ ∧ _
    obtain same | ⟨event, answer, _, read⟩ := readCount_cases reporter thread
    · rw [Reporter.act, same]
      exact ⟨rfl, rfl, rfl, rfl, rfl⟩
    · rw [Reporter.act, read]
      exact ⟨rfl, rfl, rfl, rfl, rfl⟩
  · show (reporter.writeCount thread).queue = _ ∧ _
    obtain same | ⟨event, answer, seen, _, _, written⟩ := writeCount_cases reporter thread
    · rw [Reporter.act, same]
      exact ⟨rfl, rfl, rfl, rfl, rfl⟩
    · rw [Reporter.act, written]
      exact ⟨rfl, rfl, rfl, rfl, rfl⟩

/-- A thread that has exited stays so, and its deliveries stay. -/
theorem exited_act (exited : reporter.worker = .exited) (turn : ReporterTurn P) :
    (reporter.act turn).worker = .exited ∧
      (reporter.act turn).delivered = reporter.delivered := by
  cases turn with
  | offer thread event =>
      show (reporter.offer thread event).worker = _ ∧ (reporter.offer thread event).delivered = _
      obtain same | ⟨_, answer, queue, offered, _⟩ := offer_cases reporter thread event
      · rw [same]
        exact ⟨exited, rfl⟩
      · rw [offered]
        exact ⟨exited, rfl⟩
  | readCount thread =>
      obtain ⟨_, worker, delivered, _⟩ := count_kept (.readCount thread) thread (.inl rfl)
      exact ⟨worker.trans exited, delivered⟩
  | writeCount thread =>
      obtain ⟨_, worker, delivered, _⟩ := count_kept (.writeCount thread) thread (.inr rfl)
      exact ⟨worker.trans exited, delivered⟩
  | stop => exact ⟨exited, rfl⟩
  | sentinel =>
      have kept := sentinel_kept reporter
      exact ⟨kept.worker.trans exited, kept.delivered⟩
  | work outcome =>
      show (reporter.work outcome).worker = _ ∧ _
      rw [work_exited exited]
      exact ⟨exited, congrArg delivered (work_exited exited)⟩

theorem exited_run (exited : reporter.worker = .exited) (turns : List (ReporterTurn P)) :
    (reporter.run turns).worker = .exited ∧ (reporter.run turns).delivered = reporter.delivered := by
  induction turns generalizing reporter with
  | nil => exact ⟨exited, rfl⟩
  | cons turn rest ih =>
      obtain ⟨stays, kept⟩ := exited_act exited turn
      obtain ⟨ends, delivered⟩ := ih stays
      exact ⟨ends, delivered.trans kept⟩

/-- Quiet turns accept no event. -/
theorem quiet_act {turn : ReporterTurn P} (quiet : Quiet turn)
    (stopping : reporter.stopping = true) :
    (reporter.act turn).accepted = reporter.accepted ∧ (reporter.act turn).stopping = true ∧
      (reporter.worker ≠ .exited →
        fuel (reporter.act turn) + (if isWork turn then 1 else 0) ≤ fuel reporter) := by
  cases turn with
  | offer thread event => cases quiet
  | stop => cases quiet
  | readCount thread =>
      obtain ⟨queue, worker, _, closing, flag⟩ :=
        @count_kept P _ maxQueue reporter (.readCount thread) thread (.inl rfl)
      refine ⟨by rw [accepted, queue, accepted], flag.trans stopping, fun _ => ?_⟩
      simp [fuel, queue, worker, closing, isWork]
  | writeCount thread =>
      obtain ⟨queue, worker, _, closing, flag⟩ :=
        @count_kept P _ maxQueue reporter (.writeCount thread) thread (.inr rfl)
      refine ⟨by rw [accepted, queue, accepted], flag.trans stopping, fun _ => ?_⟩
      simp [fuel, queue, worker, closing, isWork]
  | sentinel =>
      have kept := sentinel_kept reporter
      exact ⟨kept.accepted, kept.stopping.trans stopping, fun _ => fuel_sentinel reporter⟩
  | work outcome =>
      have kept : Worked reporter (reporter.work outcome) := work_worked outcome
      exact ⟨kept.accepted, kept.stopping.trans stopping, fun running =>
        fuel_work stopping running outcome⟩

/-- A stopped thread exits in a bounded number of its turns, and it has delivered every event. -/
theorem drains (sound : Sound reporter) (stopping : reporter.stopping = true)
    (running : reporter.worker ≠ .exited) {turns : List (ReporterTurn P)}
    (quiet : ∀ turn ∈ turns, Quiet turn) (enough : fuel reporter ≤ turns.countP isWork) :
    (reporter.run turns).worker = .exited ∧
      (reporter.run turns).delivered.map Prod.fst = reporter.accepted := by
  induction turns generalizing reporter with
  | nil =>
      have empty : fuel reporter = 0 := by simpa using enough
      cases point : reporter.worker with
      | exited => exact absurd point running
      | fetch =>
          cases held : reporter.queue.waiting <;> simp [fuel, point, held] at empty
      | _ => simp [fuel, point] at empty
  | cons turn rest ih =>
      obtain ⟨kept, stays, closer⟩ := quiet_act (quiet turn List.mem_cons_self) stopping
      have less := closer running
      have fewer : (turn :: rest).countP isWork =
          rest.countP isWork + if isWork turn then 1 else 0 := List.countP_cons
      by_cases exited : (reporter.act turn).worker = .exited
      · obtain ⟨ends, delivered⟩ := exited_run exited rest
        refine ⟨ends, ?_⟩
        show ((reporter.act turn).run rest).delivered.map Prod.fst = _
        rw [delivered, ← kept]
        cases turn with
        | work outcome => exact (work_exits sound.toLedger running exited).symm
        | offer thread event => cases quiet _ List.mem_cons_self
        | stop => cases quiet _ List.mem_cons_self
        | readCount thread =>
            exact absurd ((count_kept (.readCount thread) thread (.inl rfl)).2.1.symm.trans exited)
              running
        | writeCount thread =>
            exact absurd ((count_kept (.writeCount thread) thread (.inr rfl)).2.1.symm.trans exited)
              running
        | sentinel => exact absurd ((sentinel_kept reporter).worker.symm.trans exited) running
      · obtain ⟨ends, delivered⟩ := ih (sound_act sound turn) stays exited
          (fun later member => quiet later (List.mem_cons_of_mem _ member)) (by omega)
        exact ⟨ends, delivered.trans kept⟩

end Drain

section Results
variable {P : Type} [DecidableEq P] {maxQueue : Int}

/-- In every interleaving the sink receives the accepted events once each and in the order of the
queue, the queue keeps its bound, and the failures are the deliveries that raised. Racing publishers
may lose counts, one publisher does not. -/
theorem delivers_in_order (turns : List (ReporterTurn P)) :
    let reporter := (fresh : Reporter P maxQueue).run turns
    reporter.accepted =
      reporter.delivered.map Prod.fst ++ reporter.worker.inHand ++ reporter.waiting ∧
    (0 < maxQueue → (reporter.queue.waiting.length : Int) ≤ maxQueue) ∧
    reporter.failed = reporter.delivered.countP raised ∧
    (∀ event ∈ reporter.returned true, event ∈ reporter.accepted) ∧
    reporter.published ≤ (reporter.returned true).length ∧
    reporter.dropped ≤ (reporter.returned false).length ∧
    (Subsingleton P → ∀ thread, reporter.publisher thread = .idle →
      reporter.published = reporter.accepted.length ∧
      reporter.dropped = (reporter.returned false).length) := by
  intro reporter
  have sound : Sound reporter := sound_run sound_fresh turns
  refine ⟨?_, reporter.queue.bounded, sound.failed, sound.returned, (sound.served true).count_le,
    (sound.served false).count_le, ?_⟩
  · rw [accepted_eq, sound.taken]
  · intro alone thread idle
    have counted : Counted reporter := counted_run counted_fresh turns
    have logged := counted.logged thread
    rw [idle, pending, List.append_nil] at logged
    rw [logged]
    exact ⟨(counted.exact true).count_eq, (counted.exact false).count_eq⟩

/-- The thread exits only after `close` and with every accepted event delivered. An event that the
queue accepts later is never delivered. After `close` the thread needs a bounded number of turns. -/
theorem shuts_down (turns : List (ReporterTurn P)) :
    let reporter := (fresh : Reporter P maxQueue).run turns
    (reporter.worker = .exited → reporter.stopping = true) ∧
    (∀ outcome, reporter.worker ≠ .exited → (reporter.work outcome).worker = .exited →
      (reporter.work outcome).delivered.map Prod.fst = reporter.accepted) ∧
    (∀ later, reporter.worker = .exited →
      (reporter.run later).worker = .exited ∧
        (reporter.run later).delivered = reporter.delivered) ∧
    (∀ later, reporter.stopping = true → reporter.worker ≠ .exited →
      (∀ turn ∈ later, Quiet turn) → fuel reporter ≤ later.countP isWork →
      (reporter.run later).worker = .exited ∧
        (reporter.run later).delivered.map Prod.fst = reporter.accepted) := by
  intro reporter
  have sound : Sound reporter := sound_run sound_fresh turns
  refine ⟨fun exited => sound.guarded (.inr exited), ?_, ?_, ?_⟩
  · intro outcome running exited
    rw [← work_exits sound.toLedger running exited]
    exact (work_worked outcome).accepted
  · intro later exited
    exact exited_run exited later
  · intro later stopping running quiet enough
    exact drains sound stopping running quiet enough

end Results

end StateFlow.Harness.Reporter
