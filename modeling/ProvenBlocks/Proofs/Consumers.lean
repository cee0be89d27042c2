import ProvenBlocks.Proofs.Watches

/-!
What a registered consumer is handed. The steps of publishers, of other readers, of the consumer and
of whoever lets it go may alternate in any way. The consumer is handed the first of the events that
have arrived in its queue since its registration, each once and in order, and none that arrived
after it was dismissed; a consumer that is never dismissed is handed all of them. An event that is
published meanwhile and does not arrive is one whose publisher was stopped at an earlier
subscription.
-/

namespace ProvenBlocks

/-- What is handed over even if the consumer is dismissed now. -/
def ConsumerStage.beyondRecall : ConsumerStage → List Signature
  | .admitted signature => [signature]
  | .holding _ | .waiting | .finished => []

/-- The publisher was stopped at an earlier subscription than this one. -/
def Publication.StoppedBefore (publication : Publication) (id : Nat) : Prop :=
  ∃ before last later, publication.registered = before ++ last :: later ∧ id ∈ later ∧
    publication.reached = before ++ [last] ∧ publication.answer = .error .addition

theorem Publication.IsExplained.reaches_or_stops {capacity : UInt64} {publication : Publication}
    {id : Nat} (explained : publication.IsExplained capacity)
    (registered : id ∈ publication.registered) :
    id ∈ publication.reached ∨ publication.StoppedBefore id := by
  cases explained with
  | complete all greatest answers =>
      rw [all]
      exact .inl registered
  | stopped before later last listed reached answer =>
      by_cases past : id ∈ later
      · exact .inr ⟨before, last, later, listed, past, reached, answer⟩
      · rw [listed, List.mem_append, List.mem_cons] at registered
        rw [reached, List.mem_append, List.mem_singleton]
        exact .inl (registered.imp_right fun among => among.resolve_right past)

namespace Watch

variable {capacity : UInt64} {watch : Watch} {bound : List Signature}

/-! ### After the dismissal -/

/-- A dismissed consumer that is handed nothing but what had arrived by some time. -/
structure Dismissed (bound : List Signature) (watch : Watch) : Prop where
  unwanted : watch.consumer.isWanted = false
  received : watch.consumer.received ++ watch.consumer.stage.beyondRecall <+: bound

/-- Nothing that arrives later can still be on its way. -/
theorem Sound.dismiss (sound : watch.Sound capacity) :
    (watch.move .dismiss).Dismissed
      (watch.contention.deliveredTo watch.consumer.subscription) := by
  refine ⟨rfl, ?_⟩
  change watch.consumer.received ++ watch.consumer.stage.beyondRecall <+: _
  cases stage : watch.consumer.stage with
  | waiting | holding | finished =>
      rw [ConsumerStage.beyondRecall, List.append_nil]
      exact sound.received
  | admitted signature =>
      obtain ⟨subscription, _, account⟩ := sound.account (by simp [stage])
      rw [stage] at account
      exact ⟨subscription.waiting, account⟩

theorem Dismissed.finish (dismissed : watch.Dismissed bound) : watch.finish.Dismissed bound := by
  unfold Watch.finish
  split
  · refine ⟨dismissed.unwanted, ?_⟩
    rw [ConsumerStage.beyondRecall, List.append_nil]
    exact (List.prefix_append _ _).trans dismissed.received
  · exact dismissed

theorem Dismissed.work (dismissed : watch.Dismissed bound) : watch.work.Dismissed bound := by
  have received := dismissed.received
  rcases watch.work_cases with works | ⟨same, _⟩
  · generalize watch.work = after at works
    cases works with
    | took waiting found queued =>
        rw [waiting] at received
        exact ⟨dismissed.unwanted, received⟩
    | ended | refused => exact dismissed.finish
    | counted holding receiving => exact ⟨dismissed.unwanted, received⟩
    | admitted holding idle wanted =>
        rw [dismissed.unwanted] at wanted
        cases wanted
    | handedOver admitted =>
        rw [admitted] at received
        refine ⟨dismissed.unwanted, ?_⟩
        rw [ConsumerStage.beyondRecall, List.append_nil]
        exact received
  · rw [same]
    exact dismissed

theorem Dismissed.move (dismissed : watch.Dismissed bound) (move : WatchMove) :
    (watch.move move).Dismissed bound := by
  cases move with
  | use step =>
      simp only [Watch.move]
      split <;> exact ⟨dismissed.unwanted, dismissed.received⟩
  | work => exact dismissed.work
  | dismiss => exact ⟨rfl, dismissed.received⟩
  | abort =>
      simp only [Watch.move]
      split <;> exact ⟨dismissed.unwanted, dismissed.received⟩
  | stop =>
      simp only [Watch.move]
      split
      · exact dismissed.finish
      · exact dismissed

theorem Dismissed.run (dismissed : watch.Dismissed bound) (moves : List WatchMove) :
    (watch.run moves).Dismissed bound := by
  induction moves generalizing watch with
  | nil => exact dismissed
  | cons move later inductive_hypothesis => exact inductive_hypothesis (dismissed.move move)

/-! ### Without a dismissal -/

/-- What a step of the consumer leaves alone. -/
structure Keeps (watch after : Watch) : Prop where
  subscription : after.consumer.subscription = watch.consumer.subscription
  wanted : after.consumer.isWanted = watch.consumer.isWanted
  reaches : after.contention.reaches = watch.contention.reaches

theorem finish_keeps (watch : Watch) : watch.Keeps watch.finish := by
  unfold finish
  split
  · exact ⟨rfl, rfl, Contention.step_reaches (Option.some_ne_none _)⟩
  · exact ⟨rfl, rfl, rfl⟩

theorem Works.keeps {after : Watch} (works : watch.Works after) : watch.Keeps after := by
  cases works with
  | took | counted => exact ⟨rfl, rfl, Contention.step_reaches (Option.some_ne_none _)⟩
  | ended | refused => exact watch.finish_keeps
  | admitted | handedOver => exact ⟨rfl, rfl, rfl⟩

theorem work_keeps (watch : Watch) : watch.Keeps watch.work := by
  rcases watch.work_cases with works | ⟨same, _⟩
  · exact works.keeps
  · rw [same]
    exact ⟨rfl, rfl, rfl⟩

theorem run_wanted {moves : List WatchMove} (undismissed : .dismiss ∉ moves)
    (wanted : watch.consumer.isWanted = true) : (watch.run moves).consumer.isWanted = true := by
  induction moves generalizing watch with
  | nil => exact wanted
  | cons move later inductive_hypothesis =>
      rw [List.mem_cons, not_or] at undismissed
      apply inductive_hypothesis undismissed.2
      cases move with
      | dismiss => exact absurd rfl undismissed.1
      | use step =>
          simp only [Watch.move]
          split <;> exact wanted
      | work => exact watch.work_keeps.wanted.trans wanted
      | abort => simp only [Watch.move, wanted, if_true]
      | stop =>
          simp only [Watch.move]
          split
          · exact watch.finish_keeps.wanted.trans wanted
          · exact wanted

/-- How many steps a wanted consumer has to do at most. -/
def remaining (watch : Watch) : Nat :=
  let queued := (watch.contention.bus.find? watch.consumer.subscription).elim 0
    fun subscription => 4 * subscription.waiting.length
  match watch.consumer.stage with
  | .waiting => queued + 1
  | .admitted _ => queued + 2
  | .holding _ =>
      if watch.consumer.subscription ∈ watch.contention.receiving then queued + 4 else queued + 3
  | .finished => 0

theorem Sound.remaining_work (sound : watch.Sound capacity)
    (wanted : watch.consumer.isWanted = true) {after : Watch} (works : watch.Works after) :
    after.remaining < watch.remaining := by
  cases works with
  | took waiting found queued =>
      have changed := watch.contention.bus.find_changed Subscription.take_keeps found
      simp only [Contention.step_take found queued (sound.idle waiting), remaining, waiting,
        Contention.takeBy, changed, found, Option.elim_some, Subscription.take, queued,
        List.tail_cons, List.length_cons, List.mem_append, List.mem_singleton, or_true, if_true]
      omega
  | ended waiting drained closed =>
      simp only [remaining, waiting, Watch.finish, sound.current.shut closed, Option.isNone_none,
        if_true]
      omega
  | counted holding receiving =>
      obtain ⟨subscription, found, _⟩ := sound.account (by simp [holding])
      have changed := watch.contention.bus.find_changed Subscription.settle_keeps found
      simp only [Contention.step_settle receiving, remaining, holding, Contention.settleBy,
        changed, found, Option.elim_some, Subscription.settle, receiving, if_true, List.mem_filter,
        bne_self_eq_false, Bool.false_eq_true, and_false, if_false]
      omega
  | admitted holding idle wanted =>
      simp only [remaining, holding, idle, if_false]
      omega
  | refused holding idle unwanted =>
      rw [unwanted] at wanted
      cases wanted
  | handedOver admitted =>
      simp only [remaining, admitted]
      omega

/-- A wanted consumer with nothing to do has been handed everything. -/
theorem Sound.all_received (sound : watch.Sound capacity)
    (wanted : watch.consumer.isWanted = true) (idle : watch.IsIdle) :
    watch.consumer.received =
      watch.contention.deliveredTo watch.consumer.subscription := by
  rcases idle with finished | ⟨waiting, drained, _⟩
  · exact (sound.ended wanted finished).2
  · exact sound.drained waiting drained

theorem run_idle (same : watch.work = watch) (steps : Nat) :
    watch.run (List.replicate steps .work) = watch := by
  induction steps with
  | zero => rfl
  | succ steps inductive_hypothesis =>
      rw [List.replicate_succ, run, List.foldl_cons]
      simp only [Watch.move, same]
      exact inductive_hypothesis

/-- A wanted consumer that is left to work is handed everything. -/
theorem Sound.settles (sound : watch.Sound capacity) (wanted : watch.consumer.isWanted = true)
    {steps : Nat} (enough : watch.remaining ≤ steps) :
    (watch.run (List.replicate steps .work)).consumer.received =
      watch.contention.deliveredTo watch.consumer.subscription := by
  induction steps generalizing watch with
  | zero =>
      have finished : watch.consumer.stage = .finished := by
        cases stage : watch.consumer.stage with
        | finished => rfl
        | waiting | admitted =>
            simp only [remaining, stage] at enough
            omega
        | holding =>
            simp only [remaining, stage] at enough
            split at enough <;> omega
      exact (sound.ended wanted finished).2
  | succ steps inductive_hypothesis =>
      rcases watch.work_cases with works | ⟨same, idle⟩
      · have fewer := sound.remaining_work wanted works
        have keeps := works.keeps
        have rest := inductive_hypothesis (sound.worked works) (keeps.wanted.trans wanted)
          (by omega)
        rw [keeps.subscription, Contention.deliveredTo, keeps.reaches] at rest
        rw [List.replicate_succ, Watch.run, List.foldl_cons]
        exact rest
      · rw [run_idle same]
        exact sound.all_received wanted idle

/-! ### Without contention -/

theorem finish_undisturbed (free : watch.contention.publishing = none)
    (idle : watch.consumer.subscription ∉ watch.contention.receiving) :
    (watch.finish.consumer, watch.finish.contention.bus) =
      watch.consumer.finish watch.contention.bus := by
  simp [finish, free, Contention.step, idle, Consumer.finish]

/-- The two steps in which a consumer takes an event. -/
theorem Sound.receive_undisturbed (sound : watch.Sound capacity)
    (waiting : watch.consumer.stage = .waiting) {subscription : Subscription}
    {first : Signature} {later : List Signature}
    (found : watch.contention.bus.find? watch.consumer.subscription = some subscription)
    (queued : subscription.waiting = first :: later) :
    some (watch.work.work.consumer, watch.work.work.contention.bus) =
      watch.consumer.work? watch.contention.bus := by
  have idle := sound.idle waiting
  obtain ⟨answered, settled⟩ := Contention.receive_undisturbed
    sound.current.accounted.registered found queued idle
  have next : watch.contention.first? watch.consumer.subscription = some first := by
    simp [Contention.first?, found, queued]
  have receives : watch.consumer.subscription ∈
      (watch.contention.step (.take watch.consumer.subscription)).receiving := by
    rw [Contention.step_take found queued idle]
    exact Contention.receiving_take _ first
  have worked : watch.work.work = { watch with
      contention := watch.contention.run
        [.take watch.consumer.subscription, .settle watch.consumer.subscription]
      consumer := { watch.consumer with stage := .holding first } } := by
    simp [Watch.work, waiting, next, receives, Contention.run]
  have received : watch.contention.bus.receive watch.consumer.subscription =
      (.event first, (watch.contention.bus.receive watch.consumer.subscription).2) :=
    Prod.ext answered rfl
  rw [worked, settled, Consumer.work?, waiting, received]

/-- While no publisher is at work, the steps of a consumer up to its next stage are one step of the
consumer of a bus that is used by one at a time. -/
theorem work_undisturbed (sound : watch.Sound capacity)
    (free : watch.contention.publishing = none)
    (idle : watch.consumer.subscription ∉ watch.contention.receiving) :
    ∃ steps,
      let after := watch.run (List.replicate steps .work)
      (after.consumer, after.contention.bus) =
        (watch.consumer.work? watch.contention.bus).getD
          (watch.consumer, watch.contention.bus) := by
  have finished := finish_undisturbed free idle
  cases stage : watch.consumer.stage with
  | waiting =>
      obtain ⟨subscription, found, _⟩ := sound.account (by simp [stage])
      rcases queued : subscription.waiting with _ | ⟨first, later⟩
      · have drained : watch.contention.first? watch.consumer.subscription = none := by
          simp [Contention.first?, found, queued]
        have received := watch.contention.bus.receive_idle found queued
        refine ⟨1, ?_⟩
        change (watch.work.consumer, watch.work.contention.bus) = _
        rcases isOpen : watch.contention.bus.isOpen with _ | _
        · have worked : watch.work = watch.finish := by simp [work, stage, drained, isOpen]
          rw [worked, finished]
          simp [Consumer.work?, stage, received, Bus.idleAnswer, isOpen]
        · have worked : watch.work = watch := by simp [work, stage, drained, isOpen]
          rw [worked]
          simp [Consumer.work?, stage, received, Bus.idleAnswer, isOpen]
      · refine ⟨2, ?_⟩
        change (watch.work.work.consumer, watch.work.work.contention.bus) = _
        rw [← sound.receive_undisturbed stage found queued, Option.getD_some]
  | holding signature =>
      refine ⟨1, ?_⟩
      change (watch.work.consumer, watch.work.contention.bus) = _
      by_cases wanted : watch.consumer.isWanted = true
      · simp [work, Consumer.work?, stage, idle, wanted]
      · have worked : watch.work = watch.finish := by simp [work, stage, idle, wanted]
        rw [worked, finished]
        simp [Consumer.work?, stage, wanted]
  | admitted signature =>
      refine ⟨1, ?_⟩
      change (watch.work.consumer, watch.work.contention.bus) = _
      simp [work, Consumer.work?, stage]
  | finished =>
      refine ⟨0, ?_⟩
      simp [Watch.run, Consumer.work?, stage]

/-! ### From the registration on -/

/-- What a consumer is handed from its registration on, whatever happens meanwhile. -/
structure SeesArrived (start : Watch) (moves : List WatchMove) : Prop where
  /-- What arrives is published since the registration, in order and each once. -/
  arrived : (start.run moves).arrived.Sublist (start.run moves).published
  inOrder : (start.run moves).consumer.received <+: (start.run moves).arrived
  /-- Nothing of what was published since the dismissal, and nothing that arrived since. -/
  dismissed : ∀ earlier later, moves = earlier ++ .dismiss :: later →
    (start.run moves).consumer.received <+: (start.run earlier).arrived
  /-- Without a dismissal, what it has not been handed is in its hand or in its queue. -/
  working : .dismiss ∉ moves → (start.run moves).consumer.stage ≠ .finished →
    ∃ subscription,
      (start.run moves).contention.bus.find? (start.run moves).consumer.subscription =
          some subscription ∧
        (start.run moves).consumer.received ++ (start.run moves).consumer.stage.inHand ++
            subscription.waiting = (start.run moves).arrived
  /-- Then it ends with the bus only, and has been handed everything. -/
  ended : .dismiss ∉ moves → (start.run moves).consumer.stage = .finished →
    (start.run moves).contention.bus.isOpen = false ∧
      (start.run moves).consumer.received = (start.run moves).arrived
  /-- And it is handed everything when it is left to work. -/
  settled : .dismiss ∉ moves → ∀ steps, (start.run moves).remaining ≤ steps →
    ((start.run moves).run (List.replicate steps .work)).consumer.received =
      (start.run moves).arrived
  /-- Then every publication that has ended has reached it or was stopped before. -/
  missed : .dismiss ∉ moves → ∀ publication ∈ (start.run moves).publications,
    (start.run moves).consumer.subscription ∈ publication.reached ∨
      publication.StoppedBefore (start.run moves).consumer.subscription
  /-- Where no publication left anyone out, everything that was published has arrived. -/
  complete : .dismiss ∉ moves → (start.run moves).contention.publishing = none →
    (∀ publication ∈ (start.run moves).publications,
      publication.reached = publication.registered) →
      (start.run moves).arrived = (start.run moves).published

theorem Sound.arrived (sound : watch.Sound capacity) :
    watch.arrived = watch.contention.deliveredTo watch.consumer.subscription :=
  sound.current.delivered.symm

theorem Sound.complete (sound : watch.Sound capacity) (wanted : watch.consumer.isWanted = true)
    (free : watch.contention.publishing = none)
    (unstopped : ∀ publication ∈ watch.publications,
      publication.reached = publication.registered) : watch.arrived = watch.published := by
  have since : watch.since = watch.publications.map fun publication =>
      (publication.signature, publication.reached) := by
    rw [Watch.since, Contention.reaches, free, Option.toList_none, List.map_nil, List.append_nil,
      ← List.map_drop]
    rfl
  rw [Watch.arrived, published, List.filter_eq_self.mpr]
  intro reach member
  rw [since] at member
  obtain ⟨publication, among, rfl⟩ := List.mem_map.mp member
  have asked := sound.registered wanted publication among
  rw [← unstopped publication among] at asked
  exact decide_eq_true asked

/-- A consumer of any bus, however the bus was used before and is used later, is handed the first
events that have arrived since its registration, and none from after its dismissal. What does not
arrive was stopped on its way. -/
theorem consumer_sees_what_arrives (capacity : UInt64) (before : List ContentionStep)
    (free : ((Contention.fresh capacity).run before).publishing = none)
    (moves : List WatchMove) :
    (register ((Contention.fresh capacity).run before)).SeesArrived moves := by
  have begun := register_sound ((Contention.IsAccounted.fresh capacity).run before) free
  have sound := begun.run moves
  have wanted (undismissed : .dismiss ∉ moves) := run_wanted undismissed
    (show (register ((Contention.fresh capacity).run before)).consumer.isWanted = true from rfl)
  have arrived := sound.arrived
  constructor
  · exact List.filter_sublist.map _
  · rw [arrived]
    exact sound.received
  · rintro earlier later rfl
    have dismissed := (begun.run earlier).dismiss.run later
    rw [← (begun.run earlier).arrived] at dismissed
    rw [Watch.run, List.foldl_append, List.foldl_cons]
    exact (List.prefix_append _ _).trans dismissed.received
  · rw [arrived]
    exact fun _ => sound.account
  · rw [arrived]
    exact fun undismissed => sound.ended (wanted undismissed)
  · rw [arrived]
    exact fun undismissed steps => sound.settles (wanted undismissed)
  · intro undismissed publication member
    have explained := sound.current.accounted.explained publication (List.mem_of_mem_drop member)
    exact explained.reaches_or_stops (sound.registered (wanted undismissed) publication member)
  · exact fun undismissed => sound.complete (wanted undismissed)

/-- Another reader and then the consumer take an event before it is counted. Another event follows
that is left in the queue. -/
def crossedMoves (first second : Signature) : List WatchMove :=
  [.use (.publish first), .use .proceed, .use (.take 0), .use .proceed, .use (.settle 0),
    .use .proceed, .work, .use .proceed, .use .proceed, .work, .work, .work,
    .use (.publish second), .use .proceed, .use .proceed, .use .proceed, .use .proceed,
    .use .proceed]

theorem consumer_sees_crossed_publications :
    let before : List ContentionStep := [.subscribe]
    let first : Signature := ⟨.zero, [1]⟩
    let second : Signature := ⟨.zero, [2]⟩
    let start := register ((Contention.fresh defaultCapacity).run before)
    let after := start.run (crossedMoves first second)
    ((Contention.fresh defaultCapacity).run before).publishing = none ∧
      start.SeesArrived (crossedMoves first second) ∧ .dismiss ∉ crossedMoves first second ∧
      after.published = [first, second] ∧ after.arrived = [first, second] ∧
      after.consumer.received = [first] ∧ after.consumer.stage = .waiting ∧
      after.contention.takenBy 0 = [first] ∧ after.remaining = 5 :=
  ⟨rfl, consumer_sees_what_arrives defaultCapacity [.subscribe] rfl _, by decide, rfl, rfl, rfl,
    rfl, rfl, rfl⟩

/-- The first publisher is stopped at the other subscription, whose reader takes and counts down the
event before it is counted. The consumer is never dismissed and does all it can, and yet it is
handed only what the second one publishes. -/
theorem consumer_misses_stopped_publication :
    ∃ (first second : Signature) (moves : List WatchMove),
      let watch := (register ((Contention.fresh defaultCapacity).run [.subscribe])).run moves
      .dismiss ∉ moves ∧ watch.contention.publishing.isNone ∧ watch.contention.receiving = [] ∧
        watch.consumer.stage = .waiting ∧
        watch.contention.first? watch.consumer.subscription = none ∧
        watch.published = [first, second] ∧ watch.consumer.received = [second] ∧
        ¬ watch.consumer.received <+: watch.published :=
  ⟨⟨.zero, [1]⟩, ⟨.zero, [2]⟩,
    [.use (.publish ⟨.zero, [1]⟩), .use .proceed, .use (.take 0), .use (.settle 0), .use .proceed,
      .use (.publish ⟨.zero, [2]⟩), .use .proceed, .use .proceed, .use .proceed, .use .proceed,
      .use .proceed, .work, .work, .work, .work],
    by decide, by decide, rfl, rfl, rfl, rfl, rfl, by decide⟩

end Watch
end ProvenBlocks
