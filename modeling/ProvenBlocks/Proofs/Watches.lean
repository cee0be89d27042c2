import ProvenBlocks.Bus.Watch
import ProvenBlocks.Proofs.Backlogs

/-!
A consumer among publishers and other readers. Others leave its subscription registered and its
reader alone, and every step only adds to what has been delivered and published. So an event that
has arrived is in the queue, in the hand of the consumer, or handed over, whatever comes between
its steps.
-/

namespace ProvenBlocks

/-- What has been taken from the queue and not been handed over. -/
def ConsumerStage.inHand : ConsumerStage → List Signature
  | .holding signature | .admitted signature => [signature]
  | .waiting | .finished => []

namespace Contention

variable {state after : Contention} {id : Nat}

/-! ### What others do to a subscription -/

/-- What the reader of a subscription can rely on. -/
structure Spares (id : Nat) (state after : Contention) : Prop where
  present : id ∈ state.bus.ids → id ∈ after.bus.ids
  taken : after.takenBy id = state.takenBy id
  receiving : id ∈ after.receiving ↔ id ∈ state.receiving

theorem Spares.of_change {changed : Subscription → Subscription} {other : Nat}
    (keeps : Subscription.Keeps changed) (bus : after.bus = state.bus.change other changed)
    (taken : after.takenBy id = state.takenBy id)
    (receiving : id ∈ after.receiving ↔ id ∈ state.receiving) : Spares id state after := by
  refine ⟨fun present => ?_, taken, receiving⟩
  rw [bus, state.bus.ids_change keeps]
  exact present

theorem proceed_spares (publishing : Publishing) : Spares id state (state.proceed publishing) := by
  unfold proceed
  split
  · unfold countFor
    split
    · exact .of_change Subscription.count_keeps rfl rfl .rfl
    · exact .of_change Subscription.count_keeps rfl rfl .rfl
  · exact .of_change (Subscription.queue_keeps publishing.signature) rfl rfl .rfl
  · exact ⟨fun present => present, rfl, .rfl⟩

/-- Whoever does not read from a subscription leaves it registered, and its reader alone. -/
theorem step_spares {move : ContentionStep} (other : move.reader? ≠ some id) :
    Spares id state (state.step move) := by
  have unmoved : Spares id state state := ⟨fun present => present, rfl, .rfl⟩
  cases move with
  | subscribe =>
      simp only [step]
      split
      · refine ⟨fun present => ?_, rfl, .rfl⟩
        rw [state.bus.ids_subscribe]
        exact List.mem_append_left _ present
      · exact unmoved
  | unsubscribe reader =>
      have different : id ≠ reader := fun same => other (by rw [same]; rfl)
      simp only [step]
      split
      · refine ⟨fun present => ?_, rfl, .rfl⟩
        rw [state.bus.ids_unsubscribe]
        exact List.mem_filter.mpr ⟨present, bne_iff_ne.mpr different⟩
      · exact unmoved
  | close | publish =>
      simp only [step]
      split
      · exact ⟨fun present => present, rfl, .rfl⟩
      · exact unmoved
  | proceed =>
      simp only [step]
      split
      · exact unmoved
      · exact proceed_spares _
  | take reader =>
      have different : id ≠ reader := fun same => other (by rw [same]; rfl)
      simp only [step]
      split
      · exact unmoved
      · split
        · exact unmoved
        · exact .of_change Subscription.take_keeps rfl (by simp [takenBy, takeBy, different.symm])
            (by simp [takeBy, different])
  | settle reader =>
      have different : id ≠ reader := fun same => other (by rw [same]; rfl)
      simp only [step]
      split
      · exact .of_change Subscription.settle_keeps rfl rfl (by simp [settleBy, different])
      · exact unmoved

/-! ### What every step does to publications -/

/-- Readers leave publications alone. -/
theorem step_reaches {move : ContentionStep} (reads : move.reader? ≠ none) :
    (state.step move).reaches = state.reaches := by
  cases move with
  | subscribe | close | publish | proceed => exact absurd rfl reads
  | unsubscribe | settle =>
      simp only [step]
      split <;> rfl
  | take =>
      simp only [step]
      split
      · rfl
      · split <;> rfl

/-- Deliveries and publications only grow. A publication is for the subscriptions that there are,
and there is none once the bus is closed. -/
structure Advances (state after : Contention) : Prop where
  delivered : ∀ id, state.deliveredTo id <+: after.deliveredTo id
  publications : after.publications = state.publications ∨
    ∃ publication, after.publications = state.publications ++ [publication] ∧
      publication.registered = state.bus.ids ∧ state.publishing ≠ none
  shut : (state.bus.isOpen = false → state.publishing = none) →
    after.bus.isOpen = false → after.publishing = none
  silent : state.bus.isOpen = false → state.publishing = none →
    after.bus.isOpen = false ∧ after.reaches = state.reaches

/-- A step that leaves publications alone. -/
theorem Advances.of_same (reaches : after.reaches = state.reaches)
    (publications : after.publications = state.publications)
    (shut : (state.bus.isOpen = false → state.publishing = none) →
      after.bus.isOpen = false → after.publishing = none)
    (closed : state.bus.isOpen = false → state.publishing = none → after.bus.isOpen = false) :
    Advances state after where
  delivered := fun id => by simp only [deliveredTo, reaches, List.prefix_rfl]
  publications := .inl publications
  shut := shut
  silent := fun isClosed free => ⟨closed isClosed free, reaches⟩

/-- The publisher lets go of the registry. -/
theorem Advances.of_ended {publishing : Publishing} {publication : Publication}
    (held : state.publishing = some publishing) (reaches : after.reaches = state.reaches)
    (publications : after.publications = state.publications ++ [publication])
    (registered : publication.registered = state.bus.ids) (free : after.publishing = none) :
    Advances state after := by
  have busy : state.publishing ≠ none := by
    rw [held]
    exact Option.some_ne_none publishing
  refine ⟨fun id => ?_, .inr ⟨_, publications, registered, busy⟩, fun _ _ => free,
    fun _ unheld => absurd unheld busy⟩
  simp only [deliveredTo, reaches, List.prefix_rfl]

theorem Occurs.advances (occurs : Occurs state after) (registered : state.IsRegistered) :
    Advances state after := by
  cases occurs with
  | subscribed free | unsubscribed _ free =>
      exact .of_same rfl rfl (fun _ _ => free) fun closed _ => closed
  | closed free => exact .of_same rfl rfl (fun _ _ => free) fun _ _ => rfl
  | announced signature free isOpen =>
      refine ⟨fun id => ?_, .inl rfl, fun _ closed => ?_, fun closed _ => ?_⟩
      · rw [deliveredTo, deliveredTo, reaches_announce signature free, List.filter_append,
          List.map_append]
        exact List.prefix_append _ _
      · exact absurd isOpen (Bool.eq_false_iff.mp closed)
      · exact absurd isOpen (Bool.eq_false_iff.mp closed)
  | queued publishing id later held counted next =>
      have unreached := (registered.next held next).2
      refine ⟨fun other => ?_, .inl rfl, fun shut closed => ?_, fun _ free => ?_⟩
      · by_cases same : other = id
        · subst same
          rw [delivered_queue held unreached]
          exact List.prefix_append _ _
        · simp only [delivered_queue_other held same, List.prefix_rfl]
      · rw [shut closed] at held
        cases held
      · rw [free] at held
        cases held
  | counted publishing id backlog held owed fits =>
      refine .of_same ?_ rfl (fun shut closed => ?_) fun closed _ => closed
      · simp [reaches, held]
      · rw [shut closed] at held
        cases held
  | stopped publishing id held owed =>
      exact .of_ended held (reaches_finish held _) rfl (registered.held publishing held) rfl
  | answered publishing held counted ended =>
      exact .of_ended held (reaches_finish held _) rfl (registered.held publishing held) rfl
  | taken id subscription first later found waiting idle =>
      exact .of_same rfl rfl (fun shut closed => shut closed) fun closed _ => closed
  | settled id received =>
      exact .of_same rfl rfl (fun shut closed => shut closed) fun closed _ => closed

theorem step_advances (registered : state.IsRegistered) (move : ContentionStep) :
    Advances state (state.step move) := by
  rcases state.step_cases move with same | occurs
  · rw [same]
    exact .of_same rfl rfl (fun shut closed => shut closed) fun closed _ => closed
  · exact occurs.advances registered

end Contention

namespace Watch

/-! ### What is published for a consumer -/

/-- What was published since the registration, with the subscriptions that it has reached. -/
def since (watch : Watch) : List (Signature × List Nat) :=
  watch.contention.reaches.drop watch.earlier

def published (watch : Watch) : List Signature := watch.since.map Prod.fst

/-- What has arrived in the queue of the consumer. -/
def arrived (watch : Watch) : List Signature :=
  (watch.since.filter fun reach => watch.consumer.subscription ∈ reach.2).map Prod.fst

/-- The publications since the registration that have ended. -/
def publications (watch : Watch) : List Publication :=
  watch.contention.publications.drop watch.earlier

variable {capacity : UInt64} {watch : Watch} {state : Contention} {id count : Nat}

/-- The bus of a consumer that was registered after so many publications. -/
structure IsCurrent (capacity : UInt64) (id count : Nat) (state : Contention) : Prop where
  accounted : state.IsAccounted capacity
  shut : state.bus.isOpen = false → state.publishing = none
  bounded : count ≤ state.publications.length
  unreached : ∀ publication ∈ state.publications.take count, id ∉ publication.reached

theorem IsCurrent.advances (current : IsCurrent capacity id count state)
    (move : ContentionStep) : state.Advances (state.step move) :=
  Contention.step_advances current.accounted.registered move

theorem IsCurrent.step (current : IsCurrent capacity id count state) (move : ContentionStep) :
    IsCurrent capacity id count (state.step move) := by
  have advances := current.advances move
  refine ⟨current.accounted.step move, advances.shut current.shut, ?_, ?_⟩
  · exact Nat.le_trans current.bounded (state.publications_step move).length_le
  · obtain ⟨more, grown⟩ := state.publications_step move
    rw [← grown, List.take_append_of_le_length current.bounded]
    exact current.unreached

/-- While its subscription is registered, every publication is for the consumer. -/
theorem IsCurrent.registered_step (current : IsCurrent capacity id count state)
    (registered : ∀ publication ∈ state.publications.drop count, id ∈ publication.registered)
    (present : state.publishing ≠ none → id ∈ state.bus.ids) (move : ContentionStep) :
    ∀ publication ∈ (state.step move).publications.drop count,
      id ∈ publication.registered := by
  rcases (current.advances move).publications with same | ⟨last, grown, listed, held⟩
  · rw [same]
    exact registered
  · rw [grown, List.drop_append_of_le_length current.bounded]
    intro publication member
    rcases List.mem_append.mp member with before | now
    · exact registered publication before
    · rw [List.mem_singleton.mp now, listed]
      exact present held

/-- What arrives is all that reaches the subscription, since it was not there before. -/
theorem IsCurrent.delivered (current : IsCurrent capacity id count state) :
    state.deliveredTo id =
      ((state.reaches.drop count).filter fun reach => id ∈ reach.2).map Prod.fst := by
  have before : state.reaches.take count =
      (state.publications.take count).map fun publication =>
        (publication.signature, publication.reached) := by
    rw [Contention.reaches, List.take_append_of_le_length, List.map_take]
    rw [List.length_map]
    exact current.bounded
  have nothing : (state.reaches.take count).filter (fun reach => id ∈ reach.2) = [] := by
    rw [before, List.filter_eq_nil_iff]
    intro reach member
    obtain ⟨publication, among, rfl⟩ := List.mem_map.mp member
    simpa using current.unreached publication among
  rw [Contention.deliveredTo]
  nth_rewrite 1 [← List.take_append_drop count state.reaches]
  rw [List.filter_append, nothing, List.nil_append]

/-! ### What every move keeps -/

/-- An event that has arrived is in the queue, in the hand of the consumer, or handed over, as long
as the consumer is at work; what it has been handed when it ends has arrived first. -/
structure Sound (capacity : UInt64) (watch : Watch) : Prop where
  current : IsCurrent capacity watch.consumer.subscription watch.earlier watch.contention
  present : watch.consumer.stage ≠ .finished →
    watch.consumer.subscription ∈ watch.contention.bus.ids
  taken : watch.consumer.stage ≠ .finished →
    watch.consumer.received ++ watch.consumer.stage.inHand =
      watch.contention.takenBy watch.consumer.subscription
  received : watch.consumer.received <+:
    watch.contention.deliveredTo watch.consumer.subscription
  receiving : watch.consumer.subscription ∈ watch.contention.receiving →
    ∃ signature, watch.consumer.stage = .holding signature
  /-- A consumer that is wanted ends with the bus. -/
  ended : watch.consumer.isWanted = true → watch.consumer.stage = .finished →
    watch.contention.bus.isOpen = false ∧
      watch.consumer.received = watch.contention.deliveredTo watch.consumer.subscription
  aborted : watch.consumer.isAborted = true → watch.consumer.isWanted = false
  registered : watch.consumer.isWanted = true →
    ∀ publication ∈ watch.publications, watch.consumer.subscription ∈ publication.registered

theorem Sound.account (sound : watch.Sound capacity)
    (working : watch.consumer.stage ≠ .finished) :
    ∃ subscription,
      watch.contention.bus.find? watch.consumer.subscription = some subscription ∧
        watch.consumer.received ++ watch.consumer.stage.inHand ++ subscription.waiting =
          watch.contention.deliveredTo watch.consumer.subscription := by
  obtain ⟨subscription, found⟩ :=
    (watch.contention.bus.mem_ids_iff).mp (sound.present working)
  refine ⟨subscription, found, ?_⟩
  rw [sound.taken working]
  exact sound.current.accounted.delivers _ subscription found

/-- Nothing is published for a consumer that has ended and is still wanted. -/
theorem Sound.registered_step (sound : watch.Sound capacity) (move : ContentionStep)
    (wanted : watch.consumer.isWanted = true) :
    ∀ publication ∈ (watch.contention.step move).publications.drop watch.earlier,
      watch.consumer.subscription ∈ publication.registered := by
  refine sound.current.registered_step (sound.registered wanted) (fun held => ?_) move
  by_cases finished : watch.consumer.stage = .finished
  · exact absurd (sound.current.shut (sound.ended wanted finished).1) held
  · exact sound.present finished

theorem Sound.ended_step (sound : watch.Sound capacity) (move : ContentionStep)
    (closed : watch.contention.bus.isOpen = false)
    (all : watch.consumer.received =
      watch.contention.deliveredTo watch.consumer.subscription) :
    (watch.contention.step move).bus.isOpen = false ∧
      watch.consumer.received =
        (watch.contention.step move).deliveredTo watch.consumer.subscription := by
  obtain ⟨stays, silent⟩ := (sound.current.advances move).silent closed
    (sound.current.shut closed)
  rw [all, Contention.deliveredTo, Contention.deliveredTo, silent]
  exact ⟨stays, rfl⟩

theorem Sound.use (sound : watch.Sound capacity) (step : ContentionStep) :
    (watch.move (.use step)).Sound capacity := by
  simp only [move]
  split
  · exact sound
  rename_i other
  have spares : Contention.Spares watch.consumer.subscription watch.contention _ :=
    Contention.step_spares other
  constructor
  · exact sound.current.step step
  · exact fun working => spares.present (sound.present working)
  · exact fun working => (sound.taken working).trans spares.taken.symm
  · exact sound.received.trans ((sound.current.advances step).delivered _)
  · exact fun receiving => sound.receiving (spares.receiving.mp receiving)
  · intro wanted finished
    obtain ⟨closed, all⟩ := sound.ended wanted finished
    exact sound.ended_step step closed all
  · exact sound.aborted
  · exact sound.registered_step step

/-- A consumer that ends gives up its subscription; if it is still wanted, it is the bus that has
ended. -/
theorem Sound.finish (sound : watch.Sound capacity)
    (idle : watch.consumer.subscription ∉ watch.contention.receiving)
    (last : watch.consumer.isWanted = true → watch.contention.bus.isOpen = false ∧
      watch.consumer.received =
        watch.contention.deliveredTo watch.consumer.subscription) :
    watch.finish.Sound capacity := by
  unfold Watch.finish
  split
  · rename_i free
    have given : watch.contention.step (.unsubscribe watch.consumer.subscription) =
        { watch.contention with
          bus := watch.contention.bus.unsubscribe watch.consumer.subscription } := by
      simp [Contention.step, free, idle]
    constructor
    · exact sound.current.step (.unsubscribe watch.consumer.subscription)
    · exact fun working => absurd rfl working
    · exact fun working => absurd rfl working
    · exact sound.received.trans ((sound.current.advances _).delivered _)
    · intro receiving
      simp only [given] at receiving
      exact absurd receiving idle
    · intro wanted _
      obtain ⟨closed, all⟩ := last wanted
      exact sound.ended_step _ closed all
    · exact sound.aborted
    · exact sound.registered_step (.unsubscribe watch.consumer.subscription)
  · exact sound

/-! ### The steps of a consumer -/

/-- What the next step of a consumer does. -/
inductive Works (watch : Watch) : Watch → Prop
  | took {subscription : Subscription} {first : Signature} {later : List Signature}
      (waiting : watch.consumer.stage = .waiting)
      (found : watch.contention.bus.find? watch.consumer.subscription = some subscription)
      (queued : subscription.waiting = first :: later) :
      Works watch { watch with
        contention := watch.contention.step (.take watch.consumer.subscription)
        consumer := { watch.consumer with stage := .holding first } }
  | ended (waiting : watch.consumer.stage = .waiting)
      (drained : watch.contention.first? watch.consumer.subscription = none)
      (closed : watch.contention.bus.isOpen = false) : Works watch watch.finish
  | counted {signature : Signature} (holding : watch.consumer.stage = .holding signature)
      (receiving : watch.consumer.subscription ∈ watch.contention.receiving) :
      Works watch { watch with
        contention := watch.contention.step (.settle watch.consumer.subscription) }
  | admitted {signature : Signature} (holding : watch.consumer.stage = .holding signature)
      (idle : watch.consumer.subscription ∉ watch.contention.receiving)
      (wanted : watch.consumer.isWanted = true) :
      Works watch { watch with
        consumer := { watch.consumer with stage := .admitted signature } }
  | refused {signature : Signature} (holding : watch.consumer.stage = .holding signature)
      (idle : watch.consumer.subscription ∉ watch.contention.receiving)
      (unwanted : watch.consumer.isWanted = false) : Works watch watch.finish
  | handedOver {signature : Signature} (admitted : watch.consumer.stage = .admitted signature) :
      Works watch { watch with consumer := { watch.consumer with
        stage := .waiting
        received := watch.consumer.received ++ [signature] } }

/-- A consumer with nothing to do. -/
def IsIdle (watch : Watch) : Prop :=
  watch.consumer.stage = .finished ∨
    watch.consumer.stage = .waiting ∧
      watch.contention.first? watch.consumer.subscription = none ∧
      watch.contention.bus.isOpen = true

theorem work_cases (watch : Watch) :
    watch.Works watch.work ∨ watch.work = watch ∧ watch.IsIdle := by
  cases stage : watch.consumer.stage with
  | waiting =>
      rcases queued : watch.contention.first? watch.consumer.subscription with _ | first
      · rcases isOpen : watch.contention.bus.isOpen with _ | _
        · have worked : watch.work = watch.finish := by simp [work, stage, queued, isOpen]
          rw [worked]
          exact .inl (.ended stage queued isOpen)
        · exact .inr ⟨by simp [work, stage, queued, isOpen], .inr ⟨stage, queued, isOpen⟩⟩
      · obtain ⟨subscription, found, head⟩ := Option.bind_eq_some_iff.mp queued
        obtain ⟨later, waiting⟩ := List.head?_eq_some_iff.mp head
        simp only [work, stage, queued]
        exact .inl (.took stage found waiting)
  | holding signature =>
      by_cases receiving : watch.consumer.subscription ∈ watch.contention.receiving
      · simp only [work, stage, List.contains_eq_mem, receiving, decide_true, if_true]
        exact .inl (.counted stage receiving)
      · by_cases wanted : watch.consumer.isWanted = true
        · have worked : watch.work = { watch with
              consumer := { watch.consumer with stage := .admitted signature } } := by
            simp [work, stage, receiving, wanted]
          rw [worked]
          exact .inl (.admitted stage receiving wanted)
        · have worked : watch.work = watch.finish := by simp [work, stage, receiving, wanted]
          rw [worked]
          exact .inl (.refused stage receiving (Bool.eq_false_iff.mpr wanted))
  | admitted signature =>
      simp only [work, stage]
      exact .inl (.handedOver stage)
  | finished => exact .inr ⟨by simp only [work, stage], .inl stage⟩

/-- A waiting consumer is not receiving. -/
theorem Sound.idle (sound : watch.Sound capacity) (waiting : watch.consumer.stage = .waiting) :
    watch.consumer.subscription ∉ watch.contention.receiving := by
  intro receiving
  obtain ⟨signature, holding⟩ := sound.receiving receiving
  rw [waiting] at holding
  cases holding

/-- A waiting consumer with an empty queue has been handed all that has arrived. -/
theorem Sound.drained (sound : watch.Sound capacity)
    (waiting : watch.consumer.stage = .waiting)
    (drained : watch.contention.first? watch.consumer.subscription = none) :
    watch.consumer.received =
      watch.contention.deliveredTo watch.consumer.subscription := by
  obtain ⟨subscription, found, account⟩ := sound.account (by simp [waiting])
  rw [Contention.first?, found, Option.bind_some, List.head?_eq_none_iff] at drained
  rwa [waiting, drained, ConsumerStage.inHand, List.append_nil, List.append_nil] at account

theorem Sound.took (sound : watch.Sound capacity) {subscription : Subscription}
    {first : Signature} {later : List Signature} (waiting : watch.consumer.stage = .waiting)
    (found : watch.contention.bus.find? watch.consumer.subscription = some subscription)
    (queued : subscription.waiting = first :: later) :
    Sound capacity { watch with
      contention := watch.contention.step (.take watch.consumer.subscription)
      consumer := { watch.consumer with stage := .holding first } } := by
  have working : watch.consumer.stage ≠ .finished := by simp [waiting]
  have takes := Contention.step_take found queued (sound.idle waiting)
  have before := sound.taken working
  rw [waiting, ConsumerStage.inHand, List.append_nil] at before
  constructor
  · exact sound.current.step (.take watch.consumer.subscription)
  · intro _
    simp only [takes]
    exact (watch.contention.bus.ids_change Subscription.take_keeps _).symm ▸
      sound.present working
  · intro _
    simp only [takes, before, ConsumerStage.inHand, Contention.takenBy, Contention.takeBy,
      List.filter_append, List.map_append]
    simp
  · exact sound.received.trans ((sound.current.advances _).delivered _)
  · exact fun _ => ⟨first, rfl⟩
  · exact fun _ finished => by cases finished
  · exact sound.aborted
  · exact sound.registered_step (.take watch.consumer.subscription)

theorem Sound.counted (sound : watch.Sound capacity) {signature : Signature}
    (holding : watch.consumer.stage = .holding signature)
    (receiving : watch.consumer.subscription ∈ watch.contention.receiving) :
    Sound capacity { watch with
      contention := watch.contention.step (.settle watch.consumer.subscription) } := by
  have working : watch.consumer.stage ≠ .finished := by simp [holding]
  have settles := Contention.step_settle receiving
  constructor
  · exact sound.current.step (.settle watch.consumer.subscription)
  · intro _
    simp only [settles]
    exact (watch.contention.bus.ids_change Subscription.settle_keeps _).symm ▸
      sound.present working
  · intro _
    simp only [settles]
    exact sound.taken working
  · exact sound.received.trans ((sound.current.advances _).delivered _)
  · exact fun _ => ⟨signature, holding⟩
  · exact fun _ finished => absurd finished working
  · exact sound.aborted
  · exact sound.registered_step (.settle watch.consumer.subscription)

theorem Sound.worked (sound : watch.Sound capacity) {after : Watch}
    (works : watch.Works after) : after.Sound capacity := by
  cases works with
  | took waiting found queued => exact sound.took waiting found queued
  | ended waiting drained closed =>
      exact sound.finish (sound.idle waiting) fun _ => ⟨closed, sound.drained waiting drained⟩
  | counted holding receiving => exact sound.counted holding receiving
  | @admitted signature holding idle wanted =>
      have working : watch.consumer.stage ≠ .finished := by simp [holding]
      have taken := sound.taken working
      rw [holding] at taken
      exact ⟨sound.current, fun _ => sound.present working, fun _ => taken, sound.received,
        fun receiving => absurd receiving idle, fun _ finished => (by cases finished),
        sound.aborted, sound.registered⟩
  | refused holding idle unwanted =>
      refine sound.finish idle fun wanted => ?_
      rw [unwanted] at wanted
      cases wanted
  | @handedOver signature admitted =>
      have working : watch.consumer.stage ≠ .finished := by simp [admitted]
      obtain ⟨subscription, _, account⟩ := sound.account working
      have taken := sound.taken working
      rw [admitted, ConsumerStage.inHand] at taken account
      refine ⟨sound.current, fun _ => sound.present working, fun _ => ?_,
        ⟨subscription.waiting, account⟩, fun receiving => ?_, fun _ finished => (by cases finished),
        sound.aborted, sound.registered⟩
      · rw [ConsumerStage.inHand, List.append_nil]
        exact taken
      · obtain ⟨other, holding⟩ := sound.receiving receiving
        rw [admitted] at holding
        cases holding

theorem Sound.work (sound : watch.Sound capacity) : watch.work.Sound capacity := by
  rcases watch.work_cases with works | ⟨same, _⟩
  · exact sound.worked works
  · rw [same]
    exact sound

theorem Sound.move (sound : watch.Sound capacity) (move : WatchMove) :
    (watch.move move).Sound capacity := by
  cases move with
  | use step => exact sound.use step
  | work => exact sound.work
  | dismiss =>
      exact ⟨sound.current, sound.present, sound.taken, sound.received, sound.receiving, nofun,
        fun _ => rfl, nofun⟩
  | abort =>
      simp only [Watch.move]
      split
      · exact sound
      · rename_i unwanted
        exact ⟨sound.current, sound.present, sound.taken, sound.received, sound.receiving,
          sound.ended, fun _ => Bool.eq_false_iff.mpr unwanted, sound.registered⟩
  | stop =>
      simp only [Watch.move]
      split
      · rename_i stoppable
        obtain ⟨aborted, waiting⟩ := Bool.and_eq_true_iff.mp stoppable
        refine sound.finish (sound.idle (eq_of_beq waiting)) fun wanted => ?_
        rw [sound.aborted aborted] at wanted
        cases wanted
      · exact sound

theorem Sound.run (sound : watch.Sound capacity) (moves : List WatchMove) :
    (watch.run moves).Sound capacity := by
  induction moves generalizing watch with
  | nil => exact sound
  | cons move later inductive_hypothesis => exact inductive_hypothesis (sound.move move)

/-! ### The registration -/

theorem register_sound (accounted : state.IsAccounted capacity)
    (free : state.publishing = none) : (register state).Sound capacity := by
  have known := accounted.registered
  constructor
  · refine ⟨accounted.occurs (.subscribed free), fun _ => free, Nat.le_refl _, ?_⟩
    change ∀ publication ∈ state.publications.take state.publications.length, _
    rw [List.take_length]
    intro publication member reached
    have among : (publication.signature, publication.reached) ∈ state.reaches :=
      List.mem_append_left _ (List.mem_map_of_mem member)
    exact Nat.lt_irrefl _ (known.reached _ among _ reached)
  · intro _
    change state.bus.nextId ∈ state.bus.subscribe.2.ids
    rw [state.bus.ids_subscribe]
    exact List.mem_append_right _ (List.mem_singleton_self _)
  · exact fun _ => (known.taken_by_new (Nat.le_refl _)).symm
  · exact List.nil_prefix
  · exact fun receiving =>
      absurd (known.known _ (known.receiving _ receiving)) (Nat.lt_irrefl _)
  · exact fun _ finished => by cases finished
  · exact fun aborted => by cases aborted
  · intro _
    change ∀ publication ∈ state.publications.drop state.publications.length, _
    rw [List.drop_length]
    exact nofun

end Watch
end ProvenBlocks
