import ProvenBlocks.Proofs.Contention

/-!
What becomes of a backlog that a publisher and a reader count at the same time. Whatever comes
between their steps, a backlog is off its queue by no more than the two steps under way. But an
event can be taken from the queue and from the count before its publisher has counted it. The count
has then gone below zero, its successor overflows, and the publisher stops before it has reached
the later subscriptions.
-/

namespace ProvenBlocks

/-- The count of a queued event overflows where the event is no longer counted in what is left of
the queue. -/
theorem checked_succ_overflows_iff {value : UInt64} {count : Nat}
    (counted : value + 1 = UInt64.ofNat count) :
    (∃ overflow, checkedSucc value = .error overflow) ↔ 2 ^ 64 ∣ count := by
  have word := value.toNat_lt
  have wrapped := congrArg UInt64.toNat counted
  rw [UInt64.toNat_add, UInt64.toNat_ofNat', UInt64.toNat_one] at wrapped
  by_cases bounded : value.toNat < 2 ^ 64 - 1
  · rw [checked_succ_ok bounded]
    simp only [reduceCtorEq, exists_false, false_iff]
    omega
  · have full : value.toNat = 2 ^ 64 - 1 := by omega
    rw [checked_succ_overflow full]
    simp only [Except.error.injEq, exists_eq', true_iff]
    omega

/-- Settling one of the events wraps with the count. -/
theorem counted_less {backlog owed : UInt64} {count : Nat}
    (counted : backlog + owed = UInt64.ofNat (count + 1)) :
    backlog - 1 + owed = UInt64.ofNat count := by
  have succ : UInt64.ofNat (count + 1) = UInt64.ofNat count + 1 := UInt64.ofNat_add count 1
  grind

/-- A publication has reached every registered subscription, or was stopped at the last one that it
reached. -/
inductive Publication.IsExplained (capacity : UInt64) (publication : Publication) : Prop
  | complete (all : publication.reached = publication.registered) (greatest : UInt64)
      (answers : Delivery.Answers capacity publication.registered.length greatest
        publication.answer)
  | stopped (before later : List Nat) (last : Nat)
      (registered : publication.registered = before ++ last :: later)
      (reached : publication.reached = before ++ [last])
      (answer : publication.answer = .error .addition)

/-- The steps that a publisher has before it, if nothing stops it. -/
def Publishing.stepsLeft (publishing : Publishing) : Nat :=
  2 * publishing.remaining.length + (if publishing.uncounted.isSome then 1 else 0) + 1

namespace Contention

variable {state after : Contention}

/-! ### Counts -/

/-- The subscription that has an event in its queue and not yet in its backlog. -/
def uncounted (state : Contention) : Option Nat := state.publishing.bind Publishing.uncounted

/-- How many events the reader of a subscription has not taken from its backlog. -/
def unsettled (state : Contention) (subscription : Subscription) : Nat :=
  subscription.waiting.length + if subscription.id ∈ state.receiving then 1 else 0

/-- A backlog counts what its reader has not settled, but for the event that its publisher has not
counted. -/
def IsCounted (state : Contention) (subscription : Subscription) : Prop :=
  subscription.backlog + (if state.uncounted = some subscription.id then 1 else 0) =
    UInt64.ofNat (state.unsettled subscription)

/-- Only steps on a subscription bear on its count. -/
theorem IsCounted.of_same {subscription : Subscription} (counted : state.IsCounted subscription)
    (owed : after.uncounted = some subscription.id ↔ state.uncounted = some subscription.id)
    (receiving : subscription.id ∈ after.receiving ↔ subscription.id ∈ state.receiving) :
    after.IsCounted subscription := by
  rw [IsCounted, unsettled] at counted ⊢
  simpa only [owed, receiving] using counted

def AllCounted (state : Contention) : Prop :=
  ∀ id subscription, state.bus.find? id = some subscription → state.IsCounted subscription

/-- A step on one subscription. -/
theorem AllCounted.change {changed : Subscription → Subscription} (counts : state.AllCounted)
    (keeps : Subscription.Keeps changed) {id : Nat} (bus : after.bus = state.bus.change id changed)
    (owed : ∀ other ≠ id, after.uncounted = some other ↔ state.uncounted = some other)
    (receiving : ∀ other ≠ id, other ∈ after.receiving ↔ other ∈ state.receiving)
    (counted : ∀ subscription, state.bus.find? id = some subscription → subscription.id = id →
      state.IsCounted subscription → after.IsCounted (changed subscription)) :
    after.AllCounted := by
  intro reader subscription found
  rw [bus] at found
  rcases state.bus.find_change_cases keeps found with
    ⟨other, earlier⟩ | ⟨rfl, before, earlier, rfl⟩
  · have named := state.bus.find_named earlier
    apply (counts reader subscription earlier).of_same
    · exact owed _ (by rwa [named])
    · exact receiving _ (by rwa [named])
  · exact counted before earlier (state.bus.find_named earlier) (counts _ before earlier)

/-- The publisher counts the event, whether or not the count stops it. -/
theorem AllCounted.count {publishing : Publishing} {id : Nat} (counts : state.AllCounted)
    (held : state.publishing = some publishing) (owed : publishing.uncounted = some id)
    (bus : after.bus = state.bus.change id .count) (settled : after.uncounted = none)
    (receiving : after.receiving = state.receiving) : after.AllCounted := by
  have owes : state.uncounted = some id := by rw [uncounted, held]; exact owed
  refine counts.change Subscription.count_keeps bus ?_ ?_ ?_
  · intro other different
    simp [settled, owes, different.symm]
  · intro other _
    rw [receiving]
  · intro subscription _ named counted
    simp only [IsCounted, unsettled, owes, named, if_true] at counted
    simp only [IsCounted, unsettled, settled, receiving, Subscription.count, named, reduceCtorEq,
      if_false, ← counted]
    exact UInt64.add_zero _

theorem Occurs.counts (occurs : Occurs state after) (registered : state.IsRegistered)
    (counts : state.AllCounted) : after.AllCounted := by
  cases occurs with
  | subscribed free =>
      intro reader subscription found
      rcases state.bus.find_subscribe_cases found with earlier | ⟨rfl, rfl⟩
      · exact (counts reader subscription earlier).of_same .rfl .rfl
      · have unused : state.bus.nextId ∉ state.receiving := fun member =>
          Nat.lt_irrefl _ (registered.known _ (registered.receiving _ member))
        simp [IsCounted, unsettled, uncounted, free, unused]
  | unsubscribed id free idle =>
      intro reader subscription found
      exact (counts reader subscription (state.bus.find_of_unsubscribed found)).of_same .rfl .rfl
  | closed free =>
      exact fun reader subscription found => (counts reader subscription found).of_same .rfl .rfl
  | announced signature free isOpen =>
      intro reader subscription found
      exact (counts reader subscription found).of_same (by simp [uncounted, announce, free]) .rfl
  | queued publishing id later held counted next =>
      -- The event is in the queue and owed to the count.
      have owes : state.uncounted = none := by rw [uncounted, held]; exact counted
      refine counts.change (Subscription.queue_keeps publishing.signature) rfl ?_ ?_ ?_
      · intro other different
        simp [uncounted, queueFor, held, counted, different.symm]
      · exact fun _ _ => .rfl
      · intro subscription _ named kept
        simp only [IsCounted, unsettled, owes, named, reduceCtorEq, if_false] at kept
        simp only [IsCounted, unsettled, uncounted, queueFor, Subscription.queue, named,
          Option.bind_some, if_true, List.length_append, List.length_singleton]
        rw [Nat.add_right_comm, UInt64.ofNat_add, ← kept, UInt64.add_zero]
        rfl
  | counted publishing id backlog held owed fits => exact counts.count held owed rfl rfl rfl
  | stopped publishing id held owed => exact counts.count held owed rfl rfl rfl
  | answered publishing held counted ended =>
      intro reader subscription found
      refine (counts reader subscription found).of_same ?_ .rfl
      simp [uncounted, finish, held, counted]
  | taken id subscription first later found waiting idle =>
      -- What leaves the queue is in the hand of its reader until it is settled.
      refine counts.change Subscription.take_keeps rfl (fun _ _ => .rfl) ?_ ?_
      · intro other different
        simp [takeBy, different]
      · intro same present named kept
        rw [found, Option.some.injEq] at present
        subst present
        simp only [IsCounted, unsettled, named, idle, waiting, if_false] at kept
        simp only [IsCounted, unsettled, takeBy, Subscription.take, named, waiting, List.tail_cons,
          List.mem_append, List.mem_singleton, or_true, if_true]
        exact kept
  | settled id received =>
      refine counts.change Subscription.settle_keeps rfl (fun _ _ => .rfl) ?_ ?_
      · intro other different
        simp [settleBy, different]
      · intro subscription _ named kept
        simp only [IsCounted, unsettled, named, received, if_true] at kept
        simp only [IsCounted, unsettled, settleBy, Subscription.settle, named, List.mem_filter,
          bne_self_eq_false, Bool.false_eq_true, and_false, if_false, Nat.add_zero]
        exact counted_less kept

/-! ### Deliveries -/

/-- The events that have reached a subscription, in the order of their publication. -/
def deliveredTo (state : Contention) (id : Nat) : List Signature :=
  (state.reaches.filter fun reach => id ∈ reach.2).map Prod.fst

theorem delivered_queue {publishing : Publishing} {id : Nat}
    (held : state.publishing = some publishing) (unreached : id ∉ publishing.reached)
    (later : List Nat) :
    (state.queueFor publishing id later).deliveredTo id =
      state.deliveredTo id ++ [publishing.signature] := by
  obtain ⟨earlier, before, after⟩ := reaches_queue held id later
  rw [deliveredTo, deliveredTo, after, before]
  simp [unreached]

theorem delivered_queue_other {publishing : Publishing} {id other : Nat}
    (held : state.publishing = some publishing) (different : other ≠ id) (later : List Nat) :
    (state.queueFor publishing id later).deliveredTo other = state.deliveredTo other := by
  obtain ⟨earlier, before, after⟩ := reaches_queue held id later
  rw [deliveredTo, deliveredTo, after, before]
  by_cases reached : other ∈ publishing.reached <;> simp [reached, different]

/-- The events that the reader of a subscription has taken. -/
def takenBy (state : Contention) (id : Nat) : List Signature :=
  (state.taken.filter fun entry => entry.1 = id).map Prod.snd

/-- Nobody has taken anything from a subscription that there has not been. -/
theorem IsRegistered.taken_by_new (registered : state.IsRegistered) {id : Nat}
    (new : state.bus.nextId ≤ id) : state.takenBy id = [] := by
  rw [takenBy, List.map_eq_nil_iff, List.filter_eq_nil_iff]
  intro entry member
  have known := registered.taken entry member
  simp only [decide_eq_true_eq]
  omega

/-- What was delivered is what was taken and what waits. -/
def AllDelivered (state : Contention) : Prop :=
  ∀ id subscription, state.bus.find? id = some subscription →
    state.takenBy id ++ subscription.waiting = state.deliveredTo id

theorem AllDelivered.of_same (delivers : state.AllDelivered) (same : after.reaches = state.reaches)
    (taken : after.taken = state.taken)
    (waiting : ∀ id subscription, after.bus.find? id = some subscription →
      ∃ before, state.bus.find? id = some before ∧ subscription.waiting = before.waiting) :
    after.AllDelivered := by
  intro id subscription found
  obtain ⟨before, earlier, unmoved⟩ := waiting id subscription found
  rw [unmoved, takenBy, deliveredTo, same, taken]
  exact delivers id before earlier

/-- A step on the count of one subscription moves no event. -/
theorem AllDelivered.recount {changed : Subscription → Subscription}
    (delivers : state.AllDelivered) (keeps : Subscription.Keeps changed)
    (unmoved : ∀ subscription, (changed subscription).waiting = subscription.waiting) {id : Nat}
    (bus : after.bus = state.bus.change id changed) (same : after.reaches = state.reaches)
    (taken : after.taken = state.taken) : after.AllDelivered := by
  refine delivers.of_same same taken ?_
  intro other subscription found
  rw [bus] at found
  rcases state.bus.find_change_cases keeps found with ⟨_, earlier⟩ | ⟨rfl, before, earlier, rfl⟩
  · exact ⟨subscription, earlier, rfl⟩
  · exact ⟨before, earlier, unmoved before⟩

theorem Occurs.delivers (occurs : Occurs state after) (registered : state.IsRegistered)
    (delivers : state.AllDelivered) : after.AllDelivered := by
  cases occurs with
  | subscribed free =>
      intro id subscription found
      rcases state.bus.find_subscribe_cases found with earlier | ⟨new, rfl⟩
      · exact delivers id subscription earlier
      · have nothing_taken : state.takenBy id = [] :=
          registered.taken_by_new (Nat.le_of_eq new.symm)
        have nothing_delivered : state.deliveredTo id = [] := by
          rw [deliveredTo, List.map_eq_nil_iff, List.filter_eq_nil_iff]
          intro reach member reached
          have known := registered.reached reach member id (of_decide_eq_true reached)
          omega
        exact (congrArg (· ++ []) nothing_taken).trans nothing_delivered.symm
  | unsubscribed id free idle =>
      exact delivers.of_same rfl rfl fun other subscription found =>
        ⟨subscription, state.bus.find_of_unsubscribed found, rfl⟩
  | closed free => exact delivers
  | announced signature free isOpen =>
      intro id subscription found
      rw [deliveredTo, reaches_announce signature free, List.filter_append, List.map_append]
      exact (delivers id subscription found).trans (List.append_nil _).symm
  | queued publishing id later held counted next =>
      have unreached := (registered.next held next).2
      intro other subscription found
      rcases state.bus.find_change_cases (Subscription.queue_keeps publishing.signature) found with
        ⟨different, earlier⟩ | ⟨rfl, before, earlier, rfl⟩
      · rw [delivered_queue_other held different]
        exact delivers other subscription earlier
      · rw [delivered_queue held unreached, ← delivers other before earlier, List.append_assoc]
        rfl
  | counted publishing id backlog held owed fits =>
      refine delivers.recount Subscription.count_keeps (fun _ => rfl) rfl ?_ rfl
      simp [reaches, held]
  | stopped publishing id held owed =>
      exact delivers.recount Subscription.count_keeps (fun _ => rfl) rfl (reaches_finish held _) rfl
  | answered publishing held counted ended =>
      exact delivers.of_same (reaches_finish held _) rfl fun _ subscription found =>
        ⟨subscription, found, rfl⟩
  | taken id subscription first later found waiting idle =>
      intro other next present
      rcases state.bus.find_change_cases Subscription.take_keeps present with
        ⟨different, earlier⟩ | ⟨rfl, before, earlier, rfl⟩
      · have kept := delivers other next earlier
        simpa [takenBy, takeBy, List.filter_append, List.filter_singleton, different.symm,
          deliveredTo, reaches] using kept
      · have kept := delivers other before earlier
        rw [found, Option.some.injEq] at earlier
        subst earlier
        simpa [takenBy, takeBy, List.filter_append, List.filter_singleton, Subscription.take,
          waiting, deliveredTo, reaches] using kept
  | settled id received =>
      exact delivers.recount Subscription.settle_keeps (fun _ => rfl) rfl rfl rfl

/-! ### Publications -/

theorem Occurs.capacity (occurs : Occurs state after) :
    after.bus.capacity = state.bus.capacity := by
  cases occurs <;> rfl

theorem Occurs.explains (occurs : Occurs state after) (registered : state.IsRegistered)
    (explained : ∀ publication ∈ state.publications,
      publication.IsExplained state.bus.capacity) :
    ∀ publication ∈ after.publications, publication.IsExplained state.bus.capacity := by
  cases occurs with
  | stopped publishing id held owed =>
      intro publication member
      rcases List.mem_append.mp member with earlier | now
      · exact explained publication earlier
      · obtain ⟨before, reached⟩ := registered.last publishing id held owed
        rw [List.mem_singleton.mp now]
        refine .stopped before publishing.remaining id ?_ reached rfl
        simp [Publishing.registered, reached]
  | answered publishing held counted ended =>
      intro publication member
      rcases List.mem_append.mp member with earlier | now
      · exact explained publication earlier
      · have all : publishing.registered = publishing.reached := by
          rw [Publishing.registered, ended, List.append_nil]
        have listed : publishing.registered.length = state.bus.subscriberCount := by
          rw [registered.held publishing held, Bus.ids, List.length_map]
          rfl
        rw [List.mem_singleton.mp now]
        refine .complete all.symm publishing.greatest ?_
        rw [listed]
        exact state.bus.answer_answers _
  | _ => exact explained

theorem IsRegistered.steps_left {publishing : Publishing} (registered : state.IsRegistered)
    (held : state.publishing = some publishing) :
    publishing.stepsLeft ≤ 2 * publishing.registered.length + 1 := by
  rw [Publishing.stepsLeft, Publishing.registered, List.length_append]
  rcases owed : publishing.uncounted with _ | id
  · simp only [Option.isSome_none, Bool.false_eq_true, if_false]
    omega
  · obtain ⟨before, reached⟩ := registered.last publishing id held owed
    simp only [Option.isSome_some, if_true, reached, List.length_append, List.length_singleton]
    omega

/-- A step of the publisher ends the publication or brings its end nearer. -/
theorem proceed_advances (state : Contention) (publishing : Publishing) :
    state.publications.length < (state.proceed publishing).publications.length ∨
      (state.proceed publishing).publications = state.publications ∧
        ∃ next, (state.proceed publishing).publishing = some next ∧
          next.stepsLeft + 1 = publishing.stepsLeft := by
  rcases owed : publishing.uncounted with _ | id
  · rcases next : publishing.remaining with _ | ⟨id, later⟩
    · simp only [proceed, owed, next]
      exact .inl (by simp [finish])
    · simp only [proceed, owed, next]
      refine .inr ⟨rfl, _, rfl, ?_⟩
      simp only [Publishing.stepsLeft, owed, next, List.length_cons, Option.isSome_some,
        Option.isSome_none, Bool.false_eq_true, if_true, if_false]
      omega
  · simp only [proceed, owed, countFor]
    rcases checkedSucc (state.bus.backlog id) with overflow | backlog
    · exact .inl (by simp [finish])
    · refine .inr ⟨rfl, _, rfl, ?_⟩
      simp [Publishing.stepsLeft, owed]

/-- Nobody but the publisher moves a publication. -/
theorem step_held {publishing : Publishing} {move : ContentionStep}
    (held : state.publishing = some publishing) (other : move ≠ .proceed) :
    (state.step move).publishing = some publishing ∧
      (state.step move).publications = state.publications := by
  cases move with
  | proceed => exact absurd rfl other
  | subscribe | unsubscribe | close | publish => simp [step, held]
  | take id =>
      simp only [step]
      split
      · exact ⟨held, rfl⟩
      · split
        · exact ⟨held, rfl⟩
        · exact ⟨held, rfl⟩
  | settle id =>
      simp only [step]
      split
      · exact ⟨held, rfl⟩
      · exact ⟨held, rfl⟩

theorem publications_step (state : Contention) (move : ContentionStep) :
    state.publications <+: (state.step move).publications := by
  rcases state.step_cases move with same | occurs
  · simp only [same, List.prefix_rfl]
  · generalize state.step move = after at occurs
    cases occurs with
    | stopped | answered => exact List.prefix_append _ _
    | _ => exact List.prefix_rfl

theorem publications_run (state : Contention) (moves : List ContentionStep) :
    state.publications <+: (state.run moves).publications := by
  induction moves generalizing state with
  | nil => exact List.prefix_rfl
  | cons move later inductive_hypothesis =>
      exact (state.publications_step move).trans (inductive_hypothesis (state.step move))

/-- A publisher that proceeds comes to an end, whatever readers do meanwhile: only its own steps
lower the number of those before it. -/
theorem publication_ends {publishing : Publishing} (held : state.publishing = some publishing)
    {moves : List ContentionStep} (proceeds : publishing.stepsLeft ≤ moves.count .proceed) :
    state.publications.length < (state.run moves).publications.length := by
  induction moves generalizing state publishing with
  | nil => exact absurd proceeds (by simp [Publishing.stepsLeft])
  | cons move later inductive_hypothesis =>
      by_cases proceed : move = .proceed
      · subst proceed
        have stepped : state.step .proceed = state.proceed publishing := by
          simp only [step, held]
        rw [run, List.foldl_cons, stepped]
        rcases state.proceed_advances publishing with ended | ⟨unended, next, holds, nearer⟩
        · have kept := ((state.proceed publishing).publications_run later).length_le
          exact Nat.lt_of_lt_of_le ended kept
        · rw [← unended]
          refine inductive_hypothesis holds ?_
          rw [List.count_cons_self] at proceeds
          omega
      · obtain ⟨holds, unended⟩ := step_held held proceed
        rw [run, List.foldl_cons, ← unended]
        refine inductive_hypothesis holds ?_
        rwa [List.count_cons_of_ne proceed] at proceeds

/-! ### Runs -/

/-- What holds of a bus under contention at every moment. -/
structure IsAccounted (capacity : UInt64) (state : Contention) : Prop where
  limit : state.bus.capacity = capacity
  registered : state.IsRegistered
  counts : state.AllCounted
  delivers : state.AllDelivered
  explained : ∀ publication ∈ state.publications, publication.IsExplained capacity

theorem IsAccounted.fresh (capacity : UInt64) :
    (fresh capacity).IsAccounted (max capacity 1) where
  limit := rfl
  registered := .fresh capacity
  counts := fun _ _ found => by cases found
  delivers := fun _ _ found => by cases found
  explained := fun _ member => by cases member

variable {capacity : UInt64}

theorem IsAccounted.occurs (accounted : state.IsAccounted capacity)
    (occurs : Occurs state after) : after.IsAccounted capacity := by
  have explained := accounted.explained
  rw [← accounted.limit] at explained
  refine ⟨?_, ?_, ?_, ?_, ?_⟩
  · exact occurs.capacity.trans accounted.limit
  · exact occurs.registered accounted.registered
  · exact occurs.counts accounted.registered accounted.counts
  · exact occurs.delivers accounted.registered accounted.delivers
  · rw [← accounted.limit]
    exact occurs.explains accounted.registered explained

theorem IsAccounted.step (accounted : state.IsAccounted capacity) (move : ContentionStep) :
    (state.step move).IsAccounted capacity := by
  rcases state.step_cases move with same | occurs
  · rw [same]
    exact accounted
  · exact accounted.occurs occurs

theorem IsAccounted.run (accounted : state.IsAccounted capacity) (moves : List ContentionStep) :
    (state.run moves).IsAccounted capacity := by
  induction moves generalizing state with
  | nil => exact accounted
  | cons move later inductive_hypothesis => exact inductive_hypothesis (accounted.step move)

/-- Whether the publisher is stopped is decided by what its reader has not settled. -/
theorem IsAccounted.stops (accounted : state.IsAccounted capacity) {id : Nat}
    (owed : state.uncounted = some id) :
    ∃ subscription, state.bus.find? id = some subscription ∧
      ((state.step .proceed).publishing = none ↔ 2 ^ 64 ∣ state.unsettled subscription) := by
  obtain ⟨publishing, held, owes⟩ := Option.bind_eq_some_iff.mp owed
  have present : id ∈ state.bus.ids := by
    obtain ⟨before, reached⟩ := accounted.registered.last publishing id held owes
    rw [← accounted.registered.held publishing held, Publishing.registered, reached]
    simp
  obtain ⟨subscription, found⟩ := state.bus.mem_ids_iff.mp present
  have counted := accounted.counts id subscription found
  rw [IsCounted, state.bus.find_named found, owed, if_pos rfl] at counted
  have backlog : state.bus.backlog id = subscription.backlog := by simp only [Bus.backlog, found]
  refine ⟨subscription, found, ?_⟩
  rw [← checked_succ_overflows_iff counted]
  simp only [Contention.step, held, proceed, owes, countFor, backlog]
  rcases checkedSucc subscription.backlog with overflow | next <;> simp [finish]

/-- What publishers and readers can rely on, whatever comes between their steps. -/
structure HoldsTogether (capacity : UInt64) (state : Contention) : Prop where
  counted : state.AllCounted
  /-- With no step on a subscription outstanding, its backlog is the length of its queue, also
  after publications that were stopped. -/
  settled : ∀ id subscription, state.bus.find? id = some subscription →
    state.uncounted ≠ some id → id ∉ state.receiving →
      subscription.backlog = UInt64.ofNat subscription.waiting.length
  /-- Counting an event stops the publisher when its reader has already settled everything, this
  event included; a queue of whole words looks the same to the count. -/
  stops : ∀ id, state.uncounted = some id →
    ∃ subscription, state.bus.find? id = some subscription ∧
      ((state.step .proceed).publishing = none ↔ 2 ^ 64 ∣ state.unsettled subscription)
  /-- A publication is for the subscriptions that were registered when it began. -/
  registered : ∀ publishing, state.publishing = some publishing →
    publishing.registered = state.bus.ids
  /-- It ends when its publisher has proceeded often enough, whatever readers do meanwhile. -/
  ends : ∀ publishing, state.publishing = some publishing → ∀ moves,
    2 * publishing.registered.length + 1 ≤ moves.count .proceed →
      state.publications.length < (state.run moves).publications.length
  /-- Unless it was stopped, it has then reached all of them. -/
  explained : ∀ publication ∈ state.publications, publication.IsExplained capacity
  /-- Every event that has reached a subscription is taken or waits, once and in its order. -/
  delivered : state.AllDelivered

/-- However publishers and readers interleave, backlogs and queues hold together. -/
theorem interleaved_steps_hold_together (capacity : UInt64) (moves : List ContentionStep) :
    ((fresh capacity).run moves).HoldsTogether (max capacity 1) := by
  have accounted := (IsAccounted.fresh capacity).run moves
  refine ⟨accounted.counts, ?_, fun id => accounted.stops, accounted.registered.held, ?_,
    accounted.explained, accounted.delivers⟩
  · intro id subscription found settled idle
    have counted := accounted.counts id subscription found
    rwa [IsCounted, unsettled, Bus.find_named _ found, if_neg settled, if_neg idle,
      UInt64.add_zero] at counted
  · intro publishing held later proceeds
    exact publication_ends held
      (Nat.le_trans (accounted.registered.steps_left held) proceeds)

/-- The reader of the first subscription has settled the event before the publisher counts it. The
publisher stops, and the second subscription goes without the event. -/
theorem overtaken_publisher_stops :
    ∃ (signature : Signature) (moves : List ContentionStep),
      let state := (fresh defaultCapacity).run moves
      state.publishing.isNone ∧ state.receiving = [] ∧ state.bus.ids = [0, 1] ∧
        state.publications = [⟨signature, [0, 1], [0], .error .addition⟩] ∧
        state.takenBy 0 = [signature] ∧ state.deliveredTo 1 = [] ∧
        (state.bus.find? 1).map Subscription.waiting = some [] :=
  ⟨⟨.zero, []⟩,
    [.subscribe, .subscribe, .publish ⟨.zero, []⟩, .proceed, .take 0, .settle 0, .proceed],
    by decide, rfl, rfl, rfl, rfl, rfl, rfl⟩

end Contention
end ProvenBlocks
