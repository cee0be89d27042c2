import Mathlib.Data.List.Nodup
import ProvenBlocks.Bus
import ProvenBlocks.Proofs.Resolution

/-!
What the readers of a signature bus rely on. However the bus and its subscriptions are used, a
subscription receives what was published since it began, in this order and each event once. Nothing
is lost to a slow reader, to the end of another subscription or to the end of the bus.
-/

namespace ProvenBlocks

def Reception.signature? : Reception → Option Signature
  | .event signature => some signature
  | .pending | .closed => none

/-! ### What an operation does to one subscription -/

namespace Bus

variable (bus : Bus)

theorem published_bus (signature : Signature) :
    (bus.publish signature).2 = bus.fanOut signature := by
  simp only [publish]
  split
  · rfl
  · split <;> rfl

/-- A published signature is delivered even when its warning limit overflows. -/
theorem find_publish (signature : Signature) (id : Nat) :
    (bus.publish signature).2.find? id =
      (bus.find? id).map fun subscription => subscription.accept signature := by
  have same : ((fun subscription : Subscription => subscription.id == id) ∘
      fun subscription => Subscription.accept subscription signature) =
        fun subscription : Subscription => subscription.id == id := by
    funext subscription
    rfl
  rw [published_bus]
  simp only [find?, fanOut, List.find?_map, same]

theorem take_first_id (reader : Nat) (later : List Signature) (subscription : Subscription) :
    (takeFirst reader later subscription).id = subscription.id := by
  simp only [takeFirst]
  split <;> rfl

theorem find_named {id : Nat} {subscription : Subscription}
    (found : bus.find? id = some subscription) : subscription.id = id := by
  simpa using List.find?_some found

/-- The bus after the first event of a subscription was taken from it. -/
def taking (reader : Nat) (later : List Signature) : Bus :=
  { bus with subscriptions := bus.subscriptions.map (takeFirst reader later) }

theorem find_taking (reader : Nat) (later : List Signature) (id : Nat) :
    (bus.taking reader later).find? id = (bus.find? id).map (takeFirst reader later) := by
  have same : ((fun subscription : Subscription => subscription.id == id) ∘
      takeFirst reader later) = fun subscription : Subscription => subscription.id == id := by
    funext subscription
    simp only [Function.comp, take_first_id]
  simp only [find?, taking, List.find?_map, same]

theorem find_taking_other {reader id : Nat} (other : id ≠ reader) (later : List Signature) :
    (bus.taking reader later).find? id = bus.find? id := by
  rw [find_taking]
  rcases found : bus.find? id with _ | subscription
  · rfl
  · rw [Option.map_some, takeFirst, if_neg (by rw [bus.find_named found]; exact other)]

theorem find_subscribe (id : Nat) :
    bus.subscribe.2.find? id =
      (bus.find? id).or (if bus.nextId = id then some ⟨bus.nextId, [], 0⟩ else none) := by
  simp only [find?, subscribe, List.find?_append, List.find?_singleton, beq_iff_eq]

theorem find_unsubscribe {id other : Nat} (different : other ≠ id) :
    (bus.unsubscribe id).find? other = bus.find? other := by
  simp only [find?, unsubscribe, List.find?_filter]
  congr 1
  funext subscription
  by_cases named : subscription.id = other
  · simp [named, different]
  · simp [named]

theorem find_unsubscribed (id : Nat) : (bus.unsubscribe id).find? id = none := by
  simp only [find?, unsubscribe, List.find?_filter, List.find?_eq_none]
  intro subscription _
  by_cases named : subscription.id = id <;> simp [named]

/-- What a subscription without an event answers. -/
def idleAnswer : Reception := if bus.isOpen then .pending else .closed

theorem idle_answer_empty : bus.idleAnswer.signature? = none := by
  rw [idleAnswer]
  split <;> rfl

theorem receive_idle {id : Nat} {subscription : Subscription}
    (found : bus.find? id = some subscription) (idle : subscription.waiting = []) :
    bus.receive id = (bus.idleAnswer, bus) := by
  simp only [receive, found, idle, idleAnswer]

theorem receive_first {id : Nat} {subscription : Subscription} {first : Signature}
    {later : List Signature} (found : bus.find? id = some subscription)
    (queued : subscription.waiting = first :: later) :
    bus.receive id = (.event first, bus.taking id later) := by
  simp only [receive, found, queued, taking]

theorem publish_answer (signature : Signature) (bounded : bus.capacity.toNat < 2 ^ 64 - 1) :
    ∃ isLagging, (bus.publish signature).1 = .ok ⟨bus.subscriberCount, isLagging⟩ := by
  simp only [publish, checked_succ_ok bounded]
  split
  · rename_i nobody
    have empty : bus.subscriptions = [] := by simpa [fanOut] using nobody
    exact ⟨false, by simp [subscriberCount, empty]⟩
  · refine ⟨(bus.fanOut signature).greatestBacklog == bus.capacity + 1, ?_⟩
    simp only [subscriberCount, fanOut, List.length_map]

/-! ### The end of one subscription is the affair of that subscription -/

theorem publish_unsubscribe (signature : Signature) (id : Nat) :
    ((bus.unsubscribe id).publish signature).2 =
      ((bus.publish signature).2).unsubscribe id := by
  simp only [published_bus, fanOut, unsubscribe, List.filter_map]
  rfl

theorem subscribe_unsubscribe {id : Nat} (known : id < bus.nextId) :
    (bus.unsubscribe id).subscribe.2 = bus.subscribe.2.unsubscribe id := by
  have fresh : (bus.nextId != id) = true := by simpa using Nat.ne_of_gt known
  simp only [subscribe, unsubscribe, List.filter_append, List.filter_cons, List.filter_nil, fresh,
    if_true]

theorem unsubscribe_unsubscribe (reader id : Nat) :
    (bus.unsubscribe id).unsubscribe reader = (bus.unsubscribe reader).unsubscribe id := by
  simp only [unsubscribe, List.filter_filter, Bool.and_comm]

theorem unsubscribe_missing {id : Nat} (missing : bus.find? id = none) :
    bus.unsubscribe id = bus := by
  have kept : bus.subscriptions.filter (fun subscription => subscription.id != id) =
      bus.subscriptions := by
    apply List.filter_eq_self.mpr
    intro subscription member
    have other := List.find?_eq_none.mp missing subscription member
    simpa using other
  rw [unsubscribe, kept]

theorem taking_unsubscribe (reader id : Nat) (later : List Signature) :
    (bus.unsubscribe id).taking reader later = (bus.taking reader later).unsubscribe id := by
  have same : ((fun subscription : Subscription => subscription.id != id) ∘
      takeFirst reader later) = fun subscription : Subscription => subscription.id != id := by
    funext subscription
    simp only [Function.comp, take_first_id]
  simp only [taking, unsubscribe, List.filter_map, same]

theorem taking_unsubscribed (id : Nat) (later : List Signature) :
    (bus.taking id later).unsubscribe id = bus.unsubscribe id := by
  have kept : (bus.unsubscribe id).subscriptions.map (takeFirst id later) =
      (bus.unsubscribe id).subscriptions.map fun subscription => subscription := by
    apply List.map_congr_left
    intro subscription member
    have other : subscription.id ≠ id := by simpa using (List.mem_filter.mp member).2
    rw [takeFirst, if_neg other]
  rw [← taking_unsubscribe, taking, kept, List.map_id']

end Bus

/-! ### Using a bus -/

/-- What can be done with a bus, and with the subscriptions to it. -/
inductive BusOperation where
  | subscribe
  | publish (signature : Signature)
  | receive (id : Nat)
  | unsubscribe (id : Nat)
  | close

/-- What was done, with its answer. -/
inductive BusEvent where
  | subscribed (id : Nat)
  | published (signature : Signature) (answer : Except Overflow Delivery)
  | received (id : Nat) (reception : Reception)
  | unsubscribed (id : Nat)
  | closed

/-- A bus and the log of its use. -/
structure Traffic where
  bus : Bus
  log : List BusEvent

namespace BusEvent

def subscription? : BusEvent → Option Nat
  | .subscribed id => some id
  | .published _ _ | .received _ _ | .unsubscribed _ | .closed => none

def ended? : BusEvent → Option Nat
  | .unsubscribed id => some id
  | .subscribed _ | .published _ _ | .received _ _ | .closed => none

def publication? : BusEvent → Option Signature
  | .published signature _ => some signature
  | .subscribed _ | .received _ _ | .unsubscribed _ | .closed => none

def reception? (id : Nat) : BusEvent → Option Reception
  | .received reader reception => if reader = id then some reception else none
  | .subscribed _ | .published _ _ | .unsubscribed _ | .closed => none

end BusEvent

namespace Traffic

def fresh (capacity : UInt64) : Traffic := ⟨.empty capacity, []⟩

/-- Subscribing and publishing need the bus, receiving and unsubscribing the subscription. -/
def step (traffic : Traffic) : BusOperation → Traffic
  | .subscribe =>
      if traffic.bus.isOpen then
        ⟨traffic.bus.subscribe.2, traffic.log ++ [.subscribed traffic.bus.subscribe.1]⟩
      else traffic
  | .publish signature =>
      if traffic.bus.isOpen then
        let (answer, bus) := traffic.bus.publish signature
        ⟨bus, traffic.log ++ [.published signature answer]⟩
      else traffic
  | .receive id =>
      if (traffic.bus.find? id).isSome then
        let (reception, bus) := traffic.bus.receive id
        ⟨bus, traffic.log ++ [.received id reception]⟩
      else traffic
  | .unsubscribe id =>
      if (traffic.bus.find? id).isSome then
        ⟨traffic.bus.unsubscribe id, traffic.log ++ [.unsubscribed id]⟩
      else traffic
  | .close =>
      if traffic.bus.isOpen then ⟨traffic.bus.close, traffic.log ++ [.closed]⟩ else traffic

def run (traffic : Traffic) (operations : List BusOperation) : Traffic :=
  operations.foldl step traffic

/-! ### What a log tells -/

def subscribedIn (log : List BusEvent) : List Nat := log.filterMap BusEvent.subscription?

def endedIn (log : List BusEvent) : List Nat := log.filterMap BusEvent.ended?

def publishedIn (log : List BusEvent) : List Signature := log.filterMap BusEvent.publication?

def receptionsOf (id : Nat) (log : List BusEvent) : List Reception :=
  log.filterMap (BusEvent.reception? id)

/-- The events that a subscription has received. -/
def receivedBy (id : Nat) (log : List BusEvent) : List Signature :=
  (receptionsOf id log).filterMap Reception.signature?

/-- The subscriptions that have not ended, in the order of their beginning. -/
def liveIn (log : List BusEvent) : List Nat :=
  (subscribedIn log).filter fun id => id ∉ endedIn log

section

variable (log more : List BusEvent) (id : Nat)

theorem subscribed_append : subscribedIn (log ++ more) = subscribedIn log ++ subscribedIn more :=
  List.filterMap_append

theorem ended_append : endedIn (log ++ more) = endedIn log ++ endedIn more :=
  List.filterMap_append

theorem published_append : publishedIn (log ++ more) = publishedIn log ++ publishedIn more :=
  List.filterMap_append

theorem receptions_append :
    receptionsOf id (log ++ more) = receptionsOf id log ++ receptionsOf id more :=
  List.filterMap_append

theorem received_append : receivedBy id (log ++ more) = receivedBy id log ++ receivedBy id more := by
  rw [receivedBy, receptions_append, List.filterMap_append]
  rfl

theorem live_quiet {event : BusEvent} (begun : event.subscription? = none)
    (ended : event.ended? = none) : liveIn (log ++ [event]) = liveIn log := by
  have nobody_begun : subscribedIn [event] = [] := by simp [subscribedIn, begun]
  have nobody_ended : endedIn [event] = [] := by simp [endedIn, ended]
  rw [liveIn, subscribed_append, ended_append, nobody_begun, nobody_ended, List.append_nil,
    List.append_nil]
  rfl

theorem live_subscribed (fresh : id ∉ endedIn log) :
    liveIn (log ++ [.subscribed id]) = liveIn log ++ [id] := by
  have begun : subscribedIn [.subscribed id] = [id] := rfl
  have ended : endedIn [.subscribed id] = [] := rfl
  simp only [liveIn, subscribed_append, ended_append, begun, ended, List.append_nil,
    List.filter_append, List.filter_cons, List.filter_nil, fresh, not_false_eq_true, decide_true,
    if_true]

theorem live_unsubscribed :
    liveIn (log ++ [.unsubscribed id]) = (liveIn log).filter fun other => other != id := by
  have begun : subscribedIn [.unsubscribed id] = [] := rfl
  have ended : endedIn [.unsubscribed id] = [id] := rfl
  simp only [liveIn, subscribed_append, ended_append, begun, ended, List.append_nil,
    List.filter_filter, List.mem_append, List.mem_singleton, not_or, Bool.decide_and]
  congr 1
  funext other
  by_cases same : other = id <;> simp [same]

end

/-! ### One operation -/

/-- What an operation that takes place does to the bus. -/
inductive Occurs (bus : Bus) : BusEvent → Bus → Prop
  | subscribed (isOpen : bus.isOpen = true) :
      Occurs bus (.subscribed bus.nextId) bus.subscribe.2
  | published (signature : Signature) (isOpen : bus.isOpen = true) :
      Occurs bus (.published signature (bus.publish signature).1) (bus.publish signature).2
  | taken (id : Nat) (subscription : Subscription) (first : Signature) (later : List Signature)
      (found : bus.find? id = some subscription) (queued : subscription.waiting = first :: later) :
      Occurs bus (.received id (.event first)) (bus.taking id later)
  | idle (id : Nat) (subscription : Subscription) (found : bus.find? id = some subscription)
      (empty : subscription.waiting = []) : Occurs bus (.received id bus.idleAnswer) bus
  | unsubscribed (id : Nat) (subscription : Subscription)
      (found : bus.find? id = some subscription) :
      Occurs bus (.unsubscribed id) (bus.unsubscribe id)
  | closed (isOpen : bus.isOpen = true) : Occurs bus .closed bus.close

variable {bus after : Bus} {event : BusEvent} {traffic : Traffic} {id : Nat}

/-- An operation that cannot take place leaves everything as it was. -/
theorem step_cases (traffic : Traffic) (operation : BusOperation) :
    traffic.step operation = traffic ∨ ∃ event after, Occurs traffic.bus event after ∧
      traffic.step operation = ⟨after, traffic.log ++ [event]⟩ := by
  cases operation with
  | subscribe =>
      by_cases isOpen : traffic.bus.isOpen = true
      · exact .inr ⟨_, _, .subscribed isOpen, by simp only [step, isOpen, if_true]; rfl⟩
      · exact .inl (by simp only [step, if_neg isOpen])
  | publish signature =>
      by_cases isOpen : traffic.bus.isOpen = true
      · exact .inr ⟨_, _, .published signature isOpen, by simp only [step, isOpen, if_true]⟩
      · exact .inl (by simp only [step, if_neg isOpen])
  | receive id =>
      rcases found : traffic.bus.find? id with _ | subscription
      · exact .inl (by simp [step, found])
      rcases queued : subscription.waiting with _ | ⟨first, later⟩
      · refine .inr ⟨_, _, .idle id subscription found queued, ?_⟩
        simp only [step, found, Option.isSome_some, if_true,
          traffic.bus.receive_idle found queued]
      · refine .inr ⟨_, _, .taken id subscription first later found queued, ?_⟩
        simp only [step, found, Option.isSome_some, if_true,
          traffic.bus.receive_first found queued]
  | unsubscribe id =>
      rcases found : traffic.bus.find? id with _ | subscription
      · exact .inl (by simp [step, found])
      · refine .inr ⟨_, _, .unsubscribed id subscription found, ?_⟩
        simp only [step, found, Option.isSome_some, if_true]
  | close =>
      by_cases isOpen : traffic.bus.isOpen = true
      · exact .inr ⟨_, _, .closed isOpen, by simp only [step, isOpen, if_true]⟩
      · exact .inl (by simp only [step, if_neg isOpen])

/-- A subscription that does not end keeps what it has not received and queues what is published. -/
theorem Occurs.queues (occurs : Occurs bus event after) {subscription : Subscription}
    (found : bus.find? id = some subscription) (keeps : event.ended? ≠ some id)
    (counted : subscription.backlog = UInt64.ofNat subscription.waiting.length) :
    ∃ next, after.find? id = some next ∧
      receivedBy id [event] ++ next.waiting = subscription.waiting ++ publishedIn [event] ∧
      next.backlog = UInt64.ofNat next.waiting.length := by
  cases occurs with
  | subscribed isOpen =>
      refine ⟨subscription, ?_, (List.append_nil _).symm, counted⟩
      rw [Bus.find_subscribe, found, Option.some_or]
  | published signature isOpen =>
      refine ⟨subscription.accept signature, ?_, rfl, ?_⟩
      · rw [Bus.find_publish, found, Option.map_some]
      · simp [Subscription.accept, counted]
  | taken reader taken first later present queued =>
      by_cases same : id = reader
      · subst same
        rw [found, Option.some.injEq] at present
        subst present
        refine ⟨Bus.takeFirst id later subscription, ?_, ?_, ?_⟩
        · rw [Bus.find_taking, found, Option.map_some]
        · simp [Bus.takeFirst, bus.find_named found, receivedBy, receptionsOf,
            BusEvent.reception?, Reception.signature?, publishedIn, BusEvent.publication?, queued]
        · simp [Bus.takeFirst, bus.find_named found, counted, queued]
      · refine ⟨subscription, ?_, ?_, counted⟩
        · rw [Bus.find_taking_other bus same, found]
        · simp [receivedBy, receptionsOf, BusEvent.reception?, Ne.symm same, publishedIn,
            BusEvent.publication?]
  | idle reader other present empty =>
      have nothing : receivedBy id [.received reader bus.idleAnswer] = [] := by
        by_cases mine : reader = id <;>
          simp [receivedBy, receptionsOf, BusEvent.reception?, mine, bus.idle_answer_empty]
      refine ⟨subscription, found, ?_, counted⟩
      rw [nothing]
      exact (List.append_nil _).symm
  | unsubscribed reader other present =>
      have different : id ≠ reader := fun same => keeps (by rw [same]; rfl)
      exact ⟨subscription, by rw [bus.find_unsubscribe different, found],
        (List.append_nil _).symm, counted⟩
  | closed isOpen => exact ⟨subscription, found, (List.append_nil _).symm, counted⟩

/-- What holds of a bus and the log of its use. -/
structure IsOrderly (traffic : Traffic) : Prop where
  bounded : traffic.bus.capacity.toNat < 2 ^ 64 - 1
  begun : ∀ id ∈ subscribedIn traffic.log, id < traffic.bus.nextId
  ended : ∀ id ∈ endedIn traffic.log, id < traffic.bus.nextId
  live : traffic.bus.subscriptions.map Subscription.id = liveIn traffic.log
  distinct : (liveIn traffic.log).Nodup
  delivered : ∀ before id after, traffic.log = before ++ .subscribed id :: after →
    id ∉ endedIn after → ∃ subscription, traffic.bus.find? id = some subscription ∧
      receivedBy id after ++ subscription.waiting = publishedIn after ∧
      subscription.backlog = UInt64.ofNat subscription.waiting.length
  answered : ∀ before signature answer after,
    traffic.log = before ++ .published signature answer :: after →
      ∃ isLagging, answer = .ok ⟨(liveIn before).length, isLagging⟩
  isOpen : traffic.bus.isOpen = true ↔ .closed ∉ traffic.log
  published : traffic.bus.published = UInt64.ofNat (publishedIn traffic.log).length

theorem fresh_orderly {capacity : UInt64} (bounded : capacity.toNat < 2 ^ 64 - 1) :
    (fresh capacity).IsOrderly where
  bounded := by
    have greatest : (if capacity ≤ 1 then 1 else capacity).toNat < 2 ^ 64 - 1 := by
      split
      · decide
      · exact bounded
    exact greatest
  begun := by simp [fresh, subscribedIn]
  ended := by simp [fresh, endedIn]
  live := rfl
  distinct := List.nodup_nil
  delivered := by simp [fresh]
  answered := by simp [fresh]
  isOpen := by simp [fresh, Bus.empty]
  published := rfl

theorem IsOrderly.known (orderly : traffic.IsOrderly) {subscription : Subscription}
    (found : traffic.bus.find? id = some subscription) : id ∈ liveIn traffic.log := by
  rw [← orderly.live, ← traffic.bus.find_named found]
  exact List.mem_map_of_mem (List.mem_of_find?_eq_some found)

theorem IsOrderly.live_begun (orderly : traffic.IsOrderly) (live : id ∈ liveIn traffic.log) :
    id < traffic.bus.nextId :=
  orderly.begun id (List.mem_filter.mp live).1

/-- What an operation does to the bus apart from its subscriptions. -/
structure Advances (bus : Bus) (event : BusEvent) (after : Bus) : Prop where
  capacity : after.capacity = bus.capacity
  nextId : bus.nextId ≤ after.nextId
  known : ∀ id, event.subscription? = some id ∨ event.ended? = some id →
    (∀ subscription, bus.find? id = some subscription → id < bus.nextId) → id < after.nextId
  isOpen : after.isOpen = true ↔ bus.isOpen = true ∧ event ≠ .closed
  published : after.published = bus.published + UInt64.ofNat (publishedIn [event]).length

theorem Occurs.advances (occurs : Occurs bus event after) : Advances bus event after := by
  have unpublished : bus.published = bus.published + UInt64.ofNat 0 := by simp
  cases occurs with
  | published signature isOpen =>
      rw [Bus.published_bus]
      exact ⟨rfl, Nat.le_refl _, by rintro id (begun | ended) <;> contradiction,
        by simp [Bus.fanOut], rfl⟩
  | subscribed isOpen =>
      refine ⟨rfl, Nat.le_succ _, ?_, by simp [Bus.subscribe], unpublished⟩
      rintro id (begun | ended) _
      · cases begun
        exact Nat.lt_succ_self _
      · cases ended
  | taken reader subscription first later found queued =>
      exact ⟨rfl, Nat.le_refl _, by rintro id (begun | ended) <;> contradiction,
        by simp [Bus.taking], unpublished⟩
  | idle reader subscription found empty =>
      exact ⟨rfl, Nat.le_refl _, by rintro id (begun | ended) <;> contradiction, by simp,
        unpublished⟩
  | unsubscribed reader subscription found =>
      refine ⟨rfl, Nat.le_refl _, ?_, by simp [Bus.unsubscribe], unpublished⟩
      rintro id (begun | ended) bounded
      · cases begun
      · cases ended
        exact bounded subscription found
  | closed isOpen =>
      exact ⟨rfl, Nat.le_refl _, by rintro id (begun | ended) <;> contradiction,
        by simp [Bus.close], unpublished⟩

/-- The registry holds the live subscriptions. -/
theorem Occurs.registered (occurs : Occurs traffic.bus event after)
    (orderly : traffic.IsOrderly) :
    after.subscriptions.map Subscription.id = liveIn (traffic.log ++ [event]) := by
  have live := orderly.live
  cases occurs with
  | subscribed isOpen =>
      have unused : traffic.bus.nextId ∉ endedIn traffic.log := fun known =>
        Nat.lt_irrefl _ (orderly.ended _ known)
      rw [live_subscribed _ _ unused, ← live]
      simp only [Bus.subscribe, List.map_append, List.map_cons, List.map_nil]
  | published signature isOpen =>
      rw [live_quiet _ rfl rfl, ← live, Bus.published_bus]
      simp only [Bus.fanOut, List.map_map]
      rfl
  | taken reader subscription first later found queued =>
      have same : Subscription.id ∘ Bus.takeFirst reader later = Subscription.id :=
        funext (Bus.take_first_id reader later)
      rw [live_quiet _ rfl rfl, ← live, Bus.taking, List.map_map, same]
  | idle reader subscription found empty => rw [live_quiet _ rfl rfl, ← live]
  | unsubscribed reader subscription found =>
      rw [live_unsubscribed, ← live, Bus.unsubscribe, List.filter_map]
      rfl
  | closed isOpen =>
      rw [live_quiet _ rfl rfl, ← live]
      rfl

theorem Occurs.live_distinct (occurs : Occurs traffic.bus event after)
    (orderly : traffic.IsOrderly) : (liveIn (traffic.log ++ [event])).Nodup := by
  have distinct := orderly.distinct
  cases occurs with
  | subscribed isOpen =>
      have unused : traffic.bus.nextId ∉ endedIn traffic.log := fun known =>
        Nat.lt_irrefl _ (orderly.ended _ known)
      rw [live_subscribed _ _ unused]
      refine List.nodup_append.mpr ⟨distinct, List.nodup_singleton _, ?_⟩
      intro id live next member same
      rw [List.mem_singleton.mp member] at same
      exact Nat.ne_of_lt (orderly.live_begun live) same
  | published signature isOpen => rw [live_quiet _ rfl rfl]; exact distinct
  | taken reader subscription first later found queued =>
      rw [live_quiet _ rfl rfl]; exact distinct
  | idle reader subscription found empty => rw [live_quiet _ rfl rfl]; exact distinct
  | unsubscribed reader subscription found =>
      rw [live_unsubscribed]
      exact distinct.filter _
  | closed isOpen => rw [live_quiet _ rfl rfl]; exact distinct

theorem IsOrderly.occurs (orderly : traffic.IsOrderly) (occurs : Occurs traffic.bus event after) :
    IsOrderly ⟨after, traffic.log ++ [event]⟩ := by
  have advances := occurs.advances
  have known : ∀ id, event.subscription? = some id ∨ event.ended? = some id →
      id < after.nextId := fun id named =>
    advances.known id named fun subscription found => orderly.live_begun (orderly.known found)
  refine ⟨?_, ?_, ?_, occurs.registered orderly, occurs.live_distinct orderly, ?_, ?_, ?_, ?_⟩
  · rw [advances.capacity]
    exact orderly.bounded
  · intro id begun
    rcases List.mem_append.mp (subscribed_append _ _ ▸ begun) with earlier | now
    · exact Nat.lt_of_lt_of_le (orderly.begun id earlier) advances.nextId
    · exact known id (.inl (by simpa [subscribedIn] using now))
  · intro id ended
    rcases List.mem_append.mp (ended_append _ _ ▸ ended) with earlier | now
    · exact Nat.lt_of_lt_of_le (orderly.ended id earlier) advances.nextId
    · exact known id (.inr (by simpa [endedIn] using now))
  · intro before id later split lives
    rcases split_last split with ⟨rfl, rfl, rfl⟩ | ⟨earlier, earlier_split, rfl⟩
    · cases occurs with
      | subscribed isOpen =>
          have unused : traffic.bus.find? traffic.bus.nextId = none := by
            rcases found : traffic.bus.find? traffic.bus.nextId with _ | subscription
            · rfl
            · exact absurd (orderly.live_begun (orderly.known found)) (Nat.lt_irrefl _)
          refine ⟨⟨traffic.bus.nextId, [], 0⟩, ?_, rfl, rfl⟩
          rw [Bus.find_subscribe, unused, Option.none_or, if_pos rfl]
    · rw [ended_append, List.mem_append, not_or] at lives
      obtain ⟨subscription, found, received, counted⟩ :=
        orderly.delivered before id earlier earlier_split lives.1
      obtain ⟨next, present, moved, backlog⟩ := occurs.queues found
        (fun ended => lives.2 (by simp [endedIn, ended])) counted
      refine ⟨next, present, ?_, backlog⟩
      rw [received_append, published_append, List.append_assoc, moved, ← List.append_assoc,
        received]
  · intro before signature answer later split
    rcases split_last split with ⟨rfl, rfl, rfl⟩ | ⟨earlier, earlier_split, rfl⟩
    · cases occurs with
      | published signature isOpen =>
          obtain ⟨isLagging, answer⟩ := traffic.bus.publish_answer signature orderly.bounded
          refine ⟨isLagging, ?_⟩
          rw [answer, ← orderly.live, List.length_map]
          rfl
    · exact orderly.answered before signature answer earlier earlier_split
  · rw [advances.isOpen, orderly.isOpen, List.mem_append, List.mem_singleton, not_or]
    exact and_congr_right fun _ => ne_comm
  · rw [advances.published, orderly.published, published_append, List.length_append,
      UInt64.ofNat_add]

theorem IsOrderly.step (orderly : traffic.IsOrderly) (operation : BusOperation) :
    (traffic.step operation).IsOrderly := by
  rcases traffic.step_cases operation with same | ⟨event, after, occurs, stepped⟩
  · rw [same]
    exact orderly
  · rw [stepped]
    exact orderly.occurs occurs

theorem IsOrderly.run (orderly : traffic.IsOrderly) (operations : List BusOperation) :
    (traffic.run operations).IsOrderly := by
  induction operations generalizing traffic with
  | nil => exact orderly
  | cons operation later inductive_hypothesis =>
      exact inductive_hypothesis (orderly.step operation)

/-! ### Reading to the end -/

/-- A reader gets the events that wait for it, and then what an empty queue answers. -/
theorem run_receives (traffic : Traffic) {subscription : Subscription}
    (found : traffic.bus.find? id = some subscription) (count : Nat) :
    (traffic.run (List.replicate count (.receive id))).log = traffic.log ++
      ((subscription.waiting.map Reception.event).take count ++
        List.replicate (count - subscription.waiting.length) traffic.bus.idleAnswer).map
          (BusEvent.received id) := by
  induction count generalizing traffic subscription with
  | zero => simp [run]
  | succ count inductive_hypothesis =>
      rw [List.replicate_succ, run, List.foldl_cons]
      rcases queued : subscription.waiting with _ | ⟨first, later⟩
      · have stepped : traffic.step (.receive id) =
            ⟨traffic.bus, traffic.log ++ [.received id traffic.bus.idleAnswer]⟩ := by
          simp only [step, found, Option.isSome_some, if_true,
            traffic.bus.receive_idle found queued]
        have rest := inductive_hypothesis (traffic.step (.receive id)) (by rw [stepped]; exact found)
        rw [run] at rest
        rw [rest, stepped, queued]
        simp [List.replicate_succ]
      · have stepped : traffic.step (.receive id) =
            ⟨traffic.bus.taking id later, traffic.log ++ [.received id (.event first)]⟩ := by
          simp only [step, found, Option.isSome_some, if_true,
            traffic.bus.receive_first found queued]
        have taken : (traffic.step (.receive id)).bus.find? id =
            some (Bus.takeFirst id later subscription) := by
          rw [stepped, Bus.find_taking, found, Option.map_some]
        have rest := inductive_hypothesis (traffic.step (.receive id)) taken
        rw [run] at rest
        have answer : (traffic.bus.taking id later).idleAnswer = traffic.bus.idleAnswer := rfl
        rw [rest, stepped]
        simp [Bus.takeFirst, traffic.bus.find_named found, answer]

/-! ### Ending one subscription -/

/-- The use of a bus without one subscription, and with it. -/
structure Without (id : Nat) (ended kept : Traffic) : Prop where
  begun : id < kept.bus.nextId
  bus : ended.bus = kept.bus.unsubscribe id
  receptions : ∀ other ≠ id, receptionsOf other ended.log = receptionsOf other kept.log

variable {ended kept : Traffic}

theorem Without.both (without : Without id ended kept) {others after : Bus}
    {otherwise event : BusEvent} (begun : id < after.nextId) (bus : others = after.unsubscribe id)
    (same : ∀ other ≠ id, receptionsOf other [otherwise] = receptionsOf other [event]) :
    Without id ⟨others, ended.log ++ [otherwise]⟩ ⟨after, kept.log ++ [event]⟩ := by
  refine ⟨begun, bus, ?_⟩
  intro other different
  rw [receptions_append, receptions_append, without.receptions other different,
    same other different]

theorem Without.only_kept (without : Without id ended kept) {after : Bus} {event : BusEvent}
    (begun : id < after.nextId) (bus : after.unsubscribe id = kept.bus.unsubscribe id)
    (silent : ∀ other ≠ id, receptionsOf other [event] = []) :
    Without id ended ⟨after, kept.log ++ [event]⟩ := by
  refine ⟨begun, without.bus.trans bus.symm, ?_⟩
  intro other different
  rw [receptions_append, without.receptions other different, silent other different,
    List.append_nil]

theorem Without.receive (without : Without id ended kept) (reader : Nat) :
    Without id (ended.step (.receive reader)) (kept.step (.receive reader)) := by
  by_cases same : reader = id
  · -- The subscription ended, so it is read only where it did not end.
    subst same
    have gone : ended.bus.find? reader = none := by rw [without.bus, Bus.find_unsubscribed]
    have silent (reception : Reception) : ∀ other ≠ reader,
        receptionsOf other [.received reader reception] = [] := by
      intro other different
      simp [receptionsOf, BusEvent.reception?, different.symm]
    simp only [step, gone, Option.isSome_none, Bool.false_eq_true, if_false]
    rcases found : kept.bus.find? reader with _ | subscription
    · exact without
    rcases queued : subscription.waiting with _ | ⟨first, later⟩
    · simp only [kept.bus.receive_idle found queued, Option.isSome_some, if_true]
      exact without.only_kept without.begun rfl (silent _)
    · simp only [kept.bus.receive_first found queued, Option.isSome_some, if_true]
      exact without.only_kept without.begun (kept.bus.taking_unsubscribed reader later) (silent _)
  · have seen : ended.bus.find? reader = kept.bus.find? reader := by
      rw [without.bus, Bus.find_unsubscribe _ same]
    simp only [step, seen]
    rcases found : kept.bus.find? reader with _ | subscription
    · exact without
    rw [found] at seen
    rcases queued : subscription.waiting with _ | ⟨first, later⟩
    · have answer : ended.bus.idleAnswer = kept.bus.idleAnswer := by rw [without.bus]; rfl
      simp only [kept.bus.receive_idle found queued, ended.bus.receive_idle seen queued, answer,
        Option.isSome_some, if_true]
      exact without.both without.begun without.bus fun _ _ => rfl
    · simp only [kept.bus.receive_first found queued, ended.bus.receive_first seen queued,
        Option.isSome_some, if_true]
      refine without.both without.begun ?_ fun _ _ => rfl
      rw [without.bus, Bus.taking_unsubscribe]

theorem Without.unsubscribe (without : Without id ended kept) (reader : Nat) :
    Without id (ended.step (.unsubscribe reader)) (kept.step (.unsubscribe reader)) := by
  by_cases same : reader = id
  · subst same
    have gone : ended.bus.find? reader = none := by rw [without.bus, Bus.find_unsubscribed]
    simp only [step, gone, Option.isSome_none, Bool.false_eq_true, if_false]
    split
    · refine without.only_kept without.begun ?_ fun _ _ => rfl
      exact Bus.unsubscribe_missing _ (kept.bus.find_unsubscribed reader)
    · exact without
  · have seen : ended.bus.find? reader = kept.bus.find? reader := by
      rw [without.bus, Bus.find_unsubscribe _ same]
    simp only [step, seen]
    split
    · refine without.both without.begun ?_ fun _ _ => rfl
      rw [without.bus, Bus.unsubscribe_unsubscribe]
    · exact without

theorem Without.step (without : Without id ended kept) (operation : BusOperation) :
    Without id (ended.step operation) (kept.step operation) := by
  have isOpen : ended.bus.isOpen = kept.bus.isOpen := by rw [without.bus]; rfl
  cases operation with
  | subscribe =>
      simp only [Traffic.step, isOpen]
      split
      · refine without.both (Nat.lt_succ_of_lt without.begun) ?_ fun _ _ => rfl
        rw [without.bus, kept.bus.subscribe_unsubscribe without.begun]
      · exact without
  | publish signature =>
      simp only [Traffic.step, isOpen]
      split
      · refine without.both ?_ ?_ fun _ _ => rfl
        · rw [Bus.published_bus]
          exact without.begun
        · rw [without.bus, Bus.publish_unsubscribe]
      · exact without
  | receive reader => exact without.receive reader
  | unsubscribe reader => exact without.unsubscribe reader
  | close =>
      simp only [Traffic.step, isOpen]
      split
      · refine without.both without.begun ?_ fun _ _ => rfl
        rw [without.bus]
        rfl
      · exact without

theorem Without.run (without : Without id ended kept) (operations : List BusOperation) :
    Without id (ended.run operations) (kept.run operations) := by
  induction operations generalizing ended kept with
  | nil => exact without
  | cons operation later inductive_hypothesis => exact inductive_hypothesis (without.step operation)

theorem IsOrderly.found (orderly : traffic.IsOrderly) (live : id ∈ liveIn traffic.log) :
    ∃ subscription, traffic.bus.find? id = some subscription := by
  rw [← orderly.live] at live
  obtain ⟨subscription, member, named⟩ := List.mem_map.mp live
  have found : (traffic.bus.find? id).isSome = true := by
    simp only [Bus.find?, List.find?_isSome]
    exact ⟨subscription, member, by simpa using named⟩
  exact Option.isSome_iff_exists.mp found

theorem IsOrderly.unsubscribed (orderly : traffic.IsOrderly) (live : id ∈ liveIn traffic.log) :
    Without id (traffic.step (.unsubscribe id)) traffic := by
  obtain ⟨subscription, found⟩ := orderly.found live
  simp only [Traffic.step, found, Option.isSome_some, if_true]
  refine ⟨orderly.live_begun live, rfl, ?_⟩
  intro other _
  rw [receptions_append]
  exact List.append_nil _

/-- What a bus gives its publishers and its readers. -/
structure IsFaithful (traffic : Traffic) : Prop where
  /-- A live subscription has received, or has yet to receive, what was published since. -/
  delivered : ∀ before id after, traffic.log = before ++ .subscribed id :: after →
    id ∉ endedIn after → ∃ subscription, traffic.bus.find? id = some subscription ∧
      receivedBy id after ++ subscription.waiting = publishedIn after ∧
      traffic.bus.backlog id = UInt64.ofNat subscription.waiting.length
  /-- It gets what waits for it and only then learns whether the bus is closed. -/
  drained : ∀ id subscription, traffic.bus.find? id = some subscription → ∀ count,
    (traffic.run (List.replicate count (.receive id))).log = traffic.log ++
      ((subscription.waiting.map Reception.event).take count ++
        List.replicate (count - subscription.waiting.length)
          (if traffic.bus.isOpen then Reception.pending else .closed)).map (BusEvent.received id)
  isOpen : traffic.bus.isOpen = true ↔ .closed ∉ traffic.log
  answered : ∀ before signature answer after,
    traffic.log = before ++ .published signature answer :: after →
      ∃ isLagging, answer = .ok ⟨(liveIn before).length, isLagging⟩
  subscribers : traffic.bus.subscriberCount = (liveIn traffic.log).length
  distinct : (liveIn traffic.log).Nodup
  /-- Whatever is done later, all but one subscription go on as if that one had not ended. -/
  independent : ∀ id ∈ liveIn traffic.log, ∀ later,
    ((traffic.step (.unsubscribe id)).run later).bus = (traffic.run later).bus.unsubscribe id ∧
      ∀ other ≠ id, receptionsOf other ((traffic.step (.unsubscribe id)).run later).log =
        receptionsOf other (traffic.run later).log
  published : traffic.bus.published = UInt64.ofNat (publishedIn traffic.log).length

/-- A bus neither loses, duplicates nor reorders, whatever is done with it. -/
theorem run_is_faithful {capacity : UInt64} (bounded : capacity.toNat < 2 ^ 64 - 1)
    (operations : List BusOperation) : ((fresh capacity).run operations).IsFaithful := by
  have orderly := (fresh_orderly bounded).run operations
  refine ⟨?_, ?_, orderly.isOpen, orderly.answered, ?_, orderly.distinct, ?_, orderly.published⟩
  · intro before id after split lives
    obtain ⟨subscription, found, received, counted⟩ := orderly.delivered before id after split lives
    exact ⟨subscription, found, received, by rw [Bus.backlog, found]; exact counted⟩
  · intro id subscription found count
    exact run_receives _ found count
  · rw [Bus.subscriberCount, ← orderly.live, List.length_map]
  · intro id live later
    have without := (orderly.unsubscribed live).run later
    exact ⟨without.bus, without.receptions⟩

/-- The first reader takes one event, the second none; then the bus is closed. -/
theorem slow_readers_lose_nothing :
    (1 : UInt64).toNat < 2 ^ 64 - 1 ∧
      ∃ operations : List BusOperation,
        publishedIn ((fresh 1).run operations).log = [⟨.zero, []⟩, ⟨.zero, [1]⟩, ⟨.zero, []⟩] ∧
        receivedBy 0 ((fresh 1).run operations).log = [⟨.zero, []⟩] ∧
        ((fresh 1).run operations).bus.backlog 0 = 2 ∧
        ((fresh 1).run operations).bus.backlog 1 = 2 ∧
        ((fresh 1).run operations).IsFaithful :=
  ⟨by decide, [.subscribe, .publish ⟨.zero, []⟩, .subscribe, .publish ⟨.zero, [1]⟩, .receive 0,
    .publish ⟨.zero, []⟩, .close], by decide, by decide, by decide, by decide,
    run_is_faithful (by decide) _⟩

end Traffic
end ProvenBlocks
