import Mathlib.Data.List.Forall2
import ProvenBlocks.Bus.Contention
import ProvenBlocks.Proofs.Subscriptions

/-!
What the capacity of a signature bus decides. Two buses of different capacities that are used alike
hold the same queues and give their readers the same events; they differ in their warnings. The
greatest capacity is the exception: it has no successor to compare a backlog with, and stops the
publisher of an event that has reached its readers.
-/

namespace ProvenBlocks

/-- How a publication is answered that reached so many subscriptions, one of them with this
backlog and none with a greater one. -/
inductive Delivery.Answers (capacity : UInt64) (receivers : Nat) (greatest : UInt64) :
    Except Overflow Delivery → Prop
  | unheard (nobody : receivers = 0) : Answers capacity receivers greatest (.ok ⟨0, false⟩)
  | delivered (reached : receivers ≠ 0) (bounded : capacity.toNat < 2 ^ 64 - 1) :
      Answers capacity receivers greatest (.ok ⟨receivers, greatest == capacity + 1⟩)
  | stopped (reached : receivers ≠ 0) (full : capacity.toNat = 2 ^ 64 - 1) :
      Answers capacity receivers greatest (.error .addition)

theorem Delivery.Answers.receivers {capacity greatest : UInt64} {receivers : Nat}
    {delivery : Delivery} (answers : Answers capacity receivers greatest (.ok delivery)) :
    delivery.receivers = receivers := by
  cases answers with
  | unheard nobody => exact nobody.symm
  | delivered reached bounded => rfl

namespace Bus

variable (bus : Bus)

theorem answer_answers (greatest : UInt64) :
    Delivery.Answers bus.capacity bus.subscriberCount greatest (bus.answer greatest) := by
  rcases listed : bus.subscriptions with _ | ⟨first, others⟩
  · simp only [answer, listed, List.isEmpty_nil, if_true]
    exact .unheard (by rw [subscriberCount, listed]; rfl)
  have reached : bus.subscriberCount ≠ 0 := by simp [subscriberCount, listed]
  have heard : bus.subscriptions.isEmpty = false := by simp [listed]
  simp only [answer, heard, Bool.false_eq_true, if_false]
  by_cases bounded : bus.capacity.toNat < 2 ^ 64 - 1
  · simp only [checked_succ_ok bounded]
    exact .delivered reached bounded
  · have full : bus.capacity.toNat = 2 ^ 64 - 1 := by
      have word := bus.capacity.toNat_lt
      omega
    simp only [checked_succ_overflow full]
    exact .stopped reached full

theorem publish_answered (signature : Signature) :
    (bus.publish signature).1 =
      (bus.fanOut signature).answer (bus.fanOut signature).greatestBacklog := by
  have limit : (bus.fanOut signature).capacity = bus.capacity := rfl
  simp only [publish, answer, limit]
  split
  · rfl
  · rcases checkedSucc bus.capacity with overflow | limit <;> rfl

theorem publish_answers (signature : Signature) :
    Delivery.Answers bus.capacity bus.subscriberCount (bus.fanOut signature).greatestBacklog
      (bus.publish signature).1 := by
  have counted : (bus.fanOut signature).subscriberCount = bus.subscriberCount := by
    simp only [subscriberCount, fanOut, List.length_map]
  rw [publish_answered, ← counted]
  exact (bus.fanOut signature).answer_answers _

/-- The bus with another capacity. -/
def ofCapacity (capacity : UInt64) : Bus := { bus with capacity := capacity }

theorem published_of_capacity (capacity : UInt64) (signature : Signature) :
    ((bus.ofCapacity capacity).publish signature).2 =
      (bus.publish signature).2.ofCapacity capacity := by
  rw [published_bus, published_bus]
  rfl

theorem receive_of_capacity (capacity : UInt64) (id : Nat) :
    (bus.ofCapacity capacity).receive id =
      ((bus.receive id).1, (bus.receive id).2.ofCapacity capacity) := by
  have seen : (bus.ofCapacity capacity).find? id = bus.find? id := rfl
  rcases found : bus.find? id with _ | subscription
  · simp only [receive, seen, found]
  rw [found] at seen
  rcases queued : subscription.waiting with _ | ⟨first, later⟩
  · rw [receive_idle _ seen queued, receive_idle _ found queued]
    rfl
  · rw [receive_first _ seen queued, receive_first _ found queued]
    rfl

theorem receive_capacity (id : Nat) : (bus.receive id).2.capacity = bus.capacity := by
  simp only [receive]
  split
  · rfl
  · split <;> rfl

end Bus

namespace BusEvent

/-- One and the same use of two buses of these capacities. -/
inductive Alike (capacity other : UInt64) : BusEvent → BusEvent → Prop
  | published (signature : Signature) (receivers : Nat) (greatest : UInt64)
      {answer otherwise : Except Overflow Delivery}
      (answers : Delivery.Answers capacity receivers greatest answer)
      (answers_other : Delivery.Answers other receivers greatest otherwise) :
      Alike capacity other (.published signature answer) (.published signature otherwise)
  | quiet {event : BusEvent} (quiet : event.publication? = none) : Alike capacity other event event

variable {capacity other : UInt64} {event otherwise : BusEvent}

theorem Alike.subscription (alike : Alike capacity other event otherwise) :
    otherwise.subscription? = event.subscription? := by
  cases alike <;> rfl

theorem Alike.publication (alike : Alike capacity other event otherwise) :
    otherwise.publication? = event.publication? := by
  cases alike <;> rfl

theorem Alike.ended (alike : Alike capacity other event otherwise) :
    otherwise.ended? = event.ended? := by
  cases alike <;> rfl

theorem Alike.reception (alike : Alike capacity other event otherwise) (id : Nat) :
    otherwise.reception? id = event.reception? id := by
  cases alike <;> rfl

/-- What is read off events that alike events share is the same in alike logs. -/
theorem Alike.told {Told : Type} {tell : BusEvent → Option Told}
    (shared : ∀ {event otherwise}, Alike capacity other event otherwise →
      tell otherwise = tell event) {log otherwise : List BusEvent}
    (alike : List.Forall₂ (Alike capacity other) log otherwise) :
    otherwise.filterMap tell = log.filterMap tell := by
  induction alike with
  | nil => rfl
  | cons first later inductive_hypothesis =>
      rw [List.filterMap_cons, List.filterMap_cons, shared first, inductive_hypothesis]

theorem Alike.live {log otherwise : List BusEvent}
    (alike : List.Forall₂ (Alike capacity other) log otherwise) :
    Traffic.liveIn otherwise = Traffic.liveIn log := by
  have begun : Traffic.subscribedIn otherwise = Traffic.subscribedIn log :=
    told Alike.subscription alike
  have ended : Traffic.endedIn otherwise = Traffic.endedIn log := told Alike.ended alike
  rw [Traffic.liveIn, begun, ended]
  rfl

end BusEvent

namespace Traffic

/-- Two buses of these capacities after the same use. -/
structure Alike (capacity other : UInt64) (traffic otherwise : Traffic) : Prop where
  limit : traffic.bus.capacity = capacity
  bus : otherwise.bus = traffic.bus.ofCapacity other
  log : List.Forall₂ (BusEvent.Alike capacity other) traffic.log otherwise.log

variable {capacity other : UInt64} {traffic otherwise : Traffic}

theorem fresh_alike (capacity other : UInt64) :
    Alike (max capacity 1) (max other 1) (fresh capacity) (fresh other) :=
  ⟨rfl, rfl, .nil⟩

/-- Whatever takes place on one bus takes place on the other. -/
theorem Alike.step (alike : Alike capacity other traffic otherwise) (operation : BusOperation) :
    Alike capacity other (traffic.step operation) (otherwise.step operation) := by
  have isOpen : otherwise.bus.isOpen = traffic.bus.isOpen := by rw [alike.bus]; rfl
  have seen (id : Nat) : otherwise.bus.find? id = traffic.bus.find? id := by rw [alike.bus]; rfl
  have both {after : Bus} {event event' : BusEvent} (same : after.capacity = traffic.bus.capacity)
      (events : BusEvent.Alike capacity other event event') :
      Alike capacity other ⟨after, traffic.log ++ [event]⟩
        ⟨after.ofCapacity other, otherwise.log ++ [event']⟩ :=
    ⟨same.trans alike.limit, rfl, List.rel_append alike.log (.cons events .nil)⟩
  cases operation with
  | subscribe =>
      simp only [Traffic.step, isOpen]
      split
      · rw [alike.bus]
        exact both rfl (.quiet rfl)
      · exact alike
  | publish signature =>
      simp only [Traffic.step, isOpen]
      split
      · rw [alike.bus, Bus.published_of_capacity]
        refine both (by rw [Bus.published_bus]; rfl) ?_
        refine .published signature traffic.bus.subscriberCount
          (traffic.bus.fanOut signature).greatestBacklog ?_ ?_
        · rw [← alike.limit]
          exact traffic.bus.publish_answers signature
        · exact (traffic.bus.ofCapacity other).publish_answers signature
      · exact alike
  | receive id =>
      simp only [Traffic.step, seen]
      split
      · rw [alike.bus, Bus.receive_of_capacity]
        exact both (traffic.bus.receive_capacity id) (.quiet rfl)
      · exact alike
  | unsubscribe id =>
      simp only [Traffic.step, seen]
      split
      · rw [alike.bus]
        exact both rfl (.quiet rfl)
      · exact alike
  | close =>
      simp only [Traffic.step, isOpen]
      split
      · rw [alike.bus]
        exact both rfl (.quiet rfl)
      · exact alike

theorem Alike.run (alike : Alike capacity other traffic otherwise)
    (operations : List BusOperation) :
    Alike capacity other (traffic.run operations) (otherwise.run operations) := by
  induction operations generalizing traffic otherwise with
  | nil => exact alike
  | cons operation later inductive_hypothesis => exact inductive_hypothesis (alike.step operation)

/-- A publication is answered as the live subscriptions and the capacity have it. -/
def IsAnswered (capacity : UInt64) (log : List BusEvent) : Prop :=
  ∀ before signature answer after, log = before ++ .published signature answer :: after →
    ∃ greatest, Delivery.Answers capacity (liveIn before).length greatest answer

/-- Every subscription can count one more event. -/
def HasRoom (bus : Bus) : Prop :=
  ∀ id subscription, bus.find? id = some subscription →
    checkedSucc subscription.backlog = .ok (subscription.backlog + 1)

/-- A bus of any capacity is answered as a bus whose capacity stops nothing has it. -/
theorem Alike.answered (alike : Alike capacity other traffic otherwise)
    (orderly : traffic.IsOrderly) : IsAnswered other otherwise.log := by
  intro before signature answer after split
  have logs := alike.log
  rw [split] at logs
  have earlier := List.forall₂_take_append _ _ _ logs
  have later := List.forall₂_drop_append _ _ _ logs
  have parts := List.take_append_drop before.length traffic.log
  rw [BusEvent.Alike.live earlier]
  generalize traffic.log.take before.length = first at parts ⊢
  generalize traffic.log.drop before.length = rest at parts later
  cases later with
  | cons events _ =>
      cases events with
      | published signature receivers greatest answers answers_other =>
          obtain ⟨isLagging, delivered⟩ := orderly.answered first signature _ _ parts.symm
          subst delivered
          have counted : (liveIn first).length = receivers := answers.receivers
          exact ⟨greatest, counted ▸ answers_other⟩
      | quiet quiet => cases quiet

/-- No queue holds more than was published since its subscription began. -/
theorem IsOrderly.room (orderly : traffic.IsOrderly)
    (bounded : (publishedIn traffic.log).length < 2 ^ 64 - 1) : HasRoom traffic.bus := by
  intro id subscription found
  obtain ⟨begun, unended⟩ := List.mem_filter.mp (orderly.known found)
  obtain ⟨event, member, named⟩ := List.mem_filterMap.mp begun
  have subscribed : event = .subscribed id := by
    cases event <;> cases named
    rfl
  obtain ⟨before, after, split⟩ := List.append_of_mem (subscribed ▸ member)
  have later : after <:+ traffic.log := ⟨before ++ [.subscribed id], by simp [split]⟩
  have lives : id ∉ endedIn after := by
    intro ended
    exact of_decide_eq_true unended ((later.filterMap BusEvent.ended?).mem ended)
  obtain ⟨next, present, received, counted⟩ := orderly.delivered before id after split lives
  rw [found, Option.some.injEq] at present
  subst present
  have queued : subscription.waiting.length ≤ (publishedIn traffic.log).length := by
    have lengths := congrArg List.length received
    have shorter : (publishedIn after).length ≤ (publishedIn traffic.log).length :=
      (later.filterMap BusEvent.publication?).length_le
    rw [List.length_append] at lengths
    omega
  apply checked_succ_ok
  rw [counted, UInt64.toNat_ofNat']
  omega

/-- What two buses of these capacities have in common after the same use. -/
structure DiffersInWarnings (capacity other : UInt64) (traffic otherwise : Traffic) : Prop where
  /-- The buses hold the same, but for the capacity. -/
  bus : otherwise.bus = traffic.bus.ofCapacity other
  /-- They were used alike, with the same number of receivers for every publication. -/
  log : List.Forall₂ (BusEvent.Alike capacity other) traffic.log otherwise.log
  received : ∀ id, receptionsOf id otherwise.log = receptionsOf id traffic.log
  backlog : ∀ id, otherwise.bus.backlog id = traffic.bus.backlog id
  subscribers : otherwise.bus.subscriberCount = traffic.bus.subscriberCount
  published : otherwise.bus.published = traffic.bus.published
  /-- Only a publication that is heard is stopped, and only by the greatest capacity. -/
  answered : IsAnswered capacity traffic.log ∧ IsAnswered other otherwise.log
  /-- The queues do not stop a publication before all of a word was published. -/
  room : (publishedIn traffic.log).length < 2 ^ 64 - 1 → HasRoom traffic.bus

/-- A capacity does not change what a bus delivers, whatever is done with it. -/
theorem run_differs_in_warnings (capacity other : UInt64) (operations : List BusOperation) :
    DiffersInWarnings (max capacity 1) (max other 1) ((fresh capacity).run operations)
      ((fresh other).run operations) := by
  have orderly : ((fresh 1).run operations).IsOrderly :=
    (fresh_orderly (by decide)).run operations
  have alike := (fresh_alike capacity other).run operations
  have small_alike := (fresh_alike 1 capacity).run operations
  refine ⟨alike.bus, alike.log, ?_, ?_, ?_, ?_, ⟨?_, ?_⟩, ?_⟩
  · exact fun id => BusEvent.Alike.told (fun same => same.reception id) alike.log
  · intro id
    rw [alike.bus]
    rfl
  · rw [alike.bus]
    rfl
  · rw [alike.bus]
    rfl
  · exact small_alike.answered orderly
  · exact ((fresh_alike 1 other).run operations).answered orderly
  · intro bounded id subscription found
    have same : publishedIn ((fresh capacity).run operations).log =
        publishedIn ((fresh 1).run operations).log :=
      BusEvent.Alike.told BusEvent.Alike.publication small_alike.log
    rw [same] at bounded
    rw [small_alike.bus] at found
    exact orderly.room bounded id subscription found

/-- Both capacities are accepted. With the greatest one the first publication stops, though its
event waits for the reader by then. -/
theorem accepted_capacity_stops_publisher :
    ∃ (greatest : UInt64) (operations : List BusOperation) (signature : Signature),
      greatest.toNat = 2 ^ 64 - 1 ∧
      ({ StreamSettings.default with signatureCapacity := greatest }).validate = .ok () ∧
      StreamSettings.default.validate = .ok () ∧
      ((fresh greatest).run operations).log =
        [.subscribed 0, .published signature (.error .addition)] ∧
      ((fresh greatest).run operations).bus.backlog 0 = 1 ∧
      ((fresh defaultCapacity).run operations).log =
        [.subscribed 0, .published signature (.ok ⟨1, false⟩)] :=
  ⟨18446744073709551615, [.subscribe, .publish ⟨.zero, []⟩], ⟨.zero, []⟩, by decide, by decide,
    by decide, rfl, by decide, rfl⟩

end Traffic
end ProvenBlocks
