import ProvenBlocks.Bus

/-!
A bus that publishers and readers use at the same time. A publisher holds the registry from the
first subscription to the last, so no other publisher and no change of the subscriptions comes
between. Readers do without the registry: their steps can come between any two of a publisher, and
so between the step that queues an event and the one that counts it.
-/

namespace ProvenBlocks

/-- A publisher that holds the registry. -/
structure Publishing where
  signature : Signature
  reached : List Nat
  /-- The last subscription reached, until its backlog counts the event. -/
  uncounted : Option Nat
  remaining : List Nat
  greatest : UInt64

/-- A publication that has ended. -/
structure Publication where
  signature : Signature
  registered : List Nat
  reached : List Nat
  answer : Except Overflow Delivery

structure Contention where
  bus : Bus
  publishing : Option Publishing
  /-- Readers that have taken an event from their queue and not yet from their backlog. -/
  receiving : List Nat
  taken : List (Nat × Signature)
  publications : List Publication

inductive ContentionStep where
  | subscribe
  | unsubscribe (id : Nat)
  | close
  | publish (signature : Signature)
  | proceed
  | take (id : Nat)
  | settle (id : Nat)
  deriving DecidableEq

namespace Subscription

def queue (subscription : Subscription) (signature : Signature) : Subscription :=
  { subscription with waiting := subscription.waiting ++ [signature] }

def count (subscription : Subscription) : Subscription :=
  { subscription with backlog := subscription.backlog + 1 }

def take (subscription : Subscription) : Subscription :=
  { subscription with waiting := subscription.waiting.tail }

def settle (subscription : Subscription) : Subscription :=
  { subscription with backlog := subscription.backlog - 1 }

end Subscription

namespace Bus

def ids (bus : Bus) : List Nat := bus.subscriptions.map Subscription.id

def change (bus : Bus) (id : Nat) (changed : Subscription → Subscription) : Bus :=
  { bus with
    subscriptions := bus.subscriptions.map fun subscription =>
      if subscription.id = id then changed subscription else subscription }

/-- How a publisher answers that has counted so far. -/
def answer (bus : Bus) (greatest : UInt64) : Except Overflow Delivery :=
  if bus.subscriptions.isEmpty then .ok ⟨0, false⟩
  else
    match checkedSucc bus.capacity with
    | .error overflow => .error overflow
    | .ok limit => .ok ⟨bus.subscriberCount, greatest == limit⟩

end Bus

def Publishing.registered (publishing : Publishing) : List Nat :=
  publishing.reached ++ publishing.remaining

namespace Contention

def fresh (capacity : UInt64) : Contention := ⟨.empty capacity, none, [], [], []⟩

def announce (state : Contention) (signature : Signature) : Contention :=
  { state with
    bus := { state.bus with published := state.bus.published + 1 }
    publishing := some ⟨signature, [], none, state.bus.ids, 0⟩ }

/-- A subscription gives up its registration before its queue, so no registered queue refuses an
event. -/
def queueFor (state : Contention) (publishing : Publishing) (id : Nat) (later : List Nat) :
    Contention :=
  { state with
    bus := state.bus.change id fun subscription => subscription.queue publishing.signature
    publishing := some { publishing with
      reached := publishing.reached ++ [id]
      uncounted := some id
      remaining := later } }

/-- The publisher lets go of the registry. -/
def finish (state : Contention) (publishing : Publishing) (answer : Except Overflow Delivery) :
    Contention :=
  { state with
    publishing := none
    publications := state.publications ++
      [⟨publishing.signature, publishing.registered, publishing.reached, answer⟩] }

/-- The backlog itself wraps. The publisher adds to the old value once more, and stops if that
overflows. -/
def countFor (state : Contention) (publishing : Publishing) (id : Nat) : Contention :=
  let counted := { state with bus := state.bus.change id .count }
  match checkedSucc (state.bus.backlog id) with
  | .error overflow => counted.finish publishing (.error overflow)
  | .ok backlog =>
      { counted with publishing := some { publishing with
          uncounted := none
          greatest := max publishing.greatest backlog } }

def proceed (state : Contention) (publishing : Publishing) : Contention :=
  match publishing.uncounted, publishing.remaining with
  | some id, _ => state.countFor publishing id
  | none, id :: later => state.queueFor publishing id later
  | none, [] => state.finish publishing (state.bus.answer publishing.greatest)

def takeBy (state : Contention) (id : Nat) (first : Signature) : Contention :=
  { state with
    bus := state.bus.change id .take
    receiving := state.receiving ++ [id]
    taken := state.taken ++ [(id, first)] }

def settleBy (state : Contention) (id : Nat) : Contention :=
  { state with
    bus := state.bus.change id .settle
    receiving := state.receiving.filter fun reader => reader != id }

/-- One step; what cannot be done now leaves everything as it is. Whoever changes the registry waits
for the publisher, and a reader receives one event at a time. -/
def step (state : Contention) : ContentionStep → Contention
  | .subscribe =>
      if state.publishing.isNone && state.bus.isOpen then
        { state with bus := state.bus.subscribe.2 }
      else state
  | .unsubscribe id =>
      if state.publishing.isNone && !state.receiving.contains id then
        { state with bus := state.bus.unsubscribe id }
      else state
  | .close => if state.publishing.isNone then { state with bus := state.bus.close } else state
  | .publish signature =>
      if state.publishing.isNone && state.bus.isOpen then state.announce signature else state
  | .proceed =>
      match state.publishing with
      | none => state
      | some publishing => state.proceed publishing
  | .take id =>
      match (state.bus.find? id).bind fun subscription => subscription.waiting.head? with
      | none => state
      | some first => if state.receiving.contains id then state else state.takeBy id first
  | .settle id => if state.receiving.contains id then state.settleBy id else state

def run (state : Contention) (steps : List ContentionStep) : Contention :=
  steps.foldl step state

end Contention
end ProvenBlocks
