import ProvenBlocks.Settings
import ProvenBlocks.Signature

/-!
The signature bus. Every subscription has a queue of its own, and a published signature joins all
of them, so no reader takes events from another and a slow reader loses none. A closed bus
delivers what is queued and then reports its end.
-/

namespace ProvenBlocks

/-- The backlog counts queued events in a word beside the queue. -/
structure Subscription where
  id : Nat
  waiting : List Signature
  backlog : UInt64

structure Bus where
  capacity : UInt64
  nextId : Nat
  published : UInt64
  isOpen : Bool
  subscriptions : List Subscription

/-- How many subscriptions an event reached, and whether one has just fallen behind. -/
structure Delivery where
  receivers : Nat
  isLagging : Bool

inductive Reception where
  | event (signature : Signature)
  | pending
  | closed

def Reception.closedMessage : String := "Signature bus closed"

namespace Subscription

def accept (subscription : Subscription) (signature : Signature) : Subscription :=
  { subscription with
    waiting := subscription.waiting ++ [signature]
    backlog := subscription.backlog + 1 }

end Subscription

namespace Bus

/-- The capacity only decides when a backlog is worth a warning; it is at least one. -/
def empty (capacity : UInt64) : Bus := ⟨max capacity 1, 0, 0, true, []⟩

def subscribe (bus : Bus) : Nat × Bus :=
  (bus.nextId, {
    bus with
    nextId := bus.nextId + 1
    subscriptions := bus.subscriptions ++ [⟨bus.nextId, [], 0⟩] })

def unsubscribe (bus : Bus) (id : Nat) : Bus :=
  { bus with subscriptions := bus.subscriptions.filter fun subscription => subscription.id != id }

def find? (bus : Bus) (id : Nat) : Option Subscription :=
  bus.subscriptions.find? fun subscription => subscription.id == id

def subscriberCount (bus : Bus) : Nat := bus.subscriptions.length

def backlog (bus : Bus) (id : Nat) : UInt64 :=
  match bus.find? id with
  | none => 0
  | some subscription => subscription.backlog

def fanOut (bus : Bus) (signature : Signature) : Bus :=
  { bus with
    published := bus.published + 1
    subscriptions := bus.subscriptions.map fun subscription => subscription.accept signature }

def greatestBacklog (bus : Bus) : UInt64 :=
  bus.subscriptions.foldl (fun greatest subscription => max greatest subscription.backlog) 0

/-- Whoever subscribes later does not receive the event. The limit for the warning is computed
after the delivery, and only if there was one. -/
def publish (bus : Bus) (signature : Signature) : Except Overflow Delivery × Bus :=
  let after := bus.fanOut signature
  if after.subscriptions.isEmpty then (.ok ⟨0, false⟩, after)
  else
    match checkedSucc bus.capacity with
    | .error overflow => (.error overflow, after)
    | .ok limit => (.ok ⟨after.subscriberCount, after.greatestBacklog == limit⟩, after)

def close (bus : Bus) : Bus := { bus with isOpen := false }

def takeFirst (id : Nat) (later : List Signature) (subscription : Subscription) : Subscription :=
  if subscription.id = id then
    { subscription with waiting := later, backlog := subscription.backlog - 1 }
  else subscription

def receive (bus : Bus) (id : Nat) : Reception × Bus :=
  match bus.find? id with
  | none => (.closed, bus)
  | some subscription =>
      match subscription.waiting with
      | [] => (if bus.isOpen then .pending else .closed, bus)
      | first :: later =>
          (.event first, { bus with subscriptions := bus.subscriptions.map (takeFirst id later) })

end Bus
end ProvenBlocks
