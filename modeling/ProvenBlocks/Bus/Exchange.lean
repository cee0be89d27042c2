import ProvenBlocks.Bus.Consumer

/-!
A bus with its readers by name: subscriptions that are read on demand, and consumers that work
whenever the exchange settles. A reader replaces the earlier one of the same name.
-/

namespace ProvenBlocks

/-- What the consumers of one name have received since it was last asked for. -/
structure Inbox where
  name : Nat
  received : List Signature

structure Exchange where
  bus : Bus
  readers : List (Nat × Nat)
  consumers : List (Nat × Consumer)
  inboxes : List Inbox

namespace Exchange

def empty (capacity : UInt64) : Exchange := ⟨.empty capacity, [], [], []⟩

def reader? (exchange : Exchange) (name : Nat) : Option Nat := exchange.readers.lookup name

def drop (exchange : Exchange) (name : Nat) : Exchange :=
  match exchange.reader? name with
  | none => exchange
  | some subscription =>
      { exchange with
        bus := exchange.bus.unsubscribe subscription
        readers := exchange.readers.filter fun reader => reader.1 != name }

def subscribe (exchange : Exchange) (name : Nat) : Exchange :=
  let (subscription, bus) := exchange.bus.subscribe
  let dropped := { exchange with bus := bus }.drop name
  { dropped with readers := dropped.readers ++ [(name, subscription)] }

def cancelNamed (name : Nat) (entry : Nat × Consumer) : Nat × Consumer :=
  if entry.1 = name then (entry.1, entry.2.cancel) else entry

def cancel (exchange : Exchange) (name : Nat) : Exchange :=
  { exchange with consumers := exchange.consumers.map (cancelNamed name) }

def consume (exchange : Exchange) (name : Nat) : Exchange :=
  let (consumer, bus) := Consumer.register exchange.bus
  let others := (exchange.cancel name).consumers
  let inboxes :=
    if exchange.inboxes.any fun inbox => inbox.name == name then exchange.inboxes
    else exchange.inboxes ++ [⟨name, []⟩]
  { exchange with bus := bus, consumers := others ++ [(name, consumer)], inboxes := inboxes }

def addReceived (name : Nat) (received : List Signature) (inbox : Inbox) : Inbox :=
  if inbox.name = name then { inbox with received := inbox.received ++ received } else inbox

/-- Lets every consumer work until it waits; cancelled ones leave the bus. -/
def settleAll : List (Nat × Consumer) → Exchange → Exchange
  | [], exchange => exchange
  | (name, consumer) :: later, exchange =>
      let (consumer, bus) := consumer.settle exchange.bus
      let kept := { consumer with received := [] }
      let settled := { exchange with
        bus := bus
        consumers := exchange.consumers ++ (if consumer.isWanted then [(name, kept)] else [])
        inboxes := exchange.inboxes.map (addReceived name consumer.received) }
      settleAll later settled

def settle (exchange : Exchange) : Exchange :=
  settleAll exchange.consumers { exchange with consumers := [] }

def unregister (exchange : Exchange) (name : Nat) : Exchange := (exchange.cancel name).settle

def publish (exchange : Exchange) (signature : Signature) : Except Overflow Delivery × Exchange :=
  let (delivery, bus) := exchange.bus.publish signature
  (delivery, { exchange with bus := bus })

/-- The stand-in signer works apart from its caller, who learns of no overflow. -/
def sign (exchange : Exchange) (message : Digest) : Exchange :=
  (exchange.publish (.standIn message)).2.settle

def close (exchange : Exchange) : Exchange :=
  { exchange with bus := exchange.bus.close }.settle

def receive (exchange : Exchange) (name : Nat) : Reception × Exchange :=
  match exchange.reader? name with
  | none => (.closed, exchange)
  | some subscription =>
      let (reception, bus) := exchange.bus.receive subscription
      (reception, { exchange with bus := bus })

/-- The registered consumers and whether they are still active. -/
def activity (exchange : Exchange) : List (Nat × Bool) :=
  (exchange.consumers.filter fun entry => entry.2.isWanted).map fun entry =>
    (entry.1, entry.2.isActive)

def backlogs (exchange : Exchange) : List (Nat × UInt64) :=
  exchange.readers.map fun reader => (reader.1, exchange.bus.backlog reader.2)

def emptyInboxes (exchange : Exchange) : Exchange :=
  { exchange with inboxes := exchange.inboxes.map fun inbox => { inbox with received := [] } }

end Exchange
end ProvenBlocks
