import ProvenBlocks.Bus

/-!
Consumers of a bus. A consumer takes one event from its own subscription, looks whether it is
still wanted, and only then hands the event over: three steps, and anything can happen between
them. Whoever lets a consumer go first makes it unwanted and then aborts it. An aborted consumer
stops where it waits for an event, and gives up its subscription there.
-/

namespace ProvenBlocks

inductive ConsumerStage where
  | waiting
  | holding (signature : Signature)
  | admitted (signature : Signature)
  | finished
  deriving DecidableEq

structure Consumer where
  subscription : Nat
  isWanted : Bool
  isAborted : Bool
  stage : ConsumerStage
  received : List Signature

namespace Consumer

def register (bus : Bus) : Consumer × Bus :=
  let (subscription, after) := bus.subscribe
  (⟨subscription, true, false, .waiting, []⟩, after)

def dismiss (consumer : Consumer) : Consumer := { consumer with isWanted := false }

def abort (consumer : Consumer) : Consumer := { consumer with isAborted := true }

def cancel (consumer : Consumer) : Consumer := consumer.dismiss.abort

def isActive (consumer : Consumer) : Bool :=
  consumer.isWanted && consumer.stage != .finished

def finish (consumer : Consumer) (bus : Bus) : Consumer × Bus :=
  ({ consumer with stage := .finished }, bus.unsubscribe consumer.subscription)

/-- The next of the three steps; none when there is nothing to do. -/
def work? (consumer : Consumer) (bus : Bus) : Option (Consumer × Bus) :=
  match consumer.stage with
  | .waiting =>
      match bus.receive consumer.subscription with
      | (.event signature, after) => some ({ consumer with stage := .holding signature }, after)
      | (.pending, _) => none
      | (.closed, _) => some (consumer.finish bus)
  | .holding signature =>
      if consumer.isWanted then some ({ consumer with stage := .admitted signature }, bus)
      else some (consumer.finish bus)
  | .admitted signature =>
      some ({ consumer with
        stage := .waiting
        received := consumer.received ++ [signature] }, bus)
  | .finished => none

def isStoppable (consumer : Consumer) : Bool :=
  consumer.isAborted && consumer.stage == .waiting

/-- One step of a consumer that stops as soon as it can. -/
def step? (consumer : Consumer) (bus : Bus) : Option (Consumer × Bus) :=
  if consumer.isStoppable then some (consumer.finish bus) else consumer.work? bus

def settleWithin : Nat → Consumer → Bus → Consumer × Bus
  | 0, consumer, bus => (consumer, bus)
  | fuel + 1, consumer, bus =>
      match consumer.step? bus with
      | none => (consumer, bus)
      | some (consumer, bus) => consumer.settleWithin fuel bus

/-- Steps until nothing is left to do: three steps for each waiting event, two for an event in hand
and one to finish. -/
def settle (consumer : Consumer) (bus : Bus) : Consumer × Bus :=
  let waiting := match bus.find? consumer.subscription with
    | none => 0
    | some subscription => subscription.waiting.length
  consumer.settleWithin (3 * waiting + 3) bus

end Consumer
end ProvenBlocks
