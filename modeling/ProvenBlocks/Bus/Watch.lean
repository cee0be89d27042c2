import ProvenBlocks.Bus.Consumer
import ProvenBlocks.Bus.Contention

/-!
A bus under contention and one of its consumers. The consumer is a reader like any other: it takes
an event from its queue and then from its backlog, looks whether it is still wanted, and only then
hands the event over. Between any two of these steps can come those of publishers, of other readers
and of whoever lets the consumer go.
-/

namespace ProvenBlocks

structure Watch where
  contention : Contention
  consumer : Consumer
  /-- How many publications had ended before the consumer was registered. -/
  earlier : Nat

inductive WatchMove where
  | use (step : ContentionStep)
  | work
  | dismiss
  | abort
  | stop
  deriving DecidableEq

/-- The subscription whose reader makes the step. -/
def ContentionStep.reader? : ContentionStep → Option Nat
  | .unsubscribe id | .take id | .settle id => some id
  | .subscribe | .close | .publish _ | .proceed => none

/-- The event that a reader takes next. -/
def Contention.first? (state : Contention) (id : Nat) : Option Signature :=
  (state.bus.find? id).bind fun subscription => subscription.waiting.head?

namespace Watch

/-- Registers a consumer while no publisher holds the registry. -/
def register (state : Contention) : Watch :=
  let (consumer, bus) := Consumer.register state.bus
  ⟨{ state with bus := bus }, consumer, state.publications.length⟩

/-- Whoever gives up a subscription waits for the publisher. -/
def finish (watch : Watch) : Watch :=
  if watch.contention.publishing.isNone then
    { watch with
      contention := watch.contention.step (.unsubscribe watch.consumer.subscription)
      consumer := { watch.consumer with stage := .finished } }
  else watch

/-- The next step of the consumer. With nothing to do it stays as it is. -/
def work (watch : Watch) : Watch :=
  let id := watch.consumer.subscription
  match watch.consumer.stage with
  | .waiting =>
      match watch.contention.first? id with
      | some first =>
          { watch with
            contention := watch.contention.step (.take id)
            consumer := { watch.consumer with stage := .holding first } }
      | none => if watch.contention.bus.isOpen then watch else watch.finish
  | .holding signature =>
      if watch.contention.receiving.contains id then
        { watch with contention := watch.contention.step (.settle id) }
      else if watch.consumer.isWanted then
        { watch with consumer := { watch.consumer with stage := .admitted signature } }
      else watch.finish
  | .admitted signature =>
      { watch with consumer := { watch.consumer with
          stage := .waiting
          received := watch.consumer.received ++ [signature] } }
  | .finished => watch

/-- Nobody but the consumer reads from its subscription. It is aborted when it has been dismissed,
and only then, and stops where it waits or goes on for a while. -/
def move (watch : Watch) : WatchMove → Watch
  | .use step =>
      if step.reader? = some watch.consumer.subscription then watch
      else { watch with contention := watch.contention.step step }
  | .work => watch.work
  | .dismiss => { watch with consumer := watch.consumer.dismiss }
  | .abort =>
      if watch.consumer.isWanted then watch else { watch with consumer := watch.consumer.abort }
  | .stop => if watch.consumer.isStoppable then watch.finish else watch

def run (watch : Watch) (moves : List WatchMove) : Watch := moves.foldl move watch

end Watch
end ProvenBlocks
