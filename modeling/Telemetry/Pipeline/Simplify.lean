import Telemetry.Pipeline.Resolve

/-!
# Simplifying instances

`LogInstance.expand` replaces the receiver and the processors that stand for others by those others;
processors that come from the receiver go in front and bear its id. `LogInstance.simplify` then lets
the receiver take over processors from the front of the list, up to the first that it cannot take.
-/

namespace Telemetry

/-- The processors for which a processor stands, under its id. -/
def Binding.expand (b : Binding) : List Binding :=
  match b.processor.expand? with
  | some ps => ps.map fun p => ⟨b.id, p⟩
  | none => [b]

/-- A receiver takes over processors from the front of a list; what it cannot take remains. -/
def LogReceiver.absorbAll (r : LogReceiver) : List Binding → LogReceiver × List Binding
  | [] => (r, [])
  | b :: rest =>
    match r.absorb? b.processor with
    | some r => r.absorbAll rest
    | none => (r, b :: rest)

namespace LogInstance

/-- Expands the receiver and the processors, once. -/
def expand (i : LogInstance) : LogInstance :=
  let (receiver, own) := i.receiver.expand?.getD (i.receiver, [])
  { i with
    receiver := receiver
    processors := own.map (fun p => ⟨i.receiverId, p⟩) ++ i.processors.flatMap Binding.expand }

/-- Expands and then lets the receiver take over what it can. -/
def simplify (i : LogInstance) : LogInstance :=
  let e := i.expand
  let (receiver, processors) := e.receiver.absorbAll e.processors
  { e with receiver := receiver, processors := processors }

end LogInstance

end Telemetry
