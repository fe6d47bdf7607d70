import Dataflow.Error
import Dataflow.Value

namespace Dataflow

inductive Query where
  | input (port : Nat)
  | requiredInput (port : Nat)
  /-- the value of an input port, which has to be of the type if there is one -/
  | inputAs (type : ValueType) (port : Nat)
  /-- the value of an input port that was declared as a vector -/
  | vectorInput (port : Nat)
  | entry (index : Nat)
  /-- an output port that a cache entry of the system itself computes -/
  | output (index : Nat)
  /-- an output port, computed by a subsystem if it is exported from one -/
  | boundaryOutput (index : Nat)
  deriving DecidableEq, Repr

inductive Fault where
  | failed (cause : Error)
  | panicked (message : String)
  deriving DecidableEq, Repr

/-- What a producer does from here on; `out` is what the slot gets if it ends here. Of a question
that is answered by an error the producer hears; a panic ends it. -/
inductive Script where
  | finish (out : Value)
  | stop (out : Value) (fault : Fault)
  | ask (out : Value) (query : Query) (resume : Except Error (Option Value) → Script)
  /-- reads a number from outside of the contexts -/
  | read (cell : String) (resume : Float → Script)
  /-- changes a number outside of the contexts -/
  | write (cell : String) (x : Float) (rest : Script)

abbrev Producer := Value → Script

namespace Producer

def typed (type : ValueType) (description : String) (p : Producer) : Producer := fun v =>
  if v.type = type then p v
  else .stop v (.failed (.computationFailed description
    s!"cached value has type {v.type.name}, expected {type.name}"))

end Producer

end Dataflow
