import Dataflow.Ticket

namespace Dataflow

inductive Level where
  | warn
  | debug
  | trace
  /-- for the record only -/
  | silent
  deriving DecidableEq, Repr

inductive Outcome where
  | value
  | error
  | aborted
  deriving DecidableEq, Repr

def Outcome.isReturn (o : Outcome) : Bool := o ≠ aborted

inductive Event where
  | deprecatedPort (port details : String)
  | contextSetUp (pathname : String) (trackers entries : Nat)
  | changed (context : ContextId) (ticket : Ticket) (touched : Nat)
  | recomputed (entry : String) (serial : Serial)
  | served (context : ContextId) (entry : Nat)
  /-- an entry was asked for while its producer was running -/
  | refused (context : ContextId) (entry : Nat)
  | began (context : ContextId) (entry : Nat)
  | ended (context : ContextId) (entry : Nat) (outcome : Outcome)
  deriving DecidableEq, Repr

namespace Level

def name : Level → String
  | warn => "warn"
  | debug => "debug"
  | trace => "trace"
  | silent => "silent"

def detail : Level → Nat
  | warn => 0
  | debug => 1
  | trace => 2
  | silent => 3

end Level

def serialText (s : Serial) : String := s!"s{s}"

def contextText (id : ContextId) : String := s!"ctx{id}"

namespace Event

def level : Event → Level
  | deprecatedPort .. => .warn
  | contextSetUp .. => .debug
  | changed .. => .debug
  | recomputed .. => .trace
  | _ => .silent

def message : Event → String
  | deprecatedPort port details => s!"{port} is deprecated: {details}"
  | contextSetUp .. => "context initialized"
  | changed .. => "value change propagated"
  | recomputed .. => "cache entry recomputed"
  | served .. => "cache entry served"
  | refused .. => "cache entry refused"
  | began .. => "producer began"
  | ended .. => "producer ended"

def fields : Event → List (String × String)
  | deprecatedPort .. => []
  | contextSetUp pathname trackers entries =>
      [("system", pathname), ("trackers", toString trackers), ("cache_entries", toString entries)]
  | changed context ticket touched =>
      [("context", contextText context), ("ticket", toString ticket), ("touched", toString touched)]
  | recomputed entry serial => [("entry", entry), ("serial", serialText serial)]
  | served context entry | refused context entry | began context entry | ended context entry _ =>
      [("context", contextText context), ("entry", toString entry)]

def isLoggedAt (e : Event) (l : Level) : Bool := e.level.detail ≤ l.detail

end Event

end Dataflow
