import Dataflow.Value
import Dataflow.Ticket

namespace Dataflow

inductive PortType where
  | vector (size : Nat)
  /-- any value whose type has this name -/
  | named (typeName : String)
  deriving DecidableEq, Repr

namespace PortType

def isVector : PortType → Bool
  | vector _ => true
  | named _ => false

def mismatch (type : PortType) (v : Value) : Option (String × String) :=
  match type, v with
  | vector size, .vector xs =>
      if xs.length = size then none
      else some (s!"BasicVector of size {size}", s!"BasicVector of size {xs.length}")
  | vector _, other => some (ValueType.vector.name, other.type.name)
  | named typeName, other =>
      if typeName = other.type.name then none else some (typeName, other.type.name)

end PortType

structure Port where
  name : String
  ticket : Ticket
  type : PortType
  /-- present if the port is deprecated; an empty message gives no details -/
  deprecation : Option String := none
  deriving DecidableEq, Repr

/-- An output port. With a `child` it is exported from that subsystem, and its `dependency` is the
child's business; else it depends on a ticket of its own system. -/
structure OutputPort extends Port where
  child : Option Nat
  dependency : Ticket
  deriving DecidableEq, Repr

namespace Port

def fullDescription (p : Port) (kind : PortKind) (index : Nat) (pathname systemType : String) :
    String :=
  s!"{kind.name}[{index}] ({p.name}) of System {pathname} ({systemType})"

def markDeprecated (p : Port) (message : String) : Port := { p with deprecation := some message }

end Port

end Dataflow
