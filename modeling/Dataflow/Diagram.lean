import Dataflow.Lineage
import Dataflow.System

namespace Dataflow

structure Connection where
  child : Nat
  input : Nat
  source : Nat
  output : Nat
  deriving DecidableEq, Repr

structure ExportedInput where
  child : Nat
  input : Nat
  own : Nat
  deriving DecidableEq, Repr

structure ExportedOutput where
  own : Nat
  child : Nat
  output : Nat
  deriving DecidableEq, Repr

structure ConstantInput where
  child : Nat
  input : Nat
  value : Value

structure Diagram where
  owner : SystemId
  children : List SystemId
  connections : List Connection := []
  exportedInputs : List ExportedInput := []
  constants : List ConstantInput := []
  exportedOutputs : List ExportedOutput := []

inductive Feed where
  | ownInput (port : Nat)
  | constant (v : Value)
  | sibling (child output : Nat)

namespace Diagram

/-- What feeds an input port of a child: the owner's input port it is exported to, else its
constant, else its connection. -/
def feed? (d : Diagram) (child input : Nat) : Option Feed :=
  let exported := d.exportedInputs.find? fun e => e.child = child && e.input = input
  let constant := d.constants.find? fun c => c.child = child && c.input = input
  let connection := d.connections.find? fun c => c.child = child && c.input = input
  exported.map (.ownInput ·.own) <|> constant.map (.constant ·.value) <|>
    connection.map fun c => .sibling c.source c.output

/-- The child's output port that is the owner's output port `own`; the last entry for `own` counts.
-/
def exportedOutput? (d : Diagram) (own : Nat) : Option ExportedOutput :=
  d.exportedOutputs.reverse.find? (·.own = own)

def effectiveOutputs (d : Diagram) : List ExportedOutput :=
  (ascending (d.exportedOutputs.map (·.own))).filterMap d.exportedOutput?

def childIndex? (d : Diagram) (id : SystemId) : Option Nat := d.children.findIdx? (· = id)

end Diagram

/-- All systems and diagrams, numbered from zero. A diagram that was taken down is absent, and
systems attached to it have no parent any more. -/
structure Blueprint where
  systems : List System := []
  diagrams : List (Option Diagram) := []

namespace Blueprint

def noSystem : System := { name := "", typeName := "", registry := "" }

def system (b : Blueprint) (id : SystemId) : System := b.systems.getD id noSystem

def parentDiagram? (b : Blueprint) (id : SystemId) : Option Diagram := do
  let d ← (b.system id).parent
  (b.diagrams[d]?).join

def parent? (b : Blueprint) (id : SystemId) : Option SystemId :=
  (b.parentDiagram? id).map (·.owner)

def diagramNumber? (b : Blueprint) (owner : SystemId) : Option Nat :=
  b.diagrams.findIdx? fun d => d.any (·.owner = owner)

def diagram? (b : Blueprint) (owner : SystemId) : Option Diagram := do
  let d ← b.diagramNumber? owner
  (b.diagrams[d]?).join

def lineage (b : Blueprint) (id : SystemId) : List SystemId :=
  Lineage.ancestors b.parent? b.systems.length id

def root (b : Blueprint) (id : SystemId) : SystemId := (b.lineage id).getLastD id

def pathname (b : Blueprint) (id : SystemId) : String :=
  Naming.pathname ((b.lineage id).reverse.map fun s => (b.system s).name)

def addSystem (b : Blueprint) (name typeName registry : String) : Blueprint :=
  { b with systems := b.systems ++ [{ name, typeName, registry }] }

def declare {α : Type} (id : SystemId) (f : String → Declare α) : Attempt Blueprint α := fun b =>
  match f (b.pathname id) (b.system id) with
  | .ok a s => .ok a { b with systems := b.systems.set id s }
  | .error e s => .error e { b with systems := b.systems.set id s }

/-- Attaches a system to a diagram. That can happen once only, even if the diagram goes away. -/
def setParent (id : SystemId) (diagram : Nat) : Attempt Blueprint Unit :=
  declare id fun pathname => Attempt.step fun s =>
    if s.parent.isSome then .error (.parentAlreadySet pathname)
    else .ok { s with parent := some diagram }

def removeDiagram (b : Blueprint) (diagram : Nat) : Blueprint :=
  { b with diagrams := b.diagrams.set diagram none }

def attach (diagram : Nat) : List SystemId → Blueprint → List (Option Error) × Blueprint
  | [], b => ([], b)
  | child :: rest, b =>
      let (result, b) := match setParent child diagram b with
        | .ok _ b => (none, b)
        | .error e b => (some e, b)
      let (results, b) := attach diagram rest b
      (result :: results, b)

/-- Gives the owner a new diagram and attaches its children; only then is an earlier diagram of the
owner taken down. Says for each child what went wrong, if anything. -/
def addDiagram (b : Blueprint) (d : Diagram) : List (Option Error) × Blueprint :=
  let earlier := b.diagramNumber? d.owner
  let number := b.diagrams.length
  let (results, b) := attach number d.children { b with diagrams := b.diagrams ++ [some d] }
  (results, match earlier with
    | some e => b.removeDiagram e
    | none => b)

end Blueprint

end Dataflow
