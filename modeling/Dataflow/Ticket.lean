namespace Dataflow

/-- Number of something that can be depended upon, unique within its system. -/
abbrev Ticket := Nat

/-- Moment of the last change of a tracker, counted per dependency graph from zero. -/
abbrev Serial := Nat

abbrev SystemId := Nat

abbrev ContextId := Nat

namespace Ticket

def nothing : Ticket := 0
def time : Ticket := 1
def accuracy : Ticket := 2
def continuousState : Ticket := 3
def discreteState : Ticket := 4
def abstractState : Ticket := 5
def allState : Ticket := 6
def numericParameters : Ticket := 7
def abstractParameters : Ticket := 8
def allParameters : Ticket := 9
def allInputs : Ticket := 10
def allExceptInputs : Ticket := 11
def allSources : Ticket := 12

def firstAssignable : Ticket := 13

def next (t : Ticket) : Ticket := t + 1

def isBuiltIn (t : Ticket) : Bool := t < firstAssignable

end Ticket

inductive SourceGroup where
  | discreteState
  | abstractState
  | numericParameter
  | abstractParameter
  deriving DecidableEq, Repr

namespace SourceGroup

def all : List SourceGroup := [discreteState, abstractState, numericParameter, abstractParameter]

def aggregate : SourceGroup → Ticket
  | discreteState => Ticket.discreteState
  | abstractState => Ticket.abstractState
  | numericParameter => Ticket.numericParameters
  | abstractParameter => Ticket.abstractParameters

end SourceGroup

inductive PortKind where
  | input
  | output
  deriving DecidableEq, Repr

def PortKind.name : PortKind → String
  | input => "InputPort"
  | output => "OutputPort"

end Dataflow
