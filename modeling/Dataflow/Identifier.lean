import Dataflow.Ticket

namespace Dataflow

inductive IndexKind where
  | cacheEntry
  | inputPort
  | outputPort
  | subsystem
  | ticket
  | context
  deriving DecidableEq, Repr

namespace IndexKind

def name : IndexKind → String
  | cacheEntry => "CacheIndex"
  | inputPort => "InputPortIndex"
  | outputPort => "OutputPortIndex"
  | subsystem => "SubsystemIndex"
  | ticket => "DependencyTicket"
  | context => "ContextId"

def text (kind : IndexKind) (n : Nat) : String := s!"{kind.name}({n})"

end IndexKind

def systemIdText (n : Nat) : String := s!"#{n}"

namespace Identifier

def isBlank (c : Char) : Bool := c = ' ' || c = '\t' || c = '\n' || c = '\r'

def trim (text : List Char) : List Char :=
  ((text.dropWhile isBlank).reverse.dropWhile isBlank).reverse

def value (digits : List Char) : Nat :=
  digits.foldl (fun n c => 10 * n + (c.toNat - '0'.toNat)) 0

/-- A number below 2 ^ 64 without sign, leading zeros, point or exponent, blanks around it allowed.
-/
def parse (text : String) : Option Nat :=
  match trim text.toList with
  | [] => none
  | c :: rest =>
      let digits := c :: rest
      if digits.all Char.isDigit && (c ≠ '0' || rest.isEmpty) && value digits < Nat.pow 2 64 then
        some (value digits)
      else none

def parseNonZero (text : String) : Option Nat := (parse text).filter (· ≠ 0)

end Identifier

end Dataflow
