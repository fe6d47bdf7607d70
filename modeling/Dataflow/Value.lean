import Dataflow.Decimal.Shortest
import Dataflow.Text.Quoted

namespace Dataflow

inductive ValueType where
  | real
  | int64
  | int32
  | byte
  | word
  | flag
  | text
  | vector
  | reals
  | unit
  deriving DecidableEq, Repr

inductive Value where
  | real (x : Float)
  | int64 (n : Int64)
  | int32 (n : Int32)
  | byte (n : UInt8)
  | word (n : UInt64)
  | flag (b : Bool)
  | text (s : String)
  | vector (xs : List Float)
  | reals (xs : List Float)
  | unit
  deriving Repr, Inhabited

namespace ValueType

def all : List ValueType := [real, int64, int32, byte, word, flag, text, vector, reals, unit]

def name : ValueType → String
  | real => "f64"
  | int64 => "i64"
  | int32 => "i32"
  | byte => "u8"
  | word => "u64"
  | flag => "bool"
  | text => "alloc::string::String"
  | vector => "blockflow_framework::value::BasicVector"
  | reals => "alloc::vec::Vec<f64>"
  | unit => "()"

end ValueType

namespace Value

def type : Value → ValueType
  | real _ => .real
  | int64 _ => .int64
  | int32 _ => .int32
  | byte _ => .byte
  | word _ => .word
  | flag _ => .flag
  | text _ => .text
  | vector _ => .vector
  | reals _ => .reals
  | unit => .unit

/-- `new` if it has the type of the value held, else the value held. -/
def set (held new : Value) : Value := if new.type = held.type then new else held

@[simp] theorem type_set (held new : Value) : (held.set new).type = held.type := by
  by_cases h : new.type = held.type <;> simp [set, h]

def fill (held : Value) (x : Float) : Value :=
  match held with
  | vector xs => vector (xs.map fun _ => x)
  | other => other

@[simp] theorem type_fill (held : Value) (x : Float) : (held.fill x).type = held.type := by
  cases held <;> rfl

def sum (xs : List Float) : Float := xs.foldl (· + ·) 0

def number : Value → Float
  | real x => x
  | int64 n => n.toFloat
  | flag b => if b then 1 else 0
  | text s => Float.ofNat s.utf8ByteSize
  | vector xs => sum xs
  | _ => 0

def showReals (xs : List Float) : String :=
  "[" ++ String.intercalate ", " (xs.map Decimal.shortest) ++ "]"

def content : Value → String
  | real x => Decimal.shortest x
  | int64 n => toString n.toInt
  | int32 n => toString n.toInt
  | byte n => toString n.toNat
  | word n => toString n.toNat
  | flag b => if b then "true" else "false"
  | text s => Text.quoted s
  | vector xs => "BasicVector(" ++ showReals xs ++ ")"
  | reals xs => showReals xs
  | unit => "()"

def describe (v : Value) : String := s!"AbstractValue<{v.type.name}>({v.content})"

end Value

def assign (xs : List Float) (i : Nat) (x : Float) : List Float := xs.set i x

end Dataflow
