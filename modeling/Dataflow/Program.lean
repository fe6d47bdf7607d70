import Dataflow.Producer

namespace Dataflow

inductive Instruction where
  | add (x : Float)
  | mul (x : Float)
  | cell (name : String)
  | bump (name : String)
  | input (port : Nat)
  | intInput (port : Nat)
  | vectorInput (port : Nat)
  | anyInput (port : Nat)
  | requiredInput (port : Nat)
  | entry (index : Nat)
  | output (index : Nat)
  | previous
  | store
  | fail (message : String)
  | failIfNegative (message : String)
  | panicIfNegative (message : String)
  | unknown

def Value.store (out : Value) (x : Float) : Value :=
  match out with
  | .real _ => .real x
  | .int64 _ => .int64 x.toInt64
  | .text s => .text (s ++ ";" ++ toString x.toInt64.toInt)
  | .vector _ => out.fill x
  | other => other

def Value.storeRaw (out : Value) (x : Float) : Value := out.set (.real x)

@[simp] theorem Value.type_store (out : Value) (x : Float) : (out.store x).type = out.type := by
  cases out <;> rfl

@[simp] theorem Value.type_storeRaw (out : Value) (x : Float) : (out.storeRaw x).type = out.type :=
  out.type_set _

namespace Instruction

def query? : Instruction → Option Query
  | input port => some (.inputAs .real port)
  | intInput port => some (.inputAs .int64 port)
  | vectorInput port => some (.vectorInput port)
  | anyInput port => some (.input port)
  | requiredInput port => some (.requiredInput port)
  | entry index => some (.entry index)
  | output index => some (.output index)
  | _ => none

end Instruction

abbrev Program := List Instruction

namespace Program

def gain (answer : Option Value) : Float :=
  match answer with
  | some v => v.number
  | none => 0

/-- Runs on from register `r` and slot value `out`; `put` stores the register. -/
def script (description : String) (put : Value → Float → Value) :
    Program → Float → Value → Script
  | [], r, out => .finish (put out r)
  | i :: rest, r, out =>
      let failure (message : String) : Script :=
        .stop out (.failed (.computationFailed description message))
      match i with
      | .add x => script description put rest (r + x) out
      | .mul x => script description put rest (r * x) out
      | .cell name => .read name fun x => script description put rest (r + x) out
      | .bump name => .read name fun x => .write name (x + 1) (script description put rest r out)
      | .previous => script description put rest (r + out.number) out
      | .store => script description put rest r (put out r)
      | .fail message => failure message
      | .failIfNegative message =>
          if r < 0 then failure message else script description put rest r out
      | .panicIfNegative message =>
          if r < 0 then .stop out (.panicked message) else script description put rest r out
      | question =>
          match question.query? with
          | none => failure "bad program"
          | some query => .ask out query fun
              | .ok answer => script description put rest (r + gain answer) out
              | .error cause => .stop out (.failed cause)

def typedProducer (p : Program) (type : ValueType) (description : String) : Producer :=
  .typed type description (p.script description Value.store 0)

def rawProducer (p : Program) (description : String) : Producer :=
  p.script description Value.storeRaw 0

end Program

end Dataflow
