import Dataflow.Run

/-!
Evaluation of ports and cache entries. A question to a system in one of its contexts leads to
questions to others: an input port to the parent of the system, an exported output port to a
subsystem, a cache entry to whatever its producer asks. `respond` answers one question given a way
to answer those; `answer` follows them to a given depth, and `evaluate` to one that is never
exceeded: between two runs of producers the questions climb up the contexts and down again, and
while a producer runs its slot is empty and lets no second run begin.
-/

namespace Dataflow

inductive Stop where
  | fault (f : Fault)
  /-- the depth was not enough -/
  | exhausted
  deriving DecidableEq, Repr

abbrev Eval (α : Type) := EStateM Stop Run α

/-- A way to put a question to a system in one of its contexts; the answer is absent only for an
input port without a value. -/
abbrev Answerer := SystemId → ContextId → Query → Eval (Option Value)

namespace Eval

def fail {α : Type} (e : Error) : Eval α := throw (.fault (.failed e))

def ofExcept {α : Type} : Except Error α → Eval α
  | .ok a => pure a
  | .error e => fail e

end Eval

def mismatchError (b : Blueprint) (t : Tree) (id : SystemId) (c : ContextId) (claimed : SystemId) :
    Error :=
  let typeName := (b.system id).typeName
  if (b.parent? id).map b.root = some claimed then .rootContextGiven typeName (b.pathname id)
  else if t.systemOf (t.root c) = some id then .subcontextGiven (t.pathname c)
  else .foreignContext typeName (b.pathname id) (t.pathname c)

def validate (b : Blueprint) (t : Tree) (id : SystemId) (c : ContextId) : Except Error Unit :=
  match t.systemOf c with
  | none => .error (.unclaimedContext (b.system id).typeName (b.pathname id))
  | some claimed => if claimed = id then .ok () else .error (mismatchError b t id c claimed)

namespace Script

def run (ask : Query → Eval (Option Value)) : Script → Run → (Value × Option Stop) × Run
  | .finish out, r => ((out, none), r)
  | .stop out f, r => ((out, some (.fault f)), r)
  | .ask out q resume, r =>
      match ask q r with
      | .ok v r => run ask (resume (.ok v)) r
      | .error (.fault (.failed e)) r => run ask (resume (.error e)) r
      | .error cause r => ((out, some cause), r)
  | .read cell resume, r => run ask (resume (r.cells.get cell)) r
  | .write cell x rest, r => run ask rest { r with cells := r.cells.set cell x }

end Script

def outcomeOf : Option Stop → Outcome
  | none => .value
  | some (.fault (.failed _)) => .error
  | some _ => .aborted

def Slot.ending (s : Slot) (current : Serial) (out : Value) (outcome : Outcome) : Slot :=
  let s := if outcome.isReturn then s.recordComputation else s
  s.restored out (if outcome = .value then some current else none)

namespace Run

def serve (r : Run) (c : ContextId) (index : Nat) : Run :=
  (r.note (.served c index)).modifySlot c index Slot.recordHit

def refuse (r : Run) (c : ContextId) (index : Nat) : Run :=
  (r.note (.refused c index)).modifySlot c index Slot.markOutOfDate

def beginProducer (r : Run) (c : ContextId) (index : Nat) : Run :=
  (r.note (.began c index)).modifySlot c index Slot.emptied

def endProducer (r : Run) (c : ContextId) (index : Nat) (e : Entry) (current : Serial) (out : Value)
    (outcome : Outcome) : Run :=
  let r := r.note (.ended c index outcome)
  let r := if outcome = .value then r.note (.recomputed e.description current) else r
  r.modifySlot c index (·.ending current out outcome)

end Run

namespace Evaluation

variable (b : Blueprint) (ask : Answerer)

def recompute (id : SystemId) (c : ContextId) (index : Nat) (e : Entry) (v : Value)
    (current : Serial) : Eval Value := fun r =>
  let ((out, stop), r) := (e.producer v).run (ask id c) (r.beginProducer c index)
  let r := r.endProducer c index e current out (outcomeOf stop)
  match stop with
  | none => .ok out r
  | some stop => .error stop r

def slotOf (t : Tree) (c : ContextId) (index : Nat) : Except Error (Slot × Serial) := do
  let context ← t.context c
  match context.cache[index]? with
  | none =>
      throw (.outOfRange .cacheEntry "EvalCacheEntry" index context.cache.length (t.pathname c))
  | some slot => return (slot, (← context.graph.tracker slot.ticket).serial)

def entryValue (id : SystemId) (c : ContextId) (index : Nat) : Eval Value := do
  let e ← Eval.ofExcept ((b.system id).entry "EvalCacheEntry" (b.pathname id) index)
  let (slot, current) ← Eval.ofExcept (slotOf (← get).tree c index)
  match slot.fresh? current with
  | some v =>
      modify (·.serve c index)
      return v
  | none =>
      match slot.value with
      | some v => recompute ask id c index e v current
      | none =>
          modify (·.refuse c index)
          Eval.fail (.reentered slot.description)

def childOutput (d : Diagram) (c : ContextId) (child output : Nat) : Eval (Option Value) := do
  match ((← get).tree.children c)[child]?, d.children[child]? with
  | some below, some system => ask system below (.boundaryOutput output)
  | _, _ => Eval.fail (.unknownContext child)

def fedInput (d : Diagram) (c : ContextId) (id : SystemId) (port : Nat) : Eval (Option Value) :=
  match d.childIndex? id with
  | none => pure none
  | some child =>
      match d.feed? child port with
      | none => pure none
      | some (.ownInput own) => ask d.owner c (.input own)
      | some (.constant v) => pure (some v)
      | some (.sibling source output) => childOutput ask d c source output

def inputValue (func : String) (id : SystemId) (c : ContextId) (port : Nat) :
    Eval (Option Value) := do
  let _ ← Eval.ofExcept ((b.system id).input func (b.pathname id) port)
  modify (·.usePort b id .input port)
  let context ← Eval.ofExcept ((← get).tree.context c)
  match context.fixed? port with
  | some v => return some v
  | none =>
      match b.parentDiagram? id, context.parent with
      | some d, some above => fedInput ask d above id port
      | _, _ => return none

def typedInput (type : ValueType) (id : SystemId) (c : ContextId) (port : Nat) :
    Eval (Option Value) := do
  match ← inputValue b ask "EvalInputValue" id c port with
  | none => return none
  | some v =>
      if v.type = type then return some v
      let declared ← Eval.ofExcept ((b.system id).input "EvalInputValue" (b.pathname id) port)
      Eval.fail (.wrongType ⟨"EvalInputValue", declared.name, port, b.pathname id⟩
        type.name v.type.name)

def outputValue (id : SystemId) (c : ContextId) (index : Nat) : Eval Value := do
  let port ← Eval.ofExcept ((b.system id).output "EvalOutput" (b.pathname id) index)
  modify (·.usePort b id .output index)
  match if port.child.isNone then (b.system id).entryFor? port.dependency else none with
  | some e => entryValue b ask id c e
  | none => Eval.fail (.notCacheBacked ⟨"EvalOutput", port.name, index, b.pathname id⟩)

/-- The answer to one question, given a way to answer those that it leads to. -/
def respond : Answerer := fun id c q => do
  Eval.ofExcept (validate b (← get).tree id c)
  match q with
  | .input port => inputValue b ask "EvalAbstractInput" id c port
  | .requiredInput port =>
      match ← inputValue b ask "EvalRequiredInput" id c port with
      | some v => return some v
      | none =>
          let declared ← Eval.ofExcept
            ((b.system id).input "EvalRequiredInput" (b.pathname id) port)
          Eval.fail (.unconnected ⟨"EvalRequiredInput", declared.name, port, b.pathname id⟩)
  | .inputAs type port => typedInput b ask type id c port
  | .vectorInput port =>
      let declared ← Eval.ofExcept ((b.system id).input "EvalVectorInput" (b.pathname id) port)
      if declared.type.isVector then typedInput b ask .vector id c port
      else Eval.fail (.notVector ⟨"EvalVectorInput", declared.name, port, b.pathname id⟩)
  | .entry index => return some (← entryValue b ask id c index)
  | .output index => return some (← outputValue b ask id c index)
  | .boundaryOutput index =>
      match b.diagram? id with
      | none => return some (← outputValue b ask id c index)
      | some d =>
          match d.exportedOutput? index with
          | none => return some (← outputValue b ask id c index)
          | some e => childOutput ask d c e.child e.output

def answer : Nat → Answerer
  | 0 => fun _ _ _ => throw .exhausted
  | depth + 1 => respond b (answer depth)

end Evaluation

def Tree.slotCount (t : Tree) : Nat := (t.contexts.flatMap (·.cache)).length

/-- A depth that no evaluation in the tree exceeds. -/
def Tree.depthBound (t : Tree) : Nat := (t.slotCount + 1) * (2 * t.size + 2)

def evaluate (b : Blueprint) (id : SystemId) (c : ContextId) (q : Query) : Eval (Option Value) :=
  fun r => Evaluation.answer b r.tree.depthBound id c q r

/-- Runs the producer of an entry on a value of the caller's, past the slot. Returns what became of
the value, and the reason if the producer ended early. -/
def runProducer (b : Blueprint) (id : SystemId) (c : ContextId) (e : Entry) (v : Value) :
    Eval (Value × Option Stop) := fun r =>
  let (result, r) := (e.producer v).run (evaluate b id c) r
  .ok result r

end Dataflow
