import Dataflow.Yaml.Token

namespace Dataflow.Yaml

inductive Node where
  | scalar (style : Style) (tag : Option String) (text : String)
  | sequence (items : List Node)
  | mapping (pairs : List (Node × Node))
  | anchored (number : Nat) (node : Node)
  | alias (number : Nat)
  deriving Inhabited

namespace Node

def empty : Node := .scalar .plain none ""

mutual

def targets : Node → List (Nat × Node)
  | .anchored number node => (number, node) :: node.targets
  | .sequence items => targetsOfItems items
  | .mapping pairs => targetsOfPairs pairs
  | _ => []

def targetsOfItems : List Node → List (Nat × Node)
  | [] => []
  | item :: items => item.targets ++ targetsOfItems items

def targetsOfPairs : List (Node × Node) → List (Nat × Node)
  | [] => []
  | pair :: pairs => targetsOfPair pair ++ targetsOfPairs pairs

def targetsOfPair : Node × Node → List (Nat × Node)
  | (key, value) => key.targets ++ value.targets

end

def resolve (root : Node) : Node → Option Node
  | .alias number => root.targets.reverse.lookup number
  | .anchored _ node => some node
  | node => some node

end Node

structure Place where
  tokens : List Token
  anchors : List (String × Nat) := []

abbrev Reader (α : Type) := StateT Place Option α

abbrev Handles := List (String × String)

namespace Handles

def standard : Handles := [("!", "!"), ("!!", "tag:yaml.org,2002:")]

def expand? (handles : Handles) (t : Tag) : Option String :=
  if t.handle = "" then some t.suffix
  else (handles.lookup t.handle).map (· ++ t.suffix)

end Handles

namespace Reader

def peek : Reader (Option Token) := return (← get).tokens.head?

def skip : Reader Unit := modify fun p => { p with tokens := p.tokens.drop 1 }

def accept (t : Token) : Reader Bool := do
  let isHere := (← peek) = some t
  if isHere then skip
  return isHere

def atAny (ends : List Token) : Reader Bool := return (← peek).any ends.contains

def define (name : String) : Reader Nat := do
  let p ← get
  let number := p.anchors.length
  set { p with anchors := (name, number) :: p.anchors.filter (·.1 ≠ name) }
  return number

def anchor? : Reader (Option String) := do
  match ← peek with
  | some (.anchor name) => skip; return some name
  | _ => return none

def tag? : Reader (Option Tag) := do
  match ← peek with
  | some (.tag t) => skip; return some t
  | _ => return none

def properties (handles : Handles) : Reader (Option Nat × Option String) := do
  let first ← anchor?
  let t ← tag?
  let name ← match first with
    | some name => pure (some name)
    | none => if t.isSome then anchor? else pure none
  let text ← match t with
    | some t => do pure (some (← handles.expand? t))
    | none => pure none
  return (← name.mapM define, text)

mutual

/-- A node; `inBlock` outside of brackets, and `indentless` where the dashes of a sequence may stand
below its key. -/
def node (handles : Handles) : Nat → Bool → Bool → Reader Node
  | 0, _, _ => failure
  | fuel + 1, inBlock, indentless => do
      if let some (.alias name) ← peek then
        skip
        match (← get).anchors.lookup name with
        | some number => return .alias number
        | none => failure
      let (anchor, tag) ← properties handles
      let content ← match ← peek, inBlock with
        | some (.scalar style text), _ =>
            skip
            pure (.scalar style (tag.filter (· ≠ "!")) text)
        | some .flowSequenceStart, _ => skip; pure (.sequence (← flowItems handles fuel true))
        | some .flowMappingStart, _ => skip; pure (.mapping (← flowPairs handles fuel true))
        | some .blockSequenceStart, true => skip; pure (.sequence (← blockItems handles fuel))
        | some .blockMappingStart, true => skip; pure (.mapping (← blockPairs handles fuel))
        | here, _ =>
            if indentless && here = some .blockEntry then
              pure (.sequence (← indentlessItems handles fuel))
            else if anchor.isSome || tag.isSome then pure (.scalar .plain tag "")
            else failure
      match anchor with
      | some number => return .anchored number content
      | none => return content

def nodeBefore (handles : Handles) : Nat → List Token → Bool → Bool → Reader Node
  | 0, _, _, _ => failure
  | fuel + 1, ends, inBlock, indentless => do
      if ← atAny ends then return .empty
      node handles fuel inBlock indentless

def valueBefore (handles : Handles) : Nat → List Token → Bool → Reader Node
  | 0, _, _ => failure
  | fuel + 1, ends, inBlock => do
      if !(← accept .value) then return .empty
      nodeBefore handles fuel ends inBlock inBlock

def blockItems (handles : Handles) : Nat → Reader (List Node)
  | 0 => failure
  | fuel + 1 => do
      if ← accept .blockEnd then return []
      if !(← accept .blockEntry) then failure
      let item ← nodeBefore handles fuel [.blockEntry, .blockEnd] true false
      return item :: (← blockItems handles fuel)

def indentlessItems (handles : Handles) : Nat → Reader (List Node)
  | 0 => failure
  | fuel + 1 => do
      if !(← accept .blockEntry) then return []
      let item ← nodeBefore handles fuel [.blockEntry, .key, .value, .blockEnd] true false
      return item :: (← indentlessItems handles fuel)

def blockPairs (handles : Handles) : Nat → Reader (List (Node × Node))
  | 0 => failure
  | fuel + 1 => do
      if ← accept .blockEnd then return []
      if !(← accept .key) then failure
      let ends := [Token.key, .value, .blockEnd]
      let key ← nodeBefore handles fuel ends true true
      let value ← valueBefore handles fuel ends true
      return (key, value) :: (← blockPairs handles fuel)

/-- The rest of a sequence in brackets. A pair in it is a mapping of its own; a token that stands
for its key, where no key is given, is passed over. -/
def flowItems (handles : Handles) : Nat → Bool → Reader (List Node)
  | 0, _ => failure
  | fuel + 1, isFirst => do
      if ← accept .flowSequenceEnd then return []
      if !isFirst then
        if !(← accept .flowEntry) then failure
        if ← accept .flowSequenceEnd then return []
      let ends := [Token.flowEntry, .flowSequenceEnd]
      let item ←
        if ← accept .key then
          let key ←
            if ← atAny (.value :: ends) then skip; pure .empty
            else node handles fuel false false
          pure (.mapping [(key, ← valueBefore handles fuel ends false)])
        else node handles fuel false false
      return item :: (← flowItems handles fuel false)

def flowPairs (handles : Handles) : Nat → Bool → Reader (List (Node × Node))
  | 0, _ => failure
  | fuel + 1, isFirst => do
      if ← accept .flowMappingEnd then return []
      if !isFirst then
        if !(← accept .flowEntry) then failure
        if ← accept .flowMappingEnd then return []
      let ends := [Token.flowEntry, .flowMappingEnd]
      let pair ←
        if ← accept .key then
          let key ← nodeBefore handles fuel (.value :: ends) false false
          pure (key, ← valueBefore handles fuel ends false)
        else pure (← node handles fuel false false, .empty)
      return pair :: (← flowPairs handles fuel false)

end

/-- Directives before a document: at most one version, which has to be 1.1 or 1.2, and at most one
meaning for a handle. -/
def directives : Nat → Bool → Handles → Reader Handles
  | 0, _, _ => failure
  | fuel + 1, hasVersion, handles => do
      match ← peek with
      | some (.directive (.version major minor)) =>
          if hasVersion || major ≠ 1 || (minor ≠ 1 && minor ≠ 2) then failure
          skip
          directives fuel true handles
      | some (.directive (.tagHandle handle expansion)) =>
          if (handles.lookup handle).isSome then failure
          skip
          directives fuel hasVersion (handles ++ [(handle, expansion)])
      | _ => return handles ++ Handles.standard

def atDirective : Reader Bool := do
  match ← peek with
  | some (.directive _) => return true
  | _ => return false

def document : Reader (Option Node) := do
  let bound := 4 * (← get).tokens.length + 4
  let root ← match ← peek with
    | none => return none
    | some .documentStart | some (.directive _) =>
        let handles ← directives bound false []
        if !(← accept .documentStart) then failure
        if (← peek).isNone || (← atDirective) then pure .empty
        else nodeBefore handles bound [.documentStart, .documentEnd] true false
    | _ => node Handles.standard bound true false
  if !(← get).tokens.all (· = .documentEnd) then failure
  return some root

end Reader

def read (text : String) : Option (Option Node) := do
  if !text.toList.all isAllowed then none
  let tokens ← scan text.toList
  (Reader.document.run { tokens }).map (·.1)

end Dataflow.Yaml
