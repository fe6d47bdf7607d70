import Dataflow.Yaml.Scalar
import Dataflow.Yaml.Tag

namespace Dataflow.Yaml

inductive Token where
  | directive (d : Directive)
  | documentStart
  | documentEnd
  | blockSequenceStart
  | blockMappingStart
  | blockEnd
  | flowSequenceStart
  | flowSequenceEnd
  | flowMappingStart
  | flowMappingEnd
  | blockEntry
  | flowEntry
  | key
  | value
  | alias (name : String)
  | anchor (name : String)
  | tag (t : Tag)
  | scalar (style : Style) (text : String)
  deriving DecidableEq, Repr

structure KeyStart where
  number : Nat
  /-- nothing but a key can stand here -/
  required : Bool
  line : Nat
  column : Nat
  offset : Nat

/-- A key and the colon behind it stand on one line, within 1024 bytes. -/
def KeyStart.isStale (start : KeyStart) (k : Cursor) : Bool :=
  start.line < k.line || start.offset + 1024 < k.offset

structure Scanner where
  cursor : Cursor
  found : List Token := []
  count : Nat := 0
  /-- the column behind the start of the innermost block; zero outside of all blocks -/
  margin : Nat := 0
  margins : List Nat := []
  /-- the last node in the innermost brackets that may be a key -/
  keyStart : Option KeyStart := none
  /-- the same for what is around each of the brackets, the innermost first -/
  outerKeyStarts : List (Option KeyStart) := []
  keyAllowed : Bool := true

abbrev Scan (α : Type) := StateT Scanner Option α

namespace Scanner

def inFlow (s : Scanner) : Bool := !s.outerKeyStarts.isEmpty

def push (s : Scanner) (t : Token) : Scanner :=
  { s with found := t :: s.found, count := s.count + 1 }

def insert (s : Scanner) (number : Nat) (t : Token) : Scanner :=
  let later := s.count - number
  { s with found := s.found.take later ++ t :: s.found.drop later, count := s.count + 1 }

def endBlocks (bound margin : Nat) : List Nat → Nat × List Nat × Nat
  | [] => (margin, [], 0)
  | outer :: margins =>
      if bound < margin then
        let (margin, margins, ended) := endBlocks bound outer margins
        (margin, margins, ended + 1)
      else (margin, outer :: margins, 0)

def leave (s : Scanner) (bound : Nat) : Scanner :=
  if s.inFlow then s
  else
    let (margin, margins, ended) := endBlocks bound s.margin s.margins
    { s with
      margin, margins
      found := List.replicate ended .blockEnd ++ s.found
      count := s.count + ended }

/-- Starts a block at `column`, unless it goes on there. Its token goes behind the first `number`
tokens. -/
def enter (s : Scanner) (column number : Nat) (start : Token) : Scanner :=
  if s.inFlow || column < s.margin then s
  else { s.insert number start with margin := column + 1, margins := s.margin :: s.margins }

end Scanner

namespace Scan

def push (t : Token) : Scan Unit := modify (·.push t)

def leave (bound : Nat) : Scan Unit := modify (·.leave bound)

def allowKey (allowed : Bool) : Scan Unit := modify fun s => { s with keyAllowed := allowed }

def mark (n : Nat) (t : Token) : Scan Unit := do
  modify fun s => { s with cursor := s.cursor.skip n }
  push t

def take {α : Type} (read : Cursor → Option (α × Cursor)) : Scan α := do
  let (a, k) ← read (← get).cursor
  modify fun s => { s with cursor := k }
  return a

def dropKey : Scan Unit := do
  if (← get).keyStart.any (·.required) then failure
  modify fun s => { s with keyStart := none }

def startNode : Scan Unit := do
  let s ← get
  let k := s.cursor
  if s.keyAllowed then
    dropKey
    let required := !s.inFlow && s.margin = k.column + 1
    modify fun s =>
      { s with keyStart := some ⟨s.count, required, k.line, k.column, k.offset⟩ }

def stillOpen (k : Cursor) (start : Option KeyStart) : Option (Option KeyStart) :=
  match start with
  | none => some none
  | some key =>
      if !key.isStale k then some (some key) else if key.required then none else some none

def dropStaleKeys : Scan Unit := do
  let s ← get
  let outer : Option (List (Option KeyStart)) := s.outerKeyStarts.mapM (stillOpen s.cursor)
  set { s with keyStart := ← stillOpen s.cursor s.keyStart, outerKeyStarts := ← outer }

/-- Past white space and comments, and a byte order mark at the start of a line, which takes a column.
Outside of brackets a key may start behind a line break; tabs may not stand where a key may start.
Returns whether a key may start. -/
def skipGap (inFlow : Bool) : Nat → Bool → Cursor → Option (Bool × Cursor)
  | 0, _, _ => none
  | fuel + 1, keyAllowed, k =>
      let k := if k.column = 0 && k.rest.head? = some '\ufeff' then k.next else k
      let k := (k.skipWhile fun c => c = ' ' || ((inFlow || !keyAllowed) && c = '\t')).skipComment
      if k.rest.head?.any isBreak then skipGap inFlow fuel (keyAllowed || !inFlow) k.next
      else some (keyAllowed, k)

def toToken (fuel : Nat) : Scan Unit := do
  let s ← get
  let (keyAllowed, cursor) ← skipGap s.inFlow fuel s.keyAllowed s.cursor
  set { s with keyAllowed, cursor }

def edge : Scan Unit := do
  leave 0
  dropKey
  allowKey false

def openBracket (t : Token) : Scan Unit := do
  startNode
  modify fun s =>
    { s with keyStart := none, outerKeyStarts := s.keyStart :: s.outerKeyStarts }
  allowKey true
  mark 1 t

def closeBracket (t : Token) : Scan Unit := do
  dropKey
  modify fun s =>
    match s.outerKeyStarts with
    | [] => s
    | keyStart :: outerKeyStarts => { s with keyStart, outerKeyStarts }
  allowKey false
  mark 1 t

def startEntry (start : Token) : Scan Unit := do
  let s ← get
  if !s.inFlow then
    if !s.keyAllowed then failure
    set (s.enter s.cursor.column s.count start)

def value : Scan Unit := do
  let s ← get
  match s.keyStart with
  | some start =>
      let s := (s.insert start.number .key).enter start.column start.number .blockMappingStart
      set { s with keyStart := none, keyAllowed := false }
  | none =>
      startEntry .blockMappingStart
      allowKey !s.inFlow
  mark 1 .value

def anchorName (k : Cursor) : Option (String × Cursor) :=
  let name := (k.rest.drop 1).takeWhile isWordChar
  let behind := k.skip (1 + name.length)
  let isEnd := isGap behind.rest || behind.rest.head?.any "?:,]\x7d%@\x60".toList.contains
  if !name.isEmpty && isEnd then some (String.ofList name, behind) else none

def scalar (style : Style) (read : Cursor → Option (List Char × Cursor)) : Scan Unit := do
  push (.scalar style (String.ofList (← take read)))

def part (content : Scan Unit) : Scan Unit := do
  startNode
  allowKey false
  content

def plainScalar (fuel : Nat) : Scan Unit := do
  let s ← get
  let (text, lineEnds) ← take fun k => do
    let (text, lineEnds, k) ← plain s.inFlow s.margin fuel k
    return ((text, lineEnds), k)
  if lineEnds then allowKey true
  push (.scalar .plain (String.ofList text))

/-- The token at the cursor, which starts with `c` and has `rest` behind. `fuel` is more than twice
the length of the text. -/
def token (fuel : Nat) (c : Char) (rest : List Char) : Scan Unit := do
  let s ← get
  let k := s.cursor
  if k.column = 0 && c = '%' then
    edge
    push (.directive (← take directive))
  else if k.atMarker "---" then edge; mark 3 .documentStart
  else if k.atMarker "..." then edge; mark 3 .documentEnd
  else if c = '[' then openBracket .flowSequenceStart
  else if c = '\x7b' then openBracket .flowMappingStart
  else if c = ']' then closeBracket .flowSequenceEnd
  else if c = '\x7d' then closeBracket .flowMappingEnd
  else if c = ',' then
    dropKey
    allowKey true
    mark 1 .flowEntry
  else if c = '-' && isGap rest then
    startEntry .blockSequenceStart
    dropKey
    allowKey true
    mark 1 .blockEntry
  else if c = '?' && (s.inFlow || isGap rest) then
    startEntry .blockMappingStart
    dropKey
    allowKey !s.inFlow
    mark 1 .key
  else if c = ':' && (s.inFlow || isGap rest) then value
  else if c = '*' then part do push (.alias (← take anchorName))
  else if c = '&' then part do push (.anchor (← take anchorName))
  else if c = '!' then part do push (.tag (← take (tag s.inFlow)))
  else if (c = '|' || c = '>') && !s.inFlow then
    let style := if c = '|' then Style.literal else .folded
    dropKey
    allowKey true
    scalar style (blockScalar style s.margin fuel)
  else if c = '\'' then part (scalar .quoted fun k => singleQuoted fuel k.next)
  else if c = '"' then part (scalar .quoted fun k => doubleQuoted fuel k.next)
  else if startsPlain s.inFlow k.rest then part (plainScalar fuel)
  else failure

def tokens (fuel : Nat) : Nat → Scan Unit
  | 0 => failure
  | bound + 1 => do
      toToken fuel
      dropStaleKeys
      let k := (← get).cursor
      leave (k.column + 1)
      match k.rest with
      | [] => edge
      | c :: rest =>
          token fuel c rest
          tokens fuel bound

end Scan

def scan (text : List Char) : Option (List Token) := do
  let lines := normalize text
  let length := lines.length
  let (_, s) ← (Scan.tokens (2 * length + 2) (length + 1)).run { cursor := { rest := lines } }
  return s.found.reverse

end Dataflow.Yaml
