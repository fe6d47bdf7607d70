import Dataflow.Yaml.Cursor

namespace Dataflow.Yaml

inductive Style where
  | plain
  | quoted
  | literal
  | folded
  deriving DecidableEq, Repr

/-- What white space within a scalar stands for: itself on one line, a space for a single line
break, and otherwise the line breaks but the first. Only a plain line break gives way so. -/
def foldGap (gap : List Char) : List Char :=
  match gap.filter isBreak with
  | [] => gap
  | ['\n'] => [' ']
  | '\n' :: more => more
  | breaks => breaks

/-- Whether a line after the first has a tab before column `margin`; `column` is absent on the first
line. -/
def hasEarlyTab (margin : Nat) : Option Nat → List Char → Bool
  | _, [] => false
  | column, c :: rest =>
      if isBreak c then hasEarlyTab margin (some 0) rest
      else (c = '\t' && column.any (· < margin)) || hasEarlyTab margin (column.map (· + 1)) rest

def startsPlain (inFlow : Bool) : List Char → Bool
  | [] => false
  | c :: rest =>
      if c = '-' then !rest.head?.any isBlank
      else if c = '?' || c = ':' then !inFlow && !isGap rest
      else !(isBlank c || isBreak c || isFlowMark c || "#&*!|>'\"%@\x60".toList.contains c)

/-- The characters of a plain scalar up to white space or a mark that ends it. In brackets, a colon
must not stand before a question mark or a mark of the brackets. -/
def plainRun (inFlow : Bool) : List Char → Option (List Char)
  | [] => some []
  | c :: rest =>
      if isBlank c || isBreak c then some []
      else if inFlow && c = ':' && rest.head?.any (fun d => d = '?' || isFlowMark d) then none
      else if (c = ':' && isGap rest) || (inFlow && isFlowMark c) then some []
      else (plainRun inFlow rest).map (c :: ·)

/-- A plain scalar; outside of brackets, lines after the first have to start at column `margin` or
further. Tells also whether a line ends between its last character and the cursor behind it. -/
def plain (inFlow : Bool) (margin : Nat) : Nat → Cursor → Option (List Char × Bool × Cursor)
  | 0, _ => none
  | fuel + 1, k => do
      if k.atDocumentEdge || k.rest.head? = some '#' then return ([], false, k)
      let run ← plainRun inFlow k.rest
      let behind := k.skip run.length
      let gap := gapOf behind.rest
      if gap.isEmpty then return (run, false, behind)
      if hasEarlyTab margin none gap then none
      let next := behind.skip gap.length
      if !inFlow && next.column < margin then return (run, gap.any isBreak, next)
      let (more, lineEnds, k) ← plain inFlow margin fuel next
      if more.isEmpty then return (run, gap.any isBreak, k)
      return (run ++ foldGap gap ++ more, lineEnds, k)

def prepend (text : List Char) (read : Cursor → Option (List Char × Cursor)) (k : Cursor) :
    Option (List Char × Cursor) :=
  (read k).map fun (more, k) => (text ++ more, k)

def singleQuoted : Nat → Cursor → Option (List Char × Cursor)
  | 0, _ => none
  | fuel + 1, k =>
      if k.atDocumentEdge then none
      else match k.rest with
        | [] => none
        | '\'' :: '\'' :: _ => prepend ['\''] (singleQuoted fuel) (k.skip 2)
        | '\'' :: _ => some ([], k.next)
        | c :: _ =>
            let gap := gapOf k.rest
            if gap.isEmpty then prepend [c] (singleQuoted fuel) k.next
            else prepend (foldGap gap) (singleQuoted fuel) (k.skip gap.length)

def hexEscape (count : Nat) (text : List Char) : Option Char := do
  if text.length < count then none
  let digits ← (text.take count).mapM hexDigit?
  let n := digits.foldl (fun n d => 16 * n + d) 0
  if n.isValidChar then some (Char.ofNat n) else none

def simpleEscapes : List (Char × Char) :=
  [('0', '\x00'), ('a', '\x07'), ('b', '\x08'), ('t', '\t'), ('\t', '\t'), ('n', '\n'),
   ('v', '\x0b'), ('f', '\x0c'), ('r', '\r'), ('e', '\x1b'), (' ', ' '), ('"', '"'), ('/', '/'),
   ('\\', '\\'), ('N', '\x85'), ('_', '\xa0'), ('L', '\u2028'), ('P', '\u2029')]

def escape? : List Char → Option (Char × Nat)
  | [] => none
  | 'x' :: rest => (hexEscape 2 rest).map (·, 3)
  | 'u' :: rest => (hexEscape 4 rest).map (·, 5)
  | 'U' :: rest => (hexEscape 8 rest).map (·, 9)
  | c :: _ => (simpleEscapes.lookup c).map (·, 1)

/-- The rest of a scalar in double quotes. A backslash at the end of a line hides that line break
and the blanks behind it. -/
def doubleQuoted : Nat → Cursor → Option (List Char × Cursor)
  | 0, _ => none
  | fuel + 1, k =>
      if k.atDocumentEdge then none
      else match k.rest with
        | [] => none
        | '"' :: _ => some ([], k.next)
        | '\\' :: rest =>
            if rest.head?.any isBreak then
              let gap := gapOf (rest.drop 1)
              prepend (gap.filter isBreak) (doubleQuoted fuel) (k.skip (2 + gap.length))
            else do
              let (c, taken) ← escape? rest
              prepend [c] (doubleQuoted fuel) (k.skip (taken + 1))
        | c :: _ =>
            let gap := gapOf k.rest
            if gap.isEmpty then prepend [c] (doubleQuoted fuel) k.next
            else prepend (foldGap gap) (doubleQuoted fuel) (k.skip gap.length)

inductive Chomping where
  | strip
  | clip
  | keep
  deriving DecidableEq, Repr

def chomping? (c : Char) : Option Chomping :=
  if c = '-' then some .strip else if c = '+' then some .keep else none

def digit? (c : Char) : Option Nat := if c.isDigit then some (c.toNat - '0'.toNat) else none

def blockHeader (text : List Char) : Chomping × Option Nat × Nat :=
  let second := text.tail.head?
  match text.head?.bind chomping?, text.head?.bind digit? with
  | some chomping, _ =>
      match second.bind digit? with
      | some n => (chomping, some n, 2)
      | none => (chomping, none, 1)
  | none, some n =>
      match second.bind chomping? with
      | some chomping => (chomping, some n, 2)
      | none => (.clip, some n, 1)
  | none, none => (.clip, none, 0)

/-- The line breaks before the next line of a block scalar that is not empty, and the column where
the spaces on the widest of the lines ended. Spaces count up to column `indent`, or all if that is
zero; a tab must not stand among them. -/
def blockBreaks (indent : Nat) : Nat → Nat → Cursor → Option (List Char × Nat × Cursor)
  | 0, _, _ => none
  | fuel + 1, widest, k =>
      let spaces := (k.rest.takeWhile (· = ' ')).length
      let k := k.skip (if indent = 0 then spaces else min spaces (indent - k.column))
      let widest := max widest k.column
      match k.rest with
      | [] => some ([], widest, k)
      | c :: _ =>
          if c = '\t' && (indent = 0 || k.column < indent) then none
          else if isBreak c then
            (blockBreaks indent fuel widest k.next).map fun (more, widest, k) =>
              (c :: more, widest, k)
          else some ([], widest, k)

structure LineEnd where
  own : List Char := []
  empty : List Char := []

/-- What stands between two lines of a block scalar. In folded text, the break behind a line gives
way if neither of the two lines starts with a blank. -/
def LineEnd.text (ending : LineEnd) (style : Style) (startBlank nextBlank : Bool) : List Char :=
  if style = .folded && ending.own = ['\n'] && !startBlank && !nextBlank then
    if ending.empty.isEmpty then [' '] else ending.empty
  else ending.own ++ ending.empty

/-- The lines of a block scalar that start at column `indent`, and how the last of them ends. The
line before them ends with `ending`, and `startBlank` tells whether it starts with a blank. -/
def blockLines (style : Style) (indent : Nat) :
    Nat → LineEnd → Bool → Cursor → Option (List Char × LineEnd × Cursor)
  | 0, _, _, _ => none
  | fuel + 1, ending, startBlank, k => do
      if k.column ≠ indent || k.rest.isEmpty then return ([], ending, k)
      let atBlank := k.rest.head?.any isBlank
      let line := k.rest.takeWhile fun c => !isBreak c
      let behind := k.skip line.length
      let (empty, _, next) ← blockBreaks indent fuel 0 behind.next
      let (more, last, k) ← blockLines style indent fuel ⟨behind.rest.take 1, empty⟩ atBlank next
      return (ending.text style startBlank atBlank ++ line ++ more, last, k)

/-- A block scalar from its mark on, whose lines start at column `margin` or further. `fuel` is more
than twice the number of lines that are left. -/
def blockScalar (style : Style) (margin fuel : Nat) (k : Cursor) :
    Option (List Char × Cursor) := do
  let (chomping, width, taken) := blockHeader (k.rest.drop 1)
  if width = some 0 then none
  let start ← (k.skip (1 + taken)).skipLineEnd
  let given := match width with
    | some n => margin - 1 + n
    | none => 0
  let (breaks, widest, first) ← blockBreaks given fuel 0 start
  let indent := if given = 0 then max (max widest margin) 1 else given
  let (content, ending, behind) ← blockLines style indent fuel ⟨[], breaks⟩ false first
  let kept := match chomping with
    | .strip => []
    | .clip => ending.own
    | .keep => ending.own ++ ending.empty
  return (content ++ kept, behind)

end Dataflow.Yaml
