namespace Dataflow.Yaml

def isBlank (c : Char) : Bool := c = ' ' || c = '\t'

def isBreak (c : Char) : Bool := c = '\n' || c = '\u2028' || c = '\u2029'

def isWordChar (c : Char) : Bool := c.isAlphanum || c = '_' || c = '-'

def isFlowMark (c : Char) : Bool := c = ',' || c = '[' || c = ']' || c = '\x7b' || c = '\x7d'

def isGap : List Char → Bool
  | [] => true
  | c :: _ => isBlank c || isBreak c

def gapOf (text : List Char) : List Char := text.takeWhile fun c => isBlank c || isBreak c

def normalize : List Char → List Char
  | '\r' :: '\n' :: rest => '\n' :: normalize rest
  | c :: rest => (if c = '\r' || c = '\x85' then '\n' else c) :: normalize rest
  | [] => []

def isAllowed (c : Char) : Bool :=
  c = '\t' || c = '\n' || c = '\r' || c = '\x85' || (0x20 ≤ c.toNat && c.toNat ≤ 0x7e) ||
  (0xa0 ≤ c.toNat && c ≠ '\ufffe' && c ≠ '\uffff')

def hexDigit? (c : Char) : Option Nat :=
  if c.isDigit then some (c.toNat - '0'.toNat)
  else if 'a' ≤ c && c ≤ 'f' then some (c.toNat - 'a'.toNat + 10)
  else if 'A' ≤ c && c ≤ 'F' then some (c.toNat - 'A'.toNat + 10)
  else none

structure Cursor where
  rest : List Char
  line : Nat := 0
  /-- how many characters stand before it on its line -/
  column : Nat := 0
  /-- how many bytes these take in UTF-8 -/
  offset : Nat := 0

namespace Cursor

def next (k : Cursor) : Cursor :=
  match k.rest with
  | [] => k
  | c :: rest =>
      if isBreak c then { rest, line := k.line + 1 }
      else { rest, line := k.line, column := k.column + 1, offset := k.offset + c.utf8Size }

def skip (k : Cursor) : Nat → Cursor
  | 0 => k
  | n + 1 => k.next.skip n

@[simp] theorem rest_next (k : Cursor) : k.next.rest = k.rest.drop 1 := by
  unfold next
  split
  · simp_all
  · split <;> simp_all

@[simp] theorem rest_skip (k : Cursor) (n : Nat) : (k.skip n).rest = k.rest.drop n := by
  induction n generalizing k with
  | zero => rfl
  | succ n ih => simp [skip, ih]

def skipWhile (p : Char → Bool) (k : Cursor) : Cursor := k.skip (k.rest.takeWhile p).length

def skipBlanks (k : Cursor) : Cursor := k.skipWhile isBlank

def skipComment (k : Cursor) : Cursor :=
  if k.rest.head? = some '#' then k.skipWhile fun c => !isBreak c else k

def atLineEnd (k : Cursor) : Bool := k.rest.head?.all isBreak

def skipLineEnd (k : Cursor) : Option Cursor :=
  let k := k.skipBlanks.skipComment
  if k.atLineEnd then some k.next else none

def atMarker (k : Cursor) (marker : String) : Bool :=
  k.column = 0 && marker.toList.isPrefixOf k.rest && isGap (k.rest.drop marker.length)

def atDocumentEdge (k : Cursor) : Bool := k.atMarker "---" || k.atMarker "..."

end Cursor

end Dataflow.Yaml
