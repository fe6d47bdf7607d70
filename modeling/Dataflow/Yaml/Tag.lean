import Dataflow.Yaml.Cursor

namespace Dataflow.Yaml

/-- A tag as it is written: `suffix` alone if `handle` is empty. -/
structure Tag where
  handle : String
  suffix : String
  deriving DecidableEq, Repr

inductive Directive where
  | version (major minor : Nat)
  | tagHandle (handle expansion : String)
  deriving DecidableEq, Repr

def isTagChar (bracketed : Bool) (c : Char) : Bool :=
  isWordChar c || ";/?:@&=+$.!~*'()".toList.contains c ||
  (bracketed && (c = ',' || c = '[' || c = ']'))

def following? (byte : Nat) : Option Nat :=
  if byte < 0x80 then some 0
  else if byte < 0xc0 then none
  else if byte < 0xe0 then some 1
  else if byte < 0xf0 then some 2
  else if byte < 0xf8 then some 3
  else none

/-- The characters of a tag from here on, and how much of the text they take. A percent sign and two
hexadecimal digits give one byte of a character, `due` bytes of which are still to come; bytes of
characters beyond ASCII stay apart. -/
def tagText (bracketed : Bool) : Nat → List Char → Option (List Char × Nat)
  | due, '%' :: a :: b :: rest => do
      let byte := 16 * (← hexDigit? a) + (← hexDigit? b)
      let due ← if due = 0 then following? byte
        else if 0x80 ≤ byte && byte < 0xc0 then some (due - 1) else none
      let (more, taken) ← tagText bracketed due rest
      return (Char.ofNat byte :: more, taken + 3)
  | due, c :: rest =>
      if 0 < due || c = '%' then none
      else if isTagChar bracketed c then
        (tagText bracketed 0 rest).map fun (more, taken) => (c :: more, taken + 1)
      else some ([], 0)
  | due, [] => if 0 < due then none else some ([], 0)

def tagString (text : List Char) : String := String.ofList (text.takeWhile (· ≠ '\x00'))

def handleWord (text : List Char) : List Char × Bool :=
  let word := text.takeWhile isWordChar
  (word, (text.drop word.length).head? = some '!')

def tag (inFlow : Bool) (k : Cursor) : Option (Tag × Cursor) := do
  let (tag, behind) ← match k.rest.drop 1 with
    | '<' :: text => do
        let (suffix, taken) ← tagText true 0 text
        if taken = 0 || (text.drop taken).head? ≠ some '>' then none
        pure ((⟨"", tagString suffix⟩ : Tag), k.skip (taken + 3))
    | text => do
        let (word, isHandle) := handleWord text
        if isHandle then
          let (suffix, taken) ← tagText false 0 (text.drop (word.length + 1))
          if taken = 0 then none
          pure (⟨String.ofList ('!' :: word ++ ['!']), tagString suffix⟩,
            k.skip (word.length + taken + 2))
        else
          let (more, taken) ← tagText false 0 (text.drop word.length)
          let suffix := tagString (word ++ more)
          pure (if suffix = "" then ⟨"", "!"⟩ else ⟨"!", suffix⟩, k.skip (word.length + taken + 1))
  if isGap behind.rest || (inFlow && behind.rest.head? = some ',') then some (tag, behind) else none

def versionNumber (k : Cursor) : Option (Nat × Cursor) :=
  let digits := k.rest.takeWhile Char.isDigit
  if digits.isEmpty || 9 < digits.length then none
  else some (digits.foldl (fun n c => 10 * n + (c.toNat - '0'.toNat)) 0, k.skip digits.length)

def directive (k : Cursor) : Option (Directive × Cursor) := do
  let name := (k.rest.drop 1).takeWhile isWordChar
  let behind := k.skip (1 + name.length)
  if !isGap behind.rest then none
  let k := behind.skipBlanks
  if name = "YAML".toList then
    let (major, k) ← versionNumber k
    if k.rest.head? ≠ some '.' then none
    let (minor, k) ← versionNumber k.next
    return (.version major minor, ← k.skipLineEnd)
  else if name = "TAG".toList then
    if k.rest.head? ≠ some '!' then none
    let (word, isHandle) := handleWord (k.rest.drop 1)
    if !isHandle && !word.isEmpty then none
    let handle := k.rest.take (if isHandle then word.length + 2 else 1)
    let behind := k.skip handle.length
    if !behind.rest.head?.any isBlank then none
    let k := behind.skipBlanks
    let (expansion, taken) ← tagText true 0 k.rest
    let behind := k.skip taken
    if taken = 0 || !isGap behind.rest then none
    return (.tagHandle (String.ofList handle) (tagString expansion), ← behind.skipLineEnd)
  else none

end Dataflow.Yaml
