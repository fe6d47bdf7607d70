namespace Dataflow.Naming

def separator : String := "::"

def unnamed : String := "_"

def displayName (name : String) : String := if name = "" then unnamed else name

def join (parent name : String) : String := parent ++ separator ++ displayName name

def pathname (names : List String) : String := names.foldl join ""

@[simp] theorem pathname_nil : pathname [] = "" := rfl

@[simp] theorem pathname_concat (names : List String) (name : String) :
    pathname (names ++ [name]) = join (pathname names) name := by
  simp [pathname]

def withoutArguments (name : List Char) : List Char :=
  if name.getLast? = some '>' then name.takeWhile (· ≠ '<') else name

def segmentsFrom (part : List Char) : List Char → List (List Char)
  | [] => if part = [] then [] else [part.reverse]
  | c :: rest =>
      if c = ':' then
        if part = [] then segmentsFrom [] rest else part.reverse :: segmentsFrom [] rest
      else segmentsFrom (c :: part) rest

def segments (text : List Char) : List (List Char) := segmentsFrom [] text

/-- A type's path with slashes for colons and without type arguments. -/
def plainTypeName (name : String) : String :=
  String.ofList (['/'].intercalate (segments (withoutArguments name.toList)))

def hexDigits : Nat → Nat → List Char
  | 0, _ => []
  | width + 1, n => hexDigits width (n / 16) ++ [Nat.digitChar (n % 16)]

@[simp] theorem length_hexDigits (width n : Nat) : (hexDigits width n).length = width := by
  induction width generalizing n with
  | zero => rfl
  | succ width ih => simp [hexDigits, ih]

def objectName (typeName : String) (address : Nat) : String :=
  plainTypeName typeName ++ "@" ++ String.ofList (hexDigits 16 address)

end Dataflow.Naming
