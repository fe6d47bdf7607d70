import Dataflow.Naming
import Mathlib.Algebra.Group.Nat.Defs
import Mathlib.Data.List.Basic

/-!
# Names of objects

The name of an object gives the path of its type, with slashes and without type arguments, and its
address in sixteen hexadecimal digits. Both can be read back from it.
-/

namespace Dataflow.Naming

variable {s : List Char} {path path' : List String} {arguments arguments' : String}

structure IsSegment (s : String) : Prop where
  nonempty : s ≠ ""
  plain : ':' ∉ s.toList ∧ '<' ∉ s.toList ∧ '/' ∉ s.toList

structure IsPath (path : List String) : Prop where
  nonempty : path ≠ []
  segments : ∀ s ∈ path, IsSegment s

inductive IsArguments : String → Prop
  | none : IsArguments ""
  | listed (inner : String) : IsArguments ("<" ++ inner ++ ">")

def typeName (path : List String) (arguments : String) : String :=
  "::".intercalate path ++ arguments

theorem segmentsFrom_append (part : List Char) (plain : ':' ∉ s) (rest : List Char) :
    segmentsFrom part (s ++ rest) = segmentsFrom (s.reverse ++ part) rest := by
  induction s generalizing part with
  | nil => rfl
  | cons c s ih =>
      simp only [List.mem_cons, not_or] at plain
      obtain ⟨other, plain⟩ := plain
      rw [List.cons_append, segmentsFrom, if_neg (Ne.symm other), ih _ plain, List.reverse_cons,
        List.append_assoc, List.singleton_append]

theorem segments_intercalate {parts : List (List Char)} (parts_ok : ∀ s ∈ parts, s ≠ [] ∧ ':' ∉ s) :
    segments ([':', ':'].intercalate parts) = parts := by
  induction parts with
  | nil => rfl
  | cons s rest ih =>
      obtain ⟨⟨nonempty, plain⟩, later⟩ := List.forall_mem_cons.mp parts_ok
      have some : s.reverse ≠ [] := List.reverse_ne_nil_iff.mpr nonempty
      cases rest with
      | nil =>
          have last := segmentsFrom_append [] plain []
          simp only [List.append_nil] at last
          rw [List.intercalate_singleton, segments, last, segmentsFrom, if_neg some, List.reverse_reverse]
      | cons next rest =>
          have first := segmentsFrom_append [] plain (':' :: ':' :: [':', ':'].intercalate (next :: rest))
          rw [List.append_nil] at first
          have spelled : [':', ':'].intercalate (s :: next :: rest) =
              s ++ ':' :: ':' :: [':', ':'].intercalate (next :: rest) := by
            simp [List.intercalate_cons_cons]
          rw [spelled, segments, first, segmentsFrom, if_pos rfl, if_neg some, segmentsFrom,
            if_pos rfl, if_pos rfl, List.reverse_reverse]
          exact congrArg (s :: ·) (ih later)

theorem not_mem_intercalate {c : Char} {separator : List Char} {parts : List (List Char)}
    (outside : c ∉ separator) (other : ∀ s ∈ parts, c ∉ s) : c ∉ separator.intercalate parts := by
  induction parts with
  | nil => exact List.not_mem_nil
  | cons s rest ih =>
      obtain ⟨here, later⟩ := List.forall_mem_cons.mp other
      cases rest with
      | nil => rwa [List.intercalate_singleton]
      | cons next rest =>
          simp only [List.intercalate_cons_cons, List.mem_append, not_or]
          exact ⟨⟨here, outside⟩, ih later⟩

theorem withoutArguments_append (plain : '<' ∉ s) (listed : IsArguments arguments) :
    withoutArguments (s ++ arguments.toList) = s := by
  have before (rest : List Char) :
      (s ++ rest).takeWhile (· ≠ '<') = s ++ rest.takeWhile (· ≠ '<') :=
    List.takeWhile_append_of_pos fun c mem => decide_eq_true fun same => plain (same ▸ mem)
  cases listed with
  | none =>
      have whole := before []
      simp only [List.append_nil, List.takeWhile_nil] at whole
      rw [String.toList_empty, List.append_nil, withoutArguments, whole, ite_self]
  | listed inner =>
      have split : s ++ ("<" ++ inner ++ ">").toList = s ++ '<' :: inner.toList ++ ['>'] := by simp
      rw [split, withoutArguments, if_pos List.getLast?_concat, List.append_assoc, before]
      simp

theorem plainTypeName_typeName (named : IsPath path) (listed : IsArguments arguments) :
    plainTypeName (typeName path arguments) = "/".intercalate path := by
  have parts : ∀ s ∈ path.map String.toList, s ≠ [] ∧ ':' ∉ s ∧ '<' ∉ s := by
    intro s mem
    obtain ⟨segment, listed, rfl⟩ := List.mem_map.mp mem
    obtain ⟨nonempty, colon, bracket, -⟩ := named.segments segment listed
    exact ⟨by simpa using nonempty, colon, bracket⟩
  have plain : '<' ∉ [':', ':'].intercalate (path.map String.toList) :=
    not_mem_intercalate (by decide) fun s mem => (parts s mem).2.2
  have spelled : (typeName path arguments).toList =
      [':', ':'].intercalate (path.map String.toList) ++ arguments.toList := by simp [typeName]
  apply String.toList_injective
  rw [plainTypeName, spelled, withoutArguments_append plain listed,
    segments_intercalate fun s mem => ⟨(parts s mem).1, (parts s mem).2.1⟩]
  simp

theorem intercalate_inj (named : IsPath path) (named' : IsPath path') :
    "/".intercalate path = "/".intercalate path' ↔ path = path' := by
  refine ⟨fun same => ?_, congrArg _⟩
  have back {path : List String} (named : IsPath path) :
      ("/".intercalate path).toList.splitOn '/' = path.map String.toList := by
    rw [String.toList_intercalate]
    refine List.splitOn_intercalate '/' ?_ (by simpa using named.nonempty)
    intro s mem
    obtain ⟨segment, listed, rfl⟩ := List.mem_map.mp mem
    exact (named.segments segment listed).plain.2.2
  have texts : path.map String.toList = path'.map String.toList := by
    rw [← back named, same, back named']
  exact List.map_injective_iff.mpr (fun _ _ => String.toList_injective) texts

def lowerDigits : List Char := "0123456789abcdef".toList

def hexValue (digits : List Char) : Nat :=
  digits.foldl (fun n digit => 16 * n + lowerDigits.idxOf digit) 0

theorem digitChar_lower : ∀ n < 16,
    Nat.digitChar n ∈ lowerDigits ∧ lowerDigits.idxOf (Nat.digitChar n) = n := by
  decide

theorem mem_hexDigits {width n : Nat} : ∀ digit ∈ hexDigits width n, digit ∈ lowerDigits := by
  induction width generalizing n with
  | zero => exact List.forall_mem_nil _
  | succ width ih =>
      have last := (digitChar_lower (n % 16) (Nat.mod_lt n (by decide))).1
      exact List.forall_mem_append.mpr ⟨ih, by simpa using last⟩

theorem hexValue_hexDigits (width n : Nat) : hexValue (hexDigits width n) = n % 16 ^ width := by
  induction width generalizing n with
  | zero => simp [hexDigits, hexValue, Nat.mod_one]
  | succ width ih =>
      have last := (digitChar_lower (n % 16) (Nat.mod_lt n (by decide))).2
      have higher : hexValue (hexDigits (width + 1) n) = 16 * hexValue (hexDigits width (n / 16)) + n % 16 := by
        simp only [hexDigits, hexValue, List.foldl_append, List.foldl_cons, List.foldl_nil, last]
      rw [higher, ih, Nat.pow_succ', Nat.mod_mul, Nat.add_comm]

theorem hexValue_address (address : UInt64) : hexValue (hexDigits 16 address.toNat) = address.toNat :=
  (hexValue_hexDigits 16 address.toNat).trans (Nat.mod_eq_of_lt address.toNat_lt)

theorem objectName_typeName (named : IsPath path) (listed : IsArguments arguments) (address : Nat) :
    objectName (typeName path arguments) address =
      "/".intercalate path ++ "@" ++ String.ofList (hexDigits 16 address) := by
  rw [objectName, plainTypeName_typeName named listed]

/-- An object's name spells out the path of its type and its address, and two objects have one name
only if both are the same: type arguments do not count. -/
theorem objectName_lossless (named : IsPath path) (listed : IsArguments arguments)
    (named' : IsPath path') (listed' : IsArguments arguments') (address address' : UInt64) :
    (∃ digits : List Char,
      objectName (typeName path arguments) address.toNat =
        "/".intercalate path ++ "@" ++ String.ofList digits ∧
      digits.length = 16 ∧ (∀ digit ∈ digits, digit ∈ lowerDigits) ∧
      hexValue digits = address.toNat) ∧
    (objectName (typeName path arguments) address.toNat =
        objectName (typeName path' arguments') address'.toNat ↔
      path = path' ∧ address = address') := by
  refine ⟨⟨_, objectName_typeName named listed address.toNat, length_hexDigits 16 _, mem_hexDigits,
    hexValue_address address⟩, ?_⟩
  rw [objectName_typeName named listed, objectName_typeName named' listed']
  constructor
  · intro same
    have texts := congrArg String.toList same
    simp only [String.toList_append, String.toList_ofList] at texts
    obtain ⟨front, digits⟩ := List.append_inj' texts (by simp)
    have path_eq : ("/".intercalate path).toList = ("/".intercalate path').toList :=
      List.append_cancel_right front
    refine ⟨(intercalate_inj named named').mp (String.toList_injective path_eq), ?_⟩
    rw [← UInt64.toNat_inj, ← hexValue_address, digits, hexValue_address]
  · rintro ⟨rfl, rfl⟩
    rfl

/-- The sign before the address, and the bracket that ends type arguments, may stand in a path too. -/
theorem adder_objectName :
    IsPath ["demo", "a>b@Adder"] ∧ IsArguments "<core::Box<x/y>>" ∧ IsArguments "" ∧
    objectName (typeName ["demo", "a>b@Adder"] "<core::Box<x/y>>") (0xbeef : UInt64).toNat =
      "demo/a>b@Adder@000000000000beef" ∧
    objectName (typeName ["demo", "a>b@Adder"] "<core::Box<x/y>>") (0xbeef : UInt64).toNat ≠
      objectName (typeName ["demo", "a>b@Adder"] "") (0xbee0 : UInt64).toNat := by
  have named : IsPath ["demo", "a>b@Adder"] := by
    refine ⟨List.cons_ne_nil _ _, fun s mem => ?_⟩
    have parts : ∀ s ∈ ["demo", "a>b@Adder"],
        s ≠ "" ∧ ':' ∉ s.toList ∧ '<' ∉ s.toList ∧ '/' ∉ s.toList := by decide
    exact ⟨(parts s mem).1, (parts s mem).2⟩
  have listed : IsArguments "<core::Box<x/y>>" := .listed "core::Box<x/y>"
  have lossless := objectName_lossless named listed named .none 0xbeef 0xbee0
  refine ⟨named, listed, .none, by decide, fun same => ?_⟩
  exact absurd (lossless.2.mp same).2 (by decide)

end Dataflow.Naming
