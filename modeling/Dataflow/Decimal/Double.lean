namespace Dataflow.Decimal

structure Magnitude where
  significand : Nat
  exponent : Int
  deriving DecidableEq, Repr

inductive Reading where
  | nan
  | infinite
  | finite (magnitude : Magnitude)
  deriving DecidableEq, Repr

def isNegative (bits : UInt64) : Bool := bits.toNat / Nat.pow 2 63 = 1

def reading (bits : UInt64) : Reading :=
  let biased : Nat := bits.toNat / Nat.pow 2 52 % Nat.pow 2 11
  let fraction : Nat := bits.toNat % Nat.pow 2 52
  if biased = 2047 then
    if fraction = 0 then .infinite else .nan
  else if biased = 0 then .finite ⟨fraction, -1074⟩
  else .finite ⟨Nat.pow 2 52 + fraction, (biased : Int) - 1075⟩

namespace Magnitude

def numerator (m : Magnitude) : Nat := m.significand * Nat.pow 2 m.exponent.toNat

def denominator (m : Magnitude) : Nat := Nat.pow 2 (-m.exponent).toNat

end Magnitude

end Dataflow.Decimal
