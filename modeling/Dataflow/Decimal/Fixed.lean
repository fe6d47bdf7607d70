import Dataflow.Decimal.Double

namespace Dataflow.Decimal

/-- `numerator / denominator` rounded to the nearest whole number, a tie to the even one. -/
def roundDiv (numerator denominator : Nat) : Nat :=
  let quotient := numerator / denominator
  let twice := 2 * (numerator % denominator)
  if twice < denominator then quotient
  else if twice = denominator then quotient + quotient % 2
  else quotient + 1

theorem roundDiv_near (n : Nat) {d : Nat} (positive : 0 < d) :
    2 * (roundDiv n d * d) ≤ 2 * n + d ∧ 2 * n ≤ 2 * (roundDiv n d * d) + d := by
  have whole := Nat.div_add_mod n d
  have comm := Nat.mul_comm d (n / d)
  have below := Nat.mod_lt n positive
  simp only [roundDiv]
  split
  · omega
  · split
    · rcases Nat.mod_two_eq_zero_or_one (n / d) with even | odd
      · rw [even, Nat.add_zero]; omega
      · rw [odd, Nat.add_mul]; omega
    · rw [Nat.add_mul]; omega

def paddedDigits (width n : Nat) : List Char :=
  let digits := Nat.toDigits 10 n
  List.replicate (width - digits.length) '0' ++ digits

def fixed (places : Nat) (x : Float) : String :=
  let sign := if isNegative x.toBits then "-" else ""
  match reading x.toBits with
  | .nan => "NaN"
  | .infinite => sign ++ "inf"
  | .finite m =>
      let scaled := roundDiv (m.numerator * Nat.pow 10 places) m.denominator
      let digits := paddedDigits (places + 1) scaled
      let whole := digits.length - places
      sign ++ String.ofList (digits.take whole) ++
        (if places = 0 then "" else "." ++ String.ofList (digits.drop whole))

end Dataflow.Decimal
