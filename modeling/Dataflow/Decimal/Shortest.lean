import Dataflow.Decimal.Double

namespace Dataflow.Decimal

structure Scientific where
  digits : Nat
  exponent : Int
  deriving DecidableEq, Repr

def scale (e : Int) (fraction : Nat × Nat) : Nat × Nat :=
  (fraction.1 * Nat.pow 10 e.toNat, fraction.2 * Nat.pow 10 (-e).toNat)

/-- The reals that round to a double: between two fractions of one `denominator`, the bounds
themselves included if `closed`. -/
structure Interval where
  lower : Nat
  upper : Nat
  denominator : Nat
  closed : Bool

/-- Half the way to each neighbouring double, counted in quarters of the last place. -/
def Magnitude.interval (m : Magnitude) : Interval :=
  let isPowerOfTwo := m.significand = Nat.pow 2 52 ∧ -1074 < m.exponent
  let below := if isPowerOfTwo then 1 else 2
  let unit := Nat.pow 2 m.exponent.toNat
  { lower := (4 * m.significand - below) * unit
    upper := (4 * m.significand + 2) * unit
    denominator := 4 * m.denominator
    closed := m.significand % 2 = 0 }

def Interval.contains (i : Interval) (n d : Nat) : Bool :=
  let left := i.lower * d
  let point := n * i.denominator
  let right := i.upper * d
  if i.closed then left ≤ point && point ≤ right else left < point && point < right

/-- The nearest hit on the grid of multiples of `10 ^ e`, if one of the two neighbours of the value
on it lies in the interval of the double. -/
def onGrid (m : Magnitude) (e : Int) : Option Nat :=
  let (n, d) := scale (-e) (m.numerator, m.denominator)
  let (one, ten) := scale e (1, 1)
  let below := n / d
  let hits (k : Nat) : Bool := 0 < k && m.interval.contains (k * one) ten
  let upIsNearer := d ≤ 2 * (n % d)
  if hits (below + 1) && (upIsNearer || !hits below) then some (below + 1)
  else if hits below then some below
  else none

def leadingExponent (m : Magnitude) : Nat → Int → Int
  | 0, top => top
  | fuel + 1, top =>
      let (n, d) := scale (-top) (m.numerator, m.denominator)
      if d ≤ n then top else leadingExponent m fuel (top - 1)

def firstHit (m : Magnitude) (lead : Int) : List Nat → Scientific
  | [] => ⟨0, 0⟩
  | count :: rest =>
      let e := lead - (count : Int) + 1
      match onGrid m e with
      | some digits => ⟨digits, e⟩
      | none => firstHit m lead rest

def topExponent : Int := 308

def exponentCount : Nat := 632

def Magnitude.shortest (m : Magnitude) : Scientific :=
  firstHit m (leadingExponent m exponentCount topExponent) ((List.range 17).map (· + 1))

def dropTrailingZeros (digits : List Char) : List Char × Nat :=
  let kept := (digits.reverse.dropWhile (· = '0')).reverse
  (kept, digits.length - kept.length)

structure Layout where
  /-- the least decimal exponent of the leading digit that is written positionally -/
  leastPositional : Int
  /-- the least decimal exponent above those written positionally -/
  leastScientific : Int

/-- Values are positional from a ten-thousandth up to ten to the sixteenth, with at least one
decimal place; others have an exponent. -/
def dataLayout : Layout := ⟨-4, 16⟩

def Layout.write (layout : Layout) (value : Scientific) : String :=
  let (digits, dropped) := dropTrailingZeros (Nat.toDigits 10 value.digits)
  let exponent := value.exponent + dropped
  let lead := exponent + digits.length - 1
  if lead < layout.leastPositional || layout.leastScientific ≤ lead then
    String.ofList (digits.take 1) ++
      (if digits.length = 1 then "" else "." ++ String.ofList (digits.drop 1)) ++ s!"e{lead}"
  else if lead < 0 then
    "0." ++ String.ofList (List.replicate (-lead - 1).toNat '0' ++ digits)
  else if 0 ≤ exponent then
    String.ofList (digits ++ List.replicate exponent.toNat '0') ++ ".0"
  else
    let whole := (lead + 1).toNat
    String.ofList (digits.take whole) ++ "." ++ String.ofList (digits.drop whole)

def shortest (x : Float) : String :=
  let sign := if isNegative x.toBits then "-" else ""
  match reading x.toBits with
  | .nan => "NaN"
  | .infinite => sign ++ "inf"
  | .finite m => sign ++ if m.significand = 0 then "0.0" else dataLayout.write m.shortest

end Dataflow.Decimal
