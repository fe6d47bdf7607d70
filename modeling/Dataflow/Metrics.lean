import Dataflow.Decimal.Fixed

namespace Dataflow

structure Metrics where
  hits : Nat := 0
  computations : Nat := 0
  /-- in nanoseconds, modulo 2 ^ 64 -/
  totalTime : UInt64 := 0
  deriving DecidableEq, Repr, Inhabited

namespace Metrics

def recordHit (m : Metrics) : Metrics := { m with hits := m.hits + 1 }

def recordComputation (m : Metrics) (nanoseconds : Nat) : Metrics :=
  { m with computations := m.computations + 1, totalTime := m.totalTime + .ofNat nanoseconds }

def hitRate (m : Metrics) : Float :=
  if m.hits + m.computations = 0 then 0
  else Float.ofNat m.hits / Float.ofNat (m.hits + m.computations)

def averageTime (m : Metrics) : Nat := m.totalTime.toNat / m.computations

/-- A time in nanoseconds as milliseconds: whole seconds and the rest are added as seconds first. -/
def milliseconds (nanoseconds : Nat) : Float :=
  let second := 1000000000
  (Float.ofNat (nanoseconds / second) + Float.ofNat (nanoseconds % second) / 1000000000) * 1000

def report (m : Metrics) (description : String) : String :=
  let rate := Decimal.fixed 1 (m.hitRate * 100)
  let average := Decimal.fixed 3 (milliseconds m.averageTime)
  let total := Decimal.fixed 3 (milliseconds m.totalTime.toNat)
  s!"Cache entry: {description}\n" ++
  s!"  Hits: {m.hits} | Computations: {m.computations} | Hit Rate: {rate}%\n" ++
  s!"  Avg Time: {average}ms | Total Time: {total}ms\n"

end Metrics

end Dataflow
