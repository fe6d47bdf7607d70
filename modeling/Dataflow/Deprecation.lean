import Dataflow.Port

namespace Dataflow

/-- What counts as the same port for reports: systems of one type share their ports. -/
structure PortKey where
  systemType : String
  kind : PortKind
  name : String
  deriving DecidableEq, Repr

inductive Registry (κ : Type) where
  | remembering (reported : List κ)
  | always
  | never
  deriving DecidableEq, Repr

namespace Registry

variable {κ : Type} [DecidableEq κ]

def insertIfAbsent (r : Registry κ) (key : κ) : Bool × Registry κ :=
  match r with
  | remembering reported =>
      if key ∈ reported then (false, r) else (true, remembering (reported ++ [key]))
  | always => (true, r)
  | never => (false, r)

def size : Registry κ → Nat
  | remembering reported => reported.length
  | _ => 0

end Registry

structure PortObject where
  system : SystemId
  kind : PortKind
  index : Nat
  deriving DecidableEq, Repr

structure Notices where
  asked : List PortObject := []
  registries : List (String × Registry PortKey) := []

namespace Notices

def registry (n : Notices) (name : String) : Registry PortKey :=
  (n.registries.lookup name).getD (.remembering [])

def setRegistry (n : Notices) (name : String) (r : Registry PortKey) : Notices :=
  { n with registries := (name, r) :: n.registries.filter (·.1 ≠ name) }

def report (n : Notices) (object : PortObject) (registryName : String) (key : PortKey) :
    Bool × Notices :=
  if object ∈ n.asked then (false, n)
  else
    let n := { n with asked := object :: n.asked }
    let (fresh, r) := (n.registry registryName).insertIfAbsent key
    (fresh, n.setRegistry registryName r)

end Notices

def deprecationDetails (message : String) : String :=
  if message = "" then "no deprecation details were provided" else message

end Dataflow
