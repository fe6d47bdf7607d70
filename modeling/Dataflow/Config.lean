import Dataflow.Yaml.Node

namespace Dataflow

structure Config where
  /-- if not, new slots start with caching disabled -/
  cachingEnabled : Bool := true
  /-- whether evaluation reports deprecated ports -/
  deprecationWarnings : Bool := true
  deriving DecidableEq, Repr, Inhabited

namespace Config

def cachingName : String := "caching_enabled"

def warningsName : String := "deprecation_warnings"

def booleanTag : String := "tag:yaml.org,2002:bool"

def boolean? : Yaml.Node → Option Bool
  | .scalar style tag text =>
      if style = .plain || (style = .literal && tag = some booleanTag) then
        if text ∈ ["true", "True", "TRUE"] then some true
        else if text ∈ ["false", "False", "FALSE"] then some false
        else none
      else none
  | _ => none

def option? (root : Yaml.Node) (pairs : List (String × Yaml.Node)) (name : String)
    (default : Bool) : Option Bool :=
  match pairs.filter (·.1 = name) with
  | [] => some default
  | [(_, node)] => (root.resolve node).bind boolean?
  | _ => none

def keyed? (root : Yaml.Node) (pair : Yaml.Node × Yaml.Node) : Option (String × Yaml.Node) := do
  match ← root.resolve pair.1 with
  | .scalar _ _ text => return (text, pair.2)
  | _ => none

def ofNode? (root : Yaml.Node) : Option Config := do
  match ← root.resolve root with
  | .mapping pairs =>
      let pairs ← pairs.mapM (keyed? root)
      return ⟨← option? root pairs cachingName true, ← option? root pairs warningsName true⟩
  | .scalar .plain _ "" => some {}
  | _ => none

/-- Reads options; a text without a document gives the defaults. -/
def ofYaml? (text : String) : Option Config := do
  match ← Yaml.read text with
  | none => some {}
  | some node => ofNode? node

def boolText (b : Bool) : String := if b then "true" else "false"

def toYaml (c : Config) : String :=
  s!"{cachingName}: {boolText c.cachingEnabled}\n{warningsName}: {boolText c.deprecationWarnings}\n"

end Config

end Dataflow
