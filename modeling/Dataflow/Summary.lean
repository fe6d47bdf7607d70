import Dataflow.Diagram
import Dataflow.Identifier
import Dataflow.Tree.Basic

namespace Dataflow

def record (name : String) (fields : List (String × String)) (openEnded : Bool) : String :=
  let shown := fields.map fun (field, text) => field ++ ": " ++ text
  name ++ " \x7b " ++ String.intercalate ", " (shown ++ if openEnded then [".."] else []) ++ " \x7d"

def System.summary (s : System) : String :=
  record "SystemBase"
    [("name", Text.quoted s.name), ("system_type", Text.quoted s.typeName), ("system_id", "ID"),
     ("input_ports", toString s.inputs.length), ("output_ports", toString s.outputs.length),
     ("cache_entries", toString s.entries.length)] true

def Entry.summary (e : Entry) (index : Nat) : String :=
  let prerequisites := String.intercalate ", " (e.prerequisites.map IndexKind.ticket.text)
  record "CacheEntry"
    [("index", IndexKind.cacheEntry.text index), ("ticket", IndexKind.ticket.text e.ticket),
     ("description", Text.quoted e.description), ("prerequisites", "\x7b" ++ prerequisites ++ "\x7d"),
     ("disabled_by_default", if e.disabledByDefault then "true" else "false")] true

def Tree.summary (t : Tree) (id : ContextId) : String :=
  record "ContextRef"
    [("id", IndexKind.context.text id), ("system", Text.quoted (t.systemName id))] false

end Dataflow
