import Dataflow.Ticket

namespace Dataflow

inductive Indexed where
  | inputPort
  | outputPort
  | cacheEntry
  deriving DecidableEq, Repr

structure PortSite where
  func : String
  port : String
  index : Nat
  pathname : String
  deriving DecidableEq, Repr

inductive Error where
  | negativePort (func : String) (index : Int) (pathname : String)
  | outOfRange (what : Indexed) (func : String) (index count : Nat) (pathname : String)
  | notVector (site : PortSite)
  | wrongType (site : PortSite) (expected actual : String)
  | unconnected (site : PortSite)
  | notCacheBacked (site : PortSite)
  | rootContextGiven (systemType pathname : String)
  | subcontextGiven (contextPathname : String)
  | foreignContext (systemType pathname contextPathname : String)
  | unclaimedContext (systemType pathname : String)
  | noPrerequisites (description pathname : String)
  | unknownPrerequisite (description : String) (ticket : Ticket) (pathname : String)
  | alreadySetUp (pathname : String)
  | duplicateTracker (ticket : Ticket) (description : String)
  /-- a panic, where the others are handed back: there can be no place for a tracker of that number -/
  | noRoom (ticket : Ticket)
  | unknownTracker (ticket : Ticket)
  | entryOutOfOrder (expected actual : Nat)
  | reentered (description : String)
  | parentAlreadySet (pathname : String)
  | unknownContext (id : ContextId)
  | computationFailed (description message : String)
  deriving DecidableEq, Repr

namespace Indexed

def singular : Indexed → String
  | inputPort => "input port"
  | outputPort => "output port"
  | cacheEntry => "cache entry"

def plural : Indexed → String
  | inputPort => "input ports"
  | outputPort => "output ports"
  | cacheEntry => "cache entries"

end Indexed

namespace Error

def message : Error → String
  | negativePort func index pathname =>
      s!"System::{func}(): negative port index {index} is illegal. (System {pathname})"
  | outOfRange what func index count pathname =>
      s!"System::{func}(): there is no {what.singular} with index {index} because " ++
      s!"there are only {count} {what.plural} in system {pathname}."
  | notVector site =>
      s!"System::{site.func}(): vector port required, but input port '{site.port}' (index " ++
      s!"{site.index}) was declared abstract. Even if the actual value is a vector, use " ++
      "eval_input_value instead for an abstract port containing a vector. " ++
      s!"(System {site.pathname})"
  | wrongType site expected actual =>
      s!"System::{site.func}(): expected value of type {expected} for input port '{site.port}' " ++
      s!"(index {site.index}) but the actual type was {actual}. (System {site.pathname})"
  | unconnected site =>
      s!"System::{site.func}(): input port '{site.port}' (index {site.index}) is neither " ++
      s!"connected nor fixed so cannot be evaluated. (System {site.pathname})"
  | notCacheBacked site =>
      s!"System::{site.func}(): output port '{site.port}' (index {site.index}) is not computed " ++
      s!"by a cache entry of this system. (System {site.pathname})"
  | rootContextGiven systemType pathname =>
      s!"A function call on a {systemType} system named '{pathname}' was passed the root context " ++
      "instead of the appropriate subsystem context."
  | subcontextGiven contextPathname =>
      "A function call on the root system was passed a subcontext associated with its subsystem " ++
      s!"named '{contextPathname}' instead of the root context."
  | foreignContext systemType pathname contextPathname =>
      s!"A function call on a {systemType} system named '{pathname}' was passed the context of a " ++
      s!"system named '{contextPathname}' instead of the appropriate subsystem context."
  | unclaimedContext systemType pathname =>
      "Context was not associated with any system but should have been created for " ++
      s!"{systemType} system {pathname}"
  | noPrerequisites description pathname =>
      s!"Cache entry '{description}' must have at least one prerequisite. (System {pathname})"
  | unknownPrerequisite description ticket pathname =>
      s!"Cache entry '{description}' names prerequisite ticket {ticket}, which is not a known " ++
      s!"source for it. (System {pathname})"
  | alreadySetUp pathname => s!"Context for system {pathname} has already been initialized"
  | duplicateTracker ticket description =>
      s!"A tracker for ticket {ticket} already exists; cannot create '{description}'"
  | noRoom ticket =>
      if ticket + 1 < UInt64.size then "capacity overflow" else "attempt to add with overflow"
  | unknownTracker ticket => s!"No tracker exists for ticket {ticket}"
  | entryOutOfOrder expected actual =>
      s!"Cache entry values must be created in index order: expected {expected}, got {actual}"
  | reentered description =>
      s!"Cache entry '{description}' was re-entered while computing its own value"
  | parentAlreadySet pathname => s!"System {pathname} already has a parent coordinator"
  | unknownContext id => s!"No context with id {id} in this tree"
  | computationFailed description message => s!"Computing '{description}' failed: {message}"

def isContextMismatch : Error → Bool
  | rootContextGiven .. | subcontextGiven .. | foreignContext .. | unclaimedContext .. => true
  | _ => false

end Error

end Dataflow
