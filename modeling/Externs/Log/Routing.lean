import Externs.Log

/-!
# Where log records go

Records pass a threshold, and then the threshold of each handler. Without any handler, a record of
some gravity still reaches standard error.

* `Log.Handler`, `Log.Router`: handlers with their thresholds, and the threshold before them;
* `Log.Router.setUp`: the routing of a run of the command;
* `Log.Router.takers`: the handlers that take a record;
* `Log.Router.toStandardError`: how often a record is written to standard error.
-/

namespace Externs.Log

set_option autoImplicit false

/-- Where a handler puts the records that it takes. -/
inductive Sink where
  | standardError
  | collection
  deriving DecidableEq

/-- A receiver of records of some gravity. -/
structure Handler where
  threshold : Int
  sink : Sink
  deriving DecidableEq

/-- The routing of records: a threshold for all of them, and the handlers in order. -/
structure Router where
  threshold : Int
  handlers : List Handler
  deriving DecidableEq

namespace Router

/-- No handlers, and warnings or graver records only. -/
def initial : Router := ⟨Level.warning.severity, []⟩

/-- One more handler, which collects its records. -/
def addCollector (router : Router) (threshold : Int) : Router :=
  { router with handlers := router.handlers ++ [⟨threshold, .collection⟩] }

/-- The least gravity of the records that a run reports. -/
def runLevel (debug : Bool) : Level := if debug then .debug else .info

/-- Every threshold becomes that of the run. If there is no handler, one is made that writes to
standard error. -/
def setUp (router : Router) (debug : Bool) : Router :=
  let threshold := (runLevel debug).severity
  match router.handlers with
  | [] => ⟨threshold, [⟨threshold, .standardError⟩]⟩
  | handlers => ⟨threshold, handlers.map fun handler => { handler with threshold }⟩

/-- Whether a handler takes a record of the given level. -/
def takes (router : Router) (level : Level) (handler : Handler) : Bool :=
  router.threshold ≤ level.severity && handler.threshold ≤ level.severity

/-- The handlers that take a record of the given level, in order. -/
def takers (router : Router) (level : Level) : List Handler :=
  router.handlers.filter (router.takes level)

/-- How often a record of the given level is written to standard error: once for each handler that
writes there and takes it, and once without any handler if it is a warning or graver. -/
def toStandardError (router : Router) (level : Level) : Nat :=
  match router.handlers with
  | [] =>
    if router.threshold ≤ level.severity ∧ Level.warning.severity ≤ level.severity then 1 else 0
  | _ => (router.takers level).countP (·.sink = .standardError)

end Router

end Externs.Log
