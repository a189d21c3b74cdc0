import Externs.Log.Routing

/-!
# Logging step by step

A program adds handlers, sets up the routing and logs records, in any order and any number of times.

* `Log.Step`: what a program does;
* `Log.Router.after`, `Log.Router.run`: the routing after a step, and after steps one after the other;
* `Log.Router.received`: the records that a step brings to a handler;
* `Log.Router.written`: the records that a step writes to standard error.
-/

namespace Externs.Log

set_option autoImplicit false

/-- What a program does with its routing. -/
inductive Step where
  /-- Adds a handler that collects its records. -/
  | addHandler (threshold : Int)
  | setUp (debug : Bool)
  | log (record : Record)

namespace Router

/-- The routing after a step. -/
def after (router : Router) : Step → Router
  | .addHandler threshold => router.addCollector threshold
  | .setUp debug => router.setUp debug
  | .log _ => router

/-- The routing after steps, one after the other. -/
def run (router : Router) (steps : List Step) : Router := steps.foldl after router

/-- The records that a step brings to a handler. -/
def received (router : Router) (handler : Handler) : Step → List Record
  | .log record => if router.takes record.level handler then [record] else []
  | .addHandler _ | .setUp _ => []

/-- The records that a step writes to standard error. -/
def written (router : Router) : Step → List Record
  | .log record => List.replicate (router.toStandardError record.level) record
  | .addHandler _ | .setUp _ => []

end Router

end Externs.Log
