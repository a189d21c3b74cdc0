import Externs.Log.Session
import Mathlib.Data.List.Induction

/-!
# Routing over a run

A program may add handlers, set up the routing and log records in any order. No handler is ever lost, and only
the first one can write to standard error: a set-up makes it if it finds no handler at all. So a record is
written there at most once, and every handler that a set-up finds or makes gets what is grave enough for it.

* `Log.Router.made`: the handlers that are made in a run;
* `Log.Router.made_cases`: what one step can make;
* `Log.Router.sinks_after`, `Log.Router.sinks_run`: one step, and a run, keep all handlers;
* `Log.Router.Single`: only the first handler writes to standard error, which each step preserves;
* `Log.Router.unchanged_run`: without a set-up, all thresholds stay as they are;
* `Log.Router.routing_over_run`: what holds of every run.
-/

namespace Externs.Log.Router

set_option autoImplicit false

/-! ## What is made -/

/-- The handlers that are made in a run: after each step, those beyond the handlers that were there. -/
def made (router : Router) : List Step → List Handler
  | [] => []
  | step :: rest =>
    (router.after step).handlers.drop router.handlers.length ++ (router.after step).made rest

/-- Where the handlers put their records, in order. -/
def sinks (router : Router) : List Sink := router.handlers.map Handler.sink

theorem run_concat (router : Router) (steps : List Step) (step : Step) :
    router.run (steps ++ [step]) = (router.run steps).after step := by
  rw [run, List.foldl_append, ← run]
  rfl

theorem setUp_of_nil {router : Router} (h : router.handlers = []) (debug : Bool) :
    router.setUp debug = ⟨(runLevel debug).severity, [⟨(runLevel debug).severity, .standardError⟩]⟩ := by
  rw [setUp, h]

theorem setUp_of_ne_nil {router : Router} (h : router.handlers ≠ []) (debug : Bool) :
    router.setUp debug = ⟨(runLevel debug).severity, router.handlers.map fun handler =>
      { handler with threshold := (runLevel debug).severity }⟩ := by
  rw [setUp]
  cases hhandlers : router.handlers with
  | nil => exact absurd hhandlers h
  | cons first rest => rfl

theorem made_setUp_of_nil {router : Router} (h : router.handlers = []) (debug : Bool) :
    (router.made [.setUp debug]).map Handler.sink = [.standardError] := by
  simp [made, after, setUp_of_nil h, h]

theorem made_setUp_of_ne_nil {router : Router} (h : router.handlers ≠ []) (debug : Bool) :
    router.made [.setUp debug] = [] := by
  simp [made, after, setUp_of_ne_nil h]

/-- **What one step can make**: nothing, a handler that collects, or the first handler of all, which writes
to standard error. -/
theorem made_cases (router : Router) (step : Step) :
    router.made [step] = [] ∨ (router.made [step]).map Handler.sink = [.collection] ∨
      (router.sinks = [] ∧ (router.made [step]).map Handler.sink = [.standardError]) := by
  cases step with
  | addHandler threshold =>
    right; left
    simp [made, after, addCollector]
  | setUp debug =>
    by_cases h : router.handlers = []
    · exact .inr (.inr ⟨List.map_eq_nil_iff.mpr h, made_setUp_of_nil h debug⟩)
    · exact .inl (made_setUp_of_ne_nil h debug)
  | log record =>
    left
    simp [made, after]

/-- A step keeps all handlers in their order, and puts those that it makes after them. -/
theorem sinks_after (router : Router) (step : Step) :
    (router.after step).sinks = router.sinks ++ (router.made [step]).map Handler.sink := by
  cases step with
  | addHandler threshold => simp [made, after, addCollector, sinks]
  | setUp debug =>
    by_cases h : router.handlers = []
    · rw [made_setUp_of_nil h, after, setUp_of_nil h, sinks, sinks, h]
      rfl
    · rw [made_setUp_of_ne_nil h, after, setUp_of_ne_nil h, sinks, sinks, List.map_map]
      exact (List.append_nil _).symm
  | log record => simp [made, after]

theorem sinks_run (router : Router) (steps : List Step) :
    (router.run steps).sinks = router.sinks ++ (router.made steps).map Handler.sink := by
  induction steps generalizing router with
  | nil => exact (List.append_nil _).symm
  | cons step rest ih =>
    have hstep := sinks_after router step
    rw [made, made, List.append_nil] at hstep
    rw [run, List.foldl_cons, ← run, ih, hstep, made, List.map_append, List.append_assoc]

/-! ## One handler for standard error -/

/-- All handlers but the first collect their records. -/
def Single (router : Router) : Prop := ∀ sink ∈ router.sinks.tail, sink = .collection

theorem single_initial : initial.Single := by
  intro sink hsink
  cases hsink

theorem Single.after {router : Router} (h : router.Single) (step : Step) : (router.after step).Single := by
  intro sink hsink
  rw [sinks_after] at hsink
  rcases made_cases router step with hmade | hmade | ⟨hnone, hmade⟩
  · rw [hmade, List.map_nil, List.append_nil] at hsink
    exact h sink hsink
  · rw [hmade] at hsink
    cases hsinks : router.sinks with
    | nil =>
      rw [hsinks] at hsink
      cases hsink
    | cons first rest =>
      rw [hsinks, List.cons_append, List.tail_cons, List.mem_append, List.mem_singleton] at hsink
      rcases hsink with hrest | hnew
      · refine h sink ?_
        rw [hsinks]
        exact hrest
      · exact hnew
  · -- A handler for standard error is made only as the first one, so none comes after it.
    rw [hnone, hmade] at hsink
    cases hsink

theorem single_run (steps : List Step) : (initial.run steps).Single := by
  induction steps using List.reverseRecOn with
  | nil => exact single_initial
  | append_singleton steps step ih =>
    rw [run_concat]
    exact ih.after step

theorem Single.count_le_one {router : Router} (h : router.Single) :
    router.sinks.count .standardError ≤ 1 := by
  cases hsinks : router.sinks with
  | nil => exact Nat.zero_le 1
  | cons first rest =>
    have hrest : rest.count .standardError = 0 := by
      rw [List.count_eq_zero]
      intro hmem
      rw [Single, hsinks] at h
      cases h _ hmem
    rw [List.count_cons, hrest, Nat.zero_add]
    split <;> decide

theorem Single.toStandardError_le_one {router : Router} (h : router.Single) (level : Level) :
    router.toStandardError level ≤ 1 := by
  rw [toStandardError]
  split
  · split <;> decide
  · calc (router.takers level).countP (·.sink = .standardError)
        ≤ router.handlers.countP (·.sink = .standardError) := List.filter_sublist.countP_le
      _ = router.sinks.count .standardError := by
          rw [sinks, List.count, List.countP_map]
          rfl
      _ ≤ 1 := h.count_le_one

theorem toStandardError_pos {router : Router} {handler : Handler} {level : Level}
    (hmem : handler ∈ router.handlers) (hsink : handler.sink = .standardError)
    (htakes : router.takes level handler = true) : 0 < router.toStandardError level := by
  rw [toStandardError]
  split
  · next hnone =>
    rw [hnone] at hmem
    cases hmem
  · rw [List.countP_pos_iff]
    exact ⟨handler, List.mem_filter.mpr ⟨hmem, htakes⟩, decide_eq_true hsink⟩

/-! ## Thresholds -/

theorem thresholds_setUp (router : Router) (debug : Bool) :
    (router.setUp debug).threshold = (runLevel debug).severity ∧
      ∀ handler ∈ (router.setUp debug).handlers, handler.threshold = (runLevel debug).severity := by
  by_cases h : router.handlers = []
  · simp [setUp_of_nil h]
  · simp [setUp_of_ne_nil h]

/-- **Of two set-ups the second alone counts.** -/
theorem setUp_setUp (router : Router) (first second : Bool) :
    (router.setUp first).setUp second = router.setUp second := by
  by_cases h : router.handlers = []
  · rw [setUp_of_nil h, setUp_of_nil h]
    rfl
  · have hfirst : (router.setUp first).handlers ≠ [] := by simp [setUp_of_ne_nil h, h]
    rw [setUp_of_ne_nil hfirst, setUp_of_ne_nil h, setUp_of_ne_nil h, List.map_map]
    rfl

/-- Without a set-up no threshold changes, and no handler is lost. -/
theorem unchanged_run (router : Router) {steps : List Step} (h : ∀ debug, .setUp debug ∉ steps) :
    (router.run steps).threshold = router.threshold ∧ router.handlers <+: (router.run steps).handlers := by
  induction steps using List.reverseRecOn with
  | nil => exact ⟨rfl, List.prefix_rfl⟩
  | append_singleton steps step ih =>
    obtain ⟨hthreshold, hhandlers⟩ := ih fun debug hmem => h debug (List.mem_append_left _ hmem)
    rw [run_concat]
    cases step with
    | addHandler threshold => exact ⟨hthreshold, hhandlers.trans (List.prefix_append _ _)⟩
    | setUp debug => exact absurd (List.mem_append_right _ List.mem_cons_self) (h debug)
    | log record => exact ⟨hthreshold, hhandlers⟩

theorem takes_of_le {router : Router} {handler : Handler} {level : Level}
    (hrouter : router.threshold ≤ level.severity) (hhandler : handler.threshold ≤ level.severity) :
    router.takes level handler = true := by
  simp [takes, hrouter, hhandler]

/-! ## Records -/

theorem received_of_takes {router : Router} {handler : Handler} {record : Record}
    (h : router.takes record.level handler = true) : router.received handler (.log record) = [record] :=
  if_pos h

theorem Single.written_of_takes {router : Router} (h : router.Single) {handler : Handler} {record : Record}
    (hmem : handler ∈ router.handlers) (hsink : handler.sink = .standardError)
    (htakes : router.takes record.level handler = true) : router.written (.log record) = [record] := by
  have honce : router.toStandardError record.level = 1 :=
    Nat.le_antisymm (h.toStandardError_le_one record.level) (toStandardError_pos hmem hsink htakes)
  rw [written, honce]
  rfl

/-! ## Runs -/

/-- **Routing over a run.** Take any steps from the initial routing. The handlers are those that were made, in
order, and at most one of them writes to standard error; a set-up makes one, which does so, just if there is
none. Right after a set-up all thresholds are those that it asks for, and of two set-ups in a row the second
alone counts. A record that is logged is written to standard error at most once, and is received by each
handler at most once. The handlers that the last set-up left are still there, and each of them receives every
record that is as grave as that set-up asks for, which for the one of standard error means that the record is
written there. -/
theorem routing_over_run (steps : List Step) :
    (initial.run steps).handlers.map Handler.sink = (initial.made steps).map Handler.sink ∧
    (initial.made steps).countP (·.sink = .standardError) ≤ 1 ∧
    (∀ debug,
      ((initial.run steps).handlers ≠ [] → (initial.run steps).made [.setUp debug] = []) ∧
      ((initial.run steps).handlers = [] →
        ((initial.run steps).made [.setUp debug]).map Handler.sink = [.standardError])) ∧
    (∀ debug,
      (initial.run (steps ++ [.setUp debug])).threshold =
        (if debug then Level.debug else Level.info).severity ∧
      ∀ handler ∈ (initial.run (steps ++ [.setUp debug])).handlers,
        handler.threshold = (if debug then Level.debug else Level.info).severity) ∧
    (∀ first second,
      initial.run (steps ++ [.setUp first, .setUp second]) = initial.run (steps ++ [.setUp second])) ∧
    (∀ record,
      ((initial.run steps).written (.log record)).Sublist [record] ∧
      ∀ handler ∈ (initial.run steps).handlers,
        ((initial.run steps).received handler (.log record)).Sublist [record]) ∧
    ∀ before debug between, steps = before ++ .setUp debug :: between →
      (∀ other, .setUp other ∉ between) →
      (initial.run (before ++ [.setUp debug])).handlers <+: (initial.run steps).handlers ∧
      ∀ record, (if debug then Level.debug else Level.info).severity ≤ record.level.severity →
        ∀ handler ∈ (initial.run (before ++ [.setUp debug])).handlers,
          (initial.run steps).received handler (.log record) = [record] ∧
          (handler.sink = .standardError → (initial.run steps).written (.log record) = [record]) := by
  have hsinks : (initial.run steps).sinks = (initial.made steps).map Handler.sink := sinks_run initial steps
  have hsingle := single_run steps
  refine ⟨hsinks, ?_, fun debug => ⟨?_, ?_⟩, fun debug => ?_, fun first second => ?_,
    fun record => ⟨?_, ?_⟩, ?_⟩
  · have hcount := hsingle.count_le_one
    rw [hsinks, List.count, List.countP_map] at hcount
    exact hcount
  · exact fun h => made_setUp_of_ne_nil h debug
  · exact fun h => made_setUp_of_nil h debug
  · rw [run_concat]
    exact thresholds_setUp _ debug
  · have hsplit : steps ++ [Step.setUp first, .setUp second] =
        (steps ++ [.setUp first]) ++ [.setUp second] := by
      simp
    rw [hsplit, run_concat, run_concat, run_concat]
    exact setUp_setUp _ first second
  · exact List.replicate_sublist_replicate record |>.mpr (hsingle.toStandardError_le_one record.level)
  · intro handler _
    rw [received]
    split
    · exact List.Sublist.refl _
    · exact List.nil_sublist _
  · intro before debug between hsteps hnone
    -- No threshold has changed since the set-up, so what it asked for still decides.
    have hrun : initial.run steps = (initial.run (before ++ [.setUp debug])).run between := by
      rw [hsteps, List.append_cons, run, List.foldl_append]
      rfl
    obtain ⟨hthreshold, hkept⟩ := unchanged_run (initial.run (before ++ [.setUp debug])) hnone
    rw [← hrun] at hthreshold hkept
    refine ⟨hkept, fun record hgrave handler hhandler => ?_⟩
    have htakes : (initial.run steps).takes record.level handler = true := by
      rw [run_concat] at hthreshold hhandler
      obtain ⟨hset, hhandlers⟩ := thresholds_setUp (initial.run before) debug
      exact takes_of_le (Int.le_trans (Int.le_of_eq (hthreshold.trans hset)) hgrave)
        (Int.le_trans (Int.le_of_eq (hhandlers handler hhandler)) hgrave)
    exact ⟨received_of_takes htakes,
      fun hsink => hsingle.written_of_takes (hkept.subset hhandler) hsink htakes⟩

end Externs.Log.Router
