import Mathlib.Order.Defs.PartialOrder

/-!
# Labelled transition systems with partial steps

A system is given by a partial step function `State → Event → Option State`: an
event that is not enabled in a state has no successor. A schedule is a finite list
of events, so quantifying over schedules quantifies over every interleaving. The
module packages the induction over schedules once, for invariants, for monotone
observations and for forward simulations.
-/

namespace Transition

variable {State Event : Type*}

/-- Execute a schedule, failing at the first event that is not enabled. -/
def run (step : State → Event → Option State) (start : State) : List Event → Option State
  | [] => some start
  | event :: rest => (step start event).bind fun next => run step next rest

@[simp] theorem run_nil (step : State → Event → Option State) (start : State) :
    run step start [] = some start := rfl

theorem run_cons {step : State → Event → Option State} {start finish : State}
    {event : Event} {rest : List Event} :
    run step start (event :: rest) = some finish ↔
      ∃ next, step start event = some next ∧ run step next rest = some finish := by
  simp only [run, Option.bind_eq_some_iff]

/-- A schedule splits at every position. -/
theorem run_append {step : State → Event → Option State} {start finish : State}
    {front back : List Event} :
    run step start (front ++ back) = some finish ↔
      ∃ middle, run step start front = some middle ∧
        run step middle back = some finish := by
  induction front generalizing start with
  | nil => simp
  | cons event front ih =>
      simp only [List.cons_append, run_cons, ih]
      constructor
      · rintro ⟨next, stepped, middle, ran, rest⟩
        exact ⟨middle, ⟨next, stepped, ran⟩, rest⟩
      · rintro ⟨middle, ⟨next, stepped, ran⟩, rest⟩
        exact ⟨next, stepped, middle, ran, rest⟩

@[simp] theorem run_singleton {step : State → Event → Option State}
    {start finish : State} {event : Event} :
    run step start [event] = some finish ↔ step start event = some finish := by
  simp [run_cons]

/-- A property that every step preserves holds at the end of every run. -/
theorem run_invariant {step : State → Event → Option State}
    (invariant : State → Prop)
    (preserved : ∀ {state next : State} {event : Event},
      step state event = some next → invariant state → invariant next)
    {start finish : State} {schedule : List Event}
    (ran : run step start schedule = some finish) (initially : invariant start) :
    invariant finish := by
  induction schedule generalizing start with
  | nil =>
      simp only [run_nil, Option.some.injEq] at ran
      exact ran ▸ initially
  | cons event rest ih =>
      rcases run_cons.mp ran with ⟨next, stepped, ran⟩
      exact ih ran (preserved stepped initially)

/-- A relation to what is computed from the events alone holds at the end of every run, if
every step keeps it. -/
theorem run_follows {Observed : Type*} {step : State → Event → Option State}
    {observe : Observed → Event → Observed} (related : State → Observed → Prop)
    (preserved : ∀ {state next : State} {event : Event} {observed : Observed},
      step state event = some next → related state observed → related next (observe observed event))
    {start finish : State} {observed : Observed} {schedule : List Event}
    (ran : run step start schedule = some finish) (initially : related start observed) :
    related finish (schedule.foldl observe observed) := by
  induction schedule generalizing start observed with
  | nil =>
      simp only [run_nil, Option.some.injEq] at ran
      exact ran ▸ initially
  | cons event rest ih =>
      rcases run_cons.mp ran with ⟨next, stepped, ran⟩
      exact ih ran (preserved stepped initially)

/-- An observation that no step decreases does not decrease along a run. -/
theorem run_monotone {Observed : Type*} [Preorder Observed]
    {step : State → Event → Option State} (observe : State → Observed)
    (increasing : ∀ {state next : State} {event : Event},
      step state event = some next → observe state ≤ observe next)
    {start finish : State} {schedule : List Event}
    (ran : run step start schedule = some finish) :
    observe start ≤ observe finish :=
  run_invariant (fun state => observe start ≤ observe state)
    (fun stepped before => le_trans before (increasing stepped)) ran le_rfl

/-! ## Forward simulation -/

variable {AbstractState AbstractEvent : Type*}

/-- A forward simulation: related states stay related when the abstract system
takes the finitely many events that `label` assigns to the concrete step. -/
structure Simulation (step : State → Event → Option State)
    (abstractStep : AbstractState → AbstractEvent → Option AbstractState)
    (related : State → AbstractState → Prop) where
  label : State → Event → List AbstractEvent
  simulates : ∀ {state next : State} {event : Event} {abstracted : AbstractState},
    related state abstracted → step state event = some next →
      ∃ abstractNext,
        run abstractStep abstracted (label state event) = some abstractNext ∧
          related next abstractNext

/-- Every concrete run is matched by an abstract run. -/
theorem Simulation.run {step : State → Event → Option State}
    {abstractStep : AbstractState → AbstractEvent → Option AbstractState}
    {related : State → AbstractState → Prop}
    (simulation : Simulation step abstractStep related)
    {start finish : State} {abstractStart : AbstractState} {schedule : List Event}
    (initially : related start abstractStart)
    (ran : Transition.run step start schedule = some finish) :
    ∃ trace abstractFinish,
      Transition.run abstractStep abstractStart trace = some abstractFinish ∧
        related finish abstractFinish := by
  induction schedule generalizing start abstractStart with
  | nil =>
      simp only [run_nil, Option.some.injEq] at ran
      exact ⟨[], abstractStart, rfl, ran ▸ initially⟩
  | cons event rest ih =>
      rcases run_cons.mp ran with ⟨next, stepped, ran⟩
      obtain ⟨abstractNext, abstractStepped, stillRelated⟩ :=
        simulation.simulates initially stepped
      rcases ih stillRelated ran with ⟨trace, abstractFinish, abstractRan, matched⟩
      exact ⟨simulation.label start event ++ trace, abstractFinish,
        run_append.mpr ⟨abstractNext, abstractStepped, abstractRan⟩, matched⟩

end Transition
