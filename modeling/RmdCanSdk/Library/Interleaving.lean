import Mathlib.Data.List.Perm.Basic
import RmdCanSdk.Library.Transition

/-!
# Threads of atomic instructions

Threads execute their instructions one at a time against a shared state, in any order
between the threads. An instruction may leave others to be executed in its place, so that a
loop is an instruction that leaves itself. An account adds what the shared state holds to
what the pending instructions owe; if executing an instruction keeps the sum, then so does
every run, and at the end the shared state holds everything that was owed.
-/

namespace Interleaving

variable {Shared Instruction Choice : Type*}

/-- A shared state, and what each thread has still to execute. -/
structure State (Shared Instruction : Type*) where
  shared : Shared
  threads : List (List Instruction)
  deriving DecidableEq

/-- The thread that takes the next step, and what its instruction leaves open. -/
structure Event (Choice : Type*) where
  thread : Nat
  choice : Choice

/-- An instruction changes the shared state and leaves the instructions that replace it. -/
abbrev Execution (Shared Instruction Choice : Type*) :=
  Choice → Instruction → Shared → Shared × List Instruction

/-- One thread executes one instruction. -/
def step (execute : Execution Shared Instruction Choice) (state : State Shared Instruction)
    (event : Event Choice) : Option (State Shared Instruction) :=
  match state.threads[event.thread]? with
  | some (instruction :: rest) =>
      let executed := execute event.choice instruction state.shared
      some ⟨executed.1, state.threads.set event.thread (executed.2 ++ rest)⟩
  | _ => none

/-- The instructions that are still to be executed. -/
def State.pending (state : State Shared Instruction) : List Instruction := state.threads.flatten

def State.Finished (state : State Shared Instruction) : Prop :=
  ∀ thread ∈ state.threads, thread = []

theorem State.Finished.pending {state : State Shared Instruction} (finished : state.Finished) :
    state.pending = [] := List.flatten_eq_nil_iff.mpr finished

variable {execute : Execution Shared Instruction Choice} {state next : State Shared Instruction}
  {event : Event Choice}

/-- A step replaces one pending instruction. -/
theorem step_cases (stepped : step execute state event = some next) :
    ∃ instruction others, state.pending.Perm (others ++ [instruction]) ∧
      next.shared = (execute event.choice instruction state.shared).1 ∧
      next.pending.Perm (others ++ (execute event.choice instruction state.shared).2) := by
  rw [step] at stepped
  split at stepped
  next instruction rest own =>
    rcases List.getElem?_eq_some_iff.mp own with ⟨bound, own⟩
    cases Option.some.inj stepped
    rcases List.exists_of_set bound with ⟨before, after, split, -, updated⟩
    refine ⟨instruction, before.flatten ++ (rest ++ after.flatten), ?_, rfl, ?_⟩
    · rw [State.pending, split, own, List.flatten_append, List.flatten_cons, List.cons_append]
      exact List.perm_middle.trans (List.perm_append_singleton _ _).symm
    · rw [State.pending, updated, List.flatten_append, List.flatten_cons, List.append_assoc]
      exact (List.perm_append_comm_assoc _ _ _).trans List.perm_append_comm
  next => cases stepped

/-- An observation that no instruction decreases does not decrease along a run. -/
theorem run_monotone {Observed : Type*} [Preorder Observed] (observe : Shared → Observed)
    (increasing : ∀ choice instruction shared,
      observe shared ≤ observe (execute choice instruction shared).1)
    {start finish : State Shared Instruction} {schedule : List (Event Choice)}
    (ran : Transition.run (step execute) start schedule = some finish) :
    observe start.shared ≤ observe finish.shared :=
  Transition.run_monotone (fun state : State Shared Instruction => observe state.shared)
    (fun stepped => by
      rcases step_cases stepped with ⟨instruction, -, -, shared, -⟩
      rw [shared]
      exact increasing _ _ _) ran

/-! ## Accounts -/

/-- What the shared state holds and what each instruction owes, under an operation that may
be taken in any order. -/
structure Account (execute : Execution Shared Instruction Choice) {M : Type*}
    (op : M → M → M) where
  held : Shared → M
  owed : Instruction → M
  kept : ∀ choice instruction shared,
    ((execute choice instruction shared).2.map owed).foldr op
        (held (execute choice instruction shared).1) =
      op (owed instruction) (held shared)

namespace Account

variable {M : Type*} {op : M → M → M} [Std.Associative op] [Std.Commutative op]
  (account : Account execute op)

/-- What is held and owed together. -/
def total (state : State Shared Instruction) : M :=
  (state.pending.map account.owed).foldr op (account.held state.shared)

theorem step_total (stepped : step execute state event = some next) :
    account.total next = account.total state := by
  rcases step_cases stepped with ⟨instruction, others, before, shared, after⟩
  have kept := account.kept event.choice instruction state.shared
  calc account.total next
    _ = ((others ++ (execute event.choice instruction state.shared).2).map account.owed).foldr op
          (account.held (execute event.choice instruction state.shared).1) := by
        rw [total, (after.map account.owed).foldr_op_eq, shared]
    _ = ((others ++ [instruction]).map account.owed).foldr op (account.held state.shared) := by
        rw [List.map_append, List.foldr_append, kept, List.map_append, List.foldr_append]
        rfl
    _ = account.total state := ((before.map account.owed).foldr_op_eq).symm

/-- A run keeps the total. -/
theorem run_total {start finish : State Shared Instruction} {schedule : List (Event Choice)}
    (ran : Transition.run (step execute) start schedule = some finish) :
    account.total finish = account.total start :=
  Transition.run_invariant (fun state => account.total state = account.total start)
    (fun stepped kept => (account.step_total stepped).trans kept) ran rfl

/-- At the end the shared state holds everything. -/
theorem held_of_finished {start finish : State Shared Instruction} {schedule : List (Event Choice)}
    (ran : Transition.run (step execute) start schedule = some finish)
    (finished : finish.Finished) : account.held finish.shared = account.total start := by
  rw [← account.run_total ran, total, finished.pending]
  rfl

/-! ## Threads that make calls -/

variable {Call : Type*} {operations : Call → List Instruction} {due : Call → M}

omit [Std.Associative op] [Std.Commutative op] in
theorem foldr_operations
    (owes : ∀ call base, ((operations call).map account.owed).foldr op base = op (due call) base)
    (calls : List Call) (base : M) :
    ((calls.flatMap operations).map account.owed).foldr op base =
      (calls.map due).foldr op base := by
  induction calls with
  | nil => rfl
  | cons call calls ih =>
      rw [List.flatMap_cons, List.map_append, List.foldr_append, ih, owes]
      rfl

omit [Std.Associative op] [Std.Commutative op] in
/-- Threads that make calls one after another owe what each call is due. -/
theorem total_calls
    (owes : ∀ call base, ((operations call).map account.owed).foldr op base = op (due call) base)
    (shared : Shared) (calls : List (List Call)) :
    account.total ⟨shared, calls.map fun thread => thread.flatMap operations⟩ =
      (calls.flatten.map due).foldr op (account.held shared) := by
  have pending : (calls.map fun thread => thread.flatMap operations).flatten =
      calls.flatten.flatMap operations := by
    rw [List.flatMap_def, List.map_flatten, List.flatten_flatten, List.map_map]
    rfl
  rw [total, State.pending, pending, account.foldr_operations owes]

end Account

end Interleaving
