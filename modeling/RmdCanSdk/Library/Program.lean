import RmdCanSdk.Library.Transition

/-!
# Programs that call their environment

A program is a tree: it makes a call, and what it does next depends on the response. The rules
of an environment say which calls are allowed in a state, which responses are possible, and
what they do to the state. Safety of a program is its weakest precondition: all calls it ever
makes are allowed, and where it ends, a postcondition holds.
-/

/-- A program with results of a type. It may also never get on, as a loop that does not end. -/
inductive Program (Call : Type) (Response : Call → Type) (α : Type) where
  | done (value : α)
  | ask (call : Call) (next : Response call → Program Call Response α)
  | hang

namespace Program

variable {Call : Type} {Response : Call → Type} {α β : Type}

def bind : Program Call Response α → (α → Program Call Response β) → Program Call Response β
  | .done value, next => next value
  | .ask call rest, next => .ask call fun response => (rest response).bind next
  | .hang, _ => .hang

instance : Monad (Program Call Response) where
  pure := .done
  bind := .bind

def perform (call : Call) : Program Call Response (Response call) := .ask call .done

/-- A program that is only executed under a condition. -/
def when (condition : Bool) (program : Program Call Response Unit) : Program Call Response Unit :=
  if condition then program else .done ()

/-! ## Rules -/

/-- An environment. Responses also depend on the states of other users of the environment. -/
structure Rules (Call : Type) (Response : Call → Type) (State : Type) where
  allowed : State → Call → Prop
  /-- The state after a call, unless its response is impossible. -/
  perform : State → (call : Call) → Response call → Option State
  /-- Whether the state of another user leaves a response to a call from a state possible. -/
  admits : (state other : State) → (call : Call) → Response call → Bool

variable {State : Type} {rules : Rules Call Response State}

/-- Every call is allowed, and the postcondition holds at every end. -/
def Safe (rules : Rules Call Response State) :
    Program Call Response α → State → (α → State → Prop) → Prop
  | .done value, state, post => post value state
  | .ask call next, state, post =>
      rules.allowed state call ∧ ∀ response after,
        rules.perform state call response = some after → Safe rules (next response) after post
  | .hang, _, _ => True

namespace Safe

variable {program : Program Call Response α} {state : State} {post : α → State → Prop}

theorem mono {weaker : α → State → Prop} (safe : Safe rules program state post)
    (implies : ∀ value after, post value after → weaker value after) :
    Safe rules program state weaker := by
  induction program generalizing state with
  | done value => exact implies value state safe
  | ask call next ih =>
      exact ⟨safe.1, fun response after performed => ih response (safe.2 response after performed)⟩
  | hang => exact trivial

theorem bind {next : α → Program Call Response β} {post : β → State → Prop}
    (safe : Safe rules program state fun value after => Safe rules (next value) after post) :
    Safe rules (program >>= next) state post := by
  induction program generalizing state with
  | done value => exact safe
  | ask call rest ih =>
      exact ⟨safe.1, fun response after performed => ih response (safe.2 response after performed)⟩
  | hang => exact trivial

end Safe

/-! ## Traces -/

/-- Calls with their responses, in the order in which they were made. -/
abbrev Trace (Call : Type) (Response : Call → Type) := List ((call : Call) × Response call)

/-- What a program does with some answers, and what is left of it after them. -/
def run : Program Call Response α → List ((call : Call) → Response call) →
    Trace Call Response × Program Call Response α
  | .ask call next, answer :: answers =>
      let (trace, rest) := (next (answer call)).run answers
      (⟨call, answer call⟩ :: trace, rest)
  | program, _ => ([], program)

theorem run_ask (call : Call) (next : Response call → Program Call Response α)
    (answer : (call : Call) → Response call) (answers : List ((call : Call) → Response call)) :
    (ask call next).run (answer :: answers) =
      (⟨call, answer call⟩ :: ((next (answer call)).run answers).1,
        ((next (answer call)).run answers).2) := rfl

@[simp] theorem run_nil (program : Program Call Response α) : program.run [] = ([], program) := by
  cases program <;> rfl

@[simp] theorem run_done (value : α) (answers : List ((call : Call) → Response call)) :
    (done value : Program Call Response α).run answers = ([], .done value) := by
  cases answers <;> rfl

@[simp] theorem run_hang (answers : List ((call : Call) → Response call)) :
    (hang : Program Call Response α).run answers = ([], .hang) := by
  cases answers <;> rfl

/-- An environment that permits a call in view of what has been observed before it, and gives
any response. -/
def observing (observe : State → (call : Call) × Response call → State)
    (permitted : State → Call → Prop) : Rules Call Response State where
  allowed := permitted
  perform state call response := some (observe state ⟨call, response⟩)
  admits _ _ _ _ := true

section

variable {observe : State → (call : Call) × Response call → State}
variable {permitted : State → Call → Prop} {program : Program Call Response α} {state : State}

theorem safe_perform {call : Call} {post : Response call → State → Prop}
    (isPermitted : permitted state call)
    (holds : ∀ response, post response (observe state ⟨call, response⟩)) :
    Safe (observing observe permitted) (perform call) state post := by
  refine ⟨isPermitted, ?_⟩
  rintro response _ ⟨⟩
  exact holds response

variable {post : α → State → Prop}

/-- Every call of a safe program is permitted in view of the trace before it. -/
theorem Safe.permitted_run (safe : Safe (observing observe permitted) program state post)
    (answers : List ((call : Call) → Response call)) {before after : Trace Call Response}
    {event : (call : Call) × Response call}
    (split : (program.run answers).1 = before ++ event :: after) :
    permitted (before.foldl observe state) event.1 := by
  have nonempty : before ++ event :: after ≠ [] :=
    List.append_ne_nil_of_right_ne_nil _ (List.cons_ne_nil _ _)
  induction program generalizing state answers before with
  | done value =>
      rw [run_done] at split
      exact absurd split.symm nonempty
  | hang =>
      rw [run_hang] at split
      exact absurd split.symm nonempty
  | ask call next ih =>
      cases answers with
      | nil =>
          rw [run_nil] at split
          exact absurd split.symm nonempty
      | cons answer answers =>
          rw [run_ask] at split
          cases before with
          | nil =>
              cases (List.cons.inj split).1
              exact safe.1
          | cons first before =>
              rcases List.cons.inj split with ⟨rfl, later⟩
              exact ih _ (safe.2 _ _ rfl) answers later
                (List.append_ne_nil_of_right_ne_nil _ (List.cons_ne_nil _ _))

/-- What permitted calls keep holds at any time. -/
theorem Safe.invariant_run {good : State → Prop}
    (kept : ∀ {state call} response, permitted state call → good state →
      good (observe state ⟨call, response⟩))
    (safe : Safe (observing observe permitted) program state post) (initially : good state)
    (answers : List ((call : Call) → Response call)) :
    good ((program.run answers).1.foldl observe state) := by
  induction program generalizing state answers with
  | done value => rwa [run_done]
  | hang => rwa [run_hang]
  | ask call next ih =>
      cases answers with
      | nil => exact initially
      | cons answer answers => exact ih _ (safe.2 _ _ rfl) (kept _ safe.1 initially) answers

/-- Where a safe program has ended, its postcondition holds after the whole trace. -/
theorem Safe.post_run (safe : Safe (observing observe permitted) program state post)
    (answers : List ((call : Call) → Response call)) {value : α}
    (ended : (program.run answers).2 = .done value) :
    post value ((program.run answers).1.foldl observe state) := by
  induction program generalizing state answers with
  | done result =>
      rw [run_done] at ended ⊢
      cases ended
      exact safe
  | hang =>
      rw [run_hang] at ended
      contradiction
  | ask call next ih =>
      cases answers with
      | nil => contradiction
      | cons answer answers => exact ih _ (safe.2 _ _ rfl) answers ended

end

/-! ## Methods -/

/-- A program that reads and writes the fields of an object, and may end with an exception. -/
def Method (Call : Type) (Response : Call → Type) (Object Exit α : Type) : Type :=
  Object → Program Call Response (Except Exit α × Object)

namespace Method

variable {Object Exit : Type}

def bind (method : Method Call Response Object Exit α)
    (next : α → Method Call Response Object Exit β) : Method Call Response Object Exit β :=
  fun object => do
    match ← method object with
    | (.ok value, object) => next value object
    | (.error exit, object) => return (.error exit, object)

instance : Monad (Method Call Response Object Exit) where
  pure value object := return (.ok value, object)
  bind := bind

def get : Method Call Response Object Exit Object := fun object => return (.ok object, object)

def modify (change : Object → Object) : Method Call Response Object Exit Unit :=
  fun object => return (.ok (), change object)

def throw (exit : Exit) : Method Call Response Object Exit α :=
  fun object => return (.error exit, object)

def when (condition : Bool) (method : Method Call Response Object Exit Unit) :
    Method Call Response Object Exit Unit :=
  if condition then method else pure ()

/-- A program that does not use the object. -/
def lift (program : Program Call Response α) : Method Call Response Object Exit α :=
  fun object => do return (.ok (← program), object)

/-- A program that leaves a new object. -/
def update (program : Object → Program Call Response (α × Object)) :
    Method Call Response Object Exit α :=
  fun object => do
    let (value, object) ← program object
    return (.ok value, object)

variable {method : Method Call Response Object Exit α} {object : Object} {state : State}

theorem safe_bind {next : α → Method Call Response Object Exit β}
    {post : Except Exit β × Object → State → Prop}
    (safe : Safe rules (method object) state fun result after =>
      match result with
      | (.ok value, object) => Safe rules (next value object) after post
      | (.error exit, object) => post (.error exit, object) after) :
    Safe rules ((method >>= next) object) state post := by
  apply Safe.bind
  apply safe.mono
  rintro ⟨result, object⟩ after holds
  cases result with
  | ok value => exact holds
  | error exit => exact holds

theorem safe_lift {program : Program Call Response α}
    {post : Except Exit α × Object → State → Prop}
    (safe : Safe rules program state fun value after => post (.ok value, object) after) :
    Safe rules (lift program object) state post :=
  Safe.bind safe

theorem safe_update {program : Object → Program Call Response (α × Object)}
    {post : Except Exit α × Object → State → Prop}
    (safe : Safe rules (program object) state fun result after =>
      post (.ok result.1, result.2) after) :
    Safe rules (update program object) state post :=
  Safe.bind safe

end Method

/-! ## Processes -/

/-- An object whose operations are programs, the part of the environment that belongs to it,
and the operation in progress. -/
structure Process (Call : Type) (Response : Call → Type) (Object State : Type) where
  object : Object
  state : State
  pending : Option (Program Call Response Object)

/-- The end of an operation. -/
def Process.finish {Object State : Type} (process : Process Call Response Object State) :
    Option (Process Call Response Object State) :=
  match process.pending with
  | some (.done object) => some { process with object := object, pending := none }
  | _ => none

/-- Operations begin, proceed by one call and end; an object can be destroyed at any time, with
what belongs to it. -/
inductive Event (Call : Type) (Response : Call → Type) (Operation : Type) where
  | begin (process : Nat) (operation : Operation)
  | proceed (process : Nat) (answer : (call : Call) → Response call)
  | finish (process : Nat)
  | exit (process : Nat)

/-- Objects of a kind, and how they start out. -/
structure System (Call : Type) (Response : Call → Type) (Object State Operation : Type) where
  rules : Rules Call Response State
  fresh : Object
  start : State
  /-- The program of an operation, unless the object is not in a state for it. -/
  operate : Operation → Object → Option (Program Call Response Object)

namespace System

variable {Object Operation : Type} (system : System Call Response Object State Operation)

/-- A process before anything has happened. -/
def idle : Process Call Response Object State := ⟨system.fresh, system.start, none⟩

/-- An operation begins when none is in progress. -/
def begin (process : Process Call Response Object State) (operation : Operation) :
    Option (Process Call Response Object State) :=
  match process.pending with
  | none => (system.operate operation process.object).map fun program =>
      { process with pending := some program }
  | some _ => none

/-- The next call of a process, with a response that the others leave possible. -/
def proceed (process : Process Call Response Object State)
    (others : List (Process Call Response Object State)) (answer : (call : Call) → Response call) :
    Option (Process Call Response Object State) :=
  match process.pending with
  | some (.ask call next) =>
      if others.all fun other =>
          system.rules.admits process.state other.state call (answer call) then
        (system.rules.perform process.state call (answer call)).map fun after =>
          { process with state := after, pending := some (next (answer call)) }
      else none
  | _ => none

/-- What becomes of the process of an event, in view of the others. -/
def react (process : Process Call Response Object State)
    (others : List (Process Call Response Object State)) :
    Event Call Response Operation → Option (Process Call Response Object State)
  | .begin _ operation => system.begin process operation
  | .proceed _ answer => system.proceed process others answer
  | .finish _ => process.finish
  | .exit _ => some system.idle

end System

def Event.process {Operation : Type} : Event Call Response Operation → Nat
  | .begin process _ | .proceed process _ | .finish process | .exit process => process

namespace System

variable {Object Operation : Type} (system : System Call Response Object State Operation)

def step (processes : List (Process Call Response Object State))
    (event : Event Call Response Operation) : Option (List (Process Call Response Object State)) :=
  processes[event.process]?.bind fun process =>
    (system.react process (processes.eraseIdx event.process) event).map fun process =>
      processes.set event.process process

/-- Any number of processes before anything has happened. -/
def boot (count : Nat) : List (Process Call Response Object State) :=
  List.replicate count system.idle

/-- What the operations keep: a relation of objects to what belongs to them between operations,
and a property of what belongs to them at any time. -/
structure Keeps (Idle : Object → State → Prop) (Always : State → Prop) : Prop where
  fresh : Idle system.fresh system.start
  start : Always system.start
  safe : ∀ {operation object program state}, system.operate operation object = some program →
    Idle object state → Always state → Safe system.rules program state Idle
  always : ∀ {state call response after}, system.rules.allowed state call →
    system.rules.perform state call response = some after → Always state → Always after

/-- What holds of a process at any time. -/
structure Sound (Idle : Object → State → Prop) (Always : State → Prop)
    (process : Process Call Response Object State) : Prop where
  always : Always process.state
  idle : process.pending = none → Idle process.object process.state
  safe : ∀ program, process.pending = some program → Safe system.rules program process.state Idle

variable {system} {Idle : Object → State → Prop} {Always : State → Prop}

/-- The next call of a sound process is allowed. -/
theorem Sound.allowed {process : Process Call Response Object State}
    (sound : system.Sound Idle Always process) {call : Call}
    {next : Response call → Program Call Response Object}
    (pending : process.pending = some (.ask call next)) :
    system.rules.allowed process.state call := (sound.safe _ pending).1

theorem Keeps.sound_idle (keeps : system.Keeps Idle Always) :
    system.Sound Idle Always system.idle where
  always := keeps.start
  idle _ := keeps.fresh
  safe _ pending := by contradiction

/-- What a call in progress does, when it proceeds. -/
theorem proceed_eq_some {process after : Process Call Response Object State}
    {others : List (Process Call Response Object State)} {answer : (call : Call) → Response call}
    (proceeded : system.proceed process others answer = some after) :
    ∃ call next, process.pending = some (.ask call next) ∧
      (∀ other ∈ others,
        system.rules.admits process.state other.state call (answer call) = true) ∧
      system.rules.perform process.state call (answer call) = some after.state ∧
      after.object = process.object ∧ after.pending = some (next (answer call)) := by
  rw [proceed] at proceeded
  split at proceeded
  next call next pending =>
    split at proceeded
    next admitted =>
      rcases Option.map_eq_some_iff.mp proceeded with ⟨state, performed, rfl⟩
      exact ⟨call, next, pending, List.all_eq_true.mp admitted, performed, rfl, rfl⟩
    next => contradiction
  next => contradiction

theorem Keeps.sound_react (keeps : system.Keeps Idle Always)
    {process after : Process Call Response Object State}
    {others : List (Process Call Response Object State)} {event : Event Call Response Operation}
    (reacted : system.react process others event = some after)
    (sound : system.Sound Idle Always process) : system.Sound Idle Always after := by
  cases event with
  | begin index operation =>
      simp only [react, begin] at reacted
      split at reacted
      next idle =>
        rcases Option.map_eq_some_iff.mp reacted with ⟨program, operated, rfl⟩
        refine ⟨sound.always, fun pending => by contradiction, ?_⟩
        rintro _ ⟨⟩
        exact keeps.safe operated (sound.idle idle) sound.always
      next => contradiction
  | proceed index answer =>
      rcases proceed_eq_some reacted with ⟨call, next, pending, -, performed, -, continues⟩
      have safe := sound.safe _ pending
      refine ⟨keeps.always safe.1 performed sound.always, ?_, ?_⟩
      · intro idle
        rw [continues] at idle
        contradiction
      · intro program isPending
        rw [continues] at isPending
        cases isPending
        exact safe.2 _ _ performed
  | finish index =>
      simp only [react, Process.finish] at reacted
      split at reacted
      next object pending =>
        cases reacted
        exact ⟨sound.always, fun _ => sound.safe _ pending, fun _ pending => by contradiction⟩
      next => contradiction
  | exit index =>
      cases reacted
      exact keeps.sound_idle

theorem step_eq_some {processes after : List (Process Call Response Object State)}
    {event : Event Call Response Operation} (stepped : system.step processes event = some after) :
    ∃ process next, processes[event.process]? = some process ∧
      system.react process (processes.eraseIdx event.process) event = some next ∧
      after = processes.set event.process next := by
  rcases Option.bind_eq_some_iff.mp stepped with ⟨process, found, stepped⟩
  rcases Option.map_eq_some_iff.mp stepped with ⟨next, reacted, rfl⟩
  exact ⟨process, next, found, reacted, rfl⟩

theorem Keeps.sound_step (keeps : system.Keeps Idle Always)
    {processes after : List (Process Call Response Object State)}
    {event : Event Call Response Operation} (stepped : system.step processes event = some after)
    (sound : ∀ process ∈ processes, system.Sound Idle Always process) :
    ∀ process ∈ after, system.Sound Idle Always process := by
  intro process member
  rcases step_eq_some stepped with ⟨old, next, found, reacted, rfl⟩
  rcases List.mem_or_eq_of_mem_set member with unchanged | rfl
  · exact sound process unchanged
  · exact keeps.sound_react reacted (sound old (List.mem_of_getElem? found))

theorem Keeps.sound_boot (keeps : system.Keeps Idle Always) (count : Nat) :
    ∀ process ∈ system.boot count, system.Sound Idle Always process := by
  intro process member
  rw [List.eq_of_mem_replicate member]
  exact keeps.sound_idle

/-- All processes stay sound, in every interleaving. -/
theorem Keeps.sound_run (keeps : system.Keeps Idle Always) {count : Nat}
    {schedule : List (Event Call Response Operation)}
    {processes : List (Process Call Response Object State)}
    (ran : Transition.run system.step (system.boot count) schedule = some processes) :
    ∀ process ∈ processes, system.Sound Idle Always process :=
  Transition.run_invariant (fun processes => ∀ process ∈ processes,
    system.Sound Idle Always process) keeps.sound_step ran (keeps.sound_boot count)

/-! ## Relations between processes -/

/-- A symmetric relation between the parts of the environment that belong to two objects,
which the calls keep because the other one leaves only some responses possible. -/
structure Relates (Always : State → Prop) (Related : State → State → Prop) : Prop where
  symmetric : ∀ {state other}, Related state other → Related other state
  start : ∀ other, Related system.start other
  keeps : ∀ {state other call response after}, system.rules.allowed state call →
    Always other → system.rules.admits state other call response = true →
    system.rules.perform state call response = some after → Related state other →
    Related after other

/-- The relation holds between any two processes. -/
def Pairs (Related : State → State → Prop)
    (processes : List (Process Call Response Object State)) : Prop :=
  ∀ (i j : Nat) (process other : Process Call Response Object State), i ≠ j →
    processes[i]? = some process → processes[j]? = some other → Related process.state other.state

variable {Related : State → State → Prop}

/-- The process of an event stays related to another one. -/
theorem Relates.react (relates : system.Relates Always Related)
    {process after other : Process Call Response Object State}
    {others : List (Process Call Response Object State)} {event : Event Call Response Operation}
    (reacted : system.react process others event = some after)
    (sound : system.Sound Idle Always process) (member : other ∈ others)
    (always : Always other.state) (related : Related process.state other.state) :
    Related after.state other.state := by
  cases event with
  | begin index operation =>
      simp only [System.react, begin] at reacted
      split at reacted
      next =>
        rcases Option.map_eq_some_iff.mp reacted with ⟨program, -, rfl⟩
        exact related
      next => contradiction
  | proceed index answer =>
      rcases proceed_eq_some reacted with ⟨call, next, pending, admitted, performed, -⟩
      exact relates.keeps (sound.allowed pending) always (admitted other member) performed related
  | finish index =>
      simp only [System.react, Process.finish] at reacted
      split at reacted
      next =>
        cases reacted
        exact related
      next => contradiction
  | exit index =>
      cases reacted
      exact relates.start other.state

theorem Relates.step (relates : system.Relates Always Related)
    {processes after : List (Process Call Response Object State)}
    {event : Event Call Response Operation} (stepped : system.step processes event = some after)
    (sound : ∀ process ∈ processes, system.Sound Idle Always process)
    (related : Pairs Related processes) : Pairs Related after := by
  rcases step_eq_some stepped with ⟨old, next, found, reacted, rfl⟩
  have toOthers : ∀ j other, event.process ≠ j → processes[j]? = some other →
      Related next.state other.state := by
    intro j other apart isOther
    have member : other ∈ processes.eraseIdx event.process :=
      List.mem_eraseIdx_iff_getElem?.mpr ⟨j, apart.symm, isOther⟩
    exact relates.react reacted (sound old (List.mem_of_getElem? found)) member
      (sound other (List.mem_of_getElem? isOther)).always
      (related _ j old other apart found isOther)
  intro i j process other apart isProcess isOther
  rw [List.getElem?_set] at isProcess isOther
  split at isProcess
  next first =>
    rw [if_neg fun second => apart (first.symm.trans second)] at isOther
    split at isProcess
    · cases isProcess
      exact toOthers j other (first ▸ apart) isOther
    · contradiction
  next notFirst =>
    split at isOther
    next second =>
      split at isOther
      · cases isOther
        exact relates.symmetric (toOthers i process notFirst isProcess)
      · contradiction
    next => exact related i j process other apart isProcess isOther

/-- The relation holds in every interleaving. -/
theorem Relates.run (relates : system.Relates Always Related) (keeps : system.Keeps Idle Always)
    {count : Nat} {schedule : List (Event Call Response Operation)}
    {processes : List (Process Call Response Object State)}
    (ran : Transition.run system.step (system.boot count) schedule = some processes) :
    Pairs Related processes := by
  have both := Transition.run_invariant (fun processes =>
    (∀ process ∈ processes, system.Sound Idle Always process) ∧ Pairs Related processes)
    (fun stepped both => ⟨keeps.sound_step stepped both.1, relates.step stepped both.1 both.2⟩) ran
  apply (both ⟨keeps.sound_boot count, _⟩).2
  intro i j process other _ isProcess _
  rw [List.eq_of_mem_replicate (List.mem_of_getElem? isProcess)]
  exact relates.start other.state

end System

end Program
