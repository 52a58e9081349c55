import RmdCanSdk.Library.LatestValue
import RmdCanSdk.SnapshotBuffer.Invariant

/-!
# Ownership, order and freshness of the snapshot buffer

The two guarantees the realtime threads rely on, for every interleaving of one
producer and one consumer: the consumer never copies a slot the producer is
writing, so every read is one whole published value, and reads never go back to
an older value. The last section states both at once, as a simulation of the
concurrent buffer by an atomic latest-value channel.
-/

namespace RmdCanSdk.SnapshotBuffer

variable {Field Value : Type} [DecidableEq Field] [Fintype Field]

/-- In every reachable state the producer, the consumer and `latest_` own three
different slots, so no slot is copied while it is being written, and every
completed read returned one value that was passed whole to some publish, or the
initial value. -/
theorem slots_distinct_and_reads_whole (initial : Frame Field Value)
    (schedule : List (Action Field Value)) (state : State Field Value)
    (ran : Transition.run step (State.start initial) schedule = some state)
    (few : state.published.length < 2 ^ 62) :
    SlotsDistinct state.producerSlot state.consumerSlot state.latestSlot ∧
      (∀ value unwritten call uncopied,
        state.producer = .writing value unwritten →
        state.consumer = .copying call uncopied →
        state.writing ≠ state.reading) ∧
      ∀ reading ∈ state.returned, ∃ frame ∈ initial :: state.published,
        ∀ field, (reading.out field).value = frame field := by
  have inv := Inv.reachable ran few
  refine ⟨inv.slots, ?_, ?_⟩
  · intro value unwritten call uncopied writing copying
    have apart := inv.slots.producer_ne_consumer
    simpa only [State.producerSlot, State.consumerSlot, writing, copying] using apart
  · intro reading member
    rcases inv.history.entry member with ⟨number, entry⟩
    rcases entry.whole with ⟨frame, selected, fields⟩
    exact ⟨frame, List.mem_of_getElem? selected, fun field => by rw [fields field]⟩

/-- A publish completes between the load and the compare-exchange of a read: the
first attempt fails and the second one takes the newer frame. -/
def overtakenRead : List (Action Bool Nat) :=
  [.startPublish fun _ => 1, .writeField true, .writeField false, .exchange,
    .startRead fun _ => ⟨9, 9⟩, .load, .finishPublish,
    .startPublish fun _ => 2, .writeField false, .writeField true, .exchange,
    .compareExchange false, .load, .compareExchange false, .finishPublish,
    .startPublish fun _ => 3, .take, .copyField true, .writeField true,
    .copyField false, .finishRead]

theorem slots_distinct_and_reads_whole_overtaken :
    let state := (Transition.run step (State.start fun _ => 0) overtakenRead).get
      (by decide)
    SlotsDistinct state.producerSlot state.consumerSlot state.latestSlot ∧
      ∀ reading ∈ state.returned, ∃ frame ∈ (fun _ => 0) :: state.published,
        ∀ field, (reading.out field).value = frame field := by
  intro state
  have guaranteed := slots_distinct_and_reads_whole (fun _ => 0) overtakenRead state
    (Option.some_get _).symm (by decide)
  exact ⟨guaranteed.1, guaranteed.2.2⟩

/-- Successive reads return publishes of non-decreasing number, never one whose
exchange has not happened. A read that saw no exchange and did not fail all three
attempts returns the publish exchanged most recently, which is the last one when the
producer has stopped. -/
theorem reads_ordered_and_fresh (initial : Frame Field Value)
    (schedule : List (Action Field Value)) (state : State Field Value)
    (ran : Transition.run step (State.start initial) schedule = some state)
    (few : state.published.length < 2 ^ 62) :
    (∃ numbers : List Nat,
      List.Forall₂ (Returned (initial :: state.published)) state.returned numbers ∧
        numbers.Pairwise (· ≤ ·) ∧ ∀ number ∈ numbers, number ≤ state.exchanges) ∧
      ∀ reading ∈ state.returned,
        reading.exchangesBefore = reading.exchangesAfter → reading.failedAttempts < 3 →
        ∃ newest, (initial :: state.published)[reading.exchangesAfter]? = some newest ∧
          (∀ field, (reading.out field).value = newest field) ∧
          (reading.exchangesAfter = state.published.length →
            (initial :: state.published).getLast? = some newest) := by
  have inv := Inv.reachable ran few
  constructor
  · rcases inv.history with ⟨numbers, matched, sorted, bounded⟩
    exact ⟨numbers, matched, sorted, fun number member =>
      (bounded number member).trans inv.consumer_le⟩
  · intro reading member quiet fewer
    rcases inv.history.entry member with ⟨number, entry⟩
    rcases entry.whole with ⟨newest, selected, fields⟩
    rw [entry.fresh quiet fewer] at selected
    refine ⟨newest, selected, fun field => by rw [fields field], ?_⟩
    intro stopped
    rw [stopped] at selected
    rw [List.getLast?_eq_getElem?, ← selected]
    simp

theorem reads_ordered_and_fresh_overtaken :
    let state := (Transition.run step (State.start fun _ => 0) overtakenRead).get
      (by decide)
    ∃ numbers : List Nat,
      List.Forall₂ (Returned ((fun _ => 0) :: state.published)) state.returned numbers ∧
        numbers.Pairwise (· ≤ ·) ∧ ∀ number ∈ numbers, number ≤ state.exchanges := by
  intro state
  exact (reads_ordered_and_fresh (fun _ => 0) overtakenRead state
    (Option.some_get _).symm (by decide)).1

/-! ## Simulation by an atomic channel -/

/-- The buffer and the channel agree on the values exchanged so far, on what the
last completed read returned, and on how far the reader has advanced. -/
structure Abstracts (initial : Frame Field Value) (state : State Field Value)
    (channel : LatestValue (Frame Field Value)) : Prop where
  inv : Inv initial state
  values : channel.values = (initial :: state.published).take (state.exchanges + 1)
  position : channel.position ≤ state.consumerVersion.toNat
  returned : ∀ reading, state.returned.getLast? = some reading →
    (fun field => (reading.out field).value) = channel.current

/-- Actions the channel does not see. -/
def Action.isQuiet : Action Field Value → Bool
  | .startPublish _ | .exchange | .finishRead => false
  | _ => true

/-- The channel events an action stands for: the exchange is the publish, the
return of `readInto` is the read. -/
def channelEvents (state : State Field Value) :
    Action Field Value → List (LatestValue.Event (Frame Field Value))
  | .exchange =>
      match state.producer with
      | .writing value _ => [.publish value]
      | _ => []
  | .finishRead => [.read state.readVersion.toNat]
  | _ => []

/-- The steps of the buffer as long as fewer than `2 ^ 62` publishes have begun. -/
def fewPublishes (state : State Field Value) (action : Action Field Value) :
    Option (State Field Value) :=
  (step state action).filter fun next => next.published.length < 2 ^ 62

variable {initial : Frame Field Value} {state next : State Field Value}
variable {action : Action Field Value}

theorem step_quiet (quiet : action.isQuiet = true)
    (stepped : step state action = some next) :
    next.published = state.published ∧ next.exchanges = state.exchanges ∧
      next.returned = state.returned := by
  cases action <;> simp only [Action.isQuiet, Bool.false_eq_true] at quiet <;>
    simp only [step] at stepped <;> split at stepped <;>
    (try split at stepped) <;> cases stepped <;> exact ⟨rfl, rfl, rfl⟩

/-- The consumer never gives up a newer slot for an older one. -/
theorem consumerVersion_le (inv : Inv initial state)
    (stepped : step state action = some next) :
    state.consumerVersion.toNat ≤ next.consumerVersion.toNat := by
  cases action with
  | compareExchange spurious =>
      simp only [step] at stepped
      split at stepped
      next call observed loaded =>
        split at stepped
        next succeeded =>
          cases stepped
          change _ ≤ (stateVersion observed).toNat
          rw [← succeeded.1, inv.version]
          exact inv.consumer_le
        next failed =>
          cases stepped
          have kept : { state with consumer := retry call }.consumerVersion =
              state.readVersion := by
            rw [retry]
            split <;> rfl
          rw [kept]
          simp only [State.consumerVersion, loaded, Nat.le_refl]
      next => contradiction
  | _ =>
      simp only [step] at stepped
      split at stepped <;> (try split at stepped) <;> cases stepped <;>
        simp_all only [State.consumerVersion, le_refl]

omit [DecidableEq Field] [Fintype Field] in
theorem Abstracts.start (initial : Frame Field Value) :
    Abstracts initial (State.start initial) (LatestValue.start initial) where
  inv := Inv.start initial
  values := rfl
  position := Nat.zero_le _
  returned := by simp [State.start]

theorem Abstracts.quiet {channel : LatestValue (Frame Field Value)}
    (abstracts : Abstracts initial state channel) (inv : Inv initial next)
    (quiet : action.isQuiet = true) (stepped : step state action = some next) :
    Abstracts initial next channel := by
  rcases step_quiet quiet stepped with ⟨published, exchanges, returned⟩
  exact {
    inv := inv
    values := by rw [published, exchanges, abstracts.values]
    position := abstracts.position.trans (consumerVersion_le abstracts.inv stepped)
    returned := by
      rw [returned]
      exact abstracts.returned }

theorem Abstracts.startPublish {channel : LatestValue (Frame Field Value)}
    {value : Frame Field Value} (abstracts : Abstracts initial state channel)
    (inv : Inv initial next) (stepped : step state (.startPublish value) = some next) :
    Abstracts initial next channel := by
  have version := consumerVersion_le abstracts.inv stepped
  have started := inv.exchanges_le
  simp only [step] at stepped
  split at stepped
  next idle =>
    cases stepped
    have count : state.published.length = state.exchanges := by
      have producer := abstracts.inv.producer
      simp only [ProducerInv, idle] at producer
      exact producer.2
    exact {
      inv := inv
      values := by
        rw [abstracts.values, ← List.cons_append, List.take_append_of_le_length]
        simp [count]
      position := abstracts.position.trans version
      returned := abstracts.returned }
  next => contradiction

/-- The exchange publishes the producer's whole value on the channel. -/
theorem Abstracts.exchange {channel : LatestValue (Frame Field Value)}
    (abstracts : Abstracts initial state channel)
    (inv : Inv initial next) (stepped : step state .exchange = some next) :
    ∃ channelNext,
      Transition.run LatestValue.step channel (channelEvents state .exchange) =
        some channelNext ∧
      Abstracts initial next channelNext := by
  have version := consumerVersion_le abstracts.inv stepped
  simp only [step] at stepped
  split at stepped
  next value remaining writing =>
    split at stepped
    next complete =>
      cases stepped
      obtain ⟨-, -, selected, -⟩ :
          state.writeVersion.toNat = state.exchanges ∧
          state.published.length = state.exchanges + 1 ∧
          state.published[state.exchanges]? = some value ∧
          ∀ field ∉ remaining,
            state.buffers state.writing field = ⟨value field, state.exchanges + 1⟩ := by
        simpa only [ProducerInv, writing] using abstracts.inv.producer
      refine ⟨channel.publish value, by simp only [channelEvents, writing]; rfl, ?_⟩
      exact {
        inv := inv
        values := by
          change channel.values ++ [value] =
            (initial :: state.published).take (state.exchanges + 1 + 1)
          conv_rhs => rw [List.take_add_one, List.getElem?_cons_succ, selected]
          rw [abstracts.values]
          rfl
        position := abstracts.position.trans version
        returned := fun reading last => by
          rw [LatestValue.current_publish]
          exact abstracts.returned reading last }
    next => contradiction
  next => contradiction

/-- The return of `readInto` reads the channel at the version just copied. -/
theorem Abstracts.finishRead {channel : LatestValue (Frame Field Value)}
    (abstracts : Abstracts initial state channel)
    (inv : Inv initial next) (stepped : step state .finishRead = some next) :
    ∃ channelNext,
      Transition.run LatestValue.step channel (channelEvents state .finishRead) =
        some channelNext ∧
      Abstracts initial next channelNext := by
  simp only [step] at stepped
  split at stepped
  next call remaining copying =>
    split at stepped
    next complete =>
      cases stepped
      subst complete
      obtain ⟨-, copied⟩ :
          (call.attempt < 3 → call.exchangesBefore ≤ state.readVersion.toNat) ∧
          ∀ field ∉ (∅ : Finset Field),
            call.out field = state.buffers state.reading field := by
        simpa only [ConsumerInv, copying] using abstracts.inv.consumer
      have position := abstracts.position
      have seen := abstracts.inv.consumer_le
      have holds := abstracts.inv.consumer_holds
      simp only [State.consumerVersion, State.consumerSlot, copying] at position seen holds
      rcases holds with ⟨frame, selected, fields⟩
      have listed : channel.values[state.readVersion.toNat]? = some frame := by
        rw [abstracts.values, List.getElem?_take_of_lt (by omega), selected]
      have inBounds := (List.getElem?_eq_some_iff.mp listed).1
      refine ⟨⟨channel.values, state.readVersion.toNat, inBounds⟩, ?_, ?_⟩
      · simp only [channelEvents, Transition.run_singleton, LatestValue.step]
        rw [dif_pos ⟨position, inBounds⟩]
      · exact {
          inv := inv
          values := abstracts.values
          position := le_rfl
          returned := fun reading last => by
            simp only [List.getLast?_append, List.getLast?_singleton,
              Option.some_or, Option.some.injEq] at last
            subst last
            funext field
            rw [LatestValue.current_eq listed]
            exact congrArg Cell.value
              ((copied field (Finset.notMem_empty field)).trans (fields field)) }
    next => contradiction
  next => contradiction

/-- The buffer refines an atomic channel: whatever the schedule, its exchanges and
its completed reads are publishes and reads of a latest-value channel. -/
def channelSimulation (initial : Frame Field Value) :
    Transition.Simulation (@fewPublishes Field Value _ _)
      LatestValue.step (Abstracts initial) where
  label := channelEvents
  simulates := by
    intro state next action channel abstracts stepped
    rcases Option.filter_eq_some_iff.mp stepped with ⟨stepped, few⟩
    have inv := abstracts.inv.step stepped (of_decide_eq_true few)
    cases action with
    | startPublish value => exact ⟨channel, rfl, abstracts.startPublish inv stepped⟩
    | exchange => exact abstracts.exchange inv stepped
    | finishRead => exact abstracts.finishRead inv stepped
    | _ => exact ⟨channel, rfl, abstracts.quiet inv rfl stepped⟩

/-- Every run of the buffer is matched by a run of the channel whose reader stands
at the value the last `readInto` returned. -/
theorem refines_latestValue (initial : Frame Field Value)
    (schedule : List (Action Field Value)) (state : State Field Value)
    (ran : Transition.run fewPublishes (State.start initial) schedule = some state) :
    ∃ trace channel,
      Transition.run LatestValue.step (LatestValue.start initial) trace = some channel ∧
        Abstracts initial state channel :=
  (channelSimulation initial).run (Abstracts.start initial) ran

end RmdCanSdk.SnapshotBuffer
