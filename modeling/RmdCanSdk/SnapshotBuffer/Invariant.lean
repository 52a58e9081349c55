import RmdCanSdk.SnapshotBuffer.Model

/-!
# The invariant of the snapshot buffer

The three slots rotate between the producer, the consumer and `latest_`. The
invariant says who owns which slot at every intermediate point of both
operations, which publish each readable slot holds, and what the completed reads
have returned. Every atomic step preserves it as long as the 62-bit version does
not wrap.
-/

namespace RmdCanSdk.SnapshotBuffer

variable {Field Value : Type}

/-- `slot` holds, in every field, the value of publish number `number`. The list
`frames` starts with the initial value, which has number zero. -/
def Holds (frames : List (Frame Field Value)) (slot : Slot Field Value)
    (number : Nat) : Prop :=
  ∃ frame, frames[number]? = some frame ∧
    ∀ field, slot field = ⟨frame field, number⟩

theorem Holds.append {frames : List (Frame Field Value)} {slot : Slot Field Value}
    {number : Nat} (holds : Holds frames slot number)
    (more : List (Frame Field Value)) : Holds (frames ++ more) slot number := by
  rcases holds with ⟨frame, selected, fields⟩
  have inBounds : number < frames.length := (List.getElem?_eq_some_iff.mp selected).1
  exact ⟨frame, by rw [List.getElem?_append_left inBounds, selected], fields⟩

/-- What a completed `readInto` guarantees when it returned publish `number`. -/
structure Returned (frames : List (Frame Field Value))
    (reading : Reading Field Value) (number : Nat) : Prop where
  whole : Holds frames reading.out number
  notFuture : number ≤ reading.exchangesAfter
  /-- Without an exchange during the call, and unless all three attempts failed,
  the value is that of the most recent publish. -/
  fresh : reading.exchangesBefore = reading.exchangesAfter →
    reading.failedAttempts < 3 → number = reading.exchangesAfter

theorem Returned.append {frames : List (Frame Field Value)}
    {reading : Reading Field Value} {number : Nat}
    (returned : Returned frames reading number)
    (more : List (Frame Field Value)) : Returned (frames ++ more) reading number :=
  { returned with whole := returned.whole.append more }

/-- The completed reads returned publishes of non-decreasing number, none above
`bound`. -/
def History (frames : List (Frame Field Value))
    (returned : List (Reading Field Value)) (bound : Nat) : Prop :=
  ∃ numbers : List Nat, List.Forall₂ (Returned frames) returned numbers ∧
    numbers.Pairwise (· ≤ ·) ∧ ∀ number ∈ numbers, number ≤ bound

theorem History.append {frames : List (Frame Field Value)}
    {returned : List (Reading Field Value)} {bound : Nat}
    (history : History frames returned bound)
    (more : List (Frame Field Value)) : History (frames ++ more) returned bound := by
  rcases history with ⟨numbers, matched, sorted, bounded⟩
  exact ⟨numbers, matched.imp fun _ _ entry => entry.append more, sorted, bounded⟩

theorem History.mono {frames : List (Frame Field Value)}
    {returned : List (Reading Field Value)} {bound larger : Nat}
    (history : History frames returned bound) (le : bound ≤ larger) :
    History frames returned larger := by
  rcases history with ⟨numbers, matched, sorted, bounded⟩
  exact ⟨numbers, matched, sorted, fun number member => (bounded number member).trans le⟩

/-- Every completed read is accounted for. -/
theorem History.entry {frames : List (Frame Field Value)}
    {returned : List (Reading Field Value)} {bound : Nat}
    (history : History frames returned bound) {reading : Reading Field Value}
    (member : reading ∈ returned) : ∃ number, Returned frames reading number := by
  rcases history with ⟨numbers, matched, -, -⟩
  rcases List.forall₂_iff_get.mp matched with ⟨sameLength, entries⟩
  rcases List.mem_iff_getElem.mp member with ⟨index, inBounds, rfl⟩
  exact ⟨_, entries index inBounds (sameLength ▸ inBounds)⟩

/-- A read that returns publish `bound` extends the history. -/
theorem History.snoc {frames : List (Frame Field Value)}
    {returned : List (Reading Field Value)} {bound : Nat}
    (history : History frames returned bound) {reading : Reading Field Value}
    (entry : Returned frames reading bound) :
    History frames (returned ++ [reading]) bound := by
  rcases history with ⟨numbers, matched, sorted, bounded⟩
  refine ⟨numbers ++ [bound], List.rel_append matched (.cons entry .nil), ?_, ?_⟩
  · rw [List.pairwise_append]
    refine ⟨sorted, List.pairwise_singleton _ _, fun number member last lastMember => ?_⟩
    rw [List.mem_singleton.mp lastMember]
    exact bounded number member
  · intro number member
    rcases List.mem_append.mp member with old | new
    · exact bounded number old
    · exact (List.mem_singleton.mp new).le

/-! ## The invariant -/

/-- The producer's members and locals agree with the number of exchanges done. -/
def ProducerInv (state : State Field Value) : Prop :=
  match state.producer with
  | .idle =>
      state.writeVersion.toNat = state.exchanges ∧
        state.published.length = state.exchanges
  | .writing value remaining =>
      state.writeVersion.toNat = state.exchanges ∧
        state.published.length = state.exchanges + 1 ∧
        state.published[state.exchanges]? = some value ∧
        ∀ field ∉ remaining,
          state.buffers state.writing field = ⟨value field, state.exchanges + 1⟩
  | .exchanged nextVersion _ =>
      nextVersion.toNat = state.exchanges ∧ state.published.length = state.exchanges

/-- What the consumer has established so far in its current call. -/
def ConsumerInv (state : State Field Value) : Prop :=
  match state.consumer with
  | .idle => True
  | .attempting call => call.attempt < 3 ∧ call.exchangesBefore ≤ state.exchanges
  | .loaded call observed =>
      call.attempt < 3 ∧ call.exchangesBefore ≤ (stateVersion observed).toNat ∧
        (stateVersion observed).toNat ≤ state.exchanges ∧
        stateVersion observed ≠ state.readVersion
  | .taken call observed =>
      call.attempt < 3 ∧ call.exchangesBefore ≤ (stateVersion observed).toNat
  | .copying call remaining =>
      (call.attempt < 3 → call.exchangesBefore ≤ state.readVersion.toNat) ∧
        ∀ field ∉ remaining, call.out field = state.buffers state.reading field

/-- The producer's slot, the consumer's slot and the slot named by `latest_` are
three different slots of the array. -/
structure SlotsDistinct (producer consumer latest : Nat) : Prop where
  producer_lt : producer < 3
  consumer_lt : consumer < 3
  latest_lt : latest < 3
  producer_ne_consumer : producer ≠ consumer
  producer_ne_latest : producer ≠ latest
  consumer_ne_latest : consumer ≠ latest

/-- The exchange hands the producer the previous latest slot. -/
theorem SlotsDistinct.exchange {producer consumer latest : Nat}
    (slots : SlotsDistinct producer consumer latest) :
    SlotsDistinct latest consumer producer where
  producer_lt := slots.latest_lt
  consumer_lt := slots.consumer_lt
  latest_lt := slots.producer_lt
  producer_ne_consumer := slots.consumer_ne_latest.symm
  producer_ne_latest := slots.producer_ne_latest.symm
  consumer_ne_latest := slots.producer_ne_consumer.symm

/-- The compare-exchange hands the consumer the latest slot. -/
theorem SlotsDistinct.compareExchange {producer consumer latest : Nat}
    (slots : SlotsDistinct producer consumer latest) :
    SlotsDistinct producer latest consumer where
  producer_lt := slots.producer_lt
  consumer_lt := slots.latest_lt
  latest_lt := slots.consumer_lt
  producer_ne_consumer := slots.producer_ne_latest
  producer_ne_latest := slots.producer_ne_consumer
  consumer_ne_latest := slots.consumer_ne_latest.symm

structure Inv (initial : Frame Field Value) (state : State Field Value) : Prop where
  slots : SlotsDistinct state.producerSlot state.consumerSlot state.latestSlot
  version : (stateVersion state.latest).toNat = state.exchanges
  producer : ProducerInv state
  consumer : ConsumerInv state
  consumer_le : state.consumerVersion.toNat ≤ state.exchanges
  consumer_holds : Holds (initial :: state.published)
    (state.buffers state.consumerSlot) state.consumerVersion.toNat
  latest_holds : state.consumerVersion.toNat ≠ state.exchanges →
    Holds (initial :: state.published) (state.buffers state.latestSlot) state.exchanges
  history : History (initial :: state.published) state.returned
    state.consumerVersion.toNat

theorem Inv.start (initial : Frame Field Value) : Inv initial (State.start initial) where
  slots := show SlotsDistinct 1 2 (stateIndex (packState 0 0)) by
    constructor <;> decide
  version := show (stateVersion (packState 0 0)).toNat = 0 by decide
  producer := ⟨rfl, rfl⟩
  consumer := trivial
  consumer_le := by simp [State.start, State.consumerVersion]
  consumer_holds := ⟨initial, rfl, fun _ => rfl⟩
  latest_holds := fun differs => absurd rfl differs
  history := ⟨[], .nil, .nil, by simp⟩

/-- No more exchanges than publishes. -/
theorem Inv.exchanges_le {initial : Frame Field Value} {state : State Field Value}
    (inv : Inv initial state) : state.exchanges ≤ state.published.length := by
  have producer := inv.producer
  rw [ProducerInv] at producer
  split at producer <;> omega

/-! ## Preservation, one lemma per action -/

variable {initial : Frame Field Value} {state next : State Field Value}

/-- A producer step leaves the consumer's facts alone: the exchange count only
grows, and the slot the consumer may be copying is not the one written. -/
theorem ConsumerInv.frame (inv : ConsumerInv state)
    (consumer : next.consumer = state.consumer)
    (reading : next.reading = state.reading)
    (readVersion : next.readVersion = state.readVersion)
    (exchanges : state.exchanges ≤ next.exchanges)
    (kept : next.buffers state.consumerSlot = state.buffers state.consumerSlot) :
    ConsumerInv next := by
  rw [ConsumerInv] at inv ⊢
  rw [State.consumerSlot] at kept
  rw [consumer, reading, readVersion]
  cases position : state.consumer with
  | idle => trivial
  | attempting call =>
      simp only [position] at inv ⊢
      exact ⟨inv.1, inv.2.trans exchanges⟩
  | loaded call observed =>
      simp only [position] at inv ⊢
      rcases inv with ⟨few, started, seen, differs⟩
      exact ⟨few, started, seen.trans exchanges, differs⟩
  | taken call observed =>
      simp only [position] at inv ⊢
      exact inv
  | copying call remaining =>
      simp only [position] at inv kept ⊢
      rw [kept]
      exact inv

variable [DecidableEq Field] [Fintype Field]

/-- Publishes are only ever added. -/
theorem published_length_le {action : Action Field Value}
    (stepped : step state action = some next) :
    state.published.length ≤ next.published.length := by
  cases action <;> simp only [step] at stepped <;> split at stepped <;>
    (try split at stepped) <;> simp_all <;> subst stepped <;> simp

theorem Inv.startPublish {value : Frame Field Value} (inv : Inv initial state)
    (stepped : step state (.startPublish value) = some next) : Inv initial next := by
  simp only [step] at stepped
  split at stepped
  next idle =>
    cases stepped
    obtain ⟨written, count⟩ : state.writeVersion.toNat = state.exchanges ∧
        state.published.length = state.exchanges := by
      simpa only [ProducerInv, idle] using inv.producer
    have slots : SlotsDistinct state.writing state.consumerSlot state.latestSlot := by
      simpa only [State.producerSlot, idle] using inv.slots
    exact {
      slots := slots
      version := inv.version
      producer := ⟨written, by simp [count], by simp [← count], by simp⟩
      consumer := inv.consumer
      consumer_le := inv.consumer_le
      consumer_holds := inv.consumer_holds.append [value]
      latest_holds := fun differs => (inv.latest_holds differs).append [value]
      history := inv.history.append [value] }
  next => contradiction

theorem Inv.writeField {field : Field} (inv : Inv initial state)
    (stepped : step state (.writeField field) = some next) : Inv initial next := by
  simp only [step] at stepped
  split at stepped
  next value remaining writing =>
    split at stepped
    next pending =>
      cases stepped
      obtain ⟨written, count, selected, fields⟩ :
          state.writeVersion.toNat = state.exchanges ∧
          state.published.length = state.exchanges + 1 ∧
          state.published[state.exchanges]? = some value ∧
          ∀ field ∉ remaining,
            state.buffers state.writing field = ⟨value field, state.exchanges + 1⟩ := by
        simpa only [ProducerInv, writing] using inv.producer
      have slots : SlotsDistinct state.writing state.consumerSlot state.latestSlot := by
        simpa only [State.producerSlot, writing] using inv.slots
      -- Only the producer's own slot is written, so both readable slots keep their frame.
      have consumerKept : ∀ slot : Slot Field Value,
          Function.update state.buffers state.writing slot state.consumerSlot =
            state.buffers state.consumerSlot := fun slot =>
        Function.update_of_ne slots.producer_ne_consumer.symm _ _
      have latestKept : ∀ slot : Slot Field Value,
          Function.update state.buffers state.writing slot state.latestSlot =
            state.buffers state.latestSlot := fun slot =>
        Function.update_of_ne slots.producer_ne_latest.symm _ _
      exact {
        slots := slots
        version := inv.version
        producer := by
          refine ⟨written, count, selected, fun other absent => ?_⟩
          simp only [Function.update_self]
          by_cases same : other = field
          · subst same
            simp [count]
          · rw [Function.update_of_ne same]
            exact fields other fun member => absent (Finset.mem_erase.mpr ⟨same, member⟩)
        consumer := inv.consumer.frame rfl rfl rfl le_rfl (consumerKept _)
        consumer_le := inv.consumer_le
        consumer_holds := by
          change Holds _ (Function.update state.buffers state.writing _
            state.consumerSlot) _
          rw [consumerKept]
          exact inv.consumer_holds
        latest_holds := fun differs => by
          change Holds _ (Function.update state.buffers state.writing _
            state.latestSlot) _
          rw [latestKept]
          exact inv.latest_holds differs
        history := inv.history }
    next => contradiction
  next => contradiction

theorem Inv.exchange (inv : Inv initial state)
    (stepped : step state .exchange = some next)
    (few : next.published.length < 2 ^ 62) : Inv initial next := by
  simp only [step] at stepped
  split at stepped
  next value remaining writing =>
    split at stepped
    next complete =>
      cases stepped
      obtain ⟨written, count, selected, fields⟩ :
          state.writeVersion.toNat = state.exchanges ∧
          state.published.length = state.exchanges + 1 ∧
          state.published[state.exchanges]? = some value ∧
          ∀ field ∉ remaining,
            state.buffers state.writing field = ⟨value field, state.exchanges + 1⟩ := by
        simpa only [ProducerInv, writing] using inv.producer
      have slots : SlotsDistinct state.writing state.consumerSlot state.latestSlot := by
        simpa only [State.producerSlot, writing] using inv.slots
      simp only at few
      have bumped : (state.writeVersion + 1).toNat = state.exchanges + 1 := by
        rw [BitVec.toNat_add, written]
        simp only [BitVec.reduceToNat]
        omega
      have fits : (state.writeVersion + 1).toNat < 2 ^ 62 := by omega
      have inRange : state.writing < 4 := by have := slots.producer_lt; omega
      have indexed := stateIndex_packState fits inRange
      have versioned := stateVersion_packState fits inRange
      exact {
        slots := by
          change SlotsDistinct state.latestSlot state.consumerSlot
            (stateIndex (packState (state.writeVersion + 1) state.writing))
          rw [indexed]
          exact slots.exchange
        version := by simp only [versioned, bumped]
        producer := ⟨bumped, count⟩
        consumer := inv.consumer.frame rfl rfl rfl (Nat.le_succ _) rfl
        consumer_le := inv.consumer_le.trans (Nat.le_succ _)
        consumer_holds := inv.consumer_holds
        latest_holds := fun _ => by
          change Holds _ (state.buffers
            (stateIndex (packState (state.writeVersion + 1) state.writing))) _
          rw [indexed]
          exact ⟨value, by simpa using selected, fun field => fields field (by simp [complete])⟩
        history := inv.history }
    next => contradiction
  next => contradiction

theorem Inv.finishPublish (inv : Inv initial state)
    (stepped : step state .finishPublish = some next) : Inv initial next := by
  simp only [step] at stepped
  split at stepped
  next nextVersion previous exchanged =>
    cases stepped
    have slots : SlotsDistinct (stateIndex previous) state.consumerSlot
        state.latestSlot := by
      simpa only [State.producerSlot, exchanged] using inv.slots
    exact {
      slots := slots
      version := inv.version
      producer := by simpa only [ProducerInv, exchanged] using inv.producer
      consumer := inv.consumer.frame rfl rfl rfl le_rfl rfl
      consumer_le := inv.consumer_le
      consumer_holds := inv.consumer_holds
      latest_holds := inv.latest_holds
      history := inv.history }
  next => contradiction

omit [DecidableEq Field] [Fintype Field] in
/-- A step that only moves the consumer's program counter, without changing which
slot it owns, needs no more than the consumer's own facts. -/
theorem Inv.setConsumer (inv : Inv initial state) {consumer : Consumer Field Value}
    (slot : { state with consumer }.consumerSlot = state.consumerSlot)
    (version : { state with consumer }.consumerVersion = state.consumerVersion)
    (facts : ConsumerInv { state with consumer }) :
    Inv initial { state with consumer } where
  slots := by
    rw [slot]
    exact inv.slots
  version := inv.version
  producer := inv.producer
  consumer := facts
  consumer_le := by
    rw [version]
    exact inv.consumer_le
  consumer_holds := by
    rw [slot, version]
    exact inv.consumer_holds
  latest_holds := by
    rw [version]
    exact inv.latest_holds
  history := by
    rw [version]
    exact inv.history

theorem Inv.startRead {out : Slot Field Value} (inv : Inv initial state)
    (stepped : step state (.startRead out) = some next) : Inv initial next := by
  simp only [step] at stepped
  split at stepped
  next idle =>
    cases stepped
    exact inv.setConsumer (by simp only [State.consumerSlot, idle])
      (by simp only [State.consumerVersion, idle])
      ⟨show 0 < 3 by decide, le_rfl⟩
  next => contradiction

theorem Inv.load (inv : Inv initial state)
    (stepped : step state .load = some next) : Inv initial next := by
  simp only [step] at stepped
  split at stepped
  next call attempting =>
    obtain ⟨few, started⟩ : call.attempt < 3 ∧ call.exchangesBefore ≤ state.exchanges := by
      simpa only [ConsumerInv, attempting] using inv.consumer
    split at stepped
    next current =>
      cases stepped
      refine inv.setConsumer (by simp only [State.consumerSlot, attempting])
        (by simp only [State.consumerVersion, attempting]) ⟨fun _ => ?_, by simp⟩
      rw [← current, inv.version]
      exact started
    next behind =>
      cases stepped
      refine inv.setConsumer (by simp only [State.consumerSlot, attempting])
        (by simp only [State.consumerVersion, attempting]) ⟨few, ?_, ?_, behind⟩
      · rw [inv.version]
        exact started
      · rw [inv.version]
  next => contradiction

omit [DecidableEq Field] in
/-- A failed attempt, spurious or not, changes nothing but the attempt count. -/
theorem Inv.retry {call : Call Field Value} {observed : BitVec 64}
    (inv : Inv initial state) (loaded : state.consumer = .loaded call observed) :
    Inv initial { state with consumer := retry call } := by
  obtain ⟨few, started, seen, differs⟩ : call.attempt < 3 ∧
      call.exchangesBefore ≤ (stateVersion observed).toNat ∧
      (stateVersion observed).toNat ≤ state.exchanges ∧
      stateVersion observed ≠ state.readVersion := by
    simpa only [ConsumerInv, loaded] using inv.consumer
  rw [SnapshotBuffer.retry]
  split
  next again =>
    exact inv.setConsumer (by simp only [State.consumerSlot, loaded])
      (by simp only [State.consumerVersion, loaded]) ⟨again, started.trans seen⟩
  next exhausted =>
    exact inv.setConsumer (by simp only [State.consumerSlot, loaded])
      (by simp only [State.consumerVersion, loaded])
      ⟨fun fewer => absurd fewer exhausted, by simp⟩

theorem Inv.compareExchange {spurious : Bool} (inv : Inv initial state)
    (stepped : step state (.compareExchange spurious) = some next)
    (few : next.published.length < 2 ^ 62) : Inv initial next := by
  simp only [step] at stepped
  split at stepped
  next call observed loaded =>
    split at stepped
    next succeeded =>
      cases stepped
      rcases succeeded with ⟨unchanged, -⟩
      subst unchanged
      obtain ⟨attempts, started, -, differs⟩ : call.attempt < 3 ∧
          call.exchangesBefore ≤ (stateVersion state.latest).toNat ∧
          (stateVersion state.latest).toNat ≤ state.exchanges ∧
          stateVersion state.latest ≠ state.readVersion := by
        simpa only [ConsumerInv, loaded] using inv.consumer
      have slots : SlotsDistinct state.producerSlot state.reading state.latestSlot := by
        simpa only [State.consumerSlot, loaded] using inv.slots
      have behind : state.consumerVersion.toNat ≠ state.exchanges := by
        simp only [State.consumerVersion, loaded]
        rw [← inv.version]
        exact fun equal => differs (BitVec.eq_of_toNat_eq equal).symm
      have fits : (stateVersion state.latest).toNat < 2 ^ 62 := by
        rw [inv.version]
        exact inv.exchanges_le.trans_lt few
      have inRange : state.reading < 4 := by have := slots.consumer_lt; omega
      have indexed := stateIndex_packState fits inRange
      have versioned := stateVersion_packState fits inRange
      exact {
        slots := by
          change SlotsDistinct state.producerSlot state.latestSlot
            (stateIndex (packState (stateVersion state.latest) state.reading))
          rw [indexed]
          exact slots.compareExchange
        version := by simp only [versioned, inv.version]
        producer := inv.producer
        consumer := ⟨attempts, started⟩
        consumer_le := inv.version.le
        consumer_holds := by
          change Holds _ (state.buffers state.latestSlot) (stateVersion state.latest).toNat
          rw [inv.version]
          exact inv.latest_holds behind
        latest_holds := fun differs => absurd inv.version differs
        history := by
          refine inv.history.mono ?_
          change state.consumerVersion.toNat ≤ (stateVersion state.latest).toNat
          rw [inv.version]
          exact inv.consumer_le }
    next failed =>
      cases stepped
      exact inv.retry loaded
  next => contradiction

theorem Inv.take (inv : Inv initial state)
    (stepped : step state .take = some next) : Inv initial next := by
  simp only [step] at stepped
  split at stepped
  next call observed taken =>
    cases stepped
    obtain ⟨-, started⟩ : call.attempt < 3 ∧
        call.exchangesBefore ≤ (stateVersion observed).toNat := by
      simpa only [ConsumerInv, taken] using inv.consumer
    exact {
      slots := by
        have slots := inv.slots
        simp only [State.consumerSlot, taken] at slots
        exact slots
      version := inv.version
      producer := inv.producer
      consumer := ⟨fun _ => started, by simp⟩
      consumer_le := by simpa only [State.consumerVersion, taken] using inv.consumer_le
      consumer_holds := by
        simpa only [State.consumerSlot, State.consumerVersion, taken] using
          inv.consumer_holds
      latest_holds := by
        simpa only [State.latestSlot, State.consumerVersion, taken] using
          inv.latest_holds
      history := by simpa only [State.consumerVersion, taken] using inv.history }
  next => contradiction

theorem Inv.copyField {field : Field} (inv : Inv initial state)
    (stepped : step state (.copyField field) = some next) : Inv initial next := by
  simp only [step] at stepped
  split at stepped
  next call remaining copying =>
    split at stepped
    next pending =>
      cases stepped
      obtain ⟨started, copied⟩ :
          (call.attempt < 3 → call.exchangesBefore ≤ state.readVersion.toNat) ∧
          ∀ field ∉ remaining, call.out field = state.buffers state.reading field := by
        simpa only [ConsumerInv, copying] using inv.consumer
      refine inv.setConsumer (by simp only [State.consumerSlot, copying])
        (by simp only [State.consumerVersion, copying]) ⟨started, fun other absent => ?_⟩
      by_cases same : other = field
      · subst same
        exact Function.update_self ..
      · exact (Function.update_of_ne same ..).trans
          (copied other fun member => absent (Finset.mem_erase.mpr ⟨same, member⟩))
    next => contradiction
  next => contradiction

theorem Inv.finishRead (inv : Inv initial state)
    (stepped : step state .finishRead = some next) : Inv initial next := by
  simp only [step] at stepped
  split at stepped
  next call remaining copying =>
    split at stepped
    next complete =>
      cases stepped
      subst complete
      obtain ⟨started, copied⟩ :
          (call.attempt < 3 → call.exchangesBefore ≤ state.readVersion.toNat) ∧
          ∀ field ∉ (∅ : Finset Field),
            call.out field = state.buffers state.reading field := by
        simpa only [ConsumerInv, copying] using inv.consumer
      have version : state.consumerVersion = state.readVersion := by
        simp only [State.consumerVersion, copying]
      have slot : state.consumerSlot = state.reading := by
        simp only [State.consumerSlot, copying]
      have output : call.out = state.buffers state.reading :=
        funext fun field => copied field (Finset.notMem_empty field)
      have seen := inv.consumer_le
      have holds := inv.consumer_holds
      rw [version] at seen
      rw [slot, version, ← output] at holds
      have idle : Inv initial { state with consumer := .idle } :=
        inv.setConsumer slot.symm version.symm trivial
      exact { idle with
        history := by
          have history := inv.history
          rw [version] at history
          refine History.snoc history ⟨holds, seen, fun quiet fewer => ?_⟩
          exact seen.antisymm (quiet.ge.trans (started fewer)) }
    next => contradiction
  next => contradiction

/-- Every atomic step preserves the invariant. -/
theorem Inv.step {action : Action Field Value} (inv : Inv initial state)
    (stepped : step state action = some next)
    (few : next.published.length < 2 ^ 62) : Inv initial next := by
  cases action with
  | startPublish value => exact inv.startPublish stepped
  | writeField field => exact inv.writeField stepped
  | exchange => exact inv.exchange stepped few
  | finishPublish => exact inv.finishPublish stepped
  | startRead out => exact inv.startRead stepped
  | load => exact inv.load stepped
  | compareExchange spurious => exact inv.compareExchange stepped few
  | take => exact inv.take stepped
  | copyField field => exact inv.copyField stepped
  | finishRead => exact inv.finishRead stepped

/-- Every schedule with fewer than `2 ^ 62` publishes reaches a state satisfying
the invariant. -/
theorem Inv.reachable {schedule : List (Action Field Value)}
    (ran : Transition.run SnapshotBuffer.step (State.start initial) schedule = some state)
    (few : state.published.length < 2 ^ 62) : Inv initial state :=
  Transition.run_invariant
    (fun reached => reached.published.length < 2 ^ 62 → Inv initial reached)
    (fun stepped before few =>
      (before ((published_length_le stepped).trans_lt few)).step stepped few)
    ran (fun _ => Inv.start initial) few

end RmdCanSdk.SnapshotBuffer
