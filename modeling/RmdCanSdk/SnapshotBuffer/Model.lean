import Mathlib.Algebra.Group.Nat.Defs
import Mathlib.Data.Fintype.Basic
import RmdCanSdk.Library.Transition

/-!
# The three-slot snapshot buffer as interleaved atomic steps

`SnapshotBuffer<T>` exchanges whole values between one producer thread and one
consumer thread. This module embeds `publish` and `readInto` as the steps the two
threads take: a slot is written and copied field by field, in any field order, and
`latest_` is touched only by the atomic load, exchange and weak compare-exchange.

Every slot field carries, as ghost data, the number of the publish that wrote it
(the initial value counts as publish zero), and the state records the values
passed to `publish`, the number of exchanges and the completed reads. The code
never branches on any of them.
-/

namespace RmdCanSdk.SnapshotBuffer

variable {Field Value : Type}

/-- A value of the exchanged type `T`, given by its fields. -/
abbrev Frame (Field Value : Type) := Field → Value

/-- One field of a slot and the number of the publish that wrote it. -/
structure Cell (Value : Type) where
  value : Value
  number : Nat
  deriving DecidableEq

/-- One of the slots `buffers_[0..2]`, or the caller's output variable. -/
abbrev Slot (Field Value : Type) := Field → Cell Value

/-! ## The packed atomic state -/

/-- `packState(version, index)`. -/
def packState (version : BitVec 64) (index : Nat) : BitVec 64 :=
  (version <<< 2) ||| BitVec.ofNat 64 (index &&& 3)

/-- `stateIndex(state)`. -/
def stateIndex (state : BitVec 64) : Nat := (state &&& 3#64).toNat

/-- `stateVersion(state)`. -/
def stateVersion (state : BitVec 64) : BitVec 64 := state >>> 2

theorem toNat_packState {version : BitVec 64} {index : Nat}
    (few : version.toNat < 2 ^ 62) (inRange : index < 4) :
    (packState version index).toNat = version.toNat * 4 + index := by
  have masked : index &&& 3 = index := by
    rw [show (3 : Nat) = 2 ^ 2 - 1 from rfl, Nat.and_two_pow_sub_one_eq_mod]
    omega
  have shifted : version.toNat <<< 2 = 2 ^ 2 * version.toNat := by
    rw [Nat.shiftLeft_eq, Nat.mul_comm]
  have joined : 2 ^ 2 * version.toNat + index = 2 ^ 2 * version.toNat ||| index :=
    Nat.two_pow_add_eq_or_of_lt (by omega) version.toNat
  rw [packState, BitVec.toNat_or, BitVec.toNat_shiftLeft, BitVec.toNat_ofNat, masked,
    shifted, Nat.mod_eq_of_lt (by omega), Nat.mod_eq_of_lt (by omega), ← joined]
  omega

theorem stateIndex_eq_mod (state : BitVec 64) : stateIndex state = state.toNat % 4 := by
  rw [stateIndex, BitVec.toNat_and]
  exact Nat.and_two_pow_sub_one_eq_mod state.toNat 2

theorem stateIndex_packState {version : BitVec 64} {index : Nat}
    (few : version.toNat < 2 ^ 62) (inRange : index < 4) :
    stateIndex (packState version index) = index := by
  rw [stateIndex_eq_mod, toNat_packState few inRange]
  omega

theorem stateVersion_packState {version : BitVec 64} {index : Nat}
    (few : version.toNat < 2 ^ 62) (inRange : index < 4) :
    stateVersion (packState version index) = version := by
  apply BitVec.eq_of_toNat_eq
  rw [stateVersion, BitVec.toNat_ushiftRight, toNat_packState few inRange,
    Nat.shiftRight_eq_div_pow]
  omega

/-! ## Threads and state -/

/-- Where the producer stands in `publish`. -/
inductive Producer (Field Value : Type) where
  | idle
  /-- Copying `value` into `buffers_[writing_]`, some fields still to be written. -/
  | writing (value : Frame Field Value) (remaining : Finset Field)
  /-- After the exchange, before the producer's own members are updated. -/
  | exchanged (nextVersion previous : BitVec 64)

/-- The locals of one `readInto` call, with the exchange count at its start. -/
structure Call (Field Value : Type) where
  out : Slot Field Value
  attempt : Nat
  exchangesBefore : Nat

/-- Where the consumer stands in `readInto`. -/
inductive Consumer (Field Value : Type) where
  | idle
  /-- At the head of the attempt loop. -/
  | attempting (call : Call Field Value)
  /-- `latest_` was loaded and its version differs from `readVersion_`. -/
  | loaded (call : Call Field Value) (observed : BitVec 64)
  /-- The compare-exchange succeeded, the consumer's members are not yet updated. -/
  | taken (call : Call Field Value) (observed : BitVec 64)
  /-- Copying `buffers_[reading_]` to the output, some fields still to be copied. -/
  | copying (call : Call Field Value) (remaining : Finset Field)

/-- One completed `readInto`: its output, the exchange counts at its start and
its return, and how many of its compare-exchange attempts failed. -/
structure Reading (Field Value : Type) where
  out : Slot Field Value
  exchangesBefore : Nat
  exchangesAfter : Nat
  failedAttempts : Nat

/-- The members of the buffer, the program counters of both threads and the
ghost history. Only the indices 0, 1 and 2 of `buffers` are slots of the array. -/
structure State (Field Value : Type) where
  buffers : Nat → Slot Field Value
  latest : BitVec 64
  writing : Nat
  writeVersion : BitVec 64
  reading : Nat
  readVersion : BitVec 64
  producer : Producer Field Value
  consumer : Consumer Field Value
  published : List (Frame Field Value)
  exchanges : Nat
  returned : List (Reading Field Value)

/-- The constructed buffer: all three slots hold the initial value. -/
def State.start (initial : Frame Field Value) : State Field Value where
  buffers := fun _ field => ⟨initial field, 0⟩
  latest := packState 0 0
  writing := 1
  writeVersion := 0
  reading := 2
  readVersion := 0
  producer := .idle
  consumer := .idle
  published := []
  exchanges := 0
  returned := []

/-- What one of the two threads does next. -/
inductive Action (Field Value : Type) where
  | startPublish (value : Frame Field Value)
  | writeField (field : Field)
  | exchange
  | finishPublish
  | startRead (out : Slot Field Value)
  | load
  | compareExchange (spurious : Bool)
  | take
  | copyField (field : Field)
  | finishRead

variable [DecidableEq Field] [Fintype Field]

/-- Continuation of the attempt loop after a failed compare-exchange. -/
def retry (call : Call Field Value) : Consumer Field Value :=
  if call.attempt + 1 < 3 then
    .attempting { call with attempt := call.attempt + 1 }
  else
    .copying { call with attempt := call.attempt + 1 } Finset.univ

/-- One atomic step; `none` when the acting thread is not at that point. -/
def step (state : State Field Value) :
    Action Field Value → Option (State Field Value)
  | .startPublish value =>
      match state.producer with
      | .idle => some { state with
          producer := .writing value Finset.univ
          published := state.published ++ [value] }
      | _ => none
  | .writeField field =>
      match state.producer with
      | .writing value remaining =>
          if field ∈ remaining then
            some { state with
              buffers := Function.update state.buffers state.writing
                (Function.update (state.buffers state.writing) field
                  ⟨value field, state.published.length⟩)
              producer := .writing value (remaining.erase field) }
          else none
      | _ => none
  | .exchange =>
      match state.producer with
      | .writing _ remaining =>
          if remaining = ∅ then
            some { state with
              latest := packState (state.writeVersion + 1) state.writing
              producer := .exchanged (state.writeVersion + 1) state.latest
              exchanges := state.exchanges + 1 }
          else none
      | _ => none
  | .finishPublish =>
      match state.producer with
      | .exchanged nextVersion previous => some { state with
          writeVersion := nextVersion
          writing := stateIndex previous
          producer := .idle }
      | _ => none
  | .startRead out =>
      match state.consumer with
      | .idle => some { state with
          consumer := .attempting ⟨out, 0, state.exchanges⟩ }
      | _ => none
  | .load =>
      match state.consumer with
      | .attempting call =>
          if stateVersion state.latest = state.readVersion then
            some { state with consumer := .copying call Finset.univ }
          else
            some { state with consumer := .loaded call state.latest }
      | _ => none
  | .compareExchange spurious =>
      match state.consumer with
      | .loaded call observed =>
          if state.latest = observed ∧ spurious = false then
            some { state with
              latest := packState (stateVersion observed) state.reading
              consumer := .taken call observed }
          else
            some { state with consumer := retry call }
      | _ => none
  | .take =>
      match state.consumer with
      | .taken call observed => some { state with
          reading := stateIndex observed
          readVersion := stateVersion observed
          consumer := .copying call Finset.univ }
      | _ => none
  | .copyField field =>
      match state.consumer with
      | .copying call remaining =>
          if field ∈ remaining then
            let out := Function.update call.out field
              (state.buffers state.reading field)
            some { state with
              consumer := .copying { call with out } (remaining.erase field) }
          else none
      | _ => none
  | .finishRead =>
      match state.consumer with
      | .copying call remaining =>
          if remaining = ∅ then
            some { state with
              consumer := .idle
              returned := state.returned ++
                [⟨call.out, call.exchangesBefore, state.exchanges, call.attempt⟩] }
          else none
      | _ => none

/-! ## Who owns which slot -/

namespace State

/-- The slot the producer owns; after the exchange it is the slot handed back. -/
def producerSlot (state : State Field Value) : Nat :=
  match state.producer with
  | .exchanged _ previous => stateIndex previous
  | _ => state.writing

/-- The slot the consumer owns; after a successful compare-exchange it is the
slot just taken. -/
def consumerSlot (state : State Field Value) : Nat :=
  match state.consumer with
  | .taken _ observed => stateIndex observed
  | _ => state.reading

/-- The version of the slot the consumer owns. -/
def consumerVersion (state : State Field Value) : BitVec 64 :=
  match state.consumer with
  | .taken _ observed => stateVersion observed
  | _ => state.readVersion

/-- The slot whose index is stored in `latest_`. -/
def latestSlot (state : State Field Value) : Nat := stateIndex state.latest

end State

end RmdCanSdk.SnapshotBuffer
