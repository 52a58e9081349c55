import Mathlib.Data.List.Induction
import RmdCanSdk.Library.Traverse
import RmdCanSdk.Yesense.Frame

/-!
# The read loop as a feed buffer

The buffer of the decoder holds what a feed buffer with the same reads holds, and the read
loop publishes what becomes of the frames that the feed buffer takes. The accesses of the
loop stay inside of the buffer exactly as long as no such frame has an item that reaches
beyond the end of its payload.
-/

namespace RmdCanSdk.Yesense

open FeedBuffer (Found State feed feedAll settle)

variable {F D : Type} [FloatArith F] [FloatArith D]

/-! ## One call of the decoder -/

/-- The output after a frame, from its place in the buffer. -/
theorem decodeFrame_eq {data : Bytes} {bytes : List Byte} {i : Nat}
    (same : ∀ index < bytes.length, data index = Bytes.ofList bytes index)
    (inside : i + ((Bytes.ofList bytes (i + 4)).toNat + 7) ≤ bytes.length)
    (bounded : bytes.length ≤ dataBufSize) (result : YisOutData F D) :
    decodeFrame ((bytes.drop i).take ((Bytes.ofList bytes (i + 4)).toNat + 7)) result =
      parsePayload data (i + 5) (BitVec.ofNat 32 (Bytes.ofList bytes (i + 4)).toNat)
        { result with tid := data.read16 (i + 2) } := by
  have size : dataBufSize = 1024 := rfl
  generalize length : (Bytes.ofList bytes (i + 4)).toNat = payloadLen at inside ⊢
  have frame : ∀ index < payloadLen + 7,
      Bytes.ofList ((bytes.drop i).take (payloadLen + 7)) index = data (i + index) := by
    intro index small
    rw [Bytes.ofList_take small, Bytes.ofList_drop, same _ (by omega)]
  have tid : (Bytes.ofList ((bytes.drop i).take (payloadLen + 7))).read16 2 =
      data.read16 (i + 2) := by
    apply Bytes.read16_congr
    intro index small
    rw [frame _ (by omega), Nat.add_assoc]
  rw [decodeFrame, frame 4 (by omega), same (i + 4) (by omega), length, tid]
  apply parsePayload_congr _ (by omega) (by omega)
  intro index small
  rw [frame _ (by omega), Nat.add_assoc]

/-- The decoder finds what the scan finds. -/
theorem MsgIdx.dataProc_cases {data : Bytes} {bytes : List Byte} {len : Nat}
    (length : len = bytes.length)
    (same : ∀ index < bytes.length, data index = Bytes.ofList bytes index)
    (nonempty : bytes ≠ []) (bounded : bytes.length ≤ dataBufSize) (msgIdx : MsgIdx)
    (result : YisOutData F D) :
    (∃ after, scan bytes = .wait ∧
      msgIdx.dataProc data len result = some (.dataLenErr, after, result)) ∨
    (scan bytes = .noise bytes.length ∧
      msgIdx.dataProc data len result = some (.noHeader, msgIdx, result)) ∨
    (∃ after : MsgIdx, scan bytes = .noise (after.stIdx + 2) ∧ after.stIdx + 2 ≤ bytes.length ∧
      msgIdx.dataProc data len result = some (.crcErr, after, result)) ∨
    ∃ noise length, scan bytes = .frame noise length ∧ 0 < length ∧
      noise + length ≤ bytes.length ∧
      msgIdx.dataProc data len result =
        (decodeFrame ((bytes.drop noise).take length) result).map fun output =>
          (.analysisOk, ⟨noise, noise + length - 1⟩, output) := by
  cases length
  have notEmpty : bytes.length ≠ 0 := by rwa [ne_eq, List.length_eq_zero_iff]
  have searched : findHeader data 0 bytes.length =
      findHeader (Bytes.ofList bytes) 0 bytes.length := by
    apply findHeader_congr
    intro index inside
    rw [Nat.zero_add]
    exact same index inside
  rcases scan_cases bytes with ⟨i, cnt, search, sum, cases⟩
  have sameSum : ∀ offset size, offset + size ≤ bytes.length →
      crcCalc data offset size = crcCalc (Bytes.ofList bytes) offset size :=
    fun offset size inside => crcCalc_congr fun index small => same _ (by omega)
  have sameStored : ∀ offset, offset + 2 ≤ bytes.length →
      data.read16 offset = (Bytes.ofList bytes).read16 offset :=
    fun offset inside => Bytes.read16_congr fun index small => same _ (by omega)
  have minLen : protocolMinLen = 7 := rfl
  rw [MsgIdx.dataProc, if_neg notEmpty, searched, search]
  dsimp only
  rcases cases with ⟨few, found⟩ | ⟨left, partly, found⟩ | ⟨left, long, sums, found⟩ |
    ⟨left, long, sums, found⟩
  · exact .inr (.inl ⟨found, if_pos few⟩)
  · refine .inl ⟨⟨i, msgIdx.endIdx⟩, found, ?_⟩
    rw [if_neg (by omega)]
    by_cases short : cnt ≤ protocolMinLen
    · exact if_pos short
    · have payloadLen := same (i + 4) (by omega)
      rw [if_neg short, payloadLen]
      exact if_pos (by omega)
  · have payloadLen := same (i + 4) (by omega)
    have header : i + 2 ≤ bytes.length := by omega
    refine .inr (.inr (.inl ⟨⟨i, msgIdx.endIdx⟩, found, header, ?_⟩))
    rw [if_neg (by omega), if_neg (by omega), payloadLen, if_neg (by omega)]
    apply if_pos
    rwa [sameSum _ _ (by omega), sameStored _ (by omega)]
  · have payloadLen := same (i + 4) (by omega)
    refine .inr (.inr (.inr ⟨i, _, found, by omega, by omega, ?_⟩))
    rw [if_neg (by omega), if_neg (by omega), payloadLen, if_neg (by omega), if_neg]
    · rw [decodeFrame_eq same (by omega) bounded, minLen, Nat.add_assoc]
    · rwa [sameSum _ _ (by omega), sameStored _ (by omega), not_not]

/-! ## The buffer -/

namespace YesenseDecoder

/-- The bytes in the buffer. -/
structure Holds (decoder : YesenseDecoder) (bytes : List Byte) : Prop where
  length : decoder.decodeBufLen = bytes.length
  bounded : bytes.length ≤ dataBufSize
  same : ∀ index < bytes.length, decoder.decodeData index = Bytes.ofList bytes index
  noCommand : decoder.cmdFlg = false

theorem holds_fresh : fresh.Holds [] :=
  ⟨rfl, Nat.zero_le _, fun _ outside => absurd outside (Nat.not_lt_zero _), rfl⟩

variable {decoder : YesenseDecoder} {bytes : List Byte}

/-- Clearing up to a position leaves the bytes behind it. -/
theorem Holds.clearBufData (holds : decoder.Holds bytes) {last : Nat}
    (inside : last < bytes.length) :
    (decoder.clearBufData 0 last).Holds (bytes.drop (last + 1)) := by
  have bounded := holds.bounded
  rw [YesenseDecoder.clearBufData, if_neg (Nat.not_lt_zero _), Nat.sub_zero]
  by_cases all : dataBufSize ≤ last + 1
  · rw [if_pos all, List.drop_eq_nil_iff.mpr (by omega)]
    exact ⟨rfl, Nat.zero_le _, fun _ outside => absurd outside (Nat.not_lt_zero _),
      holds.noCommand⟩
  · rw [if_neg all]
    have length := holds.length
    have left : (bytes.drop (last + 1)).length = decoder.decodeBufLen - (last + 1) := by
      rw [List.length_drop, length]
    refine ⟨left.symm, by omega, ?_, holds.noCommand⟩
    intro index small
    rw [left] at small
    dsimp only
    rw [Bytes.memcpy_inside (Nat.zero_le _) (by omega), Bytes.ofList_drop, Nat.sub_zero]
    exact holds.same _ (by omega)

/-- Without a header in it, the buffer is emptied. -/
theorem Holds.discard_noHeader (holds : decoder.Holds bytes) (nonempty : bytes ≠ []) :
    (decoder.discard .noHeader).Holds (bytes.drop bytes.length) := by
  have positive := List.length_pos_iff.mpr nonempty
  have length := holds.length
  have last : decoder.decodeBufLen - 1 < bytes.length := by omega
  have cleared := holds.clearBufData last
  rw [length, Nat.sub_add_cancel positive] at cleared
  rw [discard, holds.noCommand, length]
  exact cleared

/-- The buffer after the bytes of a call have been appended to it. -/
theorem Holds.append (holds : decoder.Holds bytes) {input : List Byte}
    (fits : bytes.length + input.length ≤ dataBufSize) :
    (decoder.append input input.length).Holds (bytes ++ input) := by
  have length : (bytes ++ input).length = bytes.length + input.length := List.length_append
  refine ⟨by rw [length, ← holds.length]; rfl, by omega, ?_, holds.noCommand⟩
  intro index small
  rw [YesenseDecoder.append]
  dsimp only
  rw [holds.length]
  by_cases old : index < bytes.length
  · rw [Bytes.memcpy_outside (by omega), Bytes.ofList_append_left old]
    exact holds.same index old
  · rcases Nat.exists_eq_add_of_le (Nat.le_of_not_lt old) with ⟨offset, rfl⟩
    rw [Bytes.memcpy_inside (by omega) (by omega), Bytes.ofList_append_right,
      Nat.add_sub_cancel_left]

/-- A call with some bytes does to the buffer what feeding them does, and decodes the frame
that is found. -/
theorem Holds.dataProc (holds : decoder.Holds bytes) {input : List Byte} (nonempty : input ≠ [])
    (short : input.length ≤ 512) (frames : List (List Byte)) (result : YisOutData F D) :
    (decoder.dataProc input result = some (.bufFull, decoder, result) ∧
      dataBufSize < bytes.length + input.length) ∨
    (bytes.length + input.length ≤ dataBufSize ∧ ∃ after : YesenseDecoder,
      after.Holds (settle (bytes ++ input) frames (scan (bytes ++ input))).buffer ∧
      (((settle (bytes ++ input) frames (scan (bytes ++ input))).frames = frames ∧
          ∃ ret, ret ≠ .analysisOk ∧ decoder.dataProc input result = some (ret, after, result)) ∨
        ∃ frame, (settle (bytes ++ input) frames (scan (bytes ++ input))).frames =
            frames ++ [frame] ∧
          decoder.dataProc input result =
            (decodeFrame frame result).map fun output => (.analysisOk, after, output))) := by
  have size : dataBufSize = 1024 := rfl
  have range : uintRange = 4294967296 := rfl
  have bounded := holds.bounded
  have held := holds.length
  have whole : input.length % uintRange = input.length := Nat.mod_eq_of_lt (by omega)
  have total : (input.length + decoder.decodeBufLen) % uintRange =
      input.length + decoder.decodeBufLen := Nat.mod_eq_of_lt (by omega)
  by_cases full : dataBufSize < bytes.length + input.length
  · refine .inl ⟨?_, full⟩
    rw [YesenseDecoder.dataProc]
    dsimp only
    rw [whole, total, if_pos (by omega)]
  refine .inr ⟨by omega, ?_⟩
  have appended := holds.append (Nat.le_of_not_lt full)
  have unchanged : ∀ msgIdx, Holds { decoder.append input input.length with msgIdx := msgIdx }
      (bytes ++ input) := fun _ => ⟨appended.length, appended.bounded, appended.same,
        appended.noCommand⟩
  have some : bytes ++ input ≠ [] := List.append_ne_nil_of_right_ne_nil _ nonempty
  rw [YesenseDecoder.dataProc]
  dsimp only
  rw [whole, total, if_neg (by omega), if_neg (by omega)]
  rcases MsgIdx.dataProc_cases appended.length appended.same some appended.bounded
      (decoder.append input input.length).msgIdx result with
    ⟨msgIdx, found, called⟩ | ⟨found, called⟩ | ⟨msgIdx, found, inside, called⟩ |
      ⟨noise, length, found, positive, inside, called⟩
  · rw [found, called]
    exact ⟨_, unchanged msgIdx, .inl ⟨rfl, .dataLenErr, by decide, rfl⟩⟩
  · rw [found, called]
    refine ⟨_, ?_, .inl ⟨rfl, .noHeader, by decide, rfl⟩⟩
    exact (unchanged _).discard_noHeader some
  · rw [found, called]
    refine ⟨_, ?_, .inl ⟨rfl, .crcErr, by decide, rfl⟩⟩
    exact (unchanged msgIdx).clearBufData inside
  · rw [found, called]
    refine ⟨discard { decoder.append input input.length with
      msgIdx := ⟨noise, noise + length - 1⟩ } .analysisOk, ?_, .inr ⟨_, rfl, ?_⟩⟩
    · have last : noise + length - 1 < (bytes ++ input).length := by omega
      have cleared := (unchanged ⟨noise, noise + length - 1⟩).clearBufData last
      rw [Nat.sub_add_cancel (by omega)] at cleared
      exact cleared
    · rw [Option.map_map]
      rfl

end YesenseDecoder

/-! ## The read loop -/

omit [FloatArith D] in
/-- The sample that is published after a frame, if its last item was valid. -/
def sampleOf (output : YisOutData F D) : Option (ImuStruct F) :=
  if output.content.validFlg = false then none else some (yesenseOutputToImu output)

/-- What becomes of a frame: the output, and the samples published so far. -/
def deliver (delivered : YisOutData F D × List (ImuStruct F)) (frame : List Byte) :
    Option (YisOutData F D × List (ImuStruct F)) :=
  (decodeFrame frame delivered.1).map fun output =>
    (output, delivered.2 ++ (sampleOf output).toList)

/-- What becomes of some frames, from the start. -/
def deliverAll (frames : List (List Byte)) : Option (YisOutData F D × List (ImuStruct F)) :=
  frames.foldlM deliver (.zero, [])

/-- The reads that get bytes, in a feed buffer. -/
def received (reads : List (List Byte)) : State Byte :=
  feedAll scan dataBufSize FeedBuffer.empty (reads.filter fun read => read ≠ [])

theorem deliverAll_concat (frames : List (List Byte)) (frame : List Byte) :
    (deliverAll (frames ++ [frame]) : Option (YisOutData F D × List (ImuStruct F))) =
      (deliverAll frames).bind fun delivered => deliver delivered frame := by
  rw [deliverAll, List.foldlM_append]
  simp only [List.foldlM_cons, List.foldlM_nil, bind_pure]
  rfl

theorem deliver_isSome (delivered : YisOutData F D × List (ImuStruct F)) (frame : List Byte) :
    (deliver delivered frame).isSome = true ↔ Decodable frame := by
  rw [deliver, Option.isSome_map]
  exact decodeFrame_isSome frame _

variable (F D) in
/-- Frames become something exactly if none has an item beyond the end of its payload. -/
theorem deliverAll_isSome (frames : List (List Byte)) :
    (deliverAll frames : Option (YisOutData F D × List (ImuStruct F))).isSome = true ↔
      ∀ frame ∈ frames, Decodable frame := by
  induction frames using List.reverseRecOn with
  | nil => exact iff_of_true rfl (List.forall_mem_nil _)
  | append_singleton front frame ih =>
      rw [deliverAll_concat, List.forall_mem_append, List.forall_mem_singleton, ← ih]
      cases (deliverAll front : Option (YisOutData F D × List (ImuStruct F))) with
      | none => exact iff_of_false Bool.false_ne_true fun both => Bool.false_ne_true both.1
      | some delivered => exact (deliver_isSome delivered frame).trans (and_iff_right rfl).symm

namespace ReadLoop

/-- The loop is where the feed buffer is. -/
structure Follows (loop : ReadLoop F D) (state : State Byte) : Prop where
  holds : loop.imu.decoder.Holds state.buffer
  delivered : deliverAll state.frames = some (loop.imu.output, loop.published)

theorem follows_start : (start : ReadLoop F D).Follows FeedBuffer.empty :=
  ⟨YesenseDecoder.holds_fresh, rfl⟩

/-- A read with some bytes feeds them, or the frame that they complete is not decodable. -/
theorem Follows.readInput {loop : ReadLoop F D} {state : State Byte}
    (follows : loop.Follows state) {input : List Byte} (nonempty : input ≠ [])
    (short : input.length ≤ 512) :
    (∃ next, loop.readInput input = some next ∧
        next.Follows (feed scan dataBufSize state input)) ∨
      (loop.readInput input = none ∧
        ∃ frame ∈ (feed scan dataBufSize state input).frames, ¬ Decodable frame) := by
  have hasBytes : ¬ input.length = 0 := by rwa [List.length_eq_zero_iff]
  rw [ReadLoop.readInput, if_neg hasBytes, YesenseImuDecoder.feed, if_neg hasBytes]
  rcases follows.holds.dataProc nonempty short state.frames loop.imu.output with
    ⟨called, full⟩ | ⟨fits, after, holds, ⟨frames, ret, failed, called⟩ | ⟨frame, frames, called⟩⟩
  · rw [called, FeedBuffer.feed_of_full full]
    refine .inl ⟨_, rfl, follows.holds, follows.delivered.trans ?_⟩
    exact congrArg (fun published => some (loop.imu.output, published)) (List.append_nil _).symm
  · rw [called, FeedBuffer.feed_of_fits fits]
    refine .inl ⟨_, rfl, holds, ?_⟩
    rw [frames, follows.delivered]
    simp only [failed, ne_eq, not_false_eq_true, true_or, if_true, Option.toList_none,
      List.append_nil]
  · rw [called, FeedBuffer.feed_of_fits fits, frames]
    have delivered : deliverAll (state.frames ++ [frame]) =
        deliver (loop.imu.output, loop.published) frame := by
      rw [deliverAll_concat, follows.delivered]
      rfl
    cases decoded : decodeFrame frame loop.imu.output with
    | none =>
        refine .inr ⟨rfl, frame, List.mem_append_right _ (List.mem_singleton_self _), ?_⟩
        rw [← decodeFrame_isSome frame loop.imu.output, decoded]
        exact Bool.false_ne_true
    | some output =>
        refine .inl ⟨_, rfl, holds, ?_⟩
        rw [frames, delivered, deliver, decoded]
        simp only [Option.map_some, sampleOf, ne_eq, not_true_eq_false, false_or]

/-- The run of the loop and the feed buffer, side by side. -/
theorem Follows.readAll {loop : ReadLoop F D} {state : State Byte}
    (follows : loop.Follows state) {reads : List (List Byte)}
    (short : ∀ read ∈ reads, read.length ≤ 512) :
    (∃ final, loop.readAll reads = some final ∧ final.Follows
        (feedAll scan dataBufSize state (reads.filter fun read => read ≠ []))) ∨
      (loop.readAll reads = none ∧ ∃ frame ∈
        (feedAll scan dataBufSize state (reads.filter fun read => read ≠ [])).frames,
          ¬ Decodable frame) := by
  induction reads generalizing loop state with
  | nil => exact .inl ⟨loop, rfl, follows⟩
  | cons read rest ih =>
      rw [List.forall_mem_cons] at short
      rw [ReadLoop.readAll, List.foldlM_cons]
      by_cases nonempty : read = []
      · rw [nonempty, List.filter_cons_of_neg (by simp)]
        exact ih follows short.2
      · rw [List.filter_cons_of_pos (by simpa using nonempty), feedAll, List.foldl_cons]
        rcases follows.readInput nonempty short.1 with
          ⟨next, called, follows⟩ | ⟨called, frame, member, undecodable⟩
        · rw [called]
          exact ih follows short.2
        · rw [called]
          refine .inr ⟨rfl, frame, ?_, undecodable⟩
          exact (FeedBuffer.frames_prefix_feedAll _ _).subset member

end ReadLoop

end RmdCanSdk.Yesense
