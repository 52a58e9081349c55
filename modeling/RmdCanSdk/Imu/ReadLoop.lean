import RmdCanSdk.Imu.Frame

/-!
# The serial read loop

The loop of the read thread keeps a partial frame across reads. It publishes the samples
of the valid frames of the stream, however the reads split the stream.
-/

namespace RmdCanSdk

variable {F : Type} [FloatArith F] (floatOfBits : BitVec 32 → F)

/-- The variables of the loop, and the samples published so far. -/
structure ReadLoop (F : Type) where
  frame : Bytes
  frameIndex : Nat
  published : List (ImuStruct F)

namespace ReadLoop

omit [FloatArith F] in
/-- The loop variables before the first read. -/
def start : ReadLoop F where
  frame _ := 0
  frameIndex := 0
  published := []

/-- One iteration of the loop over the bytes of a read. -/
def readByte (type : String) (protocol : ImuProtocol) (loop : ReadLoop F) (byte : Byte) :
    ReadLoop F :=
  if loop.frameIndex = 0 then
    if byte ≠ protocol.header0 then loop
    else { loop with frame := Function.update loop.frame 0 byte, frameIndex := 1 }
  else if loop.frameIndex = 1 then
    if byte ≠ protocol.header1 then
      { loop with
        frameIndex := if byte = protocol.header0 then 1 else 0
        frame := Function.update loop.frame 0 (if byte = protocol.header0 then byte else 0) }
    else { loop with frame := Function.update loop.frame 1 byte, frameIndex := 2 }
  else
    let frame := Function.update loop.frame loop.frameIndex byte
    if loop.frameIndex + 1 = protocol.frameLength then {
      frame := frame
      frameIndex := 0
      published := loop.published ++ (decodeFrame floatOfBits type frame).toList }
    else { loop with frame := frame, frameIndex := loop.frameIndex + 1 }

/-- The bytes of one read; a read that fails or times out has none. -/
def readInput (type : String) (protocol : ImuProtocol) (loop : ReadLoop F)
    (input : List Byte) : ReadLoop F :=
  input.foldl (readByte floatOfBits type protocol) loop

def readAll (type : String) (protocol : ImuProtocol) (loop : ReadLoop F)
    (reads : List (List Byte)) : ReadLoop F :=
  reads.foldl (readInput floatOfBits type protocol) loop

end ReadLoop

/-- The read loop of the types with frames of one length, after some reads. -/
def readLoop (type : String) (reads : List (List Byte)) : Option (ReadLoop F) :=
  (protocolForType type).bind fun protocol =>
    if type = "YESENSE" then none  -- decoded by a library of its own
    else some (ReadLoop.start.readAll floatOfBits type protocol reads)

/-- A protocol with the length and the header of a format. -/
structure ImuProtocol.Speaks (protocol : ImuProtocol) (format : FrameFormat Byte) : Prop where
  frameLength : protocol.frameLength = format.frameLength
  header0 : protocol.header0 = format.header0
  header1 : protocol.header1 = format.header1

namespace ReadLoop

variable {type : String} {protocol : ImuProtocol} {format : FrameFormat Byte}

/-- The reads matter only through the stream they make up. -/
theorem readAll_eq_readInput (loop : ReadLoop F) (reads : List (List Byte)) :
    loop.readAll floatOfBits type protocol reads =
      loop.readInput floatOfBits type protocol reads.flatten := by
  rw [readAll, readInput, List.foldl_flatten]
  rfl

/-- The buffer holds the bytes the framer keeps. -/
def Holds (loop : ReadLoop F) (pending : format.Pending) : Prop :=
  loop.frame.toList loop.frameIndex = pending.bytes

/-- The sample of a frame. -/
def sample (type : String) (frame : List Byte) : Option (ImuStruct F) :=
  decodeFrame floatOfBits type (Bytes.ofList frame)

variable {loop : ReadLoop F} {pending : format.Pending}

omit [FloatArith F] in
theorem Holds.frameIndex (holds : loop.Holds pending) :
    loop.frameIndex = pending.bytes.length := by
  rw [← holds, Bytes.length_toList]

omit [FloatArith F] in
/-- The buffer with the byte that is stored behind those it holds. -/
theorem Holds.stored (holds : loop.Holds pending) (byte : Byte) :
    Bytes.toList (Function.update loop.frame loop.frameIndex byte) (loop.frameIndex + 1) =
      pending.bytes ++ [byte] := by
  rw [Bytes.toList_update, holds]

/-- The byte that completes the payload of a frame is decoded, any other one is kept. -/
theorem readByte_body (formatOf : FormatOf type format) (speaks : protocol.Speaks format)
    {payload : List Byte} (room : payload.length + 2 < format.frameLength)
    (holds : loop.Holds (.body payload room : format.Pending)) (byte : Byte) :
    (loop.readByte floatOfBits type protocol byte).Holds
        ((.body payload room : format.Pending).push byte).1 ∧
      (loop.readByte floatOfBits type protocol byte).published = loop.published ++
        ((.body payload room : format.Pending).push byte).2.toList.filterMap
          (sample floatOfBits type) := by
  have stored := holds.stored byte
  have index : loop.frameIndex = payload.length + 2 := by
    rw [holds.frameIndex, FrameFormat.Pending.bytes, FrameFormat.header, List.length_append,
      Nat.add_comm]
    rfl
  have notZero : ¬ loop.frameIndex = 0 := by omega
  have notOne : ¬ loop.frameIndex = 1 := by omega
  have regroup : (FrameFormat.Pending.body payload room).bytes ++ [byte] =
      format.header ++ (payload ++ [byte]) := List.append_assoc _ _ _
  rw [regroup] at stored
  have length : (payload ++ [byte]).length = payload.length + 1 := by
    rw [List.length_append, List.length_singleton]
  simp only [readByte, if_neg notZero, if_neg notOne, FrameFormat.Pending.push,
    speaks.frameLength]
  by_cases full : loop.frameIndex + 1 = format.frameLength
  · rw [if_pos full, dif_neg (by omega)]
    refine ⟨rfl, congrArg (loop.published ++ ·) ?_⟩
    have decoded :
        decodeFrame floatOfBits type (Function.update loop.frame loop.frameIndex byte) =
          sample floatOfBits type (format.header ++ (payload ++ [byte])) := by
      apply decodeFrame_congr floatOfBits formatOf
      intro position inside
      rw [← stored]
      exact (Bytes.ofList_toList (by omega)).symm
    rw [decoded, Option.toList_some, List.filterMap_cons]
    cases sample floatOfBits type (format.header ++ (payload ++ [byte])) <;> rfl
  · rw [if_neg full, dif_pos (by omega)]
    exact ⟨stored, (List.append_nil _).symm⟩

/-- A byte takes the loop where it takes the framer, and publishes the sample of the frame
that the framer completes. -/
theorem readByte_push (formatOf : FormatOf type format) (speaks : protocol.Speaks format)
    (holds : loop.Holds pending) (byte : Byte) :
    (loop.readByte floatOfBits type protocol byte).Holds (pending.push byte).1 ∧
      (loop.readByte floatOfBits type protocol byte).published =
        loop.published ++ (pending.push byte).2.toList.filterMap (sample floatOfBits type) := by
  have stored := holds.stored byte
  cases pending with
  | idle =>
      have index : loop.frameIndex = 0 := holds.frameIndex
      rw [index] at stored
      simp only [readByte, index, if_true, FrameFormat.Pending.push, ← speaks.header0]
      by_cases isHeader : byte = protocol.header0
      · rw [if_neg (not_not_intro isHeader), if_pos isHeader]
        refine ⟨?_, (List.append_nil _).symm⟩
        exact stored.trans (congrArg ([·]) (isHeader.trans speaks.header0))
      · rw [if_pos isHeader, if_neg isHeader]
        exact ⟨holds, (List.append_nil _).symm⟩
  | begun =>
      have index : loop.frameIndex = 1 := holds.frameIndex
      rw [index] at stored
      simp only [readByte, index, Nat.one_ne_zero, if_false, if_true, FrameFormat.Pending.push,
        ← speaks.header0, ← speaks.header1]
      by_cases isHeader : byte = protocol.header1
      · rw [if_neg (not_not_intro isHeader), if_pos isHeader]
        refine ⟨?_, (List.append_nil _).symm⟩
        exact stored.trans (congrArg ([format.header0, ·]) (isHeader.trans speaks.header1))
      · rw [if_pos isHeader, if_neg isHeader]
        by_cases again : byte = protocol.header0
        · simp only [if_pos again]
          refine ⟨?_, (List.append_nil _).symm⟩
          apply (Bytes.toList_update loop.frame 0 byte).trans
          exact congrArg ([·]) (again.trans speaks.header0)
        · simp only [if_neg again]
          exact ⟨rfl, (List.append_nil _).symm⟩
  | body payload room => exact readByte_body floatOfBits formatOf speaks room holds byte

/-- The same for the bytes of a read. -/
theorem readInput_pushAll (formatOf : FormatOf type format) (speaks : protocol.Speaks format)
    (holds : loop.Holds pending) (input : List Byte) :
    (loop.readInput floatOfBits type protocol input).Holds (pending.pushAll input).1 ∧
      (loop.readInput floatOfBits type protocol input).published =
        loop.published ++ (pending.pushAll input).2.filterMap (sample floatOfBits type) := by
  induction input generalizing loop pending with
  | nil => exact ⟨holds, (List.append_nil _).symm⟩
  | cons byte rest ih =>
      rcases readByte_push floatOfBits formatOf speaks holds byte with ⟨holds, published⟩
      rcases ih holds with ⟨holds, publishedRest⟩
      refine ⟨holds, publishedRest.trans ?_⟩
      rw [published, FrameFormat.Pending.pushAll, List.filterMap_append, List.append_assoc]

theorem readAll_pushAll (formatOf : FormatOf type format) (speaks : protocol.Speaks format)
    (holds : loop.Holds pending) (reads : List (List Byte)) :
    (loop.readAll floatOfBits type protocol reads).Holds (pending.pushAll reads.flatten).1 ∧
      (loop.readAll floatOfBits type protocol reads).published = loop.published ++
        (pending.pushAll reads.flatten).2.filterMap (sample floatOfBits type) := by
  rw [readAll_eq_readInput]
  exact readInput_pushAll floatOfBits formatOf speaks holds reads.flatten

omit [FloatArith F] in
theorem holds_idle (synchronised : loop.frameIndex = 0) :
    loop.Holds (FrameFormat.Pending.idle : format.Pending) := by
  rw [Holds, synchronised]
  rfl

end ReadLoop

theorem FormatOf.speaks {type : String} {protocol : ImuProtocol} {format : FrameFormat Byte}
    (formatOf : FormatOf type format) (known : protocolForType type = some protocol) :
    protocol.Speaks format := by
  rw [formatOf.protocol_eq] at known
  cases known
  exact ⟨rfl, rfl, rfl⟩

theorem FormatOf.readLoop_eq {type : String} {protocol : ImuProtocol} {format : FrameFormat Byte}
    (formatOf : FormatOf type format) (known : protocolForType type = some protocol)
    (reads : List (List Byte)) :
    readLoop floatOfBits type reads =
      some (ReadLoop.start.readAll floatOfBits type protocol reads) := by
  have framed : type ≠ "YESENSE" := by
    rintro rfl
    rcases formatOf with ⟨normalized, -⟩ | ⟨normalized, -⟩
    · exact absurd normalized (by decide)
    · exact absurd normalized (by decide)
  rw [readLoop, known]
  exact if_neg framed

/-- From the start of a frame on, valid frames back to back are published one by one. -/
theorem ReadLoop.readAll_frames {type : String} {protocol : ImuProtocol}
    {format : FrameFormat Byte} (formatOf : FormatOf type format)
    (speaks : protocol.Speaks format) {loop : ReadLoop F} (synchronised : loop.frameIndex = 0)
    {frames reads : List (List Byte)}
    (valid : ∀ frame ∈ frames, ValidFrame floatOfBits type format frame)
    (together : reads.flatten = frames.flatten) :
    (loop.readAll floatOfBits type protocol reads).frameIndex = 0 ∧
      (loop.readAll floatOfBits type protocol reads).published.map some =
        loop.published.map some ++ frames.map (sample floatOfBits type) := by
  have areFrames : ∀ frame ∈ frames, format.IsFrame frame :=
    fun frame member => (valid frame member).toIsFrame
  have holds : loop.Holds (FrameFormat.Pending.idle : format.Pending) := holds_idle synchronised
  rcases readAll_pushAll floatOfBits formatOf speaks holds reads with ⟨afterwards, published⟩
  rw [together, FrameFormat.Pending.pushAll_flatten areFrames] at afterwards published
  refine ⟨afterwards.frameIndex, ?_⟩
  rw [published, List.map_append]
  congr 1
  rw [List.map_filterMap_some_eq_filter_map_isSome, List.filter_eq_self]
  intro decoded member
  rcases List.mem_map.mp member with ⟨frame, isSent, rfl⟩
  exact (valid frame isSent).decodes

/-- The loop publishes the samples of the frames that a search for headers finds in the
stream, in this order, and never leaves its buffer. How the stream is split into reads does
not matter, and of valid frames back to back none is lost. -/
theorem readLoop_eq_reference (type : String) (format : FrameFormat Byte)
    (formatOf : FormatOf type format) :
    ∃ protocol, protocolForType type = some protocol ∧
      protocol.frameLength = format.frameLength ∧ protocol.frameLength ≤ 128 ∧
      (∀ reads, ∃ loop, readLoop floatOfBits type reads = some loop ∧
        loop.frameIndex < protocol.frameLength ∧
        loop.published =
          (format.frames reads.flatten).filterMap (ReadLoop.sample floatOfBits type)) ∧
      (∀ reads others, reads.flatten = others.flatten →
        readLoop floatOfBits type reads = readLoop floatOfBits type others) ∧
      (∀ (loop : ReadLoop F) (frames reads : List (List Byte)), loop.frameIndex = 0 →
        (∀ frame ∈ frames, ValidFrame floatOfBits type format frame) →
        reads.flatten = frames.flatten →
        (loop.readAll floatOfBits type protocol reads).frameIndex = 0 ∧
          (loop.readAll floatOfBits type protocol reads).published.map some =
            loop.published.map some ++ frames.map (ReadLoop.sample floatOfBits type)) ∧
      ∀ frame other : Bytes, (∀ index < protocol.frameLength, frame index = other index) →
        decodeFrame floatOfBits type frame = decodeFrame floatOfBits type other := by
  have known := formatOf.protocol_eq
  have speaks := formatOf.speaks known
  refine ⟨_, known, rfl, ?_, ?_, ?_, ?_, fun _ _ => decodeFrame_congr floatOfBits formatOf⟩
  · rcases formatOf with ⟨-, rfl⟩ | ⟨-, rfl⟩
    · decide
    · decide
  · intro reads
    have started : ReadLoop.start.Holds (F := F) (FrameFormat.Pending.idle : format.Pending) :=
      rfl
    rcases ReadLoop.readAll_pushAll floatOfBits formatOf speaks started reads with
      ⟨holds, published⟩
    refine ⟨_, formatOf.readLoop_eq floatOfBits known reads, ?_, ?_⟩
    · rw [holds.frameIndex]
      exact FrameFormat.Pending.length_bytes_lt _
    · rw [published, FrameFormat.Pending.pushAll_frames]
      rfl
  · intro reads others same
    rw [formatOf.readLoop_eq floatOfBits known, formatOf.readLoop_eq floatOfBits known,
      ReadLoop.readAll_eq_readInput, ReadLoop.readAll_eq_readInput, same]
  · intro loop frames reads synchronised valid together
    exact ReadLoop.readAll_frames floatOfBits formatOf speaks synchronised valid together

/-- The frame of a sensor at rest that measures nothing but zeros. -/
def zeroXsens : List Byte :=
  [0xfa, 0xff, 0, 0, 0x20, 0x10, 0x10, 0, 0, 0, 0, 0, 0, 0, 0, 0, 0, 0, 0,
    0x40, 0x20, 0x0c, 0, 0, 0, 0, 0, 0, 0, 0, 0, 0, 0, 0,
    0x80, 0x20, 0x0c, 0, 0, 0, 0, 0, 0, 0, 0, 0, 0, 0, 0, 0xa9]

theorem readLoop_eq_reference_zero :
    (readLoop (fun _ => (0 : ℚ)) "Xsens" [zeroXsens.take 20, [], zeroXsens.drop 20]).map
        ReadLoop.published =
      some [{ rpy := #v[0, 0, 0], gyr := #v[0, 0, 0], acc := #v[0, 0, 0] }] := by
  rcases readLoop_eq_reference (fun _ => (0 : ℚ)) "Xsens" xsensFormat (.inl ⟨by decide, rfl⟩) with
    ⟨protocol, -, -, -, published, -⟩
  rcases published [zeroXsens.take 20, [], zeroXsens.drop 20] with ⟨loop, read, -, samples⟩
  have whole : [zeroXsens.take 20, [], zeroXsens.drop 20].flatten = zeroXsens ++ [] := rfl
  have isFrame : xsensFormat.IsFrame zeroXsens := ⟨rfl, by decide⟩
  rw [whole, FrameFormat.frames_append isFrame, FrameFormat.frames_of_short (by decide)] at samples
  rw [read, Option.map_some, samples]
  decide +kernel

end RmdCanSdk
