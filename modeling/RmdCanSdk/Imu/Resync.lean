import RmdCanSdk.Imu.ReadLoop

/-!
# Resynchronisation

Inside of a frame the read loop does not look for a header. A device whose frames contain
the header pair in their payload can therefore keep it out of step for good.
-/

namespace RmdCanSdk

variable {F : Type} [FloatArith F] (floatOfBits : BitVec 32 → F)

/-- The samples published for a stream, in whatever reads it arrives. -/
def published (type : String) (stream : List Byte) : List (ImuStruct F) :=
  ((readLoop floatOfBits type [stream]).map ReadLoop.published).getD []

/-- The last byte of a frame publishes the sample of this frame. -/
def PublishedAfter (type : String) (stream frame : List Byte) : Prop :=
  ∃ sample, decodeFrame floatOfBits type (Bytes.ofList frame) = some sample ∧
    published floatOfBits type (stream ++ frame) =
      published floatOfBits type (stream ++ frame.dropLast) ++ [sample]

/-- One of the frames that arrive back to back after a stream is published. -/
def PublishesOne (type : String) (stream : List Byte) (frames : List (List Byte)) : Prop :=
  ∃ front frame back, frames = front ++ frame :: back ∧
    PublishedAfter floatOfBits type (stream ++ front.flatten) frame

variable {type : String} {format : FrameFormat Byte}

theorem published_eq (formatOf : FormatOf type format) (stream : List Byte) :
    published floatOfBits type stream =
      ((FrameFormat.Pending.idle : format.Pending).pushAll stream).2.filterMap
        (ReadLoop.sample floatOfBits type) := by
  have known := formatOf.protocol_eq
  have started : ReadLoop.start.Holds (F := F) (FrameFormat.Pending.idle : format.Pending) := rfl
  rcases ReadLoop.readAll_pushAll floatOfBits formatOf (formatOf.speaks known) started [stream]
    with ⟨-, published⟩
  rw [RmdCanSdk.published, formatOf.readLoop_eq floatOfBits known]
  rw [List.flatten_singleton] at published
  exact published

/-- A valid frame is published exactly if the framer takes it. -/
theorem publishedAfter_iff (formatOf : FormatOf type format) (stream : List Byte)
    {frame : List Byte} (valid : ValidFrame floatOfBits type format frame) :
    PublishedAfter floatOfBits type stream frame ↔
      ((FrameFormat.Pending.idle : format.Pending).pushAll stream).1.Takes frame := by
  have isFrame := valid.toIsFrame
  rcases Option.isSome_iff_exists.mp valid.decodes with ⟨sample, decoded⟩
  simp only [PublishedAfter, published_eq floatOfBits formatOf,
    FrameFormat.Pending.pushAll_append, List.filterMap_append, List.append_assoc,
    List.append_cancel_left_eq]
  constructor
  · rintro ⟨other, -, appended⟩
    cases state : ((FrameFormat.Pending.idle : format.Pending).pushAll stream).1 with
    | idle => exact FrameFormat.Pending.takes_of_outside (.inl rfl) isFrame
    | begun => exact FrameFormat.Pending.takes_of_outside (.inr rfl) isFrame
    | body payload room =>
        rw [state, FrameFormat.Pending.pushAll_body_dropLast isFrame] at appended
        exact absurd (congrArg List.length appended) (by simp)
  · intro taken
    refine ⟨sample, decoded, ?_⟩
    rw [taken, List.filterMap_append]
    congr 1
    exact List.filterMap_cons_some decoded

theorem publishesOne_iff (formatOf : FormatOf type format) (stream : List Byte)
    {frames : List (List Byte)}
    (valid : ∀ frame ∈ frames, ValidFrame floatOfBits type format frame) :
    PublishesOne floatOfBits type stream frames ↔
      ((FrameFormat.Pending.idle : format.Pending).pushAll stream).1.TakesOne frames := by
  rw [FrameFormat.Pending.takesOne_iff, PublishesOne]
  constructor
  · rintro ⟨front, frame, back, rfl, published⟩
    have member : frame ∈ front ++ frame :: back :=
      List.mem_append_right _ List.mem_cons_self
    rw [publishedAfter_iff floatOfBits formatOf _ (valid frame member),
      FrameFormat.Pending.pushAll_append] at published
    exact ⟨front, frame, back, rfl, published⟩
  · rintro ⟨front, frame, back, rfl, taken⟩
    have member : frame ∈ front ++ frame :: back :=
      List.mem_append_right _ List.mem_cons_self
    refine ⟨front, frame, back, rfl, ?_⟩
    rw [publishedAfter_iff floatOfBits formatOf _ (valid frame member),
      FrameFormat.Pending.pushAll_append]
    exact taken

/-- After any stream one of the frames is published, unless they can lock the loop out. So
enough frames of a device are never all missed exactly if no frame of the device contains
the header pair a second time. -/
theorem publishesOne_iff_not_lockout (type : String) (format : FrameFormat Byte)
    (formatOf : FormatOf type format) :
    (∀ frames, (∀ frame ∈ frames, ValidFrame floatOfBits type format frame) →
      ((∀ stream, PublishesOne floatOfBits type stream frames) ↔ ¬ format.Lockout 1 frames)) ∧
    ∀ sent : List Byte → Prop,
      (∀ frame, sent frame → ValidFrame floatOfBits type format frame) →
      ((∃ count, ∀ stream frames, count ≤ frames.length → (∀ frame ∈ frames, sent frame) →
        PublishesOne floatOfBits type stream frames) ↔
        ∀ frame, sent frame →
          ∀ inside, 1 ≤ inside → ¬ format.header <+: frame.drop inside) := by
  constructor
  · intro frames valid
    rw [← FrameFormat.Pending.takesOne_iff_not_lockout
      fun frame member => (valid frame member).toIsFrame]
    exact forall_congr' fun stream => publishesOne_iff floatOfBits formatOf stream valid
  · intro sent valid
    rw [← FrameFormat.exists_count_iff fun frame isSent => (valid frame isSent).toIsFrame]
    apply exists_congr
    intro count
    constructor
    · intro publishes stream frames enough areSent
      apply (publishesOne_iff floatOfBits formatOf stream _).mp
      · exact publishes stream frames enough areSent
      · exact fun frame member => valid frame (areSent frame member)
    · intro takes stream frames enough areSent
      apply (publishesOne_iff floatOfBits formatOf stream _).mpr
      · exact takes stream frames enough areSent
      · exact fun frame member => valid frame (areSent frame member)

theorem publishesOne_zeroXsens :
    ∃ count, ∀ stream frames, count ≤ frames.length → (∀ frame ∈ frames, frame = zeroXsens) →
      PublishesOne (fun _ => (0 : ℚ)) "Xsens" stream frames := by
  have valid : ∀ frame, frame = zeroXsens →
      ValidFrame (fun _ => (0 : ℚ)) "Xsens" xsensFormat frame := by
    rintro _ rfl
    refine ⟨⟨rfl, by decide⟩, ?_⟩
    rw [isSome_decodeFrame_xsens _ (by decide)]
    decide +kernel
  apply ((publishesOne_iff_not_lockout (fun _ => (0 : ℚ)) "Xsens" xsensFormat
    (.inl ⟨by decide, rfl⟩)).2 (· = zeroXsens) valid).mpr
  rintro _ rfl inside positive
  by_cases inFrame : inside < 50
  · have none : ∀ position < 50, 1 ≤ position →
        ¬ xsensFormat.header <+: zeroXsens.drop position := by decide
    exact none inside inFrame positive
  · rw [List.drop_eq_nil_of_le (by simpa [zeroXsens] using inFrame)]
    decide

/-- The frame of a sensor at rest with a roll angle of which two bytes are a header. -/
def rollXsens : List Byte :=
  [0xfa, 0xff, 0, 0, 0x20, 0x10, 0x10, 0x41, 0x20, 0xfa, 0xff, 0, 0, 0, 0, 0, 0, 0, 0,
    0x40, 0x20, 0x0c, 0, 0, 0, 0, 0, 0, 0, 0, 0, 0, 0, 0,
    0x80, 0x20, 0x0c, 0, 0, 0, 0, 0, 0, 0, 0, 0, 0, 0, 0, 0x4f]

theorem rollXsens_valid (floatOfBits : BitVec 32 → ℚ) :
    ValidFrame floatOfBits "Xsens" xsensFormat rollXsens where
  length := rfl
  starts := by decide
  decodes := by
    rw [isSome_decodeFrame_xsens floatOfBits (by decide)]
    decide +kernel

/-- A part of one frame and a part of the next, from the second header on. -/
def shiftedXsens : List Byte := rollXsens.drop 9 ++ rollXsens.take 9

/-- The framer that begins with the second header takes shifted frames only. -/
theorem pushAll_rollXsens (count : Nat) :
    ((FrameFormat.Pending.idle : xsensFormat.Pending).pushAll
      (rollXsens.drop 9 ++ (List.replicate count rollXsens).flatten)).2 =
        List.replicate count shiftedXsens := by
  have room : ([] ++ rollXsens.drop 11).length + 2 < xsensFormat.frameLength := by decide
  have caught : (FrameFormat.Pending.idle : xsensFormat.Pending).pushAll (rollXsens.drop 9) =
      (.body ([] ++ rollXsens.drop 11) room, []) :=
    (FrameFormat.Pending.pushAll_header (.inl rfl) _).trans (FrameFormat.Pending.pushAll_fill room)
  have next : (FrameFormat.Pending.body ([] ++ rollXsens.drop 11) room).pushAll rollXsens =
      (.body ([] ++ rollXsens.drop 11) room, [shiftedXsens]) := by
    have full : ([] ++ rollXsens.drop 11).length + 2 + (rollXsens.take 9).length =
        xsensFormat.frameLength := rfl
    apply (FrameFormat.Pending.pushAll_inside full (rollXsens.drop 9)).trans
    rw [caught]
    rfl
  have repeated : ((FrameFormat.Pending.body ([] ++ rollXsens.drop 11) room).pushAll
      (List.replicate count rollXsens).flatten).2 = List.replicate count shiftedXsens := by
    induction count with
    | zero => rfl
    | succ count ih =>
        rw [List.replicate_succ, List.flatten_cons, FrameFormat.Pending.pushAll_append, next,
          List.replicate_succ, ← ih]
        rfl
  rw [FrameFormat.Pending.pushAll_append, caught]
  exact repeated

/-- However many frames of one kind follow, nothing is ever published. -/
theorem published_rollXsens (floatOfBits : BitVec 32 → ℚ) (count : Nat) :
    published floatOfBits "Xsens"
      (rollXsens.drop 9 ++ (List.replicate count rollXsens).flatten) = [] := by
  have invalid : ReadLoop.sample floatOfBits "Xsens" shiftedXsens = none := by
    have upper : normalizeType "Xsens" = "XSENS" := by decide
    have checked : validXsens (Bytes.ofList shiftedXsens) = false := by decide +kernel
    rw [← Option.isNone_iff_eq_none, ← Option.not_isSome, ReadLoop.sample,
      isSome_decodeFrame_xsens floatOfBits upper, checked]
    rfl
  rw [published_eq floatOfBits (.inl ⟨by decide, rfl⟩), pushAll_rollXsens]
  induction count with
  | zero => rfl
  | succ count ih => rw [List.replicate_succ, List.filterMap_cons_none invalid, ih]

theorem readLoop_never_resynchronises :
    ¬ ∃ (floatOfBits : BitVec 32 → ℚ) (count : Nat), ∀ stream frames, count ≤ frames.length →
      (∀ frame ∈ frames, ValidFrame floatOfBits "Xsens" xsensFormat frame) →
        PublishesOne floatOfBits "Xsens" stream frames := by
  rintro ⟨floatOfBits, count, bounded⟩
  have all : ∀ frame ∈ List.replicate count rollXsens, frame = rollXsens :=
    fun frame member => List.eq_of_mem_replicate member
  have publishes := bounded (rollXsens.drop 9) (List.replicate count rollXsens)
    (Nat.le_of_eq List.length_replicate.symm)
    fun frame member => all frame member ▸ rollXsens_valid floatOfBits
  rcases publishes with ⟨front, frame, back, split, sample, -, appended⟩
  have isRoll : frame = rollXsens :=
    all frame (split ▸ List.mem_append_right _ List.mem_cons_self)
  have areRolls : front = List.replicate front.length rollXsens := by
    apply List.eq_replicate_of_mem
    exact fun other member => all other (split ▸ List.mem_append_left _ member)
  have whole : rollXsens.drop 9 ++ front.flatten ++ frame =
      rollXsens.drop 9 ++ (List.replicate (front.length + 1) rollXsens).flatten := by
    rw [List.replicate_succ', List.flatten_append, List.flatten_singleton, ← areRolls, isRoll,
      List.append_assoc]
  rw [whole, published_rollXsens] at appended
  exact absurd (congrArg List.length appended) (by simp)

end RmdCanSdk
