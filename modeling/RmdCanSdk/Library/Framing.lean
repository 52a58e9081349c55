import Mathlib.Data.List.Basic

/-!
# Frames in a byte stream

Frames of one length that begin with a pair of different bytes, found in a stream by
searching for the pair. The stream may arrive byte by byte: a framer that keeps the bytes
of the frame it is in delivers the same frames. It does not look for a header inside of a
frame it has begun, so frames that contain the pair again can be missed; `Lockout` says
which sequences of frames can be missed altogether.
-/

/-- Frames of one length that begin with a pair of different bytes. -/
structure FrameFormat (α : Type) where
  frameLength : Nat
  header0 : α
  header1 : α
  distinct : header0 ≠ header1
  long : 2 < frameLength

namespace FrameFormat

variable {α : Type} [DecidableEq α] (format : FrameFormat α)

def header : List α := [format.header0, format.header1]

/-! ## The frames of a stream -/

/-- A stream from its first header on. -/
def fromHeader : List α → List α
  | [] => []
  | byte :: rest => if format.header <+: byte :: rest then byte :: rest else fromHeader rest

theorem length_fromHeader_le (stream : List α) :
    (format.fromHeader stream).length ≤ stream.length := by
  induction stream with
  | nil => exact Nat.le_refl _
  | cons byte rest ih =>
      rw [fromHeader]
      split
      · exact Nat.le_refl _
      · exact Nat.le_succ_of_le ih

/-- The frames of a stream: find the first header, take a frame from there, and go on
right after it. -/
def frames (stream : List α) : List (List α) :=
  if format.frameLength ≤ (format.fromHeader stream).length then
    (format.fromHeader stream).take format.frameLength ::
      frames ((format.fromHeader stream).drop format.frameLength)
  else []
termination_by stream.length
decreasing_by
  have shorter := format.length_fromHeader_le stream
  have long := format.long
  rw [List.length_drop]
  omega

variable {format}

omit [DecidableEq α] in
theorem starts_iff {first second : α} {rest : List α} :
    format.header <+: first :: second :: rest ↔
      first = format.header0 ∧ second = format.header1 := by
  simp only [header, List.cons_prefix_cons, List.nil_prefix, and_true, eq_comm]

omit [DecidableEq α] in
theorem head_of_starts {byte : α} {rest : List α} (starts : format.header <+: byte :: rest) :
    byte = format.header0 :=
  (List.cons_prefix_cons.mp starts).1.symm

variable (format) in
/-- The search ends at the first position of a header, or at the end of the stream. -/
theorem fromHeader_eq_drop (stream : List α) : ∃ position,
    format.fromHeader stream = stream.drop position ∧
      (∀ earlier < position, ¬ format.header <+: stream.drop earlier) ∧
      (format.header <+: stream.drop position ∨ stream.drop position = []) := by
  induction stream with
  | nil =>
      refine ⟨0, rfl, ?_, .inr rfl⟩
      intro earlier impossible
      exact absurd impossible (Nat.not_lt_zero _)
  | cons byte rest ih =>
      by_cases starts : format.header <+: byte :: rest
      · refine ⟨0, by rw [fromHeader, if_pos starts]; rfl, ?_, .inl starts⟩
        intro earlier impossible
        exact absurd impossible (Nat.not_lt_zero _)
      · rcases ih with ⟨position, found, first, ends⟩
        refine ⟨position + 1, by rw [fromHeader, if_neg starts, found]; rfl, ?_, ends⟩
        intro earlier before
        cases earlier with
        | zero => exact starts
        | succ earlier => exact first earlier (Nat.lt_of_succ_lt_succ before)

theorem not_starts_of_fromHeader_eq_nil {stream : List α}
    (none : format.fromHeader stream = []) (position : Nat) :
    ¬ format.header <+: stream.drop position := by
  intro starts
  rcases fromHeader_eq_drop format stream with ⟨found, isDrop, before, -⟩
  by_cases earlier : position < found
  · exact before position earlier starts
  · have empty : stream.drop position = [] := by
      rw [List.drop_eq_nil_iff]
      have end_ := List.drop_eq_nil_iff.mp (isDrop.symm.trans none)
      omega
    rw [empty] at starts
    exact absurd (List.prefix_nil.mp starts) (List.cons_ne_nil _ _)

theorem fromHeader_of_header {stream : List α} (starts : format.header <+: stream) :
    format.fromHeader stream = stream := by
  cases stream with
  | nil => rfl
  | cons byte rest => exact if_pos starts

theorem fromHeader_cons_of_not {byte : α} {rest : List α}
    (starts : ¬ format.header <+: byte :: rest) :
    format.fromHeader (byte :: rest) = format.fromHeader rest :=
  if_neg starts

/-- A byte that begins no header is skipped. -/
theorem frames_cons_of_not {byte : α} {rest : List α}
    (starts : ¬ format.header <+: byte :: rest) :
    format.frames (byte :: rest) = format.frames rest := by
  rw [frames, fromHeader_cons_of_not starts]
  conv => rhs; rw [frames]

theorem frames_of_short {stream : List α} (short : stream.length < format.frameLength) :
    format.frames stream = [] := by
  rw [frames, if_neg]
  have shorter := format.length_fromHeader_le stream
  omega

/-- Bytes of one frame. -/
structure IsFrame (format : FrameFormat α) (frame : List α) : Prop where
  length : frame.length = format.frameLength
  starts : format.header <+: frame

theorem frames_append {frame : List α} (isFrame : format.IsFrame frame) (rest : List α) :
    format.frames (frame ++ rest) = frame :: format.frames rest := by
  have starts : format.header <+: frame ++ rest :=
    isFrame.starts.trans (List.prefix_append _ _)
  have long : format.frameLength ≤ (frame ++ rest).length := by
    rw [List.length_append, isFrame.length]
    omega
  rw [frames, fromHeader_of_header starts, if_pos long, ← isFrame.length, List.take_left,
    List.drop_left]

/-! ## The framer -/

variable (format) in
/-- What the framer keeps between two bytes: nothing, the first byte of a header, or a
header with a part of the payload. -/
inductive Pending where
  | idle
  | begun
  | body (payload : List α) (room : payload.length + 2 < format.frameLength)

namespace Pending

def bytes : format.Pending → List α
  | idle => []
  | begun => [format.header0]
  | body payload _ => format.header ++ payload

/-- One byte: the state after it, and the frame it completes. -/
def push : format.Pending → α → format.Pending × Option (List α)
  | idle, byte => if byte = format.header0 then (begun, none) else (idle, none)
  | begun, byte =>
      if byte = format.header1 then (body [] format.long, none)
      else if byte = format.header0 then (begun, none)
      else (idle, none)
  | body payload _, byte =>
      if room : (payload ++ [byte]).length + 2 < format.frameLength then
        (body (payload ++ [byte]) room, none)
      else (idle, some (format.header ++ (payload ++ [byte])))

/-- A stream: the state after it, and the frames completed in it. -/
def pushAll (pending : format.Pending) : List α → format.Pending × List (List α)
  | [] => (pending, [])
  | byte :: rest =>
      let (next, frame) := pending.push byte
      let (last, frames) := next.pushAll rest
      (last, frame.toList ++ frames)

omit [DecidableEq α] in
theorem length_bytes_lt (pending : format.Pending) :
    pending.bytes.length < format.frameLength := by
  have long := format.long
  cases pending with
  | idle => exact Nat.lt_trans (Nat.succ_pos 1) long
  | begun => exact Nat.lt_of_succ_lt long
  | body payload room =>
      simp only [bytes, header, List.length_append, List.length_cons, List.length_nil]
      omega

theorem pushAll_append (pending : format.Pending) (front back : List α) :
    pending.pushAll (front ++ back) =
      (((pending.pushAll front).1.pushAll back).1,
        (pending.pushAll front).2 ++ ((pending.pushAll front).1.pushAll back).2) := by
  induction front generalizing pending with
  | nil => rfl
  | cons byte rest ih =>
      simp only [List.cons_append, pushAll, ih, List.append_assoc]

/-- The framer delivers the frames of the bytes it keeps and of those it gets. -/
theorem pushAll_frames (pending : format.Pending) (stream : List α) :
    (pending.pushAll stream).2 = format.frames (pending.bytes ++ stream) := by
  induction stream generalizing pending with
  | nil =>
      rw [List.append_nil, frames_of_short pending.length_bytes_lt]
      rfl
  | cons byte rest ih =>
      cases pending with
      | idle =>
          simp only [pushAll, push]
          split
          next isHeader =>
            rw [ih, isHeader]
            rfl
          next notHeader =>
            rw [ih]
            exact (frames_cons_of_not fun starts => notHeader (head_of_starts starts)).symm
      | begun =>
          simp only [pushAll, push]
          split
          next isHeader =>
            rw [ih, isHeader]
            rfl
          next notHeader =>
            have skipped : ¬ format.header <+: format.header0 :: byte :: rest :=
              fun starts => notHeader (starts_iff.mp starts).2
            rw [bytes, List.singleton_append, frames_cons_of_not skipped]
            split
            next again =>
              rw [ih, again]
              rfl
            next other =>
              rw [ih]
              exact (frames_cons_of_not fun starts => other (head_of_starts starts)).symm
      | body payload room =>
          have regroup : (body payload room).bytes ++ byte :: rest =
              format.header ++ (payload ++ [byte]) ++ rest := by
            simp only [bytes, List.append_assoc, List.singleton_append]
          rw [regroup]
          simp only [pushAll, push]
          split
          next more =>
            rw [ih]
            rfl
          next full =>
            have isFrame : format.IsFrame (format.header ++ (payload ++ [byte])) := by
              refine ⟨?_, List.prefix_append _ _⟩
              simp only [header, List.length_append, List.length_cons, List.length_nil] at full ⊢
              omega
            rw [ih, frames_append isFrame]
            rfl

/-! ## Frames that are missed -/

theorem pushAll_short {pending : format.Pending} {stream : List α}
    (short : (pending.bytes ++ stream).length < format.frameLength) :
    (pending.pushAll stream).2 = [] := by
  rw [pushAll_frames, frames_of_short short]

/-- Bytes that do not complete a frame are kept. -/
theorem pushAll_fill {payload more : List α} {room : payload.length + 2 < format.frameLength}
    (still : (payload ++ more).length + 2 < format.frameLength) :
    (body payload room).pushAll more = (body (payload ++ more) still, []) := by
  induction more generalizing payload with
  | nil => simp only [pushAll, List.append_nil]
  | cons byte rest ih =>
      have regroup : payload ++ byte :: rest = payload ++ [byte] ++ rest :=
        List.append_cons payload byte rest
      simp only [regroup] at still ⊢
      have next : (payload ++ [byte]).length + 2 < format.frameLength := by
        rw [List.length_append] at still
        omega
      simp only [pushAll, push, dif_pos next, ih still]
      rfl

/-- The bytes that complete a frame. -/
theorem pushAll_complete {payload more : List α}
    {room : payload.length + 2 < format.frameLength}
    (full : (payload ++ more).length + 2 = format.frameLength) :
    (body payload room).pushAll more = (idle, [format.header ++ (payload ++ more)]) := by
  induction more generalizing payload with
  | nil =>
      rw [List.append_nil] at full
      omega
  | cons byte rest ih =>
      have regroup : payload ++ byte :: rest = payload ++ [byte] ++ rest :=
        List.append_cons payload byte rest
      simp only [regroup] at full ⊢
      simp only [pushAll, push]
      split
      next next =>
        rw [ih full]
        rfl
      next last =>
        have empty : rest = [] := by
          apply List.eq_nil_of_length_eq_zero
          rw [List.length_append] at full
          omega
        rw [empty, List.append_nil]
        rfl

/-- The framer takes a frame as it stands: the last byte completes the frame. -/
def Takes (pending : format.Pending) (frame : List α) : Prop :=
  (pending.pushAll frame).2 = (pending.pushAll frame.dropLast).2 ++ [frame]

/-- Outside of a frame the framer recognises a header. -/
theorem pushAll_header {pending : format.Pending} (outside : pending = idle ∨ pending = begun)
    (payload : List α) :
    pending.pushAll (format.header ++ payload) = (body [] format.long).pushAll payload := by
  have different : format.header0 ≠ format.header1 := format.distinct
  rcases outside with rfl | rfl
  · simp [header, pushAll, push]
  · simp [header, pushAll, push, different]

theorem pushAll_frame {pending : format.Pending} (outside : pending = idle ∨ pending = begun)
    {frame : List α} (isFrame : format.IsFrame frame) :
    pending.pushAll frame = (idle, [frame]) := by
  rcases isFrame with ⟨length, payload, rfl⟩
  rw [pushAll_header outside]
  apply pushAll_complete
  simp only [header, List.length_append, List.length_cons, List.length_nil] at length ⊢
  omega

/-- Frames back to back are delivered as they are. -/
theorem pushAll_flatten {frames : List (List α)}
    (areFrames : ∀ frame ∈ frames, format.IsFrame frame) :
    (idle : format.Pending).pushAll frames.flatten = (idle, frames) := by
  induction frames with
  | nil => rfl
  | cons frame rest ih =>
      rw [List.forall_mem_cons] at areFrames
      rw [List.flatten_cons, pushAll_append, pushAll_frame (.inl rfl) areFrames.1,
        ih areFrames.2]
      rfl

theorem takes_of_outside {pending : format.Pending}
    (outside : pending = idle ∨ pending = begun) {frame : List α}
    (isFrame : format.IsFrame frame) : pending.Takes frame := by
  have long := format.long
  rw [Takes, pushAll_frame outside isFrame]
  rcases isFrame with ⟨length, payload, rfl⟩
  simp only [header, List.length_append, List.length_cons, List.length_nil] at length
  have nonempty : payload ≠ [] := by
    rintro rfl
    simp only [List.length_nil] at length
    omega
  rw [List.dropLast_append_of_ne_nil nonempty, pushAll_header outside, pushAll_short]
  · rfl
  · simp only [bytes, header, List.length_append, List.length_cons, List.length_nil,
      List.length_dropLast]
    omega

/-- Inside of a frame the framer completes that one first. -/
theorem pushAll_inside {payload front : List α} {room : payload.length + 2 < format.frameLength}
    (full : payload.length + 2 + front.length = format.frameLength) (back : List α) :
    (body payload room).pushAll (front ++ back) =
      (((idle : format.Pending).pushAll back).1,
        (format.header ++ (payload ++ front)) :: ((idle : format.Pending).pushAll back).2) := by
  have complete : (payload ++ front).length + 2 = format.frameLength := by
    rw [List.length_append]
    omega
  rw [pushAll_append, pushAll_complete complete]
  rfl

omit [DecidableEq α] in
/-- A frame as the end of another one, of which some bytes are missing, and a rest. -/
theorem split_frame {payload frame : List α} (room : payload.length + 2 < format.frameLength)
    (isFrame : format.IsFrame frame) :
    ∃ front back, frame = front ++ back ∧
      payload.length + 2 + front.length = format.frameLength ∧
      back = frame.drop (format.frameLength - (payload.length + 2)) ∧
      back ≠ [] ∧ back.length < format.frameLength := by
  have length := isFrame.length
  refine ⟨frame.take (format.frameLength - (payload.length + 2)), _,
    (List.take_append_drop _ _).symm, ?_, rfl, ?_, ?_⟩
  · rw [List.length_take]
    omega
  · intro empty
    rw [List.drop_eq_nil_iff] at empty
    omega
  · rw [List.length_drop]
    omega

/-- Inside of a frame, the last byte of the next one completes nothing. -/
theorem pushAll_body_dropLast {payload : List α}
    {room : payload.length + 2 < format.frameLength} {frame : List α}
    (isFrame : format.IsFrame frame) :
    ((body payload room).pushAll frame.dropLast).2 = ((body payload room).pushAll frame).2 := by
  rcases split_frame room isFrame with ⟨front, back, rfl, full, -, nonempty, short⟩
  have noneIn : ∀ stream : List α, stream.length < format.frameLength →
      ((idle : format.Pending).pushAll stream).2 = [] := fun stream short => pushAll_short short
  have shorter : back.dropLast.length < format.frameLength := by
    rw [List.length_dropLast]
    omega
  rw [List.dropLast_append_of_ne_nil nonempty, pushAll_inside full, pushAll_inside full,
    noneIn back short, noneIn _ shorter]

theorem not_takes_body {payload : List α} {room : payload.length + 2 < format.frameLength}
    {frame : List α} (isFrame : format.IsFrame frame) :
    ¬ (body payload room).Takes frame := by
  rw [Takes, pushAll_body_dropLast isFrame]
  intro impossible
  exact absurd (congrArg List.length impossible) (by simp)

/-- Searching for a header, the framer is in the frame that the first header begins. -/
theorem pushAll_idle (stream : List α) (short : stream.length < format.frameLength) :
    (format.fromHeader stream = [] ∧
      (((idle : format.Pending).pushAll stream).1 = idle ∨
        ((idle : format.Pending).pushAll stream).1 = begun)) ∨
    ∃ payload room, ((idle : format.Pending).pushAll stream).1 = body payload room ∧
      format.fromHeader stream = format.header ++ payload := by
  induction stream with
  | nil => exact .inl ⟨rfl, .inl rfl⟩
  | cons byte rest ih =>
      have shorter : rest.length < format.frameLength := Nat.lt_of_succ_lt short
      by_cases starts : format.header <+: byte :: rest
      · rw [fromHeader_of_header starts]
        rcases starts with ⟨payload, found⟩
        rw [← found] at short ⊢
        have room : ([] ++ payload).length + 2 < format.frameLength := by
          simp only [header, List.length_append, List.length_cons, List.length_nil] at short ⊢
          omega
        refine .inr ⟨payload, room, ?_, rfl⟩
        rw [pushAll_header (.inl rfl), pushAll_fill room]
        rfl
      · rw [fromHeader_cons_of_not starts]
        by_cases isHeader : byte = format.header0
        · cases rest with
          | nil => exact .inl ⟨rfl, .inr (by simp [pushAll, push, isHeader])⟩
          | cons second rest =>
              have notHeader : second ≠ format.header1 :=
                fun isSecond => starts (starts_iff.mpr ⟨isHeader, isSecond⟩)
              have same : ((idle : format.Pending).pushAll (byte :: second :: rest)).1 =
                  ((idle : format.Pending).pushAll (second :: rest)).1 := by
                simp only [pushAll, push, if_pos isHeader, if_neg notHeader]
              rw [same]
              exact ih shorter
        · have same : ((idle : format.Pending).pushAll (byte :: rest)).1 =
              ((idle : format.Pending).pushAll rest).1 := by
            simp only [pushAll, push, if_neg isHeader]
          rw [same]
          exact ih shorter

/-- One of the frames is taken. -/
def TakesOne (pending : format.Pending) : List (List α) → Prop
  | [] => False
  | frame :: rest => pending.Takes frame ∨ (pending.pushAll frame).1.TakesOne rest

/-- One of the frames is taken after those before it. -/
theorem takesOne_iff {pending : format.Pending} {frames : List (List α)} :
    pending.TakesOne frames ↔ ∃ front frame back, frames = front ++ frame :: back ∧
      (pending.pushAll front.flatten).1.Takes frame := by
  induction frames generalizing pending with
  | nil => simp [TakesOne]
  | cons head rest ih =>
      rw [TakesOne, ih]
      constructor
      · rintro (taken | ⟨front, frame, back, rfl, taken⟩)
        · exact ⟨[], head, rest, rfl, taken⟩
        · refine ⟨head :: front, frame, back, rfl, ?_⟩
          rw [List.flatten_cons, pushAll_append]
          exact taken
      · rintro ⟨front, frame, back, split, taken⟩
        cases front with
        | nil =>
            cases split
            exact .inl taken
        | cons first front =>
            cases split
            rw [List.flatten_cons, pushAll_append] at taken
            exact .inr ⟨front, frame, back, rfl, taken⟩

end Pending

variable (format) in
/-- There is a header in every frame but the last, from a position on that does not
decrease from frame to frame. -/
def Lockout (position : Nat) : List (List α) → Prop
  | [] | [_] => True
  | frame :: next :: rest => ∃ inside, position ≤ inside ∧
      format.header <+: frame.drop inside ∧ Lockout inside (next :: rest)

omit [DecidableEq α] in
theorem Lockout.mono {position later : Nat} (le : position ≤ later) {frames : List (List α)}
    (lockout : format.Lockout later frames) : format.Lockout position frames := by
  match frames, lockout with
  | [], _ => trivial
  | [_], _ => trivial
  | frame :: next :: rest, ⟨inside, beyond, header, lockout⟩ =>
      exact ⟨inside, Nat.le_trans le beyond, header, lockout⟩

namespace Pending

/-- Inside of a frame, the framer misses all frames exactly if they lock it out. -/
theorem not_takesOne_body {payload : List α} {room : payload.length + 2 < format.frameLength}
    {frames : List (List α)} (areFrames : ∀ frame ∈ frames, format.IsFrame frame) :
    ¬ (body payload room).TakesOne frames ↔
      format.Lockout (format.frameLength - (payload.length + 2)) frames := by
  induction frames generalizing payload with
  | nil => simp [TakesOne, Lockout]
  | cons frame others ih =>
      rw [List.forall_mem_cons] at areFrames
      rcases areFrames with ⟨isFrame, areFrames⟩
      rcases split_frame room isFrame with ⟨front, back, whole, full, isBack, -, short⟩
      have next : ((body payload room).pushAll frame).1 = (idle.pushAll back).1 := by
        rw [whole, pushAll_inside full]
      rw [TakesOne, not_or, next, and_iff_right (not_takes_body isFrame)]
      cases others with
      | nil => simp [TakesOne, Lockout]
      | cons second rest =>
          have first := areFrames second List.mem_cons_self
          have places : ∀ inside, format.frameLength - (payload.length + 2) ≤ inside →
              frame.drop inside =
                back.drop (inside - (format.frameLength - (payload.length + 2))) := by
            intro inside beyond
            rw [isBack, List.drop_drop]
            congr 1
            omega
          have length := congrArg List.length isBack
          rw [List.length_drop, isFrame.length] at length
          rw [Lockout]
          rcases pushAll_idle back short with ⟨none, outside⟩ | ⟨later, room', state, found⟩
          · constructor
            · intro missed
              exact absurd (.inl (takes_of_outside outside first)) missed
            · rintro ⟨inside, beyond, starts, -⟩
              rw [places inside beyond] at starts
              exact absurd starts (not_starts_of_fromHeader_eq_nil none _)
          · rcases fromHeader_eq_drop format back with ⟨position, isDrop, before, -⟩
            have dropped := congrArg List.length (isDrop.symm.trans found)
            simp only [header, List.length_drop, List.length_append, List.length_cons,
              List.length_nil] at dropped
            have sum : format.frameLength - (later.length + 2) =
                format.frameLength - (payload.length + 2) + position := by omega
            rw [state, ih areFrames, sum]
            constructor
            · intro lockout
              refine ⟨_, Nat.le_add_right _ _, ?_, lockout⟩
              rw [places _ (Nat.le_add_right _ _), Nat.add_sub_cancel_left, ← isDrop, found]
              exact List.prefix_append _ _
            · rintro ⟨inside, beyond, starts, lockout⟩
              apply lockout.mono
              rw [places inside beyond] at starts
              by_contra less
              exact before _ (by omega) starts

/-- Whatever came before, one of the frames is taken, unless they lock the framer out. -/
theorem takesOne_iff_not_lockout {frames : List (List α)}
    (areFrames : ∀ frame ∈ frames, format.IsFrame frame) :
    (∀ stream, ((idle : format.Pending).pushAll stream).1.TakesOne frames) ↔
      ¬ format.Lockout 1 frames := by
  constructor
  · intro always lockout
    have long := format.long
    -- all but the last byte of a frame, so that the next frame is searched from its second byte
    have room : ([] ++ List.replicate (format.frameLength - 3) format.header0).length + 2 <
        format.frameLength := by
      rw [List.nil_append, List.length_replicate]
      omega
    have taken := always
      (format.header ++ List.replicate (format.frameLength - 3) format.header0)
    rw [pushAll_header (.inl rfl), pushAll_fill room] at taken
    apply (not_takesOne_body areFrames).mpr _ taken
    rw [List.nil_append, List.length_replicate]
    have one : format.frameLength - (format.frameLength - 3 + 2) = 1 := by omega
    rw [one]
    exact lockout
  · intro free stream
    by_contra missed
    cases frames with
    | nil => exact free trivial
    | cons frame rest =>
        have isFrame := areFrames frame List.mem_cons_self
        cases state : ((idle : format.Pending).pushAll stream).1 with
        | idle =>
            rw [state] at missed
            exact missed (.inl (takes_of_outside (.inl rfl) isFrame))
        | begun =>
            rw [state] at missed
            exact missed (.inl (takes_of_outside (.inr rfl) isFrame))
        | body payload room =>
            rw [state, not_takesOne_body areFrames] at missed
            apply free (missed.mono _)
            omega

end Pending

omit [DecidableEq α] in
/-- Frames with a header at one position lock the framer out however many they are. -/
theorem lockout_replicate {frame : List α} {inside : Nat}
    (starts : format.header <+: frame.drop inside) (count : Nat) :
    format.Lockout inside (List.replicate count frame) := by
  match count with
  | 0 => trivial
  | 1 => trivial
  | count + 2 =>
      exact ⟨inside, Nat.le_refl _, starts, lockout_replicate starts (count + 1)⟩

/-- Enough frames are never all missed exactly if none contains a second header. -/
theorem exists_count_iff {frames : List α → Prop}
    (areFrames : ∀ frame, frames frame → format.IsFrame frame) :
    (∃ count, ∀ stream sent, count ≤ sent.length → (∀ frame ∈ sent, frames frame) →
      ((Pending.idle : format.Pending).pushAll stream).1.TakesOne sent) ↔
      ∀ frame, frames frame → ∀ inside, 1 ≤ inside → ¬ format.header <+: frame.drop inside := by
  constructor
  · rintro ⟨count, taken⟩ frame isSent inside positive starts
    have all : ∀ other ∈ List.replicate count frame, other = frame :=
      fun other member => List.eq_of_mem_replicate member
    have areReplicated : ∀ other ∈ List.replicate count frame, format.IsFrame other :=
      fun other member => all other member ▸ areFrames frame isSent
    apply (Pending.takesOne_iff_not_lockout areReplicated).mp
    · intro stream
      apply taken stream
      · exact Nat.le_of_eq List.length_replicate.symm
      · exact fun other member => all other member ▸ isSent
    · exact (lockout_replicate starts count).mono positive
  · intro once
    refine ⟨2, ?_⟩
    intro stream sent enough areSent
    apply (Pending.takesOne_iff_not_lockout
      fun frame member => areFrames frame (areSent frame member)).mpr
    match sent, enough with
    | frame :: next :: rest, _ =>
        rintro ⟨inside, positive, starts, -⟩
        exact once frame (areSent frame List.mem_cons_self) inside positive starts

end FrameFormat
