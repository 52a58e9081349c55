import Mathlib.Data.List.Induction

/-!
# Frames taken from a bounded buffer

A buffer collects the chunks of a stream. After each chunk it is scanned once: the scan finds
a frame behind some noise, noise only, or nothing yet, and what it finds is removed. A chunk
that does not fit is refused. Whatever the stream, the frames taken are parts of what was
accepted, in this order and apart from each other. If the stream is made of frames and the
chunks are not longer than these, then each frame is taken with the chunk that completes it.
-/

namespace FeedBuffer

variable {α : Type*}

/-- What a scan finds at the start of a buffer. -/
inductive Found where
  | wait
  | noise (length : Nat)
  | frame (noise length : Nat)
  deriving DecidableEq

/-- The bytes in the buffer, and the frames taken so far. -/
structure State (α : Type*) where
  buffer : List α
  frames : List (List α)

/-- Remove what was found. -/
def settle (bytes : List α) (frames : List (List α)) : Found → State α
  | .wait => ⟨bytes, frames⟩
  | .noise length => ⟨bytes.drop length, frames⟩
  | .frame noise length =>
      ⟨bytes.drop (noise + length), frames ++ [(bytes.drop noise).take length]⟩

/-- One chunk. -/
def feed (scan : List α → Found) (capacity : Nat) (state : State α) (chunk : List α) : State α :=
  if capacity < state.buffer.length + chunk.length then state
  else settle (state.buffer ++ chunk) state.frames (scan (state.buffer ++ chunk))

def feedAll (scan : List α → Found) (capacity : Nat) (state : State α) (chunks : List (List α)) :
    State α :=
  chunks.foldl (feed scan capacity) state

/-- Nothing in the buffer, and no frames. -/
def empty : State α := ⟨[], []⟩

variable {scan : List α → Found} {capacity : Nat}

theorem feed_of_fits {state : State α} {chunk : List α}
    (fits : state.buffer.length + chunk.length ≤ capacity) :
    feed scan capacity state chunk =
      settle (state.buffer ++ chunk) state.frames (scan (state.buffer ++ chunk)) :=
  if_neg (Nat.not_lt.mpr fits)

theorem feed_of_full {state : State α} {chunk : List α}
    (full : capacity < state.buffer.length + chunk.length) :
    feed scan capacity state chunk = state := if_pos full

/-- The frames taken so far stay. -/
theorem frames_prefix_feed (state : State α) (chunk : List α) :
    state.frames <+: (feed scan capacity state chunk).frames := by
  rw [feed]
  split
  · exact List.prefix_rfl
  · cases scan (state.buffer ++ chunk) with
    | wait => exact List.prefix_rfl
    | noise length => exact List.prefix_rfl
    | frame noise length => exact List.prefix_append _ _

theorem frames_prefix_feedAll (state : State α) (chunks : List (List α)) :
    state.frames <+: (feedAll scan capacity state chunks).frames := by
  induction chunks generalizing state with
  | nil => exact List.prefix_rfl
  | cons chunk rest ih => exact (frames_prefix_feed state chunk).trans (ih _)

/-- What is true of all frames that the scan can find is true of those taken. -/
theorem forall_mem_feedAll {Frame : List α → Prop}
    (sound : ∀ {bytes : List α} {noise length : Nat}, scan bytes = .frame noise length →
      Frame ((bytes.drop noise).take length))
    {state : State α} (before : ∀ frame ∈ state.frames, Frame frame) (chunks : List (List α)) :
    ∀ frame ∈ (feedAll scan capacity state chunks).frames, Frame frame := by
  induction chunks generalizing state with
  | nil => exact before
  | cons chunk rest ih =>
      apply ih
      rw [feed]
      split
      · exact before
      · cases found : scan (state.buffer ++ chunk) with
        | wait => exact before
        | noise length => exact before
        | frame noise length =>
            rw [settle, List.forall_mem_append, List.forall_mem_singleton]
            exact ⟨before, sound found⟩

/-! ## Any stream -/

/-- A stream consists of frames with noise before each of them, noise, and a rest. -/
inductive Interspersed : List α → List (List α) → List α → Prop where
  | rest (noise rest : List α) : Interspersed (noise ++ rest) [] rest
  | frame {stream rest : List α} {frames : List (List α)} (noise frame : List α)
      (others : Interspersed stream frames rest) :
      Interspersed (noise ++ frame ++ stream) (frame :: frames) rest

namespace Interspersed

variable {stream rest : List α} {frames : List (List α)}

/-- More of the stream is more of the rest. -/
theorem extend (parts : Interspersed stream frames rest) (more : List α) :
    Interspersed (stream ++ more) frames (rest ++ more) := by
  induction parts with
  | rest noise rest =>
      rw [List.append_assoc]
      exact .rest noise _
  | frame noise frame _ ih =>
      rw [List.append_assoc]
      exact .frame noise frame ih

/-- The rest begins with noise. -/
theorem drop (parts : Interspersed stream frames rest) (length : Nat) :
    Interspersed stream frames (rest.drop length) := by
  induction parts with
  | rest noise rest =>
      have split : noise ++ rest = noise ++ rest.take length ++ rest.drop length := by
        rw [List.append_assoc, List.take_append_drop]
      rw [split]
      exact .rest _ _
  | frame noise frame _ ih => exact .frame noise frame ih

/-- The rest begins with noise and a frame. -/
theorem take (parts : Interspersed stream frames rest) (noise length : Nat) :
    Interspersed stream (frames ++ [(rest.drop noise).take length])
      (rest.drop (noise + length)) := by
  induction parts with
  | rest before rest =>
      have split : before ++ rest = before ++ rest.take noise ++ (rest.drop noise).take length ++
          ([] ++ rest.drop (noise + length)) := by
        rw [List.nil_append, ← List.drop_drop, List.append_assoc _ ((rest.drop noise).take length),
          List.take_append_drop, List.append_assoc, List.take_append_drop]
      rw [split]
      exact .frame _ _ (.rest [] _)
  | frame before frame _ ih => exact .frame before frame ih

end Interspersed

theorem settle_interspersed {stream bytes : List α} {frames : List (List α)}
    (parts : Interspersed stream frames bytes) (found : Found) :
    Interspersed stream (settle bytes frames found).frames (settle bytes frames found).buffer := by
  cases found with
  | wait => exact parts
  | noise length => exact parts.drop length
  | frame noise length => exact parts.take noise length

/-- Which chunks were accepted, and what they have left in the buffer and among the frames. A
chunk is refused if it does not fit behind what the buffer holds then. -/
inductive Ledger (scan : List α → Found) (capacity : Nat) :
    List (List α) → List (List α) → State α → Prop where
  | empty : Ledger scan capacity [] [] empty
  | refused {chunks accepted : List (List α)} {state : State α} (chunk : List α)
      (before : Ledger scan capacity chunks accepted state)
      (full : capacity < state.buffer.length + chunk.length) :
      Ledger scan capacity (chunks ++ [chunk]) accepted state
  | accepted {chunks accepted : List (List α)} {state : State α} (chunk : List α)
      (before : Ledger scan capacity chunks accepted state)
      (fits : state.buffer.length + chunk.length ≤ capacity) :
      Ledger scan capacity (chunks ++ [chunk]) (accepted ++ [chunk])
        (settle (state.buffer ++ chunk) state.frames (scan (state.buffer ++ chunk)))

theorem ledger_feedAll (scan : List α → Found) (capacity : Nat) (chunks : List (List α)) :
    ∃ accepted, Ledger scan capacity chunks accepted (feedAll scan capacity empty chunks) := by
  induction chunks using List.reverseRecOn with
  | nil => exact ⟨[], .empty⟩
  | append_singleton chunks chunk ih =>
      rcases ih with ⟨accepted, before⟩
      rw [feedAll, List.foldl_append, List.foldl_cons, List.foldl_nil]
      by_cases full : capacity < (feedAll scan capacity empty chunks).buffer.length + chunk.length
      · refine ⟨accepted, ?_⟩
        rw [← feedAll, feed_of_full full]
        exact .refused chunk before full
      · refine ⟨accepted ++ [chunk], ?_⟩
        rw [← feedAll, feed_of_fits (Nat.le_of_not_lt full)]
        exact .accepted chunk before (Nat.le_of_not_lt full)

namespace Ledger

variable {chunks accepted : List (List α)} {state : State α}

theorem sublist (ledger : Ledger scan capacity chunks accepted state) :
    accepted.Sublist chunks := by
  induction ledger with
  | empty => exact List.Sublist.refl _
  | refused chunk before full ih => exact ih.trans (List.sublist_append_left _ _)
  | accepted chunk before fits ih => exact ih.append (List.Sublist.refl _)

/-- The frames taken are parts of what was accepted, and the buffer is the end of it. -/
theorem interspersed (ledger : Ledger scan capacity chunks accepted state) :
    Interspersed accepted.flatten state.frames state.buffer := by
  induction ledger with
  | empty => exact .rest [] []
  | refused chunk before full ih => exact ih
  | accepted chunk before fits ih =>
      rw [List.flatten_append, List.flatten_singleton]
      exact settle_interspersed (ih.extend chunk) _

end Ledger

/-! ## Streams of frames -/

/-- The scan finds a frame as soon as it is whole, and waits for the rest of it from some
length on. -/
structure Delimits (scan : List α → Found) (Frame : List α → Prop) (least : Nat) : Prop where
  complete : ∀ {frame : List α}, Frame frame → ∀ rest,
    scan (frame ++ rest) = .frame 0 frame.length
  incomplete : ∀ {frame front : List α}, Frame frame → front <+: frame →
    front.length < frame.length → least ≤ front.length → scan front = .wait

/-- The buffer is the beginning of the first frame that has not been taken. -/
structure Upto (stream : List α) (remaining : List (List α)) (buffer : List α) : Prop where
  together : buffer ++ stream = remaining.flatten
  behind : ∀ frame ∈ remaining.head?, buffer.length < frame.length

variable {Frame : List α → Prop} {least : Nat}

/-- A whole frame at the start of the buffer is taken. -/
theorem feed_frame (delimits : Delimits scan Frame least) {state : State α}
    {chunk frame rest : List α} (isFrame : Frame frame)
    (fits : state.buffer.length + chunk.length ≤ capacity)
    (whole : state.buffer ++ chunk = frame ++ rest) :
    feed scan capacity state chunk = ⟨rest, state.frames ++ [frame]⟩ := by
  rw [feed_of_fits fits, whole, delimits.complete isFrame, settle, List.drop_zero, List.take_left,
    Nat.zero_add, List.drop_left]

/-- One chunk of a stream of frames: the first frame is taken if it is whole. -/
theorem feed_upto (delimits : Delimits scan Frame least) {state : State α}
    {chunk stream : List α} {remaining : List (List α)}
    (areFrames : ∀ frame ∈ remaining, Frame frame) (nonempty : chunk ≠ [])
    (enough : least ≤ chunk.length) (notLonger : ∀ frame ∈ remaining, chunk.length ≤ frame.length)
    (fits : ∀ frame ∈ remaining, frame.length + chunk.length ≤ capacity + 1)
    (upto : Upto (chunk ++ stream) remaining state.buffer) :
    ∃ taken left, remaining = taken ++ left ∧
      (feed scan capacity state chunk).frames = state.frames ++ taken ∧
      Upto stream left (feed scan capacity state chunk).buffer := by
  cases remaining with
  | nil =>
      have impossible := upto.together
      rw [List.flatten_nil, List.append_eq_nil_iff, List.append_eq_nil_iff] at impossible
      exact absurd impossible.2.1 nonempty
  | cons frame others =>
      rw [List.forall_mem_cons] at areFrames notLonger fits
      have behind := upto.behind frame rfl
      have together : state.buffer ++ chunk ++ stream = frame ++ others.flatten := by
        rw [List.append_assoc]
        exact upto.together
      have accepted : state.buffer.length + chunk.length ≤ capacity := by omega
      by_cases whole : frame.length ≤ (state.buffer ++ chunk).length
      · have split : frame <+: state.buffer ++ chunk := by
          apply List.prefix_of_prefix_length_le (List.prefix_append frame others.flatten) _ whole
          rw [← together]
          exact List.prefix_append _ _
        rcases split with ⟨rest, split⟩
        rw [← split, List.append_assoc, List.append_cancel_left_eq] at together
        rw [feed_frame delimits areFrames.1 accepted split.symm]
        have length := congrArg List.length split
        rw [List.length_append, List.length_append] at length
        refine ⟨[frame], others, rfl, rfl, together, ?_⟩
        intro next isNext
        have notLonger := notLonger.2 next (List.mem_of_mem_head? isNext)
        change rest.length < next.length
        omega
      · have short : state.buffer ++ chunk <+: frame := by
          apply List.prefix_of_prefix_length_le (List.prefix_append _ stream) _ (by omega)
          rw [together]
          exact List.prefix_append _ _
        have long : least ≤ (state.buffer ++ chunk).length := by
          rw [List.length_append]
          omega
        rw [feed_of_fits accepted, delimits.incomplete areFrames.1 short (by omega) long]
        refine ⟨[], _, rfl, (List.append_nil _).symm, together, ?_⟩
        intro other isFirst
        cases Option.mem_some_iff.mp isFirst
        exact Nat.lt_of_not_le whole

/-- Each frame of a stream is taken with the chunk that completes it. -/
theorem feedAll_upto (delimits : Delimits scan Frame least) {state : State α}
    {chunks : List (List α)} {stream : List α} {remaining : List (List α)}
    (areFrames : ∀ frame ∈ remaining, Frame frame)
    (enough : ∀ chunk ∈ chunks, chunk ≠ [] ∧ least ≤ chunk.length)
    (notLonger : ∀ chunk ∈ chunks, ∀ frame ∈ remaining, chunk.length ≤ frame.length)
    (fits : ∀ chunk ∈ chunks, ∀ frame ∈ remaining, frame.length + chunk.length ≤ capacity + 1)
    (upto : Upto (chunks.flatten ++ stream) remaining state.buffer) :
    ∃ taken left, remaining = taken ++ left ∧
      (feedAll scan capacity state chunks).frames = state.frames ++ taken ∧
      Upto stream left (feedAll scan capacity state chunks).buffer := by
  induction chunks generalizing state remaining with
  | nil => exact ⟨[], remaining, rfl, (List.append_nil _).symm, upto⟩
  | cons chunk rest ih =>
      rw [List.forall_mem_cons] at enough notLonger fits
      rw [List.flatten_cons, List.append_assoc] at upto
      rcases feed_upto delimits areFrames enough.1.1 enough.1.2 notLonger.1 fits.1 upto with
        ⟨first, left, rfl, frames, upto⟩
      have later : ∀ frame ∈ left, frame ∈ first ++ left :=
        fun frame member => List.mem_append_right _ member
      rcases ih (fun frame member => areFrames frame (later frame member)) enough.2
        (fun chunk inRest frame member => notLonger.2 chunk inRest frame (later frame member))
        (fun chunk inRest frame member => fits.2 chunk inRest frame (later frame member)) upto with
        ⟨second, left, rfl, others, upto⟩
      refine ⟨first ++ second, left, (List.append_assoc _ _ _).symm, ?_, upto⟩
      rw [← List.append_assoc, ← frames]
      exact others

/-! ## Chunks that are too long or too short -/

/-- A chunk that does not fit leaves everything as it is, and so do all later ones that are
not shorter. -/
theorem feedAll_full {state : State α} {length : Nat}
    (full : capacity < state.buffer.length + length) {chunks : List (List α)}
    (long : ∀ chunk ∈ chunks, length ≤ chunk.length) :
    feedAll scan capacity state chunks = state := by
  induction chunks with
  | nil => rfl
  | cons chunk rest ih =>
      rw [List.forall_mem_cons] at long
      rw [feedAll, List.foldl_cons, feed_of_full (by omega)]
      exact ih long.2

/-- Single items that are noise by themselves are all lost. -/
theorem feedAll_singletons (noise : ∀ item, scan [item] = .noise 1) (positive : 0 < capacity)
    (frames : List (List α)) (stream : List α) :
    feedAll scan capacity ⟨[], frames⟩ (stream.map fun item => [item]) = ⟨[], frames⟩ := by
  induction stream with
  | nil => rfl
  | cons item rest ih =>
      rw [List.map_cons, feedAll, List.foldl_cons, feed_of_fits positive, List.nil_append, noise]
      exact ih

end FeedBuffer
