import RmdCanSdk.Yesense.Refinement

/-!
# Streams of Yesense frames

What the read loop makes of any stream, of a stream of frames that arrives in short reads,
and of streams that arrive in reads that are too long or too short for it.
-/

namespace RmdCanSdk.Yesense

open FeedBuffer (Interspersed Ledger Upto feedAll)

variable {F D : Type} [FloatArith F] [FloatArith D]

/-- Whatever is read, the samples are those of disjoint frames of what was accepted, in the
order of the stream, and the buffer holds what the searches for a frame have left in it. A
read is refused exactly if it does not fit into the buffer. The accesses stay inside of the
buffer exactly if no item of these frames reaches beyond the end of its payload. -/
theorem readLoop_sound (reads : List (List Byte)) (short : ∀ read ∈ reads, read.length ≤ 512) :
    ∃ (accepted : List (List Byte)) (state : FeedBuffer.State Byte),
      Ledger scan dataBufSize (reads.filter fun read => read ≠ []) accepted state ∧
      accepted.Sublist reads ∧ Interspersed accepted.flatten state.frames state.buffer ∧
      (∀ frame ∈ state.frames, IsFrame frame) ∧
      ((∃ loop : ReadLoop F D, ReadLoop.start.readAll reads = some loop ∧
          loop.imu.decoder.Holds state.buffer ∧
          deliverAll state.frames = some (loop.imu.output, loop.published) ∧
          ∀ frame ∈ state.frames, Decodable frame) ∨
        ((ReadLoop.start : ReadLoop F D).readAll reads = none ∧
          ∃ frame ∈ state.frames, ¬ Decodable frame)) := by
  rcases FeedBuffer.ledger_feedAll scan dataBufSize (reads.filter fun read => read ≠ []) with
    ⟨accepted, ledger⟩
  have areFrames : ∀ frame ∈ (received reads).frames, IsFrame frame :=
    FeedBuffer.forall_mem_feedAll (fun found => (isFrame_of_scan found).2)
      (List.forall_mem_nil _) _
  refine ⟨accepted, received reads, ledger, ledger.sublist.trans List.filter_sublist,
    ledger.interspersed, areFrames, ?_⟩
  have started : (ReadLoop.start : ReadLoop F D).Follows FeedBuffer.empty := ReadLoop.follows_start
  rcases started.readAll short with ⟨loop, ran, follows⟩ | failed
  · refine .inl ⟨loop, ran, follows.holds, follows.delivered, ?_⟩
    rw [← deliverAll_isSome F D, received, follows.delivered]
    rfl
  · exact .inr failed

theorem readLoop_sound_split :
    ∃ (accepted : List (List Byte)) (state : FeedBuffer.State Byte),
      Ledger scan dataBufSize [[0x59, 0x53, 1, 0, 3], [0x80, 1, 5, 0x8a, 0x99]] accepted state ∧
      accepted.Sublist [[0x59, 0x53, 1, 0, 3], [0x80, 1, 5, 0x8a, 0x99]] ∧
      Interspersed accepted.flatten state.frames state.buffer ∧
      (∀ frame ∈ state.frames, IsFrame frame) ∧
      ((∃ loop : ReadLoop ℚ ℚ,
          ReadLoop.start.readAll [[0x59, 0x53, 1, 0, 3], [0x80, 1, 5, 0x8a, 0x99]] = some loop ∧
          loop.imu.decoder.Holds state.buffer ∧
          deliverAll state.frames = some (loop.imu.output, loop.published) ∧
          ∀ frame ∈ state.frames, Decodable frame) ∨
        ((ReadLoop.start : ReadLoop ℚ ℚ).readAll
            [[0x59, 0x53, 1, 0, 3], [0x80, 1, 5, 0x8a, 0x99]] = none ∧
          ∃ frame ∈ state.frames, ¬ Decodable frame)) :=
  readLoop_sound [[0x59, 0x53, 1, 0, 3], [0x80, 1, 5, 0x8a, 0x99]] (by decide)

variable (F D) in
/-- Reads with bytes of which only decodable frames are taken. -/
theorem readAll_of_decodable {reads : List (List Byte)} {state : FeedBuffer.State Byte}
    (fits : ∀ read ∈ reads, read ≠ [] ∧ read.length ≤ 512)
    (fed : feedAll scan dataBufSize FeedBuffer.empty reads = state)
    (decodable : ∀ frame ∈ state.frames, Decodable frame) :
    ∃ loop : ReadLoop F D, ReadLoop.start.readAll reads = some loop ∧
      loop.imu.decoder.Holds state.buffer ∧
      deliverAll state.frames = some (loop.imu.output, loop.published) := by
  have started : (ReadLoop.start : ReadLoop F D).Follows FeedBuffer.empty := ReadLoop.follows_start
  have all : reads.filter (fun read => read ≠ []) = reads := by
    rw [List.filter_eq_self]
    intro read member
    exact decide_eq_true (fits read member).1
  have follows := started.readAll fun read member => (fits read member).2
  rw [all, fed] at follows
  rcases follows with ⟨loop, ran, follows⟩ | ⟨-, frame, member, undecodable⟩
  · exact ⟨loop, ran, follows.holds, follows.delivered⟩
  · exact absurd (decodable frame member) undecodable

/-! ## Streams of frames -/

/-- A frame with items, none of which reaches beyond the end of its payload. -/
structure WellFormed (frame : List Byte) : Prop where
  isFrame : IsFrame frame
  hasItems : 7 < frame.length
  decodable : Decodable frame

/-- A frame with the status of the sensor alone. -/
def statusFrame (tid : BitVec 16) (status : Byte) : List Byte := frameBytes tid [0x80, 1, status]

theorem wellFormed_statusFrame (tid : BitVec 16) (status : Byte) :
    WellFormed (statusFrame tid status) where
  isFrame := ⟨tid, _, Nat.le_of_ble_eq_true rfl, rfl⟩
  hasItems := Nat.le_of_ble_eq_true rfl
  decodable := by
    have found : itemAt (Bytes.ofList (statusFrame tid status)) 5 = some .status := rfl
    exact .item found (.done 8)

theorem IsFrame.length_lt {frame : List Byte} (isFrame : IsFrame frame) : frame.length < 263 := by
  rcases isFrame with ⟨tid, payload, short, rfl⟩
  rw [length_frameBytes]
  omega

/-- The scan delimits well-formed frames. -/
theorem scan_delimits : FeedBuffer.Delimits scan WellFormed 2 where
  complete := by
    rintro frame ⟨⟨tid, payload, short, rfl⟩, hasItems, -⟩ rest
    apply scan_frame short
    rintro rfl
    exact absurd hasItems (Nat.lt_irrefl 7)
  incomplete := by
    rintro frame front ⟨⟨tid, payload, short, rfl⟩, -, -⟩ starts less header
    exact scan_front short starts less header

/-- Of a stream of well-formed frames, in reads of two bytes or more that are not longer than
the frames, each frame is decoded with the read that completes it. -/
theorem readLoop_complete (frames reads : List (List Byte))
    (wellFormed : ∀ frame ∈ frames, WellFormed frame)
    (fits : ∀ read ∈ reads, 2 ≤ read.length ∧ ∀ frame ∈ frames, read.length ≤ frame.length)
    (stream : reads.flatten <+: frames.flatten) :
    ∃ (loop : ReadLoop F D) (decoded left : List (List Byte)) (rest : List Byte),
      ReadLoop.start.readAll reads = some loop ∧ frames = decoded ++ left ∧
        deliverAll decoded = some (loop.imu.output, loop.published) ∧
        reads.flatten = decoded.flatten ++ rest ∧ loop.imu.decoder.Holds rest ∧
        ∀ next ∈ left.head?, rest.length < next.length := by
  have size : dataBufSize = 1024 := rfl
  have nonempty : ∀ read ∈ reads, read ≠ [] := by
    rintro read member rfl
    exact absurd (fits [] member).1 (by decide)
  have short : ∀ read ∈ reads, read.length ≤ 512 := by
    intro read member
    cases frames with
    | nil =>
        have nothing := List.flatten_eq_nil_iff.mp (List.prefix_nil.mp stream) read member
        exact absurd nothing (nonempty read member)
    | cons frame others =>
        have less := (wellFormed frame List.mem_cons_self).isFrame.length_lt
        have notLonger := (fits read member).2 frame List.mem_cons_self
        omega
  rcases stream with ⟨later, together⟩
  have behind : ∀ frame ∈ frames.head?, 0 < frame.length := by
    intro frame isFirst
    have hasItems := (wellFormed frame (List.mem_of_mem_head? isFirst)).hasItems
    exact Nat.lt_of_le_of_lt (Nat.zero_le 7) hasItems
  have room : ∀ read ∈ reads, ∀ frame ∈ frames,
      frame.length + read.length ≤ dataBufSize + 1 := by
    intro read member frame isFrame
    have less := (wellFormed frame isFrame).isFrame.length_lt
    have notLonger := short read member
    omega
  have upto : Upto (reads.flatten ++ later) frames
      (FeedBuffer.empty : FeedBuffer.State Byte).buffer := ⟨together, behind⟩
  rcases FeedBuffer.feedAll_upto scan_delimits wellFormed
      (fun read member => ⟨nonempty read member, (fits read member).1⟩)
      (fun read member => (fits read member).2) room upto with
    ⟨decoded, left, rfl, taken, upto⟩
  have taken : (feedAll scan dataBufSize FeedBuffer.empty reads).frames = decoded := taken
  have decodable : ∀ frame ∈ (feedAll scan dataBufSize FeedBuffer.empty reads).frames,
      Decodable frame := by
    intro frame member
    rw [taken] at member
    exact (wellFormed frame (List.mem_append_left _ member)).decodable
  rcases readAll_of_decodable F D (fun read member => ⟨nonempty read member, short read member⟩) rfl
      decodable with ⟨loop, ran, holds, delivered⟩
  rw [taken] at delivered
  refine ⟨loop, decoded, left, _, ran, rfl, delivered, ?_, holds, upto.behind⟩
  rw [← List.append_left_inj later, together, List.append_assoc, upto.together, List.flatten_append]

/-! ## Reads that are too long or too short -/

/-- A stream that starts with two frames that are shorter than a read of 512 bytes together:
read in such reads, nothing behind these frames is ever decoded. -/
theorem readLoop_full (first second : List Byte) (reads : List (List Byte))
    (wellFormed : WellFormed first ∧ WellFormed second)
    (small : first.length + second.length < 512) (long : ∀ read ∈ reads, read.length = 512)
    (two : 2 ≤ reads.length) (stream : first ++ second <+: reads.flatten) :
    ∃ loop : ReadLoop F D, ReadLoop.start.readAll reads = some loop ∧
      deliverAll [first, second] = some (loop.imu.output, loop.published) := by
  have size : dataBufSize = 1024 := rfl
  match reads, two with
  | r1 :: r2 :: others, _ =>
      have length1 := long r1 List.mem_cons_self
      have length2 := long r2 (List.mem_cons_of_mem _ List.mem_cons_self)
      have rest := List.forall_mem_cons.mp (List.forall_mem_cons.mp long).2
      rw [List.flatten_cons, List.flatten_cons] at stream
      have front : first <+: r1 := by
        apply List.prefix_of_prefix_length_le ((List.prefix_append _ _).trans stream)
          (List.prefix_append _ _)
        omega
      rcases front with ⟨t1, rfl⟩
      rw [List.length_append] at length1
      have next : second <+: t1 ++ r2 := by
        rw [List.append_assoc, List.prefix_append_right_inj, ← List.append_assoc] at stream
        apply List.prefix_of_prefix_length_le stream (List.prefix_append _ _)
        rw [List.length_append]
        omega
      rcases next with ⟨t2, split⟩
      have length := congrArg List.length split
      rw [List.length_append, List.length_append] at length
      have fits1 : ([] : List Byte).length + (first ++ t1).length ≤ dataBufSize := by
        rw [List.length_append, List.length_nil]
        omega
      have fits2 : t1.length + r2.length ≤ dataBufSize := by omega
      have full : dataBufSize < t2.length + 512 := by omega
      have fed1 : FeedBuffer.feed scan dataBufSize FeedBuffer.empty (first ++ t1) =
          ⟨t1, [first]⟩ := FeedBuffer.feed_frame scan_delimits wellFormed.1 fits1 rfl
      have fed2 : FeedBuffer.feed scan dataBufSize ⟨t1, [first]⟩ r2 = ⟨t2, [first, second]⟩ :=
        FeedBuffer.feed_frame scan_delimits wellFormed.2 fits2 split.symm
      have fed : feedAll scan dataBufSize FeedBuffer.empty ((first ++ t1) :: r2 :: others) =
          ⟨t2, [first, second]⟩ := by
        rw [feedAll, List.foldl_cons, List.foldl_cons, fed1, fed2]
        apply FeedBuffer.feedAll_full full
        intro read member
        exact Nat.le_of_eq (rest.2 read member).symm
      have decodable : ∀ frame ∈ [first, second], Decodable frame := by
        rw [List.forall_mem_cons, List.forall_mem_singleton]
        exact ⟨wellFormed.1.decodable, wellFormed.2.decodable⟩
      have fits : ∀ read ∈ (first ++ t1) :: r2 :: others, read ≠ [] ∧ read.length ≤ 512 := by
        intro read member
        have length := long read member
        refine ⟨?_, Nat.le_of_eq length⟩
        rintro rfl
        contradiction
      rcases readAll_of_decodable F D fits fed decodable with ⟨loop, ran, -, delivered⟩
      exact ⟨loop, ran, delivered⟩

theorem readLoop_full_status : ∃ loop : ReadLoop ℚ ℚ,
    ReadLoop.start.readAll [statusFrame 1 5 ++ (statusFrame 2 6 ++ List.replicate 492 0),
      List.replicate 512 0] = some loop ∧
    deliverAll [statusFrame 1 5, statusFrame 2 6] = some (loop.imu.output, loop.published) := by
  apply readLoop_full _ _ _ ⟨wellFormed_statusFrame 1 5, wellFormed_statusFrame 2 6⟩
    (by decide) _ (Nat.le_of_ble_eq_true rfl)
  · rw [List.flatten_cons, List.append_assoc, List.append_assoc, List.prefix_append_right_inj]
    exact List.prefix_append _ _
  · intro read member
    rcases List.mem_pair.mp member with rfl | rfl
    · rw [List.length_append, List.length_append, List.length_replicate]
      rfl
    · exact List.length_replicate

/-- Read byte by byte, no stream is ever decoded. -/
theorem readLoop_singletons (stream : List Byte) :
    ∃ loop : ReadLoop F D, ReadLoop.start.readAll (stream.map fun byte => [byte]) = some loop ∧
      loop.published = [] ∧ loop.imu.decoder.Holds [] := by
  have noise : ∀ byte, scan [byte] = .noise 1 := fun byte => rfl
  have fits : ∀ read ∈ stream.map (fun byte => [byte]), read ≠ [] ∧ read.length ≤ 512 := by
    intro read member
    rcases List.mem_map.mp member with ⟨byte, -, rfl⟩
    exact ⟨List.cons_ne_nil _ _, Nat.le_of_ble_eq_true rfl⟩
  have nothing := FeedBuffer.feedAll_singletons noise (by decide : 0 < dataBufSize) [] stream
  rcases readAll_of_decodable F D fits nothing (List.forall_mem_nil _) with
    ⟨loop, ran, holds, delivered⟩
  exact ⟨loop, ran, (congrArg Prod.snd (Option.some.inj delivered)).symm, holds⟩

end RmdCanSdk.Yesense
