import RmdCanSdk.Library.FeedBuffer
import RmdCanSdk.Yesense.Payload

/-!
# Frames in the buffer of the decoder

The frames of the protocol as lists of bytes, what the decoder finds in its buffer, and what
it makes of a frame, both as functions of bytes alone.
-/

namespace RmdCanSdk.Yesense

open FeedBuffer (Found)

/-! ## Frames -/

/-- Both sums over some bytes. -/
def checksum (bytes : List Byte) : Byte × Byte := bytes.foldl sumByte (0, 0)

/-- What the checksum covers. -/
def frameBody (tid : BitVec 16) (payload : List Byte) : List Byte :=
  Bytes.le16 tid ++ BitVec.ofNat 8 payload.length :: payload

def frameBytes (tid : BitVec 16) (payload : List Byte) : List Byte :=
  [0x59, 0x53] ++ frameBody tid payload ++
    [(checksum (frameBody tid payload)).1, (checksum (frameBody tid payload)).2]

/-- The frames of the protocol; a payload is not longer than its length byte can tell. -/
def IsFrame (frame : List Byte) : Prop :=
  ∃ tid payload, payload.length < 256 ∧ frame = frameBytes tid payload

theorem length_frameBytes (tid : BitVec 16) (payload : List Byte) :
    (frameBytes tid payload).length = payload.length + 7 := by
  simp only [frameBytes, frameBody, Bytes.le16, List.length_append, List.length_cons,
    List.length_nil]
  omega

/-! ## What the decoder finds -/

/-- What the decoder finds in a buffer with these bytes. -/
def scan (bytes : List Byte) : Found :=
  let data := Bytes.ofList bytes
  let (i, cnt) := findHeader data 0 bytes.length
  if cnt ≤ 1 then .noise bytes.length
  else if cnt ≤ protocolMinLen then .wait
  else
    let payloadLen := (data (i + 4)).toNat
    if cnt < payloadLen + protocolMinLen then .wait
    else if crcCalc data (i + 2) (payloadLen + 3) ≠
        data.read16 (i + 2 + (payloadLen + 3)) then .noise (i + 2)
    else .frame i (payloadLen + protocolMinLen)

section

variable {data other : Bytes} {i cnt : Nat}

theorem findHeader_sum (data : Bytes) (i cnt : Nat) :
    (findHeader data i cnt).1 + (findHeader data i cnt).2 = i + cnt := by
  induction cnt generalizing i with
  | zero => rfl
  | succ cnt ih =>
      cases cnt with
      | zero => rfl
      | succ cnt =>
          rw [findHeader]
          split
          · rfl
          · rw [ih]
            omega

/-- Where the search ends with more than a byte left, there is a header. -/
theorem findHeader_header (left : 1 < (findHeader data i cnt).2) :
    data (findHeader data i cnt).1 = 0x59 ∧ data ((findHeader data i cnt).1 + 1) = 0x53 := by
  induction cnt generalizing i with
  | zero => exact absurd left (Nat.not_lt_zero 1)
  | succ cnt ih =>
      cases cnt with
      | zero => exact absurd left (Nat.lt_irrefl 1)
      | succ cnt =>
          rw [findHeader] at left ⊢
          split at left
          next header =>
            rw [if_pos header]
            exact header
          next noHeader =>
            rw [if_neg noHeader]
            exact ih left

theorem findHeader_congr (same : ∀ index < cnt, data (i + index) = other (i + index)) :
    findHeader data i cnt = findHeader other i cnt := by
  induction cnt generalizing i with
  | zero => rfl
  | succ cnt ih =>
      cases cnt with
      | zero => rfl
      | succ cnt =>
          have first : data i = other i := same 0 (by omega)
          rw [findHeader, findHeader, first, same 1 (by omega), ih]
          intro index small
          rw [Nat.add_assoc]
          exact same _ (by omega)

theorem crcCalc_congr {offset offset' len : Nat}
    (same : ∀ index < len, data (offset + index) = other (offset' + index)) :
    crcCalc data offset len = crcCalc other offset' len := by
  have folds : (List.range len).foldl (fun ck index => sumByte ck (data (offset + index))) (0, 0) =
      (List.range len).foldl (fun ck index => sumByte ck (other (offset' + index))) (0, 0) := by
    apply List.foldl_ext
    intro ck index inRange
    rw [same index (List.mem_range.mp inRange)]
  rw [crcCalc, crcCalc, folds]

theorem crcCalc_ofList (before bytes after : List Byte) :
    crcCalc (Bytes.ofList (before ++ bytes ++ after)) before.length bytes.length =
      (checksum bytes).2 ++ (checksum bytes).1 := by
  have listed : (List.range bytes.length).map
      (fun index => Bytes.ofList (before ++ bytes ++ after) (before.length + index)) = bytes := by
    apply List.ext_getElem
    · rw [List.length_map, List.length_range]
    · intro index _ inside
      rw [List.getElem_map, List.getElem_range, List.append_assoc, Bytes.ofList_append_right,
        Bytes.ofList_append_left inside, Bytes.ofList, List.getD_eq_getElem?_getD,
        List.getElem?_eq_getElem inside]
      rfl
  have folded : (List.range bytes.length).foldl (fun ck index => sumByte ck
      (Bytes.ofList (before ++ bytes ++ after) (before.length + index))) (0, 0) =
        checksum bytes :=
    List.foldl_map.symm.trans (congrArg checksum listed)
  rw [crcCalc, folded]

end

theorem read16_ofList (before : List Byte) (low high : Byte) (after : List Byte) :
    (Bytes.ofList (before ++ ([low, high] ++ after))).read16 before.length = high ++ low := by
  have first := Bytes.ofList_append_right before ([low, high] ++ after) 0
  rw [Nat.add_zero] at first
  rw [Bytes.read16, Bytes.ofList_append_right, first]
  rfl

/-! ## Finding a frame -/

/-- A header at the start of the buffer is found first. -/
theorem findHeader_here {bytes : List Byte} (long : 2 ≤ bytes.length)
    (first : Bytes.ofList bytes 0 = 0x59) (second : Bytes.ofList bytes 1 = 0x53) :
    findHeader (Bytes.ofList bytes) 0 bytes.length = (0, bytes.length) := by
  rcases Nat.exists_eq_add_of_le' long with ⟨rest, length⟩
  rw [length, findHeader, if_pos ⟨first, second⟩]

section

variable {tid : BitVec 16} {payload : List Byte}

/-- The bytes of a frame before its payload. -/
theorem frameBytes_header {bytes : List Byte} (starts : frameBytes tid payload <+: bytes)
    (short : payload.length < 256) :
    Bytes.ofList bytes 0 = 0x59 ∧ Bytes.ofList bytes 1 = 0x53 ∧
      (Bytes.ofList bytes 4).toNat = payload.length := by
  rcases starts with ⟨rest, rfl⟩
  refine ⟨rfl, rfl, ?_⟩
  have length : Bytes.ofList (frameBytes tid payload ++ rest) 4 =
      BitVec.ofNat 8 payload.length := rfl
  rw [length, BitVec.toNat_ofNat, Nat.mod_eq_of_lt short]

theorem length_frameBody (tid : BitVec 16) (payload : List Byte) :
    (frameBody tid payload).length = payload.length + 3 := by
  simp only [frameBody, Bytes.le16, List.length_append, List.length_cons, List.length_nil]
  omega

/-- The bytes of a frame, with any sums in the place of the checksum. -/
def withSums (tid : BitVec 16) (payload : List Byte) (sums : Byte × Byte) : List Byte :=
  [0x59, 0x53] ++ frameBody tid payload ++ [sums.1, sums.2]

theorem length_withSums (tid : BitVec 16) (payload : List Byte) (sums : Byte × Byte) :
    (withSums tid payload sums).length = payload.length + 7 := by
  rw [withSums, List.length_append, List.length_append, length_frameBody]
  exact (Nat.add_assoc ..).trans (Nat.add_left_comm ..)

/-- The check compares the sums with those of the body. -/
theorem crcCalc_withSums (tid : BitVec 16) (payload rest : List Byte) (sums : Byte × Byte) :
    crcCalc (Bytes.ofList (withSums tid payload sums ++ rest)) 2 (payload.length + 3) =
        (Bytes.ofList (withSums tid payload sums ++ rest)).read16 (2 + (payload.length + 3)) ↔
      checksum (frameBody tid payload) = sums := by
  have computed := crcCalc_ofList [0x59, 0x53] (frameBody tid payload) ([sums.1, sums.2] ++ rest)
  have stored := read16_ofList ([0x59, 0x53] ++ frameBody tid payload) sums.1 sums.2 rest
  rw [length_frameBody, ← List.append_assoc] at computed
  rw [List.length_append, length_frameBody, ← List.append_assoc] at stored
  have compare : ∀ check read : BitVec 16,
      check = (checksum (frameBody tid payload)).2 ++ (checksum (frameBody tid payload)).1 →
      read = sums.2 ++ sums.1 →
      (check = read ↔ checksum (frameBody tid payload) = sums) := by
    rintro check read rfl rfl
    constructor
    · intro same
      ext1
      · rw [← BitVec.extractLsb'_append_eq_right (a := sums.2) (b := sums.1), ← same,
          BitVec.extractLsb'_append_eq_right]
      · rw [← BitVec.extractLsb'_append_eq_left (a := sums.2) (b := sums.1), ← same,
          BitVec.extractLsb'_append_eq_left]
    · rintro rfl
      rfl
  exact compare _ _ computed stored

/-- What looks like a frame at the start of the buffer is one, or its header is dropped. -/
theorem scan_withSums (short : payload.length < 256) (nonempty : payload ≠ [])
    (sums : Byte × Byte) (rest : List Byte) :
    scan (withSums tid payload sums ++ rest) =
      if checksum (frameBody tid payload) = sums then .frame 0 (payload.length + 7)
      else .noise 2 := by
  have whole := length_withSums tid payload sums
  have positive := List.length_pos_iff.mpr nonempty
  have length : (withSums tid payload sums ++ rest).length =
      payload.length + 7 + rest.length := by rw [List.length_append, whole]
  have payloadLen : (Bytes.ofList (withSums tid payload sums ++ rest) 4).toNat =
      payload.length := by
    have byte : Bytes.ofList (withSums tid payload sums ++ rest) 4 =
        BitVec.ofNat 8 payload.length := rfl
    rw [byte, BitVec.toNat_ofNat, Nat.mod_eq_of_lt short]
  rw [scan, findHeader_here (by omega) rfl rfl]
  simp only [Nat.zero_add, payloadLen, protocolMinLen, ne_eq, crcCalc_withSums, ite_not]
  rw [if_neg (by omega), if_neg (by omega), if_neg (by omega)]

/-- A whole frame at the start of the buffer is found. -/
theorem scan_frame (short : payload.length < 256) (nonempty : payload ≠ []) (rest : List Byte) :
    scan (frameBytes tid payload ++ rest) = .frame 0 (frameBytes tid payload).length := by
  rw [length_frameBytes]
  exact (scan_withSums short nonempty (checksum (frameBody tid payload)) rest).trans (if_pos rfl)

/-- The decoder waits for the rest of a frame of which it has the header. -/
theorem scan_front {front : List Byte} (short : payload.length < 256)
    (starts : front <+: frameBytes tid payload)
    (less : front.length < (frameBytes tid payload).length) (header : 2 ≤ front.length) :
    scan front = .wait := by
  have whole := length_frameBytes tid payload
  rcases starts with ⟨rest, split⟩
  have same : ∀ index < front.length,
      Bytes.ofList front index = Bytes.ofList (frameBytes tid payload) index := by
    intro index inside
    rw [← split, Bytes.ofList_append_left inside]
  rcases frameBytes_header (List.prefix_rfl : frameBytes tid payload <+: _) short with
    ⟨first, second, payloadLen⟩
  rw [← same 0 (by omega)] at first
  rw [← same 1 (by omega)] at second
  rw [scan, findHeader_here header first second]
  simp only [Nat.zero_add, protocolMinLen]
  rw [if_neg (by omega)]
  split
  · rfl
  next long =>
    rw [same 4 (by omega), payloadLen, if_pos (by omega)]

end

/-- The parts of enough bytes. -/
theorem split_bytes {bytes : List Byte} {size : Nat} (long : size + 7 ≤ bytes.length) :
    ∃ b0 b1 b2 b3 b4 payload c1 c2 rest, payload.length = size ∧
      bytes = [b0, b1] ++ ([b2, b3] ++ b4 :: payload) ++ ([c1, c2] ++ rest) := by
  match bytes with
  | b0 :: b1 :: b2 :: b3 :: b4 :: others =>
      simp only [List.length_cons] at long
      have taken : (others.take size).length = size := List.length_take_of_le (by omega)
      have left := List.length_drop (l := others) (i := size)
      generalize behind : others.drop size = back at left
      match back with
      | c1 :: c2 :: rest =>
          refine ⟨b0, b1, b2, b3, b4, others.take size, c1, c2, rest, taken, ?_⟩
          simp only [List.cons_append, List.nil_append]
          rw [← behind, List.take_append_drop]
      | [] | [_] =>
          simp only [List.length_cons, List.length_nil] at left
          omega
  | [] | [_] | [_, _] | [_, _, _] | [_, _, _, _] =>
      simp only [List.length_cons, List.length_nil] at long
      omega

/-- A header, a length and a checksum that fits make a frame. -/
theorem isFrame_of_checksum {bytes : List Byte} {size : Nat}
    (first : Bytes.ofList bytes 0 = 0x59) (second : Bytes.ofList bytes 1 = 0x53)
    (payloadLen : (Bytes.ofList bytes 4).toNat = size) (long : size + 7 ≤ bytes.length)
    (sums : crcCalc (Bytes.ofList bytes) 2 (size + 3) =
      (Bytes.ofList bytes).read16 (2 + (size + 3))) :
    IsFrame (bytes.take (size + 7)) := by
  rcases split_bytes long with ⟨b0, b1, b2, b3, b4, payload, c1, c2, rest, length, rfl⟩
  obtain rfl : b0 = 0x59 := first
  obtain rfl : b1 = 0x53 := second
  have payloadLen : b4.toNat = size := payloadLen
  have small := b4.isLt
  have body : [b2, b3] ++ b4 :: payload = frameBody (b3 ++ b2) payload := by
    rw [frameBody, Bytes.le16, BitVec.extractLsb'_append_eq_right, length, ← payloadLen,
      BitVec.ofNat_toNat, BitVec.setWidth_eq]
    congr 2
    exact (congrArg (· :: []) BitVec.extractLsb'_append_eq_left).symm
  rw [body] at sums ⊢
  have computed := crcCalc_ofList [0x59, 0x53] (frameBody (b3 ++ b2) payload) ([c1, c2] ++ rest)
  have stored := read16_ofList ([0x59, 0x53] ++ frameBody (b3 ++ b2) payload) c1 c2 rest
  rw [length_frameBody, length] at computed
  rw [List.length_append, length_frameBody, length] at stored
  have same := computed.symm.trans (sums.trans stored)
  have low : (checksum (frameBody (b3 ++ b2) payload)).1 = c1 := by
    rw [← BitVec.extractLsb'_append_eq_right (a := c2) (b := c1), ← same,
      BitVec.extractLsb'_append_eq_right]
  have high : (checksum (frameBody (b3 ++ b2) payload)).2 = c2 := by
    rw [← BitVec.extractLsb'_append_eq_left (a := c2) (b := c1), ← same,
      BitVec.extractLsb'_append_eq_left]
  have frame : [0x59, 0x53] ++ frameBody (b3 ++ b2) payload ++ [c1, c2] =
      frameBytes (b3 ++ b2) payload := by rw [frameBytes, low, high]
  refine ⟨b3 ++ b2, payload, by omega, ?_⟩
  rw [← List.append_assoc, frame]
  apply List.take_left'
  rw [length_frameBytes, length]

/-- The three ways a search for a frame can end behind a header. -/
theorem scan_cases (bytes : List Byte) :
    ∃ i cnt, findHeader (Bytes.ofList bytes) 0 bytes.length = (i, cnt) ∧
      i + cnt = bytes.length ∧
      ((cnt ≤ 1 ∧ scan bytes = .noise bytes.length) ∨
        (1 < cnt ∧ (cnt ≤ 7 ∨ cnt < (Bytes.ofList bytes (i + 4)).toNat + 7) ∧
          scan bytes = .wait) ∨
        (7 < cnt ∧ (Bytes.ofList bytes (i + 4)).toNat + 7 ≤ cnt ∧
          crcCalc (Bytes.ofList bytes) (i + 2) ((Bytes.ofList bytes (i + 4)).toNat + 3) ≠
            (Bytes.ofList bytes).read16 (i + 2 + ((Bytes.ofList bytes (i + 4)).toNat + 3)) ∧
          scan bytes = .noise (i + 2)) ∨
        (7 < cnt ∧ (Bytes.ofList bytes (i + 4)).toNat + 7 ≤ cnt ∧
          crcCalc (Bytes.ofList bytes) (i + 2) ((Bytes.ofList bytes (i + 4)).toNat + 3) =
            (Bytes.ofList bytes).read16 (i + 2 + ((Bytes.ofList bytes (i + 4)).toNat + 3)) ∧
          scan bytes = .frame i ((Bytes.ofList bytes (i + 4)).toNat + 7))) := by
  have sum := findHeader_sum (Bytes.ofList bytes) 0 bytes.length
  rw [Nat.zero_add] at sum
  rcases search : findHeader (Bytes.ofList bytes) 0 bytes.length with ⟨i, cnt⟩
  rw [search] at sum
  refine ⟨i, cnt, rfl, sum, ?_⟩
  simp only [scan, search, protocolMinLen]
  by_cases few : cnt ≤ 1
  · exact .inl ⟨few, if_pos few⟩
  simp only [if_neg few]
  by_cases short : cnt ≤ 7
  · exact .inr (.inl ⟨by omega, .inl short, if_pos short⟩)
  simp only [if_neg short]
  by_cases partly : cnt < (Bytes.ofList bytes (i + 4)).toNat + 7
  · exact .inr (.inl ⟨by omega, .inr partly, if_pos partly⟩)
  simp only [if_neg partly]
  by_cases sums : crcCalc (Bytes.ofList bytes) (i + 2) ((Bytes.ofList bytes (i + 4)).toNat + 3) =
      (Bytes.ofList bytes).read16 (i + 2 + ((Bytes.ofList bytes (i + 4)).toNat + 3))
  · exact .inr (.inr (.inr ⟨by omega, by omega, sums, if_neg (not_not_intro sums)⟩))
  · exact .inr (.inr (.inl ⟨by omega, by omega, sums, if_pos sums⟩))

/-- What the scan calls a frame is one, inside of the buffer. -/
theorem isFrame_of_scan {bytes : List Byte} {noise length : Nat}
    (found : scan bytes = .frame noise length) :
    noise + length ≤ bytes.length ∧ IsFrame ((bytes.drop noise).take length) := by
  rcases scan_cases bytes with ⟨i, cnt, search, sum,
    ⟨-, other⟩ | ⟨-, -, other⟩ | ⟨-, -, -, other⟩ | ⟨left, long, sums, same⟩⟩
  · rw [other] at found
    contradiction
  · rw [other] at found
    contradiction
  · rw [other] at found
    contradiction
  · rw [same] at found
    cases found
    have starts : Bytes.ofList bytes noise = 0x59 ∧ Bytes.ofList bytes (noise + 1) = 0x53 := by
      have header := @findHeader_header (Bytes.ofList bytes) 0 bytes.length
      rw [search] at header
      exact header (by omega)
    have dropped := Bytes.ofList_drop bytes noise
    have shifted : ∀ position index, Bytes.ofList (bytes.drop noise) (position + index) =
        Bytes.ofList bytes (noise + position + index) := by
      intro position index
      rw [dropped, Nat.add_assoc]
    refine ⟨by omega, isFrame_of_checksum ?_ ?_ ?_ ?_ ?_⟩
    · exact (dropped 0).trans starts.1
    · exact (dropped 1).trans starts.2
    · rw [dropped]
    · rw [List.length_drop]
      omega
    · apply (crcCalc_congr fun index _ => shifted 2 index).trans
      rw [sums, Nat.add_assoc noise]
      exact (Bytes.read16_congr fun index _ => shifted _ index).symm

/-! ## Decoding a frame -/

variable {F D : Type} [FloatArith F] [FloatArith D]

/-- The output after a frame. -/
def decodeFrame (frame : List Byte) (result : YisOutData F D) : Option (YisOutData F D) :=
  let data := Bytes.ofList frame
  parsePayload data 5 (BitVec.ofNat 32 (data 4).toNat) { result with tid := data.read16 2 }

/-- No item of a frame reaches beyond the end of its payload. -/
def Decodable (frame : List Byte) : Prop :=
  Ends (Bytes.ofList frame) 5 (Bytes.ofList frame 4).toNat

theorem decodeFrame_isSome (frame : List Byte) (result : YisOutData F D) :
    (decodeFrame frame result).isSome = true ↔ Decodable frame := by
  have size : dataBufSize = 1024 := rfl
  have small := (Bytes.ofList frame 4).isLt
  exact parsePayload_isSome (by omega)

end RmdCanSdk.Yesense
