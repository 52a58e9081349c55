import RmdCanSdk.Imu.Frame
import RmdCanSdk.Library.Crc

/-!
# The checksum of HiPNUC frames

The code keeps the register in 32 bits and never masks it. Its lower half is the register
of the cyclic redundancy check of 16 bits with the polynomial `x^16 + x^12 + x^5 + 1`, so
the check rejects every burst of up to 16 bits.
-/

namespace RmdCanSdk

open Polynomial

/-- The bits of a message of bytes, each byte from its highest bit on. -/
def messageBits (bytes : List Byte) : List Bool := bytes.flatMap Crc.bitsOf

theorem messageBits_cons (byte : Byte) (bytes : List Byte) :
    messageBits (byte :: bytes) = Crc.bitsOf byte ++ messageBits bytes := List.flatMap_cons

theorem messageBits_append (front back : List Byte) :
    messageBits (front ++ back) = messageBits front ++ messageBits back := List.flatMap_append

@[simp] theorem length_messageBits (bytes : List Byte) :
    (messageBits bytes).length = 8 * bytes.length := by
  induction bytes with
  | nil => rfl
  | cons byte bytes ih =>
      rw [messageBits_cons, List.length_append, Crc.length_bitsOf, ih, List.length_cons]
      omega

/-- The bytes from an offset on. -/
def slice (memory : Bytes) (offset length : Nat) : List Byte :=
  (List.range length).map fun index => memory (offset + index)

/-! ## The register -/

/-- What the inner loop does to the register. -/
def crcShift (crc : BitVec 32) : BitVec 32 :=
  if crc &&& 0x8000 ≠ 0 then crc <<< 1 ^^^ 0x1021 else crc <<< 1

/-- The lower half does not depend on the upper one. -/
theorem truncate_crcShift (crc : BitVec 32) :
    (crcShift crc).truncate 16 = Crc.step 0x1021 (crc.truncate 16) false := by
  have tested : crc &&& 0x8000 ≠ 0 ↔ (crc.truncate 16).msb = true := by
    have bit : (0x8000 : BitVec 32) = BitVec.twoPow 32 15 := by decide
    have nonzero : BitVec.twoPow 32 15 ≠ 0 := by decide
    rw [bit, BitVec.and_twoPow, BitVec.msb_setWidth]
    split
    next set => exact iff_of_true nonzero (by simpa using set)
    next clear => exact iff_of_false (not_not.mpr rfl) (by simpa using clear)
  rw [crcShift, Crc.step]
  by_cases high : (crc.truncate 16).msb = true
  · rw [if_pos (tested.mpr high), if_pos (by simp [high]), BitVec.truncate_eq_setWidth,
      BitVec.setWidth_xor, BitVec.setWidth_shiftLeft_of_le (by decide)]
    rfl
  · rw [if_neg (mt tested.mp high), if_neg (by simp [high]), BitVec.truncate_eq_setWidth,
      BitVec.setWidth_shiftLeft_of_le (by decide)]

theorem truncate_foldl_crcShift (crc : BitVec 32) (count : Nat) :
    ((List.range count).foldl (fun crc _ => crcShift crc) crc).truncate 16 =
      Crc.update 0x1021 (crc.truncate 16) (List.replicate count false) := by
  induction count with
  | zero => rfl
  | succ count ih =>
      rw [List.range_succ, List.foldl_append, List.replicate_succ', Crc.update_append, ← ih]
      exact truncate_crcShift _

/-- One byte is taken as its bits. -/
theorem truncate_crcByte (crc : BitVec 32) (byte : Byte) :
    (crcByte crc byte).truncate 16 = Crc.update 0x1021 (crc.truncate 16) (Crc.bitsOf byte) := by
  have aligned : (crc ^^^ byte.zeroExtend 32 <<< 8).truncate 16 =
      crc.truncate 16 ^^^ byte.zeroExtend 16 <<< (16 - 8) := by
    rw [BitVec.truncate_eq_setWidth, BitVec.setWidth_xor,
      BitVec.setWidth_shiftLeft_of_le (by decide)]
    simp
  rw [← Crc.update_aligned (by decide) (by decide), ← aligned]
  exact truncate_foldl_crcShift _ 8

theorem crcUpdate_eq_update (start : BitVec 16) (src : Bytes) (offset length : Nat) :
    crcUpdate start src offset length =
      Crc.update 0x1021 start (messageBits (slice src offset length)) := by
  have general : ∀ (bytes : List Byte) (crc : BitVec 32),
      (bytes.foldl crcByte crc).truncate 16 =
        Crc.update 0x1021 (crc.truncate 16) (messageBits bytes) := by
    intro bytes
    induction bytes with
    | nil => exact fun _ => rfl
    | cons byte bytes ih =>
        intro crc
        rw [List.foldl_cons, ih, truncate_crcByte, messageBits_cons, Crc.update_append]
  have folded : (List.range length).foldl (fun crc index => crcByte crc (src (offset + index)))
      (start.zeroExtend 32) = (slice src offset length).foldl crcByte (start.zeroExtend 32) := by
    rw [slice, List.foldl_map]
  rw [crcUpdate, folded, general]
  congr 1
  simp

/-- The generator of the check. -/
theorem generator_crc : Crc.generator (0x1021 : BitVec 16) = X ^ 16 + X ^ 12 + X ^ 5 + 1 := by
  have bits : Crc.value (0x1021 : BitVec 16) = 1 + X ^ 5 + X ^ 12 := by
    simp [Crc.value, Finset.sum_range_succ, ← X_pow_eq_monomial]
  rw [Crc.generator, bits]
  ring

/-! ## Byte lists -/

theorem slice_ofList (bytes : List Byte) : slice (Bytes.ofList bytes) 0 bytes.length = bytes := by
  apply List.ext_getElem (by simp [slice])
  intro index inSlice inBytes
  simp [slice, Bytes.ofList, inBytes]

theorem crcUpdate_ofList (start : BitVec 16) (bytes : List Byte) :
    crcUpdate start (Bytes.ofList bytes) 0 bytes.length =
      Crc.update 0x1021 start (messageBits bytes) := by
  rw [crcUpdate_eq_update, slice_ofList]

/-- The bytes of a frame that the check covers. -/
def checkedBytes (frame : Bytes) : List Byte := slice frame 0 4 ++ slice frame 6 76

theorem validHiPNUC_iff_update (frame : Bytes) :
    validHiPNUC frame = true ↔
      Crc.update 0x1021 0 (messageBits (checkedBytes frame)) = frame 5 ++ frame 4 := by
  simp only [validHiPNUC, decide_eq_true_iff]
  rw [crcUpdate_eq_update, crcUpdate_eq_update, ← Crc.update_append, ← messageBits_append]
  rfl

/-! ## Bursts -/

/-- The bit of the bytes from byte 6 on at a position. -/
def payloadBit (frame : Bytes) (position : Nat) : Bool :=
  (frame (6 + position / 8)).getMsbD (position % 8)

/-- Two frames differ in the bytes from byte 6 to byte 81 only, and there in at least one
bit, but in no bit outside a window of sixteen. -/
structure BurstBetween (frame other : Bytes) (start : Nat) : Prop where
  same : ∀ index < 6, frame index = other index
  differs : ∃ position < 608, payloadBit frame position ≠ payloadBit other position
  window : ∀ position < 608, payloadBit frame position ≠ payloadBit other position →
    start ≤ position ∧ position < start + 16

theorem getElem?_messageBits (bytes : List Byte) (position : Nat) :
    (messageBits bytes)[position]? =
      bytes[position / 8]?.map fun byte => byte.getMsbD (position % 8) := by
  induction bytes generalizing position with
  | nil => simp [messageBits]
  | cons byte bytes ih =>
      rw [messageBits_cons]
      by_cases first : position < 8
      · rw [List.getElem?_append_left (by simpa using first), Crc.bitsOf, List.getElem?_map,
          List.getElem?_range first, Nat.div_eq_of_lt first, Nat.mod_eq_of_lt first]
        rfl
      · rw [List.getElem?_append_right (by simpa using first), Crc.length_bitsOf, ih]
        have quotient : position / 8 = (position - 8) / 8 + 1 := by omega
        have remainder : position % 8 = (position - 8) % 8 := by omega
        rw [quotient, remainder, List.getElem?_cons_succ]

theorem payload_bit (frame : Bytes) {position : Nat} (inside : position < 608) :
    (messageBits (slice frame 6 76))[position]? = some (payloadBit frame position) := by
  rw [getElem?_messageBits, slice, List.getElem?_map, List.getElem?_range (by omega)]
  rfl

theorem update_ne_of_burstBetween {frame other : Bytes} {start : Nat}
    (burst : BurstBetween frame other start) (crc : BitVec 16) :
    Crc.update 0x1021 crc (messageBits (slice frame 6 76)) ≠
      Crc.update 0x1021 crc (messageBits (slice other 6 76)) := by
  have sized : ∀ memory : Bytes, (messageBits (slice memory 6 76)).length = 608 := by
    intro memory
    simp [slice]
  refine Crc.update_ne_of_burst (by decide) crc ?_ ?_ start ?_
  · rw [sized, sized]
  · intro same
    rcases burst.differs with ⟨position, inside, different⟩
    apply different
    rw [← Option.some_inj, ← payload_bit frame inside, ← payload_bit other inside, same]
  · intro position different
    by_cases inside : position < 608
    · rw [payload_bit frame inside, payload_bit other inside] at different
      exact burst.window position inside fun same => different (congrArg some same)
    · exfalso
      apply different
      rw [List.getElem?_eq_none (by rw [sized]; omega),
        List.getElem?_eq_none (by rw [sized]; omega)]

/-- A burst in the payload is noticed. -/
theorem validHiPNUC_burst {frame other : Bytes} {start : Nat} (valid : validHiPNUC frame = true)
    (burst : BurstBetween frame other start) : validHiPNUC other = false := by
  rw [Bool.eq_false_iff, ne_eq, validHiPNUC_iff_update]
  intro accepted
  rw [validHiPNUC_iff_update, burst.same 5 (by decide), burst.same 4 (by decide), ← accepted,
    checkedBytes, checkedBytes, messageBits_append, messageBits_append, Crc.update_append,
    Crc.update_append] at valid
  have head : slice frame 0 4 = slice other 0 4 := by
    apply List.map_congr_left
    intro index inRange
    rw [List.mem_range] at inRange
    exact burst.same _ (by omega)
  rw [head] at valid
  exact update_ne_of_burstBetween burst _ valid

/-- What the check of a HiPNUC frame is worth. -/
structure HipnucCheck : Prop where
  /-- The register takes the bits of its bytes one by one. -/
  bitwise : ∀ (start : BitVec 16) (src : List Byte),
    crcUpdate start (Bytes.ofList src) 0 src.length =
      Crc.update 0x1021 start (messageBits src)
  /-- It holds the remainder of the start value and the bytes. -/
  remainder : ∀ (start : BitVec 16) (src : List Byte),
    Crc.value (crcUpdate start (Bytes.ofList src) 0 src.length) =
      (X ^ (8 * src.length) * Crc.value start + X ^ 16 * Crc.message (messageBits src)) %ₘ
        (X ^ 16 + X ^ 12 + X ^ 5 + 1)
  append : ∀ (start : BitVec 16) (front back : List Byte),
    crcUpdate (crcUpdate start (Bytes.ofList front) 0 front.length) (Bytes.ofList back) 0
        back.length =
      crcUpdate start (Bytes.ofList (front ++ back)) 0 (front ++ back).length
  accepts : ∀ frame : Bytes, validHiPNUC frame = true ↔
    frame 5 ++ frame 4 = crcUpdate 0 (Bytes.ofList (checkedBytes frame)) 0 80
  burst : ∀ (frame other : Bytes) (start : Nat), validHiPNUC frame = true →
    BurstBetween frame other start → validHiPNUC other = false

theorem hipnuc_check : HipnucCheck where
  bitwise := crcUpdate_ofList
  remainder start src := by
    rw [crcUpdate_ofList, Crc.value_update (by decide), length_messageBits, generator_crc]
  append start front back := by
    rw [crcUpdate_ofList, crcUpdate_ofList, crcUpdate_ofList, messageBits_append,
      Crc.update_append]
  accepts frame := by
    have length : (checkedBytes frame).length = 80 := by simp [checkedBytes, slice]
    rw [validHiPNUC_iff_update, ← crcUpdate_ofList, length, eq_comm]
  burst _ _ _ := validHiPNUC_burst

theorem crcUpdate_zero (offset length : Nat) :
    crcUpdate 0 (fun _ => 0) offset length = 0 := by
  have folded : (List.range length).foldl (fun crc _ => crcByte crc 0) 0 = 0 := by
    induction length with
    | zero => rfl
    | succ length ih =>
        have byte : crcByte 0 0 = 0 := by decide
        rw [List.range_succ, List.foldl_append, ih]
        exact byte
  exact congrArg (BitVec.truncate 16) folded

/-- One flipped bit of a frame of zeros. -/
theorem hipnuc_check_one_bit :
    validHiPNUC (fun _ => 0) = true ∧
      validHiPNUC (fun index => if index = 6 then 0x80 else 0) = false := by
  have valid : validHiPNUC (fun _ => 0) = true := by
    rw [validHiPNUC, crcUpdate_zero, crcUpdate_zero]
    rfl
  refine ⟨valid, hipnuc_check.burst _ _ 0 valid ?_⟩
  constructor
  case same =>
    intro index head
    rw [if_neg (by omega)]
  case differs => exact ⟨0, by decide, by decide⟩
  case window =>
    intro position _ different
    by_contra outside
    apply different
    rw [payloadBit, payloadBit, if_neg (by omega)]

end RmdCanSdk
