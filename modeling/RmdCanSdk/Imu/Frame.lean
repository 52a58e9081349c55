import RmdCanSdk.Library.Bytes
import RmdCanSdk.Library.Float
import RmdCanSdk.Library.Framing
import RmdCanSdk.Types

/-!
# Frames of the serial IMUs

The protocols of the two IMU types that send frames of one length, the checks on a frame
and the sample in it. The conversion of a binary32 pattern to a number is a parameter.
-/

namespace RmdCanSdk

structure ImuProtocol where
  frameLength : Nat
  header0 : Byte
  header1 : Byte
  deriving DecidableEq

structure ImuStruct (F : Type) where
  rpy : Vector F 3
  gyr : Vector F 3
  acc : Vector F 3
  deriving DecidableEq

def normalizeType (value : String) : String := String.ofList (value.toList.map Char.toUpper)

def protocolForType (type : String) : Option ImuProtocol :=
  let normalized := normalizeType type
  if normalized = "XSENS" then some { frameLength := 50, header0 := 0xfa, header1 := 0xff }
  else if normalized = "HIPNUC" then
    some { frameLength := 82, header0 := 0x5a, header1 := 0xa5 }
  else if normalized = "YESENSE" then
    some { frameLength := 0, header0 := 0x59, header1 := 0x53 }
  else none

/-! ## Checks -/

/-- The effect of one byte on the checksum. -/
def crcByte (crc : BitVec 32) (byte : Byte) : BitVec 32 :=
  (List.range 8).foldl
    (fun crc _ => if crc &&& 0x8000 ≠ 0 then crc <<< 1 ^^^ 0x1021 else crc <<< 1)
    (crc ^^^ byte.zeroExtend 32 <<< 8)

def crcUpdate (currentCrc : BitVec 16) (src : Bytes) (offset length : Nat) : BitVec 16 :=
  ((List.range length).foldl (fun crc index => crcByte crc (src (offset + index)))
    (currentCrc.zeroExtend 32)).truncate 16

def validXsens (frame : Bytes) : Bool :=
  let dataIdsValid :=
    ((frame 4 = 0x20 ∧ frame 5 = 0x10 ∧ frame 6 = 0x10) ∨
      (frame 4 = 0x20 ∧ frame 5 = 0x30 ∧ frame 6 = 0x0c)) ∧
    frame 19 = 0x40 ∧ frame 20 = 0x20 ∧ frame 21 = 0x0c ∧
    frame 34 = 0x80 ∧ frame 35 = 0x20 ∧ frame 36 = 0x0c
  let sum : Int := ((List.range 48).map fun index => ((frame (index + 1)).toNat : Int)).sum
  let sum := if sum > 0xff then -sum else sum
  decide (dataIdsValid ∧ sum % 0x100 = (frame 49).toNat)

def validHiPNUC (frame : Bytes) : Bool :=
  let crc := crcUpdate 0 frame 0 4
  let crc := crcUpdate crc frame 6 76
  crc = frame 5 ++ frame 4

/-- A frame is checked on its own bytes. -/
theorem validXsens_congr {frame other : Bytes} (same : ∀ index < 50, frame index = other index) :
    validXsens frame = validXsens other := by
  have sums : ((List.range 48).map fun index => ((frame (index + 1)).toNat : Int)) =
      (List.range 48).map fun index => ((other (index + 1)).toNat : Int) := by
    apply List.map_congr_left
    intro index inRange
    rw [same (index + 1) (by rw [List.mem_range] at inRange; omega)]
  simp only [validXsens, sums, same 4 (by decide), same 5 (by decide), same 6 (by decide),
    same 19 (by decide), same 20 (by decide), same 21 (by decide), same 34 (by decide),
    same 35 (by decide), same 36 (by decide), same 49 (by decide)]

theorem crcUpdate_congr {frame other : Bytes} {offset length : Nat}
    (agree : frame.AgreeOn other offset length) (crc : BitVec 16) :
    crcUpdate crc frame offset length = crcUpdate crc other offset length := by
  simp only [crcUpdate]
  congr 1
  apply List.foldl_ext
  intro crc index inRange
  rw [agree index (List.mem_range.mp inRange)]

theorem validHiPNUC_congr {frame other : Bytes}
    (same : ∀ index < 82, frame index = other index) : validHiPNUC frame = validHiPNUC other := by
  have head : frame.AgreeOn other 0 4 := fun index small => same _ (by omega)
  have tail : frame.AgreeOn other 6 76 := fun index small => same _ (by omega)
  simp only [validHiPNUC, crcUpdate_congr head, crcUpdate_congr tail, same 4 (by decide),
    same 5 (by decide)]

/-! ## Samples -/

variable {F : Type} [FloatArith F] (floatOfBits : BitVec 32 → F)

def bigEndianFloat (bytes : Bytes) (offset : Nat) : F :=
  floatOfBits (bytes offset ++ bytes (offset + 1) ++ bytes (offset + 2) ++ bytes (offset + 3))

def littleEndianFloat (bytes : Bytes) (offset : Nat) : F :=
  floatOfBits (bytes.read32 offset)

def decodeXsens (frame : Bytes) : Option (ImuStruct F) :=
  if !validXsens frame then none
  else
    let value := bigEndianFloat floatOfBits frame
    some {
      rpy := #v[value 7 * Pi / lit 180, value 11 * Pi / lit 180, value 15 * Pi / lit 180]
      acc := #v[value 22, value 26, value 30]
      gyr := #v[value 37, value 41, value 45] }

def decodeHiPNUC (frame : Bytes) : Option (ImuStruct F) :=
  if !validHiPNUC frame then none
  else
    let value := littleEndianFloat floatOfBits frame
    some {
      acc := #v[value 18 * lit 9.81, value 22 * lit 9.81, value 26 * lit 9.81]
      gyr := #v[value 30 * Pi / lit 180, value 34 * Pi / lit 180, value 38 * Pi / lit 180]
      rpy := #v[value 58 * Pi / lit 180, value 54 * Pi / lit 180, value 62 * Pi / lit 180] }

def decodeFrame (type : String) (frame : Bytes) : Option (ImuStruct F) :=
  let normalized := normalizeType type
  if normalized = "XSENS" then decodeXsens floatOfBits frame
  else if normalized = "HIPNUC" then decodeHiPNUC floatOfBits frame
  else none

/-! ## Formats -/

def xsensFormat : FrameFormat Byte where
  frameLength := 50
  header0 := 0xfa
  header1 := 0xff
  distinct := by decide
  long := by decide

def hipnucFormat : FrameFormat Byte where
  frameLength := 82
  header0 := 0x5a
  header1 := 0xa5
  distinct := by decide
  long := by decide

/-- The types with frames of one length, in any spelling, and their formats. -/
def FormatOf (type : String) (format : FrameFormat Byte) : Prop :=
  (normalizeType type = "XSENS" ∧ format = xsensFormat) ∨
    (normalizeType type = "HIPNUC" ∧ format = hipnucFormat)

/-- Frames that pass the check of their type. -/
structure ValidFrame (type : String) (format : FrameFormat Byte) (frame : List Byte) : Prop
    extends format.IsFrame frame where
  decodes : (decodeFrame floatOfBits type (Bytes.ofList frame)).isSome = true

variable {type : String} {format : FrameFormat Byte}

omit [FloatArith F] in
theorem FormatOf.protocol_eq (formatOf : FormatOf type format) :
    protocolForType type = some {
      frameLength := format.frameLength
      header0 := format.header0
      header1 := format.header1 } := by
  rcases formatOf with ⟨normalized, rfl⟩ | ⟨normalized, rfl⟩
  · simp [protocolForType, normalized, xsensFormat]
  · simp [protocolForType, normalized, hipnucFormat]

/-- Exactly the frames that pass the check are decoded. -/
theorem isSome_decodeFrame_xsens (normalized : normalizeType type = "XSENS") (frame : Bytes) :
    (decodeFrame floatOfBits type frame).isSome = validXsens frame := by
  simp only [decodeFrame, normalized, if_true, decodeXsens]
  cases validXsens frame <;> rfl

/-- A sample is decoded from the bytes of its frame. -/
theorem decodeFrame_congr (formatOf : FormatOf type format) {frame other : Bytes}
    (same : ∀ index < format.frameLength, frame index = other index) :
    decodeFrame floatOfBits type frame = decodeFrame floatOfBits type other := by
  rcases formatOf with ⟨normalized, rfl⟩ | ⟨normalized, rfl⟩
  · have float : ∀ offset < 47,
        bigEndianFloat floatOfBits frame offset = bigEndianFloat floatOfBits other offset := by
      intro offset small
      have bound : (xsensFormat).frameLength = 50 := rfl
      simp only [bigEndianFloat, same offset (by omega), same (offset + 1) (by omega),
        same (offset + 2) (by omega), same (offset + 3) (by omega)]
    simp only [decodeFrame, normalized, if_true, decodeXsens, validXsens_congr same]
    simp only [float 7 (by decide), float 11 (by decide), float 15 (by decide),
      float 22 (by decide), float 26 (by decide), float 30 (by decide), float 37 (by decide),
      float 41 (by decide), float 45 (by decide)]
  · have float : ∀ offset < 79, littleEndianFloat floatOfBits frame offset =
        littleEndianFloat floatOfBits other offset := by
      intro offset small
      have bound : (hipnucFormat).frameLength = 82 := rfl
      rw [littleEndianFloat, Bytes.read32_congr, littleEndianFloat]
      intro index inside
      exact same _ (by omega)
    have different : "HIPNUC" ≠ "XSENS" := by decide
    simp only [decodeFrame, normalized, if_neg different, if_true, decodeHiPNUC,
      validHiPNUC_congr same]
    simp only [float 18 (by decide), float 22 (by decide), float 26 (by decide),
      float 30 (by decide), float 34 (by decide), float 38 (by decide), float 54 (by decide),
      float 58 (by decide), float 62 (by decide)]

end RmdCanSdk
