import RmdCanSdk.Imu.Frame

/-!
# The decoder of Yesense IMUs

A frame has a header, an id, a length, a payload of tagged items and a checksum. The decoder
collects the bytes it is fed in a buffer, looks for one frame in it on every call, and writes
the items of the frame into an output record that it keeps between the calls. An access
outside of the buffer is undefined behaviour, which is modelled by `none`.
-/

namespace RmdCanSdk.Yesense

/-- The capacity of the buffer. -/
def dataBufSize : Nat := 1024

/-- The length of a frame without payload. -/
def protocolMinLen : Nat := 7

/-- The result codes that are returned. -/
inductive AnalysisRes where
  | notSupported
  | crcErr
  | dataLenErr
  | paraErr
  | analysisOk
  | noHeader
  | bufFull
  deriving DecidableEq

/-! ## Items -/

/-- The ids of the items that are decoded. -/
inductive DataId where
  | sensorTemp
  | accel
  | gyro
  | magneticNorm
  | rawMagnetic
  | euler
  | quaternion
  | location
  | speed
  | status
  | sampleTimestamp
  | dataReadyTimestamp
  deriving DecidableEq

namespace DataId

def code : DataId → Byte
  | sensorTemp => 0x01
  | accel => 0x10
  | gyro => 0x20
  | magneticNorm => 0x30
  | rawMagnetic => 0x31
  | euler => 0x40
  | quaternion => 0x41
  | location => 0x68
  | speed => 0x70
  | status => 0x80
  | sampleTimestamp => 0x51
  | dataReadyTimestamp => 0x52

/-- The number of bytes of the values of an item. -/
def dataLen : DataId → Nat
  | sensorTemp => 2
  | accel | gyro | magneticNorm | rawMagnetic | euler | speed => 12
  | quaternion => 16
  | location => 20
  | status => 1
  | sampleTimestamp | dataReadyTimestamp => 4

def all : List DataId :=
  [sensorTemp, accel, gyro, magneticNorm, rawMagnetic, euler, quaternion, location, speed,
    status, sampleTimestamp, dataReadyTimestamp]

def ofCode (byte : Byte) : Option DataId := all.find? fun dataId => dataId.code = byte

theorem ofCode_code (dataId : DataId) : ofCode dataId.code = some dataId := by
  cases dataId <;> rfl

theorem code_of_ofCode {byte : Byte} {dataId : DataId} (known : ofCode byte = some dataId) :
    dataId.code = byte := of_decide_eq_true (List.find?_some known :)

theorem dataLen_pos (dataId : DataId) : 0 < dataId.dataLen := by cases dataId <;> decide

theorem dataLen_le (dataId : DataId) : dataId.dataLen ≤ 20 := by cases dataId <;> decide

end DataId

/-! ## Output -/

structure AxisData (F : Type) where
  x : F
  y : F
  z : F
  deriving DecidableEq

structure EulerData (F : Type) where
  pitch : F
  roll : F
  yaw : F
  deriving DecidableEq

structure QuatData (F : Type) where
  q0 : F
  q1 : F
  q2 : F
  q3 : F
  deriving DecidableEq

/-- A position, with its angles in a type of their own. -/
structure PosData (F D : Type) where
  latitude : D
  longitude : D
  altitude : F
  deriving DecidableEq

structure VelData (F : Type) where
  velE : F
  velN : F
  velU : F
  deriving DecidableEq

/-- Which fields of the output have been written, and whether the last item was valid. -/
structure YisContent where
  validFlg : Bool
  sensorTemp : Bool
  acc : Bool
  gyro : Bool
  magNorm : Bool
  magRaw : Bool
  euler : Bool
  quat : Bool
  pos : Bool
  vel : Bool
  status : Bool
  sampleTimestamp : Bool
  datareadyTimestamp : Bool
  deriving DecidableEq

/-- The output record, with `F` for its single-precision and `D` for its double-precision
numbers. -/
structure YisOutData (F D : Type) where
  content : YisContent
  tid : BitVec 16
  sensorTemp : F
  acc : AxisData F
  gyro : AxisData F
  magRaw : AxisData F
  magNorm : AxisData F
  euler : EulerData F
  quat : QuatData F
  pos : PosData F D
  vel : VelData F
  sampleTimestamp : BitVec 32
  datareadyTimestamp : BitVec 32
  status : Byte
  deriving DecidableEq

variable {F D : Type} [FloatArith F] [FloatArith D]

/-- The record of a decoder that has not decoded anything. -/
def YisOutData.zero : YisOutData F D where
  content := ⟨false, false, false, false, false, false, false, false, false, false, false,
    false, false⟩
  tid := 0
  sensorTemp := lit 0
  acc := ⟨lit 0, lit 0, lit 0⟩
  gyro := ⟨lit 0, lit 0, lit 0⟩
  magRaw := ⟨lit 0, lit 0, lit 0⟩
  magNorm := ⟨lit 0, lit 0, lit 0⟩
  euler := ⟨lit 0, lit 0, lit 0⟩
  quat := ⟨lit 0, lit 0, lit 0, lit 0⟩
  pos := ⟨lit 0, lit 0, lit 0⟩
  vel := ⟨lit 0, lit 0, lit 0⟩
  sampleTimestamp := 0
  datareadyTimestamp := 0
  status := 0

/-- The value at an index of an array of 32-bit integers. -/
def convertDataS32 (data : Bytes) (offset : Nat) (sens : F) (index : Nat) : F :=
  lit ((data.read32 (offset + 4 * index)).toInt : ℚ) * sens

/-- Write the values of an item and set its flag. -/
def DataId.store (dataId : DataId) (data : Bytes) (offset : Nat) (result : YisOutData F D) :
    YisOutData F D :=
  match dataId with
  | sensorTemp => { result with
      sensorTemp := lit ((data.read16 offset).toInt : ℚ) * lit 0.01
      content.sensorTemp := true }
  | accel =>
      let value := convertDataS32 data offset (lit 0.000001)
      { result with acc := ⟨value 0, value 1, value 2⟩, content.acc := true }
  | gyro =>
      let value := convertDataS32 data offset (lit 0.000001)
      { result with gyro := ⟨value 0, value 1, value 2⟩, content.gyro := true }
  | magneticNorm =>
      let value := convertDataS32 data offset (lit 0.000001)
      { result with magNorm := ⟨value 0, value 1, value 2⟩, content.magNorm := true }
  | rawMagnetic =>
      let value := convertDataS32 data offset (lit 0.001)
      { result with magRaw := ⟨value 0, value 1, value 2⟩, content.magRaw := true }
  | euler =>
      let value := convertDataS32 data offset (lit 0.000001)
      { result with euler := ⟨value 0, value 1, value 2⟩, content.euler := true }
  | quaternion =>
      let value := convertDataS32 data offset (lit 0.000001)
      { result with quat := ⟨value 0, value 1, value 2, value 3⟩, content.quat := true }
  | location => { result with
      pos := {
        latitude := lit ((data.read64 offset).toInt : ℚ) * lit 0.0000000001
        longitude := lit ((data.read64 (offset + 8)).toInt : ℚ) * lit 0.0000000001
        altitude := lit ((data.read32 (offset + 16)).toInt : ℚ) * lit 0.001 }
      content.pos := true }
  | speed =>
      let value := convertDataS32 data offset (lit 0.001)
      { result with vel := ⟨value 0, value 1, value 2⟩, content.vel := true }
  | status => { result with status := data offset, content.status := true }
  | sampleTimestamp => { result with
      sampleTimestamp := data.read32 offset
      content.sampleTimestamp := true }
  | dataReadyTimestamp => { result with
      datareadyTimestamp := data.read32 offset
      content.datareadyTimestamp := true }

/-- Clear the flag of an item of the wrong length; the time stamps clear another flag. -/
def DataId.clear (dataId : DataId) (content : YisContent) : YisContent :=
  match dataId with
  | sensorTemp => { content with sensorTemp := false }
  | accel => { content with acc := false }
  | gyro => { content with gyro := false }
  | magneticNorm => { content with magNorm := false }
  | rawMagnetic => { content with magRaw := false }
  | euler => { content with euler := false }
  | quaternion => { content with quat := false }
  | location => { content with pos := false }
  | speed => { content with vel := false }
  | status | sampleTimestamp | dataReadyTimestamp => { content with status := false }

/-! ## Payloads -/

/-- An attempt to decode an item at a position of the buffer. -/
def parseDataById (data : Bytes) (i : Nat) (result : YisOutData F D) :
    Option (AnalysisRes × YisOutData F D) :=
  if dataBufSize ≤ i then none
  else
    match DataId.ofCode (data i) with
    | none => some (.notSupported, { result with content.validFlg := false })
    | some dataId =>
        if dataBufSize ≤ i + 1 then none
        else if dataId.dataLen = (data (i + 1)).toNat then
          if i + 2 + dataId.dataLen ≤ dataBufSize then
            some (.analysisOk, { dataId.store data (i + 2) result with content.validFlg := true })
          else none
        else
          some (.dataLenErr, { result with
            content := { dataId.clear result.content with validFlg := false } })

theorem parseDataById_inside {data : Bytes} {i : Nat} {result : YisOutData F D}
    {parsed : AnalysisRes × YisOutData F D} (some : parseDataById data i result = some parsed) :
    i < dataBufSize := by
  by_contra outside
  rw [parseDataById, if_pos (Nat.le_of_not_lt outside)] at some
  contradiction

/-- The loop over a payload. Where no item is decoded, the next byte is tried; the counter of
the bytes that are left is not compared with the length of an item. -/
def parsePayload (data : Bytes) (i : Nat) (cnt : BitVec 32) (result : YisOutData F D) :
    Option (YisOutData F D) :=
  if cnt = 0 then some result
  else
    match parsed : parseDataById data i result with
    | none => none
    | some (.analysisOk, result) =>
        let consumed := (data (i + 1)).toNat + 2
        parsePayload data (i + consumed) (cnt - BitVec.ofNat 32 consumed) result
    | some (_, result) => parsePayload data (i + 1) (cnt - 1) result
termination_by dataBufSize - i
decreasing_by
  all_goals
    have inside := parseDataById_inside parsed
    omega

/-! ## Frames -/

/-- Look for the header, with the position and the number of bytes from there on. -/
def findHeader (data : Bytes) : Nat → Nat → Nat × Nat
  | i, cnt + 2 =>
      if data i = 0x59 ∧ data (i + 1) = 0x53 then (i, cnt + 2)
      else findHeader data (i + 1) (cnt + 1)
  | i, cnt => (i, cnt)

/-- Add a byte to both sums of the checksum. -/
def sumByte (ck : Byte × Byte) (byte : Byte) : Byte × Byte :=
  (ck.1 + byte, ck.2 + (ck.1 + byte))

def crcCalc (data : Bytes) (offset len : Nat) : BitVec 16 :=
  let ck := (List.range len).foldl (fun ck index => sumByte ck (data (offset + index))) (0, 0)
  ck.2 ++ ck.1

/-- Where the last frame was found. -/
structure MsgIdx where
  stIdx : Nat
  endIdx : Nat
  deriving DecidableEq

/-- Look for a frame in the first bytes of the buffer. -/
def MsgIdx.dataProc (msgIdx : MsgIdx) (data : Bytes) (len : Nat) (result : YisOutData F D) :
    Option (AnalysisRes × MsgIdx × YisOutData F D) :=
  if len = 0 then some (.paraErr, msgIdx, result)
  else
    let (i, cnt) := findHeader data 0 len
    if cnt ≤ 1 then some (.noHeader, msgIdx, result)
    else
      let msgIdx := { msgIdx with stIdx := i }
      let payloadLen := (data (i + 4)).toNat
      if cnt ≤ protocolMinLen then some (.dataLenErr, msgIdx, result)
      else if cnt < payloadLen + protocolMinLen then some (.dataLenErr, msgIdx, result)
      else if crcCalc data (i + 2) (payloadLen + 3) ≠ data.read16 (i + 2 + (payloadLen + 3)) then
        some (.crcErr, msgIdx, result)
      else
        let msgIdx := { msgIdx with endIdx := i + payloadLen + protocolMinLen - 1 }
        (parsePayload data (i + 5) (BitVec.ofNat 32 payloadLen)
          { result with tid := data.read16 (i + 2) }).map fun result =>
            (.analysisOk, msgIdx, result)

/-! ## The buffer -/

/-- The buffer, the number of its bytes in use, and the frame decoder. A command in progress
would keep a buffer without header; no command is ever started. -/
structure YesenseDecoder where
  decodeData : Bytes
  decodeBufLen : Nat
  msgIdx : MsgIdx
  cmdFlg : Bool

namespace YesenseDecoder

def fresh : YesenseDecoder where
  decodeData _ := 0
  decodeBufLen := 0
  msgIdx := ⟨0, 0⟩
  cmdFlg := false

/-- Remove the bytes between two positions, both included. The bytes behind them are moved by
a copy of overlapping ranges, taken to copy the bytes from the first one on. -/
def clearBufData (decoder : YesenseDecoder) (stIdx endIdx : Nat) : YesenseDecoder :=
  if endIdx < stIdx then decoder
  else
    let cnt := endIdx - stIdx + 1
    if dataBufSize ≤ cnt then { decoder with decodeData := fun _ => 0, decodeBufLen := 0 }
    else
      let rest := decoder.decodeBufLen - cnt
      { decoder with
        decodeBufLen := rest
        decodeData := Bytes.memcpy decoder.decodeData stIdx
          (fun index => decoder.decodeData (endIdx + 1 + index)) rest }

/-- The buffer with some bytes appended. -/
def append (decoder : YesenseDecoder) (data : List Byte) (len : Nat) : YesenseDecoder := {
  decoder with
  decodeData := Bytes.memcpy decoder.decodeData decoder.decodeBufLen (Bytes.ofList data) len
  decodeBufLen := decoder.decodeBufLen + len }

/-- Remove what has been dealt with: all bytes, a header, or what ends with a frame. -/
def discard (decoder : YesenseDecoder) (ret : AnalysisRes) : YesenseDecoder :=
  match ret with
  | .noHeader =>
      if decoder.cmdFlg then decoder else decoder.clearBufData 0 (decoder.decodeBufLen - 1)
  | .crcErr => decoder.clearBufData 0 (decoder.msgIdx.stIdx + 1)
  | .analysisOk => decoder.clearBufData 0 decoder.msgIdx.endIdx
  | _ => decoder

/-- The range of the lengths. -/
def uintRange : Nat := 4294967296

/-- Append the bytes to the buffer and look for a frame. -/
def dataProc (decoder : YesenseDecoder) (data : List Byte) (result : YisOutData F D) :
    Option (AnalysisRes × YesenseDecoder × YisOutData F D) :=
  let len := data.length % uintRange
  if dataBufSize < (len + decoder.decodeBufLen) % uintRange then some (.bufFull, decoder, result)
  else if dataBufSize < decoder.decodeBufLen + len then none
  else
    let decoder := decoder.append data len
    (decoder.msgIdx.dataProc decoder.decodeData decoder.decodeBufLen result).map
      fun (ret, msgIdx, result) => (ret, discard { decoder with msgIdx := msgIdx } ret, result)

end YesenseDecoder

/-! ## Samples -/

omit [FloatArith D] in
/-- The sample of an output record; what has never been written is zero. -/
def yesenseOutputToImu (output : YisOutData F D) : ImuStruct F where
  rpy :=
    if output.content.euler then
      #v[output.euler.roll * Pi / lit 180, output.euler.pitch * Pi / lit 180,
        output.euler.yaw * Pi / lit 180]
    else #v[lit 0, lit 0, lit 0]
  gyr :=
    if output.content.gyro then
      #v[output.gyro.x * Pi / lit 180, output.gyro.y * Pi / lit 180,
        output.gyro.z * Pi / lit 180]
    else #v[lit 0, lit 0, lit 0]
  acc :=
    if output.content.acc then #v[output.acc.x, output.acc.y, output.acc.z]
    else #v[lit 0, lit 0, lit 0]

structure YesenseImuDecoder (F D : Type) where
  decoder : YesenseDecoder
  output : YisOutData F D

namespace YesenseImuDecoder

def fresh : YesenseImuDecoder F D := ⟨.fresh, .zero⟩

/-- Decode the bytes of a read, with the sample if they complete a valid frame. -/
def feed (imu : YesenseImuDecoder F D) (data : List Byte) :
    Option (Option (ImuStruct F) × YesenseImuDecoder F D) :=
  if data.length = 0 then some (none, imu)
  else
    (imu.decoder.dataProc data imu.output).map fun (rc, decoder, output) =>
      let sample :=
        if rc ≠ .analysisOk ∨ output.content.validFlg = false then none
        else some (yesenseOutputToImu output)
      (sample, ⟨decoder, output⟩)

end YesenseImuDecoder

/-- The variables of the read loop of this type, and the samples published so far. -/
structure ReadLoop (F D : Type) where
  imu : YesenseImuDecoder F D
  published : List (ImuStruct F)

namespace ReadLoop

def start : ReadLoop F D := ⟨.fresh, []⟩

/-- The bytes of one read; a read that fails or times out has none. -/
def readInput (loop : ReadLoop F D) (input : List Byte) : Option (ReadLoop F D) :=
  if input.length = 0 then some loop
  else
    (loop.imu.feed input).map fun (decoded, imu) =>
      ⟨imu, loop.published ++ decoded.toList⟩

def readAll (loop : ReadLoop F D) (reads : List (List Byte)) : Option (ReadLoop F D) :=
  reads.foldlM readInput loop

end ReadLoop

end RmdCanSdk.Yesense
