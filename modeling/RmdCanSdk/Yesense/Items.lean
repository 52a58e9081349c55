import RmdCanSdk.Yesense.Stream

/-!
# Frames made of items

Frames whose payloads are items back to back are decoded item by item. The samples published
for a stream of such frames report the last item of each kind, from this frame or an earlier
one.
-/

namespace RmdCanSdk.Yesense

variable {F D : Type} [FloatArith F] [FloatArith D]

/-- An item with values of the length of its id. -/
structure Item where
  dataId : DataId
  data : List Byte
  length_data : data.length = dataId.dataLen

namespace Item

def bytes (item : Item) : List Byte :=
  item.dataId.code :: BitVec.ofNat 8 item.dataId.dataLen :: item.data

theorem length_bytes (item : Item) : item.bytes.length = item.dataId.dataLen + 2 := by
  rw [bytes, List.length_cons, List.length_cons, item.length_data]

/-- The output after an item. -/
def store (item : Item) (result : YisOutData F D) : YisOutData F D :=
  accept item.dataId (Bytes.ofList item.data) 0 result

end Item

/-- The payload of items back to back. -/
def itemBytes (items : List Item) : List Byte := items.flatMap Item.bytes

theorem itemBytes_cons (item : Item) (items : List Item) :
    itemBytes (item :: items) = item.bytes ++ itemBytes items := List.flatMap_cons

/-- Items back to back are decoded one after the other. -/
theorem parsePayload_items {data : Bytes} {i : Nat} (items : List Item)
    (same : ∀ index < (itemBytes items).length,
      data (i + index) = Bytes.ofList (itemBytes items) index)
    (inside : i + (itemBytes items).length + 2 ≤ dataBufSize) (result : YisOutData F D) :
    parsePayload data i (BitVec.ofNat 32 (itemBytes items).length) result =
      some (items.foldl (fun result item => item.store result) result) := by
  induction items generalizing i result with
  | nil => exact parsePayload_zero i result
  | cons item rest ih =>
      have length : (itemBytes (item :: rest)).length =
          (itemBytes rest).length + (item.dataId.dataLen + 2) := by
        rw [itemBytes_cons, List.length_append, item.length_bytes, Nat.add_comm]
      have code : data i = item.dataId.code := same 0 (by omega)
      have dataLen : data (i + 1) = BitVec.ofNat 8 item.dataId.dataLen := same 1 (by omega)
      have found : itemAt data i = some item.dataId := by
        have short := item.dataId.dataLen_le
        rw [itemAt, code, DataId.ofCode_code, dataLen, Option.filter_some, BitVec.toNat_ofNat,
          Nat.mod_eq_of_lt (by omega), if_pos (decide_eq_true rfl)]
      have values : ∀ index < item.dataId.dataLen,
          data (i + 2 + index) = Bytes.ofList item.data (0 + index) := by
        intro index small
        rw [Nat.add_assoc, same _ (by omega), Nat.zero_add, itemBytes_cons,
          Bytes.ofList_append_left (by rw [item.length_bytes]; omega)]
        exact Bytes.ofList_append_right [item.dataId.code, BitVec.ofNat 8 item.dataId.dataLen]
          item.data index
      rw [length] at inside same ⊢
      rw [parsePayload_inside found inside, accept, store_congr item.dataId values, List.foldl_cons]
      apply ih _ (by omega)
      intro index small
      rw [Nat.add_assoc, same _ (by omega), itemBytes_cons, ← item.length_bytes,
        Bytes.ofList_append_right]

/-- The frame with some items. -/
def itemsFrame (tid : BitVec 16) (items : List Item) : List Byte := frameBytes tid (itemBytes items)

theorem decodeFrame_itemsFrame {items : List Item} (short : (itemBytes items).length < 256)
    (tid : BitVec 16) (result : YisOutData F D) :
    decodeFrame (itemsFrame tid items) result =
      some (items.foldl (fun result item => item.store result) { result with tid := tid }) := by
  have size : dataBufSize = 1024 := rfl
  rcases frameBytes_header (List.prefix_rfl : frameBytes tid (itemBytes items) <+: _) short with
    ⟨-, -, payloadLen⟩
  have stored : (Bytes.ofList (frameBytes tid (itemBytes items))).read16 2 = tid :=
    Bytes.join16 tid
  rw [decodeFrame, itemsFrame, payloadLen, stored]
  apply parsePayload_items items _ (by omega)
  intro index small
  have place := Bytes.ofList_append_right ([0x59, 0x53] ++ Bytes.le16 tid ++
    [BitVec.ofNat 8 (itemBytes items).length]) (itemBytes items ++
      [(checksum (frameBody tid (itemBytes items))).1,
        (checksum (frameBody tid (itemBytes items))).2]) index
  exact place.trans (Bytes.ofList_append_left small _)

/-! ## Samples -/

/-- The values of the last item of a kind. -/
def latest (dataId : DataId) : List Item → Option Bytes
  | [] => none
  | item :: rest =>
      (latest dataId rest).or
        (if item.dataId = dataId then some (Bytes.ofList item.data) else none)

theorem latest_concat (dataId : DataId) (items : List Item) (item : Item) :
    latest dataId (items ++ [item]) =
      if item.dataId = dataId then some (Bytes.ofList item.data) else latest dataId items := by
  induction items with
  | nil => rfl
  | cons first rest ih =>
      rw [List.cons_append, latest, ih, latest]
      split <;> rfl

def rpyOf (data : Bytes) : Vector F 3 :=
  let value := convertDataS32 (F := F) data 0 (lit 0.000001)
  #v[value 1 * Pi / lit 180, value 0 * Pi / lit 180, value 2 * Pi / lit 180]

def gyrOf (data : Bytes) : Vector F 3 :=
  let value := convertDataS32 (F := F) data 0 (lit 0.000001)
  #v[value 0 * Pi / lit 180, value 1 * Pi / lit 180, value 2 * Pi / lit 180]

def accOf (data : Bytes) : Vector F 3 :=
  let value := convertDataS32 (F := F) data 0 (lit 0.000001)
  #v[value 0, value 1, value 2]

def zeros : Vector F 3 := Vector.replicate 3 (lit 0)

/-- The angles, rates and accelerations of the last items; those of no item are zero. -/
def imuOf (items : List Item) : ImuStruct F where
  rpy := (latest .euler items).elim zeros rpyOf
  gyr := (latest .gyro items).elim zeros gyrOf
  acc := (latest .accel items).elim zeros accOf

theorem imu_store {items : List Item} {output : YisOutData F D}
    (same : yesenseOutputToImu output = imuOf items) (item : Item) :
    yesenseOutputToImu (item.store output) = imuOf (items ++ [item]) := by
  rcases item with ⟨dataId, data, length⟩
  have rpy := congrArg ImuStruct.rpy same
  have gyr := congrArg ImuStruct.gyr same
  have acc := congrArg ImuStruct.acc same
  rw [imuOf]
  simp only [latest_concat]
  cases dataId with
  | euler => exact ImuStruct.mk.injEq .. ▸ ⟨rfl, gyr, acc⟩
  | gyro => exact ImuStruct.mk.injEq .. ▸ ⟨rpy, rfl, acc⟩
  | accel => exact ImuStruct.mk.injEq .. ▸ ⟨rpy, gyr, rfl⟩
  | _ => exact same

theorem imu_items {before : List Item} {output : YisOutData F D}
    (same : yesenseOutputToImu output = imuOf before) (items : List Item) :
    yesenseOutputToImu (items.foldl (fun result item => item.store result) output) =
      imuOf (before ++ items) := by
  induction items generalizing before output with
  | nil => rw [List.append_nil, List.foldl_nil, same]
  | cons item rest ih =>
      rw [List.foldl_cons, ih (imu_store same item), List.append_assoc, List.singleton_append]

theorem validFlg_items {items : List Item} (nonempty : items ≠ []) (output : YisOutData F D) :
    (items.foldl (fun result item => item.store result) output).content.validFlg = true := by
  rw [← List.dropLast_append_getLast nonempty, List.foldl_append]
  rfl

/-- A frame with at least one item, and its id. -/
structure ItemFrame where
  tid : BitVec 16
  items : List Item
  nonempty : items ≠ []
  short : (itemBytes items).length < 256

namespace ItemFrame

def bytes (frame : ItemFrame) : List Byte := itemsFrame frame.tid frame.items

theorem two_le_length_bytes {items : List Item} (nonempty : items ≠ []) :
    2 ≤ (itemBytes items).length := by
  match items with
  | item :: rest =>
      rw [itemBytes_cons, List.length_append, item.length_bytes]
      omega

theorem wellFormed (frame : ItemFrame) : WellFormed frame.bytes where
  isFrame := ⟨frame.tid, itemBytes frame.items, frame.short, rfl⟩
  hasItems := by
    have long := two_le_length_bytes frame.nonempty
    rw [bytes, itemsFrame, length_frameBytes]
    omega
  decodable := by
    rw [bytes, ← decodeFrame_isSome _ (YisOutData.zero : YisOutData ℚ ℚ),
      decodeFrame_itemsFrame frame.short]
    rfl

end ItemFrame

/-- The samples for some frames: the last items of each frame and of those before it. -/
def samples (frames : List ItemFrame) : List (ImuStruct F) :=
  (List.range frames.length).map fun count =>
    imuOf ((frames.take (count + 1)).flatMap ItemFrame.items)

theorem samples_concat (frames : List ItemFrame) (frame : ItemFrame) :
    (samples (frames ++ [frame]) : List (ImuStruct F)) =
      samples frames ++ [imuOf ((frames ++ [frame]).flatMap ItemFrame.items)] := by
  have length : (frames ++ [frame]).length = frames.length + 1 := List.length_append
  rw [samples, length, List.range_succ, List.map_append, List.map_singleton,
    List.take_of_length_le (Nat.le_of_eq length)]
  apply congrArg (· ++ _)
  apply List.map_congr_left
  intro count small
  rw [List.take_append_of_le_length (List.mem_range.mp small)]

/-- What becomes of frames with items. -/
theorem deliverAll_samples (frames : List ItemFrame) :
    ∃ output : YisOutData F D, deliverAll (frames.map ItemFrame.bytes) =
        some (output, samples frames) ∧
      yesenseOutputToImu output = imuOf (frames.flatMap ItemFrame.items) := by
  induction frames using List.reverseRecOn with
  | nil => exact ⟨_, rfl, rfl⟩
  | append_singleton front frame ih =>
      rcases ih with ⟨before, delivered, same⟩
      have decoded := decodeFrame_itemsFrame frame.short frame.tid before
      generalize foldl : frame.items.foldl (fun result item => item.store result)
        { before with tid := frame.tid } = output at decoded
      have valid : output.content.validFlg = true := by
        rw [← foldl]
        exact validFlg_items frame.nonempty _
      have imu : yesenseOutputToImu output =
          imuOf ((front ++ [frame]).flatMap ItemFrame.items) := by
        have unchanged : yesenseOutputToImu { before with tid := frame.tid } =
            imuOf (front.flatMap ItemFrame.items) := same
        rw [← foldl, List.flatMap_append, List.flatMap_singleton]
        exact imu_items unchanged frame.items
      have sample : sampleOf output = some (imuOf ((front ++ [frame]).flatMap ItemFrame.items)) := by
        rw [sampleOf, valid, ← imu]
        rfl
      refine ⟨output, ?_, imu⟩
      rw [List.map_append, List.map_singleton, deliverAll_concat, delivered, Option.bind_some,
        deliver, ItemFrame.bytes, decoded, samples_concat, Option.map_some, sample]
      rfl

/-- Of a stream of frames with items, in reads of two bytes or more that are not longer than
the frames, every frame that has been read whole has become a sample. -/
theorem readLoop_items (frames : List ItemFrame) (reads : List (List Byte))
    (fits : ∀ read ∈ reads, 2 ≤ read.length ∧ ∀ frame ∈ frames, read.length ≤ frame.bytes.length)
    (stream : reads.flatten <+: (frames.map ItemFrame.bytes).flatten) :
    ∃ (loop : ReadLoop F D) (decoded left : List ItemFrame) (rest : List Byte),
      ReadLoop.start.readAll reads = some loop ∧ frames = decoded ++ left ∧
        loop.published = samples decoded ∧
        reads.flatten = (decoded.map ItemFrame.bytes).flatten ++ rest ∧
        ∀ next ∈ left.head?, rest.length < next.bytes.length := by
  have wellFormed : ∀ bytes ∈ frames.map ItemFrame.bytes, WellFormed bytes :=
    List.forall_mem_map.mpr fun frame _ => frame.wellFormed
  rcases readLoop_complete (F := F) (D := D) (frames.map ItemFrame.bytes) reads wellFormed
      (fun read member => ⟨(fits read member).1, List.forall_mem_map.mpr (fits read member).2⟩)
      stream with ⟨loop, taken, later, rest, ran, split, delivered, together, -, behind⟩
  rcases List.map_eq_append_iff.mp split with ⟨decoded, left, rfl, rfl, rfl⟩
  rcases deliverAll_samples (F := F) (D := D) decoded with ⟨output, same, -⟩
  rw [same] at delivered
  refine ⟨loop, decoded, left, rest, ran, rfl, (congrArg Prod.snd (Option.some.inj delivered)).symm,
    together, ?_⟩
  intro next isNext
  apply behind
  rw [List.head?_map, isNext]
  rfl

/-- A frame with an acceleration and the status. -/
def accelFrame : ItemFrame where
  tid := 1
  items := [⟨.accel, [64, 66, 15, 0, 0, 0, 0, 0, 0, 0, 0, 0], rfl⟩, ⟨.status, [5], rfl⟩]
  nonempty := List.cons_ne_nil _ _
  short := by decide

theorem readLoop_items_accel :
    ∃ (loop : ReadLoop ℚ ℚ) (decoded left : List ItemFrame) (rest : List Byte),
      ReadLoop.start.readAll [accelFrame.bytes.take 9, accelFrame.bytes.drop 9] = some loop ∧
        [accelFrame] = decoded ++ left ∧ loop.published = samples decoded ∧
        [accelFrame.bytes.take 9, accelFrame.bytes.drop 9].flatten =
          (decoded.map ItemFrame.bytes).flatten ++ rest ∧
        ∀ next ∈ left.head?, rest.length < next.bytes.length :=
  readLoop_items [accelFrame] _ (by decide) (by decide)

end RmdCanSdk.Yesense
