import RmdCanSdk.Yesense.Decoder

/-!
# The loop over a payload

The loop decodes the items of a payload and skips the bytes in between, without comparing the
length of an item with what is left of the payload. It ends exactly if no item reaches beyond
the end; else its counter wraps and the loop runs out of the buffer. What it decodes depends
only on the payload and the byte after it.
-/

namespace RmdCanSdk.Yesense

variable {F D : Type} [FloatArith F] [FloatArith D]

/-- The item at a position, if the id is known and the length is that of the id. -/
def itemAt (data : Bytes) (i : Nat) : Option DataId :=
  (DataId.ofCode (data i)).filter fun dataId => dataId.dataLen = (data (i + 1)).toNat

/-- The output after an item. -/
def accept (dataId : DataId) (data : Bytes) (offset : Nat) (result : YisOutData F D) :
    YisOutData F D :=
  { dataId.store data offset result with content.validFlg := true }

omit [FloatArith F] [FloatArith D] in
/-- The output after a byte at which there is no item. -/
def reject (byte : Byte) (result : YisOutData F D) : YisOutData F D :=
  match DataId.ofCode byte with
  | none => { result with content.validFlg := false }
  | some dataId => { result with
      content := { dataId.clear result.content with validFlg := false } }

/-- The loop has nothing beyond the end of a payload to decode. -/
inductive Ends (data : Bytes) : Nat → Nat → Prop where
  | done (i : Nat) : Ends data i 0
  | item {i cnt : Nat} {dataId : DataId} (found : itemAt data i = some dataId)
      (rest : Ends data (i + (dataId.dataLen + 2)) cnt) : Ends data i (cnt + (dataId.dataLen + 2))
  | skip {i cnt : Nat} (none : itemAt data i = none) (rest : Ends data (i + 1) cnt) :
      Ends data i (cnt + 1)

/-! ## One iteration -/

section

variable {data other : Bytes} {i j cnt : Nat} {dataId : DataId} {result : YisOutData F D}

theorem itemAt_eq_some (found : itemAt data i = some dataId) :
    DataId.ofCode (data i) = some dataId ∧ dataId.dataLen = (data (i + 1)).toNat := by
  rw [itemAt, Option.filter_eq_some_iff, decide_eq_true_iff] at found
  exact found

theorem parseDataById_item (found : itemAt data i = some dataId) (inside : i + 2 ≤ dataBufSize) :
    parseDataById data i result =
      if i + 2 + dataId.dataLen ≤ dataBufSize then
        some (.analysisOk, accept dataId data (i + 2) result)
      else none := by
  rcases itemAt_eq_some found with ⟨known, length⟩
  rw [parseDataById, if_neg (by omega), known]
  simp only
  rw [if_neg (by omega), if_pos length]
  rfl

theorem parseDataById_none (none : itemAt data i = none) (inside : i + 2 ≤ dataBufSize) :
    ∃ res, res ≠ .analysisOk ∧
      parseDataById data i result = some (res, reject (data i) result) := by
  rw [parseDataById, if_neg (by omega)]
  cases known : DataId.ofCode (data i) with
  | none => exact ⟨.notSupported, by decide, by rw [reject, known]⟩
  | some dataId =>
      have length : dataId.dataLen ≠ (data (i + 1)).toNat := by
        intro length
        rw [itemAt, known, Option.filter_some, if_pos (decide_eq_true length)] at none
        contradiction
      refine ⟨.dataLenErr, by decide, ?_⟩
      simp only
      rw [if_neg (by omega), if_neg length, reject, known]

theorem ofNat_ne_zero (positive : 0 < cnt) (small : cnt < 4294967296) :
    BitVec.ofNat 32 cnt ≠ 0 := by
  intro zero
  have value := congrArg BitVec.toNat zero
  rw [BitVec.toNat_ofNat, Nat.mod_eq_of_lt small] at value
  exact absurd value (Nat.ne_of_gt positive)

theorem parsePayload_zero (i : Nat) (result : YisOutData F D) :
    parsePayload data i 0#32 result = some result := by
  rw [parsePayload]
  exact if_pos rfl

theorem parsePayload_item (found : itemAt data i = some dataId) (inside : i + 2 ≤ dataBufSize)
    {left : BitVec 32} (nonzero : left ≠ 0) :
    parsePayload data i left result =
      if i + 2 + dataId.dataLen ≤ dataBufSize then
        parsePayload data (i + (dataId.dataLen + 2)) (left - BitVec.ofNat 32 (dataId.dataLen + 2))
          (accept dataId data (i + 2) result)
      else none := by
  have parsed : parseDataById data i result = _ := parseDataById_item found inside
  have length := (itemAt_eq_some found).2
  rw [parsePayload, if_neg nonzero]
  split
  next failed =>
    rw [parsed] at failed
    split at failed
    next => contradiction
    next outside => rw [if_neg outside]
  next accepted succeeded =>
    rw [parsed] at succeeded
    split at succeeded
    next fits =>
      cases succeeded
      rw [if_pos fits, length]
    next => contradiction
  next other rejected isOther succeeded =>
    rw [parsed] at succeeded
    split at succeeded
    next =>
      cases succeeded
      exact (isOther rfl).elim
    next => contradiction

theorem parsePayload_skip (none : itemAt data i = none) (inside : i + 2 ≤ dataBufSize)
    (small : cnt + 1 < 4294967296) :
    parsePayload data i (BitVec.ofNat 32 (cnt + 1)) result =
      parsePayload data (i + 1) (BitVec.ofNat 32 cnt) (reject (data i) result) := by
  have rejected : ∃ res, res ≠ .analysisOk ∧ parseDataById data i result = some (res, _) :=
    parseDataById_none none inside
  rcases rejected with ⟨res, isError, parsed⟩
  have left : BitVec.ofNat 32 (cnt + 1) - 1 = BitVec.ofNat 32 cnt := by
    rw [BitVec.ofNat_add]
    exact BitVec.add_sub_cancel _ _
  have nonzero : BitVec.ofNat 32 (cnt + 1) ≠ 0 := ofNat_ne_zero (Nat.succ_pos cnt) small
  rw [parsePayload, if_neg nonzero]
  split
  next failed =>
    rw [parsed] at failed
    contradiction
  next accepted succeeded =>
    rw [parsed] at succeeded
    cases succeeded
    exact absurd rfl isError
  next other rejected _ succeeded =>
    rw [parsed] at succeeded
    cases succeeded
    rw [left]

/-! ## Whole payloads -/

theorem parseDataById_ok {i : Nat} {before after : YisOutData F D}
    (parsed : parseDataById data i before = some (.analysisOk, after)) :
    (data (i + 1)).toNat ≤ 20 ∧ i + ((data (i + 1)).toNat + 2) ≤ dataBufSize := by
  rw [parseDataById] at parsed
  split at parsed
  next => contradiction
  next =>
    split at parsed
    next => cases parsed
    next dataId _ =>
      split at parsed
      next => contradiction
      next =>
        split at parsed
        next length =>
          split at parsed
          next fits =>
            have bound := dataId.dataLen_le
            omega
          next => contradiction
        next => cases parsed

/-- A loop that ends has nothing left, or ends after an iteration inside of the buffer. -/
theorem parsePayload_eq_some {left : BitVec 32} {final : YisOutData F D}
    (ended : parsePayload data i left result = some final) :
    left = 0 ∨ ∃ consumed after, 0 < consumed ∧ consumed ≤ 22 ∧ i + consumed ≤ dataBufSize ∧
      parsePayload data (i + consumed) (left - BitVec.ofNat 32 consumed) after = some final := by
  rw [parsePayload] at ended
  split at ended
  next zero => exact .inl zero
  next =>
    split at ended
    next => contradiction
    next after parsed =>
      have bounds := parseDataById_ok parsed
      exact .inr ⟨_, after, by omega, by omega, bounds.2, ended⟩
    next after _ parsed =>
      have inside := parseDataById_inside parsed
      exact .inr ⟨1, after, by omega, by omega, inside, ended⟩

end

/-! ## Whole payloads -/

/-- Once more is left than the buffer holds, the loop runs out of the buffer. -/
theorem parsePayload_outside {data : Bytes} {i : Nat} {left : BitVec 32}
    (within : i ≤ dataBufSize) (beyond : dataBufSize < i + left.toNat)
    (result : YisOutData F D) : parsePayload data i left result = none := by
  have size : dataBufSize = 1024 := rfl
  rw [Option.eq_none_iff_forall_not_mem]
  intro final isFinal
  induction room : dataBufSize - i using Nat.strongRecOn generalizing i left result with
  | ind room ih =>
      rcases parsePayload_eq_some (Option.mem_def.mp isFinal) with
        rfl | ⟨consumed, after, positive, few, inside, ended⟩
      · have zero : (0 : BitVec 32).toNat = 0 := rfl
        omega
      · have bound := left.isLt
        apply ih (dataBufSize - (i + consumed)) (by omega) inside _ after ended rfl
        -- the counter wraps, or it decreases as the position increases
        rw [BitVec.toNat_sub, BitVec.toNat_ofNat]
        omega

/-- The values of an item are those of its bytes. -/
theorem store_congr {data other : Bytes} {offset offset' : Nat} (dataId : DataId)
    (same : ∀ index < dataId.dataLen, data (offset + index) = other (offset' + index))
    (result : YisOutData F D) :
    dataId.store data offset result = dataId.store other offset' result := by
  have words : ∀ position, position + 4 ≤ dataId.dataLen →
      data.read32 (offset + position) = other.read32 (offset' + position) := by
    intro position inside
    apply Bytes.read32_congr
    intro index small
    rw [Nat.add_assoc, Nat.add_assoc]
    exact same _ (by omega)
  have first : 4 ≤ dataId.dataLen → data.read32 offset = other.read32 offset' :=
    fun inside => words 0 (by omega)
  have halves : 2 ≤ dataId.dataLen → data.read16 offset = other.read16 offset' :=
    fun inside => Bytes.read16_congr fun index small => same index (by omega)
  have byte : data offset = other offset' := same 0 dataId.dataLen_pos
  cases dataId <;>
    simp only [DataId.dataLen] at words first halves <;>
    simp (disch := omega) only [DataId.store, convertDataS32, Bytes.read64, words, first, halves,
      byte, Nat.add_assoc, Nat.mul_zero, Nat.mul_one, Nat.reduceMul, Nat.reduceAdd]

section

variable {data other : Bytes} {i j cnt : Nat} {dataId : DataId} {result : YisOutData F D}

theorem itemAt_congr (same : ∀ index < 2, data (i + index) = other (j + index)) :
    itemAt data i = itemAt other j := by
  rw [itemAt, itemAt, same 1 (by decide), show data i = other j from same 0 (by decide)]

/-- An item inside of the payload is decoded. -/
theorem parsePayload_inside (found : itemAt data i = some dataId)
    (inside : i + (cnt + (dataId.dataLen + 2)) + 2 ≤ dataBufSize) :
    parsePayload data i (BitVec.ofNat 32 (cnt + (dataId.dataLen + 2))) result =
      parsePayload data (i + (dataId.dataLen + 2)) (BitVec.ofNat 32 cnt)
        (accept dataId data (i + 2) result) := by
  have size : dataBufSize = 1024 := rfl
  rw [parsePayload_item found (by omega) (ofNat_ne_zero (by omega) (by omega)),
    if_pos (by omega), BitVec.ofNat_add, BitVec.add_sub_cancel]

/-- An item that reaches beyond the end of the payload makes the counter wrap. -/
theorem parsePayload_beyond (found : itemAt data i = some dataId) (positive : 0 < cnt)
    (beyond : cnt < dataId.dataLen + 2) (inside : i + cnt + 2 ≤ dataBufSize) :
    parsePayload data i (BitVec.ofNat 32 cnt) result = none := by
  have size : dataBufSize = 1024 := rfl
  have bound := dataId.dataLen_le
  rw [parsePayload_item found (by omega) (ofNat_ne_zero positive (by omega))]
  split
  next fits =>
    apply parsePayload_outside (by omega)
    rw [BitVec.toNat_sub, BitVec.toNat_ofNat, BitVec.toNat_ofNat]
    omega
  next => rfl

/-- The loop depends on the bytes of the payload and the one after it. -/
theorem parsePayload_congr (same : ∀ index < cnt + 1, data (i + index) = other (j + index))
    (inside : i + cnt + 2 ≤ dataBufSize) (inside' : j + cnt + 2 ≤ dataBufSize) :
    parsePayload data i (BitVec.ofNat 32 cnt) result =
      parsePayload other j (BitVec.ofNat 32 cnt) result := by
  have size : dataBufSize = 1024 := rfl
  induction cnt using Nat.strongRecOn generalizing i j result with
  | ind cnt ih =>
      cases cnt with
      | zero => rw [parsePayload_zero, parsePayload_zero]
      | succ cnt =>
          have items : itemAt data i = itemAt other j :=
            itemAt_congr fun index small => same index (by omega)
          have byte : data i = other j := same 0 (by omega)
          cases found : itemAt data i with
          | none =>
              rw [parsePayload_skip found (by omega) (by omega),
                parsePayload_skip (items.symm.trans found) (by omega) (by omega), byte]
              apply ih cnt (by omega) _ (by omega) (by omega)
              intro index small
              rw [Nat.add_assoc, Nat.add_assoc]
              exact same _ (by omega)
          | some dataId =>
              have found' := items.symm.trans found
              by_cases beyond : cnt + 1 < dataId.dataLen + 2
              · rw [parsePayload_beyond found (by omega) beyond inside,
                  parsePayload_beyond found' (by omega) beyond inside']
              · rcases Nat.exists_eq_add_of_le' (Nat.le_of_not_lt beyond) with ⟨rest, split⟩
                rw [split] at same inside inside' ⊢
                have stores : dataId.store data (i + 2) result =
                    dataId.store other (j + 2) result := by
                  apply store_congr
                  intro index small
                  rw [Nat.add_assoc, Nat.add_assoc]
                  exact same (2 + index) (by omega)
                rw [parsePayload_inside found (by omega), parsePayload_inside found' (by omega),
                  accept, accept, stores]
                apply ih rest (by omega) _ (by omega) (by omega)
                intro index small
                rw [Nat.add_assoc i, Nat.add_assoc j]
                exact same (dataId.dataLen + 2 + index) (by omega)

omit [FloatArith F] [FloatArith D] in
theorem ends_skip_iff (none : itemAt data i = none) :
    Ends data i (cnt + 1) ↔ Ends data (i + 1) cnt := by
  constructor
  · intro ends
    generalize length : cnt + 1 = whole at ends
    cases ends with
    | done => contradiction
    | item found _ =>
        rw [none] at found
        contradiction
    | skip _ rest =>
        cases length
        exact rest
  · exact .skip none

theorem ends_item_iff (found : itemAt data i = some dataId) :
    Ends data i (cnt + 1) ↔
      ∃ rest, cnt + 1 = rest + (dataId.dataLen + 2) ∧
        Ends data (i + (dataId.dataLen + 2)) rest := by
  constructor
  · intro ends
    generalize length : cnt + 1 = whole at ends
    cases ends with
    | done => contradiction
    | item found' rest =>
        rw [found] at found'
        cases found'
        exact ⟨_, rfl, rest⟩
    | skip none _ =>
        rw [found] at none
        contradiction
  · rintro ⟨rest, split, ends⟩
    rw [split]
    exact .item found ends

/-- The loop ends exactly if no item reaches beyond the end of the payload. -/
theorem parsePayload_isSome (inside : i + cnt + 2 ≤ dataBufSize) :
    (parsePayload data i (BitVec.ofNat 32 cnt) result).isSome = true ↔ Ends data i cnt := by
  have size : dataBufSize = 1024 := rfl
  induction cnt using Nat.strongRecOn generalizing i result with
  | ind cnt ih =>
      cases cnt with
      | zero =>
          rw [parsePayload_zero]
          exact iff_of_true rfl (.done i)
      | succ cnt =>
          cases found : itemAt data i with
          | none =>
              have inside : i + 1 + cnt + 2 ≤ dataBufSize := by omega
              rw [parsePayload_skip found (by omega) (by omega), ends_skip_iff found]
              exact ih cnt (by omega) inside
          | some dataId =>
              by_cases beyond : cnt + 1 < dataId.dataLen + 2
              · rw [parsePayload_beyond found (by omega) beyond inside, ends_item_iff found]
                apply iff_of_false Bool.false_ne_true
                rintro ⟨rest, split, -⟩
                omega
              · rcases Nat.exists_eq_add_of_le' (Nat.le_of_not_lt beyond) with ⟨rest, split⟩
                rw [ends_item_iff found]
                rw [split] at inside ⊢
                have inside' : i + (dataId.dataLen + 2) + rest + 2 ≤ dataBufSize := by omega
                rw [parsePayload_inside found (by omega)]
                apply (ih rest (by omega) inside').trans
                constructor
                · intro ends
                  exact ⟨rest, rfl, ends⟩
                · rintro ⟨other, same, ends⟩
                  cases Nat.add_right_cancel same
                  exact ends

end

end RmdCanSdk.Yesense
