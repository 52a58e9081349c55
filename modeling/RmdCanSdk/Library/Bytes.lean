import Mathlib.Logic.Function.Basic
import RmdCanSdk.Library.Traverse

/-!
# Byte images

A region of memory as a function from byte positions, with the copies and the
little-endian fields of packed structures. Which positions may be accessed is a
property of the code that uses an image, not of the image.
-/

abbrev Byte := BitVec 8

abbrev Bytes := Nat → Byte

namespace Bytes

/-- An image that starts with the given bytes and is zero after them. -/
def ofList (bytes : List Byte) : Bytes := fun index => bytes.getD index 0

/-- The first bytes of an image. -/
def toList (memory : Bytes) (size : Nat) : List Byte := (List.range size).map memory

@[simp] theorem length_toList (memory : Bytes) (size : Nat) :
    (memory.toList size).length = size := by
  rw [toList, List.length_map, List.length_range]

/-- Writing the byte after the first ones. -/
theorem toList_update (memory : Bytes) (size : Nat) (byte : Byte) :
    Bytes.toList (Function.update memory size byte) (size + 1) = memory.toList size ++ [byte] := by
  rw [toList, toList, List.range_succ, List.map_append, List.map_singleton,
    Function.update_self]
  congr 1
  apply List.map_congr_left
  intro index inRange
  exact Function.update_of_ne (Nat.ne_of_lt (List.mem_range.mp inRange)) _ _

theorem ofList_toList {memory : Bytes} {size index : Nat} (inside : index < size) :
    ofList (memory.toList size) index = memory index := by
  rw [ofList, toList, List.getD_eq_getElem?_getD, List.getElem?_map, List.getElem?_range inside]
  rfl

theorem ofList_drop (bytes : List Byte) (size index : Nat) :
    ofList (bytes.drop size) index = ofList bytes (size + index) := by
  rw [ofList, ofList, List.getD_eq_getElem?_getD, List.getD_eq_getElem?_getD, List.getElem?_drop]

theorem ofList_take {bytes : List Byte} {size index : Nat} (inside : index < size) :
    ofList (bytes.take size) index = ofList bytes index := by
  rw [ofList, ofList, List.getD_eq_getElem?_getD, List.getD_eq_getElem?_getD,
    List.getElem?_take_of_lt inside]

theorem ofList_append_left {front : List Byte} {index : Nat} (inside : index < front.length)
    (back : List Byte) : ofList (front ++ back) index = ofList front index := by
  rw [ofList, ofList, List.getD_eq_getElem?_getD, List.getD_eq_getElem?_getD,
    List.getElem?_append_left inside]

theorem ofList_append_right (front back : List Byte) (index : Nat) :
    ofList (front ++ back) (front.length + index) = ofList back index := by
  rw [ofList, ofList, List.getD_eq_getElem?_getD, List.getD_eq_getElem?_getD,
    List.getElem?_append_right (Nat.le_add_right _ _), Nat.add_sub_cancel_left]

/-- Replace `size` bytes from `offset` on by the first bytes of `source`. -/
def memcpy (destination : Bytes) (offset : Nat) (source : Bytes) (size : Nat) : Bytes :=
  fun index =>
    if offset ≤ index ∧ index < offset + size then source (index - offset)
    else destination index

theorem memcpy_inside {destination source : Bytes} {offset size index : Nat}
    (lower : offset ≤ index) (upper : index < offset + size) :
    memcpy destination offset source size index = source (index - offset) :=
  if_pos ⟨lower, upper⟩

theorem memcpy_outside {destination source : Bytes} {offset size index : Nat}
    (outside : ¬ (offset ≤ index ∧ index < offset + size)) :
    memcpy destination offset source size index = destination index :=
  if_neg outside

/-! ## Lists of copies -/

/-- A copy of the first bytes of a source to an offset. -/
structure Copy where
  offset : Nat
  source : Bytes
  size : Nat

namespace Copy

/-- The positions a copy writes. -/
def Covers (copy : Copy) (position : Nat) : Prop :=
  copy.offset ≤ position ∧ position < copy.offset + copy.size

/-- No position is written by both copies. -/
def Apart (left right : Copy) : Prop :=
  ∀ position, ¬ (left.Covers position ∧ right.Covers position)

def apply (image : Bytes) (copy : Copy) : Bytes :=
  memcpy image copy.offset copy.source copy.size

theorem apply_outside {copy : Copy} {position : Nat} (outside : ¬ copy.Covers position)
    (image : Bytes) : copy.apply image position = image position :=
  memcpy_outside outside

/-- Inside its positions a copy leaves nothing of the image. -/
theorem apply_inside {copy : Copy} {position : Nat} (inside : copy.Covers position)
    (image : Bytes) : copy.apply image position = copy.source (position - copy.offset) :=
  memcpy_inside inside.1 inside.2

theorem apply_comm {left right : Copy} (apart : left.Apart right) (image : Bytes) :
    right.apply (left.apply image) = left.apply (right.apply image) := by
  funext position
  by_cases byLeft : left.Covers position
  · have notRight : ¬ right.Covers position := fun byRight => apart position ⟨byLeft, byRight⟩
    rw [apply_outside notRight, apply_inside byLeft, apply_inside byLeft]
  · rw [apply_outside byLeft]
    by_cases byRight : right.Covers position
    · rw [apply_inside byRight, apply_inside byRight]
    · rw [apply_outside byRight, apply_outside byRight, apply_outside byLeft]

end Copy

/-- The image after a list of copies, in this order. -/
def applyAll (copies : List Copy) (image : Bytes) : Bytes := copies.foldl Copy.apply image

/-- The frame of a list of copies. -/
theorem applyAll_outside {copies : List Copy} {position : Nat}
    (outside : ∀ copy ∈ copies, ¬ copy.Covers position) (image : Bytes) :
    applyAll copies image position = image position := by
  induction copies generalizing image with
  | nil => rfl
  | cons copy rest ih =>
      apply (ih (fun other inRest => outside other (List.mem_cons_of_mem _ inRest)) _).trans
      exact Copy.apply_outside (outside copy List.mem_cons_self) image

/-- A position holds what the one copy that covers it has written there. -/
theorem applyAll_inside {copies : List Copy} (apart : copies.Pairwise Copy.Apart) {copy : Copy}
    (member : copy ∈ copies) {position : Nat} (inside : copy.Covers position) (image : Bytes) :
    applyAll copies image position = copy.source (position - copy.offset) := by
  induction copies generalizing image with
  | nil => contradiction
  | cons head rest ih =>
      rw [List.pairwise_cons] at apart
      rcases List.mem_cons.mp member with rfl | inRest
      · apply (applyAll_outside _ _).trans (Copy.apply_inside inside image)
        intro other otherInRest covers
        exact apart.1 other otherInRest position ⟨inside, covers⟩
      · exact ih apart.2 inRest _

/-- Copies that are apart can be made in any order. -/
theorem applyAll_perm {copies others : List Copy} (reordered : copies.Perm others)
    (apart : copies.Pairwise Copy.Apart) (image : Bytes) :
    applyAll copies image = applyAll others image :=
  foldl_perm reordered (apart.imp fun apart image => Copy.apply_comm apart image) image

/-! ## Little-endian fields -/

def le8 (value : BitVec 8) : List Byte := [value]

def le16 (value : BitVec 16) : List Byte :=
  [value.extractLsb' 0 8, value.extractLsb' 8 8]

def le32 (value : BitVec 32) : List Byte :=
  [value.extractLsb' 0 8, value.extractLsb' 8 8,
    value.extractLsb' 16 8, value.extractLsb' 24 8]

def read8 (memory : Bytes) (offset : Nat) : BitVec 8 := memory offset

def read16 (memory : Bytes) (offset : Nat) : BitVec 16 :=
  memory (offset + 1) ++ memory offset

def read32 (memory : Bytes) (offset : Nat) : BitVec 32 :=
  memory (offset + 3) ++ memory (offset + 2) ++ memory (offset + 1) ++ memory offset

def read64 (memory : Bytes) (offset : Nat) : BitVec 64 :=
  memory.read32 (offset + 4) ++ memory.read32 offset

/-- A 16-bit word is the concatenation of its bytes. -/
theorem join16 (value : BitVec 16) :
    (value.extractLsb' 8 8 ++ value.extractLsb' 0 8 : BitVec 16) = value := by
  apply BitVec.eq_of_getLsbD_eq
  intro index inBounds
  rw [BitVec.getLsbD_append]
  simp only [BitVec.getLsbD_extractLsb']
  by_cases low : index < 8
  · simp [low]
  · have high : index - 8 < 8 := by omega
    have position : 8 + (index - 8) = index := by omega
    simp [low, high, position]

/-- A 32-bit word is the concatenation of its bytes. -/
theorem join32 (value : BitVec 32) :
    (value.extractLsb' 24 8 ++ value.extractLsb' 16 8 ++ value.extractLsb' 8 8 ++
      value.extractLsb' 0 8 : BitVec 32) = value := by
  apply BitVec.eq_of_getLsbD_eq
  intro index inBounds
  simp only [BitVec.getLsbD_append, BitVec.getLsbD_extractLsb']
  by_cases first : index < 8
  · simp [first]
  by_cases second : index - 8 < 8
  · have position : 8 + (index - 8) = index := by omega
    simp [first, second, position]
  by_cases third : index - 8 - 8 < 8
  · have position : 16 + (index - 8 - 8) = index := by omega
    simp [first, second, third, position]
  · have fourth : index - 8 - 8 - 8 < 8 := by omega
    have position : 24 + (index - 8 - 8 - 8) = index := by omega
    simp [first, second, third, fourth, position]

/-- A field is read from the bytes at its position only. -/
theorem read16_congr {left right : Bytes} {offset offset' : Nat}
    (same : ∀ index < 2, left (offset + index) = right (offset' + index)) :
    read16 left offset = read16 right offset' := by
  simp only [read16]
  rw [same 1 (by decide), show left offset = right offset' from same 0 (by decide)]

theorem read32_congr {left right : Bytes} {offset offset' : Nat}
    (same : ∀ index < 4, left (offset + index) = right (offset' + index)) :
    read32 left offset = read32 right offset' := by
  simp only [read32]
  rw [same 3 (by decide), same 2 (by decide), same 1 (by decide),
    show left offset = right offset' from same 0 (by decide)]

/-- Two images hold the same bytes in a range. -/
def AgreeOn (left right : Bytes) (offset size : Nat) : Prop :=
  ∀ index < size, left (offset + index) = right (offset + index)

namespace AgreeOn

variable {left right : Bytes} {offset size : Nat} (agree : AgreeOn left right offset size)
include agree

theorem read8 (position : Nat) (inside : position < size) :
    left.read8 (offset + position) = right.read8 (offset + position) :=
  agree position inside

theorem read16 (position : Nat) (inside : position + 2 ≤ size) :
    left.read16 (offset + position) = right.read16 (offset + position) := by
  apply read16_congr
  intro index small
  rw [Nat.add_assoc]
  exact agree _ (by omega)

theorem read32 (position : Nat) (inside : position + 4 ≤ size) :
    left.read32 (offset + position) = right.read32 (offset + position) := by
  apply read32_congr
  intro index small
  rw [Nat.add_assoc]
  exact agree _ (by omega)

end AgreeOn

theorem read16_memcpy_start {destination source : Bytes} {offset size : Nat}
    (inside : 2 ≤ size) :
    read16 (memcpy destination offset source size) offset = read16 source 0 := by
  apply read16_congr
  intro index small
  rw [memcpy_inside (by omega) (by omega)]
  congr 1
  omega

end Bytes
