import Mathlib.Algebra.Order.BigOperators.Group.Finset
import Mathlib.Algebra.BigOperators.Intervals
import RmdCanSdk.Imu.Frame

/-!
# The checksum of Xsens frames

The code negates the sum of the bytes only if it exceeds a byte. A frame with accepted
data ids always has such a sum, so the check is that all bytes after the first sum to zero
modulo 256.
-/

namespace RmdCanSdk

/-- The data ids of the two kinds of frames that are accepted. -/
def DataIdsValid (frame : Bytes) : Prop :=
  ((frame 4 = 0x20 ∧ frame 5 = 0x10 ∧ frame 6 = 0x10) ∨
    (frame 4 = 0x20 ∧ frame 5 = 0x30 ∧ frame 6 = 0x0c)) ∧
  frame 19 = 0x40 ∧ frame 20 = 0x20 ∧ frame 21 = 0x0c ∧
  frame 34 = 0x80 ∧ frame 35 = 0x20 ∧ frame 36 = 0x0c

/-- The sum of some bytes of a frame. -/
def byteSum (frame : Bytes) (indices : Finset Nat) : Nat :=
  ∑ index ∈ indices, (frame index).toNat

/-- The sum the code computes. -/
theorem list_sum_eq_byteSum (frame : Bytes) (count : Nat) :
    ((List.range count).map fun index => ((frame (index + 1)).toNat : Int)).sum =
      byteSum frame (Finset.Ico 1 (count + 1)) := by
  induction count with
  | zero => rfl
  | succ count ih =>
      have last : byteSum frame (Finset.Ico 1 (count + 1 + 1)) =
          byteSum frame (Finset.Ico 1 (count + 1)) + (frame (count + 1)).toNat :=
        Finset.sum_Ico_succ_top (by omega) _
      rw [List.range_succ, List.map_append, List.sum_append, ih, last]
      simp

/-- The data ids alone sum to more than a byte. -/
theorem byteSum_large {frame : Bytes} (ids : DataIdsValid frame) :
    0xff < byteSum frame (Finset.Ico 1 49) := by
  have some : byteSum frame {4, 5, 6, 19, 20, 21, 34, 35, 36} ≤
      byteSum frame (Finset.Ico 1 49) :=
    Finset.sum_le_sum_of_subset (by decide)
  rcases ids with ⟨first, ids⟩
  apply lt_of_lt_of_le _ some
  rcases first with first | first
  · simp [byteSum, first, ids]
  · simp [byteSum, first, ids]

/-- The bytes after the first sum to zero. -/
theorem validXsens_iff (frame : Bytes) :
    validXsens frame = true ↔
      DataIdsValid frame ∧ byteSum frame (Finset.Ico 1 50) % 256 = 0 := by
  have small := (frame 49).isLt
  have all : byteSum frame (Finset.Ico 1 50) =
      byteSum frame (Finset.Ico 1 49) + (frame 49).toNat :=
    Finset.sum_Ico_succ_top (by decide) _
  have sum : ((List.range 48).map fun index => ((frame (index + 1)).toNat : Int)).sum =
      byteSum frame (Finset.Ico 1 49) := list_sum_eq_byteSum frame 48
  simp only [validXsens, sum, decide_eq_true_iff]
  constructor
  · rintro ⟨valid, checksum⟩
    have large := byteSum_large valid
    refine ⟨valid, ?_⟩
    rw [if_pos (by omega)] at checksum
    omega
  · rintro ⟨valid, zero⟩
    have large := byteSum_large valid
    refine ⟨valid, ?_⟩
    rw [if_pos (by omega)]
    omega

/-- Changing one byte of a sum changes it by less than 256. -/
theorem byteSum_changed {frame other : Bytes} {indices : Finset Nat} {changed : Nat}
    (member : changed ∈ indices) (same : ∀ index, index ≠ changed → other index = frame index) :
    byteSum other indices + (frame changed).toNat =
      byteSum frame indices + (other changed).toNat := by
  have rest : byteSum other (indices.erase changed) = byteSum frame (indices.erase changed) := by
    apply Finset.sum_congr rfl
    intro index inErased
    rw [same index (Finset.ne_of_mem_erase inErased)]
  have ofFrame := Finset.add_sum_erase indices (fun index => (frame index).toNat) member
  have ofOther := Finset.add_sum_erase indices (fun index => (other index).toNat) member
  simp only [byteSum] at rest ⊢
  omega

/-- The check accepts the frames with accepted ids whose bytes sum to zero, so it rejects
every frame that differs from an accepted one in one byte. -/
theorem xsens_check (frame : Bytes) :
    (validXsens frame = true ↔
      DataIdsValid frame ∧ byteSum frame (Finset.Icc 1 49) % 256 = 0) ∧
      (validXsens frame = true → ∀ (other : Bytes) (changed : Nat), 1 ≤ changed → changed ≤ 49 →
        (∀ index, index ≠ changed → other index = frame index) →
        other changed ≠ frame changed → validXsens other = false) := by
  have range : Finset.Icc 1 49 = Finset.Ico 1 50 := rfl
  rw [range]
  refine ⟨validXsens_iff frame, ?_⟩
  intro valid other changed first last same different
  rw [Bool.eq_false_iff, ne_eq, validXsens_iff]
  rintro ⟨-, otherZero⟩
  have zero := ((validXsens_iff frame).mp valid).2
  have sums := byteSum_changed (Finset.mem_Ico.mpr ⟨first, by omega⟩ : changed ∈ Finset.Ico 1 50)
    same
  have apart : (other changed).toNat ≠ (frame changed).toNat :=
    fun equal => different (BitVec.toNat_inj.mp equal)
  have frameSmall := (frame changed).isLt
  have otherSmall := (other changed).isLt
  omega

end RmdCanSdk
