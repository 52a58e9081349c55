import Mathlib.Data.BitVec
import RmdCanSdk.Library.RunningSums
import RmdCanSdk.Yesense.Refinement

/-!
# The checksum of Yesense frames

Which changes of a payload the decoder detects: all changes of one byte or of two neighbours,
and all that do not leave the sum of both bytes as it is.
-/

namespace RmdCanSdk.Yesense

theorem natCast_mul_eq_zero (count : Nat) (change : Byte) :
    (count : Byte) * change = 0 ↔ 256 ∣ count * change.toNat := by
  have value : ((count : Byte) * change).toNat = count * change.toNat % 256 := by
    rw [BitVec.toNat_mul, BitVec.natCast_eq_ofNat, BitVec.toNat_ofNat, Nat.mod_mul_mod]
  rw [← BitVec.toNat_inj, value, Nat.dvd_iff_mod_eq_zero]
  rfl

/-- When the checksum is the same for two bytes in place of two others. -/
theorem checksum_frameBody_eq_iff (tid : BitVec 16) (front mid back : List Byte)
    (x y x' y' : Byte) :
    checksum (frameBody tid (front ++ x' :: (mid ++ y' :: back))) =
        checksum (frameBody tid (front ++ x :: (mid ++ y :: back))) ↔
      x' - x = y - y' ∧ 256 ∣ (mid.length + 1) * (x' - x).toNat := by
  have length : ∀ a b, (front ++ a :: (mid ++ b :: back)).length =
      front.length + (mid.length + (back.length + 1) + 1) := by
    intro a b
    rw [List.length_append, List.length_cons, List.length_append, List.length_cons]
  have body : ∀ a b, frameBody tid (front ++ a :: (mid ++ b :: back)) =
      (Bytes.le16 tid ++ BitVec.ofNat 8 (front.length + (mid.length + (back.length + 1) + 1)) ::
        front) ++ a :: (mid ++ b :: back) := by
    intro a b
    rw [frameBody, length, List.append_assoc, List.cons_append]
  rw [body, body, ← natCast_mul_eq_zero]
  exact RunningSums.run_eq_iff (R := Byte) 0 _ mid back x y x' y'

variable {F D : Type} [FloatArith F] [FloatArith D]

/-- A frame with two bytes of its payload changed is dropped by its header, with the output
left as it is, unless the changes cancel and vanish modulo 256 over the distance. -/
theorem corrupted_frame_detected (decoder : YesenseDecoder) (tid : BitVec 16)
    (front mid back : List Byte) (x y x' y' : Byte) (result : YisOutData F D)
    (empty : decoder.Holds []) (short : front.length + mid.length + back.length + 2 < 256) :
    let sums := checksum (frameBody tid (front ++ x :: (mid ++ y :: back)))
    let corrupted := withSums tid (front ++ x' :: (mid ++ y' :: back)) sums
    (∃ ret after, decoder.dataProc corrupted result = some (ret, after, result) ∧
        ret ≠ .analysisOk ∧ after.Holds (corrupted.drop 2)) ↔
      ¬ (x' - x = y - y' ∧ 256 ∣ (mid.length + 1) * (x' - x).toNat) := by
  intro sums corrupted
  have size : dataBufSize = 1024 := rfl
  have length : (front ++ x' :: (mid ++ y' :: back)).length =
      front.length + mid.length + back.length + 2 := by
    rw [List.length_append, List.length_cons, List.length_append, List.length_cons]
    omega
  have whole : corrupted.length = front.length + mid.length + back.length + 9 := by
    rw [length_withSums, length]
  have nonempty : front ++ x' :: (mid ++ y' :: back) ≠ [] := by
    rw [← List.length_pos_iff, length]
    omega
  have isSome : corrupted ≠ [] := by
    rw [← List.length_pos_iff, whole]
    omega
  have scanned : scan (corrupted ++ []) = _ := scan_withSums (by omega) nonempty sums []
  rw [List.append_nil] at scanned
  rw [← checksum_frameBody_eq_iff tid front mid back x y x' y']
  rcases empty.dataProc isSome (by omega) [] result with
    ⟨-, full⟩ | ⟨-, after, holds, called⟩
  · rw [List.length_nil] at full
    omega
  rw [List.nil_append, scanned] at holds called
  constructor
  · rintro ⟨ret, next, result, failed, -⟩ undetected
    rw [if_pos undetected] at called
    rcases called with ⟨frames, -⟩ | ⟨frame, -, called⟩
    · exact absurd frames (List.append_ne_nil_of_right_ne_nil _ (List.cons_ne_nil _ _))
    · rw [called, Option.map_eq_some_iff] at result
      rcases result with ⟨output, -, same⟩
      exact failed (congrArg Prod.fst same).symm
  · intro detected
    rw [if_neg detected] at holds called
    rcases called with ⟨-, ret, failed, called⟩ | ⟨frame, frames, -⟩
    · exact ⟨ret, after, called, failed, holds⟩
    · exact absurd frames.symm (List.cons_ne_nil _ _)

theorem corrupted_frame_detected_swap :
    let sums := checksum (frameBody 1 [0x80, 1, 5, 0x80, 1, 6])
    let corrupted := withSums 1 [0x80, 1, 6, 0x80, 1, 5] sums
    ∃ ret after, YesenseDecoder.fresh.dataProc corrupted (.zero : YisOutData ℚ ℚ) =
        some (ret, after, .zero) ∧
      ret ≠ .analysisOk ∧ after.Holds (corrupted.drop 2) :=
  (corrupted_frame_detected .fresh 1 [0x80, 1] [0x80, 1] [] 5 6 6 5 .zero
    YesenseDecoder.holds_fresh (by decide)).mpr (by decide)

end RmdCanSdk.Yesense
