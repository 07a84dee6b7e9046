import Synoptic.Proofs.Bounds.Binary64

namespace Synoptic.Binary64

open Float.Model Float.Model.UnpackedFloat

theorem isNaN_unpack_of_exponent {b : BitVec Format.binary64.numBits}
    (h : unpackExponent b ≠ -1#11) :
    (UnpackedFloat.unpack Format.binary64 b).isNaN = false := by
  rw [UnpackedFloat.unpack]
  dsimp only
  rw [if_neg h]
  split
  · split <;> rfl
  · rfl

theorem isNaN_pack {f : UnpackedFloat} (h : f.isNaN = false) :
    (Float.Model.pack f).unpack.isNaN = false := by
  change (UnpackedFloat.unpack Format.binary64 (UnpackedFloat.pack Format.binary64 f)).isNaN = false
  cases f with
  | notANumber => cases h
  | infinity s => cases s <;> rfl
  | zero s => cases s <;> rfl
  | finite s m e hm =>
    rw [UnpackedFloat.pack]
    dsimp only
    split
    · cases s <;> rfl
    · rename_i hexponent
      split
      · apply isNaN_unpack_of_exponent
        rw [unpackExponent_packComponents]
        have hlt := Nat.lt_of_not_le hexponent
        rw [ne_eq, ← BitVec.toNat_inj, BitVec.toNat_ofNat, Nat.mod_eq_of_lt (Nat.lt_of_succ_lt hlt)]
        intro hmax
        rw [hmax] at hlt
        exact absurd hlt (by decide)
      · apply isNaN_unpack_of_exponent
        rw [unpackExponent_packComponents]
        decide

theorem isNaN_roundWithAccuracy (s : Sign) (m : Nat) (e : Int) (accuracy : Accuracy) :
    (roundWithAccuracy Format.binary64 s m e accuracy).isNaN = false := by
  rw [roundWithAccuracy]
  dsimp only
  split <;> rfl

theorem isNaN_mul {a b : UnpackedFloat} (ha : a.isNaN = false) (hb : b.isFinite = true)
    (hzero : ∀ s, b ≠ .zero s) : (UnpackedFloat.mul Format.binary64 a b).isNaN = false := by
  cases b with
  | notANumber => cases hb
  | infinity s => cases hb
  | zero s => exact absurd rfl (hzero s)
  | finite s m e hm =>
    cases a with
    | notANumber => cases ha
    | infinity t => rfl
    | zero t => rfl
    | finite t m' e' hm' => exact isNaN_roundWithAccuracy ..

theorem isNaN_ofScientific (n : Nat) (e : Int) :
    (UnpackedFloat.ofScientific Format.binary64 n e).isNaN = false := by
  rw [UnpackedFloat.ofScientific]
  split
  · rfl
  split
  · rfl
  split
  · rfl
  split
  · exact isNaN_roundWithAccuracy ..
  · exact isNaN_roundWithAccuracy ..

theorem isNaN_ofInt (n : Int) : (UnpackedFloat.ofInt Format.binary64 n).isNaN = false := by
  rw [UnpackedFloat.ofInt, UnpackedFloat.normalize]
  split
  · exact isNaN_roundWithAccuracy ..
  · rfl
  · exact isNaN_roundWithAccuracy ..

theorem isNaN_ofNat (n : Nat) : (Float.ofNat n).isNaN = false := by
  by_cases h : n < 2 ^ 53
  · rw [ofNat_eq h]
    refine isNaN_pack (isNaN_mul ?_ ?_ ?_)
    · exact isNaN_pack (isNaN_ofInt _)
    · rfl
    · intro s
      rw [unpack_one]
      nofun
  · have hofNat : Float.ofNat n =
        .ofModel (.pack (UnpackedFloat.ofScientific Format.binary64 n 0)) := by
      change (if h : n < 2 ^ 53 ∧ 0 ≤ 22 then _ else _) = _
      rw [dif_neg (fun hfast => h hfast.1)]
      rfl
    rw [hofNat]
    exact isNaN_pack (isNaN_ofScientific n 0)

theorem isNaN_of_isFinite {x : Float} (h : x.isFinite = true) : x.isNaN = false := by
  change x.toModel.unpack.isFinite = true at h
  change x.toModel.unpack.isNaN = false
  cases hx : x.toModel.unpack with
  | notANumber =>
    rw [hx] at h
    cases h
  | _ => rfl

theorem isNaN_mul_of_pos {x y : Float} (hx : x.isNaN = false) (hy : y.isFinite = true)
    (hpos : 0 < y) : (x * y).isNaN = false := by
  refine isNaN_pack (isNaN_mul hx hy ?_)
  intro s hs
  have hlt := (lt_iff 0 y).mp hpos
  rw [hs] at hlt
  cases s <;> cases hlt

end Synoptic.Binary64
