import CssAudit.Numeral.Exact

/-!
# Comparing floating-point numbers

Of two floating-point numbers that are defined, one is below the other or at most equal
to it, but never both.  Every number read from decimal digits is defined, though it may
be infinite.
-/

namespace CssAudit

namespace Numeral

open Float.Model

section Unpacked

variable {x y : UnpackedFloat} (x_defined : x.isNaN = false) (y_defined : y.isNaN = false)
include x_defined y_defined

/-- Two defined numbers compare, and the other way round to the opposite. -/
theorem exists_compare_eq_some :
    ∃ order, x.compare y = some order ∧ y.compare x = some order.swap := by
  have signs (s t : UnpackedFloat.Sign) : compare t s = (compare s t).swap := by
    cases s <;> cases t <;> rfl
  cases x with
  | notANumber => exact absurd x_defined (by decide)
  | infinity s =>
      cases y with
      | notANumber => exact absurd y_defined (by decide)
      | infinity t => exact ⟨_, rfl, congrArg some (signs s t)⟩
      | _ => cases s <;> exact ⟨_, rfl, rfl⟩
  | zero s =>
      cases y with
      | notANumber => exact absurd y_defined (by decide)
      | zero t => exact ⟨_, rfl, rfl⟩
      | infinity t => cases t <;> exact ⟨_, rfl, rfl⟩
      | finite t _ _ _ => cases t <;> exact ⟨_, rfl, rfl⟩
  | finite s mantissa exponent _ =>
      cases y with
      | notANumber => exact absurd y_defined (by decide)
      | infinity t => cases t <;> exact ⟨_, rfl, rfl⟩
      | zero t => cases s <;> exact ⟨_, rfl, rfl⟩
      | finite t mantissa' exponent' _ =>
          have magnitudes : (compare exponent' exponent).then (compare mantissa' mantissa) =
              ((compare exponent exponent').then (compare mantissa mantissa')).swap := by
            rw [Ordering.swap_then, ← Std.OrientedCmp.eq_swap, ← Std.OrientedCmp.eq_swap]
          cases s <;> cases t
          · exact ⟨_, rfl, congrArg (some ∘ Ordering.swap) magnitudes⟩
          · exact ⟨_, rfl, rfl⟩
          · exact ⟨_, rfl, rfl⟩
          · exact ⟨_, rfl, congrArg some magnitudes⟩

end Unpacked

theorem lt_iff_compare {x y : Float} :
    x < y ↔ x.toModel.unpack.compare y.toModel.unpack = some .lt := by
  change Float.lt x y = true ↔ _
  rw [Float.lt, decide_eq_true_eq, ← beq_iff_eq]
  exact Iff.rfl

theorem le_iff_compare {x y : Float} :
    x ≤ y ↔ ∃ order, x.toModel.unpack.compare y.toModel.unpack = some order ∧
      order.isLE = true := by
  change Float.le x y = true ↔ _
  rw [Float.le, decide_eq_true_eq, ← Option.any_eq_true]
  exact Iff.rfl

theorem lt_iff_not_le {x y : Float} (x_defined : x.isNaN = false) (y_defined : y.isNaN = false) :
    x < y ↔ ¬ y ≤ x := by
  obtain ⟨order, forth, back⟩ := exists_compare_eq_some x_defined y_defined
  rw [lt_iff_compare, le_iff_compare, forth, back]
  cases order <;> decide

theorem isNaN_dite {p : Prop} [Decidable p] {x : p → UnpackedFloat} {y : ¬ p → UnpackedFloat}
    (x_defined : ∀ holds, (x holds).isNaN = false)
    (y_defined : ∀ fails, (y fails).isNaN = false) : (dite p x y).isNaN = false := by
  split
  · exact x_defined _
  · exact y_defined _

theorem isNaN_ite {p : Prop} [Decidable p] {x y : UnpackedFloat} (x_defined : x.isNaN = false)
    (y_defined : y.isNaN = false) : (if p then x else y).isNaN = false :=
  isNaN_dite (fun _ => x_defined) (fun _ => y_defined)

/-- Bits whose exponent does not have all of its bits set are not those of an undefined
number. -/
theorem isNaN_unpack {bits : BitVec Format.binary64.numBits}
    (proper : UnpackedFloat.unpackExponent bits ≠
      -BitVec.ofNat Format.binary64.exponentBits 1) :
    (UnpackedFloat.unpack Format.binary64 bits).isNaN = false := by
  change UnpackedFloat.isNaN (ite (UnpackedFloat.unpackExponent bits = _) _ _) = false
  rw [if_neg proper]
  exact isNaN_ite (isNaN_dite (fun _ => rfl) (fun _ => rfl)) rfl

theorem isNaN_pack (x : UnpackedFloat) : (Float.Model.pack x).isNaN = x.isNaN := by
  cases x with
  | notANumber => decide
  | infinity s => cases s <;> decide
  | zero s => cases s <;> decide
  | finite s mantissa exponent _ =>
      change (UnpackedFloat.unpack Format.binary64
        (ite (2 ^ Format.binary64.exponentBits ≤ _ + 1) _
          (ite (mantissa.log2 + 1 = Format.binary64.mantissaBits) _ _))).isNaN = false
      split
      · cases s <;> decide
      · rename_i fits
        split
        · refine isNaN_unpack ?_
          rw [UnpackedFloat.unpackExponent_packComponents]
          intro same
          have top : (-BitVec.ofNat Format.binary64.exponentBits 1).toNat + 1 =
              2 ^ Format.binary64.exponentBits := by
            decide
          have codes := congrArg BitVec.toNat same
          rw [BitVec.toNat_ofNat, Nat.mod_eq_of_lt (Nat.lt_of_succ_lt (Nat.lt_of_not_le fits))]
            at codes
          exact fits (Nat.le_of_eq (top.symm.trans (congrArg (· + 1) codes.symm)))
        · refine isNaN_unpack ?_
          rw [UnpackedFloat.unpackExponent_packComponents]
          decide

@[simp]
theorem isNaN_abs (x : Float) : x.abs.isNaN = x.isNaN := by
  change (Float.Model.pack x.toModel.unpack.abs).isNaN = x.toModel.unpack.isNaN
  rw [isNaN_pack]
  cases x.toModel.unpack <;> rfl

@[simp]
theorem isNaN_neg (x : Float) : (-x).isNaN = x.isNaN := by
  change (Float.Model.pack x.toModel.unpack.neg).isNaN = x.toModel.unpack.isNaN
  rw [isNaN_pack]
  cases x.toModel.unpack <;> rfl

@[simp]
theorem isNaN_signed (negative : Bool) (x : Float) : (signed negative x).isNaN = x.isNaN := by
  cases negative
  · rfl
  · exact isNaN_neg x

theorem isNaN_roundWithAccuracy (sign : UnpackedFloat.Sign) (mantissa : Nat) (exponent : Int)
    (accuracy : UnpackedFloat.Accuracy) :
    (UnpackedFloat.roundWithAccuracy Format.binary64 sign mantissa exponent accuracy).isNaN =
      false := by
  change UnpackedFloat.isNaN (dite (_ = 0) _ _) = false
  exact isNaN_dite (fun _ => rfl) (fun _ => rfl)

/-- Whether a number is finite and not zero, so that it scales every defined number to a
defined one. -/
def isScale (x : Float) : Bool :=
  match x.toModel.unpack with
  | .finite _ _ _ _ => true
  | _ => false

theorem exists_finite_of_isScale {scale : Float} (proper : isScale scale = true) :
    ∃ sign mantissa exponent positive,
      scale.toModel.unpack = .finite sign mantissa exponent positive := by
  cases shape : scale.toModel.unpack with
  | finite _ _ _ _ => exact ⟨_, _, _, _, rfl⟩
  | _ =>
      rw [isScale, shape] at proper
      cases proper

section Scale

variable {x scale : Float} (defined : x.toModel.unpack.isNaN = false)
  (proper : isScale scale = true)
include defined proper

theorem isNaN_mul : (x * scale).isNaN = false := by
  obtain ⟨_, _, _, _, shape⟩ := exists_finite_of_isScale proper
  change (Float.Model.pack (UnpackedFloat.mul Format.binary64 x.toModel.unpack
    scale.toModel.unpack)).isNaN = false
  rw [isNaN_pack, shape]
  cases x_shape : x.toModel.unpack with
  | notANumber =>
      rw [x_shape] at defined
      cases defined
  | finite _ _ _ _ => exact isNaN_roundWithAccuracy _ _ _ _
  | _ => rfl

theorem isNaN_div : (x / scale).isNaN = false := by
  obtain ⟨_, _, _, _, shape⟩ := exists_finite_of_isScale proper
  change (Float.Model.pack (UnpackedFloat.div Format.binary64 x.toModel.unpack
    scale.toModel.unpack)).isNaN = false
  rw [isNaN_pack, shape]
  cases x_shape : x.toModel.unpack with
  | notANumber =>
      rw [x_shape] at defined
      cases defined
  | finite _ _ _ _ => exact isNaN_roundWithAccuracy _ _ _ _
  | _ => rfl

end Scale

theorem isNaN_toFloat (n : UInt64) : n.toFloat.isNaN = false := by
  change (Float.Model.pack _).isNaN = false
  rw [isNaN_pack, UnpackedFloat.ofUInt64, UnpackedFloat.ofNat, UnpackedFloat.ofInt,
    UnpackedFloat.normalize]
  split
  · exact isNaN_roundWithAccuracy _ _ _ _
  · rfl
  · exact isNaN_roundWithAccuracy _ _ _ _

theorem isNaN_unpackedScientific (mantissa : Nat) (exponent : Int) :
    (UnpackedFloat.ofScientific Format.binary64 mantissa exponent).isNaN = false := by
  change UnpackedFloat.isNaN (dite (mantissa = 0) _ _) = false
  refine isNaN_dite (fun _ => rfl) fun _ => ?_
  refine isNaN_ite rfl (isNaN_ite rfl (isNaN_ite ?_ ?_))
  · exact isNaN_roundWithAccuracy _ _ _ _
  · exact isNaN_roundWithAccuracy _ _ _ _

theorem isNaN_ofScientific (mantissa : Nat) (negative : Bool) (exponent : Nat) :
    (Float.ofScientific mantissa negative exponent).isNaN = false := by
  have powers : Float.exactlyRepresentablePowersOfTen.toList.all isScale = true := by
    decide +kernel
  unfold Float.ofScientific
  split
  · rename_i exact_power
    have within : exponent < Float.exactlyRepresentablePowersOfTen.size :=
      Nat.lt_succ_of_le exact_power.2
    have proper : isScale Float.exactlyRepresentablePowersOfTen[exponent] = true :=
      List.all_eq_true.mp powers _ (by simp)
    split
    · exact isNaN_div (isNaN_toFloat _) proper
    · exact isNaN_mul (isNaN_toFloat _) proper
  · change (Float.Model.pack _).isNaN = false
    rw [isNaN_pack]
    exact isNaN_unpackedScientific mantissa _

theorem isNaN_ofDecimal (mantissa : Nat) (exponent : Int) :
    (ofDecimal mantissa exponent).isNaN = false := by
  simp only [ofDecimal]
  split
  · decide
  split
  · decide
  · exact isNaN_ofScientific _ _ _

theorem isNaN_ofDigitTexts (whole fraction : Text) :
    (ofDigitTexts whole fraction).isNaN = false :=
  isNaN_ofDecimal _ _

end Numeral

end CssAudit
