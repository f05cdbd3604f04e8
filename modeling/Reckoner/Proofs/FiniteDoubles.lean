import Mathlib.Algebra.Group.Nat.Defs
import Reckoner.Number.Places
import Reckoner.Proofs.DoubleParts

/-!
# Finite doubles

Arithmetic on doubles rounds an exact result to 53 bits. The result is finite if the exact one is
below `overflowBound`, halfway between the largest double and what would follow it
(`fits_roundWithAccuracy_of_lt`). So a decimal number below the bound is read as a finite double
(`ofScientific_ne_infinite`).
-/

namespace Reckoner.Number
open Float.Model Float.Model.UnpackedFloat

/-- Half a unit above the largest double. It has 309 digits, which no unifier should compute. -/
@[irreducible]
def overflowBound : Nat := (2 ^ 54 - 1) * 2 ^ 970

/-- A zero, or a mantissa of 53 bits at an exponent up to `top`. -/
inductive Fits (top : Int) : UnpackedFloat → Prop
  | zero (s : Sign) : Fits top (.zero s)
  | finite {s : Sign} {m : Nat} {e : Int} {hm : 0 < m} (hlt : m < 2 ^ 53) (he : e ≤ top) :
      Fits top (.finite s m e hm)

namespace Fits
variable {top : Int} {c : Prop} [Decidable c]

theorem dite {u : c → UnpackedFloat} {v : ¬ c → UnpackedFloat} (hu : ∀ h, Fits top (u h))
    (hv : ∀ h, Fits top (v h)) : Fits top (if h : c then u h else v h) := by
  by_cases hc : c
  · rw [dif_pos hc]
    exact hu hc
  · rw [dif_neg hc]
    exact hv hc

theorem ite {u v : UnpackedFloat} (hu : c → Fits top u) (hv : ¬ c → Fits top v) :
    Fits top (if c then u else v) := by
  rw [← dite_eq_ite]
  exact dite hu hv

end Fits

/-! ### Shifting mantissas -/

section
variable {em : ExtendedMantissa} {m : Nat} {e : Int} {acc : Accuracy}

theorem mantissa_shiftRight (em : ExtendedMantissa) (k : Nat) :
    (em >>> k).mantissa = em.mantissa / 2 ^ k := by
  induction k with
  | zero => simp [HShiftRight.hShiftRight, Nat.repeat]
  | succ k ih =>
    show (em >>> k).mantissa / 2 = _
    rw [ih, Nat.div_div_eq_div_mul, Nat.pow_succ]

theorem mantissa_ofMantissaAndAccuracy (m : Nat) (acc : Accuracy) :
    (ExtendedMantissa.ofMantissaAndAccuracy m acc).mantissa = m := by
  cases acc with
  | exact => rfl
  | inexact o => cases o <;> rfl

theorem roundedMantissa_le (em : ExtendedMantissa) : em.roundedMantissa ≤ em.mantissa + 1 := by
  obtain ⟨m, r, s⟩ := em
  cases r <;> cases s <;> simp [ExtendedMantissa.roundedMantissa, ExtendedMantissa.accuracy,
    Accuracy.roundToNearestEven]
  omega

/-- A half is rounded up at most. -/
theorem roundedMantissa_shiftRightOne_le (em : ExtendedMantissa) :
    em.shiftRightOne.roundedMantissa ≤ (em.mantissa + 1) / 2 := by
  obtain ⟨m, r, s⟩ := em
  rcases Nat.mod_two_eq_zero_or_one m with h | h <;> cases r <;> cases s <;>
    simp [ExtendedMantissa.shiftRightOne, ExtendedMantissa.roundedMantissa,
      ExtendedMantissa.accuracy, Accuracy.roundToNearestEven, h] <;> omega

theorem targetExponent_eq (m : Nat) (e : Int) :
    Format.binary64.targetExponent (totalExponent m e) = max (m.log2 + 1 + e - 53) (-1074) := by
  simp only [Format.targetExponent, totalExponent]
  rfl

/-- How far a mantissa is shifted to fit into 53 bits, or to the least exponent. -/
def excess (m : Nat) (e : Int) : Nat :=
  (max (m.log2 + 1 + e - 53) (-1074) - e).toNat

theorem shiftToTargetExponent_eq (m : Nat) (e : Int) (acc : Accuracy) :
    shiftToTargetExponent Format.binary64 m e acc =
      (ExtendedMantissa.ofMantissaAndAccuracy m acc >>> excess m e, e + excess m e) := by
  simp only [shiftToTargetExponent, shiftToExponent, targetExponent_eq, excess]

theorem shift_lt (m : Nat) (e : Int) : m / 2 ^ excess m e < 2 ^ 53 := by
  rw [Nat.div_lt_iff_lt_mul (Nat.two_pow_pos _), ← Nat.pow_add]
  have hk : m.log2 + 1 ≤ 53 + excess m e := by
    unfold excess
    omega
  exact Nat.lt_of_lt_of_le Nat.lt_log2_self (Nat.pow_le_pow_right (by decide) hk)

end

/-! ### Rounding -/

section
variable {s : Sign} {m : Nat} {e top : Int} {acc : Accuracy}

theorem log2_lt_of_lt {n k : Nat} (h : n < 2 ^ (k + 1)) : n.log2 < k + 1 := by
  by_cases hn : n = 0
  · subst hn
    exact Nat.succ_pos k
  · exact (Nat.log2_lt hn).mpr h

/-- The mantissa that is left after the first shift, rounded. -/
def rounded (m : Nat) (e : Int) (acc : Accuracy) : Nat :=
  (ExtendedMantissa.ofMantissaAndAccuracy m acc >>> excess m e).roundedMantissa

theorem rounded_le_shift_add_one (m : Nat) (e : Int) (acc : Accuracy) :
    rounded m e acc ≤ m / 2 ^ excess m e + 1 := by
  have hle := roundedMantissa_le (ExtendedMantissa.ofMantissaAndAccuracy m acc >>> excess m e)
  rwa [mantissa_shiftRight, mantissa_ofMantissaAndAccuracy] at hle

theorem rounded_le (m : Nat) (e : Int) (acc : Accuracy) : rounded m e acc ≤ 2 ^ 53 :=
  Nat.le_trans (rounded_le_shift_add_one m e acc) (shift_lt m e)

/-- A mantissa at an exponent, or zero if there is none. -/
def ofMantissa (s : Sign) (m : Nat) (e : Int) : UnpackedFloat :=
  if h : m = 0 then .zero s else .finite s m e (Nat.pos_of_ne_zero h)

theorem ofMantissa_of_pos (hm : 0 < m) : ofMantissa s m e = .finite s m e hm :=
  dif_neg (Nat.ne_of_gt hm)

theorem Fits.ofMantissa (hlt : m < 2 ^ 53) (he : e ≤ top) : Fits top (ofMantissa s m e) :=
  .dite (fun _ => .zero s) fun _ => .finite hlt he

/-- What is rounded is shifted again, since rounding can carry. -/
theorem roundWithAccuracy_eq :
    roundWithAccuracy Format.binary64 s m e acc =
      ofMantissa s (rounded m e acc / 2 ^ excess (rounded m e acc) (e + excess m e))
        (e + excess m e + excess (rounded m e acc) (e + excess m e)) := by
  show ofMantissa s (shiftToTargetExponent Format.binary64
    (shiftToTargetExponent Format.binary64 m e acc).1.roundedMantissa
    (shiftToTargetExponent Format.binary64 m e acc).2 .exact).1.mantissa _ = _
  rw [shiftToTargetExponent_eq m e acc]
  dsimp only
  rw [shiftToTargetExponent_eq, mantissa_shiftRight, mantissa_ofMantissaAndAccuracy]
  rfl

/-- The exponent grows by one if rounding carries. -/
theorem fits_roundWithAccuracy (htop : -1074 ≤ top)
    (h : e + excess m e < top ∨ e + excess m e ≤ top ∧ rounded m e acc < 2 ^ 53) :
    Fits top (roundWithAccuracy Format.binary64 s m e acc) := by
  have hlog : (rounded m e acc).log2 < 54 :=
    log2_lt_of_lt (Nat.lt_of_le_of_lt (rounded_le m e acc) (by decide))
  have hlog' : rounded m e acc < 2 ^ 53 → (rounded m e acc).log2 < 53 := log2_lt_of_lt
  rw [roundWithAccuracy_eq]
  refine .ofMantissa (shift_lt ..) ?_
  generalize e + (excess m e : Int) = e' at h ⊢
  have hgrown : e' + (excess (rounded m e acc) e' : Int) ≤
      max e' (max ((rounded m e acc).log2 + 1 + e' - 53) (-1074)) := by
    unfold excess
    omega
  refine Int.le_trans hgrown ?_
  omega

/-- A result is of the order of what is rounded. -/
theorem fits_roundWithAccuracy_of_log2 (he : e < top) (htop : -1074 < top)
    (hm : m.log2 + e - 52 < top) : Fits top (roundWithAccuracy Format.binary64 s m e acc) := by
  refine fits_roundWithAccuracy (Int.le_of_lt htop) (.inl ?_)
  unfold excess
  omega

theorem rounded_lt_of_succ {k : Nat} (hk : excess m e = k + 1) (hm : m / 2 ^ k + 1 < 2 ^ 54) :
    rounded m e acc < 2 ^ 53 := by
  have hle := roundedMantissa_shiftRightOne_le (ExtendedMantissa.ofMantissaAndAccuracy m acc >>> k)
  rw [mantissa_shiftRight, mantissa_ofMantissaAndAccuracy] at hle
  unfold rounded
  rw [hk]
  show (ExtendedMantissa.ofMantissaAndAccuracy m acc >>> k).shiftRightOne.roundedMantissa < _
  omega

/-- What is below the bound does not overflow. -/
theorem fits_roundWithAccuracy_of_lt {n : Nat} (he : e = 970 - n)
    (hm : m < (2 ^ 54 - 1) * 2 ^ n) : Fits 971 (roundWithAccuracy Format.binary64 s m e acc) := by
  have hlog : m.log2 < 53 + n + 1 := by
    refine log2_lt_of_lt (Nat.lt_trans hm ?_)
    rw [show 53 + n + 1 = 54 + n by omega, Nat.pow_add]
    exact Nat.mul_lt_mul_of_pos_right (by decide) (Nat.two_pow_pos n)
  refine fits_roundWithAccuracy (by decide) ?_
  by_cases htop : e + excess m e < 971
  · exact .inl htop
  · -- the first shift reaches the largest exponent
    have hk : excess m e = n + 1 := by
      unfold excess at htop ⊢
      omega
    refine .inr ⟨by omega, rounded_lt_of_succ hk ?_⟩
    have := (Nat.div_lt_iff_lt_mul (Nat.two_pow_pos n)).mpr hm
    omega

end

/-! ### Packing -/

theorem storedExponent_pack_le {top : Int} (hlow : -1074 ≤ top) (htop : top ≤ 971)
    {u : UnpackedFloat} (h : Fits top u) :
    storedExponent (UnpackedFloat.pack Format.binary64 u) ≤ (top + 1075).toNat := by
  cases h with
  | zero s =>
    show (unpackExponent (packComponents Format.binary64 s _ _)).toNat ≤ _
    rw [unpackExponent_packComponents]
    exact Nat.zero_le _
  | @finite s m e hm hlt he =>
    delta UnpackedFloat.pack
    dsimp only
    have hbias : (e + Format.binary64.exponentBias + 52).toNat ≤ (top + 1075).toNat := by
      have : (Format.binary64.exponentBias : Int) = 1023 := rfl
      omega
    simp only [storedExponent]
    split
    · next h =>
      have : 2 ^ Format.binary64.exponentBits = 2048 := rfl
      omega
    · split
      · rw [unpackExponent_packComponents, BitVec.toNat_ofNat]
        exact Nat.le_trans (Nat.mod_le _ _) hbias
      · rw [unpackExponent_packComponents]
        exact Nat.zero_le _

theorem fits_unpack {b : BitVec 64} {top : Int} (hb : storedExponent b < 2047)
    (htop : (storedExponent b : Int) ≤ top + 1075) (hlow : -1074 ≤ top) :
    Fits top (UnpackedFloat.unpack Format.binary64 b) := by
  have hlt := storedFraction_lt b
  have hcomposed := composed_unpack b
  generalize UnpackedFloat.unpack Format.binary64 b = u at hcomposed ⊢
  cases hcomposed with
  | infinity he _ | notANumber he _ => omega
  | zero _ _ => exact .zero _
  | subnormal _ => exact .finite (by omega) hlow
  | normal _ hf hq => exact .finite (by omega) (by omega)

/-- What has been packed has the same size when it is unpacked. -/
theorem fits_unpack_pack {top : Int} (hlow : -1074 ≤ top) (htop : top ≤ 971) {u : UnpackedFloat}
    (h : Fits top u) : Fits top (Float.Model.pack u).unpack := by
  have hle : storedExponent (Float.Model.pack u).toBits.toBitVec ≤ _ :=
    storedExponent_pack_le hlow htop h
  exact fits_unpack (by omega) (by omega) hlow

theorem ne_infinite_of_fits {u : UnpackedFloat} (h : Fits 971 u) (negative : Bool) :
    Binary.ofFloat ⟨Float.Model.pack u⟩ ≠ .infinite negative := by
  have hunpack := fits_unpack_pack (by decide) (by decide) h
  rw [Binary.ofFloat_eq]
  generalize (Float.ofModel (Float.Model.pack u)).toModel.unpack = v at hunpack ⊢
  cases hunpack <;> exact Binary.noConfusion

/-! ### Products and quotients -/

section
variable {s₁ s₂ : Sign} {m₁ m₂ n : Nat} {e₁ e₂ : Int} {h₁ : 0 < m₁} {h₂ : 0 < m₂}

theorem fits_mul (he : e₁ + e₂ = 970 - n) (hm : m₁ * m₂ < (2 ^ 54 - 1) * 2 ^ n) :
    Fits 971 (mul Format.binary64 (.finite s₁ m₁ e₁ h₁) (.finite s₂ m₂ e₂ h₂)) :=
  fits_roundWithAccuracy_of_lt he hm

theorem fits_div (he : e₁ - e₂ = 970 - n) (hm : m₁ < (2 ^ 54 - 1) * 2 ^ n * m₂) :
    Fits 971 (div Format.binary64 (.finite s₁ m₁ e₁ h₁) (.finite s₂ m₂ e₂ h₂)) := by
  show Fits 971 (roundWithAccuracy _ _ (divCore Format.binary64 m₁ e₁ m₂ e₂).1
    (divCore Format.binary64 m₁ e₁ m₂ e₂).2.1 (divCore Format.binary64 m₁ e₁ m₂ e₂).2.2)
  simp only [divCore]
  -- the dividend is shifted so far that the quotient has all its bits
  generalize Format.targetExponent _ _ = t
  obtain ⟨k, hk⟩ : ∃ k : Nat, min (e₁ - e₂) t = e₁ - e₂ - k :=
    ⟨(e₁ - e₂ - min (e₁ - e₂) t).toNat, by omega⟩
  rw [hk, show (e₁ - e₂ - (e₁ - e₂ - (k : Int))).toNat = k by omega]
  refine fits_roundWithAccuracy_of_lt (n := n + k) (by omega) ?_
  rw [Nat.div_lt_iff_lt_mul h₂, Nat.shiftLeft_eq]
  calc m₁ * 2 ^ k < (2 ^ 54 - 1) * 2 ^ n * m₂ * 2 ^ k :=
        Nat.mul_lt_mul_of_pos_right hm (Nat.two_pow_pos k)
    _ = (2 ^ 54 - 1) * 2 ^ (n + k) * m₂ := by rw [Nat.pow_add]; ac_rfl

end

theorem lt_of_ten_pow_lt {e a b : Nat} (h : 10 ^ e < (2 ^ a - 1) * 2 ^ b) : e < a + b := by
  refine (Nat.pow_lt_pow_iff_right (by decide : 1 < 2)).mp ?_
  calc 2 ^ e ≤ 10 ^ e := Nat.pow_le_pow_left (by decide) e
    _ < (2 ^ a - 1) * 2 ^ b := h
    _ ≤ 2 ^ a * 2 ^ b := Nat.mul_le_mul_right _ (Nat.sub_le ..)
    _ = 2 ^ (a + b) := (Nat.pow_add ..).symm

theorem mul_two_pow_lt {n c b k : Nat} (h : n < c * 2 ^ b) : n * 2 ^ k < c * 2 ^ (b + k) := by
  rw [Nat.pow_add, ← Nat.mul_assoc]
  exact Nat.mul_lt_mul_of_pos_right h (Nat.two_pow_pos k)

/-- A decimal number below the bound fits. -/
theorem fits_ofScientific {m e : Nat} (hm : m * 10 ^ e < overflowBound) :
    Fits 971 (UnpackedFloat.ofScientific Format.binary64 m e) := by
  unfold overflowBound at hm
  unfold UnpackedFloat.ofScientific
  refine .dite (fun _ => .zero _) fun hpos => ?_
  have he := lt_of_ten_pow_lt
    (Nat.lt_of_le_of_lt (Nat.le_mul_of_pos_left _ (Nat.pos_of_ne_zero hpos)) hm)
  rw [if_neg (by show ¬ (e : Int) > 2048; omega),
    if_neg (by show ¬ (e : Int) < -(2048 + (m.log2 : Int)); omega), if_pos (Int.natCast_nonneg e)]
  refine fits_mul (n := 970 + 53) (by decide) ?_
  show m <<< 53 * 10 ^ e < _
  rw [Nat.shiftLeft_eq, Nat.mul_right_comm]
  exact mul_two_pow_lt hm

theorem fits_ofScientific_neg {m e : Nat} (he : 0 < e) (hm : m < overflowBound * 10 ^ e) :
    Fits 971 (UnpackedFloat.ofScientific Format.binary64 m (-(e : Int))) := by
  unfold UnpackedFloat.ofScientific
  refine .dite (fun _ => .zero _) fun _ => ?_
  rw [if_neg (by show ¬ -(e : Int) > 2048; omega)]
  refine .ite (fun _ => .zero _) fun _ => ?_
  rw [if_neg (by omega)]
  refine fits_div (n := 970) (by decide) ?_
  rw [show (- -(e : Int)).toNat = e by omega]
  unfold overflowBound at hm
  exact hm

/-! ### Reading decimals -/

/-- The size of the powers of ten up to `10 ^ 22`, of which each is a double. -/
def isPowerSized : UnpackedFloat → Bool
  | .finite _ m e _ => m < 2 ^ 53 && -52 ≤ e && e ≤ 21
  | _ => false

theorem isPowerSized_powers (i : Fin 23) :
    isPowerSized (Float.exactlyRepresentablePowersOfTen[i]).toModel.unpack = true := by
  revert i
  decide +kernel

theorem exists_of_isPowerSized {u : UnpackedFloat} (h : isPowerSized u = true) :
    ∃ s m e, ∃ hm : 0 < m, u = .finite s m e hm ∧ m < 2 ^ 53 ∧ -52 ≤ e ∧ e ≤ 21 := by
  cases u with
  | finite s m e hm =>
    change (decide (m < 2 ^ 53) && decide (-52 ≤ e) && decide (e ≤ 21)) = true at h
    simp only [Bool.and_eq_true, decide_eq_true_eq] at h
    exact ⟨s, m, e, hm, rfl, h.1.1, h.1.2, h.2⟩
  | zero s | infinity s | notANumber => cases h

theorem fits_round {m : Nat} (hm : m < 2 ^ 64) (s : Sign) :
    Fits 12 (round Format.binary64 s m 0) := by
  unfold UnpackedFloat.round decreaseExponent
  simp only
  generalize (0 - Format.binary64.targetExponent (totalExponent m 0)).toNat = k
  have hlog : (m <<< k).log2 < 63 + k + 1 := by
    refine log2_lt_of_lt ?_
    rw [Nat.shiftLeft_eq, Nat.add_right_comm, Nat.pow_add]
    exact Nat.mul_lt_mul_of_pos_right hm (Nat.two_pow_pos k)
  exact fits_roundWithAccuracy_of_log2 (by omega) (by decide) (by omega)

/-- A natural of 64 bits is a small double. -/
theorem fits_toFloat (n : UInt64) : Fits 12 n.toFloat.toModel.unpack := by
  refine fits_unpack_pack (by decide) (by decide) ?_
  unfold UnpackedFloat.ofUInt64 UnpackedFloat.ofNat UnpackedFloat.ofInt UnpackedFloat.normalize
  have hn := n.toNat_lt
  split
  · exact fits_round (by omega) _
  · exact .zero _
  · exact fits_round (by omega) _

section
variable {u v : UnpackedFloat}

theorem fits_mul_power (hu : Fits 12 u) (hv : isPowerSized v = true) :
    Fits 971 (mul Format.binary64 u v) := by
  obtain ⟨s', m', e', hm', rfl, hlt', -, he'⟩ := exists_of_isPowerSized hv
  cases hu with
  | zero s => exact .zero _
  | @finite s m e hm hlt he =>
    obtain ⟨n, hn⟩ : ∃ n : Nat, e + e' = 970 - (n + 53 : Nat) := ⟨(917 - (e + e')).toNat, by omega⟩
    refine fits_mul hn (Nat.lt_of_lt_of_le (Nat.mul_lt_mul'' hlt hlt') ?_)
    exact Nat.mul_le_mul (by decide) (Nat.pow_le_pow_right (by decide) (Nat.le_add_left 53 n))

theorem fits_div_power (hu : Fits 12 u) (hv : isPowerSized v = true) :
    Fits 971 (div Format.binary64 u v) := by
  obtain ⟨s', m', e', hm', rfl, -, he', -⟩ := exists_of_isPowerSized hv
  cases hu with
  | zero s => exact .zero _
  | @finite s m e hm hlt he =>
    obtain ⟨n, hn⟩ : ∃ n : Nat, e - e' = 970 - (n : Nat) := ⟨(970 - (e - e')).toNat, by omega⟩
    refine fits_div hn (Nat.lt_of_lt_of_le hlt ?_)
    rw [Nat.mul_assoc]
    exact Nat.le_trans (by decide)
      (Nat.le_mul_of_pos_right (2 ^ 54 - 1) (Nat.mul_pos (Nat.two_pow_pos n) hm'))

end

/-- Reading a decimal number below the bound gives no infinity. -/
theorem ofScientific_ne_infinite {m e : Nat} (hm : m * 10 ^ e < overflowBound) (negative : Bool) :
    Binary.ofFloat (Float.ofScientific m false e) ≠ .infinite negative := by
  unfold Float.ofScientific
  split
  · next h =>
    have hpower := isPowerSized_powers ⟨e, by omega⟩
    exact ne_infinite_of_fits (fits_mul_power (fits_toFloat m.toUInt64) hpower) negative
  · exact ne_infinite_of_fits (fits_ofScientific hm) negative

theorem ofScientific_neg_ne_infinite {m e : Nat} (hm : m < overflowBound * 10 ^ e)
    (negative : Bool) : Binary.ofFloat (Float.ofScientific m true e) ≠ .infinite negative := by
  unfold Float.ofScientific
  split
  · next h =>
    have hpower := isPowerSized_powers ⟨e, by omega⟩
    exact ne_infinite_of_fits (fits_div_power (fits_toFloat m.toUInt64) hpower) negative
  · refine ne_infinite_of_fits ?_ negative
    show Fits 971 (UnpackedFloat.ofScientific Format.binary64 m (Int.negOfNat e))
    cases e with
    | zero => exact fits_ofScientific (by simpa using hm)
    | succ e => exact fits_ofScientific_neg (Nat.succ_pos e) hm

end Reckoner.Number
