import Reckoner.Proofs.DoubleValues
import Reckoner.Proofs.FiniteDoubles

/-!
# Products of doubles

A product of doubles is rounded. `AtMost b x` is that `x` is a number of size `b` at most. Rounding
grows a number by the factor `growth` at most, so two numbers of sizes `a` and `b` have a product of
size `a * b * growth` (`AtMost.mul`), unless `a * b` is beyond the range of the doubles. Nothing is
lost where the mantissa has only zeros to lose, so multiplying by 1 changes no double
(`float_mul_one`), and a natural of 53 bits is a double of its size (`atMost_ofNat`).
-/

namespace Reckoner.Number
open Float.Model Float.Model.UnpackedFloat

/-! ### Exact results -/

section
variable {s : Sign} {m k : Nat} {e : Int}

theorem shiftRight_mul_two_pow (m k : Nat) :
    (⟨m * 2 ^ k, false, false⟩ : ExtendedMantissa) >>> k = ⟨m, false, false⟩ := by
  induction k generalizing m with
  | zero =>
    rw [Nat.pow_zero, Nat.mul_one]
    rfl
  | succ k ih =>
    show ((⟨m * 2 ^ (k + 1), false, false⟩ : ExtendedMantissa) >>> k).shiftRightOne = _
    rw [Nat.pow_succ', ← Nat.mul_assoc, ih]
    simp [ExtendedMantissa.shiftRightOne]

theorem rounded_mul_two_pow (hk : excess (m * 2 ^ k) e = k) :
    rounded (m * 2 ^ k) e .exact = m := by
  unfold rounded
  rw [hk]
  show ((⟨m * 2 ^ k, false, false⟩ : ExtendedMantissa) >>> k).roundedMantissa = m
  rw [shiftRight_mul_two_pow]
  rfl

theorem log2_mul_two_pow (hm : 0 < m) (k : Nat) : (m * 2 ^ k).log2 = m.log2 + k := by
  induction k with
  | zero => simp
  | succ k ih =>
    have hne : m * 2 ^ k ≠ 0 := (Nat.mul_pos hm (Nat.two_pow_pos k)).ne'
    rw [Nat.pow_succ', Nat.mul_left_comm, Nat.log2_two_mul hne, ih, Nat.add_assoc]

/-- A mantissa that loses nothing but zeros is not rounded. -/
theorem roundWithAccuracy_mul_two_pow (hm : 0 < m) (hk : excess (m * 2 ^ k) e = k) :
    roundWithAccuracy Format.binary64 s (m * 2 ^ k) e .exact = .finite s m (e + k) hm := by
  have hagain : excess m (e + k) = 0 := by
    have := log2_mul_two_pow hm k
    unfold excess at hk ⊢
    omega
  rw [roundWithAccuracy_eq, rounded_mul_two_pow hk, hk, hagain, Nat.pow_zero, Nat.div_one,
    Nat.cast_zero, Int.add_zero, ofMantissa_of_pos hm]

theorem excess_of_unpack {x : Float.Model} {q : Int} {hm : 0 < m}
    (h : x.unpack = .finite s m q hm) (k : Nat) : excess (m * 2 ^ k) (q - k) = k := by
  obtain ⟨hlt, hlow, -, hbits⟩ := bounds_of_unpack h
  have hlog : m.log2 ≤ 52 := Nat.lt_succ_iff.mp (log2_lt_of_lt hlt)
  unfold excess
  rw [log2_mul_two_pow hm]
  rcases hbits with hbits | rfl
  · rw [log2_eq hbits hlt]
    omega
  · omega

/-- A natural of 53 bits is moved to the top of the mantissa. -/
theorem round_of_lt (s : Sign) (hm : 0 < m) (hlt : m < 2 ^ 53) :
    round Format.binary64 s m 0 = .finite s (m * 2 ^ (52 - m.log2)) (-(52 - m.log2 : Nat))
      (Nat.mul_pos hm (Nat.two_pow_pos _)) := by
  have hlog : m.log2 ≤ 52 := Nat.lt_succ_iff.mp (log2_lt_of_lt hlt)
  have hshift : (0 - max ((m.log2 : Int) + 1 + 0 - 53) (-1074)).toNat = 52 - m.log2 := by omega
  have hpos := Nat.mul_pos hm (Nat.two_pow_pos (52 - m.log2))
  have hexcess : excess (m * 2 ^ (52 - m.log2) * 2 ^ 0) (-(52 - m.log2 : Nat)) = 0 := by
    unfold excess
    rw [log2_mul_two_pow hpos, log2_mul_two_pow hm]
    omega
  have hround := roundWithAccuracy_mul_two_pow (s := s) hpos hexcess
  unfold UnpackedFloat.round decreaseExponent
  dsimp only
  rw [targetExponent_eq, hshift, Nat.shiftLeft_eq, Int.zero_sub]
  rwa [Nat.pow_zero, Nat.mul_one, Nat.cast_zero, Int.add_zero] at hround

end

theorem float_mul_comm (x y : Float) : x * y = y * x := by
  have hsign (s s' : Sign) : s * s' = s' * s := by cases s <;> cases s' <;> rfl
  have hmul (u v : UnpackedFloat) :
      UnpackedFloat.mul Format.binary64 u v = UnpackedFloat.mul Format.binary64 v u := by
    cases u with
    | notANumber => cases v <;> rfl
    | infinity s =>
      cases v with
      | notANumber | zero s' => rfl
      | infinity s' | finite s' m' e' hm' => exact congrArg UnpackedFloat.infinity (hsign s s')
    | zero s =>
      cases v with
      | notANumber | infinity s' => rfl
      | zero s' | finite s' m' e' hm' => exact congrArg UnpackedFloat.zero (hsign s s')
    | finite s m e hm =>
      cases v with
      | notANumber => rfl
      | infinity s' => exact congrArg UnpackedFloat.infinity (hsign s s')
      | zero s' => exact congrArg UnpackedFloat.zero (hsign s s')
      | finite s' m' e' hm' =>
        show roundWithAccuracy _ (s * s') (m * m') (e + e') _ = _
        rw [hsign, Nat.mul_comm, Int.add_comm]
        rfl
  exact congrArg (fun u => Float.ofModel (Float.Model.pack u)) (hmul _ _)

/-- The mantissa of 1 is a power of two, by which a mantissa gets zeros only. -/
theorem float_mul_one (x : Float) : x * 1.0 = x := by
  have hone : (1.0 : Float).toModel.unpack = .finite .positive (2 ^ 52) (-52) (by decide) := by
    rfl
  have hmul : UnpackedFloat.mul Format.binary64 x.toModel.unpack
      (.finite .positive (2 ^ 52) (-52) (by decide)) = x.toModel.unpack := by
    cases h : x.toModel.unpack with
    | notANumber => rfl
    | infinity s | zero s => cases s <;> rfl
    | finite s m q hm =>
      have hsign : s * Sign.positive = s := by cases s <;> rfl
      show roundWithAccuracy _ (s * .positive) (m * 2 ^ 52) (q - (52 : Nat)) .exact = _
      rw [hsign, roundWithAccuracy_mul_two_pow hm (excess_of_unpack h 52), Int.sub_add_cancel]
  refine eq_of_unpack_eq ?_
  show (Float.Model.pack (UnpackedFloat.mul Format.binary64 x.toModel.unpack _)).unpack = _
  rw [hone, hmul, pack_unpack]

/-! ### Sizes -/

/-- `x` is a number of size `b` at most. -/
def AtMost (b : ℚ) (x : Float) : Prop :=
  ∃ r, number? x = some r ∧ |r| ≤ b

/-- What is packed to a number of size `b` at most. -/
inductive Within (b : ℚ) : UnpackedFloat → Prop
  | zero (s : Sign) : Within b (.zero s)
  | finite {s : Sign} {m : Nat} {q : Int} {hm : 0 < m} (hlt : m < 2 ^ 53) (hlow : -1074 ≤ q)
      (htop : q ≤ 971) (hle : (m : ℚ) * 2 ^ q ≤ b) : Within b (.finite s m q hm)

namespace Within
variable {b : ℚ}

theorem ofMantissa {s : Sign} {m : Nat} {e : Int} (hlt : m < 2 ^ 53) (hlow : -1074 ≤ e)
    (htop : e ≤ 971) (hle : (m : ℚ) * 2 ^ e ≤ b) : Within b (ofMantissa s m e) := by
  rcases Nat.eq_zero_or_pos m with rfl | hm
  · exact .zero s
  · rw [ofMantissa_of_pos hm]
    exact .finite hlt hlow htop hle

theorem atMost {u : UnpackedFloat} (hb : 0 ≤ b) (h : Within b u) :
    AtMost b ⟨Float.Model.pack u⟩ := by
  cases h with
  | zero s =>
    have hzero : (Float.Model.pack (.zero s)).unpack = .zero s := by cases s <;> rfl
    exact ⟨0, number?_of_zero hzero, abs_zero.trans_le hb⟩
  | @finite s m q hm hlt hlow htop hle =>
    refine ⟨_, number?_of_finite (unpack_pack_finite s hm hlt hlow htop), ?_⟩
    rw [abs_signed]
    refine le_trans ?_ hle
    refine mul_le_mul_of_nonneg_left (zpow_le_zpow_right₀ (by norm_num) ?_) (by positivity)
    split <;> omega

end Within

/-! ### Rounding -/

/-- The most by which rounding multiplies a number. -/
def growth : ℚ := 1 + 1 / 2 ^ 52

theorem one_le_growth : 1 ≤ growth := by
  unfold growth
  norm_num

theorem mul_growth (b : ℚ) : b * growth = b + b / 2 ^ 52 := by
  unfold growth
  ring

theorem div_mul_zpow_le (m k : Nat) (e : Int) :
    ((m / 2 ^ k : Nat) : ℚ) * 2 ^ (e + k) ≤ m * 2 ^ e := by
  have h : ((m / 2 ^ k * 2 ^ k : Nat) : ℚ) ≤ m := by exact_mod_cast Nat.div_mul_le_self m (2 ^ k)
  calc ((m / 2 ^ k : Nat) : ℚ) * 2 ^ (e + k) = (m / 2 ^ k * 2 ^ k : Nat) * 2 ^ e := by
        rw [zpow_add₀ (by norm_num), zpow_natCast]
        push_cast
        ring
    _ ≤ m * 2 ^ e := mul_le_mul_of_nonneg_right h (by positivity)

section
variable {b : ℚ} {s : Sign} {m : Nat} {e : Int} {acc : Accuracy}

/-- The exponent that a result is shifted to. -/
theorem add_excess (hc : 52 ≤ m.log2 ∨ e ≤ -1074) :
    e + excess m e = max (m.log2 + e - 52) (-1074) := by
  unfold excess
  omega

/-- What rounding adds is one unit of that exponent at most. -/
theorem zpow_add_excess_le (hm : 0 < m) (hc : 52 ≤ m.log2 ∨ e ≤ -1074) (hone : 1 ≤ b)
    (hle : (m : ℚ) * 2 ^ e ≤ b) : (2 : ℚ) ^ (e + excess m e) ≤ b / 2 ^ 52 := by
  rw [add_excess hc, le_div_iff₀ (by norm_num)]
  rcases le_total ((m.log2 : Int) + e - 52) (-1074) with h | h
  · rw [max_eq_right h, ← zpow_natCast, ← zpow_add₀ (by norm_num)]
    exact (zpow_le_one_of_nonpos₀ (by norm_num) (by decide)).trans hone
  · have hlog : (2 : ℚ) ^ m.log2 ≤ m := by exact_mod_cast Nat.log2_self_le hm.ne'
    rw [max_eq_left h]
    calc (2 : ℚ) ^ ((m.log2 : Int) + e - 52) * 2 ^ 52 = 2 ^ m.log2 * 2 ^ e := by
          rw [zpow_sub₀ (by norm_num), zpow_add₀ (by norm_num), zpow_natCast]
          exact div_mul_cancel₀ _ (by norm_num)
      _ ≤ m * 2 ^ e := mul_le_mul_of_nonneg_right hlog (by positivity)
      _ ≤ b := hle

theorem rounded_mul_zpow_le (hm : 0 < m) (hc : 52 ≤ m.log2 ∨ e ≤ -1074) (hone : 1 ≤ b)
    (hle : (m : ℚ) * 2 ^ e ≤ b) : (rounded m e acc : ℚ) * 2 ^ (e + excess m e) ≤ b * growth := by
  have hround : (rounded m e acc : ℚ) ≤ (m / 2 ^ excess m e : Nat) + 1 := by
    exact_mod_cast rounded_le_shift_add_one m e acc
  calc (rounded m e acc : ℚ) * 2 ^ (e + excess m e)
      ≤ ((m / 2 ^ excess m e : Nat) + 1) * 2 ^ (e + excess m e) :=
        mul_le_mul_of_nonneg_right hround (by positivity)
    _ = (m / 2 ^ excess m e : Nat) * 2 ^ (e + excess m e) + 2 ^ (e + excess m e) :=
        add_one_mul _ _
    _ ≤ b + b / 2 ^ 52 :=
        add_le_add ((div_mul_zpow_le m _ e).trans hle) (zpow_add_excess_le hm hc hone hle)
    _ = b * growth := (mul_growth b).symm

theorem within_roundWithAccuracy (hm : 0 < m) (hc : 52 ≤ m.log2 ∨ e ≤ -1074) (hone : 1 ≤ b)
    (hb : b ≤ 2 ^ 1022) (hle : (m : ℚ) * 2 ^ e ≤ b) :
    Within (b * growth) (roundWithAccuracy Format.binary64 s m e acc) := by
  have hlow : -1074 ≤ e + (excess m e : Int) := by
    rw [add_excess hc]
    exact le_max_right _ _
  have htop : e + (excess m e : Int) ≤ 970 := by
    refine (zpow_le_zpow_iff_right₀ (by norm_num : (1 : ℚ) < 2)).mp
      ((zpow_add_excess_le hm hc hone hle).trans ?_)
    rw [div_le_iff₀ (by norm_num)]
    exact hb.trans (pow_add 2 970 52).le
  have hgrown : (rounded m e acc : ℚ) * 2 ^ (e + (excess m e : Int)) ≤ b * growth :=
    rounded_mul_zpow_le hm hc hone hle
  have hlog : (rounded m e acc).log2 < 54 :=
    log2_lt_of_lt (Nat.lt_of_le_of_lt (rounded_le m e acc) (by decide))
  rw [roundWithAccuracy_eq]
  generalize e + (excess m e : Int) = t at hlow htop hgrown ⊢
  generalize rounded m e acc = r at hgrown hlog ⊢
  have hcarry : t + (excess r t : Int) ≤ 971 := by
    unfold excess
    omega
  exact .ofMantissa (shift_lt r t) (by omega) hcarry ((div_mul_zpow_le r _ t).trans hgrown)

end

/-! ### Products -/

/-- The product of two numbers is rounded up by little. -/
theorem AtMost.mul {a b : ℚ} {x y : Float} (hx : AtMost a x) (hy : AtMost b y) (hone : 1 ≤ a * b)
    (hab : a * b ≤ 2 ^ 1022) : AtMost (a * b * growth) (x * y) := by
  have hgrowth : 0 ≤ a * b * growth :=
    mul_nonneg (zero_le_one.trans hone) (zero_le_one.trans one_le_growth)
  refine Within.atMost (u := UnpackedFloat.mul Format.binary64 x.toModel.unpack y.toModel.unpack)
    hgrowth ?_
  obtain ⟨r, hr, hra⟩ := hx
  obtain ⟨r', hr', hrb⟩ := hy
  rcases parts_of_number? hr with ⟨s, hu, rfl⟩ | ⟨s, m, q, hm, hu, rfl⟩ <;>
    rcases parts_of_number? hr' with ⟨s', hv, rfl⟩ | ⟨s', m', q', hm', hv, rfl⟩ <;> rw [hu, hv]
  · exact .zero _
  · exact .zero _
  · exact .zero _
  · rw [abs_signed] at hra hrb
    obtain ⟨-, hlow, -, hbits⟩ := bounds_of_unpack hu
    obtain ⟨-, hlow', -, hbits'⟩ := bounds_of_unpack hv
    have hproduct : 0 < m * m' := Nat.mul_pos hm hm'
    refine within_roundWithAccuracy hproduct ?_ hone hab ?_
    · -- a mantissa is short of bits at the least exponent only
      rcases hbits with h | rfl
      · exact .inl ((Nat.le_log2 hproduct.ne').mpr (h.trans (Nat.le_mul_of_pos_right m hm')))
      · rcases hbits' with h | rfl
        · exact .inl ((Nat.le_log2 hproduct.ne').mpr (h.trans (Nat.le_mul_of_pos_left m' hm)))
        · exact .inr (by decide)
    · rw [zpow_add₀ (by norm_num), Nat.cast_mul, mul_mul_mul_comm]
      exact mul_le_mul hra hrb (by positivity) (le_trans (by positivity) hra)

theorem atMost_ofNat {n : Nat} (hn : 0 < n) (hlt : n < 2 ^ 53) :
    AtMost n (Scalar.ofNat n : Float) := by
  have hlog : n.log2 ≤ 52 := Nat.lt_succ_iff.mp (log2_lt_of_lt hlt)
  have hbits : n * 2 ^ (52 - n.log2) < 2 ^ 53 := by
    calc n * 2 ^ (52 - n.log2) < 2 ^ (n.log2 + 1) * 2 ^ (52 - n.log2) :=
          Nat.mul_lt_mul_of_pos_right Nat.lt_log2_self (Nat.two_pow_pos _)
      _ = 2 ^ 53 := by
          rw [← Nat.pow_add]
          congr 1
          omega
  have hpower : Float.exactlyRepresentablePowersOfTen[0] = 1.0 := by rfl
  have hofNat : (Scalar.ofNat n : Float) = n.toUInt64.toFloat * 1.0 := by
    rw [← hpower]
    exact dif_pos ⟨hlt, by decide⟩
  have hround : UnpackedFloat.ofUInt64 Format.binary64 n.toUInt64 =
      round Format.binary64 .positive n 0 := by
    have hn' : n.toUInt64.toNat = n := Nat.mod_eq_of_lt (hlt.trans (by decide))
    have hcompare : compare (n : Int) 0 = .gt := compare_gt_iff_gt.mpr (Int.natCast_pos.mpr hn)
    unfold UnpackedFloat.ofUInt64 UnpackedFloat.ofNat UnpackedFloat.ofInt UnpackedFloat.normalize
    rw [hn', hcompare]
    rfl
  rw [hofNat, float_mul_one]
  refine Within.atMost (u := UnpackedFloat.ofUInt64 Format.binary64 n.toUInt64)
    (Nat.cast_nonneg n) ?_
  rw [hround, round_of_lt .positive hn hlt]
  refine .finite hbits (by omega) (by omega) ?_
  rw [Nat.cast_mul, Nat.cast_pow, Nat.cast_ofNat, zpow_neg, zpow_natCast,
    mul_inv_cancel_right₀ (by positivity)]

end Reckoner.Number
