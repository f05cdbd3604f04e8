import Mathlib.Algebra.Order.Field.Power
import Mathlib.Data.Rat.Cast.Order
import Mathlib.Tactic.NormNum
import Mathlib.Tactic.Positivity
import Mathlib.Tactic.Ring
import Reckoner.Operation
import Reckoner.Proofs.DoubleParts

/-!
# The numbers that doubles are

`number? x` is the exact number that a finite double is; a double that is none is an infinity or the
undefined result (`number_cases`). Doubles are compared as the numbers they are (`lt_iff`), and a
double is read as an integer if its number is one (`Binary.toInt?_eq_some_iff`).
-/

namespace Reckoner.Number
open Float.Model Float.Model.UnpackedFloat

/-- The number that a finite value is. -/
def Binary.value? : Binary → Option ℚ
  | .finite negative m q => some ((if negative then -1 else 1) * (m * 2 ^ q))
  | _ => none

/-- The number that a finite double is. -/
def number? (x : Float) : Option ℚ :=
  (Binary.ofFloat x).value?

example : number? (-0.75) = some (-3 / 4) := by decide +kernel

/-! ### Whole numbers -/

namespace Quotient

theorem ofBinary_eq (m : Nat) (q : Int) :
    ((ofBinary m q).num / (ofBinary m q).den : ℚ) = m * 2 ^ q := by
  show ((m * 2 ^ q.toNat : Nat) : ℚ) / (2 ^ (-q).toNat : Nat) = _
  rcases Int.le_total 0 q with h | h
  · obtain ⟨n, rfl⟩ := Int.eq_ofNat_of_zero_le h
    simp
  · obtain ⟨n, rfl⟩ := Int.exists_eq_neg_ofNat h
    simp [div_eq_mul_inv]

theorem eq_int_iff {x : Quotient} (hpos : 0 < x.den) {n : ℤ} :
    (x.num / x.den : ℚ) = n ↔ x.num % x.den = 0 ∧ (x.floor : ℤ) = n := by
  have hden : (x.den : ℤ) ≠ 0 := Int.natCast_ne_zero.mpr hpos.ne'
  rw [div_eq_iff (by exact_mod_cast hden)]
  constructor
  · intro h
    have h : (x.num : ℤ) = n * x.den := by exact_mod_cast h
    have hdvd : x.den ∣ x.num := Int.natCast_dvd_natCast.mp ⟨n, by rw [h, mul_comm]⟩
    refine ⟨Nat.mod_eq_zero_of_dvd hdvd, ?_⟩
    rw [floor, Int.natCast_div, h, Int.mul_ediv_cancel _ hden]
  · rintro ⟨hmod, rfl⟩
    exact_mod_cast (Nat.div_mul_cancel (Nat.dvd_of_mod_eq_zero hmod)).symm

end Quotient

/-- A value is read as an integer if its number is that integer. -/
theorem Binary.toInt?_eq_some_iff {b : Binary} {n : ℤ} :
    b.toInt? = some n ↔ b.value? = some (n : ℚ) := by
  cases b with
  | infinite negative | notANumber => simp [toInt?, value?]
  | finite negative m q =>
    have hpos : 0 < (Quotient.ofBinary m q).den := Nat.two_pow_pos _
    have hsigned : (if negative then -1 else 1 : ℚ) * (m * 2 ^ q) = n ↔
        (m : ℚ) * 2 ^ q = ((if negative then -n else n : ℤ) : ℚ) := by
      cases negative with
      | false => simp
      | true => simp [neg_eq_iff_eq_neg]
    simp only [toInt?, value?, Option.some.injEq]
    rw [hsigned, ← Quotient.ofBinary_eq, Quotient.eq_int_iff hpos]
    generalize Quotient.ofBinary m q = x
    by_cases h : x.num % x.den = 0
    · cases negative <;> simp [h, neg_eq_iff_eq_neg]
    · simp [h]

/-! ### Numbers and parts -/

/-- The number of a sign, a mantissa and an exponent. -/
def signed (s : Sign) (m : Nat) (q : Int) : ℚ :=
  (if isNegative s then -1 else 1) * (m * 2 ^ q)

section
variable {m : Nat} (q : Int)

theorem signed_positive (m : Nat) : signed .positive m q = m * 2 ^ q :=
  one_mul _

theorem signed_negative (m : Nat) : signed .negative m q = -(m * 2 ^ q) :=
  neg_one_mul _

theorem signed_pos (hm : 0 < m) : 0 < signed .positive m q := by
  rw [signed_positive]
  positivity

theorem signed_neg (hm : 0 < m) : signed .negative m q < 0 := by
  rw [signed_negative, neg_lt_zero]
  positivity

theorem abs_signed (s : Sign) (m : Nat) : |signed s m q| = m * 2 ^ q := by
  have hnonneg : 0 ≤ (m : ℚ) * 2 ^ q := by positivity
  cases s with
  | negative => rw [signed_negative, abs_neg, abs_of_nonneg hnonneg]
  | positive => rw [signed_positive, abs_of_nonneg hnonneg]

end

section
variable {x : Float} {r : ℚ} {s : Sign} {m : Nat} {q : Int} {hm : 0 < m}

theorem number?_of_zero (h : x.toModel.unpack = .zero s) : number? x = some 0 := by
  unfold number?
  rw [Binary.ofFloat_eq, h]
  show some (_ * (((0 : Nat) : ℚ) * _)) = some 0
  rw [Nat.cast_zero, zero_mul, mul_zero]

theorem number?_of_finite (h : x.toModel.unpack = .finite s m q hm) :
    number? x = some (signed s m q) := by
  unfold number?
  rw [Binary.ofFloat_eq, h]
  rfl

theorem parts_of_number? (h : number? x = some r) :
    (∃ s, x.toModel.unpack = .zero s ∧ r = 0) ∨
      ∃ s m q hm, x.toModel.unpack = .finite s m q hm ∧ r = signed s m q := by
  cases hx : x.toModel.unpack with
  | infinity s | notANumber =>
    rw [number?, Binary.ofFloat_eq, hx] at h
    cases h
  | zero s => exact .inl ⟨s, rfl, Option.some.inj (h.symm.trans (number?_of_zero hx))⟩
  | finite s m q hm =>
    exact .inr ⟨s, m, q, hm, rfl, Option.some.inj (h.symm.trans (number?_of_finite hx))⟩

/-- There are two infinities, and one double that is undefined. -/
theorem number_cases (x : Float) :
    x = infinity ∨ x = -infinity ∨ x = undefinedResult ∨ ∃ r, number? x = some r := by
  cases h : x.toModel.unpack with
  | infinity s =>
    cases s with
    | positive => exact .inl (eq_of_unpack_eq (h.trans rfl))
    | negative => exact .inr (.inl (eq_of_unpack_eq (h.trans rfl)))
  | notANumber => exact .inr (.inr (.inl (eq_of_unpack_eq (h.trans rfl))))
  | zero s => exact .inr (.inr (.inr ⟨_, number?_of_zero h⟩))
  | finite s m q hm => exact .inr (.inr (.inr ⟨_, number?_of_finite h⟩))

theorem isFinite_iff : x.isFinite = true ↔ ∃ r, number? x = some r := by
  constructor
  · intro h
    rcases number_cases x with rfl | rfl | rfl | hx
    · cases h
    · cases h
    · cases h
    · exact hx
  · rintro ⟨r, h⟩
    show x.toModel.unpack.isFinite = true
    rcases parts_of_number? h with ⟨s, hx, -⟩ | ⟨s, m, q, hm, hx, -⟩ <;> rw [hx] <;> rfl

theorem isNaN_iff : x.isNaN = true ↔ x = undefinedResult := by
  constructor
  · intro h
    cases hx : x.toModel.unpack with
    | notANumber => exact eq_of_unpack_eq (hx.trans rfl)
    | infinity s | zero s | finite s m q hm =>
      change x.toModel.unpack.isNaN = true at h
      rw [hx] at h
      cases h
  · rintro rfl
    rfl

end

/-! ### Order -/

section
variable {m m' : Nat} {q q' : Int}

/-- A mantissa of 53 bits is larger at a larger exponent. -/
theorem lt_of_exponent_lt (hlt : m < 2 ^ 53) (hlow : 2 ^ 52 ≤ m') (hq : q < q') :
    (m : ℚ) * 2 ^ q < m' * 2 ^ q' := by
  calc (m : ℚ) * 2 ^ q < 2 ^ 53 * 2 ^ q :=
        mul_lt_mul_of_pos_right (by exact_mod_cast hlt) (zpow_pos (by norm_num) q)
    _ = 2 ^ 52 * 2 ^ (q + 1) := by rw [zpow_add_one₀ (by norm_num)]; ring
    _ ≤ m' * 2 ^ q' := mul_le_mul (by exact_mod_cast hlow)
        (zpow_le_zpow_right₀ (by norm_num) hq) (by positivity) (by positivity)

/-- Exponents are compared first, and mantissas if they are equal. -/
theorem compare_eq_lt_iff {x y : Float.Model} {s s' : Sign} {hm : 0 < m} {hm' : 0 < m'}
    (hx : x.unpack = .finite s m q hm) (hy : y.unpack = .finite s' m' q' hm') :
    (compare q q').then (compare m m') = .lt ↔ (m : ℚ) * 2 ^ q < m' * 2 ^ q' := by
  obtain ⟨hlt, hlow, -, hbits⟩ := bounds_of_unpack hx
  obtain ⟨hlt', hlow', -, hbits'⟩ := bounds_of_unpack hy
  rcases lt_trichotomy q q' with hq | rfl | hq
  · have hless := lt_of_exponent_lt hlt (hbits'.resolve_right (by omega)) hq
    rw [compare_lt_iff_lt.mpr hq]
    exact ⟨fun _ => hless, fun _ => rfl⟩
  · rw [compare_eq_iff_eq.mpr rfl, mul_lt_mul_iff_of_pos_right (zpow_pos (by norm_num) q),
      Nat.cast_lt]
    exact compare_lt_iff_lt
  · have hless := lt_of_exponent_lt hlt' (hbits.resolve_right (by omega)) hq
    rw [compare_gt_iff_gt.mpr hq]
    exact ⟨fun h => (by cases h), fun h => absurd h hless.asymm⟩

end

/-- Doubles are compared as the numbers they are. -/
theorem lt_iff {x y : Float} {a b : ℚ} (hx : number? x = some a) (hy : number? y = some b) :
    x < y ↔ a < b := by
  have hcompare : x < y ↔ x.toModel.unpack.compare y.toModel.unpack = some .lt := by
    show decide (UnpackedFloat.lt _ _ = true) = true ↔ _
    rw [decide_eq_true_eq]
    exact beq_iff_eq
  have less {p : Prop} (h : p) : some Ordering.lt = some .lt ↔ p := ⟨fun _ => h, fun _ => rfl⟩
  have notLess {p : Prop} {o : Ordering} (ho : o ≠ .lt) (h : ¬ p) : some o = some .lt ↔ p :=
    ⟨fun h' => absurd (Option.some.inj h') ho, fun h' => absurd h' h⟩
  rw [hcompare]
  rcases parts_of_number? hx with ⟨s, hu, rfl⟩ | ⟨s, m, q, hm, hu, rfl⟩ <;>
    rcases parts_of_number? hy with ⟨s', hv, rfl⟩ | ⟨s', m', q', hm', hv, rfl⟩ <;> rw [hu, hv]
  · exact notLess (by decide) (lt_irrefl 0)
  · cases s' with
    | negative => exact notLess (by decide) (signed_neg q' hm').asymm
    | positive => exact less (signed_pos q' hm')
  · cases s with
    | negative => exact less (signed_neg q hm)
    | positive => exact notLess (by decide) (signed_pos q hm).asymm
  · rcases s with _ | _ <;> rcases s' with _ | _
    · -- of two negative numbers the larger size is less
      show some ((compare q q').then (compare m m')).swap = some .lt ↔ _
      rw [Option.some.injEq, Ordering.swap_then, Int.compare_swap, Nat.compare_swap,
        compare_eq_lt_iff hv hu, signed_negative, signed_negative, neg_lt_neg_iff]
    · exact less ((signed_neg q hm).trans (signed_pos q' hm'))
    · exact notLess (by decide) ((signed_neg q' hm').trans (signed_pos q hm)).asymm
    · show some ((compare q q').then (compare m m')) = some .lt ↔ _
      rw [Option.some.injEq, compare_eq_lt_iff hu hv, signed_positive, signed_positive]

end Reckoner.Number
