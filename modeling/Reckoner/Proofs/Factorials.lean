import Mathlib.Data.Nat.Factorial.Basic
import Reckoner.Proofs.DoubleProducts

/-!
# Factorials

The factorial of a whole number `n` is `2 · 3 ⋯ (n - 1)`, times the number itself. Without rounding
that is `n!` for `n` from 1 and `n` for `n` up to 0 (`factorialProduct_natCast`,
`factorialProduct_nonpos`). With rounding every product up to the limit is a number: the factors but
the last are below `(k + 1)!` grown by one rounding for each of them (`atMost_productTo`), and even
`170!` grown by 170 roundings is in the range of the doubles. `IsFactorial` says what the factorial
of every double is, the infinities and the undefined result included.
-/

namespace Reckoner
open Number Nat

/-! ### The product -/

/-- The factors but the last, `2 · 3 ⋯ (k + 1)`. -/
def productTo (α : Type) [Scalar α] (k : Nat) : α :=
  (List.range k).foldl (fun product i => product * Scalar.ofNat (i + 2)) 1.0

section
variable {α : Type} [Scalar α]

theorem productTo_succ (k : Nat) :
    productTo α (k + 1) = productTo α k * Scalar.ofNat (k + 2) := by
  unfold productTo
  rw [List.range_succ, List.foldl_append]
  rfl

theorem factorialProduct_eq (n : Int) (x : α) :
    factorialProduct n x = productTo α (n.toNat - 2) * x := rfl

theorem factorialProduct_of_le_two {n : Int} (h : n ≤ 2) (x : α) :
    factorialProduct n x = 1.0 * x := by
  rw [factorialProduct_eq, show n.toNat - 2 = 0 by omega]
  rfl

end

/-! ### Exact factorials -/

theorem productTo_rat (k : Nat) : productTo ℚ k = ((k + 1)! : ℕ) := by
  induction k with
  | zero =>
    show (1.0 : ℚ) = _
    norm_num
  | succ k ih =>
    have hfactor : (Scalar.ofNat (k + 2) : ℚ) = (k + 2 : ℕ) := by
      show Rat.ofScientific (k + 2) false 0 = _
      rw [Rat.ofScientific_false_def, Nat.pow_zero, Nat.mul_one]
    rw [productTo_succ, ih, hfactor, ← Nat.cast_mul, Nat.factorial_succ (k + 1), Nat.mul_comm]

theorem factorialProduct_natCast {n : Nat} (h : 1 ≤ n) :
    factorialProduct n (n : ℚ) = (n ! : ℕ) := by
  obtain ⟨k, rfl⟩ := Nat.exists_eq_add_of_le' h
  rw [factorialProduct_eq, productTo_rat, Int.toNat_natCast, ← Nat.cast_mul]
  cases k with
  | zero => rfl
  | succ k =>
    rw [Nat.factorial_succ (k + 1), Nat.mul_comm]
    rfl

theorem factorialProduct_nonpos {n : ℤ} (h : n ≤ 0) : factorialProduct n (n : ℚ) = n := by
  rw [factorialProduct_of_le_two (by omega)]
  show (1.0 : ℚ) * n = n
  norm_num

/-! ### Rounded factorials -/

theorem factorial_mul_growth_le {n k : Nat} (hn : n ≤ 170) (hk : k ≤ 170) :
    (n ! : ℚ) * growth ^ k ≤ 2 ^ 1022 := by
  have hlimit : (170 ! : ℚ) * growth ^ 170 ≤ 2 ^ 1022 := by
    unfold growth
    decide +kernel
  have hfactorial : (n ! : ℚ) ≤ 170 ! := by exact_mod_cast Nat.factorial_le hn
  have hgrowth : growth ^ k ≤ growth ^ 170 := pow_le_pow_right₀ one_le_growth hk
  exact (mul_le_mul hfactorial hgrowth (pow_nonneg (zero_le_one.trans one_le_growth) k)
    (Nat.cast_nonneg _)).trans hlimit

/-- One more factor, of which the product so far has been rounded `k` times. -/
theorem atMost_mul_factor {k : Nat} {p x : Float} (hk : k + 2 ≤ 170)
    (hp : AtMost ((k + 1)! * growth ^ k) p) (hx : AtMost (k + 2 : Nat) x) :
    AtMost ((k + 2)! * growth ^ (k + 1)) (p * x) := by
  have hproduct : ((k + 1)! : ℚ) * growth ^ k * (k + 2 : Nat) = (k + 2)! * growth ^ k := by
    rw [Nat.factorial_succ (k + 1)]
    push_cast
    ring
  have hone : (1 : ℚ) ≤ (k + 2)! * growth ^ k :=
    one_le_mul_of_one_le_of_one_le (by exact_mod_cast Nat.factorial_pos _)
      (one_le_pow₀ one_le_growth)
  have hle := factorial_mul_growth_le hk (by omega : k ≤ 170)
  have hmul := hp.mul hx (hone.trans_eq hproduct.symm) (hproduct.trans_le hle)
  rwa [hproduct, mul_assoc, ← pow_succ] at hmul

theorem atMost_productTo {k : Nat} (hk : k + 1 ≤ 170) :
    AtMost ((k + 1)! * growth ^ k) (productTo Float k) := by
  induction k with
  | zero =>
    have hone : number? 1.0 = some 1 := by decide +kernel
    exact ⟨1, hone, by simp⟩
  | succ k ih =>
    rw [productTo_succ]
    exact atMost_mul_factor hk (ih (by omega)) (atMost_ofNat (by omega) (by omega))

section
variable {x : Float} {n : ℤ}

theorem factorialProduct_self (h : n ≤ 2) (x : Float) : factorialProduct n x = x := by
  rw [factorialProduct_of_le_two h, float_mul_comm, float_mul_one]

/-- The product of a whole number up to the limit does not overflow. -/
theorem exists_number_factorialProduct (hx : number? x = some (n : ℚ)) (h : n ≤ 170) :
    ∃ r, number? (factorialProduct n x) = some r := by
  rcases le_or_gt n 2 with h2 | h2
  · rw [factorialProduct_self h2]
    exact ⟨n, hx⟩
  · obtain ⟨k, rfl⟩ : ∃ k : Nat, n = (k + 2 : Nat) := ⟨(n - 2).toNat, by omega⟩
    have hsize : AtMost (k + 2 : Nat) x := ⟨_, hx, (abs_of_nonneg (by positivity)).le⟩
    obtain ⟨r, hr, -⟩ := atMost_mul_factor (by omega) (atMost_productTo (by omega)) hsize
    exact ⟨r, hr⟩

end

/-! ### The factorial of every double -/

/-- A number above 170, or infinity. -/
def AboveLimit (x : Float) : Prop :=
  x = infinity ∨ ∃ r, number? x = some r ∧ 170 < r

/-- A number that is not whole. -/
def Fractional (x : Float) : Prop :=
  ∃ r, number? x = some r ∧ ∀ n : ℤ, r ≠ n

section
variable {x : Float} {r : ℚ} {n : ℤ}

theorem aboveLimit_iff (hx : number? x = some r) : AboveLimit x ↔ 170 < r := by
  constructor
  · rintro (rfl | ⟨r', hx', h⟩)
    · cases hx
    · rwa [Option.some.inj (hx.symm.trans hx')]
  · exact fun h => .inr ⟨r, hx, h⟩

theorem factorialLimit_lt_iff (hx : number? x = some r) : factorialLimit < x ↔ AboveLimit x := by
  have hlimit : number? factorialLimit = some 170 := by decide +kernel
  rw [lt_iff hlimit hx, aboveLimit_iff hx]

theorem factorial_of_aboveLimit (h : AboveLimit x) : factorial x = infinity := by
  rcases h with rfl | ⟨r, hx, hr⟩
  · decide +kernel
  · exact if_pos ((factorialLimit_lt_iff hx).mpr (.inr ⟨r, hx, hr⟩))

theorem factorial_of_number (hx : number? x = some r) (h : ¬ AboveLimit x) :
    factorial x = match (Binary.ofFloat x).toInt? with
      | some n => factorialProduct n x
      | none => undefinedResult := by
  unfold factorial
  rw [if_neg (mt (factorialLimit_lt_iff hx).mp h)]
  cases hb : Binary.ofFloat x with
  | infinite negative | notANumber => cases (congrArg Binary.value? hb).symm.trans hx
  | finite negative m q => rfl

theorem factorial_of_whole (hx : number? x = some (n : ℚ)) (h : n ≤ 170) :
    factorial x = factorialProduct n x := by
  have hlimit : ¬ AboveLimit x := by
    rw [aboveLimit_iff hx]
    exact_mod_cast not_lt.mpr h
  have hn : (Binary.ofFloat x).toInt? = some n := Binary.toInt?_eq_some_iff.mpr hx
  rw [factorial_of_number hx hlimit, hn]

example : factorial 6 = 720 := by decide +kernel

theorem factorial_of_fractional (hx : Fractional x) (h : ¬ AboveLimit x) :
    factorial x = undefinedResult := by
  obtain ⟨r, hx, hr⟩ := hx
  have hn : (Binary.ofFloat x).toInt? = none := Option.eq_none_iff_forall_ne_some.mpr fun n hn =>
    hr n (Option.some.inj (hx.symm.trans (Binary.toInt?_eq_some_iff.mp hn)))
  rw [factorial_of_number hx h, hn]

theorem factorial_neg_infinity : factorial (-infinity) = -infinity := by
  decide +kernel

theorem factorial_undefinedResult : factorial undefinedResult = undefinedResult := by
  decide +kernel

end

/-- The factorial of a double, by what the double is. -/
inductive IsFactorial (x : Float) : Float → Prop
  | overflow (h : AboveLimit x) : IsFactorial x infinity
  | fractional (h : ¬ AboveLimit x) (hx : Fractional x) : IsFactorial x undefinedResult
  | undefined (hx : x = undefinedResult) : IsFactorial x undefinedResult
  | negInfinity (hx : x = -infinity) : IsFactorial x (-infinity)
  | whole (n : ℤ) (hx : number? x = some (n : ℚ)) (h : n ≤ 170) :
      IsFactorial x (factorialProduct n x)

theorem isFactorial (x : Float) : IsFactorial x (factorial x) := by
  by_cases hlimit : AboveLimit x
  · rw [factorial_of_aboveLimit hlimit]
    exact .overflow hlimit
  by_cases hfraction : Fractional x
  · rw [factorial_of_fractional hfraction hlimit]
    exact .fractional hlimit hfraction
  rcases number_cases x with rfl | rfl | rfl | ⟨r, hx⟩
  · exact absurd (.inl rfl) hlimit
  · rw [factorial_neg_infinity]
    exact .negInfinity rfl
  · rw [factorial_undefinedResult]
    exact .undefined rfl
  · obtain ⟨n, rfl⟩ : ∃ n : ℤ, r = n := by
      by_contra hn
      exact hfraction ⟨r, hx, not_exists.mp hn⟩
    have hn : n ≤ 170 := by
      rw [aboveLimit_iff hx, not_lt] at hlimit
      exact_mod_cast hlimit
    rw [factorial_of_whole hx hn]
    exact .whole n hx hn

theorem factorialProduct_ne {x y : Float} {n : ℤ} (hx : number? x = some (n : ℚ)) (h : n ≤ 170)
    (hy : number? y = none) : factorialProduct n x ≠ y := by
  rintro rfl
  obtain ⟨r, hr⟩ := exists_number_factorialProduct hx h
  rw [hy] at hr
  cases hr

namespace IsFactorial
variable {x y : Float}

theorem aboveLimit (h : IsFactorial x y) (hy : y = infinity) : AboveLimit x := by
  cases h with
  | overflow h => exact h
  | fractional h hx | undefined hx | negInfinity hx => exact absurd hy (by decide +kernel)
  | whole n hx h => exact absurd hy (factorialProduct_ne hx h rfl)

theorem eq_neg_infinity (h : IsFactorial x y) (hy : y = -infinity) : x = -infinity := by
  cases h with
  | negInfinity hx => exact hx
  | overflow h | fractional h hx | undefined hx => exact absurd hy (by decide +kernel)
  | whole n hx h => exact absurd hy (factorialProduct_ne hx h rfl)

theorem undefined_or_fractional (h : IsFactorial x y) (hy : y = undefinedResult) :
    x = undefinedResult ∨ ¬ AboveLimit x ∧ Fractional x := by
  cases h with
  | undefined hx => exact .inl hx
  | fractional h hx => exact .inr ⟨h, hx⟩
  | overflow h | negInfinity hx => exact absurd hy (by decide +kernel)
  | whole n hx h => exact absurd hy (factorialProduct_ne hx h rfl)

theorem exists_whole {r : ℚ} (h : IsFactorial x y) (hy : number? y = some r) :
    ∃ n : ℤ, number? x = some (n : ℚ) ∧ n ≤ 170 := by
  cases h with
  | whole n hx h => exact ⟨n, hx, h⟩
  | overflow h | fractional h hx | undefined hx | negInfinity hx => cases hy

end IsFactorial

section
variable {x : Float}

theorem factorial_eq_infinity_iff : factorial x = infinity ↔ AboveLimit x :=
  ⟨(isFactorial x).aboveLimit, factorial_of_aboveLimit⟩

theorem factorial_eq_neg_infinity_iff : factorial x = -infinity ↔ x = -infinity := by
  refine ⟨(isFactorial x).eq_neg_infinity, ?_⟩
  rintro rfl
  exact factorial_neg_infinity

theorem isNaN_factorial_iff :
    (factorial x).isNaN = true ↔ x.isNaN = true ∨ ¬ AboveLimit x ∧ Fractional x := by
  rw [isNaN_iff, isNaN_iff]
  refine ⟨(isFactorial x).undefined_or_fractional, ?_⟩
  rintro (rfl | ⟨h, hx⟩)
  · exact factorial_undefinedResult
  · exact factorial_of_fractional hx h

theorem isFinite_factorial_iff :
    (factorial x).isFinite = true ↔ ∃ n : ℤ, number? x = some (n : ℚ) ∧ n ≤ 170 := by
  rw [isFinite_iff]
  constructor
  · rintro ⟨r, hr⟩
    exact (isFactorial x).exists_whole hr
  · rintro ⟨n, hx, h⟩
    rw [factorial_of_whole hx h]
    exact exists_number_factorialProduct hx h

end

/-- A factorial is infinite above the limit, undefined for a fraction and for what is undefined, and
else defined. That of a whole number is the product, which is `n!` without rounding, and up to 0 the
number itself. -/
theorem factorial_domain (x : Float) (n : ℤ) :
    (factorial x = infinity ↔ AboveLimit x) ∧
    ((factorial x).isNaN = true ↔ x.isNaN = true ∨ ¬ AboveLimit x ∧ Fractional x) ∧
    (factorial x = -infinity ↔ x = -infinity) ∧
    ((factorial x).isFinite = true ↔ ∃ k : ℤ, number? x = some (k : ℚ) ∧ k ≤ 170) ∧
    (number? x = some (n : ℚ) → n ≤ 170 → factorial x = factorialProduct n x) ∧
    (number? x = some (n : ℚ) → n ≤ 0 → factorial x = x) ∧
    (1 ≤ n → factorialProduct n (n : ℚ) = (n.toNat ! : ℕ)) ∧
    (n ≤ 0 → factorialProduct n (n : ℚ) = n) := by
  refine ⟨factorial_eq_infinity_iff, isNaN_factorial_iff, factorial_eq_neg_infinity_iff,
    isFinite_factorial_iff, factorial_of_whole, fun hx h => ?_, fun h => ?_,
    factorialProduct_nonpos⟩
  · rw [factorial_of_whole hx (by omega), factorialProduct_self (by omega)]
  · obtain ⟨k, rfl⟩ := Int.eq_ofNat_of_zero_le (by omega : 0 ≤ n)
    exact factorialProduct_natCast (by omega)

theorem factorial_domain_limit :
    factorial 170 = factorialProduct 170 170 ∧ factorial (-3) = -3 ∧
    factorialProduct 170 (170 : ℚ) = (170 ! : ℕ) ∧ factorialProduct (-3) (-3 : ℚ) = -3 :=
  have hlimit : number? 170 = some ((170 : ℤ) : ℚ) := by decide +kernel
  have hnegative : number? (-3) = some ((-3 : ℤ) : ℚ) := by decide +kernel
  ⟨(factorial_domain 170 170).2.2.2.2.1 hlimit (by decide),
    (factorial_domain (-3) (-3)).2.2.2.2.2.1 hnegative (by decide),
    (factorial_domain 170 170).2.2.2.2.2.2.1 (by decide),
    (factorial_domain (-3) (-3)).2.2.2.2.2.2.2 (by decide)⟩

end Reckoner
