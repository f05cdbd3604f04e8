import Mathlib.Algebra.Group.Nat.Defs
import Reckoner.Number.Binary

/-!
# The parts of a double

A double is stored as a sign, an exponent and a fraction. `composed_unpack` says what they make:
an exponent of 0 stands for the least exponent, any other puts one more bit before the fraction, and
the largest is kept for what is not finite. From it come the mantissas and exponents there are
(`bounds_of_unpack`), that a double is given by its parts (`eq_of_unpack_eq`), how a mantissa is
stored (`unpack_pack_finite`) and what reading the bits gives (`Binary.ofFloat_eq`).
-/

namespace Reckoner.Number
open Float.Model Float.Model.UnpackedFloat

/-! ### Sign, exponent and fraction -/

/-- The stored exponent of a double. -/
def storedExponent (b : BitVec 64) : Nat :=
  (unpackExponent b : BitVec Format.binary64.exponentBits).toNat

/-- The stored fraction of a double. -/
def storedFraction (b : BitVec 64) : Nat :=
  (unpackMantissa b : BitVec Format.binary64.mantissaBitsWithoutImplicit).toNat

/-- The stored sign of a double. -/
def storedSign (b : BitVec 64) : Sign :=
  .ofBitVec (@unpackSign Format.binary64 b)

theorem storedExponent_eq (b : BitVec 64) : storedExponent b = b.toNat % 2 ^ 63 / 2 ^ 52 := by
  unfold storedExponent unpackExponent
  simp only [BitVec.toNat_cast]
  show (BitVec.extractLsb 62 52 b).toNat = _
  simp only [BitVec.extractLsb_toNat, Nat.shiftRight_eq_div_pow]
  omega

theorem storedFraction_eq (b : BitVec 64) : storedFraction b = b.toNat % 2 ^ 52 := by
  unfold storedFraction unpackMantissa
  simp only [BitVec.toNat_cast]
  show (BitVec.extractLsb 51 0 b).toNat = _
  simp only [BitVec.extractLsb_toNat, Nat.shiftRight_zero]

theorem toNat_storedSign (b : BitVec 64) : (storedSign b).toBitVec.toNat = b.toNat / 2 ^ 63 := by
  have hb := b.isLt
  have hsign : ∀ v : BitVec 1, (Sign.ofBitVec v).toBitVec = v := by decide
  unfold storedSign
  rw [hsign]
  unfold unpackSign
  simp only [BitVec.toNat_cast]
  show (BitVec.extractLsb 63 63 b).toNat = _
  simp only [BitVec.extractLsb_toNat, Nat.shiftRight_eq_div_pow]
  omega

theorem storedExponent_lt (b : BitVec 64) : storedExponent b < 2048 :=
  BitVec.isLt _

theorem storedFraction_lt (b : BitVec 64) : storedFraction b < 2 ^ 52 :=
  BitVec.isLt _

section
variable {b : BitVec 64} {s : Sign} {e : BitVec 11} {f : BitVec 52}

theorem toNat_packComponents :
    (packComponents Format.binary64 s e f).toNat =
      s.toBitVec.toNat * 2 ^ 63 + e.toNat * 2 ^ 52 + f.toNat := by
  have he := e.isLt
  have hf := f.isLt
  show (s.toBitVec ++ e ++ f).toNat = _
  rw [BitVec.toNat_append, BitVec.toNat_append, ← Nat.shiftLeft_add_eq_or_of_lt he,
    ← Nat.shiftLeft_add_eq_or_of_lt hf]
  omega

theorem packComponents_stored (he : storedExponent b = e.toNat) (hf : storedFraction b = f.toNat) :
    packComponents Format.binary64 (storedSign b) e f = b := by
  refine BitVec.eq_of_toNat_eq ?_
  rw [toNat_packComponents, ← he, ← hf, toNat_storedSign, storedExponent_eq, storedFraction_eq]
  omega

theorem storedExponent_packComponents :
    storedExponent (packComponents Format.binary64 s e f) = e.toNat :=
  congrArg BitVec.toNat unpackExponent_packComponents

theorem storedFraction_packComponents :
    storedFraction (packComponents Format.binary64 s e f) = f.toNat :=
  congrArg BitVec.toNat unpackMantissa_packComponents

theorem storedSign_packComponents : storedSign (packComponents Format.binary64 s e f) = s := by
  have he := e.isLt
  have hf := f.isLt
  have h : (storedSign (packComponents Format.binary64 s e f)).toBitVec.toNat =
      s.toBitVec.toNat := by
    rw [toNat_storedSign, toNat_packComponents]
    omega
  have hinj : ∀ s s' : Sign, s.toBitVec.toNat = s'.toBitVec.toNat → s = s' := by
    rintro (_ | _) (_ | _) h
    · rfl
    · cases h
    · cases h
    · rfl
  exact hinj _ _ h

end

/-! ### What the parts make -/

/-- How sign, exponent and fraction make a double. -/
inductive Composed (s : Sign) (e f : Nat) : UnpackedFloat → Prop
  | infinity (he : e = 2047) (hf : f = 0) : Composed s e f (.infinity s)
  | notANumber (he : e = 2047) (hf : f ≠ 0) : Composed s e f .notANumber
  | zero (he : e = 0) (hf : f = 0) : Composed s e f (.zero s)
  | subnormal {hm : 0 < f} (he : e = 0) : Composed s e f (.finite s f (-1074) hm)
  | normal {m : Nat} {q : Int} {hm : 0 < m} (he : 0 < e ∧ e < 2047) (hf : m = 2 ^ 52 + f)
      (hq : q = e - 1075) : Composed s e f (.finite s m q hm)

theorem composed_unpack (b : BitVec 64) :
    Composed (storedSign b) (storedExponent b) (storedFraction b)
      (UnpackedFloat.unpack Format.binary64 b) := by
  unfold UnpackedFloat.unpack
  dsimp only
  by_cases htop : @unpackExponent Format.binary64 b = -1#_
  · have he : storedExponent b = 2047 := congrArg BitVec.toNat htop
    rw [if_pos htop]
    by_cases hzero : @unpackMantissa Format.binary64 b = 0#_
    · rw [if_pos hzero]
      exact .infinity he (congrArg BitVec.toNat hzero)
    · rw [if_neg hzero]
      exact .notANumber he fun hf => hzero (BitVec.eq_of_toNat_eq hf)
  rw [if_neg htop]
  by_cases hleast : @unpackExponent Format.binary64 b = 0#_
  · have he : storedExponent b = 0 := congrArg BitVec.toNat hleast
    rw [if_pos hleast]
    by_cases hzero : @unpackMantissa Format.binary64 b = 0#_
    · rw [dif_pos hzero]
      exact .zero he (congrArg BitVec.toNat hzero)
    · rw [dif_neg hzero]
      show Composed _ _ _ (.finite _ _ ((storedExponent b : Int) - (1023 + 52) + 1) _)
      rw [he]
      exact .subnormal rfl
  · have hlt := storedExponent_lt b
    have he : storedExponent b ≠ 0 := fun h => hleast (BitVec.eq_of_toNat_eq h)
    have he' : storedExponent b ≠ 2047 := fun h => htop (BitVec.eq_of_toNat_eq h)
    rw [if_neg hleast]
    refine .normal (by omega) ?_ rfl
    rw [BitVec.toNat_append]
    exact (Nat.shiftLeft_add_eq_or_of_lt (storedFraction_lt b) 1).symm

/-- The mantissa and the exponent of a finite double. -/
theorem bounds_of_unpack {x : Float.Model} {s : Sign} {m : Nat} {q : Int} {hm : 0 < m}
    (h : x.unpack = .finite s m q hm) :
    m < 2 ^ 53 ∧ -1074 ≤ q ∧ q ≤ 971 ∧ (2 ^ 52 ≤ m ∨ q = -1074) := by
  have hlt := storedFraction_lt x.toBits.toBitVec
  have hcomposed : Composed _ _ _ x.unpack := composed_unpack x.toBits.toBitVec
  rw [h] at hcomposed
  cases hcomposed with
  | subnormal he => omega
  | normal he hf hq => omega

/-! ### Packing -/

section
variable {m : Nat} {q : Int}

theorem log2_eq (hlow : 2 ^ 52 ≤ m) (hlt : m < 2 ^ 53) : m.log2 = 52 :=
  (Nat.log2_eq_iff (by omega)).mpr ⟨hlow, hlt⟩

theorem pack_finite (s : Sign) (hm : 0 < m) (hlt : m < 2 ^ 53) (hlow : -1074 ≤ q) (htop : q ≤ 971) :
    UnpackedFloat.pack Format.binary64 (.finite s m q hm) =
      packComponents Format.binary64 s
        (BitVec.ofNat 11 (if 2 ^ 52 ≤ m then (q + 1075).toNat else 0)) (BitVec.ofNat 52 m) := by
  have hq : (q + Format.binary64.exponentBias + Format.binary64.mantissaBitsWithoutImplicit).toNat =
      (q + 1075).toNat := by
    show (q + 1023 + 52).toNat = _
    omega
  unfold UnpackedFloat.pack
  dsimp only
  rw [hq, if_neg (by show ¬ 2048 ≤ (q + 1075).toNat + 1; omega)]
  show (if m.log2 + 1 = 53 then _ else _) = _
  by_cases h : 2 ^ 52 ≤ m
  · rw [if_pos (by rw [log2_eq h hlt]), if_pos h]
  · rw [if_neg fun hlog => h ((Nat.le_log2 (Nat.ne_of_gt hm)).mp (by omega)), if_neg h]

/-- A mantissa comes back with its exponent, or with the least one if it is short of bits. -/
theorem unpack_pack_finite (s : Sign) (hm : 0 < m) (hlt : m < 2 ^ 53) (hlow : -1074 ≤ q)
    (htop : q ≤ 971) :
    (Float.Model.pack (.finite s m q hm)).unpack =
      .finite s m (if 2 ^ 52 ≤ m then q else -1074) hm := by
  show UnpackedFloat.unpack Format.binary64 (UnpackedFloat.pack Format.binary64 _) = _
  rw [pack_finite s hm hlt hlow htop]
  have hcomposed := composed_unpack (packComponents Format.binary64 s
    (BitVec.ofNat 11 (if 2 ^ 52 ≤ m then (q + 1075).toNat else 0)) (BitVec.ofNat 52 m))
  rw [storedSign_packComponents, storedExponent_packComponents, storedFraction_packComponents,
    BitVec.toNat_ofNat, BitVec.toNat_ofNat] at hcomposed
  generalize UnpackedFloat.unpack _ _ = u at hcomposed ⊢
  generalize hf : m % 2 ^ 52 = f at hcomposed
  by_cases h : 2 ^ 52 ≤ m
  · rw [if_pos h] at hcomposed ⊢
    cases hcomposed with
    | infinity he _ | notANumber he _ | zero he _ | subnormal he => omega
    | @normal m' q' _ _ hm' hq' =>
      obtain rfl : m' = m := by omega
      obtain rfl : q' = q := by omega
      rfl
  · rw [if_neg h] at hcomposed ⊢
    cases hcomposed with
    | infinity he _ | notANumber he _ => cases he
    | zero _ hzero => omega
    | normal he _ _ => omega
    | subnormal _ =>
      obtain rfl : f = m := by omega
      rfl

end

/-- Every double is what its parts are packed to. There is one that is no number. -/
theorem pack_unpack (x : Float.Model) : Float.Model.pack x.unpack = x := by
  obtain ⟨⟨b⟩, hvalid⟩ := x
  have hbits {b' : BitVec 64} (h : b' = b) (hvalid' : Format.binary64.Valid b') :
      (⟨⟨b'⟩, hvalid'⟩ : Float.Model) = ⟨⟨b⟩, hvalid⟩ := by
    subst h
    rfl
  refine hbits ?_ _
  show UnpackedFloat.pack Format.binary64 (UnpackedFloat.unpack Format.binary64 b) = b
  have hlt := storedFraction_lt b
  have hcomposed := composed_unpack b
  generalize UnpackedFloat.unpack Format.binary64 b = u at hcomposed ⊢
  cases hcomposed with
  | infinity he hf | zero he hf => exact packComponents_stored he hf
  | notANumber he hf =>
    exact (hvalid.eq_packedNaN (BitVec.eq_of_toNat_eq he)
      fun h => hf (congrArg BitVec.toNat h)).symm
  | subnormal he =>
    rw [pack_finite _ _ (by omega) (by decide) (by decide), if_neg (by omega)]
    refine packComponents_stored he ?_
    rw [BitVec.toNat_ofNat]
    omega
  | normal he hf hq =>
    rw [pack_finite _ _ (by omega) (by omega) (by omega), if_pos (by omega)]
    refine packComponents_stored ?_ ?_
    · rw [BitVec.toNat_ofNat]
      omega
    · rw [BitVec.toNat_ofNat]
      omega

theorem eq_of_unpack_eq {x y : Float} (h : x.toModel.unpack = y.toModel.unpack) : x = y := by
  obtain ⟨x⟩ := x
  obtain ⟨y⟩ := y
  have hpack : Float.Model.pack x.unpack = Float.Model.pack y.unpack := congrArg Float.Model.pack h
  rw [pack_unpack, pack_unpack] at hpack
  rw [hpack]

/-! ### Reading the bits -/

/-- Whether a sign is that of the negative numbers. -/
def isNegative : Sign → Bool
  | .negative => true
  | .positive => false

theorem isNegative_storedSign (b : BitVec 64) :
    isNegative (storedSign b) = decide (2 ^ 63 ≤ b.toNat) := by
  have hb := b.isLt
  have h := toNat_storedSign b
  cases hs : storedSign b with
  | negative =>
    rw [hs, show Sign.negative.toBitVec.toNat = 1 from rfl] at h
    exact (decide_eq_true (by omega)).symm
  | positive =>
    rw [hs, show Sign.positive.toBitVec.toNat = 0 from rfl] at h
    exact (decide_eq_false (by omega)).symm

namespace Binary

/-- What the parts of a double stand for. -/
def ofUnpacked : UnpackedFloat → Binary
  | .notANumber => .notANumber
  | .infinity s => .infinite (isNegative s)
  | .zero s => .finite (isNegative s) 0 leastExponent
  | .finite s m q _ => .finite (isNegative s) m q

theorem ofFloat_eq (x : Float) : ofFloat x = ofUnpacked x.toModel.unpack := by
  have hcomposed : Composed _ _ _ x.toModel.unpack := composed_unpack x.toModel.toBits.toBitVec
  have hsign : decide (signBit ≤ x.toBits.toNat) =
      isNegative (storedSign x.toModel.toBits.toBitVec) := (isNegative_storedSign _).symm
  have hexponent : x.toBits.toNat % signBit / hiddenBit =
      storedExponent x.toModel.toBits.toBitVec := (storedExponent_eq _).symm
  have hfraction : x.toBits.toNat % hiddenBit = storedFraction x.toModel.toBits.toBitVec :=
    (storedFraction_eq _).symm
  have htop : topExponent = 2047 := rfl
  unfold ofFloat
  dsimp only
  rw [hsign, hexponent, hfraction, htop]
  generalize x.toModel.unpack = u at hcomposed ⊢
  cases hcomposed with
  | infinity he hf =>
    rw [if_pos he, if_pos hf]
    rfl
  | notANumber he hf =>
    rw [if_pos he, if_neg hf]
    rfl
  | zero he hf =>
    rw [he, hf]
    rfl
  | subnormal he =>
    rw [he]
    rfl
  | normal he hf hq =>
    subst hf hq
    rw [if_neg (Nat.ne_of_lt he.2), if_neg (Nat.ne_of_gt he.1)]
    show finite _ _ (-1074 + _) = finite _ _ _
    congr 1
    omega

/-- The mantissa and the exponent that are read. -/
theorem bounds_of_finite {x : Float} {negative : Bool} {m : Nat} {q : Int}
    (h : Binary.ofFloat x = .finite negative m q) : m ≤ 2 ^ 53 - 1 ∧ q ≤ 971 := by
  rw [ofFloat_eq] at h
  cases hx : x.toModel.unpack with
  | infinity s | notANumber =>
    rw [hx] at h
    cases h
  | zero s =>
    rw [hx] at h
    cases h
    decide
  | finite s m' q' hm' =>
    rw [hx] at h
    cases h
    obtain ⟨hlt, -, htop, -⟩ := bounds_of_unpack hx
    exact ⟨Nat.le_sub_one_of_lt hlt, htop⟩

end Binary
end Reckoner.Number
