import Reckoner.Proofs.Batch
import Reckoner.Proofs.FiniteDoubles

/-!
# Runs that round

Rounding to places in front of the point can take a double above the largest one. It does so at nine
places (`overflowing`); rounded to any other, every double stays a double (`roundPlaces?_ne_none`).
So a run with a precision that is none of the nine deals with all of its expressions, whatever their
values are, and for each of the nine there is a run that does not (`rounding_run_completes_iff`).
-/

namespace Reckoner
namespace Number

/-- The largest double. -/
@[irreducible]
def largest : Nat := (2 ^ 53 - 1) * 2 ^ 971

/-- The places to which the largest double cannot be rounded. -/
def overflowing : List Int := [-308, -307, -306, -305, -304, -299, -298, -294, -293]

section
variable {x : Float} {negative : Bool} {m n units : Nat} {q k : Int}

/-- What rounding to `n` places in front of the point makes of the largest double. -/
theorem rounded_largest_lt (n : Fin 309) (h : -(n : Int) ∉ overflowing) :
    (2 * largest + 10 ^ n.val) / (2 * 10 ^ n.val) * 10 ^ n.val < overflowBound := by
  revert n
  decide +kernel

theorem largest_lt : largest < overflowBound := by
  have h := rounded_largest_lt 0 (by decide)
  simp only [Fin.val_zero, pow_zero, Nat.mul_one] at h
  omega

theorem le_largest (h : Binary.ofFloat x = .finite negative m q) : m * 2 ^ q.toNat ≤ largest := by
  obtain ⟨hm, hq⟩ := Binary.bounds_of_finite h
  have hle : ∀ n, q.toNat ≤ n → m * 2 ^ q.toNat ≤ (2 ^ 53 - 1) * 2 ^ n := fun n hn =>
    Nat.mul_le_mul hm (Nat.pow_le_pow_right (by decide) hn)
  unfold largest
  exact hle 971 (Int.toNat_le.mpr hq)

/-- The number of units is at most half above that of the largest double. -/
theorem units_near (h : Binary.ofFloat x = .finite negative m q) (k : Int) :
    2 * (((Quotient.ofBinary m q).scale k).round * 10 ^ (-k).toNat) ≤
      2 * (largest * 10 ^ k.toNat) + 10 ^ (-k).toNat := by
  have hpos : 0 < 2 ^ (-q).toNat := Nat.two_pow_pos _
  have hpos' : 0 < 10 ^ (-k).toNat := Nat.pow_pos (by decide)
  have hnear := (Quotient.round_near ((Quotient.ofBinary m q).scale k) (Nat.mul_pos hpos hpos')).1
  generalize ((Quotient.ofBinary m q).scale k).round = units at hnear ⊢
  change 2 * (units * (2 ^ (-q).toNat * 10 ^ (-k).toNat)) ≤
    2 * (m * 2 ^ q.toNat * 10 ^ k.toNat) + 2 ^ (-q).toNat * 10 ^ (-k).toNat at hnear
  refine Nat.le_of_mul_le_mul_left ?_ hpos
  calc 2 ^ (-q).toNat * (2 * (units * 10 ^ (-k).toNat))
      = 2 * (units * (2 ^ (-q).toNat * 10 ^ (-k).toNat)) := by ac_rfl
    _ ≤ 2 * (m * 2 ^ q.toNat * 10 ^ k.toNat) + 2 ^ (-q).toNat * 10 ^ (-k).toNat := hnear
    _ ≤ 2 ^ (-q).toNat * (2 * (largest * 10 ^ k.toNat)) + 2 ^ (-q).toNat * 10 ^ (-k).toNat := by
      refine Nat.add_le_add_right (Nat.le_trans ?_ (Nat.le_mul_of_pos_left _ hpos)) _
      exact Nat.mul_le_mul_left 2 (Nat.mul_le_mul_right _ (le_largest h))
    _ = 2 ^ (-q).toNat * (2 * (largest * 10 ^ k.toNat) + 10 ^ (-k).toNat) := (Nat.mul_add ..).symm

/-- To places that are none of the nine, no double is rounded above the bound. -/
theorem units_lt (hx : Binary.ofFloat x = .finite negative m q) (hleast : leastPlaces ≤ k)
    (hk : k ∉ overflowing) :
    ((Quotient.ofBinary m q).scale k).round * 10 ^ (-k).toNat < overflowBound * 10 ^ k.toNat := by
  have hnear := units_near hx k
  generalize ((Quotient.ofBinary m q).scale k).round = units at hnear ⊢
  rcases Int.le_total 0 k with h | h
  · rw [show (-k).toNat = 0 by omega, pow_zero, Nat.mul_one] at hnear ⊢
    have hlt : largest * 10 ^ k.toNat < overflowBound * 10 ^ k.toNat :=
      Nat.mul_lt_mul_of_pos_right largest_lt (Nat.pow_pos (by decide))
    omega
  · obtain ⟨n, rfl⟩ := Int.exists_eq_neg_ofNat h
    rw [Int.neg_neg, Int.toNat_natCast, show (-(n : Int)).toNat = 0 by omega, pow_zero,
      Nat.mul_one] at hnear ⊢
    have hn : n < 309 := by
      unfold leastPlaces at hleast
      omega
    refine Nat.lt_of_le_of_lt (Nat.mul_le_mul_right _ ?_) (rounded_largest_lt ⟨n, hn⟩ hk)
    rw [Nat.le_div_iff_mul_le (Nat.mul_pos (by decide) (Nat.pow_pos (by decide)))]
    rwa [Nat.mul_left_comm]

theorem ofUnits_ne_infinite (h : units * 10 ^ (-k).toNat < overflowBound * 10 ^ k.toNat) :
    Binary.ofFloat (ofUnits units k) ≠ .infinite negative := by
  unfold ofUnits
  split
  · next hk =>
    rw [show (-k).toNat = 0 by omega, pow_zero, Nat.mul_one] at h
    exact ofScientific_neg_ne_infinite h negative
  · next hk =>
    rw [show k.toNat = 0 by omega, pow_zero, Nat.mul_one, show (-k).toNat = k.natAbs by omega]
      at h
    exact ofScientific_ne_infinite h negative

theorem roundPlaces?_ne_none (hk : k ∉ overflowing) (x : Float) : roundPlaces? x k ≠ none := by
  unfold roundPlaces?
  split
  · next negative m q hx =>
    split
    · exact Option.some_ne_none _
    · dsimp only
      split
      · exact Option.some_ne_none _
      · next hleast =>
        have hleast := Int.not_lt.mp hleast
        split
        · next h => exact absurd h (ofUnits_ne_infinite (units_lt hx hleast hk))
        · exact Option.some_ne_none _
  · exact Option.some_ne_none _

end
end Number

namespace CommandLine
open Number

/-! ### Runs -/

/-- A run that evaluates deals with all of its expressions: each has its line, the lines are written
in turn, and the run ends as it does when nothing goes wrong. -/
structure Completes (c : Command) (j : Job) (around : Surroundings) : Prop where
  line : ∀ text ∈ c.settings.texts around, (j.line? text).isSome = true
  lines : (c.run around).lines = (c.settings.texts around).flatMap j.allLines
  ending : (c.run around).ending = c.settings.lastEnding around
  exitCode : around.interrupts = false → (c.run around).ending.exitCode = 0

theorem Completes.of_line {c : Command} {j : Job} {around : Surroundings}
    (htask : c.settings.task = none) (hjob : c.job = .ok j)
    (hline : ∀ text ∈ c.settings.texts around, (j.line? text).isSome = true) :
    Completes c j around := by
  have hrun := Command.run_eq_report htask hjob around
  rw [Job.report_of_forall_isSome hline] at hrun
  refine ⟨hline, by rw [hrun], by rw [hrun], fun h => ?_⟩
  rw [hrun]
  simp [Settings.lastEnding, h, Ending.exitCode]

namespace Job
variable {j : Job}

theorem rounded?_ne_none (hk : ∀ k ∈ j.precision, k ∉ overflowing) (x : Float) :
    j.rounded? x ≠ none := by
  unfold rounded?
  split
  · exact Option.some_ne_none _
  · next k h => exact roundPlaces?_ne_none (hk k h) x

/-- Every expression has its line. -/
theorem isSome_line? (hk : ∀ k ∈ j.precision, k ∉ overflowing) (text : String) :
    (j.line? text).isSome = true := by
  rw [Option.isSome_iff_ne_none, ne_eq, line?_eq_none_iff]
  rintro ⟨x, -, hx⟩
  exact rounded?_ne_none hk _ hx

end Job

/-- An expression for the largest double. -/
def largestText : String := "4425664050.714681/ℎ/ℎ/ℎ/ℎ/ℎ/ℎ/ℎ/ℎ/ℎ"

theorem evaluate_largestText :
    let c : Calculator Operation := .new .degrees .catalog
    ∃ x, c.evaluate (withoutNewlines largestText) = .ok x ∧
      ∀ k ∈ overflowing, roundPlaces? x k = none := by
  intro c
  obtain ⟨heval, hround⟩ :
      (c.evaluate (withoutNewlines largestText)).toOption = some 1.7976931348623157e308 ∧
      ∀ k ∈ overflowing, roundPlaces? 1.7976931348623157e308 k = none := by decide +kernel
  cases hx : c.evaluate (withoutNewlines largestText) with
  | error e =>
    rw [hx] at heval
    cases heval
  | ok x =>
    rw [hx] at heval
    refine ⟨x, rfl, fun k hk => ?_⟩
    rw [Option.some.inj heval]
    exact hround k hk

theorem line?_largestText {k : Int} (hk : k ∈ overflowing) :
    Job.line? ⟨.new .degrees .catalog, none, some k, false⟩ largestText = none := by
  obtain ⟨x, hx, hround⟩ := evaluate_largestText
  exact Job.line?_eq_none_iff.mpr ⟨x, hx, hround k hk⟩

/-- Whether all runs with a given precision deal with all of their expressions, whatever their
values are, is a matter of the precision alone: they do but for nine precisions. -/
theorem rounding_run_completes_iff {k : Int} :
    (∀ (c : Command) (j : Job) (around : Surroundings), c.settings.task = none →
      c.settings.precision = some k → c.job = .ok j → Completes c j around) ↔
    k ∉ overflowing := by
  constructor
  · intro h hk
    let c : Command := ⟨{ precision := some k, expressions := some [largestText] }, .degrees⟩
    have hline := (h c _ {} rfl rfl rfl).line largestText (List.mem_singleton_self _)
    exact absurd (line?_largestText hk) (Option.isSome_iff_ne_none.mp hline)
  · intro hk c j around htask hprecision hjob
    refine .of_line htask hjob fun text _ => Job.isSome_line? ?_ text
    obtain ⟨units, -, rfl⟩ := Command.job_eq_ok_iff.mp hjob
    show ∀ k' ∈ c.settings.precision, k' ∉ overflowing
    rw [hprecision]
    exact fun k' h => Option.mem_some_iff.mp h ▸ hk

/-- The value of the first of two expressions ends the run, with an error, and the second one, which
has a line, is not dealt with. -/
theorem rounding_run_overflows :
    let words := ["-k", "-308", "-e", largestText, "1"]
    let c : Command :=
      ⟨{ precision := some (-308), expressions := some [largestText, "1"] }, .degrees⟩
    let j : Job := ⟨.new .degrees .catalog, none, some (-308), false⟩
    Command.read none words = .ok c ∧ c.job = .ok j ∧ j.line? "1" = some (.answer "0.0") ∧
    run {} words = ⟨[], .overflowed⟩ ∧ (run {} words).ending.exitCode = 1 ∧
    ¬ Completes c j {} := by
  intro words c j
  let around : Surroundings := {}
  obtain ⟨hread, hone⟩ : Command.read around.angleMode words = .ok c ∧
      j.line? "1" = some (.answer "0.0") := by decide +kernel
  have hline : j.line? largestText = none := line?_largestText (by decide)
  have hjob : c.job = .ok j := rfl
  have hrun : run around words = ⟨[], .overflowed⟩ := by
    rw [run_of_read hread, Command.run_eq_report rfl hjob around]
    show j.report .finished [largestText, "1"] = _
    rw [Job.report_cons_of_none hline, Job.allLines_of_quiet rfl, hline]
    rfl
  refine ⟨hread, hjob, hone, hrun, by rw [hrun]; rfl, fun h => ?_⟩
  exact absurd hline (Option.isSome_iff_ne_none.mp (h.line _ (.head _)))

end CommandLine
end Reckoner
