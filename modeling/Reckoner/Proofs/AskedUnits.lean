import Mathlib.Data.List.Forall2
import Reckoner.Proofs.Batch

/-!
# Units that are asked for

A run that is asked to convert looks for the two units before it looks at any expression. It refuses
if one of them cannot be found or if they measure different dimensions (`unsuited_or_suited`), and
says the first of these things that is wrong, whatever the expressions are
(`Unsuited.unitsOf_eq`). A job therefore only ever converts between units of one dimension
(`Command.dimension_eq_of_job`).
-/

namespace Reckoner.CommandLine

/-- What is wrong with the names of two units, if something is: the first is not found, or the
second, or they do not go together. -/
inductive Unsuited (source target : String) : ConversionError → Prop
  | source {e : ConversionError}
      (hu : (catalog.find source none : Except _ (MeasureUnit Float)) = .error e) :
      Unsuited source target e
  | target {u : MeasureUnit Float} {e : ConversionError} (hu : catalog.find source none = .ok u)
      (hv : (catalog.find target none : Except _ (MeasureUnit Float)) = .error e) :
      Unsuited source target e
  | apart {u v : MeasureUnit Float} (hu : catalog.find source none = .ok u)
      (hv : catalog.find target none = .ok v) (hne : u.dimension ≠ v.dimension) :
      Unsuited source target (.differentDimensions u.name u.dimension v.name v.dimension)

/-- The names mean two units of one dimension. -/
structure Suited (source target : String) (u v : MeasureUnit Float) : Prop where
  source : catalog.find source none = .ok u
  target : catalog.find target none = .ok v
  dimension_eq : u.dimension = v.dimension

section
variable {source target : String} {e : ConversionError} {u v : MeasureUnit Float}

theorem unitsOf_of_find (hu : catalog.find source none = .ok u)
    (hv : catalog.find target none = .ok v) :
    unitsOf (some (source, target)) =
      if u.dimension = v.dimension then .ok (some (u, v))
      else .error (.differentDimensions u.name u.dimension v.name v.dimension) := by
  rw [unitsOf, hu]
  show Except.bind _ _ = _
  rw [hv]
  rfl

theorem Unsuited.unitsOf_eq (h : Unsuited source target e) :
    unitsOf (some (source, target)) = .error e := by
  cases h with
  | source hu =>
    rw [unitsOf, hu]
    rfl
  | target hu hv =>
    rw [unitsOf, hu]
    show Except.bind _ _ = _
    rw [hv]
    rfl
  | apart hu hv hne => rw [unitsOf_of_find hu hv, if_neg hne]

theorem Suited.unitsOf_eq (h : Suited source target u v) :
    unitsOf (some (source, target)) = .ok (some (u, v)) := by
  rw [unitsOf_of_find h.source h.target, if_pos h.dimension_eq]

/-- Two names either mean units of one dimension or there is one thing that is wrong with them. -/
theorem unsuited_or_suited (source target : String) :
    (∃ e, Unsuited source target e) ∨ ∃ u v, Suited source target u v := by
  cases hu : (catalog.find source none : Except _ (MeasureUnit Float)) with
  | error e => exact .inl ⟨e, .source hu⟩
  | ok u =>
    cases hv : (catalog.find target none : Except _ (MeasureUnit Float)) with
    | error e => exact .inl ⟨e, .target hu hv⟩
    | ok v =>
      by_cases hne : u.dimension = v.dimension
      · exact .inr ⟨u, v, hu, hv, hne⟩
      · exact .inl ⟨_, .apart hu hv hne⟩

end

namespace Command
variable {c : Command} {j : Job} {source target : String} {u v : MeasureUnit Float}
  {e : ConversionError}

theorem job_of_unsuited (hconvert : c.settings.convert = some (source, target))
    (h : Unsuited source target e) : c.job = .error e := by
  rw [job, hconvert, h.unitsOf_eq]
  rfl

theorem job_of_suited (hconvert : c.settings.convert = some (source, target))
    (h : Suited source target u v) :
    c.job = .ok ⟨c.calculator, some (u, v), c.settings.precision, c.settings.verbose⟩ := by
  rw [job, hconvert, h.unitsOf_eq]
  rfl

theorem dimension_eq_of_job (h : c.job = .ok j) (hj : j.units = some (u, v)) :
    u.dimension = v.dimension := by
  obtain ⟨units, hunits, rfl⟩ := job_eq_ok_iff.mp h
  cases hj
  cases hconvert : c.settings.convert with
  | none =>
    rw [hconvert] at hunits
    cases hunits
  | some names =>
    obtain ⟨source, target⟩ := names
    rcases unsuited_or_suited source target with ⟨e, hunsuited⟩ | ⟨u', v', hsuited⟩
    · rw [hconvert, hunsuited.unitsOf_eq] at hunits
      cases hunits
    · rw [hconvert, hsuited.unitsOf_eq] at hunits
      cases hunits
      exact hsuited.dimension_eq

/-- What a command that converts `u` to `v` shows of an expression: its value in `v`, rounded if the
command says so, or what is wrong with it. -/
inductive Shows (c : Command) (u v : MeasureUnit Float) : String → Line → Prop
  | value {text : String} {x y : Float}
      (hx : c.calculator.evaluate (withoutNewlines text) = .ok x)
      (hy : c.settings.precision.elim (some (u.convert v x))
        (Number.roundPlaces? (u.convert v x)) = some y) :
      Shows c u v text (.answer (Number.written y))
  | invalid {text : String} {e : ExpressionError Operation}
      (he : c.calculator.evaluate (withoutNewlines text) = .error e) :
      Shows c u v text (.message e.message)

theorem shows_of_line? {text : String} {line : Line} {verbose : Bool}
    (h : Job.line? ⟨c.calculator, some (u, v), c.settings.precision, verbose⟩ text = some line) :
    c.Shows u v text line := by
  unfold Job.line? at h
  simp only at h
  cases he : c.calculator.evaluate (withoutNewlines text) with
  | error e =>
    rw [he] at h
    cases h
    exact .invalid he
  | ok x =>
    rw [he] at h
    obtain ⟨y, hy, rfl⟩ := Option.map_eq_some_iff.mp h
    refine .value he ?_
    rw [← hy]
    cases c.settings.precision <;> rfl

end Command

/-- A run that converts without a log either says what is wrong with the two units and does nothing
else, or shows values of one of them in the other, which are of one dimension; no command has a job
with units of two. -/
theorem run_converting (around : Surroundings) {words : List String} {c : Command}
    {source target : String} (hread : Command.read around.angleMode words = .ok c)
    (htask : c.settings.task = none) (hverbose : c.settings.verbose = false)
    (hconvert : c.settings.convert = some (source, target)) :
    ((∃ e, Unsuited source target e) ∨ ∃ u v, Suited source target u v) ∧
    (∀ e, Unsuited source target e → (run around words).answers = "" ∧
      (run around words).messages = e.message ++ "\n" ∧
      (run around words).ending.exitCode = 2) ∧
    (∀ u v, Suited source target u v → ∃ done, done <+: c.settings.texts around ∧
      List.Forall₂ (c.Shows u v) done (run around words).lines ∧
      (run around words).ending =
        if done = c.settings.texts around then c.settings.lastEnding around else .overflowed) ∧
    ∀ j u v, c.job = .ok j → j.units = some (u, v) → u.dimension = v.dimension := by
  have hrun : run around words = c.run around := by rw [run, hread]
  refine ⟨unsuited_or_suited source target, fun e h => ?_, fun u v h => ?_,
    fun j u v => Command.dimension_eq_of_job⟩
  · have hreport : c.run around = ⟨[.message e.message], .refused⟩ := by
      rw [Command.run, htask]
      simp only [Command.evaluate, Command.job_of_unsuited hconvert h]
    rw [hrun, hreport]
    refine ⟨rfl, ?_, rfl⟩
    simp [Report.messages, Report.unlines]
  · have hjob := Command.job_of_suited hconvert h
    rw [hrun, Command.run_eq_report htask hjob, Job.report_eq hverbose]
    refine ⟨_, List.takeWhile_prefix _, ?_, rfl⟩
    have hlines := Job.map_line?_served
      ⟨c.calculator, some (u, v), c.settings.precision, c.settings.verbose⟩ (c.settings.texts around)
    rw [← List.forall₂_eq_eq_eq, List.forall₂_map_left_iff, List.forall₂_map_right_iff] at hlines
    exact hlines.imp fun _ _ => Command.shows_of_line?

/-- A length is no mass, whatever is wrong with the expression. -/
theorem run_converting_inch_gram :
    let words := ["-c", "inch", "gram", "-e", "2+"]
    let c : Command :=
      ⟨{ convert := some ("inch", "gram"), expressions := some ["2+"] }, .degrees⟩
    let e : ConversionError := .differentDimensions "Inch" .length "Gram" .mass
    Command.read none words = .ok c ∧ c.settings.task = none ∧ c.settings.verbose = false ∧
    c.settings.convert = some ("inch", "gram") ∧ Unsuited "inch" "gram" e ∧
    (run {} words).answers = "" ∧ (run {} words).messages = e.message ++ "\n" ∧
    (run {} words).ending.exitCode = 2 := by
  intro words c e
  have hread : Command.read none words = .ok c := by decide +kernel
  have hfind : ∀ {text name : String} {d : Dimension},
      ((catalog.find text none : Except _ (MeasureUnit Float)).map fun u => (u.name, u.dimension)) =
        .ok (name, d) →
      ∃ u : MeasureUnit Float, catalog.find text none = .ok u ∧ u.name = name ∧ u.dimension = d := by
    intro text name d h
    cases hu : (catalog.find text none : Except _ (MeasureUnit Float)) with
    | error e =>
      rw [hu] at h
      cases h
    | ok u =>
      rw [hu] at h
      cases h
      exact ⟨u, rfl, rfl, rfl⟩
  have hunsuited : Unsuited "inch" "gram" e := by
    obtain ⟨u, hu, huname, hudimension⟩ : ∃ u : MeasureUnit Float,
        catalog.find "inch" none = .ok u ∧ u.name = "Inch" ∧ u.dimension = .length :=
      hfind (by decide +kernel)
    obtain ⟨v, hv, hvname, hvdimension⟩ : ∃ v : MeasureUnit Float,
        catalog.find "gram" none = .ok v ∧ v.name = "Gram" ∧ v.dimension = .mass :=
      hfind (by decide +kernel)
    have hne : u.dimension ≠ v.dimension := by
      rw [hudimension, hvdimension]
      decide
    have h := Unsuited.apart hu hv hne
    rwa [huname, hudimension, hvname, hvdimension] at h
  obtain ⟨-, hrefused, -, -⟩ := run_converting {} hread rfl rfl rfl
  exact ⟨hread, rfl, rfl, rfl, hunsuited, hrefused e hunsuited⟩

end Reckoner.CommandLine
