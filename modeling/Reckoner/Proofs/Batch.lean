import Mathlib.Data.List.Basic
import Reckoner.CommandLine.Run
import Reckoner.Proofs.OneLine

/-!
# Runs over expressions

What a run writes of an expression is read off the expression and the job alone (`Job.line?`): its
value or what is wrong with it, in one line either way, or nothing if its rounded value is too large.
A run writes these lines in turn up to the first expression without one, at which it ends
(`Job.report_append`, `Job.report_eq`).
-/

namespace Reckoner.CommandLine

/-! ### Lines and streams -/

namespace Line

/-- What a line says. -/
def text : Line → String
  | answer text | message text => text

/-- What a line adds to the output. -/
def out : Line → String
  | answer text => text ++ "\n"
  | message _ => ""

/-- What a line adds to the messages. -/
def err : Line → String
  | answer _ => ""
  | message text => text ++ "\n"

end Line

namespace Report

end Report

/-! ### Jobs -/

namespace Job
variable {j : Job} {ending : Ending} {expression : String} {done rest texts : List String}

/-- The line of an expression: its value, converted and rounded, or what is wrong with it. There is
none if the value cannot be rounded. -/
def line? (j : Job) (expression : String) : Option Line :=
  match j.calculator.evaluate (withoutNewlines expression) with
  | .error e => some (.message e.message)
  | .ok x => (j.rounded? (j.converted x)).map fun y => .answer (Number.written y)

theorem line?_eq_none_iff : j.line? expression = none ↔
    ∃ x, j.calculator.evaluate (withoutNewlines expression) = .ok x ∧
      j.rounded? (j.converted x) = none := by
  unfold line?
  cases j.calculator.evaluate (withoutNewlines expression) with
  | error e => simp
  | ok x => simp

/-- The expressions in front of the first one without a line. -/
def served (j : Job) (texts : List String) : List String :=
  texts.takeWhile fun text => (j.line? text).isSome

/-- All lines of an expression: what a log says of it, if there is one, and its own line. -/
def allLines (j : Job) (expression : String) : List Line :=
  (if j.verbose then j.log (withoutNewlines expression) else []) ++ (j.line? expression).toList

theorem allLines_of_quiet (hv : j.verbose = false) (expression : String) :
    j.allLines expression = (j.line? expression).toList := by
  simp [allLines, hv]

theorem report_cons_of_isSome (h : (j.line? expression).isSome = true) (rest : List String) :
    j.report ending (expression :: rest) =
      (j.report ending rest).prepend (j.allLines expression) := by
  rw [report]
  unfold allLines
  unfold line? at h ⊢
  unfold verdict
  cases he : j.calculator.evaluate (withoutNewlines expression) with
  | error e => rfl
  | ok x =>
    rw [he] at h
    obtain ⟨y, hy⟩ := Option.isSome_iff_exists.mp ((Option.isSome_map ..).symm.trans h)
    simp only [hy]
    rfl

theorem report_cons_of_none (h : j.line? expression = none) (rest : List String) :
    j.report ending (expression :: rest) = ⟨j.allLines expression, .overflowed⟩ := by
  obtain ⟨x, hx, hround⟩ := line?_eq_none_iff.mp h
  rw [report, allLines, h]
  unfold verdict
  simp only [hx, hround]
  rfl

/-- A run writes the lines of each expression that has one of its own and goes on behind them. -/
theorem report_append (h : ∀ text ∈ done, (j.line? text).isSome = true) :
    j.report ending (done ++ rest) = (j.report ending rest).prepend (done.flatMap j.allLines) := by
  induction done with
  | nil => rfl
  | cons text done ih =>
    obtain ⟨htext, hdone⟩ := List.forall_mem_cons.mp h
    rw [List.cons_append, report_cons_of_isSome htext, ih hdone, List.flatMap_cons]
    simp only [Report.prepend, List.append_assoc]

theorem report_of_forall_isSome (h : ∀ text ∈ texts, (j.line? text).isSome = true) :
    j.report ending texts = ⟨texts.flatMap j.allLines, ending⟩ := by
  have happend : j.report ending (texts ++ []) = _ := report_append h
  rw [List.append_nil] at happend
  simpa [report, Report.prepend] using happend

theorem isSome_of_mem_served : ∀ text ∈ j.served texts, (j.line? text).isSome = true :=
  List.all_eq_true.mp (List.all_takeWhile ..)

theorem report_eq (hv : j.verbose = false) (ending : Ending) (texts : List String) :
    j.report ending texts = ⟨(j.served texts).filterMap j.line?,
      if j.served texts = texts then ending else .overflowed⟩ := by
  have hserved : ∀ text ∈ j.served texts, (j.line? text).isSome = true := isSome_of_mem_served
  generalize hrest : texts.dropWhile (fun text => (j.line? text).isSome) = rest
  have hsplit : j.served texts ++ rest = texts := by
    rw [← hrest]
    exact List.takeWhile_append_dropWhile
  have happend : j.report ending (j.served texts ++ rest) = _ := report_append hserved
  rw [hsplit, funext (allLines_of_quiet hv), ← List.filterMap_eq_flatMap_toList] at happend
  rw [happend]
  cases rest with
  | nil =>
    rw [List.append_nil] at hsplit
    rw [if_pos hsplit]
    simp [report, Report.prepend]
  | cons text rest =>
    have hnone : j.line? text = none := by
      have := List.head?_dropWhile_not (fun text => (j.line? text).isSome) texts
      rw [hrest] at this
      simpa using this
    have hne : j.served texts ≠ texts := fun h => by
      rw [h] at hsplit
      exact absurd hsplit (by simp)
    rw [report_cons_of_none hnone, allLines_of_quiet hv, hnone, if_neg hne]
    simp [Report.prepend]

/-- Every expression that is served has its line. -/
theorem map_line?_served (j : Job) (texts : List String) :
    (j.served texts).map j.line? = ((j.served texts).filterMap j.line?).map some := by
  have h : ∀ text ∈ j.served texts, (j.line? text).isSome = true := isSome_of_mem_served
  generalize j.served texts = done at h ⊢
  induction done with
  | nil => rfl
  | cons text done ih =>
    obtain ⟨htext, hdone⟩ := List.forall_mem_cons.mp h
    obtain ⟨line, hline⟩ := Option.isSome_iff_exists.mp htext
    rw [List.map_cons, List.filterMap_cons_some hline, List.map_cons, hline, ih hdone]

end Job

/-! ### Commands -/

theorem Command.job_eq_ok_iff {c : Command} {j : Job} :
    c.job = .ok j ↔ ∃ units, unitsOf c.settings.convert = .ok units ∧
      j = ⟨c.calculator, units, c.settings.precision, c.settings.verbose⟩ := by
  constructor
  · intro h
    obtain ⟨units, hu, hj⟩ := exists_of_bind_eq_ok h
    exact ⟨units, hu, (Except.ok.inj hj).symm⟩
  · rintro ⟨units, hu, rfl⟩
    rw [job, hu]
    rfl

theorem run_of_read {words : List String} {c : Command} {around : Surroundings}
    (h : Command.read around.angleMode words = .ok c) : run around words = c.run around := by
  rw [run, h]

theorem Command.run_eq_report {c : Command} {j : Job} (htask : c.settings.task = none)
    (hj : c.job = .ok j) (around : Surroundings) :
    c.run around = j.report (c.settings.lastEnding around) (c.settings.texts around) := by
  rw [run, htask]
  simp only [evaluate, hj]

end Reckoner.CommandLine
