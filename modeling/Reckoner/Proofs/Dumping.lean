import Mathlib.Data.List.Forall2
import Reckoner.Proofs.Batch

/-!
# Dumps and values

A run that dumps expressions goes through them as a run that evaluates them does. Expression by
expression it shows a tree where the other shows the value of the tree, or the same message
(`Agree`). Only an empty expression is told apart: evaluating asks for one, while for a dump its
tokens end too soon.
-/

namespace Reckoner.CommandLine

/-- Whether a line is an answer. -/
def Line.isAnswer : Line → Bool
  | answer _ => true
  | message _ => false

@[simp] theorem Line.isAnswer_answer (text : String) : (answer text).isAnswer = true := rfl

@[simp] theorem Line.isAnswer_message (text : String) : (message text).isAnswer = false := rfl

@[simp] theorem Line.text_answer (text : String) : (answer text).text = text := rfl

@[simp] theorem Line.text_message (text : String) : (message text).text = text := rfl

namespace Report

theorem answers_eq_unlines (r : Report) :
    r.answers = unlines ((r.lines.filter (·.isAnswer)).map Line.text) := by
  rw [answers]
  congr 1
  induction r.lines with
  | nil => rfl
  | cons l lines ih => cases l <;> simp [List.filter_cons, ih]

theorem messages_eq_unlines (r : Report) :
    r.messages = unlines ((r.lines.filter (!·.isAnswer)).map Line.text) := by
  rw [messages]
  congr 1
  induction r.lines with
  | nil => rfl
  | cons l lines ih => cases l <;> simp [ih]

end Report

/-- The line for an expression in a run that evaluates, and the one in a run that dumps: the value
of a tree, and its tokens and the tree; or what is wrong, the same in both if there is any text. -/
inductive Agree (c : Calculator Operation) (text : String) : Line → Line → Prop
  | value {ts : List (Token Operation)} {t : Tree Operation} (hts : c.tokens text = .ok ts)
      (ht : parse ts = .ok t) :
      Agree c text (.answer (Number.written (t.eval c.mode)))
        (.answer (shownTokens ts ++ "\t" ++ t.shown))
  | invalid {e : ExpressionError Operation} (hne : text ≠ "") (he : c.tree text = .error e) :
      Agree c text (.message e.message) (.message e.message)
  | empty (hempty : text = "") :
      Agree c text (.message "Please supply an expression to evaluate")
        (.message "Unexpected end of token stream")

/-- The line for an expression whose value is shown as it is. -/
def valueLine (c : Calculator Operation) (line : String) : Line :=
  match c.evaluate (withoutNewlines line) with
  | .ok x => .answer (Number.written x)
  | .error e => .message e.message

section
variable {c : Calculator Operation} {text : String} {ts : List (Token Operation)}
  {t : Tree Operation} {e : ExpressionError Operation}

theorem Agree.isAnswer_eq {l l' : Line} (h : Agree c text l l') : l'.isAnswer = l.isAnswer := by
  cases h <;> rfl

theorem dissect_eq (c : Calculator Operation) (text : String) :
    dissect c text =
      (c.tokens text).bind fun ts => ((parse ts).mapError .parse).map fun t => (ts, t) := by
  rw [dissect]
  congr 1

theorem tree_eq_map_dissect (c : Calculator Operation) (text : String) :
    c.tree text = (dissect c text).map (·.2) := by
  rw [dissect_eq, Calculator.tree]
  cases c.tokens text with
  | error e => rfl
  | ok ts =>
    show (parse ts).mapError _ = (((parse ts).mapError _).map _).map _
    cases parse ts <;> rfl

theorem dissect_eq_ok_iff :
    dissect c text = .ok (ts, t) ↔ c.tokens text = .ok ts ∧ parse ts = .ok t := by
  rw [dissect_eq]
  constructor
  · intro h
    obtain ⟨us, hus, hmap⟩ := exists_of_bind_eq_ok h
    cases hp : parse us with
    | error e => rw [hp] at hmap; cases hmap
    | ok u =>
      rw [hp] at hmap
      cases hmap
      exact ⟨hus, hp⟩
  · rintro ⟨hts, ht⟩
    rw [hts]
    show ((parse ts).mapError _).map _ = _
    rw [ht]
    rfl

/-- Both runs agree on every expression. -/
theorem agree_lines (c : Calculator Operation) (line : String) :
    Agree c (withoutNewlines line) (valueLine c line) (dumpLine c line) := by
  unfold valueLine dumpLine
  generalize withoutNewlines line = text
  have htree := tree_eq_map_dissect c text
  cases hd : dissect c text with
  | ok p =>
    obtain ⟨ts, t⟩ := p
    obtain ⟨hts, ht⟩ := dissect_eq_ok_iff.mp hd
    rw [hd] at htree
    rw [Calculator.evaluate_of_tree htree]
    exact .value hts ht
  | error e =>
    rw [hd] at htree
    by_cases hempty : text = ""
    · subst hempty
      rw [Calculator.tree_empty] at htree
      cases htree
      exact .empty rfl
    · rw [Calculator.evaluate_of_tree_error hempty htree]
      exact .invalid hempty htree

end

/-- Without units and places every expression has its line. -/
theorem Job.line?_eq_valueLine (c : Calculator Operation) (verbose : Bool) (text : String) :
    Job.line? ⟨c, none, none, verbose⟩ text = some (valueLine c text) := by
  unfold line? valueLine
  simp only
  cases c.evaluate (withoutNewlines text) <;> rfl

theorem Job.report_eq_valueLines (c : Calculator Operation) (ending : Ending)
    (texts : List String) :
    Job.report ⟨c, none, none, false⟩ ending texts = ⟨texts.map (valueLine c), ending⟩ := by
  have hline := line?_eq_valueLine c false
  have hlines : allLines ⟨c, none, none, false⟩ = fun text => [valueLine c text] :=
    funext fun text => by
      rw [allLines_of_quiet rfl, hline]
      rfl
  rw [report_of_forall_isSome fun text _ => by rw [hline]; rfl, hlines, List.map_eq_flatMap]

/-- The command that dumps what `c` evaluates. -/
def Command.dumping (c : Command) : Command :=
  { c with settings := { c.settings with task := some .dump } }

theorem Command.run_eq_valueLines {c : Command} (around : Surroundings)
    (htask : c.settings.task = none) (hconvert : c.settings.convert = none)
    (hprecision : c.settings.precision = none) (hverbose : c.settings.verbose = false) :
    c.run around = ⟨(c.settings.texts around).map (valueLine c.calculator),
      c.settings.lastEnding around⟩ := by
  have hjob : c.job = .ok ⟨c.calculator, none, none, false⟩ :=
    job_eq_ok_iff.mpr ⟨none, by rw [hconvert]; rfl, by rw [hprecision, hverbose]⟩
  rw [run_eq_report htask hjob, Job.report_eq_valueLines]

theorem Command.run_dumping (c : Command) (around : Surroundings) :
    c.dumping.run around =
      ⟨.answer dumpTitle :: (c.settings.texts around).map (dumpLine c.calculator),
        c.settings.lastEnding around⟩ :=
  rfl

/-- A run that evaluates expressions without converting or rounding the values, and a run that dumps
them, have a line each for each expression, in the order of the expressions and under a title in the
dump, and the two lines agree: so the same expressions fail, with the same messages but for empty
expressions, and each value that is shown is that of the tree in the same place of the dump, beside
which its tokens stand. Both runs end alike. -/
theorem dump_line_by_line {around : Surroundings} {words words' : List String} {c : Command}
    (hread : Command.read around.angleMode words = .ok c)
    (hread' : Command.read around.angleMode words' = .ok c.dumping)
    (htask : c.settings.task = none) (hconvert : c.settings.convert = none)
    (hprecision : c.settings.precision = none) (hverbose : c.settings.verbose = false) :
    ∃ rows : List (Line × Line),
      List.Forall₂ (fun text row => Agree c.calculator (withoutNewlines text) row.1 row.2)
        (c.settings.texts around) rows ∧
      (run around words).answers =
        Report.unlines ((rows.filter (·.1.isAnswer)).map (·.1.text)) ∧
      (run around words').answers =
        Report.unlines (dumpTitle :: (rows.filter (·.1.isAnswer)).map (·.2.text)) ∧
      (run around words).messages =
        Report.unlines ((rows.filter (!·.1.isAnswer)).map (·.1.text)) ∧
      (run around words').messages =
        Report.unlines ((rows.filter (!·.1.isAnswer)).map (·.2.text)) ∧
      (run around words).ending = c.settings.lastEnding around ∧
      (run around words').ending = c.settings.lastEnding around := by
  have hrun := run_of_read hread
  have hrun' := run_of_read hread'
  rw [Command.run_eq_valueLines around htask hconvert hprecision hverbose] at hrun
  rw [Command.run_dumping] at hrun'
  generalize c.settings.texts around = texts at hrun hrun' ⊢
  have hisAnswer : ∀ text,
      (dumpLine c.calculator text).isAnswer = (valueLine c.calculator text).isAnswer :=
    fun text => (agree_lines _ text).isAnswer_eq
  let row (text : String) : Line × Line := (valueLine c.calculator text, dumpLine c.calculator text)
  refine ⟨texts.map row, ?_, ?_, ?_, ?_, ?_, by rw [hrun], by rw [hrun']⟩
  · rw [List.forall₂_map_right_iff, List.forall₂_same]
    exact fun text _ => agree_lines c.calculator text
  · rw [Report.answers_eq_unlines, hrun]
    simp [List.filter_map, Function.comp_def, row]
  · rw [Report.answers_eq_unlines, hrun']
    simp [List.filter_cons, List.filter_map, Function.comp_def, hisAnswer, row]
  · rw [Report.messages_eq_unlines, hrun]
    simp [List.filter_map, Function.comp_def, row]
  · rw [Report.messages_eq_unlines, hrun']
    simp [List.filter_map, Function.comp_def, hisAnswer, row]

/-- Expressions that are empty, that are empty but for newlines or spaces, and that fail, between
two with values. -/
theorem dump_line_by_line_blank :
    let texts := ["2*3", "", "\n\n", " ", "2+", "log2(4)\n"]
    let words := "-e" :: texts
    let c : Command := ⟨{ expressions := some texts }, .degrees⟩
    Command.read none words = .ok c ∧ Command.read none ("-D" :: words) = .ok c.dumping ∧
    c.settings.task = none ∧ c.settings.convert = none ∧ c.settings.precision = none ∧
    c.settings.verbose = false ∧
    ∃ rows : List (Line × Line),
      List.Forall₂ (fun text row => Agree c.calculator (withoutNewlines text) row.1 row.2)
        texts rows ∧
      (run {} words).messages = Report.unlines ((rows.filter (!·.1.isAnswer)).map (·.1.text)) ∧
      (run {} ("-D" :: words)).messages =
        Report.unlines ((rows.filter (!·.1.isAnswer)).map (·.2.text)) ∧
      (run {} ("-D" :: words)).ending = .finished := by
  intro texts words c
  let around : Surroundings := {}
  have hread : Command.read around.angleMode words = .ok c := by decide +kernel
  have hread' : Command.read around.angleMode ("-D" :: words) = .ok c.dumping := by decide +kernel
  obtain ⟨rows, hagree, -, -, herr, herr', -, hending⟩ :=
    dump_line_by_line hread hread' rfl rfl rfl rfl
  exact ⟨hread, hread', rfl, rfl, rfl, rfl, rows, hagree, herr, herr', hending⟩

end Reckoner.CommandLine
