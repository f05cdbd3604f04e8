import Mathlib.Data.List.DropRight
import Reckoner.CommandLine.Run
import Reckoner.Proofs.CommandWords

/-!
# Ways in

Expressions are words of the command line, lines of the input, or lines that are typed at a prompt.
A run is the same whichever way they come (`run_in_every_way`): it takes each as a line and looks at
it without the newline at its end (`Command.run_congr`), and what the flags choose does not depend
on the flag behind them that says where expressions come from (`Command.read_append`).
-/

namespace Reckoner.CommandLine

/-! ### Lines -/

section
variable {line : List Char} {rest : List (List Char)} {text : String}

theorem linesOf_cons {c : Char} (hn : c ≠ '\n') (hr : c ≠ '\r') {s : List Char}
    (h : linesOf s = line :: rest) : linesOf (c :: s) = (c :: line) :: rest := by
  simp [linesOf, hr, h]

theorem linesOf_singleton {c : Char} (hn : c ≠ '\n') (hr : c ≠ '\r') : linesOf [c] = [[c]] := by
  simp [linesOf]

theorem linesOf_append_newline (hn : '\n' ∉ line) (hr : '\r' ∉ line) (s : List Char) :
    linesOf (line ++ '\n' :: s) = (line ++ ['\n']) :: linesOf s := by
  induction line with
  | nil => rfl
  | cons c line ih =>
    obtain ⟨hcn, hn⟩ := List.ne_and_not_mem_of_not_mem_cons hn
    obtain ⟨hcr, hr⟩ := List.ne_and_not_mem_of_not_mem_cons hr
    exact linesOf_cons hcn.symm hcr.symm (ih hn hr)

/-- The last line need not be ended. -/
theorem linesOf_eq_singleton (hne : line ≠ []) (hn : '\n' ∉ line) (hr : '\r' ∉ line) :
    linesOf line = [line] := by
  induction line with
  | nil => exact absurd rfl hne
  | cons c line ih =>
    obtain ⟨hcn, hn⟩ := List.ne_and_not_mem_of_not_mem_cons hn
    obtain ⟨hcr, hr⟩ := List.ne_and_not_mem_of_not_mem_cons hr
    by_cases hline : line = []
    · subst hline
      exact linesOf_singleton hcn.symm hcr.symm
    · exact linesOf_cons hcn.symm hcr.symm (ih hline hn hr)

theorem withoutNewlines_eq (text : String) :
    withoutNewlines text = .ofList (text.toList.rdropWhile (· == '\n')) := rfl

theorem withoutNewlines_eq_self (h : '\n' ∉ text.toList) : withoutNewlines text = text := by
  have hdrop : text.toList.rdropWhile (· == '\n') = text.toList :=
    List.rdropWhile_eq_self_iff.mpr fun hne hlast =>
      h (beq_iff_eq.mp hlast ▸ List.getLast_mem hne)
  rw [withoutNewlines_eq, hdrop, String.ofList_toList]

theorem withoutNewlines_append_newline (h : '\n' ∉ text.toList) :
    withoutNewlines (text ++ "\n") = text := by
  have hdrop : (text ++ "\n").toList.rdropWhile (· == '\n') = text.toList.rdropWhile (· == '\n') := by
    rw [String.toList_append]
    exact List.rdropWhile_concat_pos _ _ _ rfl
  rw [withoutNewlines_eq, hdrop]
  exact withoutNewlines_eq_self h

theorem withoutNewlines_withoutNewlines (text : String) :
    withoutNewlines (withoutNewlines text) = withoutNewlines text := by
  simp only [withoutNewlines_eq, String.toList_ofList, List.rdropWhile_idempotent]

end

/-- A text that can be given in every way: it is one line and does not begin like a flag's name. -/
structure Givable (text : String) : Prop where
  no_newline : '\n' ∉ text.toList
  no_return : '\r' ∉ text.toList
  no_name : ¬ ['-', '-'] <+: text.toList

instance (text : String) : Decidable (Givable text) :=
  decidable_of_iff ('\n' ∉ text.toList ∧ '\r' ∉ text.toList ∧ ¬ ['-', '-'] <+: text.toList)
    ⟨fun ⟨hn, hr, hname⟩ => ⟨hn, hr, hname⟩, fun h => ⟨h.no_newline, h.no_return, h.no_name⟩⟩

/-- Some texts are the lines of an input. The last one need not be ended, unless it is empty. -/
def HasLines (input : String) (texts : List String) : Prop :=
  input = Report.unlines texts ∨
    input ++ "\n" = Report.unlines texts ∧ texts.getLast? ≠ some ""

section
variable {input : String} {texts : List String}

theorem Report.unlines_append (texts more : List String) :
    unlines (texts ++ more) = unlines texts ++ unlines more := by
  simp [unlines]

theorem inputLines_cons {text : String} (h : Givable text) (rest : String) :
    inputLines (text ++ "\n" ++ rest) = (text ++ "\n") :: inputLines rest := by
  have hchars : (text ++ "\n" ++ rest).toList = text.toList ++ '\n' :: rest.toList := by simp
  rw [inputLines, hchars, linesOf_append_newline h.no_newline h.no_return, List.map_cons, inputLines]
  simp

theorem inputLines_unlines_append (h : ∀ text ∈ texts, Givable text) (rest : String) :
    inputLines (Report.unlines texts ++ rest) = texts.map (· ++ "\n") ++ inputLines rest := by
  induction texts with
  | nil => rfl
  | cons text texts ih =>
    obtain ⟨htext, htexts⟩ := List.forall_mem_cons.mp h
    have hunlines : Report.unlines (text :: texts) = text ++ "\n" ++ Report.unlines texts := by
      simp [Report.unlines]
    rw [hunlines, String.append_assoc, inputLines_cons htext, ih htexts]
    rfl

theorem map_withoutNewlines (h : ∀ text ∈ texts, Givable text) :
    texts.map withoutNewlines = texts := by
  have hself : ∀ text ∈ texts, withoutNewlines text = text := fun text htext =>
    withoutNewlines_eq_self (h text htext).no_newline
  rw [List.map_congr_left hself, List.map_id']

theorem map_withoutNewlines_ended (h : ∀ text ∈ texts, Givable text) :
    (texts.map (· ++ "\n")).map withoutNewlines = texts := by
  have hended : ∀ text ∈ texts, withoutNewlines (text ++ "\n") = text := fun text htext =>
    withoutNewlines_append_newline (h text htext).no_newline
  rw [List.map_map]
  exact (List.map_congr_left hended).trans (List.map_id' _)

theorem map_withoutNewlines_inputLines (h : ∀ text ∈ texts, Givable text)
    (hinput : HasLines input texts) : (inputLines input).map withoutNewlines = texts := by
  rcases hinput with rfl | ⟨hinput, hlast⟩
  · have hlines := inputLines_unlines_append h ""
    rw [String.append_empty] at hlines
    rw [hlines, List.map_append, map_withoutNewlines_ended h]
    exact List.append_nil _
  -- without its end, the last line stands apart from those in front of it
  · rcases List.eq_nil_or_concat' texts with rfl | ⟨front, last, rfl⟩
    · exact absurd hinput (by simp [Report.unlines])
    · obtain ⟨hfront, hgivable⟩ := List.forall_mem_append.mp h
      obtain ⟨hn, hr, -⟩ := hgivable last (List.mem_singleton_self _)
      have hne : last.toList ≠ [] := by simpa using hlast
      have hsplit : input = Report.unlines front ++ last := by
        rw [Report.unlines_append] at hinput
        have hlast : Report.unlines [last] = last ++ "\n" := by simp [Report.unlines]
        rw [hlast, ← String.append_assoc] at hinput
        exact (String.append_left_inj "\n").mp hinput
      have hline : inputLines last = [last] := by
        rw [inputLines, linesOf_eq_singleton hne hn hr]
        simp
      rw [hsplit, inputLines_unlines_append hfront, hline, List.map_append,
        map_withoutNewlines_ended hfront, List.map_singleton, withoutNewlines_eq_self hn]

end

/-! ### Runs -/

/-- A job looks at lines without the newlines at their ends. -/
theorem Job.report_withoutNewlines (j : Job) (ending : Ending) (lines : List String) :
    j.report ending (lines.map withoutNewlines) = j.report ending lines := by
  induction lines with
  | nil => rfl
  | cons line lines ih =>
    rw [List.map_cons, report, report, withoutNewlines_withoutNewlines, ih]

theorem dump_withoutNewlines (c : Calculator Operation) (ending : Ending) (lines : List String) :
    dump c ending (lines.map withoutNewlines) = dump c ending lines := by
  have hline : ∀ line, dumpLine c (withoutNewlines line) = dumpLine c line := fun line => by
    rw [dumpLine, dumpLine, withoutNewlines_withoutNewlines]
  simp only [dump, List.map_map, Function.comp_def, hline]

namespace Command
variable {c c' : Command} {around around' : Surroundings}

/-- Where expressions come from matters only for the lines that there are and for how a run ends. -/
theorem run_congr (hmode : c.angleMode = c'.angleMode) (htask : c.settings.task = c'.settings.task)
    (hconvert : c.settings.convert = c'.settings.convert)
    (hprecision : c.settings.precision = c'.settings.precision)
    (hverbose : c.settings.verbose = c'.settings.verbose)
    (hending : c.settings.lastEnding around = c'.settings.lastEnding around')
    (hlines : (c.settings.texts around).map withoutNewlines =
      (c'.settings.texts around').map withoutNewlines) :
    c.run around = c'.run around' := by
  have hcalculator : c.calculator = c'.calculator := by rw [calculator, calculator, hmode]
  have hjob : c.job = c'.job := by rw [job, job, hconvert, hcalculator, hprecision, hverbose]
  have hevaluate : c.evaluate around = c'.evaluate around' := by
    rw [evaluate, evaluate, hjob]
    cases c'.job with
    | error e => rfl
    | ok j =>
      show j.report _ _ = j.report _ _
      rw [← Job.report_withoutNewlines, hlines, Job.report_withoutNewlines, hending]
  have hdump : dump c.calculator (c.settings.lastEnding around) (c.settings.texts around) =
      dump c'.calculator (c'.settings.lastEnding around') (c'.settings.texts around') := by
    rw [← dump_withoutNewlines, hlines, dump_withoutNewlines, hending, hcalculator]
  rw [run, run, htask, hevaluate, hdump, hcalculator]

end Command

/-- Two command lines of one angle mode are run alike if their settings are, in any mode. -/
theorem run_congr {around around' : Surroundings} {words words' : List String} {s s' : Settings}
    {fallback : String} (hread : Command.read around.angleMode words = s.command fallback)
    (hread' : Command.read around'.angleMode words' = s'.command fallback)
    (hmode : s.angleMode = s'.angleMode)
    (hrun : ∀ mode, (Command.mk s mode).run around = (Command.mk s' mode).run around') :
    run around words = run around' words' := by
  rw [run, run, hread, hread', Settings.command, Settings.command, hmode]
  cases s'.angleMode with
  | some mode => exact hrun mode
  | none =>
    cases angleModeOf fallback with
    | error e => cases e <;> rfl
    | ok mode => exact hrun mode

theorem ofWords_expression {texts : List String} (h : ∀ text ∈ texts, Givable text) :
    ∃ ws, Word.ofTexts ("-e" :: texts) = .ok ws ∧ Item.ofWords ws = [.use (.expression texts)] := by
  obtain ⟨ws, hws, htexts, hsep⟩ := Word.exists_ofTexts fun text htext => (h text htext).no_name
  have hfollowing : Flag.expression.withFollowing ws = .ok (.expression texts, []) := by
    rw [Flag.withFollowing, List.takeWhile_eq_self_iff.mpr hsep, List.dropWhile_eq_nil_iff.mpr hsep,
      htexts]
  refine ⟨⟨"-e", .lettered .expression none⟩ :: ws, ?_, ?_⟩
  · exact (Word.ofTexts_cons_eq_ok_iff (by decide)).mpr ⟨_, ws, rfl, hws, rfl⟩
  · rw [Item.ofWords_cons_of_flag rfl hfollowing, Item.ofWords_nil]
    rfl

theorem ofWords_prompt :
    ∃ ws, Word.ofTexts ["-p"] = .ok ws ∧ Item.ofWords ws = [.use (.prompt defaultPrompt)] := by
  have hfollowing : Flag.prompt.withFollowing [] = .ok (.prompt defaultPrompt, []) := rfl
  refine ⟨[⟨"-p", .lettered .prompt none⟩], rfl, ?_⟩
  rw [Item.ofWords_cons_of_flag rfl hfollowing, Item.ofWords_nil]
  rfl

/-- The same expressions make the same run whether they stand behind the flags on the command line,
with anything in the input, or are the lines of the input, or are typed at a prompt that is asked
for or that a terminal gets. The lines that are typed may or may not bring their newlines along. -/
theorem run_in_every_way {options texts typed : List String} {input : String} {c : Command}
    (hread : Command.read none options = .ok c) (hexpressions : c.settings.expressions = none)
    (hprompt : c.settings.prompt = none) (htexts : ∀ text ∈ texts, Givable text)
    (hinput : HasLines input texts) (htyped : typed.map withoutNewlines = texts)
    (around : Surroundings) :
    run { around with input, terminal := false } options =
      run around (options ++ "-e" :: texts) ∧
    run { around with typed, interrupts := false } (options ++ ["-p"]) =
      run around (options ++ "-e" :: texts) ∧
    run { around with typed, terminal := true, interrupts := false } options =
      run around (options ++ "-e" :: texts) := by
  have hsource : c.settings.hasSource = false := by
    rw [Settings.hasSource, hexpressions, hprompt]
    rfl
  -- what is read in each of the ways, in any mode that the surroundings name
  have hplain := Command.read_eq_command hread around.angleMode
  have hgiven : Command.read around.angleMode (options ++ "-e" :: texts) =
      Settings.command { c.settings with expressions := some texts }
        (around.angleMode.getD defaultAngleMode) := by
    obtain ⟨ws, hws, hitems⟩ := ofWords_expression htexts
    refine Command.read_append hread hsource hws hitems ?_ around.angleMode
    rw [Settings.after, Settings.unrivalled, Settings.rival?, hprompt]
    rfl
  have hasked : Command.read around.angleMode (options ++ ["-p"]) =
      Settings.command { c.settings with prompt := some defaultPrompt }
        (around.angleMode.getD defaultAngleMode) := by
    obtain ⟨ws, hws, hitems⟩ := ofWords_prompt
    refine Command.read_append hread hsource hws hitems ?_ around.angleMode
    rw [Settings.after, Settings.unrivalled, Settings.rival?, hexpressions]
    rfl
  have hself := map_withoutNewlines htexts
  refine ⟨run_congr hplain hgiven rfl fun mode => Command.run_congr rfl rfl rfl rfl rfl ?_ ?_,
    run_congr hasked hgiven rfl fun mode => Command.run_congr rfl rfl rfl rfl rfl ?_ ?_,
    run_congr hplain hgiven rfl fun mode => Command.run_congr rfl rfl rfl rfl rfl ?_ ?_⟩
  · simp [Settings.lastEnding, Settings.prompts, hprompt]
  · simp [Settings.texts, Settings.prompts, hexpressions, hprompt, hself,
      map_withoutNewlines_inputLines htexts hinput]
  · simp [Settings.lastEnding, Settings.prompts]
  · simp [Settings.texts, Settings.prompts, hexpressions, defaultPrompt, hself, htyped]
  · simp [Settings.lastEnding, Settings.prompts]
  · simp [Settings.texts, Settings.prompts, hexpressions, hself, htyped]

/-- Expressions that are empty or look like flags, with a conversion and places to round to. -/
theorem run_in_every_way_flags :
    let c : Command := ⟨{ verbose := true, precision := some 2, convert := some ("inch", "foot") },
      .degrees⟩
    let options := ["-vk2", "--conv", "inch", "foot"]
    let texts := ["", "-v", "2*3", "-D", "-1"]
    let around : Surroundings := { angleMode := some "radians", input := "7\n", interrupts := true }
    Command.read none options = .ok c ∧ c.settings.expressions = none ∧ c.settings.prompt = none ∧
    (∀ text ∈ texts, Givable text) ∧ HasLines "\n-v\n2*3\n-D\n-1" texts ∧
    texts.map withoutNewlines = texts ∧
    run { around with input := "\n-v\n2*3\n-D\n-1", terminal := false } options =
      run around (options ++ "-e" :: texts) := by
  intro c options texts around
  have hread : Command.read none options = .ok c := by decide +kernel
  have htexts : ∀ text ∈ texts, Givable text := by decide +kernel
  have hinput : HasLines "\n-v\n2*3\n-D\n-1" texts := .inr (by decide +kernel)
  have htyped : texts.map withoutNewlines = texts := by decide +kernel
  obtain ⟨hread', -, -⟩ := run_in_every_way hread rfl rfl htexts hinput htyped around
  exact ⟨hread, rfl, rfl, htexts, hinput, htyped, hread'⟩

end Reckoner.CommandLine
