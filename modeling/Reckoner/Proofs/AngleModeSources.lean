import Reckoner.Proofs.AngleWords
import Reckoner.Proofs.WaysIn

/-!
# Where the angle mode comes from

The angle mode is chosen by a flag, the last one if there are several, or else named by the
surroundings. A flag at the front chooses no more than the surroundings would: every use of a flag
does the same to settings with an angle mode for those who choose none (`Settings.after_orMode`), so
all of a command line does (`Command.read_cons_angleMode`). Where the flag is used in a command line,
the surroundings are not looked at (`Command.read_eq_of_chooses`).
-/

namespace Reckoner.CommandLine

/-- Among what a command line says is a use of the flag for the angle mode. -/
def ChoosesAngleMode (words : List String) : Prop :=
  ∃ ws text, Word.ofTexts words = .ok ws ∧ .use (.angleMode text) ∈ Item.ofWords ws

/-! ### Settings -/

namespace Settings
variable {s s' : Settings} {mode : AngleMode} {items : List Item} {u : Use} {text fallback : String}

/-- The settings with an angle mode in case none is chosen. -/
def orMode (s : Settings) (mode : AngleMode) : Settings :=
  { s with angleMode := s.angleMode.or (some mode) }

theorem orMode_eq_self (h : s.angleMode.isSome = true) (mode : AngleMode) : s.orMode mode = s := by
  obtain ⟨chosen, h⟩ := Option.isSome_iff_exists.mp h
  cases s
  cases h
  rfl

theorem isSome_orMode (s : Settings) (mode : AngleMode) : (s.orMode mode).angleMode.isSome = true := by
  simp [orMode]

theorem unrivalled_orMode (s : Settings) (mode : AngleMode) (f : Flag) :
    (s.orMode mode).unrivalled f = (s.unrivalled f).map (·.orMode mode) := by
  have hrival : (s.orMode mode).rival? f = s.rival? f := by cases f <;> rfl
  rw [unrivalled, unrivalled, hrival]
  cases s.rival? f <;> rfl

/-- The use of a flag does the same with an angle mode in case none is chosen. -/
theorem after_orMode (s : Settings) (mode : AngleMode) (u : Use) :
    (s.orMode mode).after u = (s.after u).map (·.orMode mode) := by
  cases u with
  | help => rfl
  | verbose => rfl
  | angleMode text =>
    rw [after, after]
    cases angleModeOf text <;> rfl
  | precision text =>
    rw [after, after]
    cases Number.ofWhole? text <;> rfl
  | convert source target => rfl
  | expression texts =>
    rw [after, after, unrivalled_orMode]
    cases s.unrivalled .expression <;> rfl
  | prompt text =>
    rw [after, after, unrivalled_orMode]
    cases s.unrivalled .prompt <;> rfl
  | task t =>
    rw [after, after, unrivalled_orMode]
    cases s.unrivalled (.task t) <;> rfl

theorem afterItem_orMode (s : Settings) (mode : AngleMode) (i : Item) :
    (s.orMode mode).afterItem i = (s.afterItem i).map (·.orMode mode) := by
  cases i with
  | use u => exact after_orMode s mode u
  | stray text => rfl
  | misuse e => rfl

theorem foldlM_orMode (items : List Item) (s : Settings) (mode : AngleMode) :
    items.foldlM afterItem (s.orMode mode) = (items.foldlM afterItem s).map (·.orMode mode) := by
  induction items generalizing s with
  | nil => rfl
  | cons i items ih =>
    rw [List.foldlM_cons, List.foldlM_cons, afterItem_orMode]
    cases s.afterItem i with
    | error e => rfl
    | ok s₁ => exact ih s₁

/-- A mode that is chosen stays chosen, if not the same. -/
theorem isSome_of_foldlM (h : items.foldlM afterItem s = .ok s') (hs : s.angleMode.isSome = true) :
    s'.angleMode.isSome = true := by
  have hfold := foldlM_orMode items s .degrees
  rw [orMode_eq_self hs, h] at hfold
  rw [Except.ok.inj hfold]
  exact isSome_orMode s' .degrees

theorem isSome_of_mem (h : items.foldlM afterItem s = .ok s')
    (hmem : .use (.angleMode text) ∈ items) : s'.angleMode.isSome = true := by
  obtain ⟨front, rest, rfl⟩ := List.append_of_mem hmem
  rw [List.foldlM_append] at h
  obtain ⟨s₁, -, h⟩ := exists_of_bind_eq_ok h
  rw [List.foldlM_cons] at h
  obtain ⟨s₂, hs₂, h⟩ := exists_of_bind_eq_ok h
  obtain ⟨mode, -, hs₂⟩ := exists_of_bind_eq_ok hs₂
  cases hs₂
  exact isSome_of_foldlM h rfl

/-- No other flag chooses an angle mode. -/
theorem angleMode_of_after (h : s.after u = .ok s') (hu : ∀ text, u ≠ .angleMode text) :
    s'.angleMode = s.angleMode := by
  cases u with
  | help => cases h
  | verbose => cases h; rfl
  | angleMode text => exact absurd rfl (hu text)
  | precision text =>
    simp only [after] at h
    split at h <;> cases h
    rfl
  | convert source target => cases h; rfl
  | expression texts | prompt text | task t =>
    obtain ⟨s₁, hs₁, h⟩ := exists_of_bind_eq_ok h
    cases h
    cases eq_of_unrivalled hs₁
    rfl

theorem angleMode_of_foldlM (h : items.foldlM afterItem s = .ok s')
    (hitems : ∀ text, .use (.angleMode text) ∉ items) : s'.angleMode = s.angleMode := by
  induction items generalizing s with
  | nil => cases h; rfl
  | cons i items ih =>
    rw [List.foldlM_cons] at h
    obtain ⟨s₁, hs₁, h⟩ := exists_of_bind_eq_ok h
    rw [ih h fun text hmem => hitems text (List.mem_cons_of_mem _ hmem)]
    cases i with
    | use u =>
      refine angleMode_of_after hs₁ fun text hu => hitems text ?_
      rw [hu]
      exact List.mem_cons_self
    | stray text => cases hs₁; rfl
    | misuse e => cases hs₁

theorem command_orMode (h : AngleMode.parse text = .ok mode) (s : Settings) (fallback : String) :
    (s.orMode mode).command fallback =
      (s.command text).map fun c => { c with settings := c.settings.orMode mode } := by
  have hmode : angleModeOf text = .ok mode := by rw [angleModeOf, h]; rfl
  cases hs : s.angleMode with
  | some chosen => simp [command, orMode, hs, Except.map]
  | none =>
    simp [command, orMode, hs, hmode, Except.map]

theorem command_of_isSome (h : s.angleMode.isSome = true) (text fallback : String) :
    s.command text = s.command fallback := by
  obtain ⟨chosen, h⟩ := Option.isSome_iff_exists.mp h
  rw [command, command, h]

end Settings

/-! ### Words -/

theorem ofChars_of_head? {word : List Char} (h : word.head? ≠ some '-') :
    Look.ofChars word = .ok .argument := by
  unfold Look.ofChars
  split
  · exact absurd rfl h
  · exact absurd rfl h
  · rfl

/-- A text that names a mode is the argument of the flag in front of it. -/
theorem ofTexts_cons_angleMode {mode : AngleMode} {text : String}
    (h : AngleMode.parse text = .ok mode) (words : List String) :
    Word.ofTexts ("-a" :: text :: words) = (Word.ofTexts words).map fun ws =>
      ⟨"-a", .lettered .angleMode none⟩ :: ⟨text, .argument⟩ :: ws := by
  have hhead := (AngleMode.parse_eq_ok_iff.mp h).head?_ne_hyphen
  have hne : text ≠ "--" := by
    rintro rfl
    exact hhead (by decide)
  have hlook : Look.ofChars "-a".toList = .ok (.lettered .angleMode none) := by decide +kernel
  rw [Word.ofTexts, if_neg (by decide), hlook, Word.ofTexts, if_neg hne, ofChars_of_head? hhead]
  cases Word.ofTexts words <;> rfl

theorem ofWords_cons_angleMode (text : String) (ws : List Word) :
    Item.ofWords (⟨"-a", .lettered .angleMode none⟩ :: ⟨text, .argument⟩ :: ws) =
      .use (.angleMode text) :: Item.ofWords ws := by
  have hopening : Word.opening ⟨"-a", .lettered .angleMode none⟩ = .ok ⟨[], some .angleMode⟩ := rfl
  have hfollowing : Flag.angleMode.withFollowing (⟨text, .argument⟩ :: ws) =
      .ok (.angleMode text, ws) := rfl
  exact Item.ofWords_cons_of_flag hopening hfollowing

/-! ### Commands -/

namespace Command
variable {words : List String} {ws : List Word} {mode : AngleMode} {text : String} {c : Command}

theorem read_of_ofTexts (h : Word.ofTexts words = .ok ws) (angleMode : Option String) :
    read angleMode words =
      (((Item.ofWords ws).foldlM Settings.afterItem {}).bind fun s =>
        (s.command (angleMode.getD defaultAngleMode)).bind fun c =>
          match strays (Item.ofWords ws) with
          | [] => .ok c
          | texts => .error (.usage (.strayWords texts))) := by
  rw [read, h]
  rfl

/-- The flag in front chooses what the surroundings may name in place of it. -/
theorem read_cons_angleMode (h : AngleMode.parse text = .ok mode) (angleMode : Option String)
    (words : List String) :
    read angleMode ("-a" :: text :: words) =
      (read (some text) words).map fun c => { c with settings := c.settings.orMode mode } := by
  have hwords := ofTexts_cons_angleMode h words
  cases hws : Word.ofTexts words with
  | error e =>
    rw [hws] at hwords
    rw [read, read, hws, hwords]
    rfl
  | ok ws =>
    rw [hws] at hwords
    -- the flag leaves the settings of those who choose nothing else, but with a mode
    have hflag : Settings.afterItem {} (.use (.angleMode text)) =
        .ok (Settings.orMode {} mode) := by
      rw [Settings.afterItem, Settings.after, angleModeOf, h]
      rfl
    have hfold : (Item.use (.angleMode text) :: Item.ofWords ws).foldlM Settings.afterItem {} =
        ((Item.ofWords ws).foldlM Settings.afterItem {}).map (·.orMode mode) := by
      rw [List.foldlM_cons, hflag]
      exact Settings.foldlM_orMode _ {} mode
    have hstrays : strays (.use (.angleMode text) :: Item.ofWords ws) = strays (Item.ofWords ws) := rfl
    rw [read_of_ofTexts hwords, read_of_ofTexts hws, ofWords_cons_angleMode, hfold, hstrays]
    cases (Item.ofWords ws).foldlM Settings.afterItem {} with
    | error e => rfl
    | ok s =>
      show Except.bind ((s.orMode mode).command _) _ = Except.map _ (Except.bind (s.command text) _)
      rw [Settings.command_orMode h]
      cases s.command text with
      | error e => rfl
      | ok c => cases strays (Item.ofWords ws) <;> rfl

theorem read_eq_of_chooses (h : ChoosesAngleMode words) (angleMode angleMode' : Option String) :
    read angleMode words = read angleMode' words := by
  obtain ⟨ws, text, hws, hmem⟩ := h
  rw [read_of_ofTexts hws, read_of_ofTexts hws]
  cases hs : (Item.ofWords ws).foldlM Settings.afterItem {} with
  | error e => rfl
  | ok s =>
    have hcommand := Settings.command_of_isSome (Settings.isSome_of_mem hs hmem)
    show Except.bind (s.command _) _ = Except.bind (s.command _) _
    rw [hcommand (angleMode.getD defaultAngleMode) (angleMode'.getD defaultAngleMode)]

/-- Without the flag, what the surroundings name must be a mode. -/
theorem read_eq_error_of_not_chooses (h : ¬ ChoosesAngleMode words) (hread : read none words = .ok c)
    (htext : ∀ mode : AngleMode, ¬ mode.NamedBy text) :
    read (some text) words = .error (.usage (.unknownAngleMode text)) := by
  obtain ⟨ws, hws, hsettings, hstrays⟩ := exists_of_read hread
  have hmode : c.settings.angleMode = none :=
    Settings.angleMode_of_foldlM hsettings fun text hmem => h ⟨ws, text, hws, hmem⟩
  rw [read_eq hws hsettings hstrays, Settings.command, hmode, Option.getD_some, angleModeOf,
    AngleMode.parse_eq_error_iff.mpr ⟨htext, rfl⟩]
  rfl

/-- Nothing else looks at what the flag chose, nor at what the surroundings name. -/
theorem run_orMode (c : Command) (mode : AngleMode) (around : Surroundings) :
    ({ c with settings := c.settings.orMode mode } : Command).run around = c.run around := rfl

theorem run_angleMode (c : Command) (around : Surroundings) (angleMode : Option String) :
    c.run { around with angleMode } = c.run around := rfl

end Command

/-- The surroundings choose as the flag for the angle mode would in front of the command line, where
they are not looked at. Nor are they where the flag is used among the words, however it is written
there and whatever else they say. Where it is not, a command line that makes sense is misused if what
the surroundings name is no mode, whatever it asks for. -/
theorem run_ranks_angleModes (around : Surroundings) (words : List String) :
    (∀ text, (∃ mode, AngleMode.parse text = .ok mode) →
      run { around with angleMode := some text } words = run around ("-a" :: text :: words)) ∧
    (ChoosesAngleMode words → ∀ angleMode, run { around with angleMode } words = run around words) ∧
    (∀ c text, ¬ ChoosesAngleMode words → Command.read none words = .ok c →
      (∀ mode, AngleMode.parse text ≠ .ok mode) →
        run { around with angleMode := some text } words =
          ⟨[], .misused (.unknownAngleMode text)⟩) := by
  refine ⟨?_, ?_, ?_⟩
  · rintro text ⟨mode, h⟩
    rw [run, run, Command.read_cons_angleMode h]
    cases Command.read (some text) words with
    | error e => cases e <;> rfl
    | ok c => exact (Command.run_angleMode c around _).trans (Command.run_orMode c mode around).symm
  · intro h angleMode
    rw [run, run, Command.read_eq_of_chooses h angleMode around.angleMode]
    cases Command.read around.angleMode words with
    | error e => cases e <;> rfl
    | ok c => exact Command.run_angleMode c around angleMode
  · intro c text h hread htext
    have hnamed : ∀ mode : AngleMode, ¬ mode.NamedBy text := fun mode hnamed =>
      htext mode (AngleMode.parse_eq_ok_iff.mpr hnamed)
    rw [run, Command.read_eq_error_of_not_chooses h hread hnamed]

/-- The flag at the end of a word that lists the grammar, and as an expression, where it is none. -/
theorem run_ranks_angleModes_expression :
    let words := ["-De", "-a", "rad"]
    (∃ mode, AngleMode.parse "\tRAD" = .ok mode) ∧
    run { angleMode := some "\tRAD" } words =
      run { angleMode := some "turns" } ("-a" :: "\tRAD" :: words) ∧
    ChoosesAngleMode ["-Ga grads"] ∧
    run { angleMode := some "turns" } ["-Ga grads"] = run {} ["-Ga grads"] ∧
    ¬ ChoosesAngleMode words ∧
    Command.read none words =
      .ok ⟨{ expressions := some ["-a", "rad"], task := some .dump }, .degrees⟩ ∧
    (∀ mode, AngleMode.parse "turns" ≠ .ok mode) ∧
    run { angleMode := some "turns" } words = ⟨[], .misused (.unknownAngleMode "turns")⟩ := by
  intro words
  have hrad : ∃ mode, AngleMode.parse "\tRAD" = .ok mode := ⟨.radians, by decide +kernel⟩
  have hturns : ∀ mode, AngleMode.parse "turns" ≠ .ok mode := fun mode => by
    cases mode <;> decide +kernel
  have hchooses : ChoosesAngleMode ["-Ga grads"] :=
    ⟨[⟨"-Ga grads", .lettered (.task .grammar) (some "a grads".toList)⟩], " grads",
      by decide +kernel, by decide +kernel⟩
  have hnot : ¬ ChoosesAngleMode words := by
    rintro ⟨ws, text, hws, hmem⟩
    have hwords : Word.ofTexts words = .ok [⟨"-De", .lettered (.task .dump) (some ['e'])⟩,
        ⟨"-a", .lettered .angleMode none⟩, ⟨"rad", .argument⟩] := by decide +kernel
    cases hws.symm.trans hwords
    have hitems : Item.ofWords [⟨"-De", .lettered (.task .dump) (some ['e'])⟩,
        ⟨"-a", .lettered .angleMode none⟩, ⟨"rad", .argument⟩] =
        [.use (.task .dump), .use (.expression ["-a", "rad"])] := by decide +kernel
    rw [hitems] at hmem
    simp at hmem
  have hread : Command.read none words =
      .ok ⟨{ expressions := some ["-a", "rad"], task := some .dump }, .degrees⟩ := by decide +kernel
  exact ⟨hrad, (run_ranks_angleModes { angleMode := some "turns" } words).1 _ hrad, hchooses,
    (run_ranks_angleModes {} ["-Ga grads"]).2.1 hchooses _, hnot, hread, hturns,
    (run_ranks_angleModes {} words).2.2 _ _ hnot hread hturns⟩

end Reckoner.CommandLine
