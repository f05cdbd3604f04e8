import Reckoner.CommandLine.Settings
import Reckoner.Proofs.Reading

/-!
# Words at the end of a command line

Flags that are given all their arguments say the same with further words behind them
(`Item.ofWords_append`), so these are read as if they stood alone, with the settings that the flags
in front choose (`Command.read_append`). Only the flags for expressions and for a prompt may take
such words too; settings in which neither expressions nor a prompt are chosen come from other flags.
-/

namespace Reckoner.CommandLine

/-! ### Looks -/

namespace Look

theorem ofOther_ne_separator (word : List Char) : ofOther word ≠ separator := by
  unfold ofOther
  split <;> simp

theorem ne_separator_of_ofChars {word : List Char} {l : Look} (h : ofChars word = .ok l) :
    l ≠ separator := by
  unfold ofChars at h
  split at h
  · split at h <;> cases h
    · exact ofOther_ne_separator _
    · simp
  · split at h <;> cases h
    · simp
    · exact ofOther_ne_separator _
  · cases h
    simp

/-- Only behind two hyphens can a name be ambiguous. -/
theorem exists_ofChars {word : List Char} (h : ¬ ['-', '-'] <+: word) :
    ∃ l, ofChars word = .ok l := by
  unfold ofChars
  split
  · next name => exact absurd (List.prefix_append ['-', '-'] name) h
  · split <;> exact ⟨_, rfl⟩
  · exact ⟨_, rfl⟩

end Look

namespace Word
variable {text : String} {texts texts' : List String} {ws ws' : List Word}

theorem ofTexts_cons_eq_ok_iff (h : text ≠ "--") :
    ofTexts (text :: texts) = .ok ws ↔
      ∃ l us, Look.ofChars text.toList = .ok l ∧ ofTexts texts = .ok us ∧ ws = ⟨text, l⟩ :: us := by
  rw [ofTexts, if_neg h]
  constructor
  · intro hws
    obtain ⟨l, hl, hws⟩ := exists_of_bind_eq_ok hws
    obtain ⟨us, hus, hws⟩ := exists_of_bind_eq_ok hws
    exact ⟨l, us, hl, hus, (Except.ok.inj hws).symm⟩
  · rintro ⟨l, us, hl, hus, rfl⟩
    rw [hl, hus]
    rfl

theorem ofTexts_append (h : ofTexts texts = .ok ws) (hs : "--" ∉ texts)
    (h' : ofTexts texts' = .ok ws') : ofTexts (texts ++ texts') = .ok (ws ++ ws') := by
  induction texts generalizing ws with
  | nil =>
    cases h
    exact h'
  | cons text texts ih =>
    have htext : text ≠ "--" := fun htext => hs (List.mem_cons.mpr (.inl htext.symm))
    obtain ⟨l, us, hl, hus, rfl⟩ := (ofTexts_cons_eq_ok_iff htext).mp h
    have happend := ih hus fun hmem => hs (List.mem_cons_of_mem _ hmem)
    exact (ofTexts_cons_eq_ok_iff htext).mpr ⟨l, us ++ ws', hl, happend, rfl⟩

theorem exists_separator (h : ofTexts texts = .ok ws) (hs : "--" ∈ texts) :
    ∃ w ∈ ws, w.look = .separator := by
  induction texts generalizing ws with
  | nil => cases hs
  | cons text texts ih =>
    by_cases htext : text = "--"
    · rw [ofTexts, if_pos htext] at h
      cases h
      exact ⟨_, List.mem_cons_self, rfl⟩
    · obtain ⟨l, us, -, hus, rfl⟩ := (ofTexts_cons_eq_ok_iff htext).mp h
      have hmem : "--" ∈ texts := (List.mem_cons.mp hs).resolve_left (Ne.symm htext)
      obtain ⟨w, hw, hlook⟩ := ih hus hmem
      exact ⟨w, List.mem_cons_of_mem _ hw, hlook⟩

/-- Words without two hyphens in front may all be expressions. -/
theorem exists_ofTexts (h : ∀ text ∈ texts, ¬ ['-', '-'] <+: text.toList) :
    ∃ ws, ofTexts texts = .ok ws ∧ ws.map (·.text) = texts ∧ ∀ w ∈ ws, w.isNoSeparator = true := by
  induction texts with
  | nil => exact ⟨[], rfl, rfl, List.forall_mem_nil _⟩
  | cons text texts ih =>
    obtain ⟨htext, htexts⟩ := List.forall_mem_cons.mp h
    obtain ⟨l, hl⟩ := Look.exists_ofChars htext
    obtain ⟨us, hus, hmap, hsep⟩ := ih htexts
    have hne : text ≠ "--" := by
      rintro rfl
      exact htext (by decide)
    refine ⟨⟨text, l⟩ :: us, (ofTexts_cons_eq_ok_iff hne).mpr ⟨l, us, hl, hus, rfl⟩, ?_, ?_⟩
    · rw [List.map_cons, hmap]
    · refine List.forall_mem_cons.mpr ⟨?_, hsep⟩
      simpa [isNoSeparator] using Look.ne_separator_of_ofChars hl

end Word

/-! ### Items -/

/-- Whether the use of a flag says where expressions come from. -/
def Use.isSource : Use → Bool
  | expression _ | prompt _ => true
  | _ => false

/-- Whether an item is the use of a flag that takes none of the words behind it. -/
def Item.isComplete : Item → Bool
  | use u => !u.isSource
  | _ => false

section
variable {ws ws' rest : List Word}

/-- A flag takes its arguments off the words behind it, which are no separators, and does so
whatever follows them. -/
theorem Flag.withFollowing_append {f : Flag} {u : Use} (h : f.withFollowing ws = .ok (u, rest))
    (hu : u.isSource = false) (ws' : List Word) :
    f.withFollowing (ws ++ ws') = .ok (u, rest ++ ws') ∧
      ∃ taken, ws = taken ++ rest ∧ ∀ w ∈ taken, w.look ≠ .separator := by
  unfold withFollowing at h
  split at h <;> cases h
  case h_1 => exact ⟨rfl, [], rfl, List.forall_mem_nil _⟩
  case h_2 => exact ⟨rfl, [], rfl, List.forall_mem_nil _⟩
  case h_3 => exact ⟨rfl, [], rfl, List.forall_mem_nil _⟩
  case h_4 text => exact ⟨rfl, [⟨text, .argument⟩], rfl, by simp⟩
  case h_5 text => exact ⟨rfl, [⟨text, .argument⟩], rfl, by simp⟩
  case h_6 source target =>
    exact ⟨rfl, [⟨source, .argument⟩, ⟨target, .argument⟩], rfl, by simp⟩
  case h_7 => cases hu
  case h_8 => cases hu
  case h_9 => cases hu

namespace Item
variable {w : Word} {items : List Item} {f : Flag} {e : UsageError} {u : Use}

theorem ofWords_nil : ofWords [] = [] := by
  rw [ofWords]

theorem ofWords_cons_of_error (h : w.opening = .error e) (ws : List Word) :
    ofWords (w :: ws) = [.misuse e] := by
  rw [ofWords, h]

theorem ofWords_cons_of_none (h : w.opening = .ok ⟨items, none⟩) (ws : List Word) :
    ofWords (w :: ws) = items ++ ofWords ws := by
  rw [ofWords, h]

theorem ofWords_cons_of_misfit (h : w.opening = .ok ⟨items, some f⟩)
    (hf : f.withFollowing ws = .error e) : ofWords (w :: ws) = [.misuse e] := by
  rw [ofWords, h]
  simp only
  split
  · next heq => rw [hf] at heq; cases heq; rfl
  · next heq => rw [hf] at heq; cases heq

theorem ofWords_cons_of_flag (h : w.opening = .ok ⟨items, some f⟩)
    (hf : f.withFollowing ws = .ok (u, rest)) :
    ofWords (w :: ws) = items ++ .use u :: ofWords rest := by
  rw [ofWords, h]
  simp only
  split
  · next heq => rw [hf] at heq; cases heq
  · next heq => rw [hf] at heq; cases heq; rfl

/-- Words that say complete items are read word by word, each flag with words behind it. -/
theorem complete_induction {P : List Word → Prop} (nil : P [])
    (word : ∀ {w items ws}, w.opening = .ok ⟨items, none⟩ →
      (∀ i ∈ items, i.isComplete = true) → P ws → P (w :: ws))
    (flag : ∀ {w items ws f u rest}, w.opening = .ok ⟨items, some f⟩ →
      f.withFollowing ws = .ok (u, rest) → u.isSource = false → P rest → P (w :: ws))
    (ws : List Word) (h : ∀ i ∈ ofWords ws, i.isComplete = true) : P ws := by
  have hmisuse : ∀ e, ¬ ∀ i ∈ [misuse e], i.isComplete = true := fun e h =>
    absurd (h _ (List.mem_singleton_self _)) (by simp [isComplete])
  induction ws using ofWords.induct with
  | case1 => exact nil
  | case2 w ws e hw =>
    rw [ofWords_cons_of_error hw] at h
    exact absurd h (hmisuse e)
  | case3 w ws items hw ih =>
    rw [ofWords_cons_of_none hw, List.forall_mem_append] at h
    exact word hw h.1 (ih h.2)
  | case4 w ws items f hw e hf =>
    rw [ofWords_cons_of_misfit hw hf] at h
    exact absurd h (hmisuse e)
  | case5 w ws items f hw u rest hf hlt ih =>
    rw [ofWords_cons_of_flag hw hf, List.forall_mem_append, List.forall_mem_cons] at h
    obtain ⟨-, hu, hrest⟩ := h
    exact flag hw hf (by simpa [isComplete] using hu) (ih hrest)

/-- Words that say complete items say them with any words behind. -/
theorem ofWords_append (h : ∀ i ∈ ofWords ws, i.isComplete = true) (ws' : List Word) :
    ofWords (ws ++ ws') = ofWords ws ++ ofWords ws' := by
  refine complete_induction (P := fun ws => ofWords (ws ++ ws') = ofWords ws ++ ofWords ws')
    ?nil ?word ?flag ws h
  case nil => rw [ofWords_nil, List.nil_append, List.nil_append]
  case word =>
    intro w items ws hw _ ih
    rw [List.cons_append, ofWords_cons_of_none hw, ofWords_cons_of_none hw, ih, List.append_assoc]
  case flag =>
    intro w items ws f u rest hw hf hu ih
    obtain ⟨happend, -⟩ := Flag.withFollowing_append hf hu ws'
    rw [List.cons_append, ofWords_cons_of_flag hw hf, ofWords_cons_of_flag hw happend, ih,
      List.append_assoc, List.cons_append]

/-- There is no separator among words that say complete items: it would be a stray word. -/
theorem look_ne_separator (h : ∀ i ∈ ofWords ws, i.isComplete = true) :
    ∀ w ∈ ws, w.look ≠ .separator := by
  have hstray : ∀ {w : Word}, w.look = .separator → w.opening = .ok ⟨[.stray w.text], none⟩ :=
    fun hw => by simp [Word.opening, hw]
  refine complete_induction (P := fun ws => ∀ w ∈ ws, w.look ≠ .separator) ?nil ?word ?flag ws h
  case nil => exact List.forall_mem_nil _
  case word =>
    intro w items ws hw hitems ih
    refine List.forall_mem_cons.mpr ⟨fun hlook => ?_, ih⟩
    rw [hstray hlook] at hw
    cases hw
    exact absurd (hitems _ (List.mem_singleton_self _)) (by simp [isComplete])
  case flag =>
    intro w items ws f u rest hw hf hu ih
    obtain ⟨-, taken, rfl, htaken⟩ := Flag.withFollowing_append hf hu []
    refine List.forall_mem_cons.mpr ⟨fun hlook => ?_, List.forall_mem_append.mpr ⟨htaken, ih⟩⟩
    rw [hstray hlook] at hw
    cases hw

end Item
end

/-! ### Settings -/

namespace Settings
variable {s s' : Settings} {u : Use} {items : List Item} {c : Command}

/-- Whether it is chosen where expressions come from. -/
def hasSource (s : Settings) : Bool :=
  s.expressions.isSome || s.prompt.isSome

theorem eq_of_unrivalled {f : Flag} (h : s.unrivalled f = .ok s') : s = s' := by
  unfold unrivalled at h
  split at h <;> cases h
  rfl

theorem hasSource_of_after (h : s.after u = .ok s') :
    s'.hasSource = (s.hasSource || u.isSource) := by
  cases u with
  | help => cases h
  | verbose => cases h; simp [hasSource, Use.isSource]
  | angleMode text =>
    obtain ⟨mode, -, h⟩ := exists_of_bind_eq_ok h
    cases h
    simp [hasSource, Use.isSource]
  | precision text =>
    simp only [after] at h
    split at h <;> cases h
    simp [hasSource, Use.isSource]
  | convert source target => cases h; simp [hasSource, Use.isSource]
  | expression texts =>
    obtain ⟨t, -, h⟩ := exists_of_bind_eq_ok h
    cases h
    simp [hasSource, Use.isSource]
  | prompt text =>
    obtain ⟨t, -, h⟩ := exists_of_bind_eq_ok h
    cases h
    simp [hasSource, Use.isSource]
  | task t =>
    obtain ⟨s₁, hs₁, h⟩ := exists_of_bind_eq_ok h
    cases h
    cases eq_of_unrivalled hs₁
    simp [hasSource, Use.isSource]

theorem hasSource_of_foldlM (h : items.foldlM afterItem s = .ok s') (hs : s.hasSource = true) :
    s'.hasSource = true := by
  induction items generalizing s with
  | nil =>
    cases h
    exact hs
  | cons i items ih =>
    rw [List.foldlM_cons] at h
    obtain ⟨s₁, hs₁, h⟩ := exists_of_bind_eq_ok h
    refine ih h ?_
    cases i with
    | use u => rw [hasSource_of_after hs₁, hs, Bool.true_or]
    | stray text => cases hs₁; exact hs
    | misuse e => cases hs₁

/-- Items from which settings without a source come are complete, unless they are stray words. -/
theorem isComplete_of_foldlM (h : items.foldlM afterItem s = .ok s') (hs : s'.hasSource = false)
    (hstrays : strays items = []) : ∀ i ∈ items, i.isComplete = true := by
  induction items generalizing s with
  | nil => exact List.forall_mem_nil _
  | cons i items ih =>
    rw [List.foldlM_cons] at h
    obtain ⟨s₁, hs₁, hitems⟩ := exists_of_bind_eq_ok h
    cases i with
    | use u =>
      refine List.forall_mem_cons.mpr ⟨?_, ih hitems hstrays⟩
      cases hu : u.isSource with
      | false => simp [Item.isComplete, hu]
      | true =>
        -- a source that is chosen stays chosen to the end
        have hsource : s₁.hasSource = true := by rw [hasSource_of_after hs₁, hu, Bool.or_true]
        rw [hasSource_of_foldlM hitems hsource] at hs
        cases hs
    | stray text => cases hstrays
    | misuse e => cases hs₁

theorem settings_of_command {fallback : String} (h : s.command fallback = .ok c) :
    c.settings = s := by
  unfold command at h
  split at h
  · cases h
    rfl
  · obtain ⟨mode, -, h⟩ := exists_of_bind_eq_ok h
    cases h
    rfl

end Settings

/-! ### Commands -/

namespace Command
variable {angleMode : Option String} {texts options more : List String} {ws : List Word}
  {c : Command} {u : Use} {s : Settings}

/-- A command line whose words all fit gives the command of the settings they choose. -/
theorem read_eq (hwords : Word.ofTexts texts = .ok ws)
    (hsettings : (Item.ofWords ws).foldlM Settings.afterItem {} = .ok s)
    (hstrays : strays (Item.ofWords ws) = []) :
    read angleMode texts = s.command (angleMode.getD defaultAngleMode) := by
  rw [read, hwords]
  show Except.bind ((Item.ofWords ws).foldlM Settings.afterItem {}) _ = _
  rw [hsettings]
  show Except.bind (s.command (angleMode.getD defaultAngleMode)) _ = _
  rw [hstrays]
  cases s.command (angleMode.getD defaultAngleMode) <;> rfl

theorem exists_of_read (h : read angleMode texts = .ok c) :
    ∃ ws, Word.ofTexts texts = .ok ws ∧
      (Item.ofWords ws).foldlM Settings.afterItem {} = .ok c.settings ∧
      strays (Item.ofWords ws) = [] := by
  obtain ⟨ws, hwords, h⟩ := exists_of_bind_eq_ok h
  obtain ⟨s, hsettings, h⟩ := exists_of_bind_eq_ok h
  obtain ⟨c', hc', h⟩ := exists_of_bind_eq_ok h
  refine ⟨ws, mapError_eq_ok_iff.mp hwords, ?_⟩
  cases hstrays : strays (Item.ofWords ws) with
  | nil =>
    simp only [hstrays] at h
    cases h
    rw [Settings.settings_of_command hc']
    exact ⟨hsettings, rfl⟩
  | cons text texts =>
    simp only [hstrays] at h
    cases h

/-- What is chosen on a command line is chosen in all surroundings. -/
theorem read_eq_command (h : read none options = .ok c) (angleMode : Option String) :
    read angleMode options = c.settings.command (angleMode.getD defaultAngleMode) := by
  obtain ⟨ws, hws, hsettings, hstrays⟩ := exists_of_read h
  exact read_eq hws hsettings hstrays

/-- A flag at the end of a command line adds its use to the settings chosen in front of it. -/
theorem read_append (h : read none options = .ok c) (hsource : c.settings.hasSource = false)
    (hwords : Word.ofTexts more = .ok ws) (hitems : Item.ofWords ws = [.use u])
    (hafter : c.settings.after u = .ok s) (angleMode : Option String) :
    read angleMode (options ++ more) = s.command (angleMode.getD defaultAngleMode) := by
  obtain ⟨vs, hvs, hsettings, hstrays⟩ := exists_of_read h
  have hcomplete := Settings.isComplete_of_foldlM hsettings hsource hstrays
  -- two hyphens among the options would turn the flag behind them into an argument
  have hsep : "--" ∉ options := fun hmem => by
    obtain ⟨w, hw, hlook⟩ := Word.exists_separator hvs hmem
    exact Item.look_ne_separator hcomplete w hw hlook
  have happend : Item.ofWords (vs ++ ws) = Item.ofWords vs ++ [.use u] := by
    rw [Item.ofWords_append hcomplete, hitems]
  refine read_eq (Word.ofTexts_append hvs hsep hwords) ?_ ?_
  · rw [happend, List.foldlM_append, hsettings]
    show (c.settings.after u).bind pure = _
    rw [hafter]
    rfl
  · rw [happend, strays, List.filterMap_append]
    show strays (Item.ofWords vs) ++ [] = []
    rw [hstrays, List.append_nil]

end Command

end Reckoner.CommandLine
