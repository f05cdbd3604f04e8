import Reckoner.AngleMode
import Reckoner.Proofs.LowerCase

/-!
# Words for angle modes

A text names an angle mode (`AngleMode.NamedBy`) if it is the beginning of one of the mode's full
names, three letters long at least, written in ASCII letters of either case with white space around.
That is said of the text as it stands, while parsing strips it and makes it lower case by the rules
of Unicode; both come to the same (`AngleMode.Begun.iff_lower`), since no name has a k in it.
The first three letters tell the modes apart, so these may be tried in any order.
-/

namespace Reckoner

namespace AngleMode
variable {mode mode' : AngleMode} {modes : List AngleMode} {key letters : List Char} {text : String}

/-- The full names of a mode. -/
def fullNames : AngleMode → List String
  | degrees => ["degrees"]
  | radians => ["radians"]
  | gradians => ["gradians", "grads"]

/-- The letters are the beginning of a full name of the mode, and enough of it. -/
def Begun (mode : AngleMode) (letters : List Char) : Prop :=
  3 ≤ letters.length ∧ ∃ name ∈ mode.fullNames, letters.map Char.toLower <+: name.toList

/-- The text names the mode. -/
def NamedBy (mode : AngleMode) (text : String) : Prop :=
  ∃ before letters after, text.toList = before ++ letters ++ after ∧
    (∀ c ∈ before, Text.isBlank c = true) ∧ (∀ c ∈ after, Text.isBlank c = true) ∧
    mode.Begun letters

/-- The mode that a text names, with the modes tried in some order. -/
def parseAmong (modes : List AngleMode) (text : String) : Except UnknownAngleMode AngleMode :=
  let key := Text.lower (Text.strip text.toList)
  if key.length < fewestLetters then .error ⟨text⟩
  else
    match modes.find? fun mode => mode.answersTo key with
    | some mode => .ok mode
    | none => .error ⟨text⟩

theorem parse_eq_parseAmong (text : String) : parse text = parseAmong all text := rfl

theorem mem_all (mode : AngleMode) : mode ∈ all := by
  cases mode <;> decide

/-! ### Full names -/

theorem words_subset : ∀ mode ∈ all, mode.words ⊆ mode.fullNames.map String.toList ∧
    mode.fullNames.map String.toList ⊆ mode.words := by
  decide

theorem all_isLower_of_fullName : ∀ mode ∈ all, ∀ name ∈ mode.fullNames,
    (name.toList.all fun c => c.isLower && c != 'k') = true := by
  decide

theorem isLower_of_fullName {name : String} (hname : name ∈ mode.fullNames) {c : Char}
    (hc : c ∈ name.toList) : c.isLower = true ∧ c ≠ 'k' := by
  have h := List.all_eq_true.mp (all_isLower_of_fullName mode (mem_all mode) name hname) c hc
  simpa using h

/-- Three letters tell the modes apart. -/
theorem eq_of_take_eq : ∀ mode ∈ all, ∀ mode' ∈ all, ∀ name ∈ mode.fullNames,
    ∀ name' ∈ mode'.fullNames, name.toList.take 3 = name'.toList.take 3 → mode = mode' := by
  decide

theorem answersTo_iff : mode.answersTo key = true ↔
    ∃ name ∈ mode.fullNames, key <+: name.toList := by
  obtain ⟨hwords, hnames⟩ := words_subset mode (mem_all mode)
  simp only [answersTo, List.any_eq_true, List.isPrefixOf_iff_prefix]
  constructor
  · rintro ⟨word, hword, hkey⟩
    obtain ⟨name, hname, rfl⟩ := List.mem_map.mp (hwords hword)
    exact ⟨name, hname, hkey⟩
  · rintro ⟨name, hname, hkey⟩
    exact ⟨name.toList, hnames (List.mem_map_of_mem hname), hkey⟩

namespace Begun

theorem isLower_toLower (h : mode.Begun letters) : ∀ c ∈ letters, c.toLower.isLower = true := by
  obtain ⟨-, name, hname, hbegun⟩ := h
  intro c hc
  have hmem : c.toLower ∈ name.toList := hbegun.subset (List.mem_map_of_mem hc)
  exact (isLower_of_fullName hname hmem).1

theorem ascii (h : mode.Begun letters) : ∀ c ∈ letters, c.toNat < 128 :=
  fun c hc => Text.ascii_of_isLower_toLower (h.isLower_toLower c hc)

theorem not_isBlank (h : mode.Begun letters) : ∀ c ∈ letters, Text.isBlank c = false := by
  have htable : ∀ n < 128, (Char.ofNat n).toLower.isLower = true →
      Text.isBlank (Char.ofNat n) = false := by decide
  intro c hc
  have hblank := htable c.toNat (h.ascii c hc)
  rw [Char.ofNat_toNat] at hblank
  exact hblank (h.isLower_toLower c hc)

theorem ne_nil (h : mode.Begun letters) : letters ≠ [] := by
  rintro rfl
  exact absurd h.1 (by decide)

theorem unique (h : mode.Begun letters) (h' : mode'.Begun letters) : mode = mode' := by
  obtain ⟨hlength, name, hname, rest, hrest⟩ := h
  obtain ⟨-, name', hname', rest', hrest'⟩ := h'
  rw [← List.length_map Char.toLower] at hlength
  refine eq_of_take_eq mode (mem_all mode) mode' (mem_all mode') name hname name' hname' ?_
  rw [← hrest, ← hrest', List.take_append_of_le_length hlength,
    List.take_append_of_le_length hlength]

/-- Letters begin a name if and only if their lower case does, which may be of other characters. -/
theorem iff_lower : mode.Begun letters ↔
    ¬ (Text.lower letters).length < fewestLetters ∧
      mode.answersTo (Text.lower letters) = true := by
  rw [fewestLetters, Nat.not_lt]
  constructor
  · intro h
    rw [Text.lower_eq_of_ascii h.ascii, List.length_map]
    exact ⟨h.1, answersTo_iff.mpr h.2⟩
  · rintro ⟨hlength, h⟩
    obtain ⟨name, hname, hbegun⟩ := answersTo_iff.mp h
    have hascii : ∀ c ∈ letters, c.toNat < 128 := Text.ascii_of_lower fun x hx =>
      isLower_of_fullName hname (hbegun.subset hx)
    rw [Text.lower_eq_of_ascii hascii] at hlength hbegun
    exact ⟨by rwa [List.length_map] at hlength, name, hname, hbegun⟩

end Begun

/-! ### Texts -/

/-- White space aside, a text that names a mode is letters alone. -/
theorem namedBy_iff : mode.NamedBy text ↔ mode.Begun (Text.strip text.toList) := by
  constructor
  · rintro ⟨before, letters, after, htext, hbefore, hafter, h⟩
    rwa [htext, Text.strip_between hbefore hafter h.not_isBlank h.ne_nil]
  · intro h
    obtain ⟨before, after, htext, hbefore, hafter⟩ := Text.exists_strip text.toList
    exact ⟨before, _, after, htext, hbefore, hafter, h⟩

/-- No sign stands in front of a mode. -/
theorem NamedBy.head?_ne_hyphen (h : mode.NamedBy text) : text.toList.head? ≠ some '-' := by
  obtain ⟨before, letters, after, htext, hbefore, -, h⟩ := h
  rw [htext]
  intro hhead
  cases before with
  | nil =>
    obtain ⟨c, rest, rfl⟩ := List.exists_cons_of_ne_nil h.ne_nil
    cases hhead
    exact absurd (h.isLower_toLower '-' List.mem_cons_self) (by decide)
  | cons c before =>
    cases hhead
    exact absurd (hbefore '-' List.mem_cons_self) (by decide)

theorem NamedBy.unique (h : mode.NamedBy text) (h' : mode'.NamedBy text) : mode = mode' :=
  (namedBy_iff.mp h).unique (namedBy_iff.mp h')

theorem namedBy_of_parseAmong (h : parseAmong modes text = .ok mode) : mode.NamedBy text := by
  rw [namedBy_iff, Begun.iff_lower]
  simp only [parseAmong] at h
  split at h
  · cases h
  · next hlength =>
    split at h
    · next hfind =>
      cases h
      have hanswers := List.find?_some hfind
      exact ⟨hlength, hanswers⟩
    · cases h

/-- The order of the modes does not matter, since the text names no other. -/
theorem parseAmong_eq_ok (hmem : mode ∈ modes) (h : mode.NamedBy text) :
    parseAmong modes text = .ok mode := by
  obtain ⟨hlength, hanswers⟩ := Begun.iff_lower.mp (namedBy_iff.mp h)
  have hsome : (modes.find? fun mode =>
      mode.answersTo (Text.lower (Text.strip text.toList))).isSome = true :=
    List.find?_isSome.mpr ⟨mode, hmem, hanswers⟩
  obtain ⟨found, hfound⟩ := Option.isSome_iff_exists.mp hsome
  have hfoundAnswers := List.find?_some hfound
  have hnamed : found.NamedBy text := namedBy_iff.mpr (Begun.iff_lower.mpr ⟨hlength, hfoundAnswers⟩)
  simp only [parseAmong]
  rw [if_neg hlength, hfound, hnamed.unique h]

theorem parseAmong_eq_error (h : ∀ mode ∈ modes, ¬ mode.NamedBy text) :
    parseAmong modes text = .error ⟨text⟩ := by
  simp only [namedBy_iff, Begun.iff_lower, not_and] at h
  simp only [parseAmong]
  split
  · rfl
  · next hlength =>
    rw [List.find?_eq_none.mpr fun mode hmode => h mode hmode hlength]

theorem parse_eq_ok_iff : parse text = .ok mode ↔ mode.NamedBy text :=
  ⟨namedBy_of_parseAmong, parseAmong_eq_ok (mem_all mode)⟩

theorem parse_eq_error_iff {e : UnknownAngleMode} :
    parse text = .error e ↔ (∀ mode, ¬ NamedBy mode text) ∧ e = ⟨text⟩ := by
  constructor
  · intro h
    have hno : ∀ mode, ¬ NamedBy mode text := fun mode hnamed => by
      rw [parse_eq_ok_iff.mpr hnamed] at h
      cases h
    rw [parse_eq_parseAmong, parseAmong_eq_error fun mode _ => hno mode] at h
    exact ⟨hno, (Except.error.inj h).symm⟩
  · rintro ⟨hno, rfl⟩
    exact parseAmong_eq_error fun mode _ => hno mode

theorem parseAmong_eq_parse (hmodes : ∀ mode, mode ∈ modes) (text : String) :
    parseAmong modes text = parse text := by
  cases h : parse text with
  | ok mode => exact parseAmong_eq_ok (hmodes mode) (parse_eq_ok_iff.mp h)
  | error e =>
    obtain ⟨hno, rfl⟩ := parse_eq_error_iff.mp h
    exact parseAmong_eq_error fun mode _ => hno mode

theorem not_namedBy_of_not_ascii {c : Char} (hc : c ∈ Text.strip text.toList) (h : 128 ≤ c.toNat) :
    ¬ mode.NamedBy text := fun hnamed =>
  absurd ((namedBy_iff.mp hnamed).ascii c hc) (Nat.not_lt.mpr h)

end AngleMode

/-- A text means a mode if and only if it is, white space around it aside, the beginning of a full
name of the mode, of three letters or more, in ASCII letters of either case. No text means two modes,
so the order in which they are tried does not matter. All other texts are refused, among them those
with a character outside ASCII between the white space. -/
theorem AngleMode.parse_accepts (text : String) :
    (∀ mode, AngleMode.parse text = .ok mode ↔ mode.NamedBy text) ∧
    (∀ mode mode' : AngleMode, mode.NamedBy text → mode'.NamedBy text → mode = mode') ∧
    (∀ modes : List AngleMode, (∀ mode, mode ∈ modes) →
      AngleMode.parseAmong modes text = AngleMode.parse text) ∧
    (∀ e, AngleMode.parse text = .error e ↔
      (∀ mode : AngleMode, ¬ mode.NamedBy text) ∧ e = ⟨text⟩) ∧
    ((∃ c ∈ Text.strip text.toList, 128 ≤ c.toNat) → AngleMode.parse text = .error ⟨text⟩) := by
  refine ⟨fun mode => AngleMode.parse_eq_ok_iff, fun mode mode' => AngleMode.NamedBy.unique,
    fun modes hmodes => AngleMode.parseAmong_eq_parse hmodes text,
    fun e => AngleMode.parse_eq_error_iff, ?_⟩
  rintro ⟨c, hc, hascii⟩
  exact AngleMode.parse_eq_error_iff.mpr
    ⟨fun mode => AngleMode.not_namedBy_of_not_ascii hc hascii, rfl⟩

/-- Four letters of a mode, in white space that is not ASCII, with the modes in another order, and the
same letters with a dotted İ, whose lower case begins with an i. -/
theorem AngleMode.parse_accepts_gradians :
    AngleMode.parse "\u3000GrAd\u0085" = .ok .gradians ∧
    AngleMode.NamedBy .gradians "\u3000GrAd\u0085" ∧
    AngleMode.parseAmong [.gradians, .radians, .degrees] "\u3000GrAd\u0085" = .ok .gradians ∧
    (∃ c ∈ Text.strip "gradİ".toList, 128 ≤ c.toNat) ∧
    AngleMode.parse "gradİ" = .error ⟨"gradİ"⟩ := by
  have hnamed : AngleMode.NamedBy .gradians "\u3000GrAd\u0085" :=
    ⟨['\u3000'], "GrAd".toList, ['\u0085'], rfl, List.forall_mem_singleton.mpr rfl,
      List.forall_mem_singleton.mpr rfl, by decide, "gradians", by decide, by decide⟩
  have hparse := ((AngleMode.parse_accepts "\u3000GrAd\u0085").1 .gradians).mpr hnamed
  have horder := (AngleMode.parse_accepts "\u3000GrAd\u0085").2.2.1
    [.gradians, .radians, .degrees] fun mode => by cases mode <;> decide
  have hdotted : ∃ c ∈ Text.strip "gradİ".toList, 128 ≤ c.toNat :=
    ⟨'İ', by decide, by decide⟩
  exact ⟨hparse, hnamed, horder.trans hparse, hdotted,
    (AngleMode.parse_accepts "gradİ").2.2.2.2 hdotted⟩

end Reckoner
