import Reckoner.Proofs.Reading
import Reckoner.Proofs.Words

/-!
# Texts put together

A text is lexed part by part where it is cut at a joint (`lexFrom_append`), that is, where a symbol
or a space is on one side of the cut. Numbers end there, and so do names that contain no such
character (`Registers.Unbroken`), whatever else they are made of. So the text reads as the tokens of
its parts, and only so (`reads_append_iff`).
-/

namespace Reckoner
open Scan

variable {φ : Type}

/-- `s` is empty, or a symbol or a space is its last character. -/
def BreaksOff (s : List Char) : Prop :=
  ∀ c, s.getLast? = some c → Between c ∨ c ∈ Token.operatorChars

theorem BreaksOff.breaks {s : List Char} {c : Char} (h : BreaksOff s) (hc : s.getLast? = some c) :
    Breaks [c] := by
  rintro c' ⟨⟩
  exact h c hc

/-- What holds of the first character of `s`, and of that of `t` where `s` is empty. -/
theorem head?_append {P : Char → Prop} {s t : List Char} (hs : ∀ c, s.head? = some c → P c)
    (ht : s = [] → ∀ c, t.head? = some c → P c) : ∀ c, (s ++ t).head? = some c → P c := by
  cases s with
  | nil => exact ht rfl
  | cons d s => exact hs

theorem of_head?_append {P : Char → Prop} {s t : List Char}
    (h : ∀ c, (s ++ t).head? = some c → P c) : ∀ c, s.head? = some c → P c := by
  cases s with
  | nil => exact fun c hc => by cases hc
  | cons d s => exact h

/-- A cut with a symbol or a space on one of its sides. -/
def Joint (s t : List Char) : Prop :=
  BreaksOff s ∨ Breaks t

namespace Joint
variable {s t u : List Char}

theorem nil (t : List Char) : Joint [] t :=
  .inl fun c hc => by cases hc

theorem tail (h : Joint (s ++ t) u) : Joint t u := by
  by_cases ht : t = []
  · rw [ht]
    exact .nil u
  · refine h.imp_left fun hs c hc => hs c ?_
    rw [List.getLast?_append_of_ne_nil s ht]
    exact hc

/-- Behind a text without symbols and spaces, the break is on the other side. -/
theorem breaks {P : Char → Prop} (h : Joint s t) (hne : s ≠ []) (hs : ∀ c ∈ s, P c)
    (hP : ∀ c, Breaks [c] → ¬ P c) : Breaks t := by
  refine h.resolve_left fun hb => ?_
  have hlast := List.getLast?_eq_some_getLast hne
  exact hP _ (hb.breaks hlast) (hs _ (List.getLast_mem hne))

end Joint

/-- The names of the registers are not empty and have no symbols and no spaces in them. -/
structure Registers.Unbroken (r : Registers φ) : Prop where
  ne_empty : "" ∉ r.names
  not_breaks : ∀ n ∈ r.names, ∀ c ∈ n.toList, ¬ Breaks [c]

theorem Registers.unbroken_iff {r : Registers φ} :
    r.Unbroken ↔ "" ∉ r.names ∧
      r.names.all (fun n => n.toList.all fun c => ¬ Breaks [c]) = true := by
  simp only [List.all_eq_true, decide_eq_true_eq]
  exact ⟨fun h => ⟨h.ne_empty, h.not_breaks⟩, fun h => ⟨h.1, h.2⟩⟩

instance (r : Registers φ) : Decidable r.Unbroken :=
  decidable_of_iff' _ Registers.unbroken_iff

theorem Registers.Alphanumeric.unbroken {r : Registers φ} (hr : r.Alphanumeric) : r.Unbroken := by
  refine ⟨hr.ne_empty, fun n hn c hc hb => ?_⟩
  have hchar := hr.nameChars n hn c hc
  rw [hb.endsBefore c rfl] at hchar
  cases hchar

theorem Scan.Maximal.append {s rest t : List Char} (h : Maximal InNumber s rest)
    (hj : Joint (s ++ rest) t) : Maximal InNumber s (rest ++ t) := by
  refine ⟨h.ne_nil, h.all, head?_append h.stops ?_⟩
  rintro rfl
  rw [List.append_nil] at hj
  exact (hj.breaks h.ne_nil h.all fun c hc => hc.not_inNumber c rfl).not_inNumber

/-! ### Names at a joint -/

namespace Registers.Unbroken
variable {r : Registers φ} {name rest s t : List Char}

theorem not_breaks_of_mem (hr : r.Unbroken) (hn : String.ofList name ∈ r.names) :
    ∀ c ∈ name, ¬ Breaks [c] := by
  intro c hc
  refine hr.not_breaks _ hn c ?_
  rwa [String.toList_ofList]

/-- A name does not go over a joint. -/
theorem exists_rest (hr : r.Unbroken) (hj : Joint s t) (hne : s ≠ [])
    (hn : String.ofList name ∈ r.names) (h : s ++ t = name ++ rest)
    (hrest : Lexicon.EndsBefore rest) :
    ∃ mid, s = name ++ mid ∧ Lexicon.EndsBefore mid := by
  rcases List.append_eq_append_iff.mp h with ⟨more, rfl, rfl⟩ | ⟨mid, rfl, rfl⟩
  · have hchars := hr.not_breaks_of_mem hn
    cases more with
    | nil => exact ⟨[], by simp, .nil⟩
    | cons d more =>
      have hb : Breaks (d :: more ++ rest) :=
        hj.breaks hne (fun c hc => hchars c (List.mem_append_left _ hc)) fun c hc => not_not_intro hc
      refine absurd ?_ (hchars d (by simp))
      rintro d' ⟨⟩
      exact hb d rfl
  · exact ⟨mid, rfl, of_head?_append hrest⟩

theorem longest_append (hr : r.Unbroken) (hl : r.Longest name rest) (hj : Joint (name ++ rest) t) :
    r.Longest name (rest ++ t) := by
  have hne : name ≠ [] := by
    rintro rfl
    exact hr.ne_empty hl.mem
  have hends : Lexicon.EndsBefore (rest ++ t) := by
    refine head?_append hl.ends ?_
    rintro rfl
    rw [List.append_nil] at hj
    have hchars := hr.not_breaks_of_mem hl.mem
    exact (hj.breaks hne hchars fun c hc => not_not_intro hc).endsBefore
  refine ⟨hl.mem, hends, fun other rest' ho hor hrest' => ?_⟩
  rw [← List.append_assoc] at hor
  obtain ⟨mid, hmid, hend⟩ := hr.exists_rest hj (List.append_ne_nil_of_left_ne_nil hne _) ho hor hrest'
  exact hl.longest other mid ho hmid hend

end Registers.Unbroken

/-! ### Lexing part by part -/

namespace Lexed

/-- What is lexed behind `l`, which comes to nothing if `l` ends in an error. -/
def append (l m : Lexed φ) : Lexed φ :=
  match l.error with
  | none => ⟨l.tokens ++ m.tokens, m.error⟩
  | some _ => l

theorem append_cons (t : Token φ) (l m : Lexed φ) : (l.cons t).append m = (l.append m).cons t := by
  obtain ⟨us, e⟩ := l
  cases e <;> rfl

theorem append_eq_iff {l m : Lexed φ} {ts : List (Token φ)} :
    l.append m = ⟨ts, none⟩ ↔
      ∃ us vs, ts = us ++ vs ∧ l = ⟨us, none⟩ ∧ m = ⟨vs, none⟩ := by
  obtain ⟨us, e⟩ := l
  obtain ⟨vs, e'⟩ := m
  cases e with
  | none =>
    simp only [append, mk.injEq, and_true]
    constructor
    · rintro ⟨rfl, rfl⟩
      exact ⟨us, vs, rfl, rfl, rfl, rfl⟩
    · rintro ⟨_, _, rfl, rfl, rfl, rfl⟩
      exact ⟨rfl, rfl⟩
  | some e => simp [append]

end Lexed

section
variable {r : Registers φ} {L : Lexicon φ} {p : Nat} {s t : List Char} {ts : List (Token φ)}

theorem lexFrom_skip {gap : List Char} (hgap : ∀ c ∈ gap, Between c) :
    L.lexFrom p (gap ++ s) = L.lexFrom (p + gap.length) s := by
  -- the spaces in front of `s` are skipped together with those of `gap`
  have hsplit : s = s.takeWhile isSpace ++ s.dropWhile isSpace :=
    List.takeWhile_append_dropWhile.symm
  have hmore : ∀ c ∈ s.takeWhile isSpace, Between c := fun c hc =>
    (isSpace_iff c).mp (List.all_eq_true.mp (List.all_takeWhile ..) c hc)
  have hstop : ∀ c, (s.dropWhile isSpace).head? = some c → ¬ Between c := by
    intro c hc hb
    have := Stops.dropWhile s c hc
    rw [(isSpace_iff c).mpr hb] at this
    cases this
  rw [hsplit, lexFrom_gap hmore hstop, ← List.append_assoc,
    lexFrom_gap (List.forall_mem_append.mpr ⟨hgap, hmore⟩) hstop, List.length_append, Nat.add_assoc]

/-- A text that is cut at a joint is lexed up to the joint and, if there is no error, from there. -/
theorem lexFrom_append (hL : L.Lists r) (hr : r.Unbroken) (hj : Joint s t) :
    L.lexFrom p (s ++ t) = (L.lexFrom p s).append (L.lexFrom (p + s.length) t) := by
  induction p, s using lexeme_induction with
  | done p => rw [Lexicon.lexFrom_nil]; rfl
  | number p run rest hrun ih =>
    rw [List.append_assoc, lexFrom_number (hrun.append hj), lexFrom_number hrun]
    cases Number.ofLiteral? run with
    | none => rfl
    | some x =>
      show (L.lexFrom (p + run.length) (rest ++ t)).cons (.number x) = _
      rw [ih hj.tail, ← Lexed.append_cons, List.length_append, Nat.add_assoc]
  | operator p c s hc ih =>
    obtain ⟨tok, hop⟩ := exists_ofOperatorChar? hc
    have hj' : Joint s t := Joint.tail (s := [c]) hj
    rw [List.cons_append, Lexicon.lexFrom_operator hop, Lexicon.lexFrom_operator hop, ih hj',
      ← Lexed.append_cons, List.length_cons, Nat.add_right_comm, Nat.add_assoc]
  | space p run rest hrun ih =>
    rw [List.append_assoc, lexFrom_skip hrun.all, lexFrom_between hrun, ih hj.tail,
      List.length_append, Nat.add_assoc]
  | name p c s hc behind =>
    have hc' := atMostName_of_head? (s := s) hc
    rcases longest_or_none hr.ne_empty (c :: s) with ⟨name, rest, tok, hs, hname, hl, hm⟩ | hno
    · rw [hs] at hc' hj ⊢
      have hhead : ∀ c, (name ++ (rest ++ t)).head? = some c → AtMostName c := by
        rw [← List.append_assoc]
        refine head?_append hc' fun h => absurd h ?_
        exact List.append_ne_nil_of_left_ne_nil hname _
      have hl' := hr.longest_append hl hj
      rw [List.append_assoc, lexFrom_longest hL hr.ne_empty hhead hl' hm,
        lexFrom_longest hL hr.ne_empty hc' hl hm, behind name rest hname hs hj.tail,
        ← Lexed.append_cons, List.length_append, Nat.add_assoc]
    · have hnone : ∀ name rest, String.ofList name ∈ r.names → c :: (s ++ t) = name ++ rest →
          ¬ Lexicon.EndsBefore rest := by
        intro name rest hn h hrest
        obtain ⟨mid, hmid, hend⟩ := hr.exists_rest hj (List.cons_ne_nil _ _) hn h hrest
        exact hno name mid hn hmid hend
      have hopen := atMostName_iff.mp hc
      rw [Lexicon.lexFrom_none hopen ((hL.entryAt?_eq_none_iff hr.ne_empty).mpr hno),
        List.cons_append,
        Lexicon.lexFrom_none hopen ((hL.entryAt?_eq_none_iff hr.ne_empty).mpr hnone)]
      rfl

/-! ### Reading part by part -/

namespace Lexicon

theorem reads_append_iff (hL : L.Lists r) (hr : r.Alphanumeric) (hj : Joint s t) :
    L.Reads (s ++ t) ts ↔ ∃ us vs, ts = us ++ vs ∧ L.Reads s us ∧ L.Reads t vs := by
  rw [reads_iff (p := 0), lexFrom_append hL hr.unbroken hj, Lexed.append_eq_iff]
  simp only [← reads_iff]

theorem reads_operator_iff {c : Char} {tok : Token φ} (hc : (c, tok) ∈ operators) :
    L.Reads (c :: s) ts ↔ ∃ us, ts = tok :: us ∧ L.Reads s us := by
  rw [reads_iff (p := 0), lexFrom_operator (mem_operators_iff.mp hc), Lexed.cons_eq_iff]
  simp only [← reads_iff]

theorem reads_literal_iff {run : List Char} (hall : ∀ c ∈ run, InNumber c) (hnum : IsNumber run)
    (hs : ∀ c, s.head? = some c → ¬ InNumber c) :
    L.Reads (run ++ s) ts ↔ ∃ us, ts = .number (Number.ofLiteral run) :: us ∧ L.Reads s us := by
  have hne : run ≠ [] := by
    obtain ⟨⟨c, hc, -⟩, -⟩ := hnum
    exact List.ne_nil_of_mem hc
  rw [reads_iff (p := 0), lexFrom_number ⟨hne, hall, hs⟩, ofLiteral?_of_isNumber hall hnum]
  show (L.lexFrom _ s).cons _ = _ ↔ _
  rw [Lexed.cons_eq_iff]
  simp only [← reads_iff]

end Lexicon
end

end Reckoner
