import Reckoner.Proofs.Joints

/-!
# Wider registers

Registers may get more names (`Registers.ExtendedBy`). If all names are made of the characters that
carry a name on, only a whole run of such characters is a name (`Alphanumeric.longest`). A new name
therefore takes no part of a text that an old one had, and none that stood open between two old ones.
So a text is lexed as before, or it was refused and goes on where that happened, with a new name
(`lexFrom_extended`). In what order entries of different names stand does not matter at all
(`Reordered`).
-/

namespace Reckoner
open Scan

variable {φ : Type}

/-- `r'` has all entries of `r` and, anywhere among them, more of names that `r` does not have. -/
structure Registers.ExtendedBy (r r' : Registers φ) : Prop where
  functions : r'.functions.filter (fun f => f.name ∈ r.names) = r.functions
  constants : r'.constants.filter (fun c => c.name ∈ r.names) = r.constants

/-- Entries in another order: neighbours of different names change places any number of times. -/
inductive Reordered {α : Type} (name : α → String) : List α → List α → Prop
  | refl (xs : List α) : Reordered name xs xs
  | swap (before after : List α) {a b : α} (h : name a ≠ name b) :
      Reordered name (before ++ a :: b :: after) (before ++ b :: a :: after)
  | trans {xs ys zs : List α} (h : Reordered name xs ys) (h' : Reordered name ys zs) :
      Reordered name xs zs

/-- The functions are in another order, and so are the constants. -/
structure Registers.ReorderedTo (r r' : Registers φ) : Prop where
  functions : Reordered UnaryFunction.name r.functions r'.functions
  constants : Reordered Constant.name r.constants r'.constants

/-- Where in a text an error is. -/
def LexError.position : LexError → Nat
  | invalidNumber _ p => p
  | invalidToken _ p => p

/-! ### What names stand for -/

/-- What is taken out behind the last match does not change it. -/
theorem find?_reverse_filter {α : Type} {p q : α → Bool} (h : ∀ a, q a = true → p a = true)
    (xs : List α) : (xs.filter p).reverse.find? q = xs.reverse.find? q := by
  rw [← List.filter_reverse, List.find?_filter]
  congr 1
  funext a
  cases hq : q a with
  | false => simp
  | true => simp [h a hq]

namespace Reordered
variable {α : Type} {name : α → String} {xs ys : List α}

theorem filter_eq (h : Reordered name xs ys) (n : String) :
    xs.filter (fun a => name a == n) = ys.filter (fun a => name a == n) := by
  induction h with
  | refl xs => rfl
  | @swap before after a b hne =>
    rw [List.filter_append, List.filter_append]
    congr 1
    by_cases ha : name a = n
    · have hb : ¬ name b = n := fun hb => hne (ha.trans hb.symm)
      simp [ha, hb]
    · simp [List.filter_cons, ha]
  | trans _ _ ih ih' => exact ih.trans ih'

theorem find?_reverse_eq (h : Reordered name xs ys) (n : String) :
    xs.reverse.find? (fun a => name a == n) = ys.reverse.find? (fun a => name a == n) := by
  rw [← find?_reverse_filter (fun _ => id) xs, h.filter_eq n, find?_reverse_filter (fun _ => id) ys]

end Reordered

namespace Registers
variable {r r' : Registers φ} {name : String} {t : Token φ}

theorem token?_congr (hf : r.function? name = r'.function? name)
    (hc : r.constant? name = r'.constant? name) : r.token? name = r'.token? name := by
  rw [token?, token?, hf, hc]

theorem ReorderedTo.means_iff (h : r.ReorderedTo r') : r.Means name t ↔ r'.Means name t := by
  rw [← token?_eq_some_iff, ← token?_eq_some_iff,
    token?_congr (h.functions.find?_reverse_eq name) (h.constants.find?_reverse_eq name)]

namespace ExtendedBy

theorem names_subset (h : r.ExtendedBy r') : r.names ⊆ r'.names := by
  have hf : r.functions ⊆ r'.functions := h.functions ▸ List.filter_sublist.subset
  have hc : r.constants ⊆ r'.constants := h.constants ▸ List.filter_sublist.subset
  intro n hn
  rcases List.mem_append.mp hn with hn | hn
  · exact List.mem_append_left _ (List.map_subset _ hf hn)
  · exact List.mem_append_right _ (List.map_subset _ hc hn)

theorem alphanumeric (h : r.ExtendedBy r') (hr' : r'.Alphanumeric) : r.Alphanumeric :=
  ⟨fun hn => hr'.ne_empty (h.names_subset hn), fun n hn => hr'.nameChars n (h.names_subset hn)⟩

/-- A name stands for what it stood for. -/
theorem means (h : r.ExtendedBy r') (hm : r.Means name t) : r'.Means name t := by
  have hname := hm.mem_names
  rw [← token?_eq_some_iff] at hm ⊢
  rw [← hm]
  have hf : r'.function? name = r.function? name := by
    rw [function?, function?, ← h.functions, find?_reverse_filter]
    intro f hf
    exact decide_eq_true (beq_iff_eq.mp hf ▸ hname)
  have hc : r'.constant? name = r.constant? name := by
    rw [constant?, constant?, ← h.constants, find?_reverse_filter]
    intro c hc
    exact decide_eq_true (beq_iff_eq.mp hc ▸ hname)
  exact token?_congr hf hc

end ExtendedBy
end Registers

/-! ### Lexing with more names -/

/-- The text `before ++ name ++ behind`, which starts at `p`, is refused under `r` behind `before`.
Under `r'` it goes on there, with a name that `r` does not have. -/
structure Resumes (r r' : Registers φ) (p : Nat) (before name behind : List Char)
    (ts : List (Token φ)) (t : Token φ) : Prop where
  mem : String.ofList name ∈ r'.names
  new : String.ofList name ∉ r.names
  means : r'.Means (String.ofList name) t
  lexed_before : (Lexicon.ofRegisters r').lexFrom p before = ⟨ts, none⟩
  refused : ∃ c, (Lexicon.ofRegisters r).lexFrom p (before ++ name ++ behind) =
    ⟨ts, some (.invalidToken c (p + before.length))⟩
  resumed : (Lexicon.ofRegisters r').lexFrom p (before ++ name ++ behind) =
    (⟨ts, none⟩ : Lexed φ).append
      (((Lexicon.ofRegisters r').lexFrom (p + (before ++ name).length) behind).cons t)

/-- The text is lexed under `r'` as under `r`, or it resumes where it was refused. -/
def SameOrResumes (r r' : Registers φ) (p : Nat) (s : List Char) : Prop :=
  (Lexicon.ofRegisters r').lexFrom p s = (Lexicon.ofRegisters r).lexFrom p s ∨
    ∃ before name behind ts t, s = before ++ name ++ behind ∧
      Resumes r r' p before name behind ts t

/-- `run` is lexed as `us` in front of `s`. -/
def Lexicon.Fronts (L : Lexicon φ) (p : Nat) (run : List Char) (us : List (Token φ))
    (s : List Char) : Prop :=
  L.lexFrom p (run ++ s) = (⟨us, none⟩ : Lexed φ).append (L.lexFrom (p + run.length) s)

theorem Lexed.append_append (us vs : List (Token φ)) (l : Lexed φ) :
    (⟨us, none⟩ : Lexed φ).append ((⟨vs, none⟩ : Lexed φ).append l) =
      (⟨us ++ vs, none⟩ : Lexed φ).append l := by
  simp [append]

section
variable {r r' : Registers φ} {p : Nat} {run rest : List Char} {us : List (Token φ)}

/-- What is lexed alike in front of a text, and of all it starts with, makes no difference. -/
theorem SameOrResumes.step (run : List Char) (us : List (Token φ)) (h : ∀ s, s <+: rest →
      (Lexicon.ofRegisters r).Fronts p run us s ∧ (Lexicon.ofRegisters r').Fronts p run us s)
    (ih : SameOrResumes r r' (p + run.length) rest) : SameOrResumes r r' p (run ++ rest) := by
  obtain ⟨hrest, hrest'⟩ := h rest List.prefix_rfl
  rcases ih with ih | ⟨before, name, behind, ts, t, rfl, hresumes⟩
  · left
    rw [hrest', hrest, ih]
  · right
    refine ⟨run ++ before, name, behind, us ++ ts, t, by simp only [List.append_assoc],
      hresumes.mem, hresumes.new, hresumes.means, ?_, ?_, ?_⟩
    · have hbefore := (h before (by simp only [List.append_assoc, List.prefix_append])).2
      rw [hbefore, hresumes.lexed_before]
      rfl
    · obtain ⟨c, hc⟩ := hresumes.refused
      refine ⟨c, ?_⟩
      simp only [List.append_assoc] at hrest hc ⊢
      rw [hrest, hc, List.length_append, Nat.add_assoc]
      rfl
    · have hresumed := hresumes.resumed
      simp only [List.append_assoc] at hrest' hresumed ⊢
      rw [hrest', hresumed, Lexed.append_append]
      simp only [List.length_append, Nat.add_assoc]

theorem Scan.Maximal.of_isPrefix {P : Char → Prop} {s : List Char} (h : Maximal P run rest)
    (hs : s <+: rest) : Maximal P run s := by
  obtain ⟨more, rfl⟩ := hs
  exact ⟨h.ne_nil, h.all, of_head?_append h.stops⟩

theorem fronts_number (h : Maximal InNumber run rest) {x : Float}
    (hx : Number.ofLiteral? run = some x) (L : Lexicon φ) : L.Fronts p run [.number x] rest := by
  rw [Lexicon.Fronts, lexFrom_number h, hx]
  rfl

/-- A name is read where it may end, whatever other names there are. -/
theorem fronts_name (hr : r.Alphanumeric) {name : List Char} {t : Token φ}
    (hm : r.Means (String.ofList name) t) (hend : Lexicon.EndsBefore rest)
    (hc : ∀ c, (name ++ rest).head? = some c → AtMostName c) :
    (Lexicon.ofRegisters r).Fronts p name [t] rest := by
  rw [Lexicon.Fronts,
    lexFrom_longest (Lexicon.lists_ofRegisters r) hr.ne_empty hc (hr.longest hm.mem_names hend) hm]
  rfl

/-- Where only a name may start and none that is known does, a new name may. -/
theorem sameOrResumes_of_none (hr : r.Alphanumeric) (hr' : r'.Alphanumeric) {c : Char}
    {s : List Char} (hc : AtMostName c)
    (hno : ∀ name rest, String.ofList name ∈ r.names → c :: s = name ++ rest →
      ¬ Lexicon.EndsBefore rest) : SameOrResumes r r' p (c :: s) := by
  have hL := Lexicon.lists_ofRegisters r
  have hL' := Lexicon.lists_ofRegisters r'
  have hnone : (Lexicon.ofRegisters r).lexFrom p (c :: s) = ⟨[], some (.invalidToken c p)⟩ :=
    Lexicon.lexFrom_none (atMostName_iff.mp hc) ((hL.entryAt?_eq_none_iff hr.ne_empty).mpr hno)
  have hhead := atMostName_of_head? (s := s) hc
  rcases longest_or_none hr'.ne_empty (c :: s) with ⟨name, rest, t, hs, -, hl, hm⟩ | hno'
  · right
    rw [hs] at hhead hnone
    refine ⟨[], name, rest, [], t, hs, hl.mem, fun hold => hno name rest hold hs hl.ends, hm,
      Lexicon.lexFrom_nil, ⟨c, hnone⟩, fronts_name hr' hm hl.ends hhead⟩
  · left
    rw [hnone]
    exact Lexicon.lexFrom_none (atMostName_iff.mp hc)
      ((hL'.entryAt?_eq_none_iff hr'.ne_empty).mpr hno')

/-- More names change nothing that was lexed. -/
theorem lexFrom_extended (h : r.ExtendedBy r') (hr' : r'.Alphanumeric) (p : Nat) (s : List Char) :
    SameOrResumes r r' p s := by
  have hr := h.alphanumeric hr'
  induction p, s using lexeme_induction with
  | done p =>
    left
    rw [Lexicon.lexFrom_nil, Lexicon.lexFrom_nil]
  | number p run rest hrun ih =>
    cases hx : Number.ofLiteral? run with
    | none =>
      left
      rw [lexFrom_number hrun, lexFrom_number hrun, hx]
    | some x =>
      refine .step run [.number x] (fun s hs => ?_) ih
      exact ⟨fronts_number (hrun.of_isPrefix hs) hx _, fronts_number (hrun.of_isPrefix hs) hx _⟩
  | operator p c s hc ih =>
    obtain ⟨t, ht⟩ := exists_ofOperatorChar? hc
    refine .step [c] [t] (fun s _ => ?_) ih
    exact ⟨Lexicon.lexFrom_operator ht, Lexicon.lexFrom_operator ht⟩
  | space p run rest hrun ih =>
    refine .step run [] (fun s hs => ?_) ih
    exact ⟨lexFrom_between (hrun.of_isPrefix hs), lexFrom_between (hrun.of_isPrefix hs)⟩
  | name p c s hc behind =>
    rcases longest_or_none hr.ne_empty (c :: s) with ⟨name, rest, t, hs, hname, hl, hm⟩ | hno
    · -- an old name is a whole run of name characters, so no new one reaches past its end
      have hhead := atMostName_of_head? (s := s) hc
      rw [hs] at hhead ⊢
      refine .step name [t] (fun s' hs' => ?_) (behind name rest hname hs)
      obtain ⟨more, rfl⟩ := hs'
      have hend := of_head?_append hl.ends
      rw [← List.append_assoc] at hhead
      have hhead' := of_head?_append hhead
      exact ⟨fronts_name hr hm hend hhead', fronts_name hr' (h.means hm) hend hhead'⟩
    · exact sameOrResumes_of_none hr hr' hc hno

end

section
variable {r r' : Registers φ} {text : String}

/-- What is lexed alike is read and evaluated alike. -/
theorem Calculator.new_congr [Callable φ]
    (h : (Lexicon.ofRegisters r').lex text = (Lexicon.ofRegisters r).lex text) (mode : AngleMode) :
    (new mode r').tree text = (new mode r).tree text ∧
      (new mode r').evaluate text = (new mode r).evaluate text := by
  have htree : (new mode r').tree text = (new mode r).tree text := by
    simp only [tree, tokens, new, h]
  rw [evaluate_eq, evaluate_eq, htree]
  exact ⟨rfl, rfl⟩

theorem Registers.ReorderedTo.lex_eq (h : r.ReorderedTo r') (hne : "" ∉ r.names) (text : String) :
    (Lexicon.ofRegisters r').lex text = (Lexicon.ofRegisters r).lex text := by
  have hL' := Lexicon.lists_ofRegisters r'
  have hL : (Lexicon.ofRegisters r').Lists r :=
    ⟨fun n t => (hL'.mem_iff n t).trans h.means_iff.symm, hL'.longestFirst⟩
  exact lexFrom_eq_of_lists hL (Lexicon.lists_ofRegisters r) hne 0 text.toList

end

/-- Registers with more names, all of letters and numbers, lex what they lexed before as the same
tokens, so it has the same tree and the same value. A text that was refused has the same tokens up to
there, and then the same error or, at the place of the error, a new name. The order of entries of
different names does not matter. -/
theorem lex_extended [Callable φ] {r r' : Registers φ} (hr' : r'.Alphanumeric) (h : r.ExtendedBy r')
    (text : String) :
    let L := Lexicon.ofRegisters r
    let L' := Lexicon.ofRegisters r'
    (∀ ts, L.lex text = ⟨ts, none⟩ → L'.lex text = ⟨ts, none⟩ ∧
      ∀ mode, (Calculator.new mode r').tree text = (Calculator.new mode r).tree text ∧
        (Calculator.new mode r').evaluate text = (Calculator.new mode r).evaluate text) ∧
    (∀ ts e, L.lex text = ⟨ts, some e⟩ → L'.lex text = ⟨ts, some e⟩ ∨
      ∃ before name behind t, text = before ++ name ++ behind ∧ before.length = e.position ∧
        name ∈ r'.names ∧ name ∉ r.names ∧ r'.Means name t ∧ L'.lex before = ⟨ts, none⟩ ∧
        L'.lex text = (⟨ts, none⟩ : Lexed φ).append
          ((L'.lexFrom (before ++ name).length behind.toList).cons t)) ∧
    ∀ r'', r'.ReorderedTo r'' → (Lexicon.ofRegisters r'').lex text = L'.lex text ∧
      ∀ mode, (Calculator.new mode r'').tree text = (Calculator.new mode r').tree text ∧
        (Calculator.new mode r'').evaluate text = (Calculator.new mode r').evaluate text := by
  intro L L'
  have hcases := lexFrom_extended h hr' 0 text.toList
  refine ⟨fun ts hts => ?_, fun ts e hts => ?_, fun r'' hr'' => ?_⟩
  · have hlex : L'.lex text = L.lex text := by
      rcases hcases with hsame | ⟨before, name, behind, ts', t, hs, hresumes⟩
      · exact hsame
      · obtain ⟨c, hc⟩ := hresumes.refused
        rw [← hs] at hc
        cases hts.symm.trans hc
    exact ⟨hlex.trans hts, Calculator.new_congr hlex⟩
  · rcases hcases with hsame | ⟨before, name, behind, ts', t, hs, hresumes⟩
    · exact .inl (hsame.trans hts)
    · right
      obtain ⟨c, hc⟩ := hresumes.refused
      have hresumed := hresumes.resumed
      rw [← hs] at hc hresumed
      cases hts.symm.trans hc
      refine ⟨String.ofList before, String.ofList name, String.ofList behind, t, ?_, ?_, hresumes.mem,
        hresumes.new, hresumes.means, ?_, ?_⟩
      · rw [← String.toList_inj, hs]
        simp
      · simp [LexError.position]
      · rw [Lexicon.lex, String.toList_ofList]
        exact hresumes.lexed_before
      · simpa [Lexicon.lex] using hresumed
  · have hlex := hr''.lex_eq hr'.ne_empty text
    exact ⟨hlex, Calculator.new_congr hlex⟩

/-- New names that begin like old ones, that old ones begin like, and in any place. The text that was
refused at its second name goes on there. -/
theorem lex_extended_log2 :
    let r : Registers Operation := ⟨[⟨"log", .log⟩], [⟨"e", 3⟩]⟩
    let r' : Registers Operation :=
      ⟨[⟨"lo", .sin⟩, ⟨"log", .log⟩, ⟨"log2", .log2⟩], [⟨"ee", 7⟩, ⟨"e", 3⟩]⟩
    let r'' : Registers Operation :=
      ⟨[⟨"log", .log⟩, ⟨"lo", .sin⟩, ⟨"log2", .log2⟩], [⟨"ee", 7⟩, ⟨"e", 3⟩]⟩
    r'.Alphanumeric ∧ r.ExtendedBy r' ∧ r'.ReorderedTo r'' ∧
    (Lexicon.ofRegisters r).lex "log(e)" =
      ⟨[.function ⟨"log", .log⟩, .openParen, .number 3, .closeParen], none⟩ ∧
    (Lexicon.ofRegisters r').lex "log(e)" =
      ⟨[.function ⟨"log", .log⟩, .openParen, .number 3, .closeParen], none⟩ ∧
    (Lexicon.ofRegisters r).lex "e*log2(1)" =
      ⟨[.number 3, .operator .multiply], some (.invalidToken 'l' 2)⟩ ∧
    (∃ before name behind t, "e*log2(1)" = before ++ name ++ behind ∧ before.length = 2 ∧
      name ∈ r'.names ∧ name ∉ r.names ∧ r'.Means name t) ∧
    (Lexicon.ofRegisters r'').lex "e*log2(1)" = (Lexicon.ofRegisters r').lex "e*log2(1)" := by
  intro r r' r''
  have hr' : r'.WellNamed := by decide +kernel
  have hextended : r.ExtendedBy r' := ⟨by decide +kernel, by decide +kernel⟩
  have hdifferent : (⟨"lo", .sin⟩ : UnaryFunction Operation).name ≠
      (⟨"log", .log⟩ : UnaryFunction Operation).name := by
    decide
  have hreordered : r'.ReorderedTo r'' :=
    ⟨.swap [] [(⟨"log2", .log2⟩ : UnaryFunction Operation)] hdifferent, .refl _⟩
  have hlexed : (Lexicon.ofRegisters r).lex "log(e)" =
      ⟨[.function ⟨"log", .log⟩, .openParen, .number 3, .closeParen], none⟩ := by decide +kernel
  have hrefused : (Lexicon.ofRegisters r).lex "e*log2(1)" =
      ⟨[.number 3, .operator .multiply], some (.invalidToken 'l' 2)⟩ := by decide +kernel
  obtain ⟨hsame, -, -⟩ := lex_extended hr'.toAlphanumeric hextended "log(e)"
  obtain ⟨-, hresumes, horder⟩ := lex_extended hr'.toAlphanumeric hextended "e*log2(1)"
  refine ⟨hr'.toAlphanumeric, hextended, hreordered, hlexed, (hsame _ hlexed).1, hrefused, ?_,
    (horder r'' hreordered).1⟩
  rcases hresumes _ _ hrefused with herror | ⟨before, name, behind, t, htext, hp, hn, hnew, hm, -⟩
  · exact absurd herror (by decide +kernel)
  · exact ⟨before, name, behind, t, htext, hp, hn, hnew, hm⟩

end Reckoner
