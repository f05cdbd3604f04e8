import Reckoner.Proofs.Grammar

/-!
# Parsing as an automaton

Whether tokens parse, which error they give and how far they are read is decided by a single pass
from the left (`run`) that remembers what it waits for and how many parentheses are open. The stack
of suspended readers is gone: a derivation takes the automaton from a wanted operand to a complete
one at the same depth (`Moves.of_derives`), whatever its level, so all that a suspended reader has
taken is forgotten, and where a reader fails the automaton is stuck with the same error
(`fails_of_found`). So tokens parse if and only if the automaton accepts them
(`exists_parse_iff_accepts`), and two parts of an expression that derive primaries can stand for each
other without their trees being looked at.
-/

namespace Reckoner

variable {φ : Type}

/-- How a parse ends: its error message, if it fails, and the index of the next token. -/
structure Verdict (φ : Type) where
  error : Option String
  current : Nat
  deriving DecidableEq, Repr

/-- How the parse of some tokens ends. The tokens not read tell the index. -/
def observed (ts : List (Token φ)) : Verdict φ where
  error := match parse ts with
    | .ok _ => none
    | .error e => some e.message
  current := ts.length - (unread ts).length

namespace Automaton

/-- What the automaton waits for. -/
inductive State where
  | operandWanted
  | functionRead
  | operandComplete
  deriving DecidableEq, Repr

/-- A state, and how many parentheses are open. -/
structure Config where
  state : State
  depth : Nat
  deriving DecidableEq, Repr

/-- A step over one token, if there is one. -/
def step : Config → Token φ → Option Config
  | ⟨.operandWanted, d⟩, .number _ => some ⟨.operandComplete, d⟩
  | ⟨.operandWanted, d⟩, .operator .minus => some ⟨.operandWanted, d⟩
  | ⟨.operandWanted, d⟩, .openParen => some ⟨.operandWanted, d + 1⟩
  | ⟨.operandWanted, d⟩, .function _ => some ⟨.functionRead, d⟩
  | ⟨.functionRead, d⟩, .openParen => some ⟨.operandWanted, d + 1⟩
  | ⟨.operandComplete, d⟩, .operator _ => some ⟨.operandWanted, d⟩
  | ⟨.operandComplete, d + 1⟩, .closeParen => some ⟨.operandComplete, d⟩
  | _, _ => none

/-- The verdict at index `i` where there is no step. Only an operand that was wanted is read past. -/
def halt : Config → Nat → Option (Token φ) → Verdict φ
  | ⟨.operandWanted, _⟩, i, some t => ⟨some ("Unexpected token: " ++ t.shown), i + 1⟩
  | ⟨.operandWanted, _⟩, i, none => ⟨some "Unexpected end of token stream", i⟩
  | ⟨.functionRead, _⟩, i, _ => ⟨some "Function must be followed by opening parenthesis", i⟩
  | ⟨.operandComplete, _ + 1⟩, i, _ => ⟨some "Unmatched opening parenthesis", i⟩
  | ⟨.operandComplete, 0⟩, i, some t => ⟨some ("Unexpected token: " ++ t.shown), i⟩
  | ⟨.operandComplete, 0⟩, i, none => ⟨none, i⟩

/-- Steps over the tokens from index `i` on, up to the verdict. -/
def run (c : Config) (i : Nat) : List (Token φ) → Verdict φ
  | [] => halt c i none
  | t :: ts =>
    match step c t with
    | some c' => run c' (i + 1) ts
    | none => halt c i (some t)

theorem run_cons_of_some {c c' : Config} {t : Token φ} (h : step c t = some c') (i : Nat)
    (ts : List (Token φ)) : run c i (t :: ts) = run c' (i + 1) ts := by
  rw [run, h]

theorem run_cons_of_none {c : Config} {t : Token φ} (h : step c t = none) (i : Nat)
    (ts : List (Token φ)) : run c i (t :: ts) = halt c i (some t) := by
  rw [run, h]

/-- Over `used` the automaton goes from `c` to `c'`, whatever follows. -/
def Moves (c : Config) (used : List (Token φ)) (c' : Config) : Prop :=
  ∀ i rest, run c i (used ++ rest) = run c' (i + used.length) rest

namespace Moves
variable {c c' c'' : Config} {us vs : List (Token φ)}

theorem single {t : Token φ} (h : step c t = some c') : Moves c [t] c' :=
  run_cons_of_some h

theorem trans (h : Moves c us c') (h' : Moves c' vs c'') : Moves c (us ++ vs) c'' := by
  intro i rest
  rw [List.append_assoc, h, h', List.length_append, Nat.add_assoc]

theorem cons {t : Token φ} (hs : step c t = some c') (h : Moves c' us c'') :
    Moves c (t :: us) c'' :=
  trans (single hs) h

/-- A derivation completes a wanted operand and closes what it opens. -/
theorem of_derives {l : Level} {used : List (Token φ)} {t : Tree φ} (h : Derives l used t)
    (d : Nat) : Moves ⟨.operandWanted, d⟩ used ⟨.operandComplete, d⟩ := by
  induction h generalizing d with
  | sum _ _ _ iha ihb => exact (iha d).trans (.cons rfl (ihb d))
  | product _ _ _ iha ihb => exact (iha d).trans (.cons rfl (ihb d))
  | power _ _ iha ihb => exact (iha d).trans (.cons rfl (ihb d))
  | ofProduct _ ih => exact ih d
  | ofPower _ ih => exact ih d
  | ofPrimary _ ih => exact ih d
  | number x => exact .single rfl
  | paren _ ih => exact .cons rfl ((ih (d + 1)).trans (.single rfl))
  | negate _ ih => exact .cons rfl (ih d)
  | call f _ ih => exact .cons rfl (.cons rfl ((ih (d + 1)).trans (.single rfl)))

end Moves

/-- Behind a sum that is not closed the automaton is stuck. -/
theorem run_unclosed {ts : List (Token φ)} (hn : NoTighter (Level.sum.height + 1) ts)
    (hc : ts.head? ≠ some .closeParen) (d i : Nat) :
    run ⟨.operandComplete, d + 1⟩ i ts = ⟨some "Unmatched opening parenthesis", i⟩ := by
  match ts with
  | [] => rfl
  | .number _ :: _ => rfl
  | .openParen :: _ => rfl
  | .function _ :: _ => rfl
  | .closeParen :: _ => exact absurd rfl hc
  | .operator op :: _ => exact absurd (hn op _ rfl) (by cases op <;> decide)

/-- Behind a sum that is not inside parentheses nothing else may stand. -/
theorem run_whole {t : Token φ} {ts : List (Token φ)}
    (hn : NoTighter (Level.sum.height + 1) (t :: ts)) (i : Nat) :
    run ⟨.operandComplete, 0⟩ i (t :: ts) = ⟨some ("Unexpected token: " ++ t.shown), i⟩ := by
  cases t with
  | operator op => exact absurd (hn op _ rfl) (by cases op <;> decide)
  | number _ => rfl
  | openParen => rfl
  | function _ => rfl
  | closeParen => rfl

/-! ### Failures -/

/-- From `c` the automaton fails on `ts` with the message of `e`, in front of the tokens that `e`
leaves. -/
def Fails (c : Config) (ts : List (Token φ)) (e : Failure φ) : Prop :=
  ∃ used, ts = used ++ e.rest ∧ ∀ i, run c i ts = ⟨some e.error.message, i + used.length⟩

namespace Fails
variable {c c' : Config} {ts : List (Token φ)} {e : Failure φ}

theorem of_moves {used : List (Token φ)} (hm : Moves c used c') (h : Fails c' ts e) :
    Fails c (used ++ ts) e := by
  obtain ⟨used', rfl, hr⟩ := h
  refine ⟨used ++ used', (List.append_assoc ..).symm, fun i => ?_⟩
  rw [hm, hr, List.length_append, Nat.add_assoc]

theorem cons {t : Token φ} (hs : step c t = some c') (h : Fails c' ts e) : Fails c (t :: ts) e :=
  of_moves (.single hs) h

theorem of_derives {l : Level} {used : List (Token φ)} {t : Tree φ} {d : Nat}
    (hd : Derives l used t) (h : Fails ⟨.operandComplete, d⟩ ts e) :
    Fails ⟨.operandWanted, d⟩ (used ++ ts) e :=
  of_moves (.of_derives hd d) h

/-- What fails behind an opening parenthesis: the sum in it, or the parenthesis that should close. -/
theorem of_parens {wrap : Tree φ → Tree φ} {d : Nat}
    (ih : ∀ e, found .sum ts = .error e → ∀ d, Fails ⟨.operandWanted, d⟩ ts e)
    (h : ((found .sum ts).bind fun p => closed wrap p.1 p.2) = .error e) :
    Fails ⟨.operandWanted, d + 1⟩ ts e := by
  rcases or_of_bind_eq_error h with h | ⟨⟨t, rest⟩, ht, hu⟩
  · exact ih e h (d + 1)
  · obtain ⟨used, rfl, hd, hn⟩ := found_sound _ _ _ _ ht
    obtain ⟨hc, rfl⟩ := eq_of_closed_error hu
    exact of_derives hd ⟨[], rfl, fun i => run_unclosed hn hc d i⟩

end Fails

/-- Where a reader fails, the automaton fails, at any depth. -/
theorem fails_of_found (l : Level) (ts : List (Token φ)) :
    ∀ e, found l ts = .error e → ∀ d, Fails ⟨.operandWanted, d⟩ ts e := by
  induction l, ts using descent_induction
    (Q := fun l left ts => ∀ e, foundBehind l left ts = .error e →
      ∀ d, Fails ⟨.operandComplete, d⟩ ts e) with
  | level l ts hl ih ih' =>
    intro e h d
    rw [found_of_ne_primary hl] at h
    rcases or_of_bind_eq_error h with h | ⟨⟨a, rest⟩, ha, hb⟩
    · exact ih e h d
    · obtain ⟨used, rfl, hd, -⟩ := found_sound _ _ _ _ ha
      exact .of_derives hd (ih' a rest ha e hb d)
  | stop l left ts ho e h =>
    rw [foundBehind_of_none left ho] at h
    cases h
  | operator op left ts ih ih' e h d =>
    rw [foundBehind_operator] at h
    rcases or_of_bind_eq_error h with h | ⟨⟨b, rest⟩, hb, hc⟩
    · exact .cons rfl (ih e h d)
    · obtain ⟨used, rfl, hd, -⟩ := found_sound _ _ _ _ hb
      exact .cons rfl (.of_derives hd (ih' b rest hb e hc d))
  | nil =>
    intro e h d
    rw [found_primary_nil] at h
    cases h
    exact ⟨[], rfl, fun i => rfl⟩
  | number x ts =>
    intro e h
    rw [found_primary_number] at h
    cases h
  | paren ts ih =>
    intro e h d
    rw [found_primary_openParen] at h
    exact .cons rfl (.of_parens ih h)
  | minus ts ih =>
    intro e h d
    rw [found_primary_minus] at h
    cases hp : found .primary ts with
    | ok p => rw [hp] at h; cases h
    | error e' =>
      rw [hp] at h
      cases h
      exact .cons rfl (ih e hp d)
  | call f ts ih =>
    intro e h d
    rw [found_primary_call] at h
    exact .cons rfl (.cons rfl (.of_parens ih h))
  | function f ts hp =>
    intro e h d
    rw [found_primary_function f hp] at h
    cases h
    refine .cons rfl ⟨[], rfl, fun i => ?_⟩
    match ts with
    | [] => rfl
    | .number _ :: _ => rfl
    | .operator _ :: _ => rfl
    | .closeParen :: _ => rfl
    | .function _ :: _ => rfl
    | .openParen :: _ => exact absurd rfl hp
  | other t ts ht =>
    intro e h d
    rw [found_primary_other ht] at h
    cases h
    refine ⟨[t], rfl, fun i => ?_⟩
    have hs : step ⟨.operandWanted, d⟩ t = none := by
      cases t with
      | number x => cases ht
      | openParen => cases ht
      | function f => cases ht
      | closeParen => rfl
      | operator op => cases op <;> first | rfl | cases ht
    exact run_cons_of_none hs ..

theorem fails_of_parseTokens {ts : List (Token φ)} {e : Failure φ} (h : parseTokens ts = .error e) :
    Fails ⟨.operandWanted, 0⟩ ts e := by
  rw [parseTokens_eq] at h
  rcases or_of_bind_eq_error h with h | ⟨⟨t, rest⟩, ht, hw⟩
  · exact fails_of_found _ _ _ h 0
  · obtain ⟨used, rfl, hd, hn⟩ := found_sound _ _ _ _ ht
    cases rest with
    | nil => cases hw
    | cons t' rest =>
      cases hw
      exact .of_derives hd ⟨[], rfl, fun i => run_whole hn i⟩

/-! ### Acceptance -/

section
variable {c c' : Config} {us vs : List (Token φ)}

/-- The automaton ends without an error. -/
def Accepts (c : Config) (ts : List (Token φ)) : Prop :=
  ∀ i, (run c i ts).error = none

theorem halt_error (c : Config) (i j : Nat) (t : Option (Token φ)) :
    (halt c i t).error = (halt c j t).error := by
  obtain ⟨_ | _ | _, _ | d⟩ := c <;> cases t <;> rfl

theorem run_error (c : Config) (i j : Nat) (ts : List (Token φ)) :
    (run c i ts).error = (run c j ts).error := by
  induction ts generalizing c i j with
  | nil => exact halt_error c i j none
  | cons t ts ih =>
    cases hs : step c t with
    | some c' => rw [run_cons_of_some hs, run_cons_of_some hs, ih c' (i + 1) (j + 1)]
    | none => rw [run_cons_of_none hs, run_cons_of_none hs, halt_error c i j]

theorem accepts_iff (i : Nat) {ts : List (Token φ)} : Accepts c ts ↔ (run c i ts).error = none :=
  ⟨fun h => h i, fun h j => (run_error c j i ts).trans h⟩

theorem Moves.accepts_iff (h : Moves c us c') : Accepts c (us ++ vs) ↔ Accepts c' vs := by
  rw [Automaton.accepts_iff 0, h, ← Automaton.accepts_iff]

theorem accepts_cons {t : Token φ} (h : Accepts c (t :: vs)) :
    ∃ c', step c t = some c' ∧ Accepts c' vs := by
  cases hs : step c t with
  | some c' => exact ⟨c', rfl, (Moves.single hs).accepts_iff.mp h⟩
  | none =>
    have h0 := h 0
    rw [run_cons_of_none hs] at h0
    obtain ⟨_ | _ | _, _ | d⟩ := c <;> cases h0

theorem exists_moves_of_accepts (h : Accepts c (us ++ vs)) : ∃ c', Moves c us c' ∧ Accepts c' vs := by
  induction us generalizing c with
  | nil => exact ⟨c, fun i rest => rfl, h⟩
  | cons t us ih =>
    obtain ⟨c', hs, hc'⟩ := accepts_cons h
    obtain ⟨c'', hm, hc''⟩ := ih hc'
    exact ⟨c'', hm.cons hs, hc''⟩

theorem function_of_step {t : Token φ} {d : Nat} (h : step c t = some ⟨.functionRead, d⟩) :
    ∃ f, t = .function f := by
  unfold step at h
  split at h <;> cases h
  exact ⟨_, rfl⟩

/-- Where an opening parenthesis can stand, an operand is wanted, unless a function is in front. -/
theorem wanted_of_accepts (h : Accepts ⟨.operandWanted, 0⟩ (us ++ .openParen :: vs))
    (hf : ∀ f, us.getLast? ≠ some (.function f)) :
    ∃ d, Moves ⟨.operandWanted, 0⟩ us ⟨.operandWanted, d⟩ := by
  rcases List.eq_nil_or_concat us with rfl | ⟨us, t, rfl⟩
  · exact ⟨0, fun i rest => rfl⟩
  rw [List.concat_eq_append] at *
  rw [List.append_assoc] at h
  obtain ⟨c, hm, hc⟩ := exists_moves_of_accepts h
  obtain ⟨⟨state, d⟩, hs, hc'⟩ := accepts_cons hc
  obtain ⟨c'', hs', -⟩ := accepts_cons hc'
  cases state with
  | operandWanted => exact ⟨d, hm.trans (.single hs)⟩
  | operandComplete => cases d <;> cases hs'
  | functionRead =>
    obtain ⟨f, rfl⟩ := function_of_step hs
    exact absurd List.getLast?_concat (hf f)

end
end Automaton

theorem exists_parse_iff_accepts {ts : List (Token φ)} :
    (∃ t, parse ts = .ok t) ↔ Automaton.Accepts ⟨.operandWanted, 0⟩ ts := by
  constructor
  · rintro ⟨t, h⟩
    have hm := Automaton.Moves.of_derives (parse_eq_ok_iff.mp h) 0
    rw [← List.append_nil ts, hm.accepts_iff]
    exact fun i => rfl
  · intro h
    cases hp : parseTokens ts with
    | ok t => exact ⟨t, by rw [parse, hp]; rfl⟩
    | error e =>
      obtain ⟨used, -, hr⟩ := Automaton.fails_of_parseTokens hp
      have h0 := h 0
      rw [hr] at h0
      cases h0

theorem observed_of_ok {ts : List (Token φ)} {t : Tree φ} (h : parseTokens ts = .ok t) :
    observed ts = ⟨none, ts.length⟩ ∧ unread ts = [] := by
  have hu : unread ts = [] := by rw [unread, h]
  refine ⟨?_, hu⟩
  rw [observed, hu, parse, h]
  rfl

theorem observed_of_error {ts : List (Token φ)} {e : Failure φ} (h : parseTokens ts = .error e) :
    observed ts = ⟨some e.error.message, ts.length - e.rest.length⟩ ∧ unread ts = e.rest := by
  have hu : unread ts = e.rest := by rw [unread, h]
  refine ⟨?_, hu⟩
  rw [observed, hu, parse, h]
  rfl

/-- The descent ends as the automaton does, and its index is the number of tokens that it takes. -/
theorem observed_eq_automaton (ts : List (Token φ)) :
    observed ts = Automaton.run ⟨.operandWanted, 0⟩ 0 ts ∧
      ∃ used, ts = used ++ unread ts ∧ (observed ts).current = used.length := by
  cases h : parseTokens ts with
  | ok t =>
    obtain ⟨ho, hu⟩ := observed_of_ok h
    obtain ⟨used, hts, hd, -⟩ := found_sound _ _ _ _ (parseTokens_eq_ok_iff.mp h)
    have hr := Automaton.Moves.of_derives hd 0 0 []
    rw [← hts] at hr
    rw [List.append_nil] at hts
    subst hts
    rw [ho, hu, hr]
    exact ⟨by rw [Nat.zero_add]; rfl, ts, (List.append_nil ts).symm, rfl⟩
  | error e =>
    obtain ⟨ho, hu⟩ := observed_of_error h
    obtain ⟨used, hts, hr⟩ := Automaton.fails_of_parseTokens h
    have hl : ts.length - e.rest.length = used.length := by
      rw [hts, List.length_append]
      omega
    rw [ho, hu, hr, hl, Nat.zero_add]
    exact ⟨rfl, used, hts, rfl⟩

/-- The descent ends as the automaton does: it succeeds on the same tokens, fails with the same
message and stops at the same index, behind which are the tokens it leaves. -/
theorem observed_eq_run (ts : List (Token φ)) :
    observed ts = Automaton.run ⟨.operandWanted, 0⟩ 0 ts ∧
      (observed ts).current ≤ ts.length ∧ unread ts = ts.drop (observed ts).current := by
  obtain ⟨hrun, used, hts, hcurrent⟩ := observed_eq_automaton ts
  have hlength := congrArg List.length hts
  rw [List.length_append] at hlength
  refine ⟨hrun, by omega, ?_⟩
  rw [hcurrent]
  exact (congrArg (List.drop used.length) hts).trans List.drop_left |>.symm

end Reckoner
