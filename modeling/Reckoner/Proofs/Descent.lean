import Reckoner.Parser

/-!
# The descent without its bounds

The readers of `Reckoner.Parser` carry a bound on what they leave, which their results depend on.
`found` and `foundBehind` are what they find, as a tree and the tokens left, or why they fail. Both
obey plain equations, one for each thing a reader can do (`found_of_ne_primary`, `foundBehind_*`,
`found_primary_*`), and `descent_induction` is the induction along these equations. Nothing outside
this file opens a reader.
-/

namespace Reckoner

variable {φ : Type}

section
variable {ε α β : Type} {x : Except ε α} {f : α → Except ε β}

theorem exists_of_bind_eq_ok {b : β} (h : x.bind f = .ok b) : ∃ a, x = .ok a ∧ f a = .ok b := by
  cases x with
  | error e => cases h
  | ok a => exact ⟨a, rfl, h⟩

theorem or_of_bind_eq_error {e : ε} (h : x.bind f = .error e) :
    x = .error e ∨ ∃ a, x = .ok a ∧ f a = .error e := by
  cases x with
  | error e' => exact .inl (congrArg Except.error (Except.error.inj h))
  | ok a => exact .inr ⟨a, rfl, h⟩

end

/-- A tree and the tokens behind it, or a failure. -/
abbrev Found (φ : Type) := Except (Failure φ) (Tree φ × List (Token φ))

/-- What a reader finds, without the bound on what it leaves. -/
def Outcome.found {n : Nat} : Outcome φ n → Found φ
  | .ok r => .ok (r.tree, r.rest)
  | .error e => .error e

/-- What the reader of level `l` finds. -/
def found (l : Level) (ts : List (Token φ)) : Found φ :=
  (readLevel l ts).found

/-- What the reader of operators of level `l` finds behind a left operand. A primary takes none. -/
def foundBehind (l : Level) (left : Tree φ) (ts : List (Token φ)) : Found φ :=
  if h : l = .primary then .ok (left, ts)
  else (readOperators l h left ts (Nat.lt_add_one _)).found

/-- The closing parenthesis behind `t`, which `wrap` makes the whole of. -/
def closed (wrap : Tree φ → Tree φ) (t : Tree φ) : List (Token φ) → Found φ
  | .closeParen :: ts => .ok (wrap t, ts)
  | ts => .error ⟨.unmatchedParen, ts⟩

theorem eq_of_closed {wrap : Tree φ → Tree φ} {t t' : Tree φ} {ts rest : List (Token φ)}
    (h : closed wrap t ts = .ok (t', rest)) : ts = .closeParen :: rest ∧ t' = wrap t := by
  unfold closed at h
  split at h
  · cases h; exact ⟨rfl, rfl⟩
  · cases h

theorem eq_of_closed_error {wrap : Tree φ → Tree φ} {t : Tree φ} {ts : List (Token φ)}
    {e : Failure φ} (h : closed wrap t ts = .error e) :
    ts.head? ≠ some .closeParen ∧ e = ⟨.unmatchedParen, ts⟩ := by
  unfold closed at h
  split at h
  · cases h
  · next hn =>
    cases h
    refine ⟨fun h' => ?_, rfl⟩
    obtain ⟨ts', rfl⟩ := List.head?_eq_some_iff.mp h'
    exact hn ts' rfl

theorem found_close {n m : Nat} (wrap : Tree φ → Tree φ) (r : Reading φ n) (h : n ≤ m) :
    (close wrap r h).found = closed wrap r.tree r.rest := by
  obtain ⟨t, rest, hr⟩ := r
  match rest with
  | [] => rfl
  | t' :: _ => cases t' <;> rfl

theorem operatorAt?_cons (op : BinaryOperator) (ts : List (Token φ)) :
    operatorAt? op.level (.operator op :: ts) = some (op, ts) :=
  if_pos rfl

/-! ### A level -/

theorem found_readOperators {n m : Nat} (l : Level) (h : l ≠ .primary) (left : Tree φ)
    (ts : List (Token φ)) (hn : ts.length < n) (hm : ts.length < m) :
    (readOperators l h left ts hn).found = (readOperators l h left ts hm).found := by
  induction hk : ts.length using Nat.strongRecOn generalizing left ts n m with
  | ind k ih =>
    rw [readOperators, readOperators]
    split
    · rfl
    · next op rest ho =>
      cases hr : readLevel l.tighter rest with
      | error e => rfl
      | ok r =>
        have := r.shorter
        refine ih r.rest.length ?_ _ r.rest _ _ rfl
        rw [← hk, (eq_cons_of_operatorAt? ho).1, List.length_cons]
        omega

/-- A level starts with an operand of the next tighter one, and goes on behind it. -/
theorem found_of_ne_primary {l : Level} (h : l ≠ .primary) (ts : List (Token φ)) :
    found l ts = (found l.tighter ts).bind fun p => foundBehind l p.1 p.2 := by
  rw [found, readLevel, dif_neg h, found]
  cases readLevel l.tighter ts with
  | error e => rfl
  | ok r =>
    simp only [Outcome.found, Except.bind, foundBehind, dif_neg h]
    exact found_readOperators ..

theorem foundBehind_primary (left : Tree φ) (ts : List (Token φ)) :
    foundBehind .primary left ts = .ok (left, ts) :=
  dif_pos rfl

theorem foundBehind_of_none {l : Level} {ts : List (Token φ)} (left : Tree φ)
    (h : operatorAt? l ts = none) : foundBehind l left ts = .ok (left, ts) := by
  unfold foundBehind
  split
  · rfl
  · rw [readOperators]
    split
    · rfl
    · next h' => rw [h] at h'; cases h'

/-- An operator takes the next operand, and what it makes is the left operand of what follows. -/
theorem foundBehind_operator (op : BinaryOperator) (left : Tree φ) (ts : List (Token φ)) :
    foundBehind op.level left (.operator op :: ts) =
      (found op.level.tighter ts).bind fun p => foundBehind op.level (.binary op left p.1) p.2 := by
  have hl : op.level ≠ .primary := by cases op <;> decide
  simp only [foundBehind, dif_neg hl]
  rw [readOperators]
  split
  · next h => rw [operatorAt?_cons] at h; cases h
  · next op' rest h =>
    rw [operatorAt?_cons] at h
    obtain ⟨rfl, rfl⟩ := Prod.mk.inj (Option.some.inj h)
    rw [found]
    cases readLevel op.level.tighter ts with
    | error e => rfl
    | ok r => exact found_readOperators ..

/-! ### A primary -/

theorem found_primary (ts : List (Token φ)) : found .primary ts = (readPrimary ts).found := by
  rw [found, readLevel, dif_pos rfl]

theorem found_primary_nil : (found .primary [] : Found φ) = .error ⟨.unexpectedEnd, []⟩ := by
  rw [found_primary, readPrimary]
  rfl

theorem found_nil (l : Level) : (found l [] : Found φ) = .error ⟨.unexpectedEnd, []⟩ := by
  have hlooser : ∀ {l : Level}, l ≠ .primary →
      (found l.tighter [] : Found φ) = .error ⟨.unexpectedEnd, []⟩ →
      (found l [] : Found φ) = .error ⟨.unexpectedEnd, []⟩ := fun hl he => by
    rw [found_of_ne_primary hl, he]
    rfl
  have hpower := hlooser (l := .power) (by decide) found_primary_nil
  have hproduct := hlooser (l := .product) (by decide) hpower
  cases l with
  | primary => exact found_primary_nil
  | power => exact hpower
  | product => exact hproduct
  | sum => exact hlooser (by decide) hproduct

theorem found_primary_number (x : Float) (ts : List (Token φ)) :
    found .primary (.number x :: ts) = .ok (.number x, ts) := by
  rw [found_primary, readPrimary]
  rfl

theorem found_primary_openParen (ts : List (Token φ)) :
    found .primary (.openParen :: ts) = (found .sum ts).bind fun p => closed id p.1 p.2 := by
  rw [found_primary, readPrimary, found]
  cases readLevel .sum ts with
  | error e => rfl
  | ok r => exact found_close ..

theorem found_primary_minus (ts : List (Token φ)) :
    found .primary (.minus :: ts) = (found .primary ts).map fun p => (.negate p.1, p.2) := by
  rw [found_primary, readPrimary, found_primary]
  cases readPrimary ts <;> rfl

theorem found_primary_call (f : UnaryFunction φ) (ts : List (Token φ)) :
    found .primary (.function f :: .openParen :: ts) =
      (found .sum ts).bind fun p => closed (.call f) p.1 p.2 := by
  rw [found_primary, readPrimary, found]
  cases readLevel .sum ts with
  | error e => rfl
  | ok r => exact found_close ..

theorem found_primary_function (f : UnaryFunction φ) {ts : List (Token φ)}
    (h : ts.head? ≠ some .openParen) :
    found .primary (.function f :: ts) = .error ⟨.functionWithoutParen, ts⟩ := by
  rw [found_primary, readPrimary]
  · rfl
  · rintro ts' rfl
    exact h rfl

/-- Whether a token can stand at the front of a primary. -/
def startsPrimary : Token φ → Bool
  | .number _ | .openParen | .function _ => true
  | .operator op => op = .minus
  | .closeParen => false

theorem found_primary_other {t : Token φ} (h : startsPrimary t = false) (ts : List (Token φ)) :
    found .primary (t :: ts) = .error ⟨.unexpectedToken t, ts⟩ := by
  rw [found_primary, readPrimary.eq_7]
  · rfl
  all_goals
    intros
    subst_vars
    simp [startsPrimary] at h

/-! ### All tokens -/

/-- A tree, if nothing is left behind it. -/
def whole (t : Tree φ) : List (Token φ) → Except (Failure φ) (Tree φ)
  | [] => .ok t
  | t' :: ts => .error ⟨.unexpectedToken t', t' :: ts⟩

theorem parseTokens_eq (ts : List (Token φ)) :
    parseTokens ts = (found .sum ts).bind fun p => whole p.1 p.2 := by
  rw [parseTokens, found]
  match readLevel .sum ts with
  | .error e => rfl
  | .ok ⟨t, [], _⟩ => rfl
  | .ok ⟨t, _ :: _, _⟩ => rfl

theorem parseTokens_eq_ok_iff {ts : List (Token φ)} {t : Tree φ} :
    parseTokens ts = .ok t ↔ found .sum ts = .ok (t, []) := by
  rw [parseTokens_eq]
  match found .sum ts with
  | .error e => exact ⟨fun h => (by cases h), fun h => (by cases h)⟩
  | .ok (t', []) => exact ⟨fun h => (by cases h; rfl), fun h => (by cases h; rfl)⟩
  | .ok (t', _ :: _) => exact ⟨fun h => (by cases h), fun h => (by cases h)⟩

theorem parse_eq_ok_iff_found {ts : List (Token φ)} {t : Tree φ} :
    parse ts = .ok t ↔ found .sum ts = .ok (t, []) := by
  rw [← parseTokens_eq_ok_iff, parse]
  cases parseTokens ts with
  | error e => exact ⟨fun h => (by cases h), fun h => (by cases h)⟩
  | ok t' => exact ⟨fun h => (by cases h; rfl), fun h => (by cases h; rfl)⟩

/-! ### Induction -/

/-- Induction along the equations: `P` is about a reader and `Q` about what stands behind a left
operand. A level hands its operand's tree on; parentheses, minus signs and calls read what is behind
their first token. -/
theorem descent_induction {P : Level → List (Token φ) → Prop}
    {Q : Level → Tree φ → List (Token φ) → Prop}
    (level : ∀ l ts, l ≠ .primary → P l.tighter ts →
      (∀ t rest, found l.tighter ts = .ok (t, rest) → Q l t rest) → P l ts)
    (stop : ∀ l left ts, operatorAt? l ts = none → Q l left ts)
    (operator : ∀ op left ts, P op.level.tighter ts →
      (∀ t rest, found op.level.tighter ts = .ok (t, rest) → Q op.level (.binary op left t) rest) →
      Q op.level left (.operator op :: ts))
    (nil : P .primary [])
    (number : ∀ x ts, P .primary (.number x :: ts))
    (paren : ∀ ts, P .sum ts → P .primary (.openParen :: ts))
    (minus : ∀ ts, P .primary ts → P .primary (.minus :: ts))
    (call : ∀ f ts, P .sum ts → P .primary (.function f :: .openParen :: ts))
    (function : ∀ f ts, ts.head? ≠ some .openParen → P .primary (.function f :: ts))
    (other : ∀ t ts, startsPrimary t = false → P .primary (t :: ts)) (l : Level)
    (ts : List (Token φ)) : P l ts := by
  refine (readLevel.mutual_induct P (fun _ l _ left ts _ => Q l left ts) (P .primary)
    ?_ ?_ ?_ ?_ ?_ ?_ ?_ ?_ ?_ ?_ ?_ ?_ ?_ ?_ ?_ ?_).1 l ts
  · intro ts h
    exact h
  · intro l ts hl e he ih
    refine level l ts hl ih fun t rest h => ?_
    rw [found, he] at h
    cases h
  · intro l ts hl r hr ih ih'
    refine level l ts hl ih fun t rest h => ?_
    rw [found, hr] at h
    cases h
    exact ih'
  · intro _ l _ left ts _ h
    exact stop l left ts h
  · intro _ l _ left ts _ op rest ho _ e he ih
    obtain ⟨rfl, rfl⟩ := eq_cons_of_operatorAt? ho
    refine operator op left rest ih fun t rest' h => ?_
    rw [found, he] at h
    cases h
  · intro _ l _ left ts _ op rest ho _ r hr _ ih ih'
    obtain ⟨rfl, rfl⟩ := eq_cons_of_operatorAt? ho
    refine operator op left rest ih fun t rest' h => ?_
    rw [found, hr] at h
    cases h
    exact ih'
  · exact nil
  · exact number
  · intro ts _ _ ih
    exact paren ts ih
  · intro ts _ _ ih
    exact paren ts ih
  · intro ts _ _ ih
    exact minus ts ih
  · intro ts _ _ ih
    exact minus ts ih
  · intro f ts _ _ ih
    exact call f ts ih
  · intro f ts _ _ ih
    exact call f ts ih
  · intro f ts h
    refine function f ts fun h' => ?_
    obtain ⟨ts', rfl⟩ := List.head?_eq_some_iff.mp h'
    exact h ts' rfl
  · intro t ts hn hp hm _ hf
    refine other t ts ?_
    cases t with
    | number x => exact absurd rfl (hn x)
    | openParen => exact absurd rfl hp
    | function f => exact absurd rfl (hf f)
    | closeParen => rfl
    | operator op => exact decide_eq_false fun h => hm (congrArg Token.operator h)

end Reckoner
