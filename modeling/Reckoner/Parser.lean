import Reckoner.Tree

/-!
# Parsing

Tokens are read into a tree by descent through the levels of binding: sums of products of powers of
primaries. A primary is a number, a parenthesised sum, a negated primary or a function applied to a
parenthesised sum. Every level groups to the left. A reader of a level takes at least one token
(`Reading`), so the descent ends: each step either drops a token or goes to a tighter level. A parser
that can be asked again reads the same way in place (`Cursor`). Expressions may be nested to any
depth: that a machine's stack ends somewhere is left out.
-/

namespace Reckoner

variable {φ : Type}

/-- Why tokens are no expression. -/
inductive ParseError (φ : Type) where
  | unexpectedToken (t : Token φ)
  | unexpectedEnd
  | functionWithoutParen
  | unmatchedParen
  deriving DecidableEq, Repr

def ParseError.message : ParseError φ → String
  | unexpectedToken t => "Unexpected token: " ++ t.shown
  | unexpectedEnd => "Unexpected end of token stream"
  | functionWithoutParen => "Function must be followed by opening parenthesis"
  | unmatchedParen => "Unmatched opening parenthesis"

/-- How tightly a construct binds. -/
inductive Level where
  | sum
  | product
  | power
  | primary
  deriving DecidableEq, Repr

namespace Level

/-- The operands of a level are of the next tighter one. -/
def tighter : Level → Level
  | sum => product
  | product => power
  | power => primary
  | primary => primary

/-- How many levels are tighter. -/
def height : Level → Nat
  | sum => 3
  | product => 2
  | power => 1
  | primary => 0

theorem height_tighter {l : Level} (h : l ≠ primary) : l.tighter.height < l.height := by
  cases l <;> simp_all [tighter, height]

end Level

/-- The level of the expressions that an operator makes. -/
def BinaryOperator.level : BinaryOperator → Level
  | plus => .sum
  | minus => .sum
  | multiply => .product
  | divide => .product
  | exponent => .power

/-- A tree read from the front of some tokens, of which fewer than `bound` are left. -/
structure Reading (φ : Type) (bound : Nat) where
  tree : Tree φ
  rest : List (Token φ)
  shorter : rest.length < bound
  deriving DecidableEq, Repr

/-- An error, and the tokens that had not been read when it arose. -/
structure Failure (φ : Type) where
  error : ParseError φ
  rest : List (Token φ)
  deriving DecidableEq, Repr

/-- The outcome of a reader that leaves fewer than `bound` tokens. -/
abbrev Outcome (φ : Type) (bound : Nat) := Except (Failure φ) (Reading φ bound)

/-- The operator at the front, if it makes expressions of level `l`, and the tokens behind it. -/
def operatorAt? (l : Level) : List (Token φ) → Option (BinaryOperator × List (Token φ))
  | .operator op :: ts => if op.level = l then some (op, ts) else none
  | _ => none

theorem eq_cons_of_operatorAt? {l : Level} {ts : List (Token φ)} {op : BinaryOperator}
    {rest : List (Token φ)} (h : operatorAt? l ts = some (op, rest)) :
    ts = .operator op :: rest ∧ op.level = l := by
  unfold operatorAt? at h
  split at h
  · split at h
    · next hl => obtain ⟨rfl, rfl⟩ := Prod.mk.inj (Option.some.inj h); exact ⟨rfl, hl⟩
    · cases h
  · cases h

/-- The closing parenthesis behind a tree, which `wrap` makes the whole of. -/
def close {n m : Nat} (wrap : Tree φ → Tree φ) (r : Reading φ n) (h : n ≤ m) : Outcome φ m :=
  match hr : r.rest with
  | .closeParen :: ts => .ok ⟨wrap r.tree, ts, by
      have := r.shorter
      simp only [hr, List.length_cons] at this
      omega⟩
  | ts => .error ⟨.unmatchedParen, ts⟩

mutual

/-- Reads an expression of a level. -/
def readLevel (l : Level) (ts : List (Token φ)) : Outcome φ ts.length :=
  if h : l = .primary then readPrimary ts
  else
    match readLevel l.tighter ts with
    | .error e => .error e
    | .ok r => readOperators l h r.tree r.rest r.shorter
termination_by 5 * ts.length + l.height + 1
decreasing_by
  · simp only [h, Level.height]; omega
  · have := Level.height_tighter h; omega
  · have := r.shorter; have : l.height ≤ 3 := by cases l <;> decide
    omega

/-- Reads operators of a level and their right operands behind a left operand, grouping to the
left. -/
def readOperators {bound : Nat} (l : Level) (h : l ≠ .primary) (left : Tree φ) (ts : List (Token φ))
    (hts : ts.length < bound) : Outcome φ bound :=
  match ho : operatorAt? l ts with
  | none => .ok ⟨left, ts, hts⟩
  | some (op, rest) =>
    have hr : rest.length < ts.length := by
      rw [(eq_cons_of_operatorAt? ho).1]; exact Nat.lt_succ_self _
    match readLevel l.tighter rest with
    | .error e => .error e
    | .ok r =>
      have := r.shorter
      readOperators l h (.binary op left r.tree) r.rest (by omega)
termination_by 5 * ts.length + l.height
decreasing_by
  · have := Level.height_tighter h; omega
  · omega

/-- Reads a number, a parenthesised expression, a negated primary or a function call. -/
def readPrimary (ts : List (Token φ)) : Outcome φ ts.length :=
  match ts with
  | [] => .error ⟨.unexpectedEnd, []⟩
  | .number x :: ts => .ok ⟨.number x, ts, Nat.lt_succ_self _⟩
  | .openParen :: ts =>
    match readLevel .sum ts with
    | .error e => .error e
    | .ok r => close id r (Nat.le_succ _)
  | .operator .minus :: ts =>
    match readPrimary ts with
    | .error e => .error e
    | .ok r => .ok ⟨.negate r.tree, r.rest, Nat.lt_succ_of_lt r.shorter⟩
  | .function f :: .openParen :: ts =>
    match readLevel .sum ts with
    | .error e => .error e
    | .ok r => close (.call f) r (by simp only [List.length_cons]; omega)
  | .function _ :: ts => .error ⟨.functionWithoutParen, ts⟩
  | t :: ts => .error ⟨.unexpectedToken t, ts⟩
termination_by 5 * ts.length
decreasing_by all_goals (simp only [List.length_cons, Level.height]; omega)

end

/-- Reads an expression that uses up all tokens. On failure the tokens not read are kept. -/
def parseTokens (ts : List (Token φ)) : Except (Failure φ) (Tree φ) :=
  match readLevel .sum ts with
  | .error e => .error e
  | .ok r =>
    match r.rest with
    | [] => .ok r.tree
    | t :: _ => .error ⟨.unexpectedToken t, r.rest⟩

/-- The tree of the tokens of an expression. -/
def parse (ts : List (Token φ)) : Except (ParseError φ) (Tree φ) :=
  (parseTokens ts).mapError (·.error)

/-- The tokens that parsing leaves unread. -/
def unread (ts : List (Token φ)) : List (Token φ) :=
  match parseTokens ts with
  | .error e => e.rest
  | .ok _ => []

example :
    parse [.number 2, .operator .exponent, .number 3, .operator .exponent, .number 2] =
      .ok (.binary .exponent (.binary .exponent (.number 2) (.number 3)) (.number 2) : Tree φ) := by
  cbv

/-! ## In place

A parser that is asked again goes on where it stopped, after an error too. It keeps all its tokens
and the index of the next one. Its readers are those above, but all of them move this one index, and
an error leaves it where it is.
-/

/-- A tree read in place, and the index behind it, which is `least` or more. -/
structure Passage (φ : Type) (least : Nat) where
  tree : Tree φ
  next : Nat
  least_le : least ≤ next
  deriving DecidableEq, Repr

/-- An error, and the index of the next token when it arose. -/
structure Halt (φ : Type) where
  error : ParseError φ
  next : Nat
  deriving DecidableEq, Repr

/-- The outcome of a reader that moves the index to `least` or further. -/
abbrev Advance (φ : Type) (least : Nat) := Except (Halt φ) (Passage φ least)

/-- The operator at index `k`, if it makes expressions of level `l`. -/
def operatorAtIndex? (ts : Array (Token φ)) (l : Level) (k : Nat) : Option BinaryOperator :=
  match ts[k]? with
  | some (.operator op) => if op.level = l then some op else none
  | _ => none

theorem lt_size_of_operatorAtIndex? {ts : Array (Token φ)} {l : Level} {k : Nat}
    {op : BinaryOperator} (h : operatorAtIndex? ts l k = some op) : k < ts.size := by
  unfold operatorAtIndex? at h
  split at h
  · next hk => exact (Array.getElem?_eq_some_iff.mp hk).1
  · cases h

/-- The closing parenthesis behind a tree, which `wrap` makes the whole of. -/
def closeInPlace {n m : Nat} (ts : Array (Token φ)) (wrap : Tree φ → Tree φ) (r : Passage φ n)
    (h : m ≤ n) : Advance φ m :=
  match ts[r.next]? with
  | some .closeParen => .ok ⟨wrap r.tree, r.next + 1, by have := r.least_le; omega⟩
  | _ => .error ⟨.unmatchedParen, r.next⟩

mutual

/-- Reads an expression of a level from index `k` on. -/
def readLevelInPlace (ts : Array (Token φ)) (l : Level) (k : Nat) : Advance φ (k + 1) :=
  if h : l = .primary then readPrimaryInPlace ts k
  else
    match readLevelInPlace ts l.tighter k with
    | .error e => .error e
    | .ok r => readOperatorsInPlace ts l h r.tree r.next r.least_le
termination_by 5 * (ts.size - k) + l.height + 1
decreasing_by
  · simp only [h, Level.height]; omega
  · have := Level.height_tighter h; omega
  · have := r.least_le; omega

/-- Reads operators of a level and their right operands from index `k` on, behind a left operand. -/
def readOperatorsInPlace {least : Nat} (ts : Array (Token φ)) (l : Level) (h : l ≠ .primary)
    (left : Tree φ) (k : Nat) (hk : least ≤ k) : Advance φ least :=
  match ho : operatorAtIndex? ts l k with
  | none => .ok ⟨left, k, hk⟩
  | some op =>
    have hlt := lt_size_of_operatorAtIndex? ho
    match readLevelInPlace ts l.tighter (k + 1) with
    | .error e => .error e
    | .ok r =>
      have := r.least_le
      readOperatorsInPlace ts l h (.binary op left r.tree) r.next (by omega)
termination_by 5 * (ts.size - k) + l.height
decreasing_by
  · have := Level.height_tighter h; omega
  · omega

/-- Reads a number, a parenthesised expression, a negated primary or a function call from index `k`
on. -/
def readPrimaryInPlace (ts : Array (Token φ)) (k : Nat) : Advance φ (k + 1) :=
  if h : k < ts.size then
    match ts[k] with
    | .number x => .ok ⟨.number x, k + 1, Nat.le_refl _⟩
    | .openParen =>
      match readLevelInPlace ts .sum (k + 1) with
      | .error e => .error e
      | .ok r => closeInPlace ts id r (Nat.le_succ _)
    | .operator .minus =>
      match readPrimaryInPlace ts (k + 1) with
      | .error e => .error e
      | .ok r => .ok ⟨.negate r.tree, r.next, Nat.le_of_succ_le r.least_le⟩
    | .function f =>
      match ts[k + 1]? with
      | some .openParen =>
        match readLevelInPlace ts .sum (k + 2) with
        | .error e => .error e
        | .ok r => closeInPlace ts (.call f) r (by omega)
      | _ => .error ⟨.functionWithoutParen, k + 1⟩
    | t => .error ⟨.unexpectedToken t, k + 1⟩
  else .error ⟨.unexpectedEnd, k⟩
termination_by 5 * (ts.size - k)
decreasing_by
  · simp only [Level.height]; omega
  · omega
  · simp only [Level.height]; omega

end

/-- Tokens, and the index of the next one. -/
structure Cursor (φ : Type) where
  tokens : Array (Token φ)
  current : Nat
  deriving DecidableEq, Repr

namespace Cursor

/-- In front of all tokens. -/
def ofList (ts : List (Token φ)) : Cursor φ :=
  ⟨ts.toArray, 0⟩

/-- Reads an expression that uses up all tokens from the index on. The index stays where reading
ends. -/
def parse (c : Cursor φ) : Except (ParseError φ) (Tree φ) × Cursor φ :=
  match readLevelInPlace c.tokens .sum c.current with
  | .error e => (.error e.error, { c with current := e.next })
  | .ok r =>
    match c.tokens[r.next]? with
    | none => (.ok r.tree, { c with current := r.next })
    | some t => (.error (.unexpectedToken t), { c with current := r.next })

/-- The results of parsing `n` times in turn, each with the index behind it. -/
def parseInTurn : Nat → Cursor φ → List (Except (ParseError φ) (Tree φ) × Nat)
  | 0, _ => []
  | n + 1, c => (c.parse.1, c.parse.2.current) :: parseInTurn n c.parse.2

end Cursor

/-- Parses `n` times in turn, each time from where the time before stopped. Each result comes with
the number of tokens left. -/
def parseInTurn (n : Nat) (ts : List (Token φ)) : List (Except (ParseError φ) (Tree φ) × Nat) :=
  ((Cursor.ofList ts).parseInTurn n).map fun step => (step.1, ts.length - step.2)

end Reckoner
