import Reckoner.Proofs.Automaton
import Reckoner.Proofs.Joints

/-!
# An expression in the place of a number

The leaves of a tree are its number tokens in their order (`Derives.leaves_eq`). A primary can stand
where a number token does: the tokens then derive the tree in which the primary's tree has taken the
place of that leaf (`Derives.replaceable`). For texts, the number is a literal that follows a break
and the primary an expression in parentheses. They put the lexer and the parser into the same state,
so each can be read where the other can, and the value depends on that of the expression only.

A function must be followed by a parenthesis. So the way back, from the parentheses to the literal,
is open only where no function stands in front, and the automaton of `Reckoner.Proofs.Automaton`
tells: behind anything else that an opening parenthesis can follow, an operand is wanted.
-/

namespace Reckoner
open Scan

variable {φ : Type}

/-- The number of a token that makes a leaf. -/
def Token.leaf? : Token φ → Option Float
  | number x => some x
  | _ => none

namespace Tree

/-- The numbers of a tree from left to right. -/
def leaves : Tree φ → List Float
  | number x => [x]
  | negate t => t.leaves
  | binary _ a b => a.leaves ++ b.leaves
  | call _ t => t.leaves

/-- The tree with `u` in the place of leaf `k`, counted from the left. -/
def replaceLeaf : Tree φ → Nat → Tree φ → Tree φ
  | number x, k, u => if k = 0 then u else number x
  | negate t, k, u => negate (t.replaceLeaf k u)
  | binary op a b, k, u =>
    if k < a.leaves.length then binary op (a.replaceLeaf k u) b
    else binary op a (b.replaceLeaf (k - a.leaves.length) u)
  | call f t, k, u => call f (t.replaceLeaf k u)

/-- Of what takes the place of a leaf, only the value matters. -/
theorem eval_replaceLeaf [Callable φ] (mode : AngleMode) (t : Tree φ) (k : Nat) (u : Tree φ) :
    (t.replaceLeaf k u).eval mode = (t.replaceLeaf k (.number (u.eval mode))).eval mode := by
  induction t generalizing k with
  | number x =>
    unfold replaceLeaf
    split <;> rfl
  | negate t ih => simp only [replaceLeaf, eval, ih k]
  | binary op a b iha ihb =>
    unfold replaceLeaf
    split
    · simp only [eval, iha k]
    · simp only [eval, ihb (k - a.leaves.length)]
  | call f t ih => simp only [replaceLeaf, eval, ih k]

end Tree

/-! ### A primary in the place of a number token -/

section
variable {l : Level} {ts xs ys before behind : List (Token φ)} {t a b : Tree φ} {x : Float}

theorem Derives.leaves_eq (h : Derives l ts t) : t.leaves = ts.filterMap Token.leaf? := by
  induction h with
  | sum _ _ _ iha ihb => simp [Tree.leaves, List.filterMap_cons, Token.leaf?, iha, ihb]
  | product _ _ _ iha ihb => simp [Tree.leaves, List.filterMap_cons, Token.leaf?, iha, ihb]
  | power _ _ iha ihb => simp [Tree.leaves, List.filterMap_cons, Token.leaf?, iha, ihb]
  | ofProduct _ ih => exact ih
  | ofPower _ ih => exact ih
  | ofPrimary _ ih => exact ih
  | number x => rfl
  | paren _ ih => simp [List.filterMap_cons, Token.leaf?, ih]
  | negate _ ih => simp [Tree.leaves, List.filterMap_cons, Token.leaf?, ih]
  | call f _ ih => simp [Tree.leaves, List.filterMap_cons, Token.leaf?, ih]

/-- Which leaf a number token behind the tokens `before` makes. -/
def leafIndex (before : List (Token φ)) : Nat :=
  (before.filterMap Token.leaf?).length

theorem Derives.leaf_eq (h : Derives l (before ++ .number x :: behind) t) :
    t.leaves[leafIndex before]? = some x := by
  rw [h.leaves_eq, List.filterMap_append, leafIndex, List.getElem?_append_right (Nat.le_refl _),
    Nat.sub_self]
  rfl

/-- Wherever a number stands in `ts`, a primary can take its place. -/
def Replaceable (l : Level) (ts : List (Token φ)) (t : Tree φ) : Prop :=
  ∀ before x behind, ts = before ++ .number x :: behind → ∀ us u, Derives .primary us u →
    Derives l (before ++ us ++ behind) (t.replaceLeaf (leafIndex before) u)

namespace Replaceable

/-- A number token stands on one side of an operator. -/
theorem binary (op : BinaryOperator) (ha : Derives op.level xs a) (iha : Replaceable op.level xs a)
    (hb : Derives op.level.tighter ys b) (ihb : Replaceable op.level.tighter ys b) :
    Replaceable op.level (xs ++ .operator op :: ys) (.binary op a b) := by
  intro before x behind h us u hu
  have hlength : a.leaves.length = leafIndex xs := congrArg List.length ha.leaves_eq
  -- on which side of the operator the number stands
  rcases List.append_eq_append_iff.mp h with ⟨mid, rfl, hmid⟩ | ⟨mid, rfl, hmid⟩
  · rcases List.cons_eq_append_iff.mp hmid with ⟨-, h⟩ | ⟨mid, rfl, rfl⟩
    · cases h
    have hk : leafIndex (xs ++ .operator op :: mid) = a.leaves.length + leafIndex mid := by
      rw [hlength]
      simp [leafIndex, List.filterMap_cons, Token.leaf?]
    have hd := ha.binary op (ihb mid x behind rfl us u hu)
    rw [hk, Tree.replaceLeaf, if_neg (by omega), Nat.add_sub_cancel_left]
    simpa using hd
  · rcases List.cons_eq_append_iff.mp hmid with ⟨-, h⟩ | ⟨mid, rfl, rfl⟩
    · cases h
    have hk : leafIndex before < a.leaves.length := by
      rw [hlength]
      simp [leafIndex, Token.leaf?]
    have hd := (iha before x mid rfl us u hu).binary op hb
    rw [Tree.replaceLeaf, if_pos hk]
    simpa using hd

end Replaceable

/-- A number token behind an opening parenthesis stands in front of the closing one. -/
theorem exists_of_closed (h : ts ++ [.closeParen] = before ++ .number x :: behind) :
    ∃ mid, ts = before ++ .number x :: mid ∧ behind = mid ++ [.closeParen] := by
  rcases List.eq_nil_or_concat behind with rfl | ⟨mid, t, rfl⟩
  · cases (List.append_inj' h rfl).2
  · rw [List.concat_eq_append, ← List.cons_append, ← List.append_assoc] at h
    obtain ⟨hts, ht⟩ := List.append_inj' h rfl
    cases ht
    exact ⟨mid, hts, List.concat_eq_append ..⟩

theorem leafIndex_cons {t : Token φ} (h : t.leaf? = none) : leafIndex (t :: ts) = leafIndex ts := by
  rw [leafIndex, List.filterMap_cons_none h]
  rfl

theorem Derives.replaceable (h : Derives l ts t) : Replaceable l ts t := by
  induction h with
  | sum hop ha hb iha ihb =>
    rcases hop with rfl | rfl
    · exact .binary .plus ha iha hb ihb
    · exact .binary .minus ha iha hb ihb
  | product hop ha hb iha ihb =>
    rcases hop with rfl | rfl
    · exact .binary .multiply ha iha hb ihb
    · exact .binary .divide ha iha hb ihb
  | power ha hb iha ihb => exact .binary .exponent ha iha hb ihb
  | ofProduct _ ih => exact fun before x behind h us u hu => .ofProduct (ih before x behind h us u hu)
  | ofPower _ ih => exact fun before x behind h us u hu => .ofPower (ih before x behind h us u hu)
  | ofPrimary _ ih => exact fun before x behind h us u hu => .ofPrimary (ih before x behind h us u hu)
  | number y =>
    intro before x behind h us u hu
    rcases List.cons_eq_append_iff.mp h with ⟨rfl, hx⟩ | ⟨before, rfl, hx⟩
    · cases hx
      simpa [Tree.replaceLeaf, leafIndex] using hu
    · simp at hx
  | paren _ ih =>
    intro before x behind h us u hu
    rcases List.cons_eq_append_iff.mp h with ⟨-, hx⟩ | ⟨before, rfl, hx⟩
    · cases hx
    obtain ⟨mid, rfl, rfl⟩ := exists_of_closed hx
    have hd := Derives.paren (ih before x mid rfl us u hu)
    rw [leafIndex_cons rfl]
    simpa using hd
  | negate _ ih =>
    intro before x behind h us u hu
    rcases List.cons_eq_append_iff.mp h with ⟨-, hx⟩ | ⟨before, rfl, hx⟩
    · cases hx
    rw [leafIndex_cons rfl]
    exact .negate (ih before x behind hx us u hu)
  | call f _ ih =>
    intro before x behind h us u hu
    rcases List.cons_eq_append_iff.mp h with ⟨-, hx⟩ | ⟨before, rfl, hx⟩
    · cases hx
    rcases List.cons_eq_append_iff.mp hx with ⟨-, hy⟩ | ⟨before, rfl, hy⟩
    · cases hy
    obtain ⟨mid, rfl, rfl⟩ := exists_of_closed hy
    have hd := Derives.call f (ih before x mid rfl us u hu)
    rw [leafIndex_cons rfl, leafIndex_cons rfl]
    simpa [Tree.replaceLeaf] using hd

/-- A sum in parentheses parses wherever a number does. -/
theorem parse_replaceLeaf {us : List (Token φ)} {u : Tree φ} (hu : Derives .sum us u)
    (h : parse (before ++ .number x :: behind) = .ok t) :
    parse (before ++ (.openParen :: us ++ [.closeParen]) ++ behind) =
      .ok (t.replaceLeaf (leafIndex before) u) :=
  parse_eq_ok_iff.mpr ((parse_eq_ok_iff.mp h).replaceable before x behind rfl _ u (.paren hu))

end

/-! ### A number token in the place of parentheses -/

/-- A number parses where a sum in parentheses does, unless they are those of a call. -/
theorem exists_parse_of_parens {before us behind : List (Token φ)} {u : Tree φ} (x : Float)
    (hu : Derives .sum us u) (hf : ∀ f, before.getLast? ≠ some (.function f))
    (h : ∃ t, parse (before ++ (.openParen :: us ++ [.closeParen]) ++ behind) = .ok t) :
    ∃ t, parse (before ++ .number x :: behind) = .ok t := by
  rw [exists_parse_iff_accepts] at h ⊢
  rw [List.append_assoc] at h
  obtain ⟨d, hm⟩ := Automaton.wanted_of_accepts (by simpa using h) hf
  have hparens := Automaton.Moves.of_derives (.paren hu) d
  have hnumber := Automaton.Moves.of_derives (.number x : Derives .primary _ (.number x : Tree φ)) d
  -- both lead to the same configuration, from which `behind` is accepted
  have hbehind := hparens.accepts_iff.mp (hm.accepts_iff.mp h)
  exact hm.accepts_iff.mpr (hnumber.accepts_iff.mpr hbehind)

/-! ### Texts -/

section
variable {c : Calculator φ} {r : Registers φ} {L : Lexicon φ} {text : String} {t : Tree φ}

variable {mode : AngleMode} {p n s a : String}

theorem tree_literal_iff (hr : r.Alphanumeric) (hp : BreaksOff p.toList)
    (hall : ∀ c ∈ n.toList, InNumber c) (hnum : IsNumber n.toList)
    (hs : ∀ c, s.toList.head? = some c → ¬ InNumber c) :
    (Calculator.new mode r).tree (p ++ n ++ s) = .ok t ↔ ∃ before behind,
      (Lexicon.ofRegisters r).Reads p.toList before ∧ (Lexicon.ofRegisters r).Reads s.toList behind ∧
        parse (before ++ .number (Number.ofLiteral n.toList) :: behind) = .ok t := by
  have hL := Lexicon.lists_ofRegisters r
  simp only [Calculator.tree_eq_ok_iff, Calculator.new, String.toList_append, List.append_assoc,
    Lexicon.reads_append_iff hL hr (.inl hp), Lexicon.reads_literal_iff hall hnum hs]
  constructor
  · rintro ⟨_, ⟨before, _, rfl, hb, behind, rfl, hb'⟩, h⟩
    exact ⟨before, behind, hb, hb', h⟩
  · rintro ⟨before, behind, hb, hb', h⟩
    exact ⟨_, ⟨before, _, rfl, hb, behind, rfl, hb'⟩, h⟩

theorem tree_parens_iff {us : List (Token φ)} (hr : r.Alphanumeric) (hp : BreaksOff p.toList)
    (ha : (Lexicon.ofRegisters r).Reads a.toList us) :
    (Calculator.new mode r).tree (p ++ "(" ++ a ++ ")" ++ s) = .ok t ↔ ∃ before behind,
      (Lexicon.ofRegisters r).Reads p.toList before ∧ (Lexicon.ofRegisters r).Reads s.toList behind ∧
        parse (before ++ (.openParen :: us ++ [.closeParen]) ++ behind) = .ok t := by
  have hL := Lexicon.lists_ofRegisters r
  have hopen : ('(', (Token.openParen : Token φ)) ∈ operators := by simp [operators]
  have hclose : (')', (Token.closeParen : Token φ)) ∈ operators := by simp [operators]
  have hj : Joint a.toList (')' :: s.toList) := .inr (.operator (mem_operatorChars hclose))
  have htext : (p ++ "(" ++ a ++ ")" ++ s).toList =
      p.toList ++ '(' :: (a.toList ++ ')' :: s.toList) := by
    simp [String.toList_append]
  simp only [Calculator.tree_eq_ok_iff, Calculator.new, htext,
    Lexicon.reads_append_iff hL hr (.inl hp), Lexicon.reads_operator_iff hopen,
    Lexicon.reads_append_iff hL hr hj, Lexicon.reads_operator_iff hclose]
  constructor
  · rintro ⟨_, ⟨before, _, rfl, hb, _, rfl, us', _, rfl, ha', behind, rfl, hb'⟩, h⟩
    rw [← ha.unique ha'] at h
    exact ⟨before, behind, hb, hb', by simpa using h⟩
  · rintro ⟨before, behind, hb, hb', h⟩
    exact ⟨_, ⟨before, _, rfl, hb, _, rfl, us, _, rfl, ha, behind, rfl, hb'⟩, by simpa using h⟩

/-- An expression in parentheses can stand where a literal can that follows a break and ends there.
Its tree takes the place of the leaf that the literal makes, and the value is as if that leaf held
the value of the expression. What can be read with the parentheses can be read with the literal, if
they are not those of a call. -/
theorem tree_substituted [Callable φ] (hr : r.Alphanumeric) (mode : AngleMode)
    (hp : BreaksOff p.toList) (hall : ∀ c ∈ n.toList, InNumber c) (hnum : IsNumber n.toList)
    (hs : ∀ c, s.toList.head? = some c → ¬ InNumber c)
    (ha : (Calculator.new mode r).tree a = .ok t) :
    (∀ T, (Calculator.new mode r).tree (p ++ n ++ s) = .ok T →
      let k := leafIndex ((Lexicon.ofRegisters r).lex p).tokens
      T.leaves[k]? = some (Number.ofLiteral n.toList) ∧
      (Calculator.new mode r).tree (p ++ "(" ++ a ++ ")" ++ s) = .ok (T.replaceLeaf k t) ∧
      (Calculator.new mode r).evaluate a = .ok (t.eval mode) ∧
      (Calculator.new mode r).evaluate (p ++ "(" ++ a ++ ")" ++ s) =
        .ok ((T.replaceLeaf k (.number (t.eval mode))).eval mode)) ∧
    ((∀ f, ((Lexicon.ofRegisters r).lex p).tokens.getLast? ≠ some (.function f)) →
      (∃ T, (Calculator.new mode r).tree (p ++ "(" ++ a ++ ")" ++ s) = .ok T) →
      ∃ T, (Calculator.new mode r).tree (p ++ n ++ s) = .ok T) := by
  obtain ⟨us, hus, hu⟩ := Calculator.tree_eq_ok_iff.mp ha
  have hd := parse_eq_ok_iff.mp hu
  refine ⟨fun T hT => ?_, fun hf => ?_⟩
  · obtain ⟨before, behind, hb, hb', hparse⟩ := (tree_literal_iff hr hp hall hnum hs).mp hT
    have hparens : (Calculator.new mode r).tree (p ++ "(" ++ a ++ ")" ++ s) =
        .ok (T.replaceLeaf (leafIndex before) t) :=
      (tree_parens_iff hr hp hus).mpr ⟨before, behind, hb, hb', parse_replaceLeaf hd hparse⟩
    have hvalue := Calculator.evaluate_of_tree hparens
    rw [Tree.eval_replaceLeaf] at hvalue
    rw [hb.lex_tokens]
    exact ⟨(parse_eq_ok_iff.mp hparse).leaf_eq, hparens, Calculator.evaluate_of_tree ha, hvalue⟩
  · rintro ⟨T, hT⟩
    obtain ⟨before, behind, hb, hb', hparse⟩ := (tree_parens_iff hr hp hus).mp hT
    rw [hb.lex_tokens] at hf
    obtain ⟨T', hT'⟩ := exists_parse_of_parens (Number.ofLiteral n.toList) hd hf ⟨T, hparse⟩
    exact ⟨T', (tree_literal_iff hr hp hall hnum hs).mpr ⟨before, behind, hb, hb', hT'⟩⟩

end

/-- A sum takes the place of an exponent inside a call, and back. -/
theorem tree_substituted_exponent :
    (Calculator.new .degrees .catalog).tree "-sin(2^3)/e" = .ok (.binary .divide
      (.negate (.call ⟨"sin", Operation.sin⟩ (.binary .exponent (.number 2) (.number 3))))
      (.number 2.718281828459045)) ∧
    (Calculator.new .degrees .catalog).tree ("-sin(2^" ++ "(" ++ "1+e" ++ ")" ++ ")/e") =
      .ok (.binary .divide
        (.negate (.call ⟨"sin", Operation.sin⟩ (.binary .exponent (.number 2)
          (.binary .plus (.number 1) (.number 2.718281828459045)))))
        (.number 2.718281828459045)) ∧
    ∃ T : Tree Operation,
      (Calculator.new .degrees .catalog).tree ("-sin(2^" ++ "3" ++ ")/e") = .ok T := by
  have hr : (Registers.catalog : Registers Operation).WellNamed := by decide +kernel
  have hlast : "-sin(2^".toList.getLast? = some '^' := by decide
  have hp : BreaksOff "-sin(2^".toList := by
    rintro c hc
    cases hlast.symm.trans hc
    exact .inr (by decide)
  obtain ⟨hall, hnum⟩ := isLiteral_iff.mp (by decide : Number.isLiteral "3".toList = true)
  have hhead : ")/e".toList.head? = some ')' := by decide
  have hs : ∀ c, ")/e".toList.head? = some c → ¬ InNumber c := by
    rintro c hc
    cases hhead.symm.trans hc
    simp [InNumber]
  have ha : (Calculator.new .degrees (.catalog : Registers Operation)).tree "1+e" =
      .ok (.binary .plus (.number 1) (.number 2.718281828459045)) := by decide +kernel
  have hT : (Calculator.new .degrees .catalog).tree "-sin(2^3)/e" = .ok (.binary .divide
      (.negate (.call ⟨"sin", Operation.sin⟩ (.binary .exponent (.number 2) (.number 3))))
      (.number 2.718281828459045)) := by decide +kernel
  have htokens : ((Lexicon.ofRegisters .catalog).lex "-sin(2^").tokens =
      [.minus, .function ⟨"sin", Operation.sin⟩, .openParen, .number 2, .operator .exponent] := by
    decide +kernel
  have h := tree_substituted hr.toAlphanumeric .degrees hp hall hnum hs ha
  rw [htokens] at h
  have hparens := (h.1 _ hT).2.1
  refine ⟨hT, hparens, h.2 ?_ ⟨_, hparens⟩⟩
  rintro f ⟨⟩

end Reckoner
