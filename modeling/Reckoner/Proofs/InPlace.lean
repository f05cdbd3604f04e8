import Reckoner.Proofs.Automaton

/-!
# Parsing in place

The readers that move an index find what those find that are given the tokens from the index on, and
leave the index behind the tokens that those take, also where they fail. `Matches` relates the two
outcomes. `matches_found` is an induction along the descent, with one equation for each thing that a
reader in place can do.
-/

namespace Reckoner

variable {φ : Type}

/-- A tree and the index behind it, or an error and the index where it arose. -/
abbrev Located (φ : Type) := Except (Halt φ) (Tree φ × Nat)

/-- What a reader finds in place, without the bound on its index. -/
def Advance.located {n : Nat} : Advance φ n → Located φ
  | .ok r => .ok (r.tree, r.next)
  | .error e => .error e

section
variable (ts : Array (Token φ))

/-- What the reader of level `l` finds from index `k` on. -/
def locate (l : Level) (k : Nat) : Located φ :=
  (readLevelInPlace ts l k).located

/-- What the reader of operators of level `l` finds from index `k` on, behind a left operand. -/
def locateBehind (l : Level) (left : Tree φ) (k : Nat) : Located φ :=
  if h : l = .primary then .ok (left, k)
  else (readOperatorsInPlace ts l h left k (Nat.le_refl k)).located

/-- The closing parenthesis at index `k`, behind `t`, which `wrap` makes the whole of. -/
def closedAt (wrap : Tree φ → Tree φ) (t : Tree φ) (k : Nat) : Located φ :=
  match ts[k]? with
  | some .closeParen => .ok (wrap t, k + 1)
  | _ => .error ⟨.unmatchedParen, k⟩

/-- What function `f` is called with, in parentheses from index `k` on. -/
def calledAt (f : UnaryFunction φ) (k : Nat) : Located φ :=
  match ts[k]? with
  | some .openParen => (locate ts .sum (k + 1)).bind fun p => closedAt ts (.call f) p.1 p.2
  | _ => .error ⟨.functionWithoutParen, k⟩

/-- The primary that starts at index `k` with the token there, if there is one. -/
def primaryAt (k : Nat) : Option (Token φ) → Located φ
  | none => .error ⟨.unexpectedEnd, k⟩
  | some (.number x) => .ok (.number x, k + 1)
  | some .openParen => (locate ts .sum (k + 1)).bind fun p => closedAt ts id p.1 p.2
  | some (.operator .minus) => (locate ts .primary (k + 1)).map fun p => (.negate p.1, p.2)
  | some (.function f) => calledAt ts f (k + 1)
  | some t => .error ⟨.unexpectedToken t, k + 1⟩

end

/-! ### The readers -/

section
variable {ts : Array (Token φ)} {l : Level} {left : Tree φ} {k : Nat} {op : BinaryOperator}

theorem located_closeInPlace {n m : Nat} (wrap : Tree φ → Tree φ) (r : Passage φ n) (h : m ≤ n) :
    (closeInPlace ts wrap r h).located = closedAt ts wrap r.tree r.next := by
  unfold closeInPlace closedAt
  match ts[r.next]? with
  | none => rfl
  | some t => cases t <;> rfl

theorem located_readOperatorsInPlace {n m : Nat} (h : l ≠ .primary) (hn : n ≤ k) (hm : m ≤ k) :
    (readOperatorsInPlace ts l h left k hn).located =
      (readOperatorsInPlace ts l h left k hm).located := by
  induction hs : ts.size - k using Nat.strongRecOn generalizing left k n m with
  | ind s ih =>
    rw [readOperatorsInPlace, readOperatorsInPlace]
    split
    · rfl
    · next op ho =>
      have hlt := lt_size_of_operatorAtIndex? ho
      cases hr : readLevelInPlace ts l.tighter (k + 1) with
      | error e => rfl
      | ok r =>
        have := r.least_le
        exact ih (ts.size - r.next) (by omega) _ _ rfl

theorem locate_of_ne_primary (h : l ≠ .primary) (k : Nat) :
    locate ts l k = (locate ts l.tighter k).bind fun p => locateBehind ts l p.1 p.2 := by
  rw [locate, readLevelInPlace, dif_neg h, locate]
  cases readLevelInPlace ts l.tighter k with
  | error e => rfl
  | ok r =>
    simp only [Advance.located, Except.bind, locateBehind, dif_neg h]
    exact located_readOperatorsInPlace ..

theorem locateBehind_of_none (left : Tree φ) (h : operatorAtIndex? ts l k = none) :
    locateBehind ts l left k = .ok (left, k) := by
  unfold locateBehind
  split
  · rfl
  · rw [readOperatorsInPlace]
    split
    · rfl
    · next h' => rw [h] at h'; cases h'

theorem locateBehind_of_some (hl : l ≠ .primary) (left : Tree φ)
    (h : operatorAtIndex? ts l k = some op) :
    locateBehind ts l left k =
      (locate ts l.tighter (k + 1)).bind fun p => locateBehind ts l (.binary op left p.1) p.2 := by
  simp only [locateBehind, dif_neg hl]
  rw [readOperatorsInPlace]
  split
  · next h' => rw [h] at h'; cases h'
  · next op' h' =>
    cases h.symm.trans h'
    rw [locate]
    cases readLevelInPlace ts l.tighter (k + 1) with
    | error e => rfl
    | ok r => exact located_readOperatorsInPlace ..

theorem located_readPrimaryInPlace (ts : Array (Token φ)) (k : Nat) :
    (readPrimaryInPlace ts k).located = locate ts .primary k := by
  rw [locate, readLevelInPlace, dif_pos rfl]

theorem locate_primary (ts : Array (Token φ)) (k : Nat) :
    locate ts .primary k = primaryAt ts k ts[k]? := by
  rw [← located_readPrimaryInPlace, readPrimaryInPlace]
  by_cases hk : k < ts.size
  · rw [dif_pos hk, Array.getElem?_eq_getElem hk]
    generalize ts[k] = t
    cases t with
    | number x => rfl
    | openParen =>
      simp only [primaryAt, locate]
      cases readLevelInPlace ts .sum (k + 1) with
      | error e => rfl
      | ok r => exact located_closeInPlace ..
    | closeParen => rfl
    | function f =>
      simp only [primaryAt, calledAt, locate]
      cases ts[k + 1]? with
      | none => rfl
      | some t' =>
        cases t' with
        | openParen =>
          cases readLevelInPlace ts .sum (k + 1 + 1) with
          | error e => rfl
          | ok r => exact located_closeInPlace ..
        | number _ => rfl
        | operator _ => rfl
        | closeParen => rfl
        | function _ => rfl
    | operator op =>
      cases op with
      | minus =>
        simp only [primaryAt, ← located_readPrimaryInPlace]
        cases readPrimaryInPlace ts (k + 1) <;> rfl
      | plus => rfl
      | multiply => rfl
      | divide => rfl
      | exponent => rfl
  · rw [dif_neg hk, Array.getElem?_eq_none (Nat.le_of_not_lt hk)]
    rfl

end

/-! ### What is found in place -/

/-- What is found from index `k` on is what is found in the tokens `ts`, which are those from there
on. The index is behind as many of them as are taken. -/
inductive Matches (k : Nat) (ts : List (Token φ)) : Located φ → Found φ → Prop
  | tree {t : Tree φ} {used rest : List (Token φ)} {i : Nat} (hts : ts = used ++ rest)
      (hi : i = k + used.length) : Matches k ts (.ok (t, i)) (.ok (t, rest))
  | error {e : ParseError φ} {used rest : List (Token φ)} {i : Nat} (hts : ts = used ++ rest)
      (hi : i = k + used.length) : Matches k ts (.error ⟨e, i⟩) (.error ⟨e, rest⟩)

namespace Matches
variable {k : Nat} {ts us : List (Token φ)} {x : Located φ} {y : Found φ}

theorem append (h : Matches (k + us.length) ts x y) : Matches k (us ++ ts) x y := by
  cases h with
  | @tree t used rest i hts hi =>
    have hts' : us ++ ts = (us ++ used) ++ rest := by rw [hts, List.append_assoc]
    refine .tree hts' ?_
    rw [hi, List.length_append, Nat.add_assoc]
  | @error e used rest i hts hi =>
    have hts' : us ++ ts = (us ++ used) ++ rest := by rw [hts, List.append_assoc]
    refine .error hts' ?_
    rw [hi, List.length_append, Nat.add_assoc]

theorem cons {t : Token φ} (h : Matches (k + 1) ts x y) : Matches k (t :: ts) x y :=
  @append φ k ts [t] x y h

theorem here (t : Tree φ) : Matches k ts (.ok (t, k)) (.ok (t, ts)) :=
  .tree (List.nil_append ts).symm rfl

theorem errorHere (e : ParseError φ) : Matches k ts (.error ⟨e, k⟩) (.error ⟨e, ts⟩) :=
  .error (List.nil_append ts).symm rfl

theorem bind {f : Tree φ × Nat → Located φ} {g : Tree φ × List (Token φ) → Found φ}
    (h : Matches k ts x y)
    (hf : ∀ t used rest, ts = used ++ rest → y = .ok (t, rest) →
      Matches (k + used.length) rest (f (t, k + used.length)) (g (t, rest))) :
    Matches k ts (x.bind f) (y.bind g) := by
  cases h with
  | tree hts hi =>
    subst hts hi
    exact append (hf _ _ _ rfl rfl)
  | error hts hi => exact .error hts hi

theorem map (wrap : Tree φ → Tree φ) (h : Matches k ts x y) :
    Matches k ts (x.map fun p => (wrap p.1, p.2)) (y.map fun p => (wrap p.1, p.2)) := by
  cases h with
  | tree hts hi => exact .tree hts hi
  | error hts hi => exact .error hts hi

end Matches

section
variable {all : Array (Token φ)} {k : Nat} {ts used rest : List (Token φ)} {t : Token φ}

theorem getElem?_eq_head? (h : all.toList.drop k = ts) : all[k]? = ts.head? := by
  rw [← h, List.head?_drop, Array.getElem?_toList]

theorem drop_succ_of_cons (h : all.toList.drop k = t :: ts) : all.toList.drop (k + 1) = ts := by
  rw [← List.tail_drop, h]
  rfl

theorem drop_add_of_append (h : all.toList.drop k = used ++ rest) :
    all.toList.drop (k + used.length) = rest := by
  rw [← List.drop_drop, h, List.drop_left]

theorem operatorAtIndex?_eq (l : Level) (h : all.toList.drop k = ts) :
    operatorAtIndex? all l k = (operatorAt? l ts).map (·.1) := by
  rw [operatorAtIndex?, getElem?_eq_head? h]
  match ts with
  | [] => rfl
  | .number _ :: _ => rfl
  | .openParen :: _ => rfl
  | .closeParen :: _ => rfl
  | .function _ :: _ => rfl
  | .operator op :: _ =>
    simp only [List.head?_cons, operatorAt?]
    split <;> rfl

theorem matches_closed (wrap : Tree φ → Tree φ) (u : Tree φ) (h : all.toList.drop k = ts) :
    Matches k ts (closedAt all wrap u k) (closed wrap u ts) := by
  rw [closedAt, getElem?_eq_head? h]
  match ts with
  | [] => exact .errorHere _
  | .closeParen :: _ => exact .cons (.here _)
  | .number _ :: _ => exact .errorHere _
  | .openParen :: _ => exact .errorHere _
  | .function _ :: _ => exact .errorHere _
  | .operator _ :: _ => exact .errorHere _

/-- The sum in parentheses, from behind the opening one on. -/
theorem matches_parens (wrap : Tree φ → Tree φ)
    (ih : ∀ k, all.toList.drop k = ts → Matches k ts (locate all .sum k) (found .sum ts))
    (h : all.toList.drop k = ts) :
    Matches k ts ((locate all .sum k).bind fun p => closedAt all wrap p.1 p.2)
      ((found .sum ts).bind fun p => closed wrap p.1 p.2) := by
  refine (ih k h).bind fun u used rest hts _ => ?_
  rw [hts] at h
  exact matches_closed wrap u (drop_add_of_append h)

/-- From index `k` on a reader in place finds what a reader finds in the tokens from there on. -/
theorem matches_found (all : Array (Token φ)) (l : Level) (ts : List (Token φ)) :
    ∀ k, all.toList.drop k = ts → Matches k ts (locate all l k) (found l ts) := by
  induction l, ts using descent_induction
    (Q := fun l left ts => ∀ k, all.toList.drop k = ts →
      Matches k ts (locateBehind all l left k) (foundBehind l left ts)) with
  | level l ts hl ih ih' =>
    intro k h
    rw [locate_of_ne_primary hl, found_of_ne_primary hl]
    -- the index behind the operand is where the tokens start that it leaves
    refine (ih k h).bind fun t used rest hts hf => ?_
    rw [hts] at h
    exact ih' t rest hf _ (drop_add_of_append h)
  | stop l left ts ho k h =>
    have hk : operatorAtIndex? all l k = none := by rw [operatorAtIndex?_eq l h, ho]; rfl
    rw [locateBehind_of_none left hk, foundBehind_of_none left ho]
    exact .here left
  | operator op left ts ih ih' k h =>
    have hk : operatorAtIndex? all op.level k = some op := by
      rw [operatorAtIndex?_eq _ h, operatorAt?_cons]; rfl
    have hl : op.level ≠ .primary := by cases op <;> decide
    rw [locateBehind_of_some hl left hk, foundBehind_operator]
    have h' := drop_succ_of_cons h
    refine .cons ((ih _ h').bind fun t used rest hts hf => ?_)
    rw [hts] at h'
    exact ih' t rest hf _ (drop_add_of_append h')
  | nil =>
    intro k h
    rw [locate_primary, getElem?_eq_head? h, found_primary_nil]
    exact .errorHere _
  | number x ts =>
    intro k h
    rw [locate_primary, getElem?_eq_head? h, found_primary_number]
    exact .cons (.here _)
  | paren ts ih =>
    intro k h
    rw [locate_primary, getElem?_eq_head? h, found_primary_openParen]
    exact .cons (matches_parens id ih (drop_succ_of_cons h))
  | minus ts ih =>
    intro k h
    rw [locate_primary, getElem?_eq_head? h, found_primary_minus]
    exact .cons ((ih _ (drop_succ_of_cons h)).map .negate)
  | call f ts ih =>
    intro k h
    rw [locate_primary, getElem?_eq_head? h, found_primary_call]
    have h' := drop_succ_of_cons h
    simp only [List.head?_cons, primaryAt, calledAt, getElem?_eq_head? h']
    exact .cons (.cons (matches_parens _ ih (drop_succ_of_cons h')))
  | function f ts hp =>
    intro k h
    rw [locate_primary, getElem?_eq_head? h, found_primary_function f hp]
    simp only [List.head?_cons, primaryAt, calledAt, getElem?_eq_head? (drop_succ_of_cons h)]
    exact .cons (.errorHere _)
  | other t ts ht =>
    intro k h
    rw [locate_primary, getElem?_eq_head? h, found_primary_other ht]
    cases t with
    | number x => cases ht
    | openParen => cases ht
    | function f => cases ht
    | closeParen => exact .cons (.errorHere _)
    | operator op => cases op <;> first | exact .cons (.errorHere _) | cases ht

end

end Reckoner
