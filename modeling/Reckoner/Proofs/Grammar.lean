import Reckoner.Proofs.Descent

/-!
# The grammar of expressions

`Derives` is the grammar that the descent reads, with one nonterminal for each level and left
recursion where operators group: a list of tokens derives a tree that is made of these very tokens,
parentheses apart. The readers find exactly what is derived (`found_sound`, `Reads.of_derives`), so
parsing decides the grammar, and no list derives two trees.

A reader goes on as long as it can, so what it finds is followed by no operator that it would have
taken. `NoTighter` states that by heights, and it is also all that a derivation needs of the tokens
behind it to be found.
-/

namespace Reckoner

variable {φ : Type}

/-- The expressions of a level, left-recursive where operators group. -/
inductive Derives : Level → List (Token φ) → Tree φ → Prop
  | sum {op : BinaryOperator} {xs ys : List (Token φ)} {a b : Tree φ}
      (hop : op = .plus ∨ op = .minus) (ha : Derives .sum xs a) (hb : Derives .product ys b) :
      Derives .sum (xs ++ .operator op :: ys) (.binary op a b)
  | ofProduct {ts : List (Token φ)} {t : Tree φ} (h : Derives .product ts t) : Derives .sum ts t
  | product {op : BinaryOperator} {xs ys : List (Token φ)} {a b : Tree φ}
      (hop : op = .multiply ∨ op = .divide) (ha : Derives .product xs a) (hb : Derives .power ys b) :
      Derives .product (xs ++ .operator op :: ys) (.binary op a b)
  | ofPower {ts : List (Token φ)} {t : Tree φ} (h : Derives .power ts t) : Derives .product ts t
  | power {xs ys : List (Token φ)} {a b : Tree φ} (ha : Derives .power xs a)
      (hb : Derives .primary ys b) :
      Derives .power (xs ++ .operator .exponent :: ys) (.binary .exponent a b)
  | ofPrimary {ts : List (Token φ)} {t : Tree φ} (h : Derives .primary ts t) : Derives .power ts t
  | number (x : Float) : Derives .primary [.number x] (.number x)
  | paren {ts : List (Token φ)} {t : Tree φ} (h : Derives .sum ts t) :
      Derives .primary (.openParen :: ts ++ [.closeParen]) t
  | negate {ts : List (Token φ)} {t : Tree φ} (h : Derives .primary ts t) :
      Derives .primary (.minus :: ts) (.negate t)
  | call (f : UnaryFunction φ) {ts : List (Token φ)} {t : Tree φ} (h : Derives .sum ts t) :
      Derives .primary (.function f :: .openParen :: ts ++ [.closeParen]) (.call f t)

namespace Level
variable {l : Level}

theorem height_tighter_add_one (h : l ≠ primary) : l.tighter.height + 1 = l.height := by
  cases l <;> first | rfl | exact absurd rfl h

theorem height_inj {l' : Level} (h : l.height = l'.height) : l = l' := by
  cases l <;> cases l' <;> first | rfl | cases h

end Level

namespace Derives
variable {l : Level} {ts xs ys : List (Token φ)} {t a b : Tree φ}

theorem binary (op : BinaryOperator) (ha : Derives op.level xs a)
    (hb : Derives op.level.tighter ys b) :
    Derives op.level (xs ++ .operator op :: ys) (.binary op a b) := by
  cases op with
  | plus => exact .sum (.inl rfl) ha hb
  | minus => exact .sum (.inr rfl) ha hb
  | multiply => exact .product (.inl rfl) ha hb
  | divide => exact .product (.inr rfl) ha hb
  | exponent => exact .power ha hb

theorem of_tighter (h : Derives l.tighter ts t) : Derives l ts t := by
  cases l with
  | sum => exact .ofProduct h
  | product => exact .ofPower h
  | power => exact .ofPrimary h
  | primary => exact h

/-- What a level derives, every looser level derives. -/
theorem of_height_le {l' : Level} (h : Derives l ts t) (hl : l.height ≤ l'.height) :
    Derives l' ts t := by
  by_cases he : l = l'
  · subst he; exact h
  · have hlt : l.height < l'.height := Nat.lt_of_le_of_ne hl (mt Level.height_inj he)
    have hp : l' ≠ .primary := by
      rintro rfl
      exact Nat.not_lt_zero _ hlt
    have := Level.height_tighter_add_one hp
    exact of_tighter (of_height_le h (by omega))
termination_by l'.height

theorem toSum (h : Derives l ts t) : Derives .sum ts t :=
  h.of_height_le (by cases l <;> decide)

end Derives

/-- No operator of a height below `n` is at the front of `ts`. -/
def NoTighter (n : Nat) (ts : List (Token φ)) : Prop :=
  ∀ op rest, ts = .operator op :: rest → n ≤ op.level.height

namespace NoTighter
variable {l : Level} {ts rest : List (Token φ)}

theorem nil (n : Nat) : NoTighter n ([] : List (Token φ)) := by
  intro op rest h
  cases h

theorem closeParen (n : Nat) : NoTighter n (.closeParen :: rest) := by
  intro op rest h
  cases h

theorem operator (op : BinaryOperator) : NoTighter op.level.height (.operator op :: rest) := by
  intro op' rest' h
  cases h
  exact Nat.le_refl _

/-- Only a primary may have any operator behind it. -/
theorem primary (ts : List (Token φ)) : NoTighter (Level.primary.height + 1) ts := by
  rintro op rest rfl
  cases op <;> decide

theorem mono {n m : Nat} (h : NoTighter n ts) (hm : m ≤ n) : NoTighter m ts :=
  fun op rest hts => Nat.le_trans hm (h op rest hts)

theorem succ_of_none (h : NoTighter l.height ts) (ho : operatorAt? l ts = none) :
    NoTighter (l.height + 1) ts := by
  rintro op rest rfl
  refine Nat.lt_of_le_of_ne (h op rest rfl) fun he => ?_
  rw [Level.height_inj he, operatorAt?_cons] at ho
  cases ho

theorem none_of_succ (h : NoTighter (l.height + 1) ts) : operatorAt? l ts = none := by
  cases ho : operatorAt? l ts with
  | none => rfl
  | some p =>
    obtain ⟨op, rest⟩ := p
    obtain ⟨hts, hl⟩ := eq_cons_of_operatorAt? ho
    have := h op rest hts
    rw [hl] at this
    omega

end NoTighter

/-! ### What is found is derived -/

/-- What the reader of level `l` takes from `ts` derives its tree, and it leaves no operator that it
could take. -/
def Sound (l : Level) (ts : List (Token φ)) : Prop :=
  ∀ t rest, found l ts = .ok (t, rest) →
    ∃ used, ts = used ++ rest ∧ Derives l used t ∧ NoTighter (l.height + 1) rest

theorem Sound.closed {ts rest : List (Token φ)} {t : Tree φ} {wrap : Tree φ → Tree φ}
    (hs : Sound .sum ts) (h : ((found .sum ts).bind fun p => closed wrap p.1 p.2) = .ok (t, rest)) :
    ∃ used a, ts = used ++ .closeParen :: rest ∧ Derives .sum used a ∧ t = wrap a := by
  obtain ⟨⟨a, mid⟩, ha, hc⟩ := exists_of_bind_eq_ok h
  obtain ⟨used, rfl, hused, -⟩ := hs a mid ha
  obtain ⟨rfl, rfl⟩ := eq_of_closed hc
  exact ⟨used, a, rfl, hused, rfl⟩

theorem found_sound (l : Level) (ts : List (Token φ)) : Sound l ts := by
  -- of operators: the tokens `before` of the left operand and those taken behind it derive the tree
  induction l, ts using descent_induction
    (Q := fun l left ts => NoTighter l.height ts → ∀ before, Derives l before left →
      ∀ t rest, foundBehind l left ts = .ok (t, rest) →
        ∃ used, ts = used ++ rest ∧ Derives l (before ++ used) t ∧ NoTighter (l.height + 1) rest) with
  | level l ts hl ih ih' =>
    intro t rest h
    rw [found_of_ne_primary hl] at h
    obtain ⟨⟨a, mid⟩, ha, hb⟩ := exists_of_bind_eq_ok h
    obtain ⟨xs, rfl, hxs, hmid⟩ := ih a mid ha
    rw [Level.height_tighter_add_one hl] at hmid
    obtain ⟨used, rfl, hused, hrest⟩ := ih' a mid ha hmid xs hxs.of_tighter t rest hb
    exact ⟨xs ++ used, (List.append_assoc ..).symm, hused, hrest⟩
  | stop l left ts ho hts before hb t rest h =>
    rw [foundBehind_of_none left ho] at h
    cases h
    exact ⟨[], rfl, by rwa [List.append_nil], hts.succ_of_none ho⟩
  | operator op left ts ih ih' _ before hb t rest h =>
    rw [foundBehind_operator] at h
    obtain ⟨⟨b, mid⟩, hmid, hc⟩ := exists_of_bind_eq_ok h
    obtain ⟨ys, rfl, hys, hn⟩ := ih b mid hmid
    rw [Level.height_tighter_add_one (by cases op <;> decide)] at hn
    obtain ⟨used, rfl, hused, hrest⟩ := ih' b mid hmid hn _ (hb.binary op hys) t rest hc
    refine ⟨.operator op :: ys ++ used, by simp, ?_, hrest⟩
    rwa [← List.append_assoc]
  | nil =>
    intro t rest h
    rw [found_primary_nil] at h
    cases h
  | number x ts =>
    intro t rest h
    rw [found_primary_number] at h
    cases h
    exact ⟨[.number x], rfl, .number x, .primary _⟩
  | paren ts ih =>
    intro t rest h
    rw [found_primary_openParen] at h
    obtain ⟨xs, a, rfl, hxs, rfl⟩ := ih.closed h
    exact ⟨.openParen :: xs ++ [.closeParen], by simp, .paren hxs, .primary _⟩
  | minus ts ih =>
    intro t rest h
    rw [found_primary_minus] at h
    cases hp : found .primary ts with
    | error e => rw [hp] at h; cases h
    | ok p =>
      rw [hp] at h
      cases h
      obtain ⟨xs, hts, hxs, hrest⟩ := ih p.1 p.2 hp
      exact ⟨.minus :: xs, congrArg (Token.minus :: ·) hts, .negate hxs, hrest⟩
  | call f ts ih =>
    intro t rest h
    rw [found_primary_call] at h
    obtain ⟨xs, a, rfl, hxs, rfl⟩ := ih.closed h
    exact ⟨.function f :: .openParen :: xs ++ [.closeParen], by simp, .call f hxs, .primary _⟩
  | function f ts hp =>
    intro t rest h
    rw [found_primary_function f hp] at h
    cases h
  | other t' ts ht =>
    intro t rest h
    rw [found_primary_other ht] at h
    cases h

/-! ### What is derived is found -/

/-- The reader of level `l` takes `ts` as `t` and goes on behind it, if no operator there binds
tighter than the level. The left operand of an operator is followed by that operator, which is why
operators of the level itself must be let through. -/
def Reads (l : Level) (ts : List (Token φ)) (t : Tree φ) : Prop :=
  ∀ rest, NoTighter l.height rest → found l (ts ++ rest) = foundBehind l t rest

namespace Reads
variable {l : Level} {ts xs ys : List (Token φ)} {t a b : Tree φ}

theorem of_tighter (hl : l ≠ .primary) (h : Reads l.tighter ts t) : Reads l ts t := by
  intro rest hrest
  have hh := Level.height_tighter_add_one hl
  have hnone := NoTighter.none_of_succ (hh ▸ hrest)
  rw [found_of_ne_primary hl, h rest (hrest.mono (by omega)), foundBehind_of_none t hnone]
  rfl

theorem binary (op : BinaryOperator) (ha : Reads op.level xs a) (hb : Reads op.level.tighter ys b) :
    Reads op.level (xs ++ .operator op :: ys) (.binary op a b) := by
  intro rest hrest
  have hh := Level.height_tighter_add_one (l := op.level) (by cases op <;> decide)
  have hnone := NoTighter.none_of_succ (hh ▸ hrest)
  rw [List.append_assoc, List.cons_append, ha _ (.operator op), foundBehind_operator,
    hb rest (hrest.mono (by omega)), foundBehind_of_none b hnone]
  rfl

theorem closed (wrap : Tree φ → Tree φ) (h : Reads .sum ts t) (rest : List (Token φ)) :
    ((found .sum (ts ++ [.closeParen] ++ rest)).bind fun p => closed wrap p.1 p.2) =
      foundBehind .primary (wrap t) rest := by
  have hnone : operatorAt? .sum (.closeParen :: rest) = none := rfl
  rw [List.append_assoc, List.singleton_append, h _ (.closeParen _), foundBehind_of_none t hnone,
    foundBehind_primary]
  rfl

theorem of_derives (h : Derives l ts t) : Reads l ts t := by
  induction h with
  | @sum op _ _ _ _ hop _ _ iha ihb =>
    rcases hop with rfl | rfl
    · exact binary .plus iha ihb
    · exact binary .minus iha ihb
  | product hop _ _ iha ihb =>
    rcases hop with rfl | rfl
    · exact binary .multiply iha ihb
    · exact binary .divide iha ihb
  | power _ _ iha ihb => exact binary .exponent iha ihb
  | ofProduct _ ih => exact of_tighter (by decide) ih
  | ofPower _ ih => exact of_tighter (by decide) ih
  | ofPrimary _ ih => exact of_tighter (by decide) ih
  | number x => exact fun rest _ => found_primary_number x rest
  | paren _ ih => exact fun rest _ => (found_primary_openParen _).trans (ih.closed id rest)
  | negate _ ih =>
    intro rest hrest
    rw [List.cons_append, found_primary_minus, ih rest hrest]
    rfl
  | call f _ ih => exact fun rest _ => (found_primary_call f _).trans (ih.closed (.call f) rest)

end Reads

/-! ### Parsing -/

/-- Parsing succeeds with exactly what all tokens derive. -/
theorem parse_eq_ok_iff {ts : List (Token φ)} {t : Tree φ} :
    parse ts = .ok t ↔ Derives .sum ts t := by
  rw [parse_eq_ok_iff_found]
  constructor
  · intro h
    obtain ⟨used, rfl, hd, -⟩ := found_sound _ _ _ _ h
    rwa [List.append_nil]
  · intro h
    have hf := Reads.of_derives h [] (.nil _)
    rwa [List.append_nil, foundBehind_of_none t rfl] at hf

/-- Operands joined by operators of one level, as the left fold of the operators. -/
theorem Derives.chain {l : Level} {xs : List (Token φ)} {x : Tree φ} (hx : Derives l xs x)
    (steps : List (BinaryOperator × List (Token φ) × Tree φ))
    (h : ∀ s ∈ steps, s.1.level = l ∧ Derives l.tighter s.2.1 s.2.2) :
    Derives l (xs ++ steps.flatMap fun s => .operator s.1 :: s.2.1)
      (steps.foldl (fun t s => .binary s.1 t s.2.2) x) := by
  induction steps generalizing xs x with
  | nil => simpa using hx
  | cons s steps ih =>
    obtain ⟨hl, hs⟩ := h s (List.mem_cons_self ..)
    subst hl
    have hd := ih (hx.binary s.1 hs) fun s' hs' => h s' (List.mem_cons_of_mem _ hs')
    simpa using hd

/-- Parsing decides the grammar. So no list of tokens derives two trees at one level, operators of
one level group to the left however many are chained, and a minus sign in front of a primary binds
tighter than any operator behind it. -/
theorem parse_derives :
    (∀ (ts : List (Token φ)) t, parse ts = .ok t ↔ Derives .sum ts t) ∧
    (∀ l (ts : List (Token φ)) t t', Derives l ts t → Derives l ts t' → t = t') ∧
    (∀ l xs x (steps : List (BinaryOperator × List (Token φ) × Tree φ)), Derives l xs x →
      (∀ s ∈ steps, s.1.level = l ∧ Derives l.tighter s.2.1 s.2.2) →
      parse (xs ++ steps.flatMap fun s => .operator s.1 :: s.2.1) =
        .ok (steps.foldl (fun t s => .binary s.1 t s.2.2) x)) ∧
    (∀ op (xs ys : List (Token φ)) x y, Derives .primary xs x → Derives op.level.tighter ys y →
      parse (.minus :: xs ++ .operator op :: ys) = .ok (.binary op (.negate x) y)) := by
  refine ⟨fun _ _ => parse_eq_ok_iff, fun l ts t t' h h' => ?_, fun l xs x steps hx hs => ?_,
    fun op xs ys x y hx hy => ?_⟩
  · have h₁ := parse_eq_ok_iff.mpr h.toSum
    have h₂ := parse_eq_ok_iff.mpr h'.toSum
    exact Except.ok.inj (h₁.symm.trans h₂)
  · exact parse_eq_ok_iff.mpr (hx.chain steps hs).toSum
  · have hl : Derives op.level (.minus :: xs) (.negate x) := hx.negate.of_height_le (Nat.zero_le _)
    exact parse_eq_ok_iff.mpr (hl.binary op hy).toSum

/-- A minus sign binds tighter than a power, and powers group to the left. -/
theorem parse_derives_negated_power :
    parse [.minus, .number 2, .operator .exponent, .number 3, .operator .exponent, .number 2] =
      .ok (.binary .exponent (.binary .exponent (.negate (.number 2)) (.number 3)) (.number 2) :
        Tree Operation) ∧
    parse [.minus, .number 2, .operator .exponent, .number 3] =
      .ok (.binary .exponent (.negate (.number 2)) (.number 3) : Tree Operation) := by
  have chain := parse_derives.2.2.1 .power [.minus, .number 2]
    (.negate (.number 2) : Tree Operation) [(.exponent, [.number 3], .number 3),
      (.exponent, [.number 2], .number 2)]
  have minus := parse_derives.2.2.2 .exponent [.number 2] [.number 3] (.number 2 : Tree Operation)
    (.number 3)
  refine ⟨chain (.ofPrimary (.negate (.number 2))) ?_, minus (.number 2) (.number 3)⟩
  exact List.forall_mem_cons.mpr ⟨⟨rfl, .number 3⟩, List.forall_mem_singleton.mpr ⟨rfl, .number 2⟩⟩

end Reckoner
