import Reckoner.Proofs.InPlace
import Reckoner.Proofs.Reading

/-!
# A parser that is asked again

A parse from index `k` is a parse of the tokens from there on, `k` further along (`Cursor.parse_eq`).
The automaton reads past a first token whatever it is, so a parse takes at least one, and a tree is
found only with all of them. However often a parser is asked, its index grows until it is at the end
(`Cursor.le_current_after`) and stays there, where only the end is found.
-/

namespace Reckoner

variable {φ : Type}

namespace Automaton

theorem le_current_halt (c : Config) (i : Nat) (t : Option (Token φ)) :
    i ≤ (halt c i t).current := by
  obtain ⟨_ | _ | _, _ | d⟩ := c <;> cases t <;> first | exact Nat.le_refl i | exact Nat.le_succ i

theorem le_current_run (c : Config) (i : Nat) (ts : List (Token φ)) : i ≤ (run c i ts).current := by
  induction ts generalizing c i with
  | nil => exact le_current_halt c i none
  | cons t ts ih =>
    cases hs : step c t with
    | some c' =>
      rw [run_cons_of_some hs]
      exact Nat.le_of_succ_le (ih c' (i + 1))
    | none =>
      rw [run_cons_of_none hs]
      exact le_current_halt c i (some t)

/-- Where an operand is wanted, a token is read past even if it cannot start one. -/
theorem lt_current_run_cons (d i : Nat) (t : Token φ) (ts : List (Token φ)) :
    i < (run ⟨.operandWanted, d⟩ i (t :: ts)).current := by
  cases hs : step ⟨.operandWanted, d⟩ t with
  | some c' =>
    rw [run_cons_of_some hs]
    exact le_current_run c' (i + 1) ts
  | none =>
    rw [run_cons_of_none hs]
    exact Nat.lt_succ_self i

end Automaton

theorem observed_current_le (ts : List (Token φ)) : (observed ts).current ≤ ts.length :=
  Nat.sub_le ..

theorem observed_current_pos {ts : List (Token φ)} (h : ts ≠ []) : 0 < (observed ts).current := by
  obtain ⟨t, ts, rfl⟩ := List.exists_cons_of_ne_nil h
  rw [(observed_eq_automaton _).1]
  exact Automaton.lt_current_run_cons 0 0 t ts

theorem observed_current_of_parse {ts : List (Token φ)} {t : Tree φ} (h : parse ts = .ok t) :
    (observed ts).current = ts.length := by
  rw [(observed_of_ok (parseTokens_eq_ok_iff.mpr (parse_eq_ok_iff_found.mp h))).1]

namespace Cursor

/-- The tokens from the index on. -/
def left (c : Cursor φ) : List (Token φ) :=
  c.tokens.toList.drop c.current

/-- How a parse ends that has located a tree, or failed. -/
def ended (all : Array (Token φ)) : Located φ → Except (ParseError φ) (Tree φ) × Cursor φ
  | .error e => (.error e.error, ⟨all, e.next⟩)
  | .ok (t, i) =>
    match all[i]? with
    | none => (.ok t, ⟨all, i⟩)
    | some u => (.error (.unexpectedToken u), ⟨all, i⟩)

theorem parse_eq_ended (c : Cursor φ) :
    c.parse = ended c.tokens (locate c.tokens .sum c.current) := by
  rw [parse, locate]
  cases readLevelInPlace c.tokens .sum c.current with
  | error e => rfl
  | ok r => rfl

/-- A parse finds what a parse of the tokens left finds, and takes as many of them. -/
theorem parse_eq (c : Cursor φ) :
    c.parse = (Reckoner.parse c.left, ⟨c.tokens, c.current + (observed c.left).current⟩) := by
  obtain ⟨all, k⟩ := c
  generalize hts : left ⟨all, k⟩ = ts
  replace hts : all.toList.drop k = ts := hts
  have hm := matches_found all .sum ts k hts
  rw [parse_eq_ended, Reckoner.parse]
  generalize hx : locate all .sum k = x at hm ⊢
  generalize hy : found .sum ts = y at hm
  cases hm with
  | @error e used rest i hused hi =>
    have hp : parseTokens ts = .error ⟨e, rest⟩ := by rw [parseTokens_eq, hy]; rfl
    rw [hp, (observed_of_error hp).1, hused, List.length_append, Nat.add_sub_cancel, hi]
    rfl
  | @tree t used rest i hused hi =>
    rw [hused] at hts
    have hrest := getElem?_eq_head? (drop_add_of_append hts)
    rw [← hi] at hrest
    rw [ended, hrest]
    cases rest with
    | nil =>
      have hp : parseTokens ts = .ok t := parseTokens_eq_ok_iff.mpr hy
      rw [hp, (observed_of_ok hp).1, hused, List.append_nil, hi]
      rfl
    | cons u rest =>
      have hp : parseTokens ts = .error ⟨.unexpectedToken u, u :: rest⟩ := by
        rw [parseTokens_eq, hy]; rfl
      rw [hp, (observed_of_error hp).1, hused, List.length_append, Nat.add_sub_cancel, hi]
      rfl

/-! ### One call -/

section
variable {c : Cursor φ}

theorem parse_ofList (ts : List (Token φ)) :
    (ofList ts).parse = (Reckoner.parse ts, ⟨ts.toArray, (observed ts).current⟩) := by
  have hleft : (ofList ts).left = ts := rfl
  have hcurrent : (ofList ts).current + (observed ts).current = (observed ts).current :=
    Nat.zero_add _
  rw [parse_eq, hleft, hcurrent]
  rfl

@[simp] theorem tokens_parse (c : Cursor φ) : c.parse.2.tokens = c.tokens := by
  rw [parse_eq]

theorem length_left (c : Cursor φ) : c.left.length = c.tokens.size - c.current := by
  rw [left, List.length_drop, Array.length_toList]

theorem current_parse_le (h : c.current ≤ c.tokens.size) : c.parse.2.current ≤ c.tokens.size := by
  have hle := observed_current_le c.left
  rw [length_left] at hle
  rw [parse_eq]
  show c.current + (observed c.left).current ≤ c.tokens.size
  omega

theorem le_current_parse (c : Cursor φ) : c.current ≤ c.parse.2.current := by
  rw [parse_eq]
  exact Nat.le_add_right ..

theorem lt_current_parse (h : c.current < c.tokens.size) : c.current < c.parse.2.current := by
  have hne : c.left ≠ [] := by
    rw [← List.length_pos_iff, length_left]
    omega
  rw [parse_eq]
  exact Nat.lt_add_of_pos_right (observed_current_pos hne)

theorem current_parse_of_ok {t : Tree φ} (hc : c.current ≤ c.tokens.size) (h : c.parse.1 = .ok t) :
    c.parse.2.current = c.tokens.size := by
  rw [parse_eq] at h ⊢
  show c.current + (observed c.left).current = c.tokens.size
  rw [observed_current_of_parse h, length_left]
  omega

theorem parse_of_end (h : c.current = c.tokens.size) : c.parse = (.error .unexpectedEnd, c) := by
  have hleft : c.left = [] := by
    rw [← List.length_eq_zero_iff, length_left, h, Nat.sub_self]
  have hcurrent : (observed ([] : List (Token φ))).current = 0 :=
    Nat.le_zero.mp (observed_current_le [])
  rw [parse_eq, hleft, parse_nil, hcurrent]
  rfl

end

/-! ### Calls in turn -/

/-- The parser after `n` calls. -/
def after (c : Cursor φ) : Nat → Cursor φ
  | 0 => c
  | n + 1 => (c.after n).parse.2

section
variable {c : Cursor φ} {m n : Nat} {t u : Tree φ}

@[simp] theorem tokens_after (c : Cursor φ) (n : Nat) : (c.after n).tokens = c.tokens := by
  induction n with
  | zero => rfl
  | succ n ih => rw [after, tokens_parse, ih]

theorem current_after_le (h : c.current ≤ c.tokens.size) (n : Nat) :
    (c.after n).current ≤ c.tokens.size := by
  induction n with
  | zero => exact h
  | succ n ih =>
    rw [← tokens_after c n] at ih ⊢
    exact current_parse_le ih

theorem current_after_mono (c : Cursor φ) (h : m ≤ n) :
    (c.after m).current ≤ (c.after n).current := by
  induction h with
  | refl => exact Nat.le_refl _
  | step _ ih => exact Nat.le_trans ih (le_current_parse _)

/-- Each call takes a token until there are no more. -/
theorem le_current_after (c : Cursor φ) (n : Nat) :
    min (c.current + n) c.tokens.size ≤ (c.after n).current := by
  induction n with
  | zero => exact Nat.min_le_left ..
  | succ n ih =>
    have hmono := le_current_parse (c.after n)
    by_cases hlt : (c.after n).current < c.tokens.size
    · have hstep := lt_current_parse ((tokens_after c n).symm ▸ hlt)
      rw [after]
      omega
    · -- at the end already, and the index does not fall back
      rw [after]
      omega

theorem parse_after_of_end (h : (c.after n).current = c.tokens.size) :
    (c.after n).parse = (.error .unexpectedEnd, c.after n) :=
  parse_of_end (h.trans (congrArg Array.size (tokens_after c n)).symm)

theorem current_after_of_size_le (hc : c.current ≤ c.tokens.size) (h : c.tokens.size ≤ c.current + n) :
    (c.after n).current = c.tokens.size := by
  have hmin := le_current_after c n
  rw [Nat.min_eq_right h] at hmin
  exact Nat.le_antisymm (current_after_le hc n) hmin

theorem current_after_of_ok (hc : c.current ≤ c.tokens.size) (h : (c.after n).parse.1 = .ok t) :
    (c.after (n + 1)).current = c.tokens.size := by
  have hle := current_after_le hc n
  rw [← tokens_after c n] at hle ⊢
  exact current_parse_of_ok hle h

theorem ne_ok_of_lt (hc : c.current ≤ c.tokens.size) (hlt : m < n)
    (h : (c.after m).parse.1 = .ok t) : (c.after n).parse.1 ≠ .ok u := by
  have hmono := current_after_mono c hlt
  rw [current_after_of_ok hc h] at hmono
  rw [parse_after_of_end (Nat.le_antisymm (current_after_le hc n) hmono)]
  rintro ⟨⟩

/-- Of all calls at most one finds a tree. -/
theorem eq_of_ok_of_ok (hc : c.current ≤ c.tokens.size) (hm : (c.after m).parse.1 = .ok t)
    (hn : (c.after n).parse.1 = .ok u) : m = n := by
  rcases Nat.lt_trichotomy m n with hlt | heq | hlt
  · exact absurd hn (ne_ok_of_lt hc hlt hm)
  · exact heq
  · exact absurd hm (ne_ok_of_lt hc hlt hn)

theorem after_parse (c : Cursor φ) (n : Nat) : c.parse.2.after n = c.after (n + 1) := by
  induction n with
  | zero => rfl
  | succ n ih => exact congrArg (fun d => d.parse.2) ih

theorem parseInTurn_eq (c : Cursor φ) (n : Nat) :
    c.parseInTurn n =
      (List.range n).map fun i => ((c.after i).parse.1, (c.after (i + 1)).current) := by
  induction n generalizing c with
  | zero => rfl
  | succ n ih =>
    rw [parseInTurn, ih, List.range_succ_eq_map, List.map_cons, List.map_map]
    refine congrArg _ (List.map_congr_left fun i _ => ?_)
    simp only [Function.comp_apply, after_parse]

end
end Cursor

/-- However often a parser of the tokens is asked, errors included. A call at index `k` ends as the
first call of a parser of the tokens from `k` on, and moves the index as far; it moves it unless it is
at the end, never past the end, and to the end if it finds a tree. So one call at most finds a tree,
and after as many calls as there are tokens only the end is found and the index stays. -/
theorem parse_again (ts : List (Token φ)) :
    let c := Cursor.ofList ts
    (∀ k, (⟨ts.toArray, k⟩ : Cursor φ).parse =
      ((Cursor.ofList (ts.drop k)).parse.1,
        ⟨ts.toArray, k + (Cursor.ofList (ts.drop k)).parse.2.current⟩)) ∧
    c.parse = (parse ts, ⟨ts.toArray, (observed ts).current⟩) ∧
    (∀ n, (c.after n).tokens = ts.toArray ∧ (c.after n).current ≤ ts.length ∧
      (c.after n).current ≤ (c.after (n + 1)).current ∧
      ((c.after n).current < ts.length → (c.after n).current < (c.after (n + 1)).current) ∧
      ∀ t, (c.after n).parse.1 = .ok t → (c.after (n + 1)).current = ts.length) ∧
    (∀ m n t u, (c.after m).parse.1 = .ok t → (c.after n).parse.1 = .ok u → m = n) ∧
    (∀ n, ts.length ≤ n → ∃ e, e.message = "Unexpected end of token stream" ∧
      (c.after n).parse = (.error e, c.after n)) ∧
    ∀ n, parseInTurn n ts = (List.range n).map fun i =>
      ((c.after i).parse.1, ts.length - (c.after (i + 1)).current) := by
  intro c
  have hc : c.current ≤ c.tokens.size := Nat.zero_le _
  have hsize : c.tokens.size = ts.length := List.size_toArray
  have hafter : ∀ n, (c.after n).tokens.size = ts.length := fun n => by
    rw [Cursor.tokens_after, hsize]
  refine ⟨fun k => ?_, Cursor.parse_ofList ts, fun n => ⟨Cursor.tokens_after .., ?_,
    Cursor.le_current_parse _, fun h => Cursor.lt_current_parse ((hafter n).symm ▸ h),
    fun t h => (Cursor.current_after_of_ok hc h).trans hsize⟩,
    fun m n t u hm hn => Cursor.eq_of_ok_of_ok hc hm hn,
    fun n hn => ⟨.unexpectedEnd, rfl, ?_⟩, fun n => ?_⟩
  · rw [Cursor.parse_eq, Cursor.parse_ofList]
    rfl
  · exact hsize ▸ Cursor.current_after_le hc n
  · refine Cursor.parse_after_of_end (Cursor.current_after_of_size_le hc ?_)
    rw [hsize]
    exact Nat.le_add_left_of_le hn
  · rw [parseInTurn, Cursor.parseInTurn_eq, List.map_map]
    rfl

example :
    parseInTurn 3 [.closeParen, .number 2] =
      [(.error (.unexpectedToken .closeParen), 1), (.ok (.number 2 : Tree φ), 0),
        (.error .unexpectedEnd, 0)] := by
  cbv

end Reckoner
