import Reckoner.Proofs.Automaton

/-!
# Viable prefixes

Tokens are `Viable` if something can follow them so that the whole parses. The automaton decides
this: where it gets through, its state says what is missing (`Automaton.completion`), and where it
is stuck, nothing can follow (`viable_iff`). So every list of tokens is viable up to one index and
no further (`Offending`), and there parsing stops, or one token behind if that stands in place of an
operand.
-/

namespace Reckoner

variable {φ : Type}

/-- Something can follow `ts` so that the whole parses. -/
def Viable (ts : List (Token φ)) : Prop :=
  ∃ us t, parse (ts ++ us) = .ok t

/-- An operand may come next behind `ts`. -/
def OperandMayFollow (ts : List (Token φ)) : Prop :=
  ∃ x, Viable (ts ++ [.number x])

/-- Up to index `i` the tokens can be continued to an expression, with the token at `i` they cannot.
There is no such token if the whole of them can be continued. -/
structure Offending (ts : List (Token φ)) (i : Nat) : Prop where
  le_length : i ≤ ts.length
  viable : Viable (ts.take i)
  dead : i < ts.length → ¬ Viable (ts.take (i + 1))

namespace Automaton
variable {c c' : Config} {t : Token φ} {ts us : List (Token φ)}

/-- The least that can follow: an operand where one is missing, and what closes the parentheses. -/
def completion : Config → List (Token φ)
  | ⟨.operandWanted, d⟩ => .number 0 :: List.replicate d .closeParen
  | ⟨.functionRead, d⟩ => .openParen :: .number 0 :: List.replicate (d + 1) .closeParen
  | ⟨.operandComplete, d⟩ => List.replicate d .closeParen

theorem accepts_closeParens (d : Nat) :
    Accepts ⟨.operandComplete, d⟩ (List.replicate d (.closeParen : Token φ)) := by
  induction d with
  | zero => exact fun i => rfl
  | succ d ih => exact (Moves.single rfl).accepts_iff.mpr ih

/-- Every state can be completed. -/
theorem accepts_completion (c : Config) : Accepts c (completion c : List (Token φ)) := by
  obtain ⟨state, d⟩ := c
  cases state with
  | operandWanted => exact (Moves.single rfl).accepts_iff.mpr (accepts_closeParens d)
  | functionRead =>
    exact ((Moves.single rfl).cons rfl).accepts_iff.mpr (accepts_closeParens (d + 1))
  | operandComplete => exact accepts_closeParens d

/-- Over some of the tokens, from the front, there are steps, and then there is none. -/
theorem exists_moves_stuck (c : Config) (ts : List (Token φ)) :
    ∃ used rest c', ts = used ++ rest ∧ Moves c used c' ∧
      ∀ t, rest.head? = some t → step c' t = none := by
  induction ts generalizing c with
  | nil => exact ⟨[], [], c, rfl, fun i rest => rfl, fun t ht => by cases ht⟩
  | cons t ts ih =>
    cases hs : step c t with
    | none =>
      refine ⟨[], t :: ts, c, rfl, fun i rest => rfl, ?_⟩
      rintro t' ⟨⟩
      exact hs
    | some c' =>
      obtain ⟨used, rest, c'', rfl, hm, hstuck⟩ := ih c'
      exact ⟨t :: used, rest, c'', rfl, hm.cons hs, hstuck⟩

theorem run_of_stuck (h : ∀ t, ts.head? = some t → step c t = none) (i : Nat) :
    run c i ts = halt c i ts.head? := by
  cases ts with
  | nil => rfl
  | cons t ts => exact run_cons_of_none (h t rfl) i ts

/-- A message starts as one that names a token does only if it is one. -/
theorem ne_unexpectedToken {message : String}
    (h : message.toList.take 12 ≠ "Unexpected token: ".toList.take 12) (text : String) :
    message ≠ "Unexpected token: " ++ text := by
  rintro rfl
  rw [String.toList_append, List.take_append_of_le_length (by decide)] at h
  exact h rfl

theorem exists_of_halt_token {i : Nat} {next : Option (Token φ)} {text : String}
    (h : (halt c i next).error = some ("Unexpected token: " ++ text)) :
    ∃ t, next = some t ∧ t.shown = text := by
  unfold halt at h
  split at h
  · exact ⟨_, rfl, (String.append_right_inj _).mp (Option.some.inj h)⟩
  · exact absurd (Option.some.inj h) (ne_unexpectedToken (by decide) text)
  · exact absurd (Option.some.inj h) (ne_unexpectedToken (by decide) text)
  · exact absurd (Option.some.inj h) (ne_unexpectedToken (by decide) text)
  · exact ⟨_, rfl, (String.append_right_inj _).mp (Option.some.inj h)⟩
  · cases h

theorem eq_none_of_halt_end {i : Nat} {next : Option (Token φ)}
    (h : (halt c i next).error = some "Unexpected end of token stream") : next = none := by
  unfold halt at h
  split at h
  · exact absurd (Option.some.inj h).symm (ne_unexpectedToken (by decide) _)
  · rfl
  · exact absurd (Option.some.inj h) (by decide)
  · exact absurd (Option.some.inj h) (by decide)
  · exact absurd (Option.some.inj h).symm (ne_unexpectedToken (by decide) _)
  · cases h

end Automaton

open Automaton in
/-- Tokens are viable if and only if the automaton gets through. -/
theorem viable_iff {ts : List (Token φ)} : Viable ts ↔ ∃ c, Moves ⟨.operandWanted, 0⟩ ts c := by
  simp only [Viable, exists_parse_iff_accepts]
  constructor
  · rintro ⟨us, h⟩
    obtain ⟨c, hm, -⟩ := exists_moves_of_accepts h
    exact ⟨c, hm⟩
  · rintro ⟨c, hm⟩
    exact ⟨completion c, hm.accepts_iff.mpr (accepts_completion c)⟩

theorem Viable.of_append {ts us : List (Token φ)} (h : Viable (ts ++ us)) : Viable ts := by
  obtain ⟨vs, t, ht⟩ := h
  exact ⟨us ++ vs, t, by rw [← List.append_assoc, ht]⟩

theorem Viable.take {ts : List (Token φ)} {i j : Nat} (hij : i ≤ j) (h : Viable (ts.take j)) :
    Viable (ts.take i) := by
  obtain ⟨us, hus⟩ := (List.take_prefix_take_left hij : ts.take i <+: ts.take j)
  rw [← hus] at h
  exact h.of_append

section
open Automaton
variable {used : List (Token φ)} {c : Config} {t : Token φ}

theorem not_viable_of_stuck (hm : Moves ⟨.operandWanted, 0⟩ used c) (ht : step c t = none) :
    ¬ Viable (used ++ [t]) := by
  simp only [Viable, exists_parse_iff_accepts]
  rintro ⟨us, h⟩
  rw [List.append_assoc, hm.accepts_iff] at h
  obtain ⟨c', hs, -⟩ := accepts_cons h
  rw [ht] at hs
  cases hs

/-- An operand may come next exactly where the automaton wants one. -/
theorem operandMayFollow_iff (hm : Moves ⟨.operandWanted, 0⟩ used c) :
    OperandMayFollow used ↔ c.state = .operandWanted := by
  obtain ⟨state, d⟩ := c
  constructor
  · rintro ⟨x, h⟩
    cases state with
    | operandWanted => rfl
    | functionRead => exact absurd h (not_viable_of_stuck hm rfl)
    | operandComplete => exact absurd h (not_viable_of_stuck hm (by cases d <;> rfl))
  · rintro rfl
    exact ⟨0, viable_iff.mpr ⟨_, hm.trans (.single rfl)⟩⟩

end

theorem Offending.unique {ts : List (Token φ)} {i j : Nat} (hi : Offending ts i)
    (hj : Offending ts j) : i = j := by
  rcases Nat.lt_trichotomy i j with h | h | h
  · exact absurd (hj.viable.take h) (hi.dead (Nat.lt_of_lt_of_le h hj.le_length))
  · exact h
  · exact absurd (hi.viable.take h) (hj.dead (Nat.lt_of_lt_of_le h hi.le_length))

open Automaton in
theorem offending_of_stuck {used rest : List (Token φ)} {c : Config}
    (hm : Moves ⟨.operandWanted, 0⟩ used c)
    (hstuck : ∀ t, rest.head? = some t → step c t = none) :
    Offending (used ++ rest) used.length := by
  refine ⟨by simp, ?_, fun hlt => ?_⟩
  · rw [List.take_left]
    exact viable_iff.mpr ⟨c, hm⟩
  · cases rest with
    | nil => simp at hlt
    | cons t rest =>
      have htake : (used ++ t :: rest).take (used.length + 1) = used ++ [t] := by
        rw [List.take_length_add_append]
        rfl
      rw [htake]
      exact not_viable_of_stuck hm (hstuck t rfl)

/-- Errors come at the first token that cannot be right and not before: up to one index, and to no
other, the tokens can be continued to an expression while no continuation takes in the token there.
It is the token that the message names, if it names one, and the end if that came too soon. Parsing
stops at this index, or behind it if the token stands where an operand may come next. Tokens that
parse are read to their end in the same way. -/
theorem parse_stops_at_offending (ts : List (Token φ)) :
    ∃ i, Offending ts i ∧ (∀ j, Offending ts j → j = i) ∧
      (∀ text, (observed ts).error = some ("Unexpected token: " ++ text) →
        ∃ t, ts[i]? = some t ∧ t.shown = text) ∧
      ((observed ts).error = some "Unexpected end of token stream" → i = ts.length) ∧
      ((observed ts).current = i ∨ (observed ts).current = i + 1) ∧
      ((observed ts).current = i + 1 ↔ i < ts.length ∧ OperandMayFollow (ts.take i)) := by
  obtain ⟨used, rest, c, rfl, hm, hstuck⟩ := Automaton.exists_moves_stuck ⟨.operandWanted, 0⟩ ts
  have hoff := offending_of_stuck hm hstuck
  have hhalt : observed (used ++ rest) = Automaton.halt c used.length rest.head? := by
    rw [(observed_eq_automaton _).1, hm, Nat.zero_add, Automaton.run_of_stuck hstuck]
  have hnext : (used ++ rest)[used.length]? = rest.head? := by
    rw [List.getElem?_append_right (Nat.le_refl _), Nat.sub_self, List.head?_eq_getElem?]
  have hlt : used.length < (used ++ rest).length ↔ rest.head?.isSome = true := by
    cases rest <;> simp
  refine ⟨used.length, hoff, fun j hj => hj.unique hoff, ?_⟩
  rw [hhalt, hnext, hlt, List.take_left, operandMayFollow_iff hm]
  refine ⟨fun text => Automaton.exists_of_halt_token, fun hend => ?_, ?_⟩
  · rw [List.head?_eq_none_iff.mp (Automaton.eq_none_of_halt_end hend), List.append_nil]
  · obtain ⟨_ | _ | _, _ | d⟩ := c <;> cases rest.head? <;> simp [Automaton.halt]

end Reckoner
