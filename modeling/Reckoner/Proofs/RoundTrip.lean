import Reckoner.Proofs.Grammar
import Reckoner.Proofs.Reading
import Reckoner.Proofs.Words

/-!
# Trees as text

`Writes` says with which words a tree is written if only the parentheses stand that its shape needs.
Lexing the words, however they are spaced, and parsing the tokens gives the tree back, except that a
call goes to the last registered function of its name (`tree_of_writes`). So the tree that comes back
is the same if and only if it calls no function that a later one of its name hides.
-/

namespace Reckoner
open Scan

variable {φ : Type}

namespace Tree

/-- The level of the expression that a tree is. -/
def level : Tree φ → Level
  | binary op _ _ => op.level
  | _ => .primary

def isBinary : Tree φ → Bool
  | binary .. => true
  | _ => false

end Tree

/-- Words in parentheses, where they are needed. -/
def parens (needed : Bool) (ws : List (Word φ)) : List (Word φ) :=
  if needed then .openParen :: ws ++ [.closeParen] else ws

/-- `Writes r t ws`: the tree `t`, made of numbers that have a literal and of functions of the
registers, is written as the words `ws`. A left operand is in parentheses if it is of a looser level
than the operator, a right operand also if it is of the same level. -/
inductive Writes (r : Registers φ) : Tree φ → List (Word φ) → Prop
  | number {run : List Char} (hall : ∀ c ∈ run, InNumber c) (hnum : IsNumber run) :
      Writes r (.number (Number.ofLiteral run)) [.literal run]
  | negate {t : Tree φ} {ws : List (Word φ)} (h : Writes r t ws) :
      Writes r (.negate t) (.operator .minus :: parens t.isBinary ws)
  | binary (op : BinaryOperator) {a b : Tree φ} {us vs : List (Word φ)} (ha : Writes r a us)
      (hb : Writes r b vs) :
      Writes r (.binary op a b) (parens (op.level.height < a.level.height) us ++
        .operator op :: parens (op.level.height ≤ b.level.height) vs)
  | call {f : UnaryFunction φ} {t : Tree φ} {ws : List (Word φ)} (hf : f ∈ r.functions)
      (h : Writes r t ws) :
      Writes r (.call f t) (.function f :: .openParen :: ws ++ [.closeParen])

/-- The function is the last of its name. -/
def Registers.IsLast (r : Registers φ) (f : UnaryFunction φ) : Prop :=
  ∃ before after, r.functions = before ++ f :: after ∧ ∀ g ∈ after, g.name ≠ f.name

namespace Tree

/-- Every function that is called is the last of its name. -/
def CallsLast (r : Registers φ) : Tree φ → Prop
  | number _ => True
  | negate t => t.CallsLast r
  | binary _ a b => a.CallsLast r ∧ b.CallsLast r
  | call f t => r.IsLast f ∧ t.CallsLast r

/-- The tree in which each call goes to the function that its name stands for. -/
def current (r : Registers φ) : Tree φ → Tree φ
  | number x => .number x
  | negate t => .negate (t.current r)
  | binary op a b => .binary op (a.current r) (b.current r)
  | call f t => .call (r.current f) (t.current r)

end Tree

theorem Registers.current_eq_iff {r : Registers φ} {f : UnaryFunction φ} (hf : f ∈ r.functions) :
    r.current f = f ↔ r.IsLast f := by
  have h : r.function? f.name = some f ↔ r.IsLast f := by
    simp only [function?_eq_some_iff, IsLast, true_and]
  rw [← h, exists_function? hf]
  exact (Option.some_inj).symm

namespace Writes
variable {r : Registers φ} {t : Tree φ} {ws : List (Word φ)}

theorem current_eq_iff (h : Writes r t ws) : t.current r = t ↔ t.CallsLast r := by
  induction h with
  | number _ _ => simp [Tree.current, Tree.CallsLast]
  | negate _ ih => simp [Tree.current, Tree.CallsLast, ih]
  | binary op _ _ iha ihb => simp [Tree.current, Tree.CallsLast, iha, ihb]
  | call hf _ ih => simp [Tree.current, Tree.CallsLast, Registers.current_eq_iff hf, ih]

theorem valid_parens {needed : Bool} (h : ∀ w ∈ ws, w.Valid r) :
    ∀ w ∈ parens needed ws, w.Valid r := by
  unfold parens
  split
  · refine List.forall_mem_append.mpr ⟨List.forall_mem_cons.mpr ⟨trivial, h⟩, ?_⟩
    exact List.forall_mem_singleton.mpr trivial
  · exact h

theorem valid (h : Writes r t ws) : ∀ w ∈ ws, w.Valid r := by
  induction h with
  | number hall hnum =>
    intro w hw
    rw [List.mem_singleton.mp hw]
    exact isLiteral_iff.mpr ⟨hall, hnum⟩
  | negate _ ih => exact List.forall_mem_cons.mpr ⟨trivial, valid_parens ih⟩
  | binary op _ _ iha ihb =>
    exact List.forall_mem_append.mpr
      ⟨valid_parens iha, List.forall_mem_cons.mpr ⟨trivial, valid_parens ihb⟩⟩
  | call hf _ ih =>
    refine List.forall_mem_cons.mpr ⟨hf, List.forall_mem_cons.mpr ⟨trivial, ?_⟩⟩
    exact List.forall_mem_append.mpr ⟨ih, List.forall_mem_singleton.mpr trivial⟩

theorem isChain_parens {needed : Bool} (h : ws.IsChain Word.Apart) :
    (parens needed ws).IsChain Word.Apart := by
  unfold parens
  split
  · simp [List.isChain_cons, List.isChain_append, h, Word.Apart, Word.isSymbol]
  · exact h

/-- Words are joined at symbols only. -/
theorem isChain (h : Writes r t ws) : ws.IsChain Word.Apart := by
  induction h with
  | number _ _ => exact .singleton _
  | negate _ ih => exact List.isChain_cons.mpr ⟨fun _ _ => .inl rfl, isChain_parens ih⟩
  | binary op _ _ iha ihb =>
    refine List.isChain_append.mpr ⟨isChain_parens iha,
      List.isChain_cons.mpr ⟨fun _ _ => .inl rfl, isChain_parens ihb⟩, ?_⟩
    rintro _ _ _ ⟨⟩
    exact .inr rfl
  | call _ _ ih =>
    simp [List.isChain_cons, List.isChain_append, ih, Word.Apart, Word.isSymbol]

/-- Parentheses let an expression of any level stand where level `l'` is wanted. -/
theorem derives_parens {l l' : Level} {needed : Bool} (h : Derives l (ws.map (Word.token r)) t)
    (hl : needed = false → l.height ≤ l'.height) :
    Derives l' ((parens needed ws).map (Word.token r)) t := by
  cases needed with
  | false => exact h.of_height_le (hl rfl)
  | true =>
    have hp : Derives .primary (.openParen :: ws.map (Word.token r) ++ [.closeParen]) t :=
      .paren h.toSum
    have hm : (parens true ws).map (Word.token r) =
        .openParen :: ws.map (Word.token r) ++ [.closeParen] := by
      simp [parens, Word.token]
    rw [hm]
    exact hp.of_height_le (Nat.zero_le _)

/-- The tokens of the words derive the tree, at its level. -/
theorem derives (h : Writes r t ws) : Derives t.level (ws.map (Word.token r)) (t.current r) := by
  induction h with
  | number _ _ => exact .number _
  | @negate t ws _ ih =>
    refine .negate (derives_parens ih fun hb => ?_)
    cases t with
    | binary op a b => cases hb
    | _ => exact Nat.le_refl _
  | @binary op a b us vs _ _ iha ihb =>
    rw [List.map_append, List.map_cons]
    refine .binary op (derives_parens iha fun hn => ?_) (derives_parens ihb fun hn => ?_)
    · exact Nat.le_of_not_lt (of_decide_eq_false hn)
    · have hlt := Nat.lt_of_not_le (of_decide_eq_false hn)
      have := Level.height_tighter_add_one (l := op.level) (by cases op <;> decide)
      omega
  | @call f t ws _ _ ih =>
    rw [List.map_append, List.map_cons, List.map_cons]
    exact .call _ ih.toSum

end Writes

/-- Text that writes a tree is read as the tree in which every call goes to the last function of its
name. -/
theorem tree_of_writes {r : Registers φ} {t : Tree φ} {ws : List (Word φ)} {text : String}
    (hr : r.WellNamed) (hw : Writes r t ws) (hs : Spaced ws text.toList) (mode : AngleMode) :
    (Calculator.new mode r).tree text = .ok (t.current r) := by
  have hlex := lexFrom_spaced (Lexicon.lists_ofRegisters r) hr hs hw.valid hw.isChain 0
  have hparse := parse_eq_ok_iff.mpr hw.derives.toSum
  exact Calculator.tree_eq_ok_iff.mpr ⟨_, .of_lexFrom hlex, hparse⟩

/-- A tree is read back from its text if and only if each function that it calls is the last of its
name. -/
theorem tree_eq_ok_iff_callsLast {r : Registers φ} {t : Tree φ} {ws : List (Word φ)} {text : String}
    (hr : r.WellNamed) (hw : Writes r t ws) (hs : Spaced ws text.toList) (mode : AngleMode) :
    (Calculator.new mode r).tree text = .ok t ↔ t.CallsLast r := by
  rw [tree_of_writes hr hw hs mode, ← hw.current_eq_iff]
  exact ⟨Except.ok.inj, congrArg _⟩

theorem wellNamed_default : (Registers.catalog : Registers Operation).WellNamed := by
  decide +kernel

/-- The default names are well chosen, and a name that starts like another is read back. -/
theorem tree_eq_ok_log2 : (Registers.catalog : Registers Operation).WellNamed ∧
    (Calculator.new .degrees .catalog).tree "-(1+ 2)^log2(.5\n)" = .ok (.binary .exponent
      (.negate (.binary .plus (.number (Number.ofLiteral ['1'])) (.number (Number.ofLiteral ['2']))))
      (.call ⟨"log2", Operation.log2⟩ (.number (Number.ofLiteral ['.', '5'])))) := by
  have hmem : ⟨"log2", .log2⟩ ∈ (Registers.catalog : Registers Operation).functions := by
    decide +kernel
  have literal : ∀ run, Number.isLiteral run = true →
      Writes (.catalog : Registers Operation) (.number (Number.ofLiteral run)) [.literal run] := by
    intro run h
    obtain ⟨hall, hnum⟩ := isLiteral_iff.mp h
    exact .number hall hnum
  have hw := Writes.binary .exponent
    (.negate (.binary .plus (literal ['1'] rfl) (literal ['2'] rfl)))
    (.call hmem (literal ['.', '5'] rfl))
  refine ⟨wellNamed_default, (tree_eq_ok_iff_callsLast wellNamed_default hw ?_ .degrees).mpr ?_⟩
  · -- the words one after the other, with the space and the newline of the text
    exact .word _ <| .word _ <| .word _ <| .word _ <| .space (.inl rfl) <| .word _ <| .word _ <|
      .word _ <| .word _ <| .word _ <| .word _ <| .space (.inr rfl) <| .word _ <|
      .nil (List.forall_mem_nil _)
  · exact ⟨⟨trivial, trivial⟩, (Registers.current_eq_iff hmem).mp (by decide +kernel), trivial⟩

/-- The text of a call to a function that a later one hides is read as a call to the later one. -/
theorem not_tree_eq_ok_of_hidden : ¬ ∀ (r : Registers Operation) (t : Tree Operation)
    (ws : List (Word Operation)) (text : String) (mode : AngleMode),
    r.WellNamed → Writes r t ws → Spaced ws text.toList →
      (Calculator.new mode r).tree text = .ok t := by
  intro h
  have hr : (⟨[⟨"f", .sin⟩, ⟨"f", .cos⟩], []⟩ : Registers Operation).WellNamed := by
    decide +kernel
  have hw : Writes (⟨[⟨"f", .sin⟩, ⟨"f", .cos⟩], []⟩ : Registers Operation)
      (.call ⟨"f", .sin⟩ (.number (Number.ofLiteral ['0'])))
      [.function ⟨"f", .sin⟩, .openParen, .literal ['0'], .closeParen] := by
    obtain ⟨hall, hnum⟩ := isLiteral_iff.mp (by decide : Number.isLiteral ['0'] = true)
    exact .call (List.mem_cons_self ..) (.number hall hnum)
  have hs : Spaced [.function ⟨"f", Operation.sin⟩, .openParen, .literal ['0'], .closeParen]
      "f(0)".toList :=
    .word _ <| .word _ <| .word _ <| .word _ <| .nil (List.forall_mem_nil _)
  have ht := h _ _ _ "f(0)" .degrees hr hw hs
  revert ht
  decide +kernel

end Reckoner
