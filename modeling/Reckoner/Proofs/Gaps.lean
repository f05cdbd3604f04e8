import Reckoner.Proofs.Joints

/-!
# Gaps

What a text is lexed as is put together of what its parts are lexed as (`Lexed.append`), wherever
the parts meet at a joint or with spaces between them (`lexFrom_gap_append`). An error in the first
part is the error of the whole, one in the second moves behind the first. So it does not matter how
wide the gaps between lexemes are, nor where there are any (`Respaced`).
-/

namespace Reckoner
open Scan

variable {φ : Type}

/-- The spaces of `gap` may stand between `s` and `t`. There need not be any at a joint. -/
structure Gap (s gap t : List Char) : Prop where
  between : ∀ c ∈ gap, Between c
  joint : gap ≠ [] ∨ Joint s t

/-- The texts are alike but for gaps that are wider, or narrower, or new, or gone. -/
inductive Respaced : List Char → List Char → Prop
  | refl (s : List Char) : Respaced s s
  | gap {s t gap gap' : List Char} (h : Gap s gap t) (h' : Gap s gap' t) :
      Respaced (s ++ gap ++ t) (s ++ gap' ++ t)
  | trans {s t u : List Char} (h : Respaced s t) (h' : Respaced t u) : Respaced s u

/-- The error at the start of a text, whatever its position. -/
def LexError.unplaced : LexError → LexError
  | invalidNumber run _ => invalidNumber run 0
  | invalidToken c _ => invalidToken c 0

/-- What is lexed but for the position of the error, if there is one. -/
def Lexed.unplaced (l : Lexed φ) : Lexed φ :=
  ⟨l.tokens, l.error.map LexError.unplaced⟩

theorem LexError.unplaced_shift (n : Nat) (e : LexError) : (e.shift n).unplaced = e.unplaced := by
  cases e <;> rfl

namespace Lexed

theorem unplaced_shift (n : Nat) (l : Lexed φ) : (l.shift n).unplaced = l.unplaced := by
  obtain ⟨ts, e⟩ := l
  cases e with
  | none => rfl
  | some e => simp [unplaced, shift, LexError.unplaced_shift]

theorem unplaced_append (l m : Lexed φ) : (l.append m).unplaced = l.unplaced.append m.unplaced := by
  obtain ⟨ts, e⟩ := l
  cases e <;> rfl

end Lexed

section
variable {r : Registers φ} {L : Lexicon φ} {s gap t : List Char}

theorem Gap.joint_append (h : Gap s gap t) : Joint s (gap ++ t) := by
  cases gap with
  | nil => exact h.joint.resolve_left fun hne => hne rfl
  | cons c gap => exact .inr (.between (h.between c (List.mem_cons_self ..)))

/-- The parts beside a gap are lexed on their own. -/
theorem lexFrom_gap_append (hL : L.Lists r) (hr : r.Unbroken) (h : Gap s gap t) (p : Nat) :
    L.lexFrom p (s ++ gap ++ t) =
      (L.lexFrom p s).append ((L.lexFrom p t).shift (s ++ gap).length) := by
  rw [List.append_assoc, lexFrom_append hL hr h.joint_append, lexFrom_skip h.between,
    ← Lexicon.lexFrom_add, List.length_append, Nat.add_assoc]

theorem Respaced.unplaced_eq (hL : L.Lists r) (hr : r.Unbroken) (h : Respaced s t) :
    (L.lexFrom 0 s).unplaced = (L.lexFrom 0 t).unplaced := by
  induction h with
  | refl s => rfl
  | gap h h' =>
    rw [lexFrom_gap_append hL hr h, lexFrom_gap_append hL hr h']
    simp only [Lexed.unplaced_append, Lexed.unplaced_shift]
  | trans _ _ ih ih' => exact ih.trans ih'

end

/-- In front of a symbol, a space or the end, a text is lexed as if nothing followed: if all of it
is lexed, what follows is lexed on its own, with its error further on; if there is an error, it is
the error whatever follows. Spaces between the two parts change nothing but positions, and texts
that differ in gaps only have the same tokens and the same error but for its position. -/
theorem lex_gap_append {r : Registers φ} (hr : r.Unbroken) :
    let L := Lexicon.ofRegisters r
    (∀ a b : String, Breaks b.toList →
      (∀ ts, L.lex a = ⟨ts, none⟩ →
        L.lex (a ++ b) =
          ⟨ts ++ (L.lex b).tokens, (L.lex b).error.map (LexError.shift a.length)⟩) ∧
      ∀ ts e, L.lex a = ⟨ts, some e⟩ → L.lex (a ++ b) = ⟨ts, some e⟩) ∧
    (∀ a gap b : String, Gap a.toList gap.toList b.toList →
      L.lex (a ++ gap ++ b) = (L.lex a).append ((L.lex b).shift (a ++ gap).length)) ∧
    ∀ s t : String, Respaced s.toList t.toList → (L.lex s).unplaced = (L.lex t).unplaced := by
  intro L
  have hL : L.Lists r := Lexicon.lists_ofRegisters r
  have hgap : ∀ a gap b : String, Gap a.toList gap.toList b.toList →
      L.lex (a ++ gap ++ b) = (L.lex a).append ((L.lex b).shift (a ++ gap).length) := by
    intro a gap b h
    simp only [Lexicon.lex, String.toList_append, lexFrom_gap_append hL hr h, List.length_append,
      String.length_append, String.length_toList]
  refine ⟨fun a b hb => ?_, hgap, fun s t h => h.unplaced_eq hL hr⟩
  have happend := hgap a "" b ⟨by simp, .inr (.inr hb)⟩
  simp only [String.append_empty] at happend
  constructor
  · intro ts h
    rw [happend, h]
    rfl
  · intro ts e h
    rw [happend, h]
    rfl

/-- Names may have points and other characters in them. An error behind the joint moves, one in
front of it stays and hides the other, and a space parts a name. -/
theorem lex_gap_append_pointed :
    let r : Registers Operation := ⟨[⟨"log", .log⟩, ⟨"log@2", .log2⟩], [⟨"m.k", 3⟩]⟩
    let L := Lexicon.ofRegisters r
    r.Unbroken ∧ Breaks "(.5.".toList ∧
    L.lex ("m.k/log@2" ++ "(.5.") =
      ⟨[.number 3, .operator .divide, .function ⟨"log@2", .log2⟩, .openParen],
        some (.invalidNumber ['.', '5', '.'] 10)⟩ ∧
    L.lex ("log@3" ++ "(.5.") = ⟨[.function ⟨"log", .log⟩], some (.invalidToken '@' 3)⟩ ∧
    Gap "log".toList " ".toList "@2".toList ∧
    L.lex ("log" ++ " " ++ "@2") = ⟨[.function ⟨"log", .log⟩], some (.invalidToken '@' 4)⟩ ∧
    Respaced "log@2(m.k".toList "log@2 \n(m.k".toList ∧
    (L.lex "log@2(m.k").unplaced = (L.lex "log@2 \n(m.k").unplaced := by
  intro r L
  have hr : r.Unbroken := by decide +kernel
  have hb : Breaks "(.5.".toList := by decide
  have hgap : Gap "log".toList " ".toList "@2".toList := ⟨by simp [Between], .inl (by decide)⟩
  have htight : Gap "log@2".toList [] "(m.k".toList := ⟨by simp, .inr (.inr (by decide))⟩
  have hloose : Gap "log@2".toList " \n".toList "(m.k".toList :=
    ⟨by simp [Between], .inl (by decide)⟩
  have hrespaced : Respaced "log@2(m.k".toList "log@2 \n(m.k".toList := .gap htight hloose
  have hwhole : L.lex "m.k/log@2" =
      ⟨[.number 3, .operator .divide, .function ⟨"log@2", .log2⟩], none⟩ := by decide +kernel
  have hpart : L.lex "log@3" =
      ⟨[.function ⟨"log", .log⟩], some (.invalidToken '@' 3)⟩ := by decide +kernel
  obtain ⟨hcut, hgapped, hspaced⟩ := lex_gap_append hr
  refine ⟨hr, hb, ((hcut _ _ hb).1 _ hwhole).trans (by decide +kernel), (hcut _ _ hb).2 _ _ hpart,
    hgap, (hgapped _ _ _ hgap).trans (by decide +kernel), hrespaced, hspaced _ _ hrespaced⟩

end Reckoner
