import Reckoner.Token
import Reckoner.Text.NameChar

/-!
# The lexicon

The names that registers declare, each once with the token it stands for, the longest first. A name
is read off the front of a text only where it ends: the next character must not carry a name on. The
first entry that fits is therefore the longest.
-/

namespace Reckoner

variable {φ : Type}

/-- The token of a name: a function if one has the name, else a constant as a number. -/
def Registers.token? (r : Registers φ) (name : String) : Option (Token φ) :=
  match r.function? name with
  | some f => some (.function f)
  | none => (r.constant? name).map fun c => .number c.value

/-- Whether name `a` stands before `b`: longer names first, those of one length by code point. -/
def precedes (a b : List Char) : Bool :=
  b.length < a.length || (a.length == b.length && decide (a < b))

/-- Puts a name in its place, unless it is there. -/
def insertName (name : List Char) : List (List Char) → List (List Char)
  | [] => [name]
  | n :: ns =>
    if name = n then n :: ns
    else if precedes name n then name :: n :: ns
    else n :: insertName name ns

/-- The names of the registers, each once, longest first. -/
def Registers.orderedNames (r : Registers φ) : List (List Char) :=
  (r.names.map String.toList).foldr insertName []

/-- Names with their tokens. -/
structure Lexicon (φ : Type) where
  entries : List (List Char × Token φ)
  deriving DecidableEq, Repr

namespace Lexicon

/-- The lexicon of registers. -/
def ofRegisters (r : Registers φ) : Lexicon φ :=
  ⟨r.orderedNames.filterMap fun n => (r.token? (String.ofList n)).map fun t => (n, t)⟩

/-- The names, longest first. -/
def names (lexicon : Lexicon φ) : List (List Char) :=
  lexicon.entries.map (·.1)

/-- Whether a name may end before `rest`. -/
def nameEnds (rest : List Char) : Bool :=
  rest.head?.all fun c => !Text.isNameChar c

/-- Whether `name` is the word at the front of `s`. A name without characters is passed over: it
stands at the front of every text, and whoever read it there would never get on. -/
def readsAt (name s : List Char) : Bool :=
  !name.isEmpty && name.isPrefixOf s && nameEnds (s.drop name.length)

/-- The entry whose name is the word at the front of `s`. -/
def entryAt? (lexicon : Lexicon φ) (s : List Char) : Option (List Char × Token φ) :=
  lexicon.entries.find? fun e => readsAt e.1 s

theorem length_pos_of_entryAt? {lexicon : Lexicon φ} {s : List Char} {e : List Char × Token φ}
    (h : lexicon.entryAt? s = some e) : 0 < e.1.length := by
  have hr := List.find?_some h
  simp only [readsAt, Bool.and_eq_true, Bool.not_eq_true', List.isEmpty_eq_false_iff] at hr
  exact List.length_pos_iff.mpr hr.1.1

theorem take_ne_nil_of_entryAt? {lexicon : Lexicon φ} {c : Char} {s : List Char}
    {e : List Char × Token φ} (h : lexicon.entryAt? (c :: s) = some e) :
    (c :: s).take e.1.length ≠ [] := by
  obtain ⟨n, hn⟩ := Nat.exists_eq_succ_of_ne_zero (Nat.ne_of_gt (length_pos_of_entryAt? h))
  rw [hn, List.take_succ_cons]
  exact List.cons_ne_nil _ _

end Lexicon

theorem mem_insertName {n name : List Char} {ns : List (List Char)} :
    n ∈ insertName name ns ↔ n = name ∨ n ∈ ns := by
  induction ns with
  | nil => simp [insertName]
  | cons m ms ih =>
    unfold insertName
    split
    · next h => subst h; simp
    · split
      · simp
      · simp only [List.mem_cons, ih]
        exact ⟨fun h => by rcases h with h | h | h <;> simp [h],
          fun h => by rcases h with h | h | h <;> simp [h]⟩

/-- The ordered names are those that were declared. -/
theorem Registers.mem_orderedNames {r : Registers φ} {n : List Char} :
    n ∈ r.orderedNames ↔ n ∈ r.names.map String.toList := by
  unfold Registers.orderedNames
  induction r.names.map String.toList with
  | nil => simp
  | cons m ms ih => rw [List.foldr_cons, mem_insertName, ih, List.mem_cons]

end Reckoner
