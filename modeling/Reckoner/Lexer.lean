import Reckoner.Fault
import Reckoner.Lexicon

/-!
# Lexing

A text is cut into lexemes from the left: a run of digits and points, an operator character, a run
of spaces and newlines, or a name of the lexicon. Each takes at least one character (`Front`), so
lexing ends, and none is lost. Spaces yield no token. Positions count characters from zero.
-/

namespace Reckoner

variable {φ : Type}

/-- Why a text is no sequence of tokens. -/
inductive LexError where
  | invalidNumber (run : List Char) (position : Nat)
  | invalidToken (c : Char) (position : Nat)
  deriving DecidableEq, Repr

/-- What is said of a run that is no number. -/
def numberTemplate : Template :=
  .ofChars "Invalid number '\x7b1\x7d' at position: \x7b2\x7d".toList

/-- What a number is read with: the lexer, of which nothing is said, the run and its position. -/
def numberArguments (run : List Char) (position : Nat) : List String :=
  ["", String.ofList run, toString position]

/-- The fault of the user that an error is. Behind a run that is no number is the fault of whoever
was to read it. -/
def LexError.fault : LexError → UserFault (List Char)
  | invalidNumber run position =>
    ⟨.lexing, numberTemplate.fill (numberArguments run position), some run⟩
  | invalidToken c position =>
    ⟨.lexing, "Invalid token '" ++ c.toString ++ "' at position: " ++ toString position, none⟩

theorem LexError.fault_kind (e : LexError) : e.fault.kind = .lexing := by
  cases e <;> rfl

def LexError.message (e : LexError) : String :=
  e.fault.message

/-- The number of a run that stands at a position. -/
def readNumber (run : List Char) (position : Nat) : Except (UserFault (List Char)) Float :=
  reword numberTemplate .lexing (numberArguments run position) <|
    match Number.ofLiteral? run with
    | some x => .ok x
    | none => .error (.elsewhere run)

/-- Characters of a number. Whether a run of them is a number is decided once it is cut off. -/
def isNumberChar (c : Char) : Bool :=
  c.isDigit || c == '.'

/-- The only white space between lexemes. -/
def isSpace (c : Char) : Bool :=
  c == ' ' || c == '\n'

/-- A piece of text with one meaning. -/
inductive Lexeme (φ : Type) where
  | number (run : List Char)
  | token (t : Token φ)
  | space
  deriving DecidableEq, Repr

/-- A lexeme at the front of `s`, its characters, and those behind it. -/
structure Front (φ : Type) (s : List Char) where
  lexeme : Lexeme φ
  text : List Char
  rest : List Char
  text_append : text ++ rest = s
  text_ne_nil : text ≠ []

theorem Front.shorter {s : List Char} (f : Front φ s) : f.rest.length < s.length := by
  have h := congrArg List.length f.text_append
  have := List.length_pos_iff.mpr f.text_ne_nil
  rw [List.length_append] at h
  omega

namespace Lexicon

/-- The lexeme at the front of a text, if there is one. -/
def front? (lexicon : Lexicon φ) : (s : List Char) → Option (Front φ s)
  | [] => none
  | c :: s =>
    if isNumberChar c then
      let run := c :: s.takeWhile isNumberChar
      some ⟨.number run, run, s.dropWhile isNumberChar,
        congrArg (c :: ·) List.takeWhile_append_dropWhile, List.cons_ne_nil _ _⟩
    else
      match Token.ofOperatorChar? c with
      | some t => some ⟨.token t, [c], s, rfl, List.cons_ne_nil _ _⟩
      | none =>
        if isSpace c then
          some ⟨.space, c :: s.takeWhile isSpace, s.dropWhile isSpace,
            congrArg (c :: ·) List.takeWhile_append_dropWhile, List.cons_ne_nil _ _⟩
        else
          match h : lexicon.entryAt? (c :: s) with
          | some e => some ⟨.token e.2, (c :: s).take e.1.length, (c :: s).drop e.1.length,
              List.take_append_drop _ _, take_ne_nil_of_entryAt? h⟩
          | none => none

end Lexicon

/-- The tokens of a text up to its end or the first error. -/
structure Lexed (φ : Type) where
  tokens : List (Token φ)
  error : Option LexError
  deriving DecidableEq, Repr

namespace Lexed

/-- Puts a token in front. -/
def cons (t : Token φ) (l : Lexed φ) : Lexed φ :=
  { l with tokens := t :: l.tokens }

/-- All tokens, if the whole text has been read. -/
def complete (l : Lexed φ) : Except LexError (List (Token φ)) :=
  match l.error with
  | none => .ok l.tokens
  | some e => .error e

end Lexed

namespace Lexicon

/-- Lexes the text that starts at a position. -/
def lexFrom (lexicon : Lexicon φ) (position : Nat) : List Char → Lexed φ
  | [] => ⟨[], none⟩
  | c :: s =>
    match lexicon.front? (c :: s) with
    | none => ⟨[], some (.invalidToken c position)⟩
    | some front =>
      let next := position + front.text.length
      match front.lexeme with
      | .space => lexicon.lexFrom next front.rest
      | .token t => (lexicon.lexFrom next front.rest).cons t
      | .number run =>
        match readNumber run position with
        | .ok x => (lexicon.lexFrom next front.rest).cons (.number x)
        | .error _ => ⟨[], some (.invalidNumber run position)⟩
  termination_by s => s.length
  decreasing_by all_goals exact front.shorter

/-- Lexes a text. -/
def lex (lexicon : Lexicon φ) (text : String) : Lexed φ :=
  lexicon.lexFrom 0 text.toList

end Lexicon
end Reckoner
