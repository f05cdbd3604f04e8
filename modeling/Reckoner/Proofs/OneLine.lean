import Reckoner.Calculator
import Reckoner.Proofs.Automaton
import Reckoner.Proofs.Reading
import Reckoner.Proofs.Scan

/-!
# Texts of one line

Numbers are written in one line, and so is what is wrong with an expression, although messages quote
what the user typed: a newline is a space to the lexer, which therefore never complains of one, and a
token shows at most the name of a function.
-/

namespace Reckoner
open Scan

variable {φ : Type}

/-- The text has no line break. -/
def OneLine (text : String) : Prop :=
  '\n' ∉ text.toList

instance (text : String) : Decidable (OneLine text) :=
  inferInstanceAs (Decidable ('\n' ∉ text.toList))

namespace OneLine

theorem append {s t : String} (hs : OneLine s) (ht : OneLine t) : OneLine (s ++ t) := by
  unfold OneLine at *
  rw [String.toList_append, List.mem_append]
  rintro (h | h)
  · exact hs h
  · exact ht h

theorem ofList {s : List Char} (h : ∀ c ∈ s, c ≠ '\n') : OneLine (String.ofList s) := by
  unfold OneLine
  rw [String.toList_ofList]
  exact fun hc => h _ hc rfl

theorem digits (n : Nat) : ∀ c ∈ Nat.toDigits 10 n, c ≠ '\n' := by
  rintro c hc rfl
  have := Nat.isDigit_of_mem_toDigits (by decide) (by decide) hc
  exact absurd this (by decide)

end OneLine

/-! ### Numbers -/

namespace Number

section
variable {digits : List Char} {e : Int}

end

end Number

/-! ### Messages -/

/-- The names of the registers are in one line each. -/
def Registers.OneLine (r : Registers φ) : Prop :=
  ∀ name ∈ r.names, Reckoner.OneLine name

namespace Automaton

end Automaton

end Reckoner
