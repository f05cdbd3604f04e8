import Reckoner.Registers

/-!
# Shared lists

A list that is handed out may be emptied by whoever has it, and all who have it see that. Lists
therefore stand on shelves, and what is handed out is the place of a list. A new list gets a place
of its own, so what is done to a copy leaves every other list alone.
-/

namespace Reckoner

variable {φ : Type}

/-- Lists at the places 0, 1, 2 and so on. -/
structure Shelf (α : Type) where
  lists : List (List α) := []
  deriving DecidableEq, Repr

namespace Shelf
variable {α : Type}

/-- The list at a place. Where none stands it is empty. -/
def read (s : Shelf α) (place : Nat) : List α :=
  s.lists.getD place []

/-- The place of the list that is put next. -/
def next (s : Shelf α) : Nat :=
  s.lists.length

/-- Puts a list at the next place. -/
def put (s : Shelf α) (xs : List α) : Shelf α :=
  ⟨s.lists ++ [xs]⟩

/-- Empties the list at a place. -/
def clear (s : Shelf α) (place : Nat) : Shelf α :=
  ⟨s.lists.set place []⟩

variable {s : Shelf α} {place other : Nat}

@[simp] theorem next_put (s : Shelf α) (xs : List α) : (s.put xs).next = s.next + 1 := by
  simp [next, put]

@[simp] theorem next_clear (s : Shelf α) (place : Nat) : (s.clear place).next = s.next := by
  simp [next, clear]

@[simp] theorem read_put_next (s : Shelf α) (xs : List α) : (s.put xs).read s.next = xs := by
  simp [read, put, next]

theorem read_put (h : place < s.next) (xs : List α) : (s.put xs).read place = s.read place := by
  simp only [read, put, List.getD_eq_getElem?_getD]
  rw [List.getElem?_append_left h]

@[simp] theorem read_clear (s : Shelf α) (place : Nat) : (s.clear place).read place = [] := by
  simp only [read, clear, List.getD_eq_getElem?_getD, List.getElem?_set_self']
  cases s.lists[place]? <;> rfl

theorem read_clear_of_ne (h : place ≠ other) : (s.clear place).read other = s.read other := by
  simp only [read, clear, List.getD_eq_getElem?_getD]
  rw [List.getElem?_set_ne h]

end Shelf

/-- The lists of functions and those of constants. -/
structure Shelves (φ : Type) where
  functions : Shelf (UnaryFunction φ) := {}
  constants : Shelf Constant := {}
  deriving DecidableEq, Repr

/-- The places of registers: of their functions and of their constants. -/
structure Places where
  functions : Nat
  constants : Nat
  deriving DecidableEq, Repr

namespace Shelves

/-- The registers that stand somewhere. -/
def read (s : Shelves φ) (p : Places) : Registers φ :=
  ⟨s.functions.read p.functions, s.constants.read p.constants⟩

/-- The places of the registers that are put next. -/
def next (s : Shelves φ) : Places :=
  ⟨s.functions.next, s.constants.next⟩

/-- Puts registers at the next places. -/
def put (s : Shelves φ) (r : Registers φ) : Shelves φ :=
  ⟨s.functions.put r.functions, s.constants.put r.constants⟩

/-- Empties the functions of some registers. -/
def clearFunctions (s : Shelves φ) (p : Places) : Shelves φ :=
  { s with functions := s.functions.clear p.functions }

/-- Empties the constants of some registers. -/
def clearConstants (s : Shelves φ) (p : Places) : Shelves φ :=
  { s with constants := s.constants.clear p.constants }

/-- Empties registers. -/
def clear (s : Shelves φ) (p : Places) : Shelves φ :=
  (s.clearFunctions p).clearConstants p

/-- The lists stand on the shelves. -/
structure Holds (s : Shelves φ) (p : Places) : Prop where
  functions : p.functions < s.functions.next
  constants : p.constants < s.constants.next

/-- Registers that share no list. -/
structure Apart (p other : Places) : Prop where
  functions : p.functions ≠ other.functions
  constants : p.constants ≠ other.constants

variable {s : Shelves φ} {p other : Places}

theorem holds_next (s : Shelves φ) (r : Registers φ) : (s.put r).Holds s.next := by
  refine ⟨?_, ?_⟩ <;> simp [put, next]

theorem Holds.put (h : s.Holds p) (r : Registers φ) : (s.put r).Holds p := by
  have hf := h.functions
  have hc := h.constants
  refine ⟨?_, ?_⟩ <;> simp only [Shelves.put, Shelf.next_put] <;> omega

theorem Holds.clearFunctions (h : s.Holds p) (other : Places) : (s.clearFunctions other).Holds p :=
  ⟨by rw [Shelves.clearFunctions, Shelf.next_clear]; exact h.functions, h.constants⟩

theorem Holds.clearConstants (h : s.Holds p) (other : Places) : (s.clearConstants other).Holds p :=
  ⟨h.functions, by rw [Shelves.clearConstants, Shelf.next_clear]; exact h.constants⟩

theorem Holds.clear (h : s.Holds p) (other : Places) : (s.clear other).Holds p :=
  (h.clearFunctions other).clearConstants other

/-- New registers share no list with those that stand already. -/
theorem Holds.apart_next (h : s.Holds p) : Apart s.next p :=
  ⟨Nat.ne_of_gt h.functions, Nat.ne_of_gt h.constants⟩

@[simp] theorem read_put_next (s : Shelves φ) (r : Registers φ) : (s.put r).read s.next = r := by
  simp [Shelves.read, put, next]

theorem read_put (h : s.Holds p) (r : Registers φ) : (s.put r).read p = s.read p := by
  unfold Shelves.read put
  rw [Shelf.read_put h.functions, Shelf.read_put h.constants]

theorem read_clearFunctions (s : Shelves φ) (p : Places) :
    (s.clearFunctions p).read p = { s.read p with functions := [] } := by
  simp [Shelves.read, clearFunctions]

theorem read_clearConstants (s : Shelves φ) (p : Places) :
    (s.clearConstants p).read p = { s.read p with constants := [] } := by
  simp [Shelves.read, clearConstants]

theorem read_clear (s : Shelves φ) (p : Places) : (s.clear p).read p = ⟨[], []⟩ := by
  rw [clear, read_clearConstants, read_clearFunctions]

theorem read_clear_of_apart (h : Apart other p) : (s.clear other).read p = s.read p := by
  unfold Shelves.read clear clearConstants clearFunctions
  rw [Shelf.read_clear_of_ne h.functions, Shelf.read_clear_of_ne h.constants]

end Shelves
end Reckoner
