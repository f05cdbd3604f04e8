/-!
# Classes of characters

A class of characters is kept as closed ranges of code points, ascending and apart. `holds` looks a
code point up and stops at the first range above it; on ascending ranges that is membership in one
of them (`holds_iff`).
-/

namespace Reckoner.Text

/-- Closed ranges of code points. -/
abbrev CodeRanges := List (Nat × Nat)

namespace CodeRanges

/-- Each range is in order and a gap stands between it and the next. -/
def ascending : CodeRanges → Bool
  | [] => true
  | [r] => r.1 ≤ r.2
  | r :: s :: rs => r.1 ≤ r.2 && r.2 + 1 < s.1 && ascending (s :: rs)

/-- Looks `n` up, going no further than the first range that starts above it. -/
def holds : CodeRanges → Nat → Bool
  | [], _ => false
  | r :: rs, n => r.1 ≤ n && (n ≤ r.2 || holds rs n)

theorem ascending_tail {r : Nat × Nat} {rs : CodeRanges} (h : ascending (r :: rs) = true) :
    ascending rs = true := by
  cases rs with
  | nil => rfl
  | cons s rs => simp only [ascending, Bool.and_eq_true] at h; exact h.2

theorem lt_of_ascending {r : Nat × Nat} {rs : CodeRanges} (h : ascending (r :: rs) = true) :
    ∀ s ∈ rs, r.1 < s.1 := by
  induction rs generalizing r with
  | nil => intro s hs; cases hs
  | cons t rs ih =>
    simp only [ascending, Bool.and_eq_true, decide_eq_true_eq] at h
    intro s hs
    rcases List.mem_cons.mp hs with rfl | hs
    · omega
    · have := ih h.2 s hs; omega

/-- On ascending ranges the lookup finds exactly the members of some range. -/
theorem holds_iff {rs : CodeRanges} (h : ascending rs = true) (n : Nat) :
    holds rs n = true ↔ ∃ r ∈ rs, r.1 ≤ n ∧ n ≤ r.2 := by
  induction rs with
  | nil => simp [holds]
  | cons r rs ih =>
    simp only [holds, Bool.and_eq_true, Bool.or_eq_true, decide_eq_true_eq, List.mem_cons,
      exists_eq_or_imp, ih (ascending_tail h)]
    constructor
    · rintro ⟨h1, h2 | h2⟩
      · exact .inl ⟨h1, h2⟩
      · exact .inr h2
    · rintro (⟨h1, h2⟩ | ⟨s, hs, h1, h2⟩)
      · exact ⟨h1, .inl h2⟩
      · have := lt_of_ascending h s hs
        exact ⟨by omega, .inr ⟨s, hs, h1, h2⟩⟩

end CodeRanges
end Reckoner.Text
