import Mathlib.Data.List.DropRight
import Reckoner.Text.LowerCase
import Reckoner.Text.WhiteSpace

/-!
# White space and lower case

White space has no case, and the lower case of any other character has no white space
(`isBlank_of_mem_lowerAt`). So lower casing leaves the ends of a text white space or not, as they
were, and whether a text would lose anything by stripping can be seen of its lower case
(`strip_eq_self_iff_of_lower_eq`).

Two characters outside ASCII have ASCII letters in their lower case: the Kelvin sign becomes a k, and
İ an i with a dot above. So only ASCII letters can become a word of ASCII letters without a k
(`ascii_of_lower`), and ASCII letters are lower cased one by one (`lower_eq_of_ascii`).
-/

namespace Reckoner.Text

/-! ### Characters -/

/-- No range meets the closed interval. -/
def CodeRanges.avoid (rs : CodeRanges) (first last : Nat) : Bool :=
  rs.all fun r => last < r.1 || r.2 < first

theorem holds_of_avoid {rs : CodeRanges} {first last n : Nat} (hrs : rs.ascending = true)
    (h : rs.avoid first last = true) (h1 : first ≤ n) (h2 : n ≤ last) : rs.holds n = false := by
  rw [Bool.eq_false_iff]
  intro hn
  obtain ⟨r, hr, hr1, hr2⟩ := (CodeRanges.holds_iff hrs n).mp hn
  have hall := List.all_eq_true.mp h r hr
  simp only [Bool.or_eq_true, decide_eq_true_eq] at hall
  omega

theorem whiteSpace_ascending : whiteSpace.ascending = true := by
  decide

/-- Neither the characters of a run nor their lower case are white space. -/
theorem whiteSpace_avoid_caseRuns : ∀ r ∈ caseRuns, whiteSpace.avoid r.first r.last = true ∧
    whiteSpace.avoid (r.first + r.shift).toNat (r.last + r.shift).toNat = true := by
  decide +kernel

theorem CaseRun.bounds_of_holds {r : CaseRun} {n : Nat} (h : r.holds n = true) :
    r.first ≤ n ∧ n ≤ r.last := by
  simp only [holds, Bool.and_eq_true, decide_eq_true_eq] at h
  exact h.1

theorem isBlank_ofNat {n : Nat} (h : whiteSpace.holds n = false) :
    isBlank (Char.ofNat n) = false := by
  by_cases hn : n.isValidChar
  · rw [Char.ofNat, dif_pos hn]
    exact h
  · rw [Char.ofNat, dif_neg hn]
    decide

/-- The lower case of a character is white space only if the character itself is. -/
theorem isBlank_of_mem_lowerAt {before after : List Char} {c x : Char}
    (hx : x ∈ lowerAt before c after) : isBlank x = isBlank c := by
  unfold lowerAt at hx
  split at hx
  · next hc =>
    subst hc
    split at hx
    · rw [List.mem_singleton.mp hx]
      decide
    · rw [List.mem_singleton.mp hx]
      decide
  · split at hx
    · next hc =>
      subst hc
      rcases List.mem_cons.mp hx with rfl | hx
      · decide
      · rw [List.mem_singleton.mp hx]
        decide
    · split at hx
      · next r hr =>
        have hholds := List.find?_some hr
        obtain ⟨h1, h2⟩ := CaseRun.bounds_of_holds hholds
        obtain ⟨hrun, hshifted⟩ := whiteSpace_avoid_caseRuns r (List.mem_of_find?_eq_some hr)
        have hc : isBlank c = false := holds_of_avoid whiteSpace_ascending hrun h1 h2
        rw [List.mem_singleton.mp hx, hc]
        exact isBlank_ofNat (holds_of_avoid whiteSpace_ascending hshifted (by omega) (by omega))
      · rw [List.mem_singleton.mp hx]

theorem lowerAt_ne_nil (before : List Char) (c : Char) (after : List Char) :
    lowerAt before c after ≠ [] := by
  unfold lowerAt
  repeat' split
  all_goals exact List.cons_ne_nil _ _

/-! ### Texts -/

theorem lowerFrom_concat (before s : List Char) (c : Char) :
    ∃ front context, lowerFrom before (s ++ [c]) = front ++ lowerAt context c [] := by
  induction s generalizing before with
  | nil => exact ⟨[], before, List.append_nil _⟩
  | cons d s ih =>
    obtain ⟨front, context, h⟩ := ih (d :: before)
    refine ⟨lowerAt before d (s ++ [c]) ++ front, context, ?_⟩
    rw [List.cons_append, lowerFrom, h, List.append_assoc]

theorem head?_lower (s : List Char) : (lower s).head?.map isBlank = s.head?.map isBlank := by
  cases s with
  | nil => rfl
  | cons c s =>
    obtain ⟨x, xs, hx⟩ := List.exists_cons_of_ne_nil (lowerAt_ne_nil [] c s)
    have hmem : x ∈ lowerAt [] c s := hx ▸ List.mem_cons_self
    rw [lower, lowerFrom, hx]
    exact congrArg some (isBlank_of_mem_lowerAt hmem)

theorem getLast?_lower (s : List Char) :
    (lower s).getLast?.map isBlank = s.getLast?.map isBlank := by
  rcases List.eq_nil_or_concat s with rfl | ⟨s, c, rfl⟩
  · rfl
  · rw [List.concat_eq_append]
    obtain ⟨front, context, h⟩ := lowerFrom_concat [] s c
    have hne := lowerAt_ne_nil context c []
    rw [lower, h, List.getLast?_append_of_ne_nil _ hne, List.getLast?_eq_some_getLast hne,
      List.getLast?_concat]
    exact congrArg some (isBlank_of_mem_lowerAt (List.getLast_mem hne))

/-- Stripping takes nothing from a text that has no white space at either end. -/
theorem strip_eq_self_iff {s : List Char} :
    strip s = s ↔ s.head?.map isBlank ≠ some true ∧ s.getLast?.map isBlank ≠ some true := by
  have hhead : s.dropWhile isBlank = s ↔ s.head?.map isBlank ≠ some true := by
    cases s with
    | nil => simp
    | cons c s => simp [List.dropWhile_eq_self_iff]
  have hlast : s.rdropWhile isBlank = s ↔ s.getLast?.map isBlank ≠ some true := by
    rcases List.eq_nil_or_concat s with rfl | ⟨s, c, rfl⟩
    · simp
    · simp [List.rdropWhile_eq_self_iff]
  constructor
  · intro h
    -- nothing is dropped at the front, else the rest would be too short
    have hfront : s.dropWhile isBlank = s := by
      refine (List.dropWhile_suffix isBlank).eq_of_length_le ?_
      conv => lhs; rw [← h]
      exact (List.rdropWhile_prefix isBlank (s.dropWhile isBlank)).length_le
    refine ⟨hhead.mp hfront, hlast.mp ?_⟩
    conv => rhs; rw [← h]
    rw [strip, stripOf, hfront, List.rdropWhile]
  · rintro ⟨h1, h2⟩
    rw [strip, stripOf, hhead.mpr h1]
    exact hlast.mpr h2

/-- Texts that are the same in lower case have white space at the same ends. -/
theorem strip_eq_self_iff_of_lower_eq {s t : List Char} (h : lower s = lower t) :
    strip s = s ↔ strip t = t := by
  rw [strip_eq_self_iff, strip_eq_self_iff, ← head?_lower s, ← getLast?_lower s, h, head?_lower,
    getLast?_lower]

/-- Stripping leaves what stands between white space. -/
theorem exists_strip (s : List Char) : ∃ before after, s = before ++ strip s ++ after ∧
    (∀ c ∈ before, isBlank c = true) ∧ ∀ c ∈ after, isBlank c = true := by
  refine ⟨s.takeWhile isBlank, (s.dropWhile isBlank).rtakeWhile isBlank, ?_,
    fun c => List.mem_takeWhile_imp, fun c => List.mem_rtakeWhile_imp⟩
  have hstrip : strip s = (s.dropWhile isBlank).rdropWhile isBlank := rfl
  rw [hstrip, List.append_assoc, List.rdropWhile_append_rtakeWhile, List.takeWhile_append_dropWhile]

theorem dropWhile_between {before word : List Char} (hbefore : ∀ c ∈ before, isBlank c = true)
    (hword : ∀ c ∈ word, isBlank c = false) (hne : word ≠ []) (after : List Char) :
    (before ++ (word ++ after)).dropWhile isBlank = word ++ after := by
  obtain ⟨c, word, rfl⟩ := List.exists_cons_of_ne_nil hne
  rw [List.dropWhile_append_of_pos hbefore, List.cons_append,
    List.dropWhile_cons_of_neg (by simp [hword c List.mem_cons_self])]

/-- White space around a word is what is stripped. -/
theorem strip_between {before word after : List Char} (hbefore : ∀ c ∈ before, isBlank c = true)
    (hafter : ∀ c ∈ after, isBlank c = true) (hword : ∀ c ∈ word, isBlank c = false)
    (hne : word ≠ []) : strip (before ++ word ++ after) = word := by
  have hback : (word ++ after).reverse.dropWhile isBlank = word.reverse := by
    have hafter' : ∀ c ∈ after.reverse, isBlank c = true := by simpa using hafter
    have hword' : ∀ c ∈ word.reverse, isBlank c = false := by simpa using hword
    have h := dropWhile_between hafter' hword' (by simpa using hne) []
    rwa [List.append_nil, ← List.reverse_append] at h
  rw [List.append_assoc, strip, stripOf, dropWhile_between hbefore hword hne, hback,
    List.reverse_reverse]

/-! ### ASCII letters -/

theorem isLower_iff {c : Char} : c.isLower = true ↔ 97 ≤ c.toNat ∧ c.toNat ≤ 122 := by
  unfold Char.isLower
  simp only [Bool.and_eq_true, decide_eq_true_eq, ge_iff_le, UInt32.le_iff_toNat_le]
  exact Iff.rfl

theorem ascii_of_isLower_toLower {c : Char} (h : c.toLower.isLower = true) : c.toNat < 128 := by
  unfold Char.toLower at h
  split at h
  · next hc => exact Nat.lt_of_le_of_lt (UInt32.le_iff_toNat_le.mp hc.2) (by decide)
  · have := (isLower_iff.mp h).2
    omega

/-- Only the Kelvin sign, which is alone in its run, has an ASCII letter for its lower case without
being ASCII itself. -/
theorem caseRuns_ascii : ∀ r ∈ caseRuns, r.last < 128 ∨ r.first = 0x212a ∧ r.last = 0x212a ∨
    r.last + r.shift < 97 ∨ 122 < r.first + r.shift := by
  decide +kernel

/-- Of all runs only the first one is ASCII. -/
theorem find?_caseRuns_ascii {n : Nat} (hn : n < 128) :
    (caseRuns.find? fun r => r.holds n) = (caseRuns.take 1).find? fun r => r.holds n := by
  have hbeyond : ∀ r ∈ caseRuns.drop 1, 128 ≤ r.first := by decide +kernel
  have hnone : ((caseRuns.drop 1).find? fun r => r.holds n) = none := by
    rw [List.find?_eq_none]
    intro r hr hholds
    have := hbeyond r hr
    have := CaseRun.bounds_of_holds hholds
    omega
  conv => lhs; rw [← List.take_append_drop 1 caseRuns]
  rw [List.find?_append, hnone, Option.or_none]

theorem lowerAt_ascii {c : Char} (hc : c.toNat < 128) (before after : List Char) :
    lowerAt before c after = [c.toLower] := by
  have htable : ∀ n < 128, ((caseRuns.take 1).find? fun r => r.holds n).elim [Char.ofNat n]
      (fun r => [Char.ofNat (n + r.shift).toNat]) = [(Char.ofNat n).toLower] := by decide
  have h := htable c.toNat hc
  rw [Char.ofNat_toNat, ← find?_caseRuns_ascii hc] at h
  rw [lowerAt, if_neg, if_neg]
  · cases hfind : caseRuns.find? fun r => r.holds c.toNat <;> rwa [hfind] at h
  · rintro rfl
    exact absurd hc (by decide)
  · rintro rfl
    exact absurd hc (by decide)

theorem lt_of_isLower_ofNat {n : Nat} (h : (Char.ofNat n).isLower = true) : 97 ≤ n ∧ n ≤ 122 := by
  by_cases hn : n.isValidChar
  · rw [Char.ofNat, dif_pos hn] at h
    exact isLower_iff.mp h
  · rw [Char.ofNat, dif_neg hn] at h
    exact absurd h (by decide)

/-- What has a small ASCII letter in its lower case. -/
theorem ascii_of_mem_lowerAt {before after : List Char} {c x : Char}
    (hx : x ∈ lowerAt before c after) (hlower : x.isLower = true) :
    c.toNat < 128 ∨ c.toNat = 0x212a ∨ c = 'İ' := by
  unfold lowerAt at hx
  split at hx
  · split at hx
    · cases List.mem_singleton.mp hx
      exact absurd hlower (by decide)
    · cases List.mem_singleton.mp hx
      exact absurd hlower (by decide)
  · split at hx
    · next hc => exact .inr (.inr hc)
    · split at hx
      · next r hr =>
        have hholds := List.find?_some hr
        obtain ⟨h1, h2⟩ := CaseRun.bounds_of_holds hholds
        cases List.mem_singleton.mp hx
        have hx := lt_of_isLower_ofNat hlower
        have hrun := caseRuns_ascii r (List.mem_of_find?_eq_some hr)
        omega
      · cases List.mem_singleton.mp hx
        have := (isLower_iff.mp hlower).2
        omega

theorem lowerFrom_ascii {s : List Char} (h : ∀ c ∈ s, c.toNat < 128) (before : List Char) :
    lowerFrom before s = s.map Char.toLower := by
  induction s generalizing before with
  | nil => rfl
  | cons c s ih =>
    obtain ⟨hc, hs⟩ := List.forall_mem_cons.mp h
    rw [lowerFrom, lowerAt_ascii hc, ih hs]
    rfl

/-- A text whose lower case is made of small ASCII letters other than k is ASCII itself. -/
theorem ascii_of_lowerFrom {before s : List Char}
    (h : ∀ x ∈ lowerFrom before s, x.isLower = true ∧ x ≠ 'k') : ∀ c ∈ s, c.toNat < 128 := by
  induction s generalizing before with
  | nil => exact List.forall_mem_nil _
  | cons c s ih =>
    rw [lowerFrom, List.forall_mem_append] at h
    obtain ⟨hc, hs⟩ := h
    refine List.forall_mem_cons.mpr ⟨?_, ih hs⟩
    obtain ⟨x, xs, hx⟩ := List.exists_cons_of_ne_nil (lowerAt_ne_nil before c s)
    have hmem : x ∈ lowerAt before c s := hx ▸ List.mem_cons_self
    rcases ascii_of_mem_lowerAt hmem (hc x hmem).1 with hascii | hkelvin | rfl
    · exact hascii
    · -- the Kelvin sign becomes a k
      have hc' : c = '\u212a' := Char.toNat_inj.mp hkelvin
      subst hc'
      have hk : lowerAt before '\u212a' s = ['k'] := rfl
      exact absurd rfl (hc 'k' (hk ▸ List.mem_singleton_self _)).2
    · -- the dot above stays
      exact absurd (hc '\u0307' (List.mem_cons_of_mem _ (List.mem_singleton_self _))).1 (by decide)

theorem ascii_of_lower {s : List Char} (h : ∀ x ∈ lower s, x.isLower = true ∧ x ≠ 'k') :
    ∀ c ∈ s, c.toNat < 128 :=
  ascii_of_lowerFrom h

theorem lower_eq_of_ascii {s : List Char} (h : ∀ c ∈ s, c.toNat < 128) :
    lower s = s.map Char.toLower :=
  lowerFrom_ascii h []

end Reckoner.Text
