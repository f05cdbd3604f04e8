import Reckoner.Calculator

/-!
# Every angle mode in radians

Degrees and gradians are only a way of writing: a tree has the same value in any mode as its
translation has in radians (`Tree.eval_inRadians`). The translation multiplies what stands inside a
function of an angle, and what comes out of a function that gives one, by the factors of the mode;
the products are nodes of the tree like any others. So the conversion is next to the angle on
whichever side of the function, or of a reciprocal, that is, and no operation rounds differently.

Only of the operations is it known where the angle is, so the translation is of trees that call
nothing else. Where functions may be more than the operations, such trees keep their values
(`Tree.eval_ofOperations`).
-/

namespace Reckoner

variable {φ : Type}

namespace Operation

/-- The operations whose argument is an angle. -/
def takesAngle : Operation → Bool
  | sin | cos | tan | cosec | sec | cot => true
  | _ => false

/-- The operations whose result is an angle. -/
def givesAngle : Operation → Bool
  | asin | acos | atan | acosec | asec | acot => true
  | _ => false

end Operation

/-- In any mode, an operation is the one on radians with the angle converted, if there is one. -/
theorem UnaryFunction.apply_eq (f : UnaryFunction Operation) (mode : AngleMode) (x : Float) :
    f.apply mode x =
      if f.function.takesAngle then f.apply .radians (mode.toRadians x)
      else if f.function.givesAngle then mode.fromRadians (f.apply .radians x)
      else f.apply .radians x := by
  obtain ⟨_, op⟩ := f
  cases op <;> rfl

namespace AngleMode

/-- The tree of an angle of this mode, in radians. -/
def angleInRadians (mode : AngleMode) (t : Tree φ) : Tree φ :=
  let perDegree := Tree.binary .divide (.number pi) (.number 180)
  match mode with
  | degrees => .binary .multiply t perDegree
  | radians => t
  | gradians => .binary .multiply (.binary .multiply t (.number 0.9)) perDegree

/-- The tree of an angle in radians, in this mode. -/
def angleFromRadians (mode : AngleMode) (t : Tree φ) : Tree φ :=
  let degreesEach := Tree.binary .divide (.number 180) (.number pi)
  match mode with
  | degrees => .binary .multiply t degreesEach
  | radians => t
  | gradians => .binary .divide (.binary .multiply t degreesEach) (.number 0.9)

variable [Callable φ] (mode mode' : AngleMode) (t : Tree φ)

theorem eval_angleInRadians : (mode.angleInRadians t).eval mode' = mode.toRadians (t.eval mode') := by
  cases mode <;> rfl

theorem eval_angleFromRadians :
    (mode.angleFromRadians t).eval mode' = mode.fromRadians (t.eval mode') := by
  cases mode <;> rfl

end AngleMode

namespace Tree

/-- The tree that says in radians what `t` says in a mode. -/
def inRadians (mode : AngleMode) : Tree Operation → Tree Operation
  | number x => number x
  | negate t => negate (t.inRadians mode)
  | binary op a b => binary op (a.inRadians mode) (b.inRadians mode)
  | call f t =>
    if f.function.takesAngle then call f (mode.angleInRadians (t.inRadians mode))
    else if f.function.givesAngle then mode.angleFromRadians (call f (t.inRadians mode))
    else call f (t.inRadians mode)

/-- No function that is called takes or gives an angle. -/
def AngleFree : Tree Operation → Prop
  | number _ => True
  | negate t => t.AngleFree
  | binary _ a b => a.AngleFree ∧ b.AngleFree
  | call f t => f.function.takesAngle = false ∧ f.function.givesAngle = false ∧ t.AngleFree

variable (mode : AngleMode) {t : Tree Operation}

theorem eval_inRadians (t : Tree Operation) : t.eval mode = (t.inRadians mode).eval .radians := by
  induction t with
  | number x => rfl
  | negate t ih => simp only [inRadians, eval, ih]
  | binary op a b iha ihb => simp only [inRadians, eval, iha, ihb]
  | call f t ih =>
    rw [eval, ih, UnaryFunction.apply_eq, inRadians]
    split
    · rw [eval, AngleMode.eval_angleInRadians]
    · split
      · rw [AngleMode.eval_angleFromRadians, eval]
      · rw [eval]

theorem inRadians_eq_self (h : t.AngleFree) : t.inRadians mode = t := by
  induction t with
  | number x => rfl
  | negate t ih => rw [inRadians, ih h]
  | binary op a b iha ihb => rw [inRadians, iha h.1, ihb h.2]
  | call f t ih =>
    obtain ⟨htakes, hgives, ht⟩ := h
    simp only [inRadians, htakes, hgives, ih ht, Bool.false_eq_true, ↓reduceIte]

/-- A tree of operations has the same value among any functions. -/
theorem eval_ofOperations [Callable φ] (t : Tree Operation) :
    (t.map Callable.ofOperation : Tree φ).eval mode = t.eval mode :=
  eval_map Callable.call_ofOperation mode t

end Tree

namespace Calculator

/-- Only the value depends on the mode. -/
theorem evaluate_eq_error_iff [Callable φ] (mode mode' : AngleMode) (r : Registers φ)
    (text : String) (e : ExpressionError φ) :
    (new mode r).evaluate text = .error e ↔ (new mode' r).evaluate text = .error e := by
  have htree : (new mode r).tree text = (new mode' r).tree text := rfl
  rw [evaluate_eq, evaluate_eq, htree]
  split
  · rfl
  · cases (new mode' r).tree text with
    | error e' => rfl
    | ok t => exact ⟨fun h => (by cases h), fun h => (by cases h)⟩

end Calculator

/-- Every angle mode can be written in radians. So where no function of angles is called all modes
give one value, and all modes give the same error where there is none. -/
theorem angle_modes_in_radians :
    (∀ mode (t : Tree Operation), t.eval mode = (t.inRadians mode).eval .radians) ∧
    (∀ t : Tree Operation, t.AngleFree → ∀ mode mode', t.eval mode = t.eval mode') ∧
    (∀ (φ : Type) [Callable φ] (r : Registers φ) text mode mode' e,
      (Calculator.new mode r).evaluate text = .error e ↔
        (Calculator.new mode' r).evaluate text = .error e) := by
  refine ⟨Tree.eval_inRadians, fun t ht mode mode' => ?_, fun φ _ r text mode mode' e =>
    Calculator.evaluate_eq_error_iff mode mode' r text e⟩
  have hmode := Tree.eval_inRadians mode t
  have hmode' := Tree.eval_inRadians mode' t
  rw [Tree.inRadians_eq_self mode ht] at hmode
  rw [Tree.inRadians_eq_self mode' ht] at hmode'
  exact hmode.trans hmode'.symm

/-- The result of an inverse function, a secant in gradians, is converted to the argument of another
function in place; a logarithm is the same in every mode. -/
theorem angle_modes_in_radians_cosec :
    (Tree.call ⟨"cosec", Operation.cosec⟩
        (.call ⟨"asec", Operation.asec⟩ (.number 2))).eval .gradians =
      (Tree.call ⟨"cosec", Operation.cosec⟩ (.binary .multiply (.binary .multiply
        (.binary .divide (.binary .multiply (.call ⟨"asec", Operation.asec⟩ (.number 2))
          (.binary .divide (.number 180) (.number pi))) (.number 0.9))
        (.number 0.9)) (.binary .divide (.number pi) (.number 180)))).eval .radians ∧
    (Tree.call ⟨"ln", Operation.ln⟩ (.negate (.number 2))).AngleFree ∧
    (Tree.call ⟨"ln", Operation.ln⟩ (.negate (.number 2))).eval .gradians =
      (Tree.call ⟨"ln", Operation.ln⟩ (.negate (.number 2))).eval .degrees := by
  have hln : (Tree.call ⟨"ln", Operation.ln⟩ (.negate (.number 2))).AngleFree := ⟨rfl, rfl, trivial⟩
  exact ⟨angle_modes_in_radians.1 .gradians _, hln, angle_modes_in_radians.2.1 _ hln _ _⟩

end Reckoner
