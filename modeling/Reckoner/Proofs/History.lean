import Mathlib.Data.List.Basic
import Reckoner.Session

/-!
# Histories of sessions

A session after any requests is known from the requests alone (`Session.After`): its mode is the one
set last, its lexicon that of the registers it began with, and its registers are those registers
until someone empties them. Every request keeps this up (`Session.After.serve`), since the lists that
others hold stand in other places than the registers, and new lists come to stand behind all others.
So each answer is the one that `answerBehind` reads off the requests before it, for expressions that
of a calculator set up anew (`answers_of_history`).
-/

namespace Reckoner

variable {φ : Type}

/-- The mode that a request sets, if it sets one. -/
def Request.mode? : Request → Option AngleMode
  | .setMode text => (AngleMode.parse text).toOption
  | _ => none

/-- The mode set last, or else the mode of the beginning. -/
def latestMode (mode : AngleMode) (before : List Request) : AngleMode :=
  (before.filterMap Request.mode?).getLast?.getD mode

/-- What is left of registers: a list that has been emptied stays empty. -/
def leftOf (r : Registers φ) (before : List Request) : Registers φ where
  functions := if .clearFunctions ∈ before ∨ .clearRegisters ∈ before then [] else r.functions
  constants := if .clearConstants ∈ before ∨ .clearRegisters ∈ before then [] else r.constants

/-- The answer to a request behind others, in the words of new calculators, of the original registers
and of the full catalogs. -/
def answerBehind [Callable φ] (mode : AngleMode) (r : Registers φ) (before : List Request) :
    Request → Answer φ
  | .evaluate text => .ofOutcome ((Calculator.new (latestMode mode before) r).evaluate text)
  | .lex text => .lexed ((Calculator.new (latestMode mode before) r).lexicon.lex text)
  | .setMode text =>
    match AngleMode.parse text with
    | .ok _ => .done
    | .error e => .unknownMode e
  | .registers => .registers (leftOf r before)
  | .clearCatalogs => .registers .catalog
  | .clearFunctions | .clearConstants | .clearRegisters | .clearGiven => .done

/-- Whether an answer is that something is wrong. -/
def Answer.fails : Answer φ → Bool
  | .invalid _ | .unknownMode _ => true
  | .lexed l => l.error.isSome
  | .value _ | .done | .registers _ => false

theorem latestMode_concat (mode : AngleMode) (before : List Request) (q : Request) :
    latestMode mode (before ++ [q]) = q.mode?.getD (latestMode mode before) := by
  unfold latestMode
  rw [List.filterMap_append]
  cases hq : q.mode? with
  | none => simp [hq]
  | some m => simp [hq]

namespace Session
open Shelves
variable {mode : AngleMode} {r : Registers φ} {before : List Request} {s : Session φ}

/-- The session has come to what the requests before say. -/
structure After (mode : AngleMode) (r : Registers φ) (before : List Request) (s : Session φ) :
    Prop where
  mode : s.mode = latestMode mode before
  lexicon : s.lexicon = .ofRegisters r
  registers : s.shelves.read s.own = leftOf r before
  holds : s.shelves.Holds s.own
  apart : Apart s.given s.own

theorem after_session (mode : AngleMode) (r : Registers φ) :
    After mode r [] (Calculator.new mode r).session := by
  have hgiven := holds_next ({} : Shelves φ) r
  have hread : (({} : Shelves φ).put r).read ({} : Shelves φ).next = r := read_put_next _ _
  refine ⟨rfl, rfl, ?_, holds_next _ _, Nat.ne_of_lt hgiven.functions, Nat.ne_of_lt hgiven.constants⟩
  show (Shelves.put (Shelves.put {} r) (Shelves.read (Shelves.put {} r) _)).read _ = _
  rw [hread]
  exact (read_put_next _ _).trans (by simp [leftOf])

/-- What a request does that sets no mode. -/
theorem After.of_shelves (h : After mode r before s) {q : Request} {shelves : Shelves φ}
    (hmode : q.mode? = none) (hread : shelves.read s.own = leftOf r (before ++ [q]))
    (hholds : shelves.Holds s.own) : After mode r (before ++ [q]) { s with shelves := shelves } where
  mode := by rw [latestMode_concat, hmode]; exact h.mode
  lexicon := h.lexicon
  registers := hread
  holds := hholds
  apart := h.apart

theorem After.setMode (h : After mode r before s) (text : String) :
    After mode r (before ++ [.setMode text]) (s.setMode text).2 := by
  have hleft : leftOf r (before ++ [.setMode text]) = leftOf r before := by simp [leftOf]
  have hregisters := h.registers
  rw [← hleft] at hregisters
  have hmode := latestMode_concat mode before (.setMode text)
  rw [Request.mode?] at hmode
  unfold Session.setMode
  cases hp : AngleMode.parse text with
  | ok m =>
    rw [hp] at hmode
    exact ⟨hmode.symm, h.lexicon, hregisters, h.holds, h.apart⟩
  | error e =>
    rw [hp] at hmode
    exact ⟨h.mode.trans hmode.symm, h.lexicon, hregisters, h.holds, h.apart⟩

theorem After.serve [Callable φ] (h : After mode r before s) (q : Request) :
    After mode r (before ++ [q]) (s.serve q).2 := by
  -- a request that empties no list of the registers leaves of them what was left
  have hsame : leftOf r (before ++ [q]) = leftOf r before →
      s.shelves.read s.own = leftOf r (before ++ [q]) :=
    fun hleft => h.registers.trans hleft.symm
  cases q with
  | evaluate text => exact h.of_shelves rfl (hsame (by simp [leftOf])) h.holds
  | lex text => exact h.of_shelves rfl (hsame (by simp [leftOf])) h.holds
  | registers => exact h.of_shelves rfl (hsame (by simp [leftOf])) h.holds
  | setMode text => exact h.setMode text
  | clearFunctions =>
    refine h.of_shelves rfl ?_ (h.holds.clearFunctions s.own)
    rw [read_clearFunctions, h.registers]
    simp [leftOf]
  | clearConstants =>
    refine h.of_shelves rfl ?_ (h.holds.clearConstants s.own)
    rw [read_clearConstants, h.registers]
    simp [leftOf]
  | clearRegisters =>
    refine h.of_shelves rfl ?_ (h.holds.clear s.own)
    rw [read_clear]
    simp [leftOf]
  | clearGiven =>
    refine h.of_shelves rfl ?_ (h.holds.clear s.given)
    rw [read_clear_of_apart h.apart]
    exact hsame (by simp [leftOf])
  | clearCatalogs =>
    have hput := h.holds.put .catalog
    refine h.of_shelves rfl ?_ ((hput.clear s.shelves.next).put .catalog)
    rw [read_put (hput.clear _), read_clear_of_apart h.holds.apart_next, read_put h.holds]
    exact hsame (by simp [leftOf])

theorem After.answer [Callable φ] (h : After mode r before s) (q : Request) :
    (s.serve q).1 = answerBehind mode r before q := by
  cases q with
  | evaluate text =>
    show Answer.ofOutcome (s.calculator.evaluate text) = _
    have hc : s.calculator = ⟨latestMode mode before, leftOf r before, .ofRegisters r⟩ := by
      rw [calculator, h.mode, h.registers, h.lexicon]
    rw [hc]
    rfl
  | lex text =>
    show Answer.lexed (s.lexicon.lex text) = _
    rw [h.lexicon]
    rfl
  | setMode text =>
    simp only [Session.serve, Session.setMode, answerBehind]
    cases AngleMode.parse text <;> rfl
  | registers => exact congrArg Answer.registers h.registers
  | clearCatalogs => exact congrArg Answer.registers (read_put_next _ _)
  | clearFunctions => rfl
  | clearConstants => rfl
  | clearRegisters => rfl
  | clearGiven => rfl

theorem After.run [Callable φ] (h : After mode r before s) (qs : List Request) :
    s.run qs = qs.mapIdx fun i q =>
      (answerBehind mode r (before ++ qs.take i) q, latestMode mode (before ++ qs.take (i + 1))) := by
  induction qs generalizing before s with
  | nil => rfl
  | cons q qs ih =>
    have hnext := h.serve q
    have hmode := hnext.mode
    rw [Session.run, ih hnext, List.mapIdx_cons, h.answer, hmode]
    simp

/-- Where something is wrong with a request, nothing changes. -/
theorem serve_eq_self_of_fails [Callable φ] (s : Session φ) {q : Request}
    (h : (s.serve q).1.fails = true) : (s.serve q).2 = s := by
  cases q with
  | evaluate text => rfl
  | lex text => rfl
  | registers => rfl
  | setMode text =>
    simp only [Session.serve, Session.setMode] at h ⊢
    cases hp : AngleMode.parse text with
    | ok m => rw [hp] at h; cases h
    | error e => rfl
  | clearFunctions => cases h
  | clearConstants => cases h
  | clearRegisters => cases h
  | clearGiven => cases h
  | clearCatalogs => cases h

theorem after_concat [Callable φ] (s : Session φ) (qs : List Request) (q : Request) :
    s.after (qs ++ [q]) = ((s.after qs).serve q).2 := by
  simp [Session.after]

theorem After.after [Callable φ] (h : After mode r before s) (qs : List Request) :
    After mode r (before ++ qs) (s.after qs) := by
  induction qs generalizing before s with
  | nil => simpa [Session.after] using h
  | cons q qs ih =>
    have := ih (h.serve q)
    rwa [List.append_assoc] at this

end Session

/-- Every request of a session is answered from the requests before it, with the mode that was set
last: expressions as by a calculator set up anew with the original registers, requests for the
registers with what is left of these, requests for the catalogs with all of them. Where something is
wrong with a request, the session stays as it is. -/
theorem answers_of_history [Callable φ] (mode : AngleMode) (r : Registers φ) (qs : List Request) :
    (Calculator.new mode r).run qs =
        (qs.mapIdx fun i q => (answerBehind mode r (qs.take i) q, latestMode mode (qs.take (i + 1)))) ∧
      ∀ before q, (answerBehind mode r before q).fails = true →
        (Calculator.new mode r).session.after (before ++ [q]) =
          (Calculator.new mode r).session.after before := by
  have h := Session.after_session mode r
  refine ⟨h.run qs, fun before q hq => ?_⟩
  rw [Session.after_concat]
  apply Session.serve_eq_self_of_fails
  rwa [(h.after before).answer]

/-- A name is known when its list has been emptied, and a mode that is not known leaves the one
before it. -/
theorem answers_of_history_emptied :
    let r : Registers Operation := ⟨[], [⟨"k", 2⟩]⟩
    let c : Calculator Operation := .new .degrees r
    let before : List Request := [.setMode "rad", .clearConstants]
    (answerBehind .degrees r before (.setMode "turns")).fails = true ∧
    c.run [.registers, .setMode "rad", .clearConstants, .setMode "turns", .evaluate "k*2",
        .registers] =
      [(.registers r, .degrees), (.done, .radians), (.done, .radians),
        (.unknownMode ⟨"turns"⟩, .radians), (.value 4, .radians),
        (.registers ⟨[], []⟩, .radians)] ∧
    c.session.after (before ++ [.setMode "turns"]) = c.session.after before := by
  intro r c before
  have hfails : (answerBehind .degrees r before (.setMode "turns")).fails = true := by
    decide +kernel
  refine ⟨hfails, ?_, (answers_of_history _ _ []).2 _ _ hfails⟩
  rw [(answers_of_history _ _ _).1]
  decide +kernel

end Reckoner
