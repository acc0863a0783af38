/-
# `FullTextSearch.Outcome` — answers with warnings, or a fault.

Reading options is lenient: what cannot be used is replaced by a default and leaves a `Warning`.  An
`Outcome` is an answer with the warnings given on the way, in order, or a `Fault`, which keeps none.
It is a lawful monad, so a sequence of steps may be regrouped freely; its laws are stated here.
-/
import FullTextSearch.Fault

namespace FullTextSearch

/-- What was found wrong and replaced by a default. -/
inductive Warning where
  | unsupportedRankFunction
  | weightsNotMapping
  | unknownWeightLabel
  | weightNotNumber
  | normalizationNotInteger
  | invalidRankOptions
  | unsupportedRankOptions
  | invalidSearchOptions
  | unsupportedSearchOptions
  | settingNotInteger
deriving DecidableEq, Repr

/-- The wording of a warning, with places for the values it is about. -/
def Warning.template : Warning → Text
  | .unsupportedRankFunction => "unsupported rank function %r; using ts_rank".toList
  | .weightsNotMapping => "rank weights must be a mapping, got %r; ignoring".toList
  | .unknownWeightLabel => "unknown rank weight label %r; ignoring".toList
  | .weightNotNumber => "rank weight %r=%r is not a number; ignoring".toList
  | .normalizationNotInteger => "rank normalization %r is not an integer; using default".toList
  | .invalidRankOptions => "invalid rank options %r (%s); using defaults".toList
  | .unsupportedRankOptions => "unsupported rank options type %s; using defaults".toList
  | .invalidSearchOptions => "invalid search options (%s errors); using defaults".toList
  | .unsupportedSearchOptions => "unsupported search options type %s; using defaults".toList
  | .settingNotInteger => "%s=%r is not an integer; using %d".toList

/-- An answer with the warnings given on the way to it, in order, or a fault. -/
inductive Outcome (α : Type) where
  | answer (value : α) (warnings : List Warning)
  | fault (cause : Fault)
deriving DecidableEq, Repr

namespace Outcome

variable {α β γ : Type}

/-- An answer that stands in for something unusable. -/
def instead (a : α) (w : Warning) : Outcome α := .answer a [w]

/-- A result that gives no warnings. -/
def ofExcept : Except Fault α → Outcome α
  | .ok a => .answer a []
  | .error f => .fault f

/-- Further warnings in front of those of an outcome; a fault keeps none. -/
def after (ws : List Warning) : Outcome α → Outcome α
  | .answer a vs => .answer a (ws ++ vs)
  | .fault f => .fault f

/-- One outcome after another: the warnings are joined, and the first fault ends the sequence. -/
def andThen (x : Outcome α) (f : α → Outcome β) : Outcome β :=
  match x with
  | .answer a ws => (f a).after ws
  | .fault e => .fault e

instance : Monad Outcome where
  pure a := .answer a []
  bind := andThen

instance : MonadLift (Except Fault) Outcome := ⟨ofExcept⟩

/-! ## Laws -/

@[simp] theorem after_nil (x : Outcome α) : x.after [] = x := by cases x <;> rfl

@[simp] theorem after_after (ws vs : List Warning) (x : Outcome α) :
    (x.after vs).after ws = x.after (ws ++ vs) := by
  cases x <;> simp [after]

@[simp] theorem pure_eq (a : α) : (pure a : Outcome α) = .answer a [] := rfl

@[simp] theorem liftM_ok (a : α) :
    (liftM (Except.ok a : Except Fault α) : Outcome α) = .answer a [] := rfl

@[simp] theorem liftM_error (e : Fault) :
    (liftM (Except.error e : Except Fault α) : Outcome α) = .fault e := rfl

@[simp] theorem answer_bind (a : α) (ws : List Warning) (f : α → Outcome β) :
    (Outcome.answer a ws >>= f) = (f a).after ws := rfl

@[simp] theorem fault_bind (e : Fault) (f : α → Outcome β) :
    ((Outcome.fault e : Outcome α) >>= f) = .fault e := rfl

@[simp] theorem after_bind (ws : List Warning) (x : Outcome α) (f : α → Outcome β) :
    (x.after ws >>= f) = (x >>= f).after ws := by
  cases x with
  | answer a vs => exact (after_after ws vs (f a)).symm
  | fault e => rfl

/-- Outcomes are a lawful monad: a sequence of steps may be regrouped. -/
instance : LawfulMonad Outcome := LawfulMonad.mk' Outcome
  (fun x => by cases x <;> simp [Functor.map, andThen, after])
  (fun a f => by simp)
  (fun x f g => by cases x <;> simp [after_bind])

/-! ## Inversion -/

theorem after_eq_answer_iff {x : Outcome α} {a : α} {vs ws : List Warning} :
    x.after vs = .answer a ws ↔ ∃ us, x = .answer a us ∧ vs ++ us = ws := by
  cases x with
  | answer b us => simp [after, and_assoc]
  | fault e => simp [after]

theorem after_eq_fault_iff {x : Outcome α} {vs : List Warning} {e : Fault} :
    x.after vs = .fault e ↔ x = .fault e := by
  cases x with
  | answer a us => simp [after]
  | fault f => simp [after]

/-- A sequence of two steps answers where both do. -/
theorem bind_eq_answer_iff {x : Outcome α} {f : α → Outcome β} {b : β} {ws : List Warning} :
    (x >>= f) = .answer b ws ↔
      ∃ a vs us, x = .answer a vs ∧ f a = .answer b us ∧ vs ++ us = ws := by
  cases x with
  | answer a vs =>
    rw [answer_bind, after_eq_answer_iff]
    constructor
    · rintro ⟨us, hf, rfl⟩
      exact ⟨a, vs, us, rfl, hf, rfl⟩
    · rintro ⟨_, _, us, hx, hf, rfl⟩
      cases hx
      exact ⟨us, hf, rfl⟩
  | fault e => simp

/-- A sequence of two steps fails where the first one does, or where the second one does behind the
first. -/
theorem bind_eq_fault_iff {x : Outcome α} {f : α → Outcome β} {e : Fault} :
    (x >>= f) = .fault e ↔ x = .fault e ∨ ∃ a vs, x = .answer a vs ∧ f a = .fault e := by
  cases x with
  | answer a vs =>
    rw [answer_bind, after_eq_fault_iff]
    simp
  | fault e => simp

theorem liftM_eq_answer_iff {x : Except Fault α} {a : α} {ws : List Warning} :
    (liftM x : Outcome α) = .answer a ws ↔ x = .ok a ∧ ws = [] := by
  cases x with
  | ok b => simp [eq_comm]
  | error e => simp

end Outcome

end FullTextSearch
