import Reshape.Error

/-!
# Runs

A run is a computation over values that may fail, and in which the transforms that are called may
leave notes. The notes are kept in the order of the calls, those before a failure among them, so
that two runs are equal only if they call the same transforms in the same order.

## Main definitions

* `Run α`: notes, and a value or an error
* `Run.note`, `Run.fail`: the two effects
* `Run.each`: a run for every element of a list, up to the first failure
* `Transform`: what converts one value into another
-/

namespace Reshape

/-- **A run**: the notes left so far, and its outcome. -/
structure Run (α : Type) where
  /-- What the transforms called have noted, first call first. -/
  notes : List String
  /-- The value, or the error that ended the run. -/
  outcome : Except Error α

/-- **A transform**: what converts one value into another. -/
abbrev Transform : Type := Value → Run Value

namespace Run

variable {α β : Type}

/-- The run that does nothing but answer. -/
protected def pure (a : α) : Run α :=
  ⟨[], .ok a⟩

/-- The first run and then, if it answers, the second. -/
protected def bind (run : Run α) (next : α → Run β) : Run β :=
  match run.outcome with
  | .ok a => ⟨run.notes ++ (next a).notes, (next a).outcome⟩
  | .error e => ⟨run.notes, .error e⟩

instance : Monad Run where
  pure := Run.pure
  bind := Run.bind

/-- The run that fails. -/
def fail (e : Error) : Run α :=
  ⟨[], .error e⟩

/-- The run that leaves a note. -/
def note (text : String) : Run Unit :=
  ⟨[text], .ok ()⟩

/-- **A run for each element** of a list in order, up to the first failure. -/
def each (f : α → Run β) : List α → Run (List β)
  | [] => pure []
  | a :: rest => do
    let b ← f a
    let bs ← each f rest
    pure (b :: bs)

@[simp] theorem pure_bind (a : α) (next : α → Run β) : (pure a : Run α) >>= next = next a := rfl

@[simp] theorem fail_bind (e : Error) (next : α → Run β) : (fail e : Run α) >>= next = fail e := rfl

@[simp] theorem bind_pure (run : Run α) : (run >>= fun a => pure a) = run := by
  obtain ⟨notes, outcome⟩ := run
  cases outcome <;> simp [bind, Run.bind, pure, Run.pure]

@[simp] theorem bind_assoc {γ : Type} (run : Run α) (f : α → Run β) (g : β → Run γ) :
    (run >>= f >>= g) = (run >>= fun a => f a >>= g) := by
  obtain ⟨notes, outcome⟩ := run
  cases outcome with
  | error e => rfl
  | ok a =>
    simp only [bind, Run.bind]
    cases (f a).outcome <;> simp

instance : LawfulMonad Run :=
  LawfulMonad.mk' Run (fun run => bind_pure run) (fun a next => pure_bind a next)
    (fun run f g => bind_assoc run f g)

@[simp] theorem each_nil (f : α → Run β) : each f [] = pure [] := rfl

theorem each_cons (f : α → Run β) (a : α) (rest : List α) :
    each f (a :: rest) = (do
      let b ← f a
      let bs ← each f rest
      pure (b :: bs)) := rfl

end Run

end Reshape
