import Reshape.Run
import Mathlib.Data.List.Perm.Basic

/-!
# Outcomes of runs

What a run answers, and when it fails, read off its parts; and when two runs agree: both answer,
and what they answer is related, or both fail. Which error ends a run, and what has been noted on
the way, does not count for agreement.

## Main definitions

* `Run.Agree R`: two runs agree up to a relation of their answers

## Main results

* `mapM_eq_ok_iff`, `mapM_eq_error_iff`: a list of results is had if each of them is
* `Run.bind_eq_ok_iff`, `Run.each_eq_ok_iff`: a sequence of runs answers if all of its parts do
* `Run.Agree.bind`, `Run.Agree.each`: runs whose parts agree do
* `Run.each_perm_agree`: the order of the elements counts only for the order of the answers
-/

namespace Reshape

/-! ### Lists of results -/

section Results

variable {ε α β : Type} {g : α → Except ε β}

theorem exists_ok_iff {result : Except ε β} :
    (∃ b, result = .ok b) ↔ ∀ e, result ≠ .error e := by
  cases result <;> simp

/-- A list of results is had if each of them is. -/
theorem mapM_eq_ok_iff {as : List α} {bs : List β} :
    as.mapM g = .ok bs ↔ List.Forall₂ (fun a b => g a = .ok b) as bs := by
  induction as generalizing bs with
  | nil => cases bs <;> simp [pure, Except.pure]
  | cons a as ih =>
    rw [List.mapM_cons]
    constructor
    · intro h
      cases ha : g a with
      | error e => rw [ha] at h; exact nomatch h
      | ok b =>
        cases has : as.mapM g with
        | error e => rw [ha, has] at h; exact nomatch h
        | ok rest =>
          rw [ha, has] at h
          obtain rfl := Except.ok.inj h
          exact .cons ha (ih.mp has)
    · rintro (_ | ⟨ha, has⟩)
      rw [ha, ih.mpr has]
      rfl

/-- Where the elements are refused for one error only, a list of results is refused for it if one
of the elements is. -/
theorem mapM_eq_error_iff {bad : α → Prop} {e₀ : ε}
    (h : ∀ a e, g a = .error e ↔ bad a ∧ e = e₀) {as : List α} {e : ε} :
    as.mapM g = .error e ↔ (∃ a ∈ as, bad a) ∧ e = e₀ := by
  induction as with
  | nil => simp [pure, Except.pure]
  | cons a as ih =>
    rw [List.mapM_cons, List.exists_mem_cons_iff, or_and_right, ← h a, ← ih]
    cases ha : g a with
    | error e' =>
      -- The first element is refused, and the others could be refused for no other error.
      have he' := ((h a e').mp ha).2
      have hs : as.mapM g = .error e → e = e' := fun hs => (ih.mp hs).2.trans he'.symm
      simpa [bind, Except.bind, eq_comm] using hs
    | ok b => cases as.mapM g <;> simp [bind, Except.bind, pure, Except.pure]

end Results

namespace Run

variable {α β γ δ : Type}

/-! ### Answers -/

@[simp] theorem pure_outcome (a : α) : (pure a : Run α).outcome = .ok a := rfl

theorem bind_outcome (run : Run α) (next : α → Run β) :
    (run >>= next).outcome = run.outcome.bind fun a => (next a).outcome := by
  obtain ⟨notes, outcome⟩ := run
  cases outcome <;> rfl

theorem bind_outcome_of_ok {run : Run α} {a : α} (h : run.outcome = .ok a) (next : α → Run β) :
    (run >>= next).outcome = (next a).outcome := by
  rw [bind_outcome, h]
  rfl

theorem bind_outcome_of_error {run : Run α} {e : Error} (h : run.outcome = .error e)
    (next : α → Run β) : (run >>= next).outcome = .error e := by
  rw [bind_outcome, h]
  rfl

theorem map_outcome (f : α → β) (run : Run α) : (f <$> run).outcome = run.outcome.map f := by
  obtain ⟨notes, outcome⟩ := run
  cases outcome <;> rfl

theorem bind_eq_ok_iff {run : Run α} {next : α → Run β} {b : β} :
    (run >>= next).outcome = .ok b ↔ ∃ a, run.outcome = .ok a ∧ (next a).outcome = .ok b := by
  rw [bind_outcome]
  cases run.outcome <;> simp [Except.bind]

theorem map_eq_ok_iff {f : α → β} {run : Run α} {b : β} :
    (f <$> run).outcome = .ok b ↔ ∃ a, run.outcome = .ok a ∧ f a = b := by
  rw [map_outcome]
  cases run.outcome <;> simp [Except.map]

theorem map_eq_error_iff {f : α → β} {run : Run α} {e : Error} :
    (f <$> run).outcome = .error e ↔ run.outcome = .error e := by
  rw [map_outcome]
  cases run.outcome <;> simp [Except.map]

/-- A run for each element answers if the run of every element does. -/
theorem each_eq_ok_iff {f : α → Run β} {xs : List α} {ys : List β} :
    (each f xs).outcome = .ok ys ↔ List.Forall₂ (fun x y => (f x).outcome = .ok y) xs ys := by
  induction xs generalizing ys with
  | nil => cases ys <;> simp
  | cons x xs ih =>
    simp only [each_cons, bind_eq_ok_iff, ih, pure_outcome, Except.ok.injEq]
    constructor
    · rintro ⟨y, hy, rest, hrest, rfl⟩
      exact .cons hy hrest
    · rintro (_ | ⟨hy, hrest⟩)
      exact ⟨_, hy, _, hrest, rfl⟩

/-! ### Agreement -/

/-- **Agreement of runs** up to a relation of what they answer. -/
inductive Agree (R : α → β → Prop) (run : Run α) (run' : Run β) : Prop where
  /-- Both answer. -/
  | answer {a : α} {b : β} (ha : run.outcome = .ok a) (hb : run'.outcome = .ok b) (hr : R a b)
  /-- Both fail. -/
  | fail {e e' : Error} (he : run.outcome = .error e) (he' : run'.outcome = .error e')

namespace Agree

variable {R : α → β → Prop}

theorem pure {a : α} {b : β} (h : R a b) : Agree R (pure a) (pure b) :=
  .answer rfl rfl h

theorem refl {R : α → α → Prop} (h : ∀ a, R a a) (run : Run α) : Agree R run run := by
  cases ho : run.outcome with
  | ok a => exact .answer ho ho (h a)
  | error e => exact .fail ho ho

theorem trans {Q : β → γ → Prop} {run : Run α} {run' : Run β} {run'' : Run γ}
    (h : Agree R run run') (h' : Agree Q run' run'') :
    Agree (fun a c => ∃ b, R a b ∧ Q b c) run run'' := by
  rcases h with ⟨ha, hb, hr⟩ | ⟨he, he'⟩ <;> rcases h' with ⟨hb', hc, hq⟩ | ⟨he₁, he₁'⟩
  · -- Both agreements tell the answer of the run between.
    obtain rfl := Except.ok.inj (hb.symm.trans hb')
    exact .answer ha hc ⟨_, hr, hq⟩
  -- The run between cannot both answer and fail.
  · exact nomatch hb.symm.trans he₁
  · exact nomatch he'.symm.trans hb'
  · exact .fail he he₁'

theorem bind {Q : γ → δ → Prop} {run : Run α} {run' : Run β} {next : α → Run γ}
    {next' : β → Run δ} (h : Agree R run run') (hn : ∀ a b, R a b → Agree Q (next a) (next' b)) :
    Agree Q (run >>= next) (run' >>= next') := by
  rcases h with ⟨ha, hb, hr⟩ | ⟨he, he'⟩
  · -- Both first runs answer, so the second ones decide.
    rcases hn _ _ hr with ⟨hc, hd, hq⟩ | ⟨he, he'⟩
    · exact .answer (bind_eq_ok_iff.mpr ⟨_, ha, hc⟩) (bind_eq_ok_iff.mpr ⟨_, hb, hd⟩) hq
    · exact .fail ((bind_outcome_of_ok ha next).trans he) ((bind_outcome_of_ok hb next').trans he')
  · exact .fail (bind_outcome_of_error he next) (bind_outcome_of_error he' next')

theorem map {Q : γ → δ → Prop} {f : α → γ} {g : β → δ} {run : Run α} {run' : Run β}
    (h : Agree R run run') (hq : ∀ a b, R a b → Q (f a) (g b)) :
    Agree Q (f <$> run) (g <$> run') := by
  rw [map_eq_pure_bind, map_eq_pure_bind]
  exact h.bind fun a b hr => .pure (hq a b hr)

theorem of_map {Q : γ → δ → Prop} {f : α → γ} {g : β → δ} {run : Run α} {run' : Run β}
    (h : Agree Q (f <$> run) (g <$> run')) (hr : ∀ a b, Q (f a) (g b) → R a b) :
    Agree R run run' := by
  rcases h with ⟨hc, hd, hq⟩ | ⟨he, he'⟩
  · obtain ⟨a, ha, rfl⟩ := map_eq_ok_iff.mp hc
    obtain ⟨b, hb, rfl⟩ := map_eq_ok_iff.mp hd
    exact .answer ha hb (hr a b hq)
  · exact .fail (map_eq_error_iff.mp he) (map_eq_error_iff.mp he')

/-- Agreement says of which runs the related values are answers. -/
theorem answered {run : Run α} {run' : Run β} (h : Agree R run run') :
    Agree (fun a b => R a b ∧ run.outcome = .ok a ∧ run'.outcome = .ok b) run run' := by
  rcases h with ⟨ha, hb, hr⟩ | ⟨he, he'⟩
  · exact .answer ha hb ⟨hr, ha, hb⟩
  · exact .fail he he'

/-- Answers of agreeing runs are related. -/
theorem related {run : Run α} {run' : Run β} (h : Agree R run run') {a : α} {b : β}
    (ha : run.outcome = .ok a) (hb : run'.outcome = .ok b) : R a b := by
  rcases h with ⟨ha', hb', hr⟩ | ⟨he, -⟩
  · obtain rfl := Except.ok.inj (ha.symm.trans ha')
    obtain rfl := Except.ok.inj (hb.symm.trans hb')
    exact hr
  · exact nomatch ha.symm.trans he

/-- Runs for each element agree if the runs of every element do. -/
theorem each {f : γ → Run α} {g : γ → Run β} {xs : List γ} (h : ∀ x ∈ xs, Agree R (f x) (g x)) :
    Agree (List.Forall₂ R) (each f xs) (each g xs) := by
  induction xs with
  | nil => exact .pure .nil
  | cons x xs ih =>
    rw [each_cons, each_cons]
    refine (h x List.mem_cons_self).bind fun a b hab => ?_
    refine (ih fun y hy => h y (List.mem_cons_of_mem _ hy)).bind fun as bs hs => ?_
    exact .pure (.cons hab hs)

end Agree

theorem each_ok_of_perm {f : α → Run β} {xs ys : List α} (h : xs.Perm ys) {bs : List β}
    (hb : (each f ys).outcome = .ok bs) : ∃ cs, (each f xs).outcome = .ok cs ∧ cs.Perm bs := by
  obtain ⟨cs, hc, hp⟩ := List.perm_comp_forall₂ h (each_eq_ok_iff.mp hb)
  exact ⟨cs, each_eq_ok_iff.mpr hc, hp⟩

/-- Runs for the same elements in two orders agree up to the order of the answers. -/
theorem each_perm_agree (f : α → Run β) {xs ys : List α} (h : xs.Perm ys) :
    Agree List.Perm (each f xs) (each f ys) := by
  cases hy : (each f ys).outcome with
  | ok bs =>
    obtain ⟨cs, hc, hp⟩ := each_ok_of_perm h hy
    exact .answer hc hy hp
  | error e =>
    -- In another order the runs cannot all answer either, but the first to fail may be another.
    cases hx : (each f xs).outcome with
    | ok cs =>
      obtain ⟨bs, hb, -⟩ := each_ok_of_perm h.symm hx
      exact nomatch hy.symm.trans hb
    | error e' => exact .fail hx hy

end Run

end Reshape
