import Reshape.Proofs.Fields
import Reshape.Rule

/-!
# Levels of a mapping

The rules inside a rule are a mapping one level down. What is said of a mapping is mostly said of
all its levels, and proved one level at a time.

## Main definitions

* `Mapping.Inner inner mapping`: `inner` stands inside a rule of `mapping`
* `Mapping.Everywhere P`: `P` holds at every level
* `Mapping.Keyed`, `Mapping.OneToOne`: no two rules of a level share their field, or their target

## Main results

* `Mapping.induction`: what passes from the levels inside to a mapping holds of every mapping
* `Mapping.everywhere_iff`: a level, and the levels inside it
* `Mapping.Keyed.insert`: mappings that are built rule by rule are keyed
-/

namespace Reshape

variable {φ : Type}

/-! ### One level down -/

namespace Mapping

/-- A mapping that stands inside a rule of another. -/
def Inner (inner mapping : Mapping φ) : Prop :=
  ∃ entry ∈ mapping, entry.2.nested? = some inner

-- A mapping is a list of rules, and not a type of its own, so its induction goes through the rules
-- and through the lists of rules at once.
mutual

theorem induction_rule {motive : Mapping φ → Prop}
    (level : ∀ mapping, (∀ inner, Inner inner mapping → motive inner) → motive mapping) :
    ∀ (rule : Rule φ) (inner : Mapping φ), rule.nested? = some inner → motive inner
  | .nest _ _ rules, inner, h => by
    obtain rfl : rules = inner := Option.some.inj h
    exact level rules (induction_rules level rules)
  | .copy _, _, h => nomatch h
  | .convert _ _ _ _, _, h => nomatch h
termination_by structural rule => rule

theorem induction_rules {motive : Mapping φ → Prop}
    (level : ∀ mapping, (∀ inner, Inner inner mapping → motive inner) → motive mapping) :
    ∀ (rules : List (String × Rule φ)) (inner : Mapping φ), Inner inner rules → motive inner
  | [], _, ⟨_, hm, _⟩ => absurd hm List.not_mem_nil
  | (field, rule) :: rest, inner, ⟨entry, hm, hi⟩ => by
    rcases List.mem_cons.mp hm with rfl | hm
    · exact induction_rule level rule inner hi
    · exact induction_rules level rest inner ⟨entry, hm, hi⟩
termination_by structural rules => rules

end

/-- **Induction on the levels** of a mapping. -/
theorem induction {motive : Mapping φ → Prop}
    (level : ∀ mapping, (∀ inner, Inner inner mapping → motive inner) → motive mapping)
    (mapping : Mapping φ) : motive mapping :=
  level mapping (induction_rules level mapping)

end Mapping

/-! ### Every level -/

namespace Rule

variable (P : Mapping φ → Prop)

mutual

/-- Whether a predicate holds of the rules inside a rule, at every level. -/
def Within : Rule φ → Prop
  | copy _ => True
  | convert _ _ _ _ => True
  | nest _ _ rules => P rules ∧ AllWithin rules
termination_by structural rule => rule

/-- Whether a predicate holds inside each of the rules, at every level. -/
def AllWithin : List (String × Rule φ) → Prop
  | [] => True
  | (_, rule) :: rest => rule.Within ∧ AllWithin rest
termination_by structural rules => rules

end

mutual

/-- A decidable predicate is decidable inside a rule. -/
def decidableWithin [DecidablePred P] : (rule : Rule φ) → Decidable (Within P rule)
  | copy _ => .isTrue trivial
  | convert _ _ _ _ => .isTrue trivial
  | nest _ _ rules =>
    have := decidableAllWithin rules
    inferInstanceAs (Decidable (P rules ∧ AllWithin P rules))
termination_by structural rule => rule

/-- A decidable predicate is decidable inside rules. -/
def decidableAllWithin [DecidablePred P] :
    (rules : List (String × Rule φ)) → Decidable (AllWithin P rules)
  | [] => .isTrue trivial
  | (_, rule) :: rest =>
    have := decidableWithin rule
    have := decidableAllWithin rest
    inferInstanceAs (Decidable (Within P rule ∧ AllWithin P rest))
termination_by structural rules => rules

end

instance [DecidablePred P] (rules : List (String × Rule φ)) : Decidable (AllWithin P rules) :=
  decidableAllWithin P rules

end Rule

namespace Mapping

variable {P : Mapping φ → Prop}

/-- **A predicate at every level** of a mapping. -/
def Everywhere (P : Mapping φ → Prop) (mapping : Mapping φ) : Prop :=
  P mapping ∧ Rule.AllWithin P mapping

instance [DecidablePred P] (mapping : Mapping φ) : Decidable (Everywhere P mapping) :=
  inferInstanceAs (Decidable (P mapping ∧ Rule.AllWithin P mapping))

theorem within_iff {rule : Rule φ} :
    rule.Within P ↔ ∀ inner, rule.nested? = some inner → Everywhere P inner := by
  cases rule with
  | copy => simp [Rule.Within, Rule.nested?]
  | convert => simp [Rule.Within, Rule.nested?]
  | nest arity target rules => simp [Rule.Within, Rule.nested?, Everywhere]

theorem allWithin_iff {rules : List (String × Rule φ)} :
    Rule.AllWithin P rules ↔ ∀ inner, Inner inner rules → Everywhere P inner := by
  induction rules with
  | nil => simp [Rule.AllWithin, Inner]
  | cons entry rest ih =>
    obtain ⟨field, rule⟩ := entry
    rw [Rule.AllWithin, within_iff, ih]
    constructor
    · rintro ⟨hr, hs⟩ inner ⟨entry, hm, hi⟩
      rcases List.mem_cons.mp hm with rfl | hm
      · exact hr inner hi
      · exact hs inner ⟨entry, hm, hi⟩
    · intro h
      refine ⟨fun inner hi => h inner ⟨_, List.mem_cons_self, hi⟩, ?_⟩
      rintro inner ⟨entry, hm, hi⟩
      exact h inner ⟨entry, List.mem_cons_of_mem _ hm, hi⟩

theorem within_of_mem {rules : List (String × Rule φ)} (h : Rule.AllWithin P rules)
    {entry : String × Rule φ} (hm : entry ∈ rules) : entry.2.Within P :=
  within_iff.mpr fun inner hi => allWithin_iff.mp h inner ⟨entry, hm, hi⟩

/-- A predicate holds at every level if it holds of the mapping and, at every level, of the
mappings inside its rules. -/
theorem everywhere_iff {mapping : Mapping φ} :
    Everywhere P mapping ↔ P mapping ∧ ∀ inner, Inner inner mapping → Everywhere P inner := by
  rw [Everywhere, allWithin_iff]

theorem Everywhere.here {mapping : Mapping φ} (h : Everywhere P mapping) : P mapping := h.1

theorem Everywhere.inner {mapping inner : Mapping φ} (h : Everywhere P mapping)
    (hi : Inner inner mapping) : Everywhere P inner :=
  (everywhere_iff.mp h).2 inner hi

theorem Everywhere.mono {Q : Mapping φ → Prop} {mapping : Mapping φ} (h : Everywhere P mapping)
    (himp : ∀ level, P level → Q level) : Everywhere Q mapping := by
  induction mapping using induction with
  | level mapping ih =>
    exact everywhere_iff.mpr ⟨himp mapping h.here, fun inner hi => ih inner hi (h.inner hi)⟩

/-- No two rules of a level have one field, as in every mapping that is built by setting the rules
of fields. -/
def Keyed (mapping : Mapping φ) : Prop :=
  Everywhere Fields.Distinct mapping

/-- Setting the rule of a field leaves no two rules of a level with one field. So every mapping that
is built by setting rules, and those inside them in the same way, is keyed. -/
theorem Keyed.insert {mapping : Mapping φ} (h : mapping.Keyed) (field : String) {rule : Rule φ}
    (hr : ∀ inner, rule.nested? = some inner → inner.Keyed) :
    Keyed (Fields.insert mapping field rule) := by
  refine everywhere_iff.mpr ⟨Fields.Distinct.insert h.here field rule, ?_⟩
  rintro inner ⟨entry, hm, hi⟩
  rcases Fields.mem_insert hm with hm | rfl
  · exact h.inner ⟨entry, hm, hi⟩
  · exact hr inner hi

/-- No two rules of a level have one target. -/
def OneToOne (mapping : Mapping φ) : Prop :=
  Everywhere (fun level => level.targets.Nodup) mapping

instance (mapping : Mapping φ) : Decidable (Keyed mapping) :=
  inferInstanceAs (Decidable (Everywhere Fields.Distinct mapping))

instance (mapping : Mapping φ) : Decidable (OneToOne mapping) :=
  inferInstanceAs (Decidable (Everywhere (fun level => level.targets.Nodup) mapping))

end Mapping

end Reshape
