import Reshape.Proofs.Sameness

/-!
# Resolving definitions

A definition is resolved by looking its names up in a registry, depth first and `there` before
`back`. So it is refused for the first name in this order that is not registered. If all are, it
resolves to the spec that has its fields, kinds and targets at every level, and the registered
transforms in the places of their names; and that is the spec its mapper is made of.

## Main definitions

* `Definition.lookups`: the names of transforms, in the order in which they are looked up
* `Definition.Resolved`: the spec that stands for a definition
* `Lookup`: the outcome of something in which a name may be missing

## Main results

* `Definition.lookup_resolve`: the first name that is missing is reported
* `Definition.resolve_eq_ok_iff`: a definition resolves to the spec that stands for it
* `Mapper.resolve_ofDefinition`: resolving definitions and making their mappers, in all cases
-/

namespace Reshape

/-! ### The names of a definition -/

namespace Rule

mutual

/-- The names that a rule looks up, `there` before `back`. -/
def lookups : Rule String → List String
  | copy _ => []
  | convert _ _ there back => [there, back]
  | nest _ _ rules => allLookups rules
termination_by structural rule => rule

/-- The names that rules look up, rule by rule. -/
def allLookups : List (String × Rule String) → List String
  | [] => []
  | (_, rule) :: rest => rule.lookups ++ allLookups rest
termination_by structural rules => rules

end

end Rule

/-- **The names that a definition looks up**, depth first. -/
def Definition.lookups (definition : Definition) : List String :=
  Rule.allLookups definition

/-- **The first name that is missing** in a registry. -/
def Registry.missing? (registry : Registry) (names : List String) : Option String :=
  names.find? fun name => !registry.contains name

/-! ### The first missing name -/

/-- **The outcome of looking names up**: an error about the first that is missing, if one is. -/
inductive Lookup {α : Type} : Option String → Except Error α → Prop
  | found (a : α) : Lookup none (.ok a)
  | missing (name : String) : Lookup (some name) (.error (.unknownFunction name))

namespace Lookup

variable {α β : Type} {missing? later? : Option String} {outcome : Except Error α}

/-- Of two lookups in a row the first that misses a name decides. -/
theorem bind {next : α → Except Error β} (h : Lookup missing? outcome)
    (h' : ∀ a, Lookup later? (next a)) : Lookup (missing?.or later?) (outcome >>= next) := by
  cases h with
  | found a => exact h' a
  | missing name => exact .missing name

theorem map (h : Lookup missing? outcome) (f : α → β) : Lookup missing? (f <$> outcome) := by
  cases h with
  | found a => exact .found (f a)
  | missing name => exact .missing name

theorem eq_error_iff (h : Lookup missing? outcome) (e : Error) :
    outcome = .error e ↔ ∃ name, missing? = some name ∧ e = .unknownFunction name := by
  cases h with
  | found a => simp
  | missing name => simp [eq_comm]

theorem exists_eq_error_iff (h : Lookup missing? outcome) :
    (∃ e, outcome = .error e) ↔ missing?.isSome = true := by
  cases h with
  | found a => simp
  | missing name => simp

end Lookup

namespace Registry

variable (registry : Registry)

theorem lookup_resolve (name : String) :
    Lookup (registry.missing? [name]) (registry.resolve name) := by
  rw [missing?, List.find?_singleton, resolve, contains_eq_isSome]
  cases registry.get? name with
  | none => exact .missing name
  | some f => exact .found f

theorem missing?_append (names others : List String) :
    registry.missing? (names ++ others) =
      (registry.missing? names).or (registry.missing? others) :=
  List.find?_append ..

end Registry

namespace Rule

variable (registry : Registry)

-- The names are listed in the order in which they are looked up, so that the first one missing in a
-- list of two parts is that of the part whose lookups come first.
mutual

theorem lookup_mapM : ∀ rule : Rule String,
    Lookup (registry.missing? rule.lookups) (rule.mapM registry.resolve)
  | copy target => .found (copy target)
  | convert grain target there back => by
    rw [lookups, ← List.singleton_append, registry.missing?_append]
    exact (registry.lookup_resolve there).bind fun f =>
      (registry.lookup_resolve back).map fun g => convert grain target f g
  | nest arity target rules => (lookup_mapAllM rules).map (nest arity target)
termination_by structural rule => rule

theorem lookup_mapAllM : ∀ rules : List (String × Rule String),
    Lookup (registry.missing? (allLookups rules)) (mapAllM registry.resolve rules)
  | [] => .found []
  | (field, rule) :: rest => by
    rw [allLookups, registry.missing?_append]
    exact (lookup_mapM rule).bind fun r => (lookup_mapAllM rest).map ((field, r) :: ·)
termination_by structural rules => rules

end

end Rule

/-- **The first missing name**, depth first, decides whether a definition resolves. -/
theorem Definition.lookup_resolve (definition : Definition) (registry : Registry) :
    Lookup (registry.missing? definition.lookups) (definition.resolve registry) :=
  Rule.lookup_mapAllM registry definition

/-! ### The spec that stands for a definition -/

mutual

/-- The rule that stands for a rule of a definition: it has the same kind and target, and the
transforms that are registered under the names. -/
inductive Rule.Resolved (registry : Registry) : Rule String → Rule Transform → Prop
  | copy (target : String) : Rule.Resolved registry (.copy target) (.copy target)
  | convert (grain : Grain) (target : String) {there back : String} {f g : Transform}
      (forward : registry.get? there = some f) (reverse : registry.get? back = some g) :
      Rule.Resolved registry (.convert grain target there back) (.convert grain target f g)
  | nest (arity : Arity) (target : String) {rules : Definition} {spec : Spec}
      (inside : Definition.Resolved registry rules spec) :
      Rule.Resolved registry (.nest arity target rules) (.nest arity target spec)

/-- **The spec that stands for a definition** has the same fields in the same order, and the rules
that stand for those of the definition. -/
inductive Definition.Resolved (registry : Registry) : Definition → Spec → Prop
  | nil : Definition.Resolved registry [] []
  | cons (field : String) {rule : Rule String} {r : Rule Transform} {rest : Definition}
      {spec : Spec} (first : Rule.Resolved registry rule r)
      (others : Definition.Resolved registry rest spec) :
      Definition.Resolved registry ((field, rule) :: rest) ((field, r) :: spec)

end

namespace Rule

variable {φ ψ ε : Type}

theorem mapAllM_cons_eq_ok_iff {look : φ → Except ε ψ} {field : String} {rule : Rule φ}
    {rest : Mapping φ} {resolved : Mapping ψ} :
    mapAllM look ((field, rule) :: rest) = .ok resolved ↔
      ∃ r rs, rule.mapM look = .ok r ∧ mapAllM look rest = .ok rs ∧
        resolved = (field, r) :: rs := by
  rw [mapAllM]
  cases rule.mapM look <;> cases mapAllM look rest <;>
    simp [bind, Except.bind, pure, Except.pure, eq_comm]

variable (registry : Registry)

mutual

theorem mapM_eq_ok_iff : ∀ (rule : Rule String) (r : Rule Transform),
    rule.mapM registry.resolve = .ok r ↔ Resolved registry rule r
  | copy target, r => by
    constructor
    · rintro ⟨⟩
      exact .copy target
    · rintro ⟨⟩
      rfl
  | convert grain target there back, r => by
    simp only [mapM_convert_eq_ok_iff, Registry.resolve_eq_ok_iff]
    constructor
    · rintro ⟨f, g, hf, hg, rfl⟩
      exact .convert grain target hf hg
    · rintro ⟨⟩
      exact ⟨_, _, ‹_›, ‹_›, rfl⟩
  | nest arity target rules, r => by
    simp only [mapM_nest_eq_ok_iff, Mapping.mapM, mapAllM_eq_ok_iff rules]
    constructor
    · rintro ⟨resolved, h, rfl⟩
      exact .nest arity target h
    · rintro ⟨⟩
      exact ⟨_, ‹_›, rfl⟩
termination_by structural rule => rule

theorem mapAllM_eq_ok_iff : ∀ (rules : List (String × Rule String))
    (resolved : List (String × Rule Transform)),
    mapAllM registry.resolve rules = .ok resolved ↔ Definition.Resolved registry rules resolved
  | [], resolved => by
    constructor
    · rintro ⟨⟩
      exact .nil
    · rintro ⟨⟩
      rfl
  | (field, rule) :: rest, resolved => by
    simp only [mapAllM_cons_eq_ok_iff, mapM_eq_ok_iff rule, mapAllM_eq_ok_iff rest]
    constructor
    · rintro ⟨r, rs, hr, hs, rfl⟩
      exact .cons field hr hs
    · rintro ⟨⟩
      exact ⟨_, _, ‹_›, ‹_›, rfl⟩
termination_by structural rules => rules

end

end Rule

/-- **A definition resolves to the spec that stands for it.** -/
theorem Definition.resolve_eq_ok_iff {definition : Definition} {registry : Registry} {spec : Spec} :
    definition.resolve registry = .ok spec ↔ Definition.Resolved registry definition spec :=
  Rule.mapAllM_eq_ok_iff registry definition spec

/-! ### Mappers of definitions -/

/-- **Resolving definitions.** A definition is refused if one of its names is not registered, and
then for the first such name; otherwise it resolves to the spec that stands for it. Its mapper is
refused with the same error, and otherwise is the mapper of that spec, so that both map all records
in the same way. -/
theorem Mapper.resolve_ofDefinition (definition : Definition) (registry : Registry) :
    ((∃ e, definition.resolve registry = .error e) ↔
        ∃ name ∈ definition.lookups, registry.contains name = false) ∧
      (∀ e, definition.resolve registry = .error e ↔ ∃ name,
        definition.lookups.find? (fun name => !registry.contains name) = some name ∧
          e = .unknownFunction name) ∧
      (∀ spec, definition.resolve registry = .ok spec ↔
        Definition.Resolved registry definition spec) ∧
      (∀ e, ofDefinition definition registry = .error e ↔
        definition.resolve registry = .error e) ∧
      ∀ mapper, ofDefinition definition registry = .ok mapper ↔
        ∃ spec, Definition.Resolved registry definition spec ∧ mapper = ofSpec spec := by
  have hl := definition.lookup_resolve registry
  refine ⟨?_, hl.eq_error_iff, fun spec => Definition.resolve_eq_ok_iff, fun e => ?_,
    fun mapper => ?_⟩
  · rw [hl.exists_eq_error_iff, Registry.missing?, List.find?_isSome]
    simp only [Bool.not_eq_true']
  · rw [ofDefinition]
    cases definition.resolve registry <;> simp [Except.map]
  · simp only [← Definition.resolve_eq_ok_iff, ofDefinition]
    cases definition.resolve registry <;> simp [Except.map, eq_comm]

/-- The first name of the ledger that is not registered stands inside. -/
example : Example.ledger.resolve Registry.builtin = .error (.unknownFunction "f") :=
  rfl

end Reshape
