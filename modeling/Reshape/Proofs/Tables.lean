import Reshape.Mapper
import Reshape.Proofs.Fields
import Reshape.Proofs.Levels

/-!
# Tables and rules

What the tables of a compiled mapping hold under a name, told from the rules it was compiled from.
When several rules have one name, each table keeps the entry of the last rule that has one there;
since the tables are asked in a fixed order, the value is converted by the last rule of the highest
rank, which need not be the last rule.

## Main definitions

* `Direction.pick`: what stands on the input's side of a pair
* `Link.table`: the table of a direction
* `Holding`: what the tables hold under a name
* `Mapping.inCharge?`: the rule that converts the values of a name
* `Rule.act`: what a rule by itself does to the value of its field

## Main results

* `Link.get?_table_cons`: what a table finds, rule by rule
* `Compiled.holding_inCharge?`: the tables serve the rule in charge
* `Compiled.convert_inCharge`: a value is converted by the rule in charge of its name
-/

namespace Reshape

/-! ### Directions -/

namespace Direction

/-- The first of a pair when mapping forward, the second when mapping in reverse. -/
def pick {α : Type} (direction : Direction) (there back : α) : α :=
  match direction with
  | forward => there
  | reverse => back

variable {α : Type} (there back : α)

@[simp] theorem pick_forward : forward.pick there back = there := rfl

@[simp] theorem pick_reverse : reverse.pick there back = back := rfl

@[simp] theorem pick_self (direction : Direction) (a : α) : direction.pick a a = a := by
  cases direction <;> rfl

@[simp] theorem pick_reversed (direction : Direction) :
    direction.reversed.pick there back = direction.pick back there := by
  cases direction <;> rfl

end Direction

/-! ### The entries of a table -/

namespace Link

variable {α φ : Type}

/-- The table of a direction. -/
def table (direction : Direction) (links : List (Link α)) : Fields α :=
  Fields.ofList (links.map fun link =>
    (direction.pick link.field link.target, direction.pick link.there link.back))

/-- A way to make links of rules under the names of the rule. -/
def Named (make : String × Rule φ → Option (Link α)) : Prop :=
  ∀ entry link, make entry = some link → link.field = entry.1 ∧ link.target = entry.2.target

end Link

namespace Mapping

variable {φ : Type}

/-- The name of a rule's field in the input of a direction. -/
def name (direction : Direction) (entry : String × Rule φ) : String :=
  direction.pick entry.1 entry.2.target

/-- The link of the mapping inside a rule. -/
def child? (entry : String × Rule φ) : Option (Link (Compiled φ)) :=
  entry.2.nested?.map fun rules =>
    ⟨entry.1, entry.2.target, Compiled.ofMapping rules, Compiled.ofMapping rules⟩

theorem links_eq_filterMap (mapping : Mapping φ) :
    Compiled.links mapping = mapping.filterMap child? := by
  induction mapping with
  | nil => rfl
  | cons entry rest ih =>
    obtain ⟨field, rule⟩ := entry
    cases rule with
    | copy target => exact ih
    | convert grain target there back => exact ih
    | nest arity target rules => exact congrArg (_ :: ·) ih

theorem child?_named : Link.Named (child? (φ := φ)) := by
  rintro entry link h
  obtain ⟨rules, -, rfl⟩ := Option.map_eq_some_iff.mp h
  exact ⟨rfl, rfl⟩

theorem converter?_named (grain : Grain) : Link.Named (converter? (φ := φ) grain) := by
  rintro ⟨field, rule⟩ link h
  cases rule with
  | copy target => exact nomatch h
  | convert grain' target there back =>
    simp only [converter?, Option.ite_none_right_eq_some, Option.some.injEq] at h
    obtain ⟨-, rfl⟩ := h
    exact ⟨rfl, rfl⟩
  | nest arity target rules => exact nomatch h

end Mapping

namespace Link

variable {α φ : Type} {make : String × Rule φ → Option (Link α)}

/-- In a table the entry of a rule counts only if no later rule has an entry of its name. -/
theorem get?_table_cons (hn : Named make) (direction : Direction) (entry : String × Rule φ)
    (rest : Mapping φ) (key : String) :
    Fields.get? (table direction ((entry :: rest).filterMap make)) key =
      (Fields.get? (table direction (rest.filterMap make)) key).or
        (if Mapping.name direction entry = key then
          (make entry).map fun link => direction.pick link.there link.back
        else none) := by
  cases hl : make entry with
  | none =>
    -- The rule has no entry in this table.
    simp [List.filterMap_cons_none hl]
  | some link =>
    obtain ⟨hf, ht⟩ := hn entry link hl
    have hk : Mapping.name direction entry = direction.pick link.field link.target := by
      rw [Mapping.name, hf, ht]
    rw [List.filterMap_cons_some hl, hk]
    exact Fields.get?_ofList_cons _ _ key

end Link

/-! ### What the tables hold under a name -/

/-- What the tables of a direction hold under a name. -/
structure Holding (φ : Type) where
  nested : Option (Compiled φ)
  element : Option φ
  scalar : Option φ

namespace Holding

variable {φ : Type}

/-- Nothing. -/
def empty : Holding φ := ⟨none, none, none⟩

/-- What one holds, and what the other holds besides. -/
def or (held more : Holding φ) : Holding φ :=
  ⟨held.nested.or more.nested, held.element.or more.element, held.scalar.or more.scalar⟩

@[simp] theorem or_empty (held : Holding φ) : held.or empty = held := by
  simp [or, empty]

end Holding

/-- What the tables of a side hold under a name. -/
def Side.holding {φ : Type} (side : Side φ (Compiled φ)) (key : String) : Holding φ :=
  ⟨Fields.get? side.nested key, Fields.get? side.element key, Fields.get? side.scalar key⟩

namespace Rule

variable {φ : Type}

/-- The transform of a rule that converts at a grain. -/
def transform? (direction : Direction) (grain : Grain) : Rule φ → Option φ
  | convert grain' _ there back =>
    if grain' = grain then some (direction.pick there back) else none
  | _ => none

/-- What a rule puts into the tables under its name. -/
def holding (direction : Direction) (rule : Rule φ) : Holding φ where
  nested := rule.nested?.map Compiled.ofMapping
  element := rule.transform? direction .elements
  scalar := rule.transform? direction .whole

end Rule

namespace Compiled

variable {φ : Type}

theorem side_ofMapping (direction : Direction) (mapping : Mapping φ) :
    (ofMapping mapping).side direction =
      { rename := Link.table direction (Mapping.renames mapping)
        scalar := Link.table direction (mapping.filterMap (Mapping.converter? .whole))
        element := Link.table direction (mapping.filterMap (Mapping.converter? .elements))
        nested := Link.table direction (mapping.filterMap Mapping.child?) } := by
  rw [← Mapping.links_eq_filterMap]
  cases direction <;> rfl

theorem pick_child? (direction : Direction) (entry : String × Rule φ) :
    ((Mapping.child? entry).map fun link => direction.pick link.there link.back) =
      entry.2.nested?.map ofMapping := by
  rw [Mapping.child?, Option.map_map]
  cases direction <;> rfl

theorem pick_converter? (direction : Direction) (grain : Grain) (entry : String × Rule φ) :
    ((Mapping.converter? grain entry).map fun link => direction.pick link.there link.back) =
      entry.2.transform? direction grain := by
  obtain ⟨field, rule⟩ := entry
  cases rule with
  | copy target => rfl
  | convert grain' target there back =>
    by_cases h : grain' = grain <;> simp [Mapping.converter?, Rule.transform?, h]
  | nest arity target rules => rfl

/-- The tables hold under a name what the later rules of the name put there, and besides it what the
first rule does. -/
theorem holding_cons (direction : Direction) (entry : String × Rule φ) (rest : Mapping φ)
    (key : String) :
    ((ofMapping (entry :: rest)).side direction).holding key =
      (((ofMapping rest).side direction).holding key).or
        (if Mapping.name direction entry = key then entry.2.holding direction
        else Holding.empty) := by
  simp only [side_ofMapping, Side.holding,
    Link.get?_table_cons Mapping.child?_named, Link.get?_table_cons (Mapping.converter?_named _),
    pick_child?, pick_converter?]
  by_cases h : Mapping.name direction entry = key
  · simp only [if_pos h]
    rfl
  · simp only [if_neg h]
    rfl

end Compiled

/-! ### The rule in charge of a name -/

namespace Rule

variable {φ : Type}

/-- Which of two rules of one name is asked first: the one of the higher rank. -/
def rank : Rule φ → Nat
  | copy _ => 0
  | convert .whole _ _ _ => 1
  | convert .elements _ _ _ => 2
  | nest _ _ _ => 3

/-- **What a rule by itself does** to the value of its field. -/
def act (direction : Direction) : Rule Transform → Transform
  | copy _ => fun v => pure v
  | convert .whole _ there back => Run.onElements (direction.pick there back)
  | convert .elements _ there back => Run.pastNull (Run.onElements (direction.pick there back))
  | nest _ _ rules => Run.pastNull (Run.onElements ((Compiled.ofMapping rules).apply direction))

end Rule

namespace Mapping

variable {φ : Type}

/-- **The rule in charge** of a name: the last rule of the name, unless one before it is of a higher
rank. -/
def inCharge? (direction : Direction) : Mapping φ → String → Option (Rule φ)
  | [], _ => none
  | entry :: rest, key =>
    if name direction entry = key then
      match inCharge? direction rest key with
      | none => some entry.2
      | some later => some (if later.rank < entry.2.rank then entry.2 else later)
    else inCharge? direction rest key

/-- The rule in charge is one of the rules. -/
theorem exists_mem_of_inCharge? {direction : Direction} {mapping : Mapping φ} {key : String}
    {rule : Rule φ} (h : mapping.inCharge? direction key = some rule) :
    ∃ field, (field, rule) ∈ mapping := by
  induction mapping generalizing rule with
  | nil => exact nomatch h
  | cons entry rest ih =>
    have hlater {later : Rule φ} (hl : inCharge? direction rest key = some later) :
        ∃ field, (field, later) ∈ entry :: rest := by
      obtain ⟨field, hm⟩ := ih hl
      exact ⟨field, List.mem_cons_of_mem _ hm⟩
    rw [inCharge?] at h
    split at h
    · cases hc : inCharge? direction rest key with
      | none =>
        rw [hc] at h
        obtain rfl := Option.some.inj h
        exact ⟨entry.1, List.mem_cons_self⟩
      | some later =>
        rw [hc] at h
        obtain rfl := Option.some.inj h
        split
        · exact ⟨entry.1, List.mem_cons_self⟩
        · exact hlater hc
    · exact hlater h

end Mapping

namespace Holding

variable {φ : Type} {direction : Direction}

/-- What is held serves a rule if it is what the rule put there, up to what is not asked for because
the rule's own entry comes first. -/
def Serves (direction : Direction) (held : Holding φ) (rule : Rule φ) : Prop :=
  match rule with
  | .copy _ => held = empty
  | .convert .whole _ there back => held = ⟨none, none, some (direction.pick there back)⟩
  | .convert .elements _ there back =>
    held.nested = none ∧ held.element = some (direction.pick there back)
  | .nest _ _ rules => held.nested = some (Compiled.ofMapping rules)

theorem serves_holding (rule : Rule φ) : Serves direction (rule.holding direction) rule := by
  rcases rule with target | ⟨_ | _, target, there, back⟩ | ⟨arity, target, rules⟩ <;>
    simp [Serves, Rule.holding, Rule.nested?, Rule.transform?, empty]

/-- An earlier rule takes over from the later one if it is of a higher rank. -/
theorem Serves.or {held : Holding φ} {later : Rule φ} (h : Serves direction held later)
    (rule : Rule φ) :
    Serves direction (held.or (rule.holding direction))
      (if later.rank < rule.rank then rule else later) := by
  -- One case for each two of the four ranks: the later rule's own entries stay on top of those of
  -- the earlier one, and an entry of the earlier one counts if it is asked for before them.
  rcases rule with target | ⟨_ | _, target, there, back⟩ | ⟨arity, target, rules⟩ <;>
    rcases later with target' | ⟨_ | _, target', there', back'⟩ | ⟨arity', target', rules'⟩ <;>
    simp_all [Serves, Rule.rank, Rule.holding, Rule.nested?, Rule.transform?, empty, Holding.or]

end Holding

namespace Compiled

variable {φ : Type}

/-- The tables of a mapping serve the rule in charge of a name, and hold nothing under a name that
no rule has. -/
theorem holding_inCharge? (direction : Direction) (mapping : Mapping φ) (key : String) :
    match mapping.inCharge? direction key with
    | none => ((ofMapping mapping).side direction).holding key = Holding.empty
    | some rule => (((ofMapping mapping).side direction).holding key).Serves direction rule := by
  induction mapping with
  | nil => cases direction <;> rfl
  | cons entry rest ih =>
    rw [holding_cons, Mapping.inCharge?]
    by_cases hk : Mapping.name direction entry = key
    · rw [if_pos hk, if_pos hk]
      cases hc : Mapping.inCharge? direction rest key with
      | none =>
        -- No later rule has the name.
        rw [hc] at ih
        rw [ih]
        exact Holding.serves_holding entry.2
      | some later =>
        rw [hc] at ih
        exact Holding.Serves.or ih entry.2
    · -- A rule of another name adds nothing.
      rw [if_neg hk, if_neg hk, Holding.or_empty]
      exact ih

end Compiled

/-! ### Values are converted by the rule in charge -/

namespace Compiled

variable {direction : Direction} {side : Side Transform (Compiled Transform)} {key : String}

theorem get?_applyAll (direction : Direction) (entries : Fields (Compiled Transform))
    (key : String) :
    Fields.get? (applyAll direction entries) key =
      (Fields.get? entries key).map fun compiled => compiled.apply direction := by
  rw [applyAll_eq_map]
  exact Fields.get?_map (fun compiled => compiled.apply direction) entries key

theorem convert_eq_act {rule : Rule Transform} (h : (side.holding key).Serves direction rule) :
    side.convert (applyAll direction side.nested) key = rule.act direction := by
  funext v
  -- What is asked for first decides; what the tables hold besides is not looked at.
  have hn := get?_applyAll direction side.nested key
  rcases rule with target | ⟨_ | _, target, there, back⟩ | ⟨arity, target, rules⟩ <;>
    simp_all [Side.convert, Side.holding, Holding.Serves, Holding.empty, Rule.act]

/-- **A value is converted as the rule in charge of its name says.** -/
theorem convert_inCharge {mapping : Mapping Transform} {rule : Rule Transform}
    (h : mapping.inCharge? direction key = some rule) :
    ((ofMapping mapping).side direction).convert
        (applyAll direction ((ofMapping mapping).side direction).nested) key =
      rule.act direction := by
  have hs := holding_inCharge? direction mapping key
  rw [h] at hs
  exact convert_eq_act hs

end Compiled

end Reshape
