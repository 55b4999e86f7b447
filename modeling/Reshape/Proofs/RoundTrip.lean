import Reshape.Example.Specs
import Reshape.Proofs.Outcomes
import Reshape.Proofs.Walk

/-!
# There and back

A record mapped forward and then in reverse gives its declared part: the fields of the spec in the
order of the spec, each with the value it had, and under rules inside a rule again the declared
part. This needs targets of which none comes twice, and transforms that are undone by those of the
other direction without hiding an array or a null from them.

## Main definitions

* `Mapping.project`: the declared part of a record
* `Transform.Undoes`: what a pair of transforms must satisfy
* `Mapping.Reversible`: every pair of a spec does, at every level

## Main results

* `Mapping.get?_of_walk`: what is found in a record that rules have written
* `Mapping.walk_eq_ok`: what rules write that all answer
* `Mapping.walk_back`: rules that each take back what they have made
* `Mapper.mapReverse_map`: the way there and back
-/

namespace Reshape

/-! ### The declared part of a record -/

namespace Value

/-- The fields of a record changed; another value is kept. -/
def mapFields (f : Fields Value → Fields Value) : Value → Value
  | object fields => object (f fields)
  | v => v

/-- Each element of an array changed, and any other value as a whole. -/
def mapItems (f : Value → Value) : Value → Value
  | array items => array (items.map f)
  | v => f v

theorem mapItems_of_ne {f : Value → Value} {v : Value} (h : v.kind ≠ .array) :
    v.mapItems f = f v := by
  cases v with
  | array items => exact absurd rfl h
  | _ => rfl

theorem mapItems_id (v : Value) : v.mapItems id = v := by
  cases v with
  | array items => rw [mapItems, List.map_id]
  | _ => rfl

end Value

namespace Rule

variable {φ : Type}

mutual

/-- The declared part of the value of a rule's field. -/
def project : Rule φ → Value → Value
  | copy _, v => v
  | convert _ _ _ _, v => v
  | nest _ _ rules, v => v.mapItems (Value.mapFields (projectAll rules))
termination_by structural rule => rule

/-- The declared part of the fields of a record, in the order of the rules. -/
def projectAll : List (String × Rule φ) → Fields Value → Fields Value
  | [], _ => []
  | (field, rule) :: rest, record =>
    match Fields.get? record field with
    | none => projectAll rest record
    | some v => (field, rule.project v) :: projectAll rest record
termination_by structural rules => rules

end

end Rule

namespace Mapping

variable {φ : Type}

/-- **The declared part of a record**: the fields that the mapping declares, in its order. Values
are kept, except that under rules inside a rule a record, or each record of an array, is restricted
to its own declared part. -/
def project (mapping : Mapping φ) : Value → Value :=
  Value.mapFields (Rule.projectAll mapping)

theorem projectAll_eq_filterMap (mapping : Mapping φ) (record : Fields Value) :
    Rule.projectAll mapping record = mapping.filterMap fun entry =>
      (Fields.get? record entry.1).map fun v => (entry.1, entry.2.project v) := by
  induction mapping with
  | nil => rfl
  | cons entry rest ih =>
    rw [Rule.projectAll, List.filterMap_cons, ih]
    cases Fields.get? record entry.1 <;> rfl

theorem mem_keys_of_project {mapping : Mapping φ} {record : Fields Value} {key : String}
    (h : key ∈ Fields.keys (Rule.projectAll mapping record)) : key ∈ Fields.keys mapping := by
  rw [projectAll_eq_filterMap] at h
  obtain ⟨entry, hm, rfl⟩ := List.mem_map.mp h
  obtain ⟨entry', hm', he⟩ := List.mem_filterMap.mp hm
  obtain ⟨v, -, rfl⟩ := Option.map_eq_some_iff.mp he
  exact Fields.mem_keys_of_mem hm'

/-- The declared part has no field twice if the mapping has none. -/
theorem distinct_projectAll {mapping : Mapping φ} (hd : Fields.Distinct mapping)
    (record : Fields Value) : Fields.Distinct (Rule.projectAll mapping record) := by
  induction mapping with
  | nil => exact List.nodup_nil
  | cons entry rest ih =>
    obtain ⟨hn, hr⟩ := List.nodup_cons.mp hd
    rw [Rule.projectAll]
    cases Fields.get? record entry.1 with
    | none => exact ih hr
    | some v => exact List.nodup_cons.mpr ⟨fun h => hn (mem_keys_of_project h), ih hr⟩

end Mapping

/-! ### Transforms that are undone -/

/-- **A pair of transforms** in which one undoes the other. What the first makes of a value that is
no array must be no array either, for it would be taken apart on the way back; and what it makes of
a value that is not null must not be null where null goes past the other. -/
structure Transform.Undoes (grain : Grain) (there back : Transform) : Prop where
  undone : ∀ x y, (there x).outcome = .ok y → (back y).outcome = .ok x
  array : ∀ x y, (there x).outcome = .ok y → x.kind ≠ .array → y.kind ≠ .array
  null : grain = .elements → ∀ x y, (there x).outcome = .ok y → x.kind ≠ .null → y.kind ≠ .null

/-- Every pair of transforms is undone, at every level. -/
def Mapping.Reversible (spec : Spec) : Prop :=
  spec.Everywhere fun level => ∀ field grain target there back,
    (field, .convert grain target there back) ∈ level → Transform.Undoes grain there back

namespace Run

variable {f g : Transform} {p : Value → Value} {v w : Value}

/-- What is called on elements is undone by what is called on elements, if arrays stay apart from
other values. -/
theorem onElements_back (hb : ∀ x y, (f x).outcome = .ok y → (g y).outcome = .ok (p x))
    (ha : ∀ x y, (f x).outcome = .ok y → x.kind ≠ .array → y.kind ≠ .array)
    (h : (onElements f v).outcome = .ok w) :
    (onElements g w).outcome = .ok (v.mapItems p) := by
  by_cases hv : v.kind = .array
  · cases v with
    | array items =>
      -- Each element is taken there and back.
      obtain ⟨ws, hws, rfl⟩ := map_eq_ok_iff.mp h
      refine map_eq_ok_iff.mpr ⟨items.map p, each_eq_ok_iff.mpr ?_, rfl⟩
      rw [List.forall₂_map_right_iff]
      exact ((each_eq_ok_iff.mp hws).imp hb).flip
    | _ => exact nomatch hv
  · have hf : (f v).outcome = .ok w := by
      cases v with
      | array items => exact absurd rfl hv
      | _ => exact h
    -- The value has become no array, and is not taken apart on the way back.
    have hw := ha v w hf hv
    rw [Value.mapItems_of_ne hv, ← hb v w hf]
    cases w with
    | array items => exact absurd rfl hw
    | _ => rfl

/-- What null goes past is undone by what null goes past, if null stays apart from other values. -/
theorem pastNull_back (hp : p .null = .null)
    (hb : ∀ x y, (f x).outcome = .ok y → (g y).outcome = .ok (p x))
    (hn : ∀ x y, (f x).outcome = .ok y → x.kind ≠ .null → y.kind ≠ .null)
    (h : (pastNull f v).outcome = .ok w) : (pastNull g w).outcome = .ok (p v) := by
  by_cases hv : v.kind = .null
  · cases v with
    | null =>
      obtain rfl := Except.ok.inj h
      rw [hp]
      rfl
    | _ => exact nomatch hv
  · have hf : (f v).outcome = .ok w := by
      cases v with
      | null => exact absurd rfl hv
      | _ => exact h
    -- The value has not become null, and does not go past the transform on the way back.
    have hw := hn v w hf hv
    rw [← hb v w hf]
    cases w with
    | null => exact absurd rfl hw
    | _ => rfl

/-- Calling a transform on elements keeps null apart from other values if the transform does. -/
theorem onElements_ne_null
    (hn : ∀ x y, (f x).outcome = .ok y → x.kind ≠ .null → y.kind ≠ .null) {x y : Value}
    (h : (onElements f x).outcome = .ok y) (hx : x.kind ≠ .null) : y.kind ≠ .null := by
  cases x with
  | array items =>
    obtain ⟨ys, -, rfl⟩ := map_eq_ok_iff.mp h
    exact Kind.noConfusion
  | _ => exact hn _ y h hx

end Run

/-! ### What rules write -/

namespace Mapping

variable {direction : Direction} {act : Rule Transform → Transform} {rules : Mapping Transform}
  {record output out : Fields Value}

/-- A field that no rule writes is left as it was. -/
theorem get?_of_walk_of_not_mem {key : String}
    (h : (rules.walk direction act record output).outcome = .ok out)
    (hk : key ∉ rules.map (name direction.reversed)) :
    Fields.get? out key = Fields.get? output key := by
  induction rules generalizing output with
  | nil =>
    obtain rfl := Except.ok.inj h
    rfl
  | cons entry rest ih =>
    simp only [List.map_cons, List.mem_cons, not_or] at hk
    rw [walk] at h
    cases hv : Fields.get? record (name direction entry) with
    | none =>
      rw [hv] at h
      exact ih h hk.2
    | some v =>
      rw [hv] at h
      obtain ⟨w, -, hw⟩ := Run.bind_eq_ok_iff.mp h
      rw [ih hw hk.2, Fields.get?_insert_of_ne _ _ (Ne.symm hk.1)]

/-- A field that one rule writes holds what the rule makes of the value it takes; it is left as it
was if the record lacks that value. -/
theorem get?_of_walk (h : (rules.walk direction act record output).outcome = .ok out)
    (hd : (rules.map (name direction.reversed)).Nodup) {entry : String × Rule Transform}
    (hm : entry ∈ rules) :
    match Fields.get? record (name direction entry) with
    | none => Fields.get? out (name direction.reversed entry) =
        Fields.get? output (name direction.reversed entry)
    | some v => ∃ w, (act entry.2 v).outcome = .ok w ∧
        Fields.get? out (name direction.reversed entry) = some w := by
  induction rules generalizing output with
  | nil => exact absurd hm List.not_mem_nil
  | cons head rest ih =>
    obtain ⟨hh, hr⟩ := List.nodup_cons.mp hd
    rw [walk] at h
    rcases List.mem_cons.mp hm with rfl | hm
    · -- The rule itself: no rule after it writes its field again.
      cases hv : Fields.get? record (name direction entry) with
      | none =>
        rw [hv] at h
        exact get?_of_walk_of_not_mem h hh
      | some v =>
        rw [hv] at h
        obtain ⟨w, hw, hrest⟩ := Run.bind_eq_ok_iff.mp h
        refine ⟨w, hw, ?_⟩
        rw [get?_of_walk_of_not_mem hrest hh, Fields.get?_insert_self]
    · -- A rule before it: what that one writes is under another name.
      cases hv : Fields.get? record (name direction head) with
      | none =>
        rw [hv] at h
        exact ih h hr hm
      | some v =>
        rw [hv] at h
        obtain ⟨w, -, hrest⟩ := Run.bind_eq_ok_iff.mp h
        have hne : name direction.reversed head ≠ name direction.reversed entry :=
          fun e => hh (e ▸ List.mem_map_of_mem hm)
        have hi := ih hrest hr hm
        rwa [Fields.get?_insert_of_ne _ _ hne] at hi

/-- Rules that all answer set their fields in order, each that finds a value. -/
theorem walk_eq_ok {f : String × Rule Transform → Option Value}
    (h : ∀ entry ∈ rules, match Fields.get? record (name direction entry) with
      | none => f entry = none
      | some v => ∃ w, (act entry.2 v).outcome = .ok w ∧ f entry = some w) :
    (rules.walk direction act record output).outcome =
      .ok (Fields.insertAll output (rules.filterMap fun entry =>
        (f entry).map fun w => (name direction.reversed entry, w))) := by
  induction rules generalizing output with
  | nil => rfl
  | cons entry rest ih =>
    have hr := fun output => @ih output fun entry hm => h entry (List.mem_cons_of_mem _ hm)
    have he := h entry List.mem_cons_self
    rw [walk, List.filterMap_cons]
    cases hv : Fields.get? record (name direction entry) with
    | none =>
      rw [hv] at he
      rw [show f entry = none from he]
      exact hr output
    | some v =>
      rw [hv] at he
      obtain ⟨w, hw, hf⟩ := he
      rw [hf]
      exact (Run.bind_outcome_of_ok hw _).trans (hr _)

/-- If each rule takes back what it has made, all of them take what they have written back to the
declared part of the record. -/
theorem walk_back {spec : Spec} (hd : Fields.Distinct spec) (ht : spec.targets.Nodup)
    (hout : (spec.walk .forward (Rule.act .forward) record []).outcome = .ok out)
    (hb : ∀ entry ∈ spec, ∀ v w, (entry.2.act .forward v).outcome = .ok w →
      (entry.2.act .reverse w).outcome = .ok (entry.2.project v)) :
    (spec.walk .reverse (Rule.act .reverse) out []).outcome =
      .ok (Rule.projectAll spec record) := by
  -- Each target holds what its rule has made of the field, and is taken back to the declared part
  -- of the field; a target is missing where the field was.
  have hback : ∀ entry ∈ spec, match Fields.get? out (name .reverse entry) with
      | none => (Fields.get? record entry.1).map entry.2.project = none
      | some w => ∃ v, (entry.2.act .reverse w).outcome = .ok v ∧
          (Fields.get? record entry.1).map entry.2.project = some v := by
    intro entry hm
    have hf := get?_of_walk hout ht hm
    rw [name, Direction.pick_forward] at hf
    cases hv : Fields.get? record entry.1 with
    | none =>
      rw [hv] at hf
      rw [show Fields.get? out (name .reverse entry) = none from hf]
      rfl
    | some v =>
      rw [hv] at hf
      obtain ⟨w, hw, hg⟩ := hf
      rw [show Fields.get? out (name .reverse entry) = some w from hg]
      exact ⟨entry.2.project v, hb entry hm v w hw, rfl⟩
  have hp : (spec.filterMap fun entry =>
      ((Fields.get? record entry.1).map entry.2.project).map fun w =>
        (name Direction.reverse.reversed entry, w)) = Rule.projectAll spec record := by
    rw [projectAll_eq_filterMap]
    refine List.filterMap_congr fun entry _ => ?_
    rw [Option.map_map]
    rfl
  rw [walk_eq_ok hback, hp]
  exact congrArg Except.ok (Fields.ofList_of_distinct (distinct_projectAll hd record))

end Mapping

/-! ### There and back -/

namespace Compiled

variable {spec : Spec} {x y : Value}

theorem kind_of_apply {compiled : Compiled Transform} {direction : Direction}
    (h : (compiled.apply direction x).outcome = .ok y) :
    x.kind = .object ∧ y.kind = .object := by
  rw [apply_eq_throughSide] at h
  cases x with
  | object record =>
    obtain ⟨out, -, rfl⟩ := Run.map_eq_ok_iff.mp h
    exact ⟨rfl, rfl⟩
  | _ => exact nomatch h

/-- What a rule makes of a value is undone by the rule in reverse, if its transforms are undone and
the mapping inside it is. -/
theorem act_reverse_of_act_forward {rule : Rule Transform}
    (hu : ∀ grain target there back, rule = .convert grain target there back →
      Transform.Undoes grain there back)
    (hi : ∀ inner, rule.nested? = some inner → ∀ x y,
      ((ofMapping inner).apply .forward x).outcome = .ok y →
        ((ofMapping inner).apply .reverse y).outcome = .ok (inner.project x))
    (h : (rule.act .forward x).outcome = .ok y) :
    (rule.act .reverse y).outcome = .ok (rule.project x) := by
  rcases rule with target | ⟨_ | _, target, there, back⟩ | ⟨arity, target, rules⟩
  · -- an alias: the value is the same all the way
    obtain rfl := Except.ok.inj h
    rfl
  · -- a transform of whole values, on null too
    have hu := hu _ _ _ _ rfl
    rw [Rule.project, ← Value.mapItems_id x]
    exact Run.onElements_back hu.undone hu.array h
  · -- a transform of elements, which null goes past in both directions
    have hu := hu _ _ _ _ rfl
    refine Run.pastNull_back (p := id) rfl (fun x y hxy => ?_)
      (fun x y => Run.onElements_ne_null (hu.null rfl)) h
    rw [id, ← Value.mapItems_id x]
    exact Run.onElements_back hu.undone hu.array hxy
  · -- rules inside: what they make of a record is a record, neither an array nor null
    have hi := hi rules rfl
    refine Run.pastNull_back (p := Rule.project (.nest arity target rules)) rfl
      (fun x y hxy => ?_) (fun x y => Run.onElements_ne_null fun x y hxy _ => ?_) h
    · exact Run.onElements_back hi (fun x y hxy _ => by rw [(kind_of_apply hxy).2]; exact nofun) hxy
    · rw [(kind_of_apply hxy).2]
      exact nofun

/-- What the compiled mapping makes of a record is taken back to the declared part of it. -/
theorem apply_reverse_of_apply_forward (hk : spec.Keyed) (ho : spec.OneToOne)
    (hu : spec.Reversible) (h : ((ofMapping spec).apply .forward x).outcome = .ok y) :
    ((ofMapping spec).apply .reverse y).outcome = .ok (spec.project x) := by
  induction spec using Mapping.induction generalizing x y with
  | level spec ih =>
    rw [apply_eq_walk (Mapping.nodup_names hk ho .forward)] at h
    rw [apply_eq_walk (Mapping.nodup_names hk ho .reverse)]
    cases x with
    | object record =>
      obtain ⟨out, hout, rfl⟩ := Run.map_eq_ok_iff.mp h
      refine Run.map_eq_ok_iff.mpr ⟨_, Mapping.walk_back hk.here ho.here hout ?_, rfl⟩
      intro entry hm v w hw
      refine act_reverse_of_act_forward ?_ ?_ hw
      · rintro grain target there back he
        exact hu.here entry.1 grain target there back (he ▸ hm)
      · intro inner hi x y hxy
        have hin : Mapping.Inner inner spec := ⟨entry, hm, hi⟩
        exact ih inner hin (hk.inner hin) (ho.inner hin) (hu.inner hin) hxy
    | _ => exact nomatch h

end Compiled

namespace Example

theorem spoken_eq_ok {x y : Value} (h : (spoken x).outcome = .ok y) :
    ∃ b, x = .bool b ∧ y = .string (if b then "yes" else "no") := by
  cases x with
  | bool b => exact ⟨b, rfl, (Except.ok.inj h).symm⟩
  | _ => exact nomatch h

theorem undoes_spoken (grain : Grain) : Transform.Undoes grain spoken heard where
  undone x y h := by
    obtain ⟨b, rfl, rfl⟩ := spoken_eq_ok h
    cases b <;> rfl
  array x y h _ := by
    obtain ⟨b, rfl, rfl⟩ := spoken_eq_ok h
    exact nofun
  null _ x y h _ := by
    obtain ⟨b, rfl, rfl⟩ := spoken_eq_ok h
    exact nofun

/-- Every pair of transforms of the poll is the same, and undone. -/
theorem reversible_poll : poll.Reversible := by
  simp only [Mapping.Reversible, Mapping.Everywhere, Rule.AllWithin, Rule.Within, poll,
    List.mem_cons, List.not_mem_nil, Prod.mk.injEq, Rule.convert.injEq, reduceCtorEq, and_false,
    or_false, false_or, and_true, true_and]
  constructor
  · rintro _ grain _ _ _ (⟨_, _, _, rfl, rfl⟩ | ⟨_, _, _, rfl, rfl⟩)
    · exact undoes_spoken grain
    · exact undoes_spoken grain
  · rintro _ grain _ _ _ ⟨_, _, _, rfl, rfl⟩
    exact undoes_spoken grain

end Example

namespace Mapper

open Example

/-- **There and back.** When a record has been mapped forward by a spec without colliding targets
whose transforms are undone by those of the other direction, mapping the output in reverse gives the
declared part of the record: the same fields, in the order of the spec, with the same values. -/
theorem mapReverse_map (spec : Spec) (hk : spec.Keyed) (ho : spec.OneToOne)
    (hu : spec.Reversible) (x y : Value) (h : ((ofSpec spec).value.map x).outcome = .ok y) :
    ((ofSpec spec).value.mapReverse y).outcome = .ok (spec.project x) :=
  Compiled.apply_reverse_of_apply_forward hk ho hu h

/-- The record of the poll loses the field that the poll does not declare. -/
theorem mapReverse_map_poll : poll.Keyed ∧ poll.OneToOne ∧ poll.Reversible ∧
    ((ofSpec poll).value.map ballot).outcome = .ok counted ∧
    ((ofSpec poll).value.mapReverse counted).outcome = .ok (poll.project ballot) :=
  ⟨by decide, by decide, reversible_poll, rfl,
    mapReverse_map poll (by decide) (by decide) reversible_poll ballot counted rfl⟩

end Mapper

end Reshape
