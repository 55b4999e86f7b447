import Reshape.Example.Definitions
import Reshape.Proofs.Tables

/-!
# What a compiled mapping holds

A mapping is compiled rule by rule: each rule registers its two names, and adds an entry to one
table of each direction, or to none. So what stands in a table under a name comes from the last rule
of that name that has an entry there, whatever other rules have the name.

## Main definitions

* `Compiled.declare`: the tables with one more rule
* `Mapping.Last`: the last rule of some sort
* `Fields.Records`: what a table holds, told from the rules
* `Compiled.Contents`: what all the tables of a mapping hold

## Main results

* `Compiled.ofMapping_concat`: a mapping is compiled rule by rule
* `Fields.Records.concat`: one more rule leaves each table a record of the rules
* `Compiled.contents_ofMapping`: what the tables of one level hold
* `Compiled.everywhere_contents`: what the tables hold at every level
-/

namespace Reshape

/-! ### Names in order of their first occurrence -/

/-- Names with one more name, unless it is among them. -/
def pushName (names : List String) (name : String) : List String :=
  if name ∈ names then names else names ++ [name]

theorem distinctNames_eq_eraseDups (names : List String) :
    distinctNames names = names.eraseDups := by
  rw [distinctNames, Fields.keys_ofList, Fields.keys, List.map_map]
  exact congrArg List.eraseDups (List.map_id names)

theorem distinctNames_of_nodup {names : List String} (h : names.Nodup) :
    distinctNames names = names := by
  have hk : Fields.keys (names.map fun name => (name, ())) = names := by
    rw [Fields.keys, List.map_map]
    exact List.map_id names
  have hd : Fields.Distinct (names.map fun name => (name, ())) := by rwa [Fields.Distinct, hk]
  rw [distinctNames, Fields.ofList_of_distinct hd, hk]

theorem distinctNames_concat (names : List String) (name : String) :
    distinctNames (names ++ [name]) = pushName (distinctNames names) name := by
  rw [distinctNames, List.map_append]
  exact (congrArg Fields.keys (Fields.ofList_concat _ (name, ()))).trans (Fields.keys_insert _ _ _)

variable {φ : Type}

/-! ### One more rule -/

namespace Side

/-- The tables of a direction with one more rule, whose field has the name `key` in the input and
`name` in the output. -/
def declare (side : Side φ (Compiled φ)) (key name : String) (held : Holding φ) :
    Side φ (Compiled φ) where
  rename := Fields.insert side.rename key name
  scalar := Fields.insert? side.scalar key held.scalar
  element := Fields.insert? side.element key held.element
  nested := Fields.insert? side.nested key held.nested

/-- The table of the transforms of a grain. -/
def transforms {μ : Type} (side : Side φ μ) : Grain → Fields φ
  | .whole => side.scalar
  | .elements => side.element

end Side

namespace Compiled

/-- **The tables with one more rule**. -/
def declare (compiled : Compiled φ) (entry : String × Rule φ) : Compiled φ where
  sourceKeys := pushName compiled.sourceKeys entry.1
  targetKeys := pushName compiled.targetKeys entry.2.target
  nestedTargetKeys :=
    if entry.2.nested?.isSome then pushName compiled.nestedTargetKeys entry.2.target
    else compiled.nestedTargetKeys
  forward := compiled.forward.declare entry.1 entry.2.target (entry.2.holding .forward)
  reverse := compiled.reverse.declare entry.2.target entry.1 (entry.2.holding .reverse)

theorem side_declare (compiled : Compiled φ) (entry : String × Rule φ) (direction : Direction) :
    (compiled.declare entry).side direction =
      (compiled.side direction).declare (Mapping.name direction entry)
        (Mapping.name direction.reversed entry) (entry.2.holding direction) := by
  cases direction <;> rfl

end Compiled

namespace Link

/-- One more rule sets its entry in a table, if it has one. -/
theorem table_concat {α : Type} {make : String × Rule φ → Option (Link α)} (hn : Named make)
    (direction : Direction) (mapping : Mapping φ) (entry : String × Rule φ) :
    table direction ((mapping ++ [entry]).filterMap make) =
      Fields.insert? (table direction (mapping.filterMap make)) (Mapping.name direction entry)
        ((make entry).map fun link => direction.pick link.there link.back) := by
  rw [List.filterMap_append]
  cases hl : make entry with
  | none => simp [hl, Fields.insert?]
  | some link =>
    obtain ⟨hf, ht⟩ := hn entry link hl
    rw [List.filterMap_cons_some hl, List.filterMap_nil, table, List.map_append, Mapping.name,
      ← hf, ← ht]
    exact Fields.ofList_concat _ _

theorem table_renames_concat (direction : Direction) (mapping : Mapping φ)
    (entry : String × Rule φ) :
    table direction (Mapping.renames (mapping ++ [entry])) =
      Fields.insert (table direction (Mapping.renames mapping)) (Mapping.name direction entry)
        (Mapping.name direction.reversed entry) := by
  rw [table, Mapping.renames, List.map_append, List.map_append]
  refine (Fields.ofList_concat _ _).trans ?_
  cases direction <;> rfl

end Link

namespace Compiled

theorem side_ofMapping_concat (direction : Direction) (mapping : Mapping φ)
    (entry : String × Rule φ) :
    (ofMapping (mapping ++ [entry])).side direction =
      ((ofMapping mapping).side direction).declare (Mapping.name direction entry)
        (Mapping.name direction.reversed entry) (entry.2.holding direction) := by
  simp only [side_ofMapping, Side.declare, Link.table_renames_concat,
    Link.table_concat Mapping.child?_named, Link.table_concat (Mapping.converter?_named _),
    pick_child?, pick_converter?]
  rfl

theorem nestedTargetKeys_eq (mapping : Mapping φ) :
    (ofMapping mapping).nestedTargetKeys =
      distinctNames (Mapping.targets (mapping.filter fun entry => entry.2.nested?.isSome)) := by
  refine congrArg distinctNames ?_
  rw [Mapping.links_eq_filterMap]
  induction mapping with
  | nil => rfl
  | cons entry rest ih =>
    obtain ⟨field, rule⟩ := entry
    cases rule with
    | nest arity target rules => exact congrArg (target :: ·) ih
    | _ => exact ih

/-- **A mapping is compiled rule by rule.** -/
theorem ofMapping_concat (mapping : Mapping φ) (entry : String × Rule φ) :
    ofMapping (mapping ++ [entry]) = (ofMapping mapping).declare entry := by
  have hs : (ofMapping (mapping ++ [entry])).sourceKeys =
      pushName (ofMapping mapping).sourceKeys entry.1 := by
    have h : Mapping.fields (mapping ++ [entry]) = mapping.fields ++ [entry.1] := List.map_append
    exact (congrArg distinctNames h).trans (distinctNames_concat _ _)
  have ht : (ofMapping (mapping ++ [entry])).targetKeys =
      pushName (ofMapping mapping).targetKeys entry.2.target := by
    have h : Mapping.targets (mapping ++ [entry]) = mapping.targets ++ [entry.2.target] :=
      List.map_append
    exact (congrArg distinctNames h).trans (distinctNames_concat _ _)
  have hn : (ofMapping (mapping ++ [entry])).nestedTargetKeys =
      ((ofMapping mapping).declare entry).nestedTargetKeys := by
    rw [declare, nestedTargetKeys_eq, nestedTargetKeys_eq, List.filter_append]
    cases h : entry.2.nested?.isSome with
    | true => simpa [h, Mapping.targets] using distinctNames_concat _ entry.2.target
    | false => simp [h]
  have hf := side_ofMapping_concat .forward mapping entry
  have hr := side_ofMapping_concat .reverse mapping entry
  rw [ofMapping, assemble, declare, Compiled.mk.injEq]
  exact ⟨hs, ht, hn, hf, hr⟩

end Compiled

/-! ### The last rule of some sort -/

namespace Mapping

variable {p : String × Rule φ → Prop} {mapping : Mapping φ} {entry : String × Rule φ}

/-- **The last rule** of some sort: it is of the sort, and no rule behind it is. -/
def Last (p : String × Rule φ → Prop) (mapping : Mapping φ) (entry : String × Rule φ) : Prop :=
  ∃ before after, mapping = before ++ entry :: after ∧ p entry ∧ ∀ later ∈ after, ¬ p later

theorem Last.mem (h : Last p mapping entry) : entry ∈ mapping := by
  obtain ⟨before, after, rfl, -, -⟩ := h
  exact List.mem_append_right _ List.mem_cons_self

theorem Last.of (h : Last p mapping entry) : p entry := by
  obtain ⟨-, -, -, hp, -⟩ := h
  exact hp

theorem not_last_nil : ¬ Last p [] entry := fun h => absurd h.mem List.not_mem_nil

theorem last_concat {head : String × Rule φ} :
    Last p (mapping ++ [head]) entry ↔
      p head ∧ entry = head ∨ ¬ p head ∧ Last p mapping entry := by
  constructor
  · rintro ⟨before, after, he, hp, ha⟩
    rcases List.eq_nil_or_concat after with rfl | ⟨after, last, rfl⟩
    · obtain ⟨rfl, rfl⟩ := List.append_singleton_inj.mp he
      exact .inl ⟨hp, rfl⟩
    · rw [List.concat_eq_append] at he ha
      rw [← List.cons_append, ← List.append_assoc] at he
      obtain ⟨rfl, rfl⟩ := List.append_singleton_inj.mp he
      refine .inr ⟨ha head (by simp), before, after, rfl, hp, fun later hl => ?_⟩
      exact ha later (by simp [hl])
  · rintro (⟨hp, rfl⟩ | ⟨hn, before, after, rfl, hp, ha⟩)
    · exact ⟨mapping, [], rfl, hp, by simp⟩
    · refine ⟨before, after ++ [head], by simp, hp, fun later hl => ?_⟩
      rcases List.mem_append.mp hl with hl | hl
      · exact ha later hl
      · rwa [List.mem_singleton.mp hl]

theorem exists_last_iff : (∃ entry, Last p mapping entry) ↔ ∃ entry ∈ mapping, p entry := by
  refine ⟨fun ⟨entry, h⟩ => ⟨entry, h.mem, h.of⟩, ?_⟩
  induction mapping using List.reverseRecOn with
  | nil => exact fun ⟨_, hm, _⟩ => absurd hm List.not_mem_nil
  | append_singleton mapping head ih =>
    rintro ⟨entry, hm, hp⟩
    by_cases hh : p head
    · exact ⟨head, last_concat.mpr (.inl ⟨hh, rfl⟩)⟩
    · -- The rule is not the one at the end, so there is a last one before that.
      have hm : entry ∈ mapping := by
        rcases List.mem_append.mp hm with hm | hm
        · exact hm
        · exact absurd (List.mem_singleton.mp hm ▸ hp) hh
      obtain ⟨last, hl⟩ := ih ⟨entry, hm, hp⟩
      exact ⟨last, last_concat.mpr (.inr ⟨hh, hl⟩)⟩

/-- Where no field comes twice, the only rule of a field is its last one. -/
theorem last_iff_get? (hd : Fields.Distinct mapping) {field : String} :
    Last (fun entry => entry.1 = field ∧ p entry) mapping entry ↔
      Fields.get? mapping field = some entry.2 ∧ entry.1 = field ∧ p entry := by
  constructor
  · intro h
    obtain ⟨rfl, hp⟩ := h.of
    exact ⟨Fields.get?_of_mem hd h.mem, rfl, hp⟩
  · rintro ⟨hg, rfl, hp⟩
    obtain ⟨before, after, rfl⟩ := List.append_of_mem (Fields.mem_of_get?_eq_some hg)
    refine ⟨before, after, rfl, ⟨rfl, hp⟩, fun later hl ⟨he, _⟩ => ?_⟩
    -- A later rule of the field would be a second one.
    have hn : (Fields.keys before ++ entry.1 :: Fields.keys after).Nodup := by
      simpa [Fields.Distinct, Fields.keys] using hd
    exact (List.nodup_cons.mp (List.nodup_append.mp hn).2.1).1 (he ▸ Fields.mem_keys_of_mem hl)

end Mapping

/-! ### What a table holds -/

namespace Fields

variable {α : Type} {mapping : Mapping φ} {key : String × Rule φ → String}
  {value : String × Rule φ → Option α} {table : Fields α}

/-- **A table is a record of the rules**: under a name it has the entry of the last rule of that
name that has one, and nothing if no rule has. -/
def Records (mapping : Mapping φ) (key : String × Rule φ → String)
    (value : String × Rule φ → Option α) (table : Fields α) : Prop :=
  ∀ name a, get? table name = some a ↔
    ∃ entry, Mapping.Last (fun entry => key entry = name ∧ (value entry).isSome) mapping entry ∧
      value entry = some a

theorem records_nil : Records [] key value [] :=
  fun _ _ => ⟨nofun, fun ⟨_, hl, _⟩ => absurd hl Mapping.not_last_nil⟩

/-- One more rule sets its entry, if it has one, in place of those of its name. -/
theorem Records.concat (h : Records mapping key value table) (head : String × Rule φ) :
    Records (mapping ++ [head]) key value (insert? table (key head) (value head)) := by
  intro name a
  rw [get?_insert?]
  simp only [Mapping.last_concat]
  by_cases hk : key head = name
  · cases hv : value head with
    | none =>
      -- The rule has no entry here: an earlier one counts.
      simpa [hk, hv] using h name a
    | some b => simp [hk, hv]
  · simpa [hk] using h name a

/-- A table has an entry under the names of the rules that have one. -/
theorem Records.contains_iff (h : Records mapping key value table) {name : String} :
    contains table name ↔ ∃ entry ∈ mapping, key entry = name ∧ (value entry).isSome := by
  rw [contains, Option.isSome_iff_exists, ← Mapping.exists_last_iff]
  constructor
  · rintro ⟨a, ha⟩
    obtain ⟨entry, hl, -⟩ := (h name a).mp ha
    exact ⟨entry, hl⟩
  · rintro ⟨entry, hl⟩
    obtain ⟨a, ha⟩ := Option.isSome_iff_exists.mp hl.of.2
    exact ⟨a, (h name a).mpr ⟨entry, hl, ha⟩⟩

/-- Where no field comes twice, the entry of a field is that of its rule. -/
theorem Records.get?_forward (h : Records mapping (Mapping.name .forward) value table)
    (hd : Distinct mapping) {field : String} {a : α} :
    get? table field = some a ↔
      ∃ rule, get? mapping field = some rule ∧ value (field, rule) = some a := by
  rw [h]
  simp only [Mapping.name, Direction.pick_forward, Mapping.last_iff_get? hd]
  constructor
  · rintro ⟨⟨field, rule⟩, ⟨hg, rfl, -⟩, hv⟩
    exact ⟨rule, hg, hv⟩
  · rintro ⟨rule, hg, hv⟩
    exact ⟨(field, rule), ⟨hg, rfl, by rw [hv]; rfl⟩, hv⟩

end Fields

/-- **What the tables of a direction hold**, told from the rules. -/
structure Side.Holds (direction : Direction) (mapping : Mapping φ)
    (side : Side φ (Compiled φ)) : Prop where
  keys : Fields.keys side.rename = (mapping.map (Mapping.name direction)).eraseDups
  rename : Fields.Records mapping (Mapping.name direction)
    (fun entry => some (Mapping.name direction.reversed entry)) side.rename
  transforms : ∀ grain, Fields.Records mapping (Mapping.name direction)
    (fun entry => entry.2.transform? direction grain) (side.transforms grain)
  nested : Fields.Records mapping (Mapping.name direction)
    (fun entry => entry.2.nested?.map Compiled.ofMapping) side.nested

theorem eraseDups_concat (names : List String) (name : String) :
    (names ++ [name]).eraseDups = pushName names.eraseDups name := by
  rw [← distinctNames_eq_eraseDups, distinctNames_concat, distinctNames_eq_eraseDups]

/-- The tables with one more rule hold what the rules and that rule say. -/
theorem Side.Holds.concat {direction : Direction} {mapping : Mapping φ}
    {side : Side φ (Compiled φ)} (h : side.Holds direction mapping) (entry : String × Rule φ) :
    (side.declare (Mapping.name direction entry) (Mapping.name direction.reversed entry)
      (entry.2.holding direction)).Holds direction (mapping ++ [entry]) where
  keys := by
    rw [List.map_append, List.map_singleton, eraseDups_concat, ← h.keys]
    exact Fields.keys_insert _ _ _
  rename := h.rename.concat entry
  transforms := by
    intro grain
    cases grain with
    | whole => exact (h.transforms .whole).concat entry
    | elements => exact (h.transforms .elements).concat entry
  nested := h.nested.concat entry

namespace Compiled

/-- The tables of a mapping hold what its rules say. -/
theorem holds_ofMapping (direction : Direction) (mapping : Mapping φ) :
    ((ofMapping mapping).side direction).Holds direction mapping := by
  induction mapping using List.reverseRecOn with
  | nil =>
    cases direction <;> exact
      ⟨rfl, Fields.records_nil, fun grain => by cases grain <;> exact Fields.records_nil,
        Fields.records_nil⟩
  | append_singleton mapping entry ih =>
    rw [ofMapping_concat, side_declare]
    exact ih.concat entry

/-! ### The contents of a compiled mapping -/

/-- **What a compiled mapping holds**, told from its rules. Forward, where no name comes twice, each
table has the entries of its own sort of rules. In reverse, a table has under a target the entry of
the last rule of its sort that has the target, even if a later rule of another sort has it too. -/
structure Contents (mapping : Mapping φ) (compiled : Compiled φ) : Prop where
  sourceKeys : compiled.sourceKeys = mapping.fields
  targetKeys : compiled.targetKeys = mapping.targets.eraseDups
  nestedTargetKeys : compiled.nestedTargetKeys =
    (Mapping.targets (mapping.filter fun entry => entry.2.nested?.isSome)).eraseDups
  keys_forward : Fields.keys compiled.forward.rename = mapping.fields
  rename_forward : ∀ field target, Fields.get? compiled.forward.rename field = some target ↔
    ∃ rule, Fields.get? mapping field = some rule ∧ rule.target = target
  transforms_forward : ∀ grain field f,
    Fields.get? (compiled.forward.transforms grain) field = some f ↔
      ∃ target back, Fields.get? mapping field = some (.convert grain target f back)
  nested_forward : ∀ field child, Fields.get? compiled.forward.nested field = some child ↔
    ∃ arity target rules, Fields.get? mapping field = some (.nest arity target rules) ∧
      child = ofMapping rules
  disjoint_forward : ∀ field,
    let tables := compiled.forward
    ¬ (Fields.contains tables.scalar field ∧ Fields.contains tables.element field) ∧
      ¬ (Fields.contains tables.scalar field ∧ Fields.contains tables.nested field) ∧
      ¬ (Fields.contains tables.element field ∧ Fields.contains tables.nested field)
  keys_reverse : Fields.keys compiled.reverse.rename = mapping.targets.eraseDups
  rename_reverse : ∀ target field, Fields.get? compiled.reverse.rename target = some field ↔
    ∃ rule, Mapping.Last (fun entry => entry.2.target = target) mapping (field, rule)
  rename_forward_of_reverse : ∀ target field,
    Fields.get? compiled.reverse.rename target = some field →
      Fields.get? compiled.forward.rename field = some target
  rename_reverse_injective : ∀ target target' field,
    Fields.get? compiled.reverse.rename target = some field →
      Fields.get? compiled.reverse.rename target' = some field → target = target'
  transforms_reverse : ∀ grain target f,
    Fields.get? (compiled.reverse.transforms grain) target = some f ↔
      ∃ field there,
        Mapping.Last (fun entry => entry.2.target = target ∧ entry.2.kind = grain.kind) mapping
          (field, .convert grain target there f)
  nested_reverse : ∀ target child, Fields.get? compiled.reverse.nested target = some child ↔
    ∃ field arity rules,
      Mapping.Last (fun entry => entry.2.target = target ∧ entry.2.nested?.isSome) mapping
          (field, .nest arity target rules) ∧
        child = ofMapping rules
  mem_nestedTargetKeys : ∀ target,
    target ∈ compiled.nestedTargetKeys ↔ Fields.contains compiled.reverse.nested target

end Compiled

namespace Rule

variable {rule : Rule φ} {direction : Direction}

theorem transform?_isSome {grain : Grain} :
    (rule.transform? direction grain).isSome ↔ rule.kind = grain.kind := by
  rcases rule with target | ⟨_ | _, target, there, back⟩ | ⟨_ | _, target, rules⟩ <;>
    cases grain <;> simp [transform?, kind, Grain.kind, Arity.kind]

theorem transform?_eq_some_iff {grain : Grain} {f : φ} :
    rule.transform? direction grain = some f ↔
      ∃ target there back, rule = .convert grain target there back ∧
        direction.pick there back = f := by
  cases rule with
  | copy target => simp [transform?]
  | nest arity target rules => simp [transform?]
  | convert grain' target there back =>
    constructor
    · intro h
      obtain ⟨rfl, hf⟩ := Option.ite_none_right_eq_some.mp h
      exact ⟨target, there, back, rfl, Option.some.inj hf⟩
    · rintro ⟨target, there, back, ⟨⟩, rfl⟩
      exact if_pos rfl

theorem nested?_eq_some_iff {inner : Mapping φ} :
    rule.nested? = some inner ↔ ∃ arity target, rule = .nest arity target inner := by
  cases rule with
  | copy target => simp [nested?]
  | convert grain target there back => simp [nested?]
  | nest arity target rules => simp [nested?]

end Rule

namespace Compiled

variable {mapping : Mapping φ}

/-! #### Mapping forward -/

theorem get?_rename_forward (hd : Fields.Distinct mapping) {field target : String} :
    Fields.get? (ofMapping mapping).forward.rename field = some target ↔
      ∃ rule, Fields.get? mapping field = some rule ∧ rule.target = target := by
  refine (((holds_ofMapping .forward mapping).rename).get?_forward hd).trans ?_
  simp [Mapping.name, Direction.reversed]

theorem get?_transforms_forward (hd : Fields.Distinct mapping) {grain : Grain} {field : String}
    {f : φ} :
    Fields.get? ((ofMapping mapping).forward.transforms grain) field = some f ↔
      ∃ target back, Fields.get? mapping field = some (.convert grain target f back) := by
  refine (((holds_ofMapping .forward mapping).transforms grain).get?_forward hd).trans ?_
  simp only [Rule.transform?_eq_some_iff, Direction.pick_forward]
  constructor
  · rintro ⟨_, hg, target, there, back, rfl, rfl⟩
    exact ⟨target, back, hg⟩
  · rintro ⟨target, back, hg⟩
    exact ⟨_, hg, target, f, back, rfl, rfl⟩

theorem get?_nested_forward (hd : Fields.Distinct mapping) {field : String} {child : Compiled φ} :
    Fields.get? (ofMapping mapping).forward.nested field = some child ↔
      ∃ arity target rules, Fields.get? mapping field = some (.nest arity target rules) ∧
        child = ofMapping rules := by
  refine (((holds_ofMapping .forward mapping).nested).get?_forward hd).trans ?_
  simp only [Option.map_eq_some_iff, Rule.nested?_eq_some_iff]
  constructor
  · rintro ⟨_, hg, rules, ⟨arity, target, rfl⟩, rfl⟩
    exact ⟨arity, target, rules, hg, rfl⟩
  · rintro ⟨arity, target, rules, hg, rfl⟩
    exact ⟨_, hg, rules, ⟨arity, target, rfl⟩, rfl⟩

/-- A field has one rule, so it has an entry in one of the three tables at most. -/
theorem disjoint_forward (hd : Fields.Distinct mapping) (field : String) :
    let tables := (ofMapping mapping).forward
    ¬ (Fields.contains tables.scalar field ∧ Fields.contains tables.element field) ∧
      ¬ (Fields.contains tables.scalar field ∧ Fields.contains tables.nested field) ∧
      ¬ (Fields.contains tables.element field ∧ Fields.contains tables.nested field) := by
  have hs {f : φ} := @get?_transforms_forward _ _ hd .whole field f
  have he {f : φ} := @get?_transforms_forward _ _ hd .elements field f
  have hn {child : Compiled φ} := @get?_nested_forward _ _ hd field child
  simp only [Side.transforms] at hs he
  simp only [Fields.contains, Option.isSome_iff_exists, hs, he, hn]
  refine ⟨?_, ?_, ?_⟩
  · rintro ⟨⟨_, _, _, h⟩, _, _, _, h'⟩
    exact nomatch h.symm.trans h'
  · rintro ⟨⟨_, _, _, h⟩, _, _, _, _, h', -⟩
    exact nomatch h.symm.trans h'
  · rintro ⟨⟨_, _, _, h⟩, _, _, _, _, h', -⟩
    exact nomatch h.symm.trans h'

/-! #### Mapping in reverse -/

theorem get?_rename_reverse {target field : String} :
    Fields.get? (ofMapping mapping).reverse.rename target = some field ↔
      ∃ rule, Mapping.Last (fun entry => entry.2.target = target) mapping (field, rule) := by
  refine ((holds_ofMapping .reverse mapping).rename target field).trans ?_
  simp [Mapping.name, Direction.reversed]

theorem get?_transforms_reverse {grain : Grain} {target : String} {f : φ} :
    Fields.get? ((ofMapping mapping).reverse.transforms grain) target = some f ↔
      ∃ field there,
        Mapping.Last (fun entry => entry.2.target = target ∧ entry.2.kind = grain.kind) mapping
          (field, .convert grain target there f) := by
  refine ((holds_ofMapping .reverse mapping).transforms grain target f).trans ?_
  simp only [Mapping.name, Direction.pick_reverse, Rule.transform?_isSome,
    Rule.transform?_eq_some_iff]
  constructor
  · rintro ⟨⟨field, rule⟩, hl, target', there, back, rfl, rfl⟩
    obtain ⟨rfl, -⟩ := hl.of
    exact ⟨field, there, hl⟩
  · rintro ⟨field, there, hl⟩
    exact ⟨_, hl, target, there, f, rfl, rfl⟩

theorem get?_nested_reverse {target : String} {child : Compiled φ} :
    Fields.get? (ofMapping mapping).reverse.nested target = some child ↔
      ∃ field arity rules,
        Mapping.Last (fun entry => entry.2.target = target ∧ entry.2.nested?.isSome) mapping
            (field, .nest arity target rules) ∧
          child = ofMapping rules := by
  refine ((holds_ofMapping .reverse mapping).nested target child).trans ?_
  simp only [Mapping.name, Direction.pick_reverse, Option.isSome_map, Option.map_eq_some_iff,
    Rule.nested?_eq_some_iff]
  constructor
  · rintro ⟨⟨field, rule⟩, hl, rules, ⟨arity, target', rfl⟩, rfl⟩
    obtain ⟨rfl, -⟩ := hl.of
    exact ⟨field, arity, rules, hl, rfl⟩
  · rintro ⟨field, arity, rules, hl, rfl⟩
    exact ⟨_, hl, rules, ⟨arity, target, rfl⟩, rfl⟩

/-- What is renamed in reverse is renamed back forward. -/
theorem get?_rename_forward_of_reverse (hd : Fields.Distinct mapping) {target field : String}
    (h : Fields.get? (ofMapping mapping).reverse.rename target = some field) :
    Fields.get? (ofMapping mapping).forward.rename field = some target := by
  obtain ⟨rule, hl⟩ := get?_rename_reverse.mp h
  exact (get?_rename_forward hd).mpr ⟨rule, Fields.get?_of_mem hd hl.mem, hl.of⟩

/-- The listed targets of nested mappings are those that have one in reverse. -/
theorem mem_nestedTargetKeys {target : String} :
    target ∈ (ofMapping mapping).nestedTargetKeys ↔
      Fields.contains (ofMapping mapping).reverse.nested target := by
  refine Iff.trans ?_ (holds_ofMapping .reverse mapping).nested.contains_iff.symm
  rw [nestedTargetKeys_eq, distinctNames_eq_eraseDups, List.mem_eraseDups]
  simp [Mapping.targets, Mapping.name, and_assoc, and_comm]

/-- **What the tables of one level hold.** -/
theorem contents_ofMapping (hd : Fields.Distinct mapping) :
    Contents mapping (ofMapping mapping) where
  sourceKeys := distinctNames_of_nodup hd
  targetKeys := distinctNames_eq_eraseDups _
  nestedTargetKeys := (nestedTargetKeys_eq mapping).trans (distinctNames_eq_eraseDups _)
  keys_forward := by
    refine (holds_ofMapping .forward mapping).keys.trans ?_
    rw [← distinctNames_eq_eraseDups]
    exact distinctNames_of_nodup hd
  rename_forward _ _ := get?_rename_forward hd
  transforms_forward _ _ _ := get?_transforms_forward hd
  nested_forward _ _ := get?_nested_forward hd
  disjoint_forward := disjoint_forward hd
  keys_reverse := (holds_ofMapping .reverse mapping).keys
  rename_reverse _ _ := get?_rename_reverse
  rename_forward_of_reverse _ _ := get?_rename_forward_of_reverse hd
  rename_reverse_injective target target' field h h' :=
    Option.some.inj ((get?_rename_forward_of_reverse hd h).symm.trans
      (get?_rename_forward_of_reverse hd h'))
  transforms_reverse _ _ _ := get?_transforms_reverse
  nested_reverse _ _ := get?_nested_reverse
  mem_nestedTargetKeys _ := mem_nestedTargetKeys

/-- **What the tables hold at every level** of a mapping in which no two rules of a level have one
field, as in every mapping that is built by setting the rules of fields; targets may come again. -/
theorem everywhere_contents (mapping : Mapping φ) (hk : mapping.Keyed) :
    mapping.Everywhere fun level => Contents level (ofMapping level) :=
  hk.mono fun _ hd => contents_ofMapping hd

open Example in
/-- The tables of the ledger: in reverse the amount belongs to the last of its three rules, but the
entries of the other two are still there. -/
theorem contents_ledger : ledger.Keyed ∧
    (ofMapping ledger).targetKeys = ["amount"] ∧
    Fields.get? (ofMapping ledger).reverse.rename "amount" = some "total" ∧
    Fields.get? (ofMapping ledger).reverse.scalar "amount" = some "decrement" ∧
    "amount" ∈ (ofMapping ledger).nestedTargetKeys := by
  have hk : ledger.Keyed := by decide
  have h := (everywhere_contents ledger hk).here
  refine ⟨hk, h.targetKeys.trans (by decide), ?_, ?_, ?_⟩
  · exact (h.rename_reverse "amount" "total").mpr ⟨.copy "amount", [_, _], [], rfl, rfl, by simp⟩
  · exact (h.transforms_reverse .whole "amount" "decrement").mpr
      ⟨"price", "increment", [], [_, _], rfl, ⟨rfl, rfl⟩, by decide⟩
  · rw [h.nestedTargetKeys]
    decide

end Compiled

end Reshape
