import Reshape.Example.Specs
import Reshape.Proofs.Walk

/-!
# Rules of exchanged kinds

Whether a value is an array is decided by the value, so the kinds of rules that differ in what they
are meant for do the same. Rules for one object and for the objects of an array compile to the same
tables. Transforms of whole values and of elements are called on the same values, except that null
is passed by when it stands where the array is expected; null among the elements makes no
difference.

## Main definitions

* `Arity.other`, `Grain.other`: the other kind of the same family
* `Mapping.exchange arities grains`: the kinds exchanged at two sets of positions
* `Value.records`: the records that a nested mapping meets in a value
* `Mapping.Spares`: no field whose grain is exchanged holds null

## Main results

* `Compiled.ofMapping_exchange`: exchanged arities do not show in the tables
* `Compiled.apply_exchange`: exchanged grains show only in fields that hold null
* `Mapper.exchange_behaves`: mappers under both exchanges
-/

namespace Reshape

variable {φ : Type}

/-- The other arity. -/
def Arity.other : Arity → Arity
  | one => many
  | many => one

/-- The other grain. -/
def Grain.other : Grain → Grain
  | whole => elements
  | elements => whole

/-- A set of positions in a mapping: each is told by the fields on the way, outermost first. -/
abbrev Positions : Type := List String → Bool

/-- No position. -/
def Positions.none : Positions :=
  fun _ => false

/-- The positions of a set that lie inside the rule of a field. -/
def Positions.inside (positions : Positions) (field : String) : Positions :=
  fun path => positions (field :: path)

/-! ### Exchanging kinds -/

namespace Rule

mutual

/-- A rule with the kinds exchanged at the positions of two sets, one for each family of kinds. The
rule itself is at the position without fields on the way. -/
def exchange (arities grains : Positions) : Rule φ → Rule φ
  | copy target => copy target
  | convert grain target there back =>
    convert (if grains [] then grain.other else grain) target there back
  | nest arity target rules =>
    nest (if arities [] then arity.other else arity) target (exchangeAll arities grains rules)
termination_by structural rule => rule

/-- Rules with the kinds exchanged at the positions of two sets. -/
def exchangeAll (arities grains : Positions) : List (String × Rule φ) → List (String × Rule φ)
  | [] => []
  | (field, rule) :: rest =>
    (field, rule.exchange (arities.inside field) (grains.inside field)) ::
      exchangeAll arities grains rest
termination_by structural rules => rules

end

@[simp] theorem target_exchange (rule : Rule φ) (arities grains : Positions) :
    (rule.exchange arities grains).target = rule.target := by
  cases rule <;> rfl

end Rule

namespace Mapping

/-- **A mapping with the kinds exchanged** at the positions of two sets, at every depth: `arities`
for the rules that nest, `grains` for the rules that convert. -/
def exchange (arities grains : Positions) (mapping : Mapping φ) : Mapping φ :=
  Rule.exchangeAll arities grains mapping

variable {arities grains : Positions}

theorem name_exchange (direction : Direction) (field : String) (rule : Rule φ)
    (arities grains : Positions) :
    name direction (field, rule.exchange arities grains) = name direction (field, rule) := by
  rw [name, name, Rule.target_exchange]

/-- An exchange leaves the names of fields as they are, in both directions. -/
theorem names_exchange (direction : Direction) (mapping : Mapping φ) :
    (mapping.exchange arities grains).map (name direction) = mapping.map (name direction) := by
  induction mapping with
  | nil => rfl
  | cons entry rest ih =>
    exact List.cons_eq_cons.mpr ⟨name_exchange direction entry.1 entry.2 _ _, ih⟩

end Mapping

/-! ### Exchanged arities do not show -/

namespace Compiled

variable (arities : Positions)

theorem renames_exchange (mapping : Mapping φ) :
    Mapping.renames (mapping.exchange arities .none) = Mapping.renames mapping := by
  induction mapping with
  | nil => rfl
  | cons entry rest ih =>
    refine List.cons_eq_cons.mpr ⟨?_, ih⟩
    simp only [Rule.target_exchange]

theorem converters_exchange (grain : Grain) (mapping : Mapping φ) :
    Mapping.converters grain (mapping.exchange arities .none) =
      Mapping.converters grain mapping := by
  induction mapping with
  | nil => rfl
  | cons entry rest ih =>
    obtain ⟨field, rule⟩ := entry
    have hc : Mapping.converter? grain
        (field, rule.exchange (arities.inside field) (Positions.none.inside field)) =
        Mapping.converter? grain (field, rule) := by
      cases rule <;> rfl
    have hr : List.filterMap (Mapping.converter? grain) (Mapping.exchange arities .none rest) =
        List.filterMap (Mapping.converter? grain) rest := ih
    rw [Mapping.converters, Mapping.converters, List.filterMap_cons, ← hc, ← hr]
    rfl

/-- The tables of a level name the same fields and hold the same transforms as before. -/
theorem assemble_exchange (mapping : Mapping φ) (children : List (Link (Compiled φ))) :
    assemble (mapping.exchange arities .none) children = assemble mapping children := by
  have hf : Mapping.fields (mapping.exchange arities .none) = mapping.fields :=
    Mapping.names_exchange .forward mapping
  have ht : Mapping.targets (mapping.exchange arities .none) = mapping.targets :=
    Mapping.names_exchange .reverse mapping
  simp only [assemble, hf, ht, renames_exchange, converters_exchange]

mutual

theorem ofRule?_exchange : ∀ (rule : Rule φ) (arities : Positions),
    ofRule? (rule.exchange arities .none) = ofRule? rule
  | .copy _, _ => rfl
  | .convert _ _ _ _, _ => rfl
  | .nest _ _ rules, arities =>
    congrArg some ((assemble_exchange arities rules _).trans
      (congrArg (assemble rules) (links_exchange rules arities)))
termination_by structural rule => rule

theorem links_exchange : ∀ (rules : List (String × Rule φ)) (arities : Positions),
    links (Rule.exchangeAll arities .none rules) = links rules
  | [], _ => rfl
  | (field, rule) :: rest, arities => by
    have hr := ofRule?_exchange rule (arities.inside field)
    rw [Rule.exchangeAll, links, links, links_exchange rest, Rule.target_exchange,
      show Positions.none.inside field = .none from rfl, hr]
termination_by structural rules => rules

end

/-- **Exchanged arities do not show in the tables**, at any depth. -/
theorem ofMapping_exchange (mapping : Mapping φ) :
    ofMapping (mapping.exchange arities .none) = ofMapping mapping := by
  rw [ofMapping, ofMapping, assemble_exchange]
  exact congrArg (assemble mapping) (links_exchange mapping arities)

end Compiled

/-! ### Fields that hold no null -/

/-- The records that a nested mapping meets in a value: the value itself, or those among its
elements. -/
def Value.records : Value → List (Fields Value)
  | object fields => [fields]
  | array items => items.filterMap fun item =>
    match item with
    | object fields => some fields
    | _ => none
  | _ => []

namespace Rule

mutual

/-- Whether a rule whose grain is exchanged, here or inside, never meets null as the value of its
field. -/
def Spares (direction : Direction) (grains : Positions) : Rule φ → Value → Prop
  | copy _, _ => True
  | convert _ _ _ _, v => grains [] = true → v ≠ .null
  | nest _ _ rules, v => ∀ record ∈ v.records, SparesAll direction grains rules record
termination_by structural rule => rule

/-- Whether none of the rules meets null so in a record. -/
def SparesAll (direction : Direction) (grains : Positions) :
    List (String × Rule φ) → Fields Value → Prop
  | [], _ => True
  | (field, rule) :: rest, record =>
    (∀ v ∈ Fields.get? record (direction.pick field rule.target),
      rule.Spares direction (grains.inside field) v) ∧
      SparesAll direction grains rest record
termination_by structural rules => rules

end

end Rule

/-- **No exchanged field holds null**: wherever the mapping meets a record in a value, the fields
whose grain is exchanged hold no null there. Null among the elements of an array is no such
value. -/
def Mapping.Spares (direction : Direction) (grains : Positions) (mapping : Mapping φ) (v : Value) :
    Prop :=
  ∀ record, v = .object record → Rule.SparesAll direction grains mapping record

/-! ### Exchanged grains show only in null -/

theorem Run.each_congr {α β : Type} {f g : α → Run β} {as : List α} (h : ∀ a ∈ as, f a = g a) :
    each f as = each g as := by
  induction as with
  | nil => rfl
  | cons a rest ih =>
    rw [each_cons, each_cons, h a List.mem_cons_self,
      ih fun b hb => h b (List.mem_cons_of_mem _ hb)]

namespace Compiled

variable {direction : Direction}

/-- Off null, a transform of elements does what a transform of whole values does. -/
theorem act_convert_other (grain : Grain) (target : String) (there back : Transform) {v : Value}
    (h : v ≠ .null) :
    (Rule.convert grain.other target there back).act direction v =
      (Rule.convert grain target there back).act direction v := by
  cases v with
  | null => exact absurd rfl h
  | _ => cases grain <;> rfl

/-- A level that takes the rules of each record one after another as before takes each value as
before. -/
theorem apply_exchange_of_walk {arities grains : Positions} {mapping : Spec}
    (hd : (mapping.map (Mapping.name direction)).Nodup)
    (hw : ∀ record, Rule.SparesAll direction grains mapping record →
      Mapping.walk direction (Rule.act direction) (mapping.exchange arities grains) record [] =
        Mapping.walk direction (Rule.act direction) mapping record [])
    {v : Value} (hs : mapping.Spares direction grains v) :
    (ofMapping (mapping.exchange arities grains)).apply direction v =
      (ofMapping mapping).apply direction v := by
  have hd' : ((mapping.exchange arities grains).map (Mapping.name direction)).Nodup := by
    rwa [Mapping.names_exchange]
  rw [apply_eq_walk hd, apply_eq_walk hd']
  cases v with
  | object record => exact congrArg (Value.object <$> ·) (hw record (hs record rfl))
  | _ => rfl

-- The induction is on the rules, through a rule and the list of rules inside it in turn.
mutual

theorem act_exchange : ∀ (rule : Rule Transform) (arities grains : Positions) {v : Value},
    rule.Within (fun level => (level.map (Mapping.name direction)).Nodup) →
    rule.Spares direction grains v →
    (rule.exchange arities grains).act direction v = rule.act direction v
  | .copy _, _, _, _, _, _ => rfl
  | .convert grain target there back, _, grains, v, _, hs => by
    rw [Rule.exchange]
    split
    case isTrue hg => exact act_convert_other grain target there back (hs hg)
    case isFalse => rfl
  | .nest _ _ rules, arities, grains, v, ⟨hd, hi⟩, hs => by
    have ha {w : Value} (hw : Mapping.Spares direction grains rules w) :
        (ofMapping (Mapping.exchange arities grains rules)).apply direction w =
          (ofMapping rules).apply direction w :=
      apply_exchange_of_walk hd (fun _ => walk_exchange rules arities grains [] hi) hw
    cases v with
    | null => rfl
    | array items =>
      -- Every element that is a record is among those that the rules inside are spared on.
      refine congrArg (Value.array <$> ·) (Run.each_congr fun item hm => ha ?_)
      rintro record rfl
      exact hs record (List.mem_filterMap.mpr ⟨_, hm, rfl⟩)
    | object record =>
      refine ha ?_
      rintro _ ⟨⟩
      exact hs record (List.mem_singleton.mpr rfl)
    | _ => exact ha nofun
termination_by structural rule => rule

theorem walk_exchange : ∀ (rules : List (String × Rule Transform)) (arities grains : Positions)
    {record : Fields Value} (output : Fields Value),
    Rule.AllWithin (fun level => (level.map (Mapping.name direction)).Nodup) rules →
    Rule.SparesAll direction grains rules record →
    Mapping.walk direction (Rule.act direction) (Rule.exchangeAll arities grains rules) record
      output = Mapping.walk direction (Rule.act direction) rules record output
  | [], _, _, _, _, _, _ => rfl
  | (field, rule) :: rest, arities, grains, record, output, ⟨hi, his⟩, ⟨hs, hss⟩ => by
    have hr := fun output => walk_exchange rest arities grains output his hss
    rw [Rule.exchangeAll, Mapping.walk, Mapping.walk, Mapping.name_exchange,
      Mapping.name_exchange]
    cases hv : Fields.get? record (Mapping.name direction (field, rule)) with
    | none => exact hr output
    | some v =>
      -- The rule is spared the value, and both go on with the same output.
      have ha := act_exchange rule (arities.inside field) (grains.inside field) hi (hs v hv)
      exact (congrArg (· >>= _) ha).trans
        (congrArg (rule.act direction v >>= ·) (funext fun converted => hr _))
termination_by structural rules => rules

end

/-- **Exchanged grains show only in fields that hold null**, at levels without a name twice. -/
theorem apply_exchange (arities : Positions) {grains : Positions} {spec : Spec}
    (hd : spec.Everywhere fun level => (level.map (Mapping.name direction)).Nodup) {v : Value}
    (hs : spec.Spares direction grains v) :
    (ofMapping (spec.exchange arities grains)).apply direction v =
      (ofMapping spec).apply direction v :=
  apply_exchange_of_walk hd.here (fun _ => walk_exchange spec arities grains [] hd.2) hs

end Compiled

namespace Mapper

open Example

/-- **The kinds of a family do the same.** Exchanging the rules for one object and those for the
objects of an array, at any positions at any depth, changes nothing: every value is mapped in the
same way in both directions, with the same output or error and the same notes of the transforms
called. So does exchanging the rules that convert whole values and those that convert elements, as
long as no two rules of a level have one target and no exchanged field holds null where the mapping
meets it. -/
theorem exchange_behaves (spec : Spec) (arities grains : Positions) :
    (∀ v, (ofSpec (spec.exchange arities .none)).value.map v = (ofSpec spec).value.map v ∧
      (ofSpec (spec.exchange arities .none)).value.mapReverse v =
        (ofSpec spec).value.mapReverse v) ∧
    (spec.Keyed → spec.OneToOne →
      (∀ x, spec.Spares .forward grains x →
        (ofSpec (spec.exchange .none grains)).value.map x = (ofSpec spec).value.map x) ∧
      ∀ y, spec.Spares .reverse grains y →
        (ofSpec (spec.exchange .none grains)).value.mapReverse y =
          (ofSpec spec).value.mapReverse y) := by
  constructor
  · intro v
    have hc := Compiled.ofMapping_exchange arities spec
    exact ⟨congrArg (fun compiled => compiled.apply .forward v) hc,
      congrArg (fun compiled => compiled.apply .reverse v) hc⟩
  · intro hk ho
    exact ⟨fun x hs => @Compiled.apply_exchange .forward .none _ _ hk _ hs,
      fun y hs => @Compiled.apply_exchange .reverse .none _ _ ho _ hs⟩

/-- The poll with all its kinds exchanged takes the ballot and its counted form as before; where an
exchanged field holds null, the transform of the whole value refuses what the one of elements passes
by. -/
theorem exchange_poll :
    poll.Spares .forward converted ballot ∧ poll.Spares .reverse converted counted ∧
      (ofSpec (poll.exchange nesting .none)).value.map ballot = (ofSpec poll).value.map ballot ∧
      (ofSpec (poll.exchange .none converted)).value.map ballot = (ofSpec poll).value.map ballot ∧
      (ofSpec (poll.exchange .none converted)).value.mapReverse counted =
        (ofSpec poll).value.mapReverse counted ∧
      (ofSpec (poll.exchange .none converted)).value.map (.object [("agreed", .null)]) ≠
        (ofSpec poll).value.map (.object [("agreed", .null)]) := by
  have hs : poll.Spares .forward converted ballot := by
    rintro _ ⟨⟩
    simp [Rule.SparesAll, poll, Rule.Spares, Fields.get?, Value.records]
  have hs' : poll.Spares .reverse converted counted := by
    rintro _ ⟨⟩
    simp [Rule.SparesAll, poll, Rule.Spares, Fields.get?, Value.records, Rule.target]
  obtain ⟨hn, -⟩ := exchange_behaves poll nesting .none
  obtain ⟨-, hc⟩ := exchange_behaves poll .none converted
  obtain ⟨hm, hr⟩ := hc (by decide) (by decide)
  refine ⟨hs, hs', (hn ballot).1, hm ballot hs, hr counted hs', fun h => ?_⟩
  cases congrArg Run.outcome h

end Mapper

end Reshape
