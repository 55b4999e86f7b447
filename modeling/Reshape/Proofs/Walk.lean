import Reshape.Proofs.Outcomes
import Reshape.Proofs.Tables

/-!
# Rules one after another

When no two rules of a level have one name in a direction, its tables act in that direction as the
rules do one after another, each by itself. Mapping forward this is so at every level that is built
by setting the rules of fields; in reverse it takes targets of which none comes twice.

## Main definitions

* `Mapping.walk`: a record taken through rules in order
* `Run.onRecord`: what is done with a record and not with another value

## Main results

* `Compiled.apply_eq_walk`: tables of distinct names act as the rules
-/

namespace Reshape

/-! ### Levels without a name twice -/

namespace Mapping

variable {φ : Type} {direction : Direction}

/-- A level without a field or a target twice has no name twice in any direction. -/
theorem nodup_names {mapping : Mapping φ} (hk : mapping.Keyed) (ho : mapping.OneToOne)
    (direction : Direction) : (mapping.map (name direction)).Nodup := by
  cases direction with
  | forward => exact hk.here
  | reverse => exact ho.here

theorem inCharge?_of_not_mem {mapping : Mapping φ} {key : String}
    (h : key ∉ mapping.map (name direction)) : mapping.inCharge? direction key = none := by
  induction mapping with
  | nil => rfl
  | cons entry rest ih =>
    simp only [List.map_cons, List.mem_cons, not_or] at h
    rw [inCharge?, if_neg (Ne.symm h.1)]
    exact ih h.2

theorem inCharge?_of_mem {mapping : Mapping φ} (hd : (mapping.map (name direction)).Nodup)
    {entry : String × Rule φ} (hm : entry ∈ mapping) :
    mapping.inCharge? direction (name direction entry) = some entry.2 := by
  induction mapping with
  | nil => exact absurd hm List.not_mem_nil
  | cons head rest ih =>
    obtain ⟨hh, hr⟩ := List.nodup_cons.mp hd
    rw [inCharge?]
    rcases List.mem_cons.mp hm with rfl | hm
    · -- No rule after it has its name.
      rw [if_pos rfl, inCharge?_of_not_mem hh]
    · have hne : name direction head ≠ name direction entry :=
        fun e => hh (e ▸ List.mem_map_of_mem hm)
      rw [if_neg hne]
      exact ih hr hm

/-- The entries of the new names, rule by rule. -/
def newNames (direction : Direction) (mapping : Mapping φ) : Fields String :=
  mapping.map fun entry => (name direction entry, name direction.reversed entry)

theorem table_renames (direction : Direction) (mapping : Mapping φ) :
    Link.table direction (renames mapping) = Fields.ofList (newNames direction mapping) := by
  rw [Link.table, renames, List.map_map, newNames]
  cases direction <;> rfl

theorem keys_newNames (direction : Direction) (mapping : Mapping φ) :
    Fields.keys (newNames direction mapping) = mapping.map (name direction) := by
  rw [Fields.keys, newNames, List.map_map]
  rfl

theorem table_renames_of_nodup {mapping : Mapping φ}
    (hd : (mapping.map (name direction)).Nodup) :
    Link.table direction (renames mapping) = newNames direction mapping := by
  rw [table_renames]
  refine Fields.ofList_of_distinct ?_
  rwa [Fields.Distinct, keys_newNames]

/-- A record taken through rules in order: the value of each field that the record has goes through
its rule and is set under the new name. -/
def walk (direction : Direction) (act : Rule Transform → Transform) :
    Mapping Transform → Fields Value → Fields Value → Run (Fields Value)
  | [], _, output => pure output
  | entry :: rest, record, output =>
    match Fields.get? record (name direction entry) with
    | none => walk direction act rest record output
    | some v => do
      let converted ← act entry.2 v
      walk direction act rest record
        (Fields.insert output (name direction.reversed entry) converted)

theorem walk_congr {act act' : Rule Transform → Transform} {rules : Mapping Transform}
    (h : ∀ entry ∈ rules, act entry.2 = act' entry.2) (record output : Fields Value) :
    walk direction act rules record output = walk direction act' rules record output := by
  induction rules generalizing output with
  | nil => rfl
  | cons entry rest ih =>
    have hr := ih fun entry hm => h entry (List.mem_cons_of_mem _ hm)
    simp only [walk, h entry List.mem_cons_self, hr]

theorem rebuild_eq_walk {convert : String → Value → Run Value} {act : Rule Transform → Transform}
    {rules : Mapping Transform} (h : ∀ entry ∈ rules, convert (name direction entry) = act entry.2)
    (record output : Fields Value) :
    Side.rebuild convert record (newNames direction rules) output =
      walk direction act rules record output := by
  induction rules generalizing output with
  | nil => rfl
  | cons entry rest ih =>
    have hr := ih fun entry hm => h entry (List.mem_cons_of_mem _ hm)
    rw [newNames, List.map_cons, Side.rebuild, walk, h entry List.mem_cons_self]
    cases Fields.get? record (name direction entry) with
    | none =>
      -- The field is absent: the rule is skipped.
      exact hr output
    | some v =>
      -- Both go on with the same output, if the conversion answers.
      exact congrArg (act entry.2 v >>= ·) (funext fun converted => hr _)

end Mapping

namespace Run

/-- What is done with the fields of a record; a value that is no record is refused. -/
def onRecord (f : Fields Value → Run (Fields Value)) : Transform
  | .object record => Value.object <$> f record
  | v => fail (.notAnObject v.kind)

end Run

namespace Compiled

variable {direction : Direction}

theorem throughSide_eq_onRecord {μ : Type} (side : Side Transform μ) (nested : Fields Transform) :
    throughSide side nested =
      Run.onRecord fun record => Side.rebuild (side.convert nested) record side.rename [] := by
  funext v
  cases v <;> rfl

/-- Compiled mappings refuse all values but records, so they agree if they do on records. -/
theorem agree_of_records {R : Value → Value → Prop} {compiled compiled' : Compiled Transform}
    (h : ∀ record, Run.Agree R (compiled.apply direction (.object record))
      (compiled'.apply direction (.object record))) (v : Value) :
    Run.Agree R (compiled.apply direction v) (compiled'.apply direction v) := by
  cases v with
  | object record => exact h record
  | _ =>
    rw [apply_eq_throughSide, apply_eq_throughSide]
    exact .fail rfl rfl

/-- No name replaces another in the table of distinct names, so its entries are the rules' own, in
order. -/
theorem rename_of_nodup {φ : Type} {mapping : Mapping φ}
    (hd : (mapping.map (Mapping.name direction)).Nodup) :
    ((ofMapping mapping).side direction).rename = mapping.newNames direction := by
  rw [side_ofMapping]
  exact Mapping.table_renames_of_nodup hd

/-- **Tables of distinct names act as the rules**, one after another. -/
theorem apply_eq_walk {mapping : Mapping Transform}
    (hd : (mapping.map (Mapping.name direction)).Nodup) :
    (ofMapping mapping).apply direction =
      Run.onRecord fun record => mapping.walk direction (Rule.act direction) record [] := by
  rw [apply_eq_throughSide, throughSide_eq_onRecord, rename_of_nodup hd]
  congr 1
  funext record
  exact Mapping.rebuild_eq_walk
    (fun entry hm => convert_inCharge (Mapping.inCharge?_of_mem hd hm)) record []

end Compiled

end Reshape
