import Reshape.Example.Specs
import Reshape.Proofs.Tables

/-!
# Declared data

What a compiled mapping looks at. Two records agree when they have the same values under the names
that the tables of a direction rename; where there is a nested mapping for a name, records and the
records in arrays need to agree only on what that mapping declares in turn. Records that agree are
mapped in the same way to the last detail: with the same output in the same order, or the same
error, and with the same transforms called in the same order. So fields that are not declared and
the order of fields never count.

## Main definitions

* `Compiled.Agree`: records that agree on what a compiled mapping declares

## Main results

* `Side.rebuild_congr`: an output is rebuilt from what becomes of the renamed fields
* `Compiled.Agree.apply_eq`: records that agree are mapped in the same way
* `Compiled.agree_of_perm`, `Compiled.agree_insert`: order and undeclared fields do not count
* `Compiled.declared_decides`: what is not declared never influences a mapping
-/

namespace Reshape

namespace Compiled

variable {φ : Type}

mutual

/-- **Agreement on what a compiled mapping declares** in a direction: two records that agree under
every renamed name. -/
inductive Agree (direction : Direction) : Compiled φ → Value → Value → Prop
  | records {compiled : Compiled φ} {fields fields' : Fields Value}
      (h : ∀ key ∈ Fields.keys (compiled.side direction).rename,
        AgreeAt direction compiled key (Fields.get? fields key) (Fields.get? fields' key)) :
      Agree direction compiled (.object fields) (.object fields')

/-- Agreement under a name: both records lack it or have the same value, or there is a nested
mapping for the name, and the values are records that agree on it or arrays that do item by item. -/
inductive AgreeAt (direction : Direction) :
    Compiled φ → String → Option Value → Option Value → Prop
  | same {compiled : Compiled φ} {key : String} (v : Option Value) :
      AgreeAt direction compiled key v v
  | record {compiled child : Compiled φ} {key : String} {v v' : Value}
      (hc : Fields.get? (compiled.side direction).nested key = some child)
      (h : Agree direction child v v') : AgreeAt direction compiled key (some v) (some v')
  | array {compiled child : Compiled φ} {key : String} {items items' : List Value}
      (hc : Fields.get? (compiled.side direction).nested key = some child)
      (h : AgreeItems direction child items items') :
      AgreeAt direction compiled key (some (.array items)) (some (.array items'))

/-- Agreement of arrays, as long as each other: each two items are the same or agree. -/
inductive AgreeItems (direction : Direction) : Compiled φ → List Value → List Value → Prop
  | nil {child : Compiled φ} : AgreeItems direction child [] []
  | same {child : Compiled φ} (item : Value) {rest rest' : List Value}
      (h : AgreeItems direction child rest rest') :
      AgreeItems direction child (item :: rest) (item :: rest')
  | cons {child : Compiled φ} {item item' : Value} {rest rest' : List Value}
      (hi : Agree direction child item item') (h : AgreeItems direction child rest rest') :
      AgreeItems direction child (item :: rest) (item' :: rest')

end

end Compiled

/-- **An output is rebuilt from what becomes of the renamed fields**, and from nothing else in the
record. -/
theorem Side.rebuild_congr {convert : String → Value → Run Value} {record record' : Fields Value}
    {renames : Fields String}
    (h : ∀ key ∈ Fields.keys renames,
      (Fields.get? record key).map (convert key) = (Fields.get? record' key).map (convert key))
    (output : Fields Value) :
    rebuild convert record renames output = rebuild convert record' renames output := by
  induction renames generalizing output with
  | nil => rfl
  | cons rename rest ih =>
    have hr := ih fun key hm => h key (List.mem_cons_of_mem _ hm)
    have hk := h rename.1 List.mem_cons_self
    rw [rebuild, rebuild]
    cases hv : Fields.get? record rename.1 with
    | none =>
      rw [hv, Option.map_none, eq_comm, Option.map_eq_none_iff] at hk
      rw [hk]
      exact hr output
    | some v =>
      rw [hv, Option.map_some, eq_comm, Option.map_eq_some_iff] at hk
      obtain ⟨v', hv', hc⟩ := hk
      -- Both convert their values in the same way, and go on with the same output.
      rw [hv']
      exact (congrArg (· >>= _) hc.symm).trans (congrArg (_ >>= ·) (funext fun w => hr _))

namespace Compiled

variable {φ : Type} {direction : Direction}

/-- A name with a nested mapping takes values through it, past null. -/
theorem convert_nested {compiled child : Compiled Transform} {key : String}
    (hc : Fields.get? (compiled.side direction).nested key = some child) :
    (compiled.side direction).convert (applyAll direction (compiled.side direction).nested) key =
      Run.pastNull (Run.onElements (child.apply direction)) := by
  funext v
  rw [Side.convert, get?_applyAll, hc]
  rfl

mutual

/-- **Records that agree are mapped in the same way.** -/
theorem Agree.apply_eq {compiled : Compiled Transform} {x x' : Value} :
    Agree direction compiled x x' → compiled.apply direction x = compiled.apply direction x'
  | .records h => by
    rw [apply_eq_throughSide, throughSide_object, throughSide_object]
    exact congrArg _ (Side.rebuild_congr (fun key hm => (h key hm).convert_eq) [])

theorem AgreeAt.convert_eq {compiled : Compiled Transform} {key : String}
    {v v' : Option Value} : AgreeAt direction compiled key v v' →
      v.map ((compiled.side direction).convert
        (applyAll direction (compiled.side direction).nested) key) =
      v'.map ((compiled.side direction).convert
        (applyAll direction (compiled.side direction).nested) key)
  | .same v => rfl
  | .record hc h => by
    rw [convert_nested hc, Option.map_some, Option.map_some]
    have ha := h.apply_eq
    cases h
    exact congrArg some ha
  | .array hc h => by
    rw [convert_nested hc, Option.map_some, Option.map_some]
    exact congrArg (fun run => some (Value.array <$> run)) h.each_eq

theorem AgreeItems.each_eq {child : Compiled Transform} {items items' : List Value} :
    AgreeItems direction child items items' →
      Run.each (child.apply direction) items = Run.each (child.apply direction) items'
  | .nil => rfl
  | .same item h => by rw [Run.each_cons, Run.each_cons, h.each_eq]
  | .cons hi h => by rw [Run.each_cons, Run.each_cons, hi.apply_eq, h.each_eq]

end

/-! ### What is not declared -/

/-- The order of fields does not count. -/
theorem agree_of_perm (compiled : Compiled φ) {fields fields' : Fields Value}
    (hd : Fields.Distinct fields) (hp : fields.Perm fields') :
    Agree direction compiled (.object fields) (.object fields') := by
  refine .records fun key _ => ?_
  rw [Fields.get?_eq_of_perm hd hp]
  exact .same _

/-- A field that is not declared does not count. -/
theorem agree_insert {compiled : Compiled φ} {name : String}
    (hn : name ∉ Fields.keys (compiled.side direction).rename) (fields : Fields Value)
    (v : Value) :
    Agree direction compiled (.object fields) (.object (Fields.insert fields name v)) := by
  refine .records fun key hk => ?_
  have hne : name ≠ key := by
    rintro rfl
    exact hn hk
  rw [Fields.get?_insert_of_ne fields v hne]
  exact .same _

open Example

/-- **What is not declared never influences a mapping.** By the compiled mapping of any spec, in
either direction, records that agree on what it declares are mapped in the same way: with the same
output in the same order, or the same error, and the same notes of the transforms called. Records in
another order agree, and records with one more field that is not declared; inside a nested mapping
this is so in its turn. -/
theorem declared_decides (spec : Spec) (direction : Direction) :
    (∀ x x', (ofMapping spec).Agree direction x x' →
      (ofMapping spec).apply direction x = (ofMapping spec).apply direction x') ∧
    (∀ fields fields' : Fields Value, Fields.Distinct fields → fields.Perm fields' →
      (ofMapping spec).Agree direction (.object fields) (.object fields')) ∧
    (∀ (fields : Fields Value) (name : String) (v : Value),
      name ∉ Fields.keys ((ofMapping spec).side direction).rename →
        (ofMapping spec).Agree direction (.object fields)
          (.object (Fields.insert fields name v))) :=
  ⟨fun _ _ h => h.apply_eq, fun _ _ hd hp => agree_of_perm _ hd hp,
    fun fields _ v hn => agree_insert hn fields v⟩

theorem agree_ballot : (ofMapping poll).Agree .forward ballot redraft := by
  refine .records fun key hk => ?_
  have hk : key ∈ ["first", "second", "agreed", "answers", "voters"] := hk
  simp only [List.mem_cons, List.not_mem_nil, or_false] at hk
  rcases hk with rfl | rfl | rfl | rfl | rfl
  · exact .same _
  · exact .same _
  · exact .same _
  · exact .same _
  · refine .array rfl (.cons (.records fun key hk => ?_) .nil)
    have hk : key ∈ ["name", "voted"] := hk
    simp only [List.mem_cons, List.not_mem_nil, or_false] at hk
    rcases hk with rfl | rfl
    · exact .same _
    · exact .same _

/-- Both drafts of the ballot are counted in the same way. -/
theorem apply_redraft : (ofMapping poll).Agree .forward ballot redraft ∧
    (ofMapping poll).apply .forward ballot = (ofMapping poll).apply .forward redraft :=
  ⟨agree_ballot, (declared_decides poll .forward).1 ballot redraft agree_ballot⟩

end Compiled

end Reshape
