import Reshape.Mapper
import Reshape.Proofs.Fields
import Reshape.Proofs.Outcomes

/-!
# Values up to the order of fields

Two values are alike when they differ in the order of the fields of objects only. Outputs that are
rebuilt from the same fields in two orders are alike, and rebuilding them fails for both or for
neither.

## Main definitions

* `Value.Alike`: equality up to the order of fields, at every depth
* `Side.present`: the renamed fields that a record has

## Main results

* `Run.Agree.onElements`, `Run.Agree.pastNull`: transforms that agree do on elements and past null
* `Side.rebuild_eq_each`: an output is a run for each present field, collected
* `Side.rebuild_agree`: the order of the renames counts only for the order of the output
-/

namespace Reshape

/-! ### Alike values -/

/-- **Equality up to the order of fields**, at every depth: elements of arrays are alike one by one,
and fields of objects are, after one of the two lists of fields has been reordered. -/
inductive Value.Alike : Value → Value → Prop
  | refl (v : Value) : Alike v v
  | array {items items' : List Value} (h : List.Forall₂ Alike items items') :
      Alike (.array items) (.array items')
  | object {fields reordered fields' : Fields Value} (hp : fields.Perm reordered)
      (hk : Fields.keys reordered = Fields.keys fields')
      (hv : List.Forall₂ Alike (reordered.map Prod.snd) (fields'.map Prod.snd)) :
      Alike (.object fields) (.object fields')

/-- Entries of one name with alike values. -/
def Fields.AlikeEntry (entry entry' : String × Value) : Prop :=
  entry.1 = entry'.1 ∧ Value.Alike entry.2 entry'.2

theorem Fields.keys_eq_of_alike {fields fields' : Fields Value}
    (h : List.Forall₂ Fields.AlikeEntry fields fields') :
    Fields.keys fields = Fields.keys fields' := by
  induction h with
  | nil => rfl
  | cons he _ ih => rw [Fields.keys_cons, Fields.keys_cons, he.1, ih]

namespace Value

theorem alike_object_of_perm {fields reordered fields' : Fields Value}
    (hp : fields.Perm reordered) (h : List.Forall₂ Fields.AlikeEntry reordered fields') :
    Alike (.object fields) (.object fields') := by
  refine .object hp (Fields.keys_eq_of_alike h) ?_
  rw [List.forall₂_map_left_iff, List.forall₂_map_right_iff]
  exact h.imp fun _ _ he => he.2

/-- Objects of one field of one name are alike only if the values of the field are. -/
theorem Alike.of_single {name : String} {v w : Value}
    (h : Alike (.object [(name, v)]) (.object [(name, w)])) : Alike v w := by
  cases h with
  | refl => exact .refl _
  | object hp hk hv =>
    obtain rfl := List.singleton_perm.mp hp
    exact (List.forall₂_cons.mp hv).1

end Value

/-! ### Transforms that agree -/

namespace Run

variable {f g : Transform}

/-- Transforms that agree on each value agree on the elements of arrays. -/
theorem Agree.onElements (h : ∀ v, Agree Value.Alike (f v) (g v)) (v : Value) :
    Agree Value.Alike (onElements f v) (onElements g v) := by
  cases v with
  | array items => exact (Agree.each fun item _ => h item).map fun _ _ hs => .array hs
  | _ => exact h _

theorem Agree.pastNull (h : ∀ v, Agree Value.Alike (f v) (g v)) (v : Value) :
    Agree Value.Alike (pastNull f v) (pastNull g v) := by
  cases v with
  | null => exact .pure (.refl _)
  | _ => exact h _

end Run

/-! ### Rebuilding an output -/

namespace Side

/-- The renamed fields that a record has, each with its old name, its new name and its value. -/
def present (record : Fields Value) (renames : Fields String) : List (String × String × Value) :=
  renames.filterMap fun rename =>
    (Fields.get? record rename.1).map fun v => (rename.1, rename.2, v)

/-- The field of the output that a present field becomes. -/
def field (convert : String → Value → Run Value) (entry : String × String × Value) :
    Run (String × Value) :=
  (fun w => (entry.2.1, w)) <$> convert entry.1 entry.2.2

/-- **An output is rebuilt field by field**: a run for each present field, and the answers set one
after another. -/
theorem rebuild_eq_each (convert : String → Value → Run Value) (record : Fields Value)
    (renames : Fields String) (output : Fields Value) :
    rebuild convert record renames output =
      Fields.insertAll output <$> Run.each (field convert) (present record renames) := by
  induction renames generalizing output with
  | nil => rfl
  | cons rename rest ih =>
    rw [rebuild, present, List.filterMap_cons]
    cases hv : Fields.get? record rename.1 with
    | none =>
      -- The field is absent: it is not among those present either.
      exact ih output
    | some v =>
      simp only [Option.map_some, Run.each_cons, field, ih, map_eq_pure_bind, bind_assoc,
        pure_bind]
      rfl

theorem names_present (record : Fields Value) (renames : Fields String) :
    ((present record renames).map fun entry => entry.2.1).Sublist (renames.map Prod.snd) := by
  induction renames with
  | nil => exact .slnil
  | cons rename rest ih =>
    rw [present, List.filterMap_cons]
    cases Fields.get? record rename.1 with
    | none => exact ih.cons _
    | some v => exact ih.cons_cons _

/-- The fields of an output are among the new names, in their order. -/
theorem keys_of_each {convert : String → Value → Run Value}
    {entries : List (String × String × Value)} {fields : Fields Value}
    (h : (Run.each (field convert) entries).outcome = .ok fields) :
    Fields.keys fields = entries.map fun entry => entry.2.1 := by
  induction entries generalizing fields with
  | nil =>
    obtain rfl := Except.ok.inj h
    rfl
  | cons entry rest ih =>
    rw [Run.each_cons] at h
    obtain ⟨first, hf, h⟩ := Run.bind_eq_ok_iff.mp h
    obtain ⟨others, ho, h⟩ := Run.bind_eq_ok_iff.mp h
    obtain ⟨w, -, rfl⟩ := Run.map_eq_ok_iff.mp hf
    obtain rfl := Except.ok.inj h
    rw [Fields.keys_cons, List.map_cons, ih ho]

theorem distinct_of_each {convert : String → Value → Run Value} {record : Fields Value}
    {renames : Fields String} (hn : (renames.map Prod.snd).Nodup) {fields : Fields Value}
    (h : (Run.each (field convert) (present record renames)).outcome = .ok fields) :
    Fields.Distinct fields := by
  rw [Fields.Distinct, keys_of_each h]
  exact hn.sublist (names_present record renames)

/-- **The order of the renames counts only for the order of the output.** If two ways to convert the
values agree, the outputs rebuilt in two orders agree up to the order of their fields. -/
theorem rebuild_agree {convert convert' : String → Value → Run Value}
    {renames renames' : Fields String} (hp : renames.Perm renames')
    (hn : (renames.map Prod.snd).Nodup)
    (hc : ∀ rename ∈ renames', ∀ v,
      Run.Agree Value.Alike (convert rename.1 v) (convert' rename.1 v)) (record : Fields Value) :
    Run.Agree (fun fields fields' => Value.Alike (.object fields) (.object fields'))
      (rebuild convert record renames []) (rebuild convert' record renames' []) := by
  have hn' : (renames'.map Prod.snd).Nodup := (hp.map Prod.snd).nodup_iff.mp hn
  -- First the entries are reordered, and then each is converted in the other way.
  have ho : Run.Agree List.Perm (Run.each (field convert) (present record renames))
      (Run.each (field convert) (present record renames')) :=
    Run.each_perm_agree (field convert) (hp.filterMap _)
  have he : Run.Agree (List.Forall₂ Fields.AlikeEntry)
      (Run.each (field convert) (present record renames'))
      (Run.each (field convert') (present record renames')) := by
    refine Run.Agree.each fun entry hm => ?_
    obtain ⟨rename, hr, hv⟩ := List.mem_filterMap.mp hm
    obtain ⟨v, -, rfl⟩ := Option.map_eq_some_iff.mp hv
    exact (hc rename hr v).map fun w w' hw => ⟨rfl, hw⟩
  rw [rebuild_eq_each, rebuild_eq_each]
  -- New names are distinct, so setting the fields one after another only lists them.
  refine (ho.trans he).answered.map fun fields fields' h => ?_
  obtain ⟨⟨reordered, hp, hf⟩, hl, hr⟩ := h
  rw [show Fields.insertAll [] fields = _ from
      Fields.ofList_of_distinct (distinct_of_each hn hl),
    show Fields.insertAll [] fields' = _ from
      Fields.ofList_of_distinct (distinct_of_each hn' hr)]
  exact Value.alike_object_of_perm hp hf

/-! ### Records of one field -/

theorem rebuild_of_not_mem {convert : String → Value → Run Value} {key : String} {v : Value}
    {renames : Fields String} (h : key ∉ Fields.keys renames) (output : Fields Value) :
    rebuild convert [(key, v)] renames output = pure output := by
  induction renames generalizing output with
  | nil => rfl
  | cons rename rest ih =>
    rw [Fields.keys_cons, List.mem_cons, not_or] at h
    rw [rebuild, Fields.get?_cons, if_neg h.1]
    exact ih h.2 output

/-- Of a record of one field the output has one field, if the field has a new name. -/
theorem rebuild_single {convert : String → Value → Run Value} {key name : String} (v : Value)
    {renames : Fields String} (hd : Fields.Distinct renames)
    (h : Fields.get? renames key = some name) :
    rebuild convert [(key, v)] renames [] = (fun w => [(name, w)]) <$> convert key v := by
  induction renames with
  | nil => exact nomatch h
  | cons rename rest ih =>
    obtain ⟨hn, hr⟩ := List.nodup_cons.mp hd
    rw [Fields.get?_cons] at h
    by_cases hk : rename.1 = key
    · -- The field is converted here, and not by the renames after.
      rw [if_pos hk] at h
      obtain rfl := hk
      obtain rfl := Option.some.inj h
      rw [rebuild, Fields.get?_cons, if_pos rfl, map_eq_pure_bind]
      refine congrArg (convert rename.1 v >>= ·) (funext fun w => ?_)
      exact rebuild_of_not_mem hn _
    · rw [if_neg hk] at h
      rw [rebuild, Fields.get?_cons, if_neg (Ne.symm hk)]
      exact ih hr h

end Side

end Reshape
