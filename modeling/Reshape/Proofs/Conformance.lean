import Reshape.Example.Specs
import Reshape.Proofs.Outcomes
import Reshape.Proofs.Tables

/-!
# Conformance

What a value must look like to be mapped. A record must be an object, and where a nested mapping
takes the value of a field, that value must be null, a record again, or an array of records. If the
transforms answer on every value there is nothing else that can go wrong: what conforms is mapped,
and what does not is refused, for the first value in it that is no object where a record must stand.

## Main definitions

* `Transform.Total`, `Mapping.Total`: transforms that answer on every value
* `Compiled.Conforms`: the values that a compiled mapping can take
* `Compiled.Offends`: the first value that stands where a record must stand and is none

## Main results

* `Compiled.convert_total`: what can become of a value if the transforms are total
* `Compiled.Conforms.answers`: what conforms is mapped
* `Compiled.Offends.outcome_eq`: a first offender is what a mapping fails for
* `Compiled.conforms_or_offends`: a value conforms or has a first offender
* `Compiled.apply_fails_iff`: a mapping fails exactly if the value does not conform
-/

namespace Reshape

/-! ### Runs one after another -/

namespace Run

variable {α β : Type} {f : α → Run β}

/-- A run for each element answers if those of all elements do. -/
theorem exists_each {xs : List α} (h : ∀ x ∈ xs, ∃ y, (f x).outcome = .ok y) :
    ∃ ys, (each f xs).outcome = .ok ys := by
  induction xs with
  | nil => exact ⟨[], rfl⟩
  | cons x xs ih =>
    obtain ⟨hx, hs⟩ := List.forall_mem_cons.mp h
    obtain ⟨y, hy⟩ := hx
    obtain ⟨ys, hys⟩ := ih hs
    exact ⟨y :: ys, each_eq_ok_iff.mpr (.cons hy (each_eq_ok_iff.mp hys))⟩

/-- A run for each element fails as the first one that fails. -/
theorem each_eq_error {before after : List α} {x : α} {e : Error}
    (hb : ∀ x ∈ before, ∃ y, (f x).outcome = .ok y) (hx : (f x).outcome = .error e) :
    (each f (before ++ x :: after)).outcome = .error e := by
  induction before with
  | nil =>
    rw [List.nil_append, each_cons]
    exact bind_outcome_of_error hx _
  | cons first before ih =>
    obtain ⟨⟨y, hy⟩, hb⟩ := List.forall_mem_cons.mp hb
    rw [List.cons_append, each_cons, bind_outcome_of_ok hy]
    exact bind_outcome_of_error (ih hb) _

end Run

namespace Side

variable {convert : String → Value → Run Value} {record : Fields Value}

/-- A name under which the record has no value, or one that is converted. -/
def Converts (convert : String → Value → Run Value) (record : Fields Value) (key : String) : Prop :=
  ∀ v, Fields.get? record key = some v → ∃ w, (convert key v).outcome = .ok w

/-- An output is rebuilt if all values are converted. -/
theorem exists_rebuild {renames : List (String × String)}
    (h : ∀ rename ∈ renames, Converts convert record rename.1) (output : Fields Value) :
    ∃ out, (rebuild convert record renames output).outcome = .ok out := by
  induction renames generalizing output with
  | nil => exact ⟨output, rfl⟩
  | cons rename renames ih =>
    obtain ⟨hr, hs⟩ := List.forall_mem_cons.mp h
    rw [rebuild]
    cases hv : Fields.get? record rename.1 with
    | none => exact ih hs output
    | some v =>
      obtain ⟨w, hw⟩ := hr v hv
      obtain ⟨out, ho⟩ := ih hs (Fields.insert output rename.2 w)
      exact ⟨out, (Run.bind_outcome_of_ok hw _).trans ho⟩

/-- An output is refused for the first value that is. -/
theorem rebuild_eq_error {before after : List (String × String)} {key name : String} {v : Value}
    {e : Error} (hb : ∀ rename ∈ before, Converts convert record rename.1)
    (hv : Fields.get? record key = some v) (he : (convert key v).outcome = .error e)
    (output : Fields Value) :
    (rebuild convert record (before ++ (key, name) :: after) output).outcome = .error e := by
  induction before generalizing output with
  | nil =>
    rw [List.nil_append, rebuild, hv]
    exact Run.bind_outcome_of_error he _
  | cons rename before ih =>
    obtain ⟨hr, hs⟩ := List.forall_mem_cons.mp hb
    rw [List.cons_append, rebuild]
    cases hw : Fields.get? record rename.1 with
    | none => exact ih hs output
    | some w =>
      obtain ⟨w', hw'⟩ := hr w hw
      exact (Run.bind_outcome_of_ok hw' _).trans (ih hs _)

end Side

/-! ### Transforms that answer -/

/-- **A transform that answers** on every value. -/
def Transform.Total (f : Transform) : Prop :=
  ∀ v, ∃ w, (f v).outcome = .ok w

/-- **All transforms answer** on every value, at every level. -/
def Mapping.Total (spec : Spec) : Prop :=
  spec.Everywhere fun level => ∀ field grain target there back,
    (field, .convert grain target there back) ∈ level → there.Total ∧ back.Total

namespace Transform.Total

variable {f : Transform}

theorem pick {there back : Transform} (h : there.Total ∧ back.Total) (direction : Direction) :
    (direction.pick there back).Total := by
  cases direction with
  | forward => exact h.1
  | reverse => exact h.2

theorem onElements (h : f.Total) : Transform.Total (Run.onElements f) := by
  intro v
  cases v with
  | array items =>
    obtain ⟨ws, hws⟩ := Run.exists_each fun item (_ : item ∈ items) => h item
    exact ⟨.array ws, Run.map_eq_ok_iff.mpr ⟨ws, hws, rfl⟩⟩
  | _ => exact h _

theorem pastNull (h : f.Total) : Transform.Total (Run.pastNull f) := by
  intro v
  cases v with
  | null => exact ⟨.null, rfl⟩
  | _ => exact h _

end Transform.Total

namespace Compiled

/-! ### Values that can be mapped -/

section Conforms

variable {φ : Type}

mutual

/-- **Conformance to a compiled mapping** in a direction: an object that conforms under every
renamed name. -/
inductive Conforms (direction : Direction) : Compiled φ → Value → Prop
  | object {compiled : Compiled φ} {fields : Fields Value}
      (h : ∀ key ∈ Fields.keys (compiled.side direction).rename,
        ConformsAt direction compiled key (Fields.get? fields key)) :
      Conforms direction compiled (.object fields)

/-- Conformance under a name: there is no nested mapping for the name, or the record lacks it, or
its value is null, conforms to the nested mapping, or is an array of values that do. -/
inductive ConformsAt (direction : Direction) : Compiled φ → String → Option Value → Prop
  | free {compiled : Compiled φ} {key : String} (v : Option Value)
      (hn : Fields.get? (compiled.side direction).nested key = none) :
      ConformsAt direction compiled key v
  | absent {compiled : Compiled φ} {key : String} : ConformsAt direction compiled key none
  | null {compiled : Compiled φ} {key : String} : ConformsAt direction compiled key (some .null)
  | record {compiled child : Compiled φ} {key : String} {v : Value}
      (hc : Fields.get? (compiled.side direction).nested key = some child)
      (h : Conforms direction child v) : ConformsAt direction compiled key (some v)
  | records {compiled child : Compiled φ} {key : String} {items : List Value}
      (hc : Fields.get? (compiled.side direction).nested key = some child)
      (h : ∀ item ∈ items, Conforms direction child item) :
      ConformsAt direction compiled key (some (.array items))

end

mutual

/-- **The first offender**: the value itself if it is no object, or the first offender under the
first renamed name, in the order of the new names, under which the value does not conform. -/
inductive Offends (direction : Direction) : Compiled φ → Value → Value → Prop
  | here {compiled : Compiled φ} {v : Value} (h : v.kind ≠ .object) :
      Offends direction compiled v v
  | field {compiled : Compiled φ} {fields : Fields Value} {before after : List (String × String)}
      {key name : String} {v bad : Value}
      (hr : (compiled.side direction).rename = before ++ (key, name) :: after)
      (hb : ∀ rename ∈ before,
        ConformsAt direction compiled rename.1 (Fields.get? fields rename.1))
      (hv : Fields.get? fields key = some v) (h : OffendsAt direction compiled key v bad) :
      Offends direction compiled (.object fields) bad

/-- The first offender under a name with a nested mapping: of the value if it is neither null nor an
array, and of the first item that does not conform if it is an array. -/
inductive OffendsAt (direction : Direction) : Compiled φ → String → Value → Value → Prop
  | value {compiled child : Compiled φ} {key : String} {v bad : Value}
      (hc : Fields.get? (compiled.side direction).nested key = some child)
      (hn : v.kind ≠ .null) (ha : v.kind ≠ .array) (h : Offends direction child v bad) :
      OffendsAt direction compiled key v bad
  | item {compiled child : Compiled φ} {key : String} {before after : List Value}
      {item bad : Value}
      (hc : Fields.get? (compiled.side direction).nested key = some child)
      (hb : ∀ item ∈ before, Conforms direction child item) (h : Offends direction child item bad) :
      OffendsAt direction compiled key (.array (before ++ item :: after)) bad

end

end Conforms

/-! ### What becomes of a value -/

variable {direction : Direction} {mapping : Spec}

/-- How the values of a name are converted by a compiled mapping. -/
def converter (direction : Direction) (compiled : Compiled Transform) : String → Transform :=
  (compiled.side direction).convert (applyAll direction (compiled.side direction).nested)

theorem apply_object (compiled : Compiled Transform) (fields : Fields Value) :
    compiled.apply direction (.object fields) =
      Value.object <$> Side.rebuild (compiled.converter direction) fields
        (compiled.side direction).rename [] := by
  rw [apply_eq_throughSide, throughSide_object]
  rfl

theorem apply_of_kind_ne (compiled : Compiled Transform) {v : Value} (h : v.kind ≠ .object) :
    (compiled.apply direction v).outcome = .error (.notAnObject v.kind) := by
  rw [apply_eq_throughSide]
  cases v with
  | object fields => exact absurd rfl h
  | _ => rfl

/-- **What can become of a value if the transforms are total**: it is taken through the mapping
inside a rule, past null, or it is converted. -/
theorem convert_total (ht : mapping.Total) (direction : Direction) (key : String) :
    (∃ inner, Mapping.Inner inner mapping ∧
      Fields.get? ((ofMapping mapping).side direction).nested key = some (ofMapping inner) ∧
      (ofMapping mapping).converter direction key =
        Run.pastNull (Run.onElements ((ofMapping inner).apply direction))) ∨
    (Fields.get? ((ofMapping mapping).side direction).nested key = none ∧
      ((ofMapping mapping).converter direction key).Total) := by
  have hs := holding_inCharge? direction mapping key
  cases hc : mapping.inCharge? direction key with
  | none =>
    -- No rule has the name, so the value is copied as by a rule that only renames.
    rw [hc] at hs
    have ha : (ofMapping mapping).converter direction key = (Rule.copy key).act direction :=
      convert_eq_act hs
    exact .inr ⟨congrArg Holding.nested hs, fun v => ⟨v, by rw [ha]; rfl⟩⟩
  | some rule =>
    rw [hc] at hs
    have ha : (ofMapping mapping).converter direction key = rule.act direction := convert_eq_act hs
    obtain ⟨field, hm⟩ := Mapping.exists_mem_of_inCharge? hc
    rw [ha]
    cases rule with
    | copy target => exact .inr ⟨congrArg Holding.nested hs, fun v => ⟨v, rfl⟩⟩
    | convert grain target there back =>
      have hp := Transform.Total.pick (ht.here field grain target there back hm) direction
      cases grain with
      | whole => exact .inr ⟨congrArg Holding.nested hs, hp.onElements⟩
      | elements => exact .inr ⟨hs.1, hp.onElements.pastNull⟩
    | nest arity target rules => exact .inl ⟨rules, ⟨_, hm, rfl⟩, hs, rfl⟩

/-! ### Values that conform are mapped -/

/-- Under a name a value is converted if it conforms, given that this is so one level down. -/
theorem ConformsAt.converts (ht : mapping.Total) {key : String} {fields : Fields Value}
    (hi : ∀ inner, Mapping.Inner inner mapping → ∀ x, Conforms direction (ofMapping inner) x →
      ∃ y, ((ofMapping inner).apply direction x).outcome = .ok y)
    (h : ConformsAt direction (ofMapping mapping) key (Fields.get? fields key)) :
    Side.Converts ((ofMapping mapping).converter direction) fields key := by
  intro v hv
  rw [hv] at h
  rcases convert_total ht direction key with ⟨inner, hin, hn, hc⟩ | ⟨-, hc⟩
  · rw [hc]
    cases h with
    | free _ hf => exact nomatch hn.symm.trans hf
    | null => exact ⟨.null, rfl⟩
    | record hchild h =>
      obtain rfl := Option.some.inj (hn.symm.trans hchild)
      have ha := hi inner hin v h
      cases h with
      | object h => exact ha
    | records hchild h =>
      obtain rfl := Option.some.inj (hn.symm.trans hchild)
      obtain ⟨ys, hys⟩ := Run.exists_each fun item hm => hi inner hin item (h item hm)
      exact ⟨.array ys, Run.map_eq_ok_iff.mpr ⟨ys, hys, rfl⟩⟩
  · exact hc v

/-- **What conforms is mapped**, if the transforms are total. -/
theorem Conforms.answers (ht : mapping.Total) {x : Value}
    (h : Conforms direction (ofMapping mapping) x) :
    ∃ y, ((ofMapping mapping).apply direction x).outcome = .ok y := by
  induction mapping using Mapping.induction generalizing x with
  | level mapping ih =>
    cases h with
    | object h =>
      have hi inner (hin : Mapping.Inner inner mapping) x := @ih inner hin (ht.inner hin) x
      obtain ⟨out, ho⟩ := Side.exists_rebuild
        (fun rename hm => (h rename.1 (Fields.mem_keys_of_mem hm)).converts ht hi) []
      rw [apply_object]
      exact ⟨.object out, Run.map_eq_ok_iff.mpr ⟨out, ho, rfl⟩⟩

/-! ### Mapping fails for the first offender -/

/-- Under a name a value is refused for its first offender, given that this is so one level down. -/
theorem OffendsAt.outcome_eq (ht : mapping.Total) {key : String} {v bad : Value}
    (hi : ∀ inner, Mapping.Inner inner mapping → ∀ x bad,
      Offends direction (ofMapping inner) x bad →
      ((ofMapping inner).apply direction x).outcome = .error (.notAnObject bad.kind))
    (h : OffendsAt direction (ofMapping mapping) key v bad) :
    ((ofMapping mapping).converter direction key v).outcome = .error (.notAnObject bad.kind) := by
  rcases convert_total ht direction key with ⟨inner, hin, hn, hc⟩ | ⟨hn, -⟩
  · rw [hc]
    cases h with
    | value hchild hnull harray h =>
      obtain rfl := Option.some.inj (hn.symm.trans hchild)
      have hv := hi inner hin v bad h
      cases v with
      | null => exact absurd rfl hnull
      | array items => exact absurd rfl harray
      | _ => exact hv
    | item hchild hb h =>
      obtain rfl := Option.some.inj (hn.symm.trans hchild)
      exact Run.map_eq_error_iff.mpr (Run.each_eq_error
        (fun item hm => (hb item hm).answers (ht.inner hin)) (hi inner hin _ bad h))
  · -- Without a nested mapping nothing offends.
    cases h with
    | value hchild => exact nomatch hn.symm.trans hchild
    | item hchild => exact nomatch hn.symm.trans hchild

/-- **A mapping fails for the first offender**, if the transforms are total. -/
theorem Offends.outcome_eq (ht : mapping.Total) {x bad : Value}
    (h : Offends direction (ofMapping mapping) x bad) :
    ((ofMapping mapping).apply direction x).outcome = .error (.notAnObject bad.kind) := by
  induction mapping using Mapping.induction generalizing x bad with
  | level mapping ih =>
    cases h with
    | here h => exact apply_of_kind_ne _ h
    | field hr hb hv h =>
      have hf := h.outcome_eq ht fun inner hin x bad => ih inner hin (ht.inner hin)
      have hc rename hm := (hb rename hm).converts ht fun inner hin x hx =>
        hx.answers (ht.inner hin)
      rw [apply_object, hr, Run.map_eq_error_iff]
      exact Side.rebuild_eq_error hc hv hf []

/-! ### What does not conform has a first offender -/

/-- Either all elements of a list have a property, or there is a first one that has not. -/
theorem forall_or_first {α : Type} (p : α → Prop) (xs : List α) : (∀ x ∈ xs, p x) ∨
    ∃ before x after, xs = before ++ x :: after ∧ (∀ y ∈ before, p y) ∧ ¬ p x := by
  classical
  cases h : xs.find? fun x => ¬ p x with
  | none => exact .inl (by simpa using h)
  | some x =>
    obtain ⟨hx, before, after, rfl, hb⟩ := List.find?_eq_some_iff_append.mp h
    exact .inr ⟨before, x, after, rfl, by simpa using hb, by simpa using hx⟩

section Verdict

variable {φ : Type} {compiled : Compiled φ}

/-- Under a name a value conforms or has a first offender, given that the values in it do. -/
theorem conformsAt_or_offendsAt {key : String} {v : Value}
    (hi : ∀ (child : Compiled φ) x, sizeOf x ≤ sizeOf v →
      Conforms direction child x ∨ ∃ bad, Offends direction child x bad) :
    ConformsAt direction compiled key (some v) ∨
      ∃ bad, OffendsAt direction compiled key v bad := by
  cases hc : Fields.get? (compiled.side direction).nested key with
  | none => exact .inl (.free _ hc)
  | some child =>
    by_cases hn : v.kind = .null
    · cases v with
      | null => exact .inl .null
      | _ => exact nomatch hn
    by_cases ha : v.kind = .array
    · cases v with
      | array items =>
        rcases forall_or_first (Conforms direction child) items with
          h | ⟨before, item, after, rfl, hb, h⟩
        · exact .inl (.records hc h)
        · have hs : sizeOf item ≤ sizeOf (Value.array (before ++ item :: after)) := by
            have hm : item ∈ before ++ item :: after := by simp
            have hl := List.sizeOf_lt_of_mem hm
            rw [Value.array.sizeOf_spec]
            omega
          obtain ⟨bad, ho⟩ := (hi child item hs).resolve_left h
          exact .inr ⟨bad, .item hc hb ho⟩
      | _ => exact nomatch ha
    · -- The value is taken for a record.
      rcases hi child v (Nat.le_refl _) with h | ⟨bad, ho⟩
      · exact .inl (.record hc h)
      · exact .inr ⟨bad, .value hc hn ha ho⟩

/-- **A value conforms or has a first offender.** -/
theorem conforms_or_offends (direction : Direction) (compiled : Compiled φ) (x : Value) :
    Conforms direction compiled x ∨ ∃ bad, Offends direction compiled x bad := by
  -- By induction on the size of the value: the values of its fields are smaller.
  induction hs : sizeOf x using Nat.strongRecOn generalizing compiled x with
  | ind size ih =>
    subst hs
    by_cases hx : x.kind = .object
    · cases x with
      | object fields =>
        rcases forall_or_first (fun rename =>
            ConformsAt direction compiled rename.1 (Fields.get? fields rename.1))
          (compiled.side direction).rename with h | ⟨before, ⟨key, name⟩, after, hr, hb, h⟩
        · refine .inl (.object fun key hk => ?_)
          obtain ⟨rename, hm, rfl⟩ := List.mem_map.mp hk
          exact h rename hm
        · cases hv : Fields.get? fields key with
          | none => exact absurd (hv ▸ .absent) h
          | some v =>
            have hlt : sizeOf v < sizeOf (Value.object fields) := by
              have hm := List.sizeOf_lt_of_mem (Fields.mem_of_get?_eq_some hv)
              rw [Prod.mk.sizeOf_spec] at hm
              rw [Value.object.sizeOf_spec]
              omega
            obtain ⟨bad, ho⟩ := (conformsAt_or_offendsAt fun child x hle =>
              ih (sizeOf x) (by omega) child x rfl).resolve_left (hv ▸ h)
            exact .inr ⟨bad, .field hr hb hv ho⟩
      | _ => exact nomatch hx
    · exact .inr ⟨x, .here hx⟩

end Verdict

/-! ### When a mapping fails -/

/-- **A mapping fails exactly if the value does not conform**, when every transform of the spec
answers on every value. It is then refused as no object, for the first offender: the order is that
of the new names, from left to right in arrays, and into a value before what comes behind it. -/
theorem apply_fails_iff (spec : Spec) (ht : spec.Total) (direction : Direction) (x : Value) :
    ((∃ e, ((ofMapping spec).apply direction x).outcome = .error e) ↔
      ¬ Conforms direction (ofMapping spec) x) ∧
    ∀ e, ((ofMapping spec).apply direction x).outcome = .error e ↔
      ∃ bad, Offends direction (ofMapping spec) x bad ∧ e = .notAnObject bad.kind := by
  have hoffends {e : Error} (he : ((ofMapping spec).apply direction x).outcome = .error e) :
      ∃ bad, Offends direction (ofMapping spec) x bad := by
    refine (conforms_or_offends direction _ x).resolve_left fun h => ?_
    obtain ⟨y, hy⟩ := h.answers ht
    exact nomatch hy.symm.trans he
  refine ⟨⟨?_, fun h => ?_⟩, fun e => ⟨fun he => ?_, ?_⟩⟩
  · rintro ⟨e, he⟩ h
    obtain ⟨y, hy⟩ := h.answers ht
    exact nomatch hy.symm.trans he
  · obtain ⟨bad, ho⟩ := (conforms_or_offends direction _ x).resolve_left h
    exact ⟨_, ho.outcome_eq ht⟩
  · obtain ⟨bad, ho⟩ := hoffends he
    exact ⟨bad, ho, Except.error.inj (he.symm.trans (ho.outcome_eq ht))⟩
  · rintro ⟨bad, ho, rfl⟩
    exact ho.outcome_eq ht

open Example

theorem total_boxed : Transform.Total boxed :=
  fun v => ⟨.array [v], rfl⟩

theorem total_voyage : voyage.Total := by
  have hb : ∀ field grain target there back,
      (field, Rule.convert grain target there back) ∈ berth → there.Total ∧ back.Total := by
    simp only [berth, List.mem_singleton, Prod.mk.injEq, Rule.convert.injEq]
    rintro _ _ _ _ _ ⟨_, _, _, rfl, rfl⟩
    exact ⟨total_boxed, total_boxed⟩
  have hh : ∀ field grain target there back,
      (field, Rule.convert grain target there back) ∈ hand → there.Total ∧ back.Total := by
    simp [hand]
  have hv : ∀ field grain target there back,
      (field, Rule.convert grain target there back) ∈ voyage → there.Total ∧ back.Total := by
    simp only [voyage, List.mem_cons, List.not_mem_nil, Prod.mk.injEq, Rule.convert.injEq,
      reduceCtorEq, and_false, or_false]
    rintro _ _ _ _ _ ⟨_, _, _, rfl, rfl⟩
    exact ⟨total_boxed, total_boxed⟩
  exact ⟨hv, trivial, ⟨hh, trivial, ⟨hb, trivial, trivial⟩, trivial⟩, trivial⟩

/-- Null among the berths offends; null in the place of berths does not, and the number in the crew
comes later. -/
theorem offends_muster : Offends .forward (ofMapping voyage) muster .null := by
  have hvoyage : ((ofMapping voyage).side .forward).rename =
      [("ports", "stops")] ++ ("crew", "people") :: [] := rfl
  have hhand : ((ofMapping hand).side .forward).rename =
      [("name", "label")] ++ ("berths", "beds") :: [] := rfl
  -- The hand before has null for berths, and the berth before is a record.
  have hbefore : Conforms .forward (ofMapping hand) (.object [("berths", .null)]) := by
    refine .object fun key hk => ?_
    have hk : key ∈ ["name", "berths"] := hk
    simp only [List.mem_cons, List.not_mem_nil, or_false] at hk
    rcases hk with rfl | rfl
    · exact .absent
    · exact .null
  have hdeck : Conforms .forward (ofMapping berth) (.object [("deck", .null)]) := by
    refine .object fun key hk => ?_
    have hk : key ∈ ["deck"] := hk
    obtain rfl := List.mem_singleton.mp hk
    exact .null
  have hinner : Offends .forward (ofMapping hand)
      (.object [("name", .null), ("berths", .array [.object [("deck", .null)], .null])]) .null :=
    .field hhand (List.forall_mem_singleton.mpr .null) rfl
      (.item rfl (List.forall_mem_singleton.mpr hdeck) (.here nofun))
  exact .field hvoyage (List.forall_mem_singleton.mpr .null) rfl
    (.item rfl (List.forall_mem_singleton.mpr hbefore) hinner)

/-- The muster is refused for the null that is an element of an array. -/
theorem apply_muster : voyage.Total ∧ Offends .forward (ofMapping voyage) muster .null ∧
    ((ofMapping voyage).apply .forward muster).outcome = .error (.notAnObject .null) :=
  ⟨total_voyage, offends_muster,
    ((apply_fails_iff voyage total_voyage .forward muster).2 _).mpr ⟨.null, offends_muster, rfl⟩⟩

end Compiled

end Reshape
