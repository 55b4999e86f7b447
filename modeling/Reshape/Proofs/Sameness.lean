import Reshape.Builtins
import Reshape.Definition.Resolve
import Reshape.Example.Definitions
import Reshape.Proofs.Reordering
import Reshape.Proofs.Walk

/-!
# Same definitions

Definitions that are the same up to the order of their fields describe the same mapping: if one of
them can be resolved the other can, and records are mapped to records that are the same up to the
order of their fields, as long as no two fields compete for a target. All of this is so level by
level, for levels that have the same fields with related rules.

## Main definitions

* `Rule.Alike`, `Mapping.Alike`: equality up to the order of fields, at every depth
* `Mapping.Matched R`: the same fields, with rules that `R` relates

## Main results

* `Definition.alike_of_same`: same definitions are alike
* `Mapping.Alike.resolve`: what alike mappings resolve to is alike
* `Mapping.Alike.apply_agree`: alike specs map records in the same way
* `Definition.same_behaves`: same definitions behave in the same way
-/

namespace Reshape

variable {φ ψ χ : Type}

/-! ### Levels with the same fields -/

/-- **The same fields with related rules**, in any order, and no field twice. -/
structure Mapping.Matched (R : Rule φ → Rule ψ → Prop) (mapping : Mapping φ)
    (mapping' : Mapping ψ) : Prop where
  distinct : Fields.Distinct mapping
  distinct' : Fields.Distinct mapping'
  keys : ∀ field, field ∈ Fields.keys mapping ↔ field ∈ Fields.keys mapping'
  rules : ∀ field rule rule', (field, rule) ∈ mapping → (field, rule') ∈ mapping' → R rule rule'

/-- **Equality of rules up to the order of fields** inside them, at every depth. -/
inductive Rule.Alike : Rule φ → Rule φ → Prop
  | copy (target : String) : Alike (.copy target) (.copy target)
  | convert (grain : Grain) (target : String) (there back : φ) :
      Alike (.convert grain target there back) (.convert grain target there back)
  -- These are the parts of `Mapping.Matched Alike rules rules'`.
  | nest (arity : Arity) (target : String) {rules rules' : Mapping φ}
      (distinct : Fields.Distinct rules) (distinct' : Fields.Distinct rules')
      (keys : ∀ field, field ∈ Fields.keys rules ↔ field ∈ Fields.keys rules')
      (alike : ∀ field rule rule', (field, rule) ∈ rules → (field, rule') ∈ rules' →
        Alike rule rule') :
      Alike (.nest arity target rules) (.nest arity target rules')

/-- **Equality of mappings up to the order of fields**, at every depth. -/
abbrev Mapping.Alike (mapping mapping' : Mapping φ) : Prop :=
  Mapping.Matched Rule.Alike mapping mapping'

namespace Rule.Alike

variable {rule rule' : Rule φ}

theorem of_matched (arity : Arity) (target : String) {rules rules' : Mapping φ}
    (h : Mapping.Alike rules rules') : Alike (.nest arity target rules) (.nest arity target rules') :=
  .nest arity target h.distinct h.distinct' h.keys h.rules

theorem target_eq (h : rule.Alike rule') : rule.target = rule'.target := by
  cases h <;> rfl

theorem symm (h : rule.Alike rule') : rule'.Alike rule := by
  induction h with
  | copy target => exact .copy target
  | convert grain target there back => exact .convert grain target there back
  | nest arity target hd hd' hk _ ih =>
    exact .nest arity target hd' hd (fun field => (hk field).symm)
      fun field rule rule' hr hr' => ih field rule' rule hr' hr

end Rule.Alike

namespace Mapping.Matched

variable {R : Rule φ → Rule ψ → Prop} {mapping : Mapping φ} {mapping' : Mapping ψ}

theorem symm (h : Matched R mapping mapping') :
    Matched (fun rule' rule => R rule rule') mapping' mapping :=
  ⟨h.distinct', h.distinct, fun field => (h.keys field).symm,
    fun field rule rule' hr hr' => h.rules field rule' rule hr' hr⟩

/-- A rule of the first level has a related rule in the second. -/
theorem exists_mem (h : Matched R mapping mapping') {field : String} {rule : Rule φ}
    (hr : (field, rule) ∈ mapping) : ∃ rule', (field, rule') ∈ mapping' ∧ R rule rule' := by
  have hk : field ∈ Fields.keys mapping' := (h.keys field).mp (Fields.mem_keys_of_mem hr)
  obtain ⟨⟨_, rule'⟩, hr', rfl⟩ := List.mem_map.mp hk
  exact ⟨rule', hr', h.rules _ rule rule' hr hr'⟩

theorem mono {Q : Rule φ → Rule ψ → Prop} (h : Matched R mapping mapping')
    (hq : ∀ rule rule', R rule rule' → Q rule rule') : Matched Q mapping mapping' :=
  ⟨h.distinct, h.distinct', h.keys,
    fun field rule rule' hr hr' => hq rule rule' (h.rules field rule rule' hr hr')⟩

theorem comp {Q : Rule ψ → Rule χ → Prop} {mapping'' : Mapping χ}
    (h : Matched R mapping mapping') (h' : Matched Q mapping' mapping'') :
    Matched (fun rule rule'' => ∃ rule', R rule rule' ∧ Q rule' rule'') mapping mapping'' := by
  refine ⟨h.distinct, h'.distinct', fun field => (h.keys field).trans (h'.keys field), ?_⟩
  intro field rule rule'' hr hr''
  obtain ⟨rule', hr', hR⟩ := h.exists_mem hr
  exact ⟨rule', hR, h'.rules field rule' rule'' hr' hr''⟩

theorem newNames_subset
    (h : Matched (fun rule rule' => rule.target = rule'.target) mapping mapping') :
    newNames .forward mapping ⊆ newNames .forward mapping' := by
  intro entry hm
  obtain ⟨⟨field, rule⟩, hr, rfl⟩ := List.mem_map.mp hm
  obtain ⟨rule', hr', ht⟩ := h.exists_mem hr
  exact List.mem_map.mpr ⟨_, hr', Prod.ext rfl ht.symm⟩

/-- Levels with the same fields for the same targets give the same new names, up to order. -/
theorem newNames_perm (h : Matched (fun rule rule' => rule.target = rule'.target) mapping mapping')
    (direction : Direction) :
    (newNames direction mapping).Perm (newNames direction mapping') := by
  have h' := h.symm.mono fun _ _ ht => ht.symm
  have hd : Fields.Distinct (newNames .forward mapping) := by
    rw [Fields.Distinct, keys_newNames]
    exact h.distinct
  have hd' : Fields.Distinct (newNames .forward mapping') := by
    rw [Fields.Distinct, keys_newNames]
    exact h.distinct'
  have hp : (newNames .forward mapping).Perm (newNames .forward mapping') :=
    (List.perm_ext_iff_of_nodup hd.nodup hd'.nodup).mpr fun entry =>
      ⟨fun hm => h.newNames_subset hm, fun hm => h'.newNames_subset hm⟩
  cases direction with
  | forward => exact hp
  | reverse =>
    -- In reverse each new name is the old one, and the other way around.
    have hs := hp.map Prod.swap
    rwa [newNames, newNames, List.map_map, List.map_map] at hs

theorem targets_perm (h : Matched (fun rule rule' => rule.target = rule'.target) mapping mapping') :
    mapping.targets.Perm mapping'.targets := by
  have hp := (h.newNames_perm .forward).map Prod.snd
  rwa [newNames, newNames, List.map_map, List.map_map] at hp

end Mapping.Matched

/-! ### Same definitions are alike -/

theorem Rule.allSame_iff {rules others : Mapping String} :
    Rule.allSame rules others = true ↔
      ∀ entry ∈ rules, ∃ other, Fields.get? others entry.1 = some other ∧
        entry.2.same other = true := by
  induction rules with
  | nil => simp [Rule.allSame]
  | cons entry rest ih =>
    obtain ⟨field, rule⟩ := entry
    rw [Rule.allSame, Bool.and_eq_true, ih, List.forall_mem_cons]
    refine and_congr_left fun _ => ?_
    cases Fields.get? others field <;> simp

theorem Rule.alike_of_same {rule rule' : Rule String} (h : rule.same rule' = true)
    (hi : ∀ inner inner', rule.nested? = some inner → rule'.nested? = some inner' →
      Definition.same inner inner' = true → Mapping.Alike inner inner') : rule.Alike rule' := by
  cases rule with
  | copy target =>
    cases rule' with
    | copy target' =>
      obtain rfl : target = target' := eq_of_beq h
      exact .copy target
    | _ => exact nomatch h
  | convert grain target there back =>
    cases rule' with
    | convert grain' target' there' back' =>
      rw [same, Bool.and_eq_true, Bool.and_eq_true, Bool.and_eq_true] at h
      simp only [beq_iff_eq] at h
      obtain ⟨⟨⟨rfl, rfl⟩, rfl⟩, rfl⟩ := h
      exact .convert grain target there back
    | _ => exact nomatch h
  | nest arity target rules =>
    cases rule' with
    | nest arity' target' rules' =>
      rw [same, Bool.and_assoc, Bool.and_eq_true, Bool.and_eq_true] at h
      obtain ⟨⟨ha, ht⟩, hs⟩ := h
      obtain rfl : arity = arity' := eq_of_beq ha
      obtain rfl : target = target' := eq_of_beq ht
      exact .of_matched arity target (hi rules rules' rfl rfl hs)
    | _ => exact nomatch h

/-- **Same definitions are alike**, if no level has a field twice. -/
theorem Definition.alike_of_same {d d' : Definition} (hk : d.Keyed) (hk' : d'.Keyed)
    (h : d.same d' = true) : d.Alike d' := by
  induction d using Mapping.induction generalizing d' with
  | level d ih =>
    rw [same, Bool.and_eq_true, beq_iff_eq, Rule.allSame_iff] at h
    obtain ⟨hl, hs⟩ := h
    have hsub : Fields.keys d ⊆ Fields.keys d' := by
      intro field hf
      obtain ⟨entry, hm, rfl⟩ := List.mem_map.mp hf
      obtain ⟨other, ho, -⟩ := hs entry hm
      exact List.mem_map.mpr ⟨_, Fields.mem_of_get?_eq_some ho, rfl⟩
    -- As many fields, none twice, and those of the one among those of the other.
    have hp : (Fields.keys d).Perm (Fields.keys d') :=
      (List.subperm_of_subset hk.here hsub).perm_of_length_le (by simp [Fields.keys, hl])
    refine ⟨hk.here, hk'.here, fun field => hp.mem_iff, ?_⟩
    intro field rule rule' hr hr'
    obtain ⟨other, ho, hsame⟩ := hs (field, rule) hr
    obtain rfl : rule' = other :=
      Option.some.inj ((Fields.get?_of_mem hk'.here hr').symm.trans ho)
    refine Rule.alike_of_same hsame fun inner inner' hi hi' => ?_
    have hin : Mapping.Inner inner d := ⟨_, hr, hi⟩
    exact ih inner hin (hk.inner hin) (hk'.inner ⟨_, hr', hi'⟩)

/-! ### What alike mappings resolve to -/

section Resolving

variable {ε : Type} {look : φ → Except ε ψ}

namespace Mapping

variable {mapping : Mapping φ} {resolved : Mapping ψ}

theorem mapM_eq_list_mapM (look : φ → Except ε ψ) (mapping : Mapping φ) :
    mapping.mapM look = List.mapM (fun entry => Prod.mk entry.1 <$> entry.2.mapM look) mapping := by
  rw [mapM]
  induction mapping with
  | nil => rfl
  | cons entry rest ih =>
    rw [Rule.mapAllM, ih, List.mapM_cons, bind_map_left]

/-- Each rule resolves, in order. -/
theorem forall₂_of_mapM (h : mapping.mapM look = .ok resolved) :
    List.Forall₂ (fun entry entry' => entry.1 = entry'.1 ∧ entry.2.mapM look = .ok entry'.2)
      mapping resolved := by
  rw [mapM_eq_list_mapM, mapM_eq_ok_iff] at h
  refine h.imp fun entry entry' he => ?_
  cases hr : entry.2.mapM look with
  | error e =>
    rw [hr] at he
    exact nomatch he
  | ok rule' =>
    rw [hr] at he
    obtain rfl := Except.ok.inj he
    exact ⟨rfl, rfl⟩

/-- A mapping resolves if each of its rules does. -/
theorem exists_mapM
    (h : ∀ field rule, (field, rule) ∈ mapping → ∃ rule', rule.mapM look = .ok rule') :
    ∃ resolved, mapping.mapM look = .ok resolved := by
  induction mapping with
  | nil => exact ⟨[], rfl⟩
  | cons entry rest ih =>
    obtain ⟨rule', hr⟩ := h entry.1 entry.2 List.mem_cons_self
    obtain ⟨rest', hs⟩ := ih fun field rule hm => h field rule (List.mem_cons_of_mem _ hm)
    rw [mapM] at hs
    refine ⟨(entry.1, rule') :: rest', ?_⟩
    rw [mapM, Rule.mapAllM, hr, hs]
    rfl

/-- Levels with related rules one by one are matched. -/
theorem Matched.of_forall₂ {R : Rule φ → Rule ψ → Prop} (hd : Fields.Distinct mapping)
    (h : List.Forall₂ (fun entry entry' => entry.1 = entry'.1 ∧ R entry.2 entry'.2)
      mapping resolved) : Matched R mapping resolved := by
  have hk : Fields.keys mapping = Fields.keys resolved := by
    rw [Fields.keys, Fields.keys, ← List.forall₂_eq_eq_eq, List.forall₂_map_left_iff,
      List.forall₂_map_right_iff]
    exact h.imp fun _ _ he => he.1
  have hd' : Fields.Distinct resolved := by rwa [Fields.Distinct, ← hk]
  have hg (field : String) :
      Option.Rel R (Fields.get? mapping field) (Fields.get? resolved field) := by
    clear hk hd hd'
    induction h with
    | nil => exact .none
    | @cons entry entry' _ _ he _ ih =>
      rw [Fields.get?_cons, Fields.get?_cons, ← he.1]
      by_cases hf : entry.1 = field
      · rw [if_pos hf, if_pos hf]
        exact .some he.2
      · rw [if_neg hf, if_neg hf]
        exact ih
  refine ⟨hd, hd', fun field => by rw [hk], fun field rule rule' hr hr' => ?_⟩
  have hR := hg field
  rw [Fields.get?_of_mem hd hr, Fields.get?_of_mem hd' hr'] at hR
  cases hR with
  | some hR => exact hR

/-- A mapping resolves to one with the same fields, for what their rules resolve to. -/
theorem Matched.of_mapM (hd : Fields.Distinct mapping) (h : mapping.mapM look = .ok resolved) :
    Matched (fun rule rule' => rule.mapM look = .ok rule') mapping resolved :=
  .of_forall₂ hd (forall₂_of_mapM h)

/-- Levels whose rules resolve to alike rules resolve to alike levels. -/
theorem Matched.resolve {mapping' : Mapping φ}
    (h : Matched (fun rule rule' => ∀ r, rule.mapM look = .ok r →
      ∃ r', rule'.mapM look = .ok r' ∧ r.Alike r') mapping mapping')
    (hs : mapping.mapM look = .ok resolved) :
    ∃ resolved', mapping'.mapM look = .ok resolved' ∧ resolved.Alike resolved' := by
  have hm := Matched.of_mapM h.distinct hs
  -- Each rule of the other level belongs to a rule of the first, which resolves.
  obtain ⟨resolved', hs'⟩ : ∃ resolved', mapping'.mapM look = .ok resolved' := by
    refine exists_mapM fun field rule' hr' => ?_
    obtain ⟨rule, hr, hR⟩ := h.symm.exists_mem hr'
    obtain ⟨r, -, hl⟩ := hm.exists_mem hr
    exact (hR r hl).imp fun _ h => h.1
  refine ⟨resolved', hs', ((hm.symm.comp h).comp (.of_mapM h.distinct' hs')).mono ?_⟩
  rintro r r' ⟨rule', ⟨rule, hl, hR⟩, hl'⟩
  obtain ⟨_, hr, ha⟩ := hR r hl
  obtain rfl := Except.ok.inj (hr.symm.trans hl')
  exact ha

end Mapping

namespace Rule

variable {rule : Rule φ} {r : Rule ψ}

/-- A rule that converts resolves if both of its transforms do. -/
theorem mapM_convert_eq_ok_iff {grain : Grain} {target : String} {there back : φ} :
    (convert grain target there back).mapM look = .ok r ↔
      ∃ f g, look there = .ok f ∧ look back = .ok g ∧ r = convert grain target f g := by
  rw [Rule.mapM]
  cases look there <;> cases look back <;> simp [bind, Except.bind, pure, Except.pure, eq_comm]

/-- A rule with rules inside resolves if these do. -/
theorem mapM_nest_eq_ok_iff {arity : Arity} {target : String} {rules : Mapping φ} :
    (nest arity target rules).mapM look = .ok r ↔
      ∃ resolved, rules.mapM look = .ok resolved ∧ r = nest arity target resolved := by
  rw [Rule.mapM, Mapping.mapM]
  cases mapAllM look rules <;> simp [bind, Except.bind, pure, Except.pure, eq_comm]

theorem target_of_mapM (h : rule.mapM look = .ok r) : rule.target = r.target := by
  cases rule with
  | copy target =>
    obtain rfl := Except.ok.inj h
    rfl
  | convert grain target there back =>
    obtain ⟨f, g, -, -, rfl⟩ := mapM_convert_eq_ok_iff.mp h
    rfl
  | nest arity target rules =>
    obtain ⟨resolved, -, rfl⟩ := mapM_nest_eq_ok_iff.mp h
    rfl

/-- What is inside a resolved rule has been resolved. -/
theorem nested?_of_mapM (h : rule.mapM look = .ok r) {inner' : Mapping ψ}
    (hi : r.nested? = some inner') :
    ∃ inner, rule.nested? = some inner ∧ inner.mapM look = .ok inner' := by
  cases rule with
  | copy target =>
    obtain rfl := Except.ok.inj h
    exact nomatch hi
  | convert grain target there back =>
    obtain ⟨f, g, -, -, rfl⟩ := mapM_convert_eq_ok_iff.mp h
    exact nomatch hi
  | nest arity target rules =>
    obtain ⟨resolved, hs, rfl⟩ := mapM_nest_eq_ok_iff.mp h
    obtain rfl := Option.some.inj hi
    exact ⟨rules, rfl, hs⟩

end Rule

theorem Rule.Alike.resolve {rule rule' : Rule φ} (h : rule.Alike rule') {r : Rule ψ}
    (hr : rule.mapM look = .ok r) : ∃ r', rule'.mapM look = .ok r' ∧ r.Alike r' := by
  induction h generalizing r with
  | copy target =>
    obtain rfl := Except.ok.inj hr
    exact ⟨_, rfl, .copy target⟩
  | convert grain target there back =>
    obtain ⟨f, g, -, -, rfl⟩ := Rule.mapM_convert_eq_ok_iff.mp hr
    exact ⟨_, hr, .convert grain target f g⟩
  | nest arity target hd hd' hk _ ih =>
    obtain ⟨resolved, hs, rfl⟩ := Rule.mapM_nest_eq_ok_iff.mp hr
    obtain ⟨resolved', hs', ha⟩ := Mapping.Matched.resolve
      ⟨hd, hd', hk, fun field rule rule' hm hm' _ => ih field rule rule' hm hm'⟩ hs
    exact ⟨_, Rule.mapM_nest_eq_ok_iff.mpr ⟨resolved', hs', rfl⟩, .of_matched arity target ha⟩

/-- **What alike mappings resolve to is alike.** -/
theorem Mapping.Alike.resolve {mapping mapping' : Mapping φ} {resolved : Mapping ψ}
    (h : mapping.Alike mapping') (hs : mapping.mapM look = .ok resolved) :
    ∃ resolved', mapping'.mapM look = .ok resolved' ∧ resolved.Alike resolved' :=
  Matched.resolve (h.mono fun _ _ ha _ hr => ha.resolve hr) hs

/-- A mapping resolves to one in which no two fields compete for a target, if none do in itself. -/
theorem Mapping.OneToOne.resolve {mapping : Mapping φ} {resolved : Mapping ψ}
    (hk : mapping.Keyed) (ho : mapping.OneToOne) (hs : mapping.mapM look = .ok resolved) :
    resolved.OneToOne := by
  induction mapping using induction generalizing resolved with
  | level mapping ih =>
    have hm := Matched.of_mapM hk.here hs
    have ht := hm.mono fun rule rule' hr => Rule.target_of_mapM hr
    refine everywhere_iff.mpr ⟨ht.targets_perm.nodup_iff.mp ho.here, ?_⟩
    rintro inner' ⟨⟨field, r⟩, hr, hi'⟩
    obtain ⟨rule, hrule, hl⟩ := hm.symm.exists_mem hr
    obtain ⟨inner, hi, hs⟩ := Rule.nested?_of_mapM hl hi'
    have hin : Inner inner mapping := ⟨_, hrule, hi⟩
    exact ih inner hin (hk.inner hin) (ho.inner hin) hs

end Resolving

/-! ### Records through alike specs -/

/-- Levels with the same fields for the same targets, whose rules agree, take records to records
that are the same up to the order of fields. -/
theorem Mapping.Matched.apply_agree {direction : Direction} {spec spec' : Spec}
    (h : Matched (fun rule rule' => rule.target = rule'.target ∧
      ∀ v, Run.Agree Value.Alike (rule.act direction v) (rule'.act direction v)) spec spec')
    (ho : spec.targets.Nodup) (v : Value) :
    Run.Agree Value.Alike ((Compiled.ofMapping spec).apply direction v)
      ((Compiled.ofMapping spec').apply direction v) := by
  have ht := h.mono fun _ _ hR => hR.1
  have hn (direction : Direction) : (spec.map (name direction)).Nodup := by
    cases direction with
    | forward => exact h.distinct
    | reverse => exact ho
  have hn' (direction : Direction) : (spec'.map (name direction)).Nodup := by
    cases direction with
    | forward => exact h.distinct'
    | reverse => exact ht.targets_perm.nodup_iff.mp ho
  refine Compiled.agree_of_records (fun record => ?_) v
  rw [Compiled.apply_eq_throughSide, Compiled.apply_eq_throughSide, Compiled.throughSide_object,
    Compiled.throughSide_object, Compiled.rename_of_nodup (hn direction),
    Compiled.rename_of_nodup (hn' direction)]
  have hs : ((newNames direction spec).map Prod.snd).Nodup := by
    rw [newNames, List.map_map]
    exact hn direction.reversed
  refine (Side.rebuild_agree (ht.newNames_perm direction) hs ?_ record).map fun _ _ ha => ha
  intro rename hm w
  -- A new name belongs to a rule of each level, in charge of it there.
  obtain ⟨⟨field, rule'⟩, hr', rfl⟩ := List.mem_map.mp hm
  obtain ⟨rule, hr, hR⟩ := h.symm.exists_mem hr'
  have hc := Compiled.convert_inCharge (inCharge?_of_mem (hn direction) hr)
  have hc' := Compiled.convert_inCharge (inCharge?_of_mem (hn' direction) hr')
  rw [show name direction (field, rule) = name direction (field, rule') from
    congrArg (direction.pick field) hR.1] at hc
  rw [hc, hc']
  exact hR.2 w

theorem Rule.Alike.act_agree {rule rule' : Rule Transform} (h : rule.Alike rule')
    (ho : rule.Within fun level => level.targets.Nodup) (direction : Direction) (v : Value) :
    Run.Agree Value.Alike (rule.act direction v) (rule'.act direction v) := by
  induction h generalizing v with
  | copy target => exact .refl .refl _
  | convert grain target there back => exact .refl .refl _
  | nest arity target hd hd' hk ha ih =>
    refine Run.Agree.pastNull (Run.Agree.onElements fun w => ?_) v
    refine Mapping.Matched.apply_agree ⟨hd, hd', hk, fun field rule rule' hr hr' => ?_⟩ ho.1 w
    refine ⟨(ha field rule rule' hr hr').target_eq, ih field rule rule' hr hr' ?_⟩
    exact Mapping.within_of_mem ho.2 hr

/-- **Alike specs map records in the same way**, if no two fields compete for a target: either both
fail, or both answer with records that are the same up to the order of fields. -/
theorem Mapping.Alike.apply_agree {spec spec' : Spec} (h : spec.Alike spec') (ho : spec.OneToOne)
    (direction : Direction) (v : Value) :
    Run.Agree Value.Alike ((Compiled.ofMapping spec).apply direction v)
      ((Compiled.ofMapping spec').apply direction v) := by
  refine Matched.apply_agree ⟨h.distinct, h.distinct', h.keys, fun field rule rule' hr hr' => ?_⟩
    ho.here v
  have ha := h.rules field rule rule' hr hr'
  exact ⟨ha.target_eq, ha.act_agree (within_of_mem ho.2 hr) direction⟩

/-! ### Same definitions behave in the same way -/

/-- **Same definitions behave in the same way**, whatever the registry: both can be resolved or
neither, and if no two fields of a level compete for a target, their mappers take every value, in
either direction, to values that are the same up to the order of fields, or both fail. -/
theorem Definition.same_behaves {d d' : Definition} (hk : d.Keyed) (hk' : d'.Keyed)
    (h : d.same d' = true) (registry : Registry) :
    ((∃ spec, d.resolve registry = .ok spec) ↔ ∃ spec', d'.resolve registry = .ok spec') ∧
    ∀ spec spec', d.OneToOne → d.resolve registry = .ok spec → d'.resolve registry = .ok spec' →
      ∀ v, Run.Agree Value.Alike ((Mapper.ofSpec spec).value.map v)
          ((Mapper.ofSpec spec').value.map v) ∧
        Run.Agree Value.Alike ((Mapper.ofSpec spec).value.mapReverse v)
          ((Mapper.ofSpec spec').value.mapReverse v) := by
  have ha := alike_of_same hk hk' h
  have ha' := ha.symm.mono fun _ _ hR => hR.symm
  refine ⟨⟨?_, ?_⟩, ?_⟩
  · rintro ⟨spec, hs⟩
    exact (ha.resolve hs).imp fun _ h => h.1
  · rintro ⟨spec', hs'⟩
    exact (Mapping.Alike.resolve ha' hs').imp fun _ h => h.1
  · intro spec spec' ho hs hs' v
    obtain ⟨_, hr, hl⟩ := ha.resolve hs
    obtain rfl := Except.ok.inj (hr.symm.trans hs')
    have hp := hl.apply_agree (ho.resolve hk hs)
    exact ⟨hp .forward v, hp .reverse v⟩

open Example in
/-- The census and the recount behave in the same way. -/
theorem Definition.recount_behaves :
    census.Keyed ∧ recount.Keyed ∧ census.same recount = true ∧ census.OneToOne ∧
      ∃ spec spec', census.resolve Registry.builtin = .ok spec ∧
        recount.resolve Registry.builtin = .ok spec' ∧
          ∀ v, Run.Agree Value.Alike ((Mapper.ofSpec spec).value.map v)
              ((Mapper.ofSpec spec').value.map v) ∧
            Run.Agree Value.Alike ((Mapper.ofSpec spec).value.mapReverse v)
              ((Mapper.ofSpec spec').value.mapReverse v) := by
  have hk : census.Keyed := by decide
  have hk' : recount.Keyed := by decide
  have h : census.same recount = true := by decide
  have ho : census.OneToOne := by decide
  obtain ⟨spec, hs⟩ : ∃ spec, census.resolve Registry.builtin = .ok spec := ⟨_, rfl⟩
  obtain ⟨hr, ha⟩ := same_behaves hk hk' h Registry.builtin
  obtain ⟨spec', hs'⟩ := hr.mp ⟨spec, hs⟩
  exact ⟨hk, hk', h, ho, spec, spec', hs, hs', ha spec spec' ho hs hs'⟩

end Reshape
