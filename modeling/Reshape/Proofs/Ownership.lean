import Reshape.Example.Specs
import Reshape.Proofs.Reordering
import Reshape.Proofs.Walk

/-!
# Who owns a colliding target

When several rules of a level have one target, the last of them names the field that is written when
mapping in reverse. The value is converted by the rule in charge, and that is the last rule only if
no rule before it is of a higher rank. So leaving out the rules whose target comes again changes
nothing in reverse just where the last rule is in charge of each target, or is displaced by a rule
that converts every value as the last one does.

## Main definitions

* `Mapping.settle`: the mapping without the rules whose target comes again, at every level
* `Mapping.owner?`: the last rule of a target
* `Mapping.LastOwns`: each target belongs to its last rule alone
* `Mapping.Ranked`: no rule comes after a rule of its target and of a higher rank

## Main results

* `Mapping.settle_of_oneToOne`: only colliding targets are settled
* `Mapping.inCharge?_of_owner?`: the rule in charge of a target is the owner, or of a higher rank
* `Compiled.agree_settle_iff`: when settling one level changes nothing in reverse
* `Mapping.Ranked.lastOwns`: ranks that do not go down keep each target for its last rule
* `Mapper.mapReverse_settle_iff`: when settling a spec changes nothing in reverse
-/

namespace Reshape

variable {φ : Type}

/-! ### Settled mappings -/

namespace Rule

mutual

/-- A rule with the mapping inside it settled. -/
def settle : Rule φ → Rule φ
  | copy target => copy target
  | convert grain target there back => convert grain target there back
  | nest arity target rules => nest arity target (settleAll rules)
termination_by structural rule => rule

/-- Rules, without those whose target comes again. -/
def settleAll : List (String × Rule φ) → List (String × Rule φ)
  | [] => []
  | (field, rule) :: rest =>
    if rule.target ∈ Mapping.targets rest then settleAll rest
    else (field, rule.settle) :: settleAll rest
termination_by structural rules => rules

end

@[simp] theorem target_settle (rule : Rule φ) : rule.settle.target = rule.target := by
  cases rule <;> rfl

theorem settle_of_nested?_eq_none {rule : Rule φ} (h : rule.nested? = none) :
    rule.settle = rule := by
  cases rule with
  | copy target => rfl
  | convert grain target there back => rfl
  | nest arity target rules => exact nomatch h

theorem settle_of_nested?_eq_some {rule : Rule φ} {inner : Mapping φ}
    (h : rule.nested? = some inner) (hs : settleAll inner = inner) : rule.settle = rule := by
  cases rule with
  | copy target => exact nomatch h
  | convert grain target there back => exact nomatch h
  | nest arity target rules =>
    obtain rfl : rules = inner := Option.some.inj h
    rw [settle, hs]

theorem rank_le_of_nested? {rule : Rule φ} {inner : Mapping φ} (h : rule.nested? = some inner)
    (other : Rule φ) : other.rank ≤ rule.rank := by
  cases rule with
  | copy target => exact nomatch h
  | convert grain target there back => exact nomatch h
  | nest arity target rules =>
    rcases other with target | ⟨_ | _, target, there, back⟩ | ⟨arity, target, rules⟩ <;>
      simp [rank]

end Rule

namespace Mapping

/-- **The settled mapping**: at every level, without each rule whose target a later rule of the
level has too. -/
def settle (mapping : Mapping φ) : Mapping φ :=
  Rule.settleAll mapping

/-- **The owner of a target**: the last rule that has it, with its field. -/
def owner? : Mapping φ → String → Option (String × Rule φ)
  | [], _ => none
  | entry :: rest, target =>
    (owner? rest target).or (if entry.2.target = target then some entry else none)

theorem settle_cons (entry : String × Rule φ) (rest : Mapping φ) :
    settle (entry :: rest) =
      if entry.2.target ∈ targets rest then settle rest
      else (entry.1, entry.2.settle) :: settle rest := rfl

theorem targets_cons (entry : String × Rule φ) (rest : Mapping φ) :
    targets (entry :: rest) = entry.2.target :: targets rest := rfl

theorem owner?_eq_none_iff {mapping : Mapping φ} {target : String} :
    mapping.owner? target = none ↔ target ∉ mapping.targets := by
  induction mapping with
  | nil => exact iff_of_true rfl List.not_mem_nil
  | cons entry rest ih =>
    rw [owner?, Option.or_eq_none_iff, ih, targets_cons, List.mem_cons, not_or, and_comm]
    refine and_congr_left fun _ => ?_
    by_cases h : entry.2.target = target
    · simp [h]
    · simp [h, Ne.symm h]

theorem owner?_cons_of_mem {entry : String × Rule φ} {rest : Mapping φ}
    (h : entry.2.target ∈ targets rest) (target : String) :
    owner? (entry :: rest) target = owner? rest target := by
  rw [owner?]
  by_cases ht : entry.2.target = target
  · -- The target comes again, so it has an owner among the later rules.
    cases hr : owner? rest target with
    | none => exact absurd (ht ▸ h) (owner?_eq_none_iff.mp hr)
    | some later => rfl
  · rw [if_neg ht, Option.or_none]

theorem owner?_cons_of_not_mem {entry : String × Rule φ} {rest : Mapping φ}
    (h : entry.2.target ∉ targets rest) (target : String) :
    owner? (entry :: rest) target =
      if entry.2.target = target then some entry else owner? rest target := by
  rw [owner?]
  by_cases ht : entry.2.target = target
  · rw [if_pos ht, if_pos ht, owner?_eq_none_iff.mpr (ht ▸ h), Option.none_or]
  · rw [if_neg ht, if_neg ht, Option.or_none]

theorem mem_of_owner? {mapping : Mapping φ} {target : String} {entry : String × Rule φ}
    (h : mapping.owner? target = some entry) : entry ∈ mapping := by
  induction mapping with
  | nil => exact nomatch h
  | cons head rest ih =>
    rw [owner?] at h
    rcases Option.or_eq_some_iff.mp h with hr | ⟨-, hh⟩
    · exact List.mem_cons_of_mem _ (ih hr)
    · obtain ⟨-, he⟩ := Option.ite_none_right_eq_some.mp hh
      exact Option.some.inj he ▸ List.mem_cons_self

theorem target_of_owner? {mapping : Mapping φ} {target : String} {entry : String × Rule φ}
    (h : mapping.owner? target = some entry) : entry.2.target = target := by
  induction mapping with
  | nil => exact nomatch h
  | cons head rest ih =>
    rw [owner?] at h
    rcases Option.or_eq_some_iff.mp h with hr | ⟨-, hh⟩
    · exact ih hr
    · obtain ⟨ht, he⟩ := Option.ite_none_right_eq_some.mp hh
      exact Option.some.inj he ▸ ht

theorem mem_targets_of_settle {mapping : Mapping φ} {target : String}
    (h : target ∈ mapping.settle.targets) : target ∈ mapping.targets := by
  induction mapping with
  | nil => exact h
  | cons entry rest ih =>
    rw [settle_cons] at h
    rw [targets_cons]
    by_cases ht : entry.2.target ∈ targets rest
    · rw [if_pos ht] at h
      exact List.mem_cons_of_mem _ (ih h)
    · rw [if_neg ht, targets_cons, Rule.target_settle] at h
      exact List.mem_cons.mpr ((List.mem_cons.mp h).imp_right ih)

/-- No target comes twice in a settled mapping. -/
theorem nodup_targets_settle (mapping : Mapping φ) : mapping.settle.targets.Nodup := by
  induction mapping with
  | nil => exact List.nodup_nil
  | cons entry rest ih =>
    rw [settle_cons]
    by_cases ht : entry.2.target ∈ targets rest
    · rw [if_pos ht]
      exact ih
    · rw [if_neg ht, targets_cons, Rule.target_settle]
      exact List.nodup_cons.mpr ⟨fun h => ht (mem_targets_of_settle h), ih⟩

theorem settle_eq_map {mapping : Mapping φ} (hn : mapping.targets.Nodup) :
    mapping.settle = mapping.map fun entry => (entry.1, entry.2.settle) := by
  induction mapping with
  | nil => rfl
  | cons entry rest ih =>
    rw [targets_cons, List.nodup_cons] at hn
    rw [settle_cons, if_neg hn.1, ih hn.2, List.map_cons]

theorem keys_settle_sublist (mapping : Mapping φ) :
    (Fields.keys mapping.settle).Sublist (Fields.keys mapping) := by
  induction mapping with
  | nil => exact .slnil
  | cons entry rest ih =>
    rw [settle_cons]
    by_cases ht : entry.2.target ∈ targets rest
    · rw [if_pos ht]
      exact ih.cons _
    · rw [if_neg ht]
      exact ih.cons_cons _

/-- Settling counts for colliding targets only. -/
theorem settle_of_oneToOne {mapping : Mapping φ} (ho : mapping.OneToOne) :
    mapping.settle = mapping := by
  induction mapping using induction with
  | level mapping ih =>
    have hs : ∀ entry ∈ mapping, entry.2.settle = entry.2 := by
      intro entry hm
      cases hi : entry.2.nested? with
      | none => exact Rule.settle_of_nested?_eq_none hi
      | some inner =>
        have hin : Inner inner mapping := ⟨entry, hm, hi⟩
        exact Rule.settle_of_nested?_eq_some hi (ih inner hin (ho.inner hin))
    have hm : mapping.map (fun entry => (entry.1, entry.2.settle)) = mapping.map id :=
      List.map_congr_left fun entry hm => by rw [hs entry hm, id]
    rw [settle_eq_map ho.here, hm, List.map_id]

/-! ### What the tables of the reverse direction hold -/

theorem get?_ofList_newNames (mapping : Mapping φ) (target : String) :
    Fields.get? (Fields.ofList (newNames .reverse mapping)) target =
      (mapping.owner? target).map Prod.fst := by
  induction mapping with
  | nil => rfl
  | cons entry rest ih =>
    have hg := Fields.get?_ofList_cons (entry.2.target, entry.1) (newNames .reverse rest) target
    rw [owner?, Option.map_or, ← ih]
    refine hg.trans (congrArg (Option.or _) ?_)
    by_cases h : entry.2.target = target
    · rw [if_pos h, if_pos h]
      rfl
    · rw [if_neg h, if_neg h]
      rfl

theorem get?_newNames_settle (mapping : Mapping φ) (target : String) :
    Fields.get? (newNames .reverse mapping.settle) target =
      (mapping.owner? target).map Prod.fst := by
  induction mapping with
  | nil => rfl
  | cons entry rest ih =>
    rw [settle_cons]
    by_cases ht : entry.2.target ∈ targets rest
    · rw [if_pos ht, owner?_cons_of_mem ht, ih]
    · have hn : newNames .reverse ((entry.1, entry.2.settle) :: settle rest) =
          (entry.2.target, entry.1) :: newNames .reverse (settle rest) := by
        rw [← Rule.target_settle]
        rfl
      rw [if_neg ht, owner?_cons_of_not_mem ht, hn, Fields.get?_cons, ih]
      split <;> rfl

/-- In a settled mapping the owner of a target is in charge of it. -/
theorem inCharge?_settle (mapping : Mapping φ) (target : String) :
    mapping.settle.inCharge? .reverse target =
      (mapping.owner? target).map fun entry => entry.2.settle := by
  induction mapping with
  | nil => rfl
  | cons entry rest ih =>
    rw [settle_cons]
    by_cases ht : entry.2.target ∈ targets rest
    · rw [if_pos ht, owner?_cons_of_mem ht, ih]
    · rw [if_neg ht, owner?_cons_of_not_mem ht, inCharge?, name, Direction.pick_reverse,
        Rule.target_settle, ih]
      by_cases he : entry.2.target = target
      · rw [if_pos he, if_pos he, owner?_eq_none_iff.mpr (he ▸ ht)]
        rfl
      · rw [if_neg he, if_neg he]

/-- The rule in charge of a target is the owner, or is of a higher rank than the owner. -/
theorem inCharge?_of_owner? {mapping : Mapping φ} {target : String} {entry : String × Rule φ}
    (h : mapping.owner? target = some entry) :
    mapping.inCharge? .reverse target = some entry.2 ∨
      ∃ rule, mapping.inCharge? .reverse target = some rule ∧ entry.2.rank < rule.rank := by
  induction mapping with
  | nil => exact nomatch h
  | cons head rest ih =>
    rw [inCharge?, name, Direction.pick_reverse]
    rw [owner?] at h
    cases ho : owner? rest target with
    | none =>
      -- The first rule is the owner, and no other rule has the target.
      rw [ho, Option.none_or] at h
      obtain ⟨ht, he⟩ := Option.ite_none_right_eq_some.mp h
      obtain rfl := Option.some.inj he
      have hn : target ∉ rest.map (name .reverse) := owner?_eq_none_iff.mp ho
      rw [if_pos ht, inCharge?_of_not_mem hn]
      exact .inl rfl
    | some owner =>
      rw [ho, Option.some_or] at h
      obtain rfl := Option.some.inj h
      -- What is in charge of the later rules gives way only to a rule of a higher rank.
      rcases ih ho with hc | ⟨later, hc, hl⟩
      · rw [hc]
        by_cases ht : head.2.target = target
        · by_cases hr : owner.2.rank < head.2.rank
          · exact .inr ⟨head.2, by simp [ht, hr], hr⟩
          · exact .inl (by simp [ht, hr])
        · exact .inl (by simp [ht])
      · rw [hc]
        by_cases ht : head.2.target = target
        · by_cases hr : later.rank < head.2.rank
          · exact .inr ⟨head.2, by simp [ht, hr], Nat.lt_trans hl hr⟩
          · exact .inr ⟨later, by simp [ht, hr], hl⟩
        · exact .inr ⟨later, by simp [ht], hl⟩

/-- Rules with a mapping inside are of the highest rank, so that one that owns a target is in charge
of it. -/
theorem inCharge?_of_owner?_nested {mapping inner : Mapping φ} {target : String}
    {entry : String × Rule φ} (h : mapping.owner? target = some entry)
    (hi : entry.2.nested? = some inner) :
    mapping.inCharge? .reverse target = some entry.2 := by
  rcases inCharge?_of_owner? h with hc | ⟨rule, -, hr⟩
  · exact hc
  · exact absurd (Rule.rank_le_of_nested? hi rule) (Nat.not_le.mpr hr)

end Mapping

/-! ### One level -/

namespace Compiled

theorem get?_rename (mapping : Mapping φ) (target : String) :
    Fields.get? ((ofMapping mapping).side .reverse).rename target =
      (mapping.owner? target).map Prod.fst := by
  rw [side_ofMapping, ← Mapping.get?_ofList_newNames]
  exact congrArg (Fields.get? · target) (Mapping.table_renames .reverse mapping)

theorem rename_settle (mapping : Mapping φ) :
    ((ofMapping mapping.settle).side .reverse).rename =
      Mapping.newNames .reverse mapping.settle :=
  rename_of_nodup (Mapping.nodup_targets_settle mapping)

theorem distinct_rename (mapping : Mapping φ) :
    Fields.Distinct ((ofMapping mapping).side .reverse).rename := by
  rw [side_ofMapping]
  exact Fields.distinct_ofList _

/-- A mapping and the settled one give the same new names, up to order. -/
theorem rename_settle_perm (mapping : Mapping φ) :
    ((ofMapping mapping).side .reverse).rename.Perm
      ((ofMapping mapping.settle).side .reverse).rename := by
  refine Fields.perm_of_get?_eq (distinct_rename mapping) (distinct_rename mapping.settle)
    fun target => ?_
  rw [get?_rename, rename_settle, Mapping.get?_newNames_settle]

/-- No new name is given twice. -/
theorem nodup_new_names {mapping : Mapping φ} (hd : Fields.Distinct mapping) :
    (((ofMapping mapping).side .reverse).rename.map Prod.snd).Nodup := by
  refine ((rename_settle_perm mapping).map Prod.snd).nodup_iff.mpr ?_
  rw [rename_settle, Mapping.newNames, List.map_map]
  exact hd.sublist (Mapping.keys_settle_sublist mapping)

/-- A record of one field goes through the rule in charge of it. -/
theorem apply_reverse_single {spec : Spec} {target name : String} {rule : Rule Transform}
    (hr : Fields.get? ((ofMapping spec).side .reverse).rename target = some name)
    (hc : spec.inCharge? .reverse target = some rule) (v : Value) :
    (ofMapping spec).apply .reverse (.object [(target, v)]) =
      (fun w => Value.object [(name, w)]) <$> rule.act .reverse v := by
  rw [apply_eq_throughSide, throughSide_object, Side.rebuild_single v (distinct_rename spec) hr,
    convert_inCharge hc, Functor.map_map]

/-- **A level agrees with the settled level** just where the rule in charge of each target agrees
with the owner. -/
theorem agree_settle_iff {spec : Spec} (hd : Fields.Distinct spec) :
    (∀ v, Run.Agree Value.Alike ((ofMapping spec).apply .reverse v)
      ((ofMapping spec.settle).apply .reverse v)) ↔
    ∀ target entry rule, spec.owner? target = some entry →
      spec.inCharge? .reverse target = some rule →
        ∀ v, Run.Agree Value.Alike (rule.act .reverse v) (entry.2.settle.act .reverse v) := by
  have hs : ∀ target entry, spec.owner? target = some entry →
      spec.settle.inCharge? .reverse target = some entry.2.settle := by
    intro target entry ho
    rw [Mapping.inCharge?_settle, ho]
    rfl
  constructor
  · -- A record of the target alone tells what the two rules do with a value.
    intro h target entry rule ho hc v
    have hr : Fields.get? ((ofMapping spec).side .reverse).rename target = some entry.1 := by
      rw [get?_rename, ho]
      rfl
    have hr' : Fields.get? ((ofMapping spec.settle).side .reverse).rename target =
        some entry.1 := by
      rw [rename_settle, Mapping.get?_newNames_settle, ho]
      rfl
    have hv := h (.object [(target, v)])
    rw [apply_reverse_single hr hc, apply_reverse_single hr' (hs target entry ho)] at hv
    exact hv.of_map fun _ _ => Value.Alike.of_single
  · intro h v
    refine agree_of_records (fun record => ?_) v
    rw [apply_eq_throughSide, apply_eq_throughSide, throughSide_object, throughSide_object]
    refine (Side.rebuild_agree (rename_settle_perm spec) (nodup_new_names hd) ?_ record).map
      fun _ _ ha => ha
    intro rename hm w
    -- A target with a new name has an owner, and so a rule in charge.
    have hg : Fields.get? ((ofMapping spec.settle).side .reverse).rename rename.1 =
        some rename.2 := Fields.get?_of_mem (distinct_rename spec.settle) hm
    rw [rename_settle, Mapping.get?_newNames_settle] at hg
    obtain ⟨entry, ho, -⟩ := Option.map_eq_some_iff.mp hg
    obtain ⟨rule, hc⟩ : ∃ rule, spec.inCharge? .reverse rename.1 = some rule := by
      rcases Mapping.inCharge?_of_owner? ho with hc | ⟨rule, hc, -⟩
      · exact ⟨entry.2, hc⟩
      · exact ⟨rule, hc⟩
    rw [convert_inCharge hc, convert_inCharge (hs rename.1 entry ho)]
    exact h rename.1 entry rule ho hc w

end Compiled

/-! ### All levels -/

/-- A rule with a mapping inside agrees with the settled rule just where the mapping does with the
settled mapping. -/
theorem Rule.agree_settle_iff {rule : Rule Transform} {inner : Spec}
    (hi : rule.nested? = some inner) :
    (∀ v, Run.Agree Value.Alike (rule.act .reverse v) (rule.settle.act .reverse v)) ↔
      ∀ v, Run.Agree Value.Alike ((Compiled.ofMapping inner).apply .reverse v)
        ((Compiled.ofMapping inner.settle).apply .reverse v) := by
  cases rule with
  | copy target => exact nomatch hi
  | convert grain target there back => exact nomatch hi
  | nest arity target rules =>
    obtain rfl : rules = inner := Option.some.inj hi
    constructor
    · intro h v
      exact Compiled.agree_of_records (fun record => h (.object record)) v
    · intro h v
      exact Run.Agree.pastNull (Run.Agree.onElements h) v

/-- **Each target belongs to its last rule alone**: what converts its values is the last rule, with
the same at the level inside it, or a rule of a higher rank that converts every value as the last
rule would. -/
inductive Mapping.LastOwns : Spec → Prop
  | intro {spec : Spec}
      (nested : ∀ target entry inner, spec.owner? target = some entry →
        entry.2.nested? = some inner → LastOwns inner)
      (displaced : ∀ target entry rule, spec.owner? target = some entry →
        spec.inCharge? .reverse target = some rule → entry.2.rank < rule.rank →
          ∀ v, Run.Agree Value.Alike (rule.act .reverse v) (entry.2.settle.act .reverse v)) :
      LastOwns spec

namespace Mapping

/-- At every level, a rule is of no lower rank than the rules before it that have its target. -/
def Ranked (mapping : Mapping φ) : Prop :=
  Everywhere (List.Pairwise fun earlier later =>
    earlier.2.target = later.2.target → earlier.2.rank ≤ later.2.rank) mapping

instance (mapping : Mapping φ) : Decidable (Ranked mapping) :=
  inferInstanceAs (Decidable (Everywhere _ mapping))

/-- Where ranks do not go down, the owner of a target is in charge of it. -/
theorem inCharge?_of_pairwise {mapping : Mapping φ}
    (hp : mapping.Pairwise fun earlier later =>
      earlier.2.target = later.2.target → earlier.2.rank ≤ later.2.rank)
    (target : String) :
    mapping.inCharge? .reverse target = (mapping.owner? target).map Prod.snd := by
  induction mapping with
  | nil => rfl
  | cons entry rest ih =>
    obtain ⟨hl, hr⟩ := List.pairwise_cons.mp hp
    rw [inCharge?, name, Direction.pick_reverse, owner?, ih hr]
    by_cases ht : entry.2.target = target
    · cases ho : owner? rest target with
      | none => simp [ht]
      | some owner =>
        have hle : entry.2.rank ≤ owner.2.rank :=
          hl owner (mem_of_owner? ho) (ht.trans (target_of_owner? ho).symm)
        simp [ht, Nat.not_lt.mpr hle]
    · simp [ht]

/-- Where ranks do not go down, each target belongs to its last rule alone. -/
theorem Ranked.lastOwns {spec : Spec} (h : spec.Ranked) : spec.LastOwns := by
  induction spec using Mapping.induction with
  | level spec ih =>
    refine .intro (fun target entry inner ho hi => ?_) fun target entry rule ho hc hr => ?_
    · have hin : Inner inner spec := ⟨entry, mem_of_owner? ho, hi⟩
      exact ih inner hin (h.inner hin)
    · -- The owner is in charge, and is not of a higher rank than itself.
      rw [inCharge?_of_pairwise h.here, ho] at hc
      obtain rfl := Option.some.inj hc
      exact absurd hr (Nat.lt_irrefl _)

end Mapping

namespace Compiled

/-- A compiled mapping agrees in reverse with the settled one just where each target belongs to its
last rule alone. -/
theorem apply_reverse_settle_iff {spec : Spec} (hk : spec.Keyed) :
    (∀ v, Run.Agree Value.Alike ((ofMapping spec).apply .reverse v)
      ((ofMapping spec.settle).apply .reverse v)) ↔ spec.LastOwns := by
  induction spec using Mapping.induction with
  | level spec ih =>
    rw [agree_settle_iff hk.here]
    have inside : ∀ {target entry inner}, spec.owner? target = some entry →
        entry.2.nested? = some inner → Mapping.Inner inner spec :=
      fun ho hi => ⟨_, Mapping.mem_of_owner? ho, hi⟩
    constructor
    · intro h
      refine .intro (fun target entry inner ho hi => ?_)
        fun target entry rule ho hc _ => h target entry rule ho hc
      -- The owner is in charge, so the mapping inside it is taken against its settled form.
      have hc := Mapping.inCharge?_of_owner?_nested ho hi
      refine (ih inner (inside ho hi) (hk.inner (inside ho hi))).mp ?_
      exact (Rule.agree_settle_iff hi).mp (h target entry entry.2 ho hc)
    · rintro ⟨nested, displaced⟩ target entry rule ho hc
      rcases Mapping.inCharge?_of_owner? ho with he | ⟨higher, he, hr⟩
      · obtain rfl := Option.some.inj (hc.symm.trans he)
        cases hi : entry.2.nested? with
        | none =>
          -- Settling changes only what is inside a rule.
          rw [Rule.settle_of_nested?_eq_none hi]
          intro v
          exact .refl .refl _
        | some inner =>
          refine (Rule.agree_settle_iff hi).mpr ?_
          refine (ih inner (inside ho hi) (hk.inner (inside ho hi))).mpr ?_
          exact nested target entry inner ho hi
      · obtain rfl := Option.some.inj (hc.symm.trans he)
        exact displaced target entry rule ho hc hr

end Compiled

namespace Mapper

open Example

/-- **When colliding targets belong to their last rules.** Mapping in reverse, a spec and the
settled spec answer alike and fail alike, whatever the value, just where each target belongs to its
last rule alone. A rule that is displaced by a later rule of a lower rank is in charge all the
same. -/
theorem mapReverse_settle_iff (spec : Spec) (hk : spec.Keyed) :
    (∀ v, Run.Agree Value.Alike ((ofSpec spec).value.mapReverse v)
      ((ofSpec spec.settle).value.mapReverse v)) ↔ spec.LastOwns :=
  Compiled.apply_reverse_settle_iff hk

/-- With the later rule of the higher rank, the target belongs to it alone. -/
theorem agree_settle_rivals_reverse : Mapping.Keyed rivals.reverse ∧
    ∀ v, Run.Agree Value.Alike ((ofSpec rivals.reverse).value.mapReverse v)
      ((ofSpec (Mapping.settle rivals.reverse)).value.mapReverse v) :=
  ⟨by decide, (mapReverse_settle_iff rivals.reverse (by decide)).mpr
    (Mapping.Ranked.lastOwns (by decide))⟩

/-- With the later rule of the lower rank, the transform of the displaced rule is called. -/
theorem not_agree_settle_rivals : rivals.Keyed ∧
    ¬ ∀ v, Run.Agree Value.Alike ((ofSpec rivals).value.mapReverse v)
      ((ofSpec rivals.settle).value.mapReverse v) := by
  refine ⟨by decide, fun h => ?_⟩
  have hr : ((ofSpec rivals).value.mapReverse (bill 5 (by decide))).outcome =
      .ok (.object [("total", .ofSigned 4 (by decide))]) := rfl
  have hs : ((ofSpec rivals.settle).value.mapReverse (bill 5 (by decide))).outcome =
      .ok (.object [("total", .ofSigned 5 (by decide))]) := rfl
  exact nomatch ((h (bill 5 (by decide))).related hr hs).of_single

end Mapper

end Reshape
