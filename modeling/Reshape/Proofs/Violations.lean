import Reshape.Proofs.Collisions

/-!
# What validation refuses

A mapping is sound if no level has an empty name or two fields with one target. Validation refuses
the others for the first rule, depth first, that makes them unsound, and its reason names the fields
from the root down. The path of that rule can be kept as a text that is empty at the root: a field
without a name is refused before it becomes part of a path, so no other path is the empty text.

## Main definitions

* `Mapping.Sound`: no empty names and no shared targets, at any level
* `Mapping.Refused`: the first violation of a mapping, and the reason for which it is refused
* `Mapping.refusal?`: the reason, found with paths that are kept as texts

## Main results

* `Mapping.Refused.reason_eq`: what is refused has no other reason
* `Mapping.sound_or_refused`: a mapping is sound or refused
* `Mapping.refusal?_eq`: paths that are kept as texts give the same reasons
* `Mapping.validate_sound_or_refused`: validation, for every mapping
-/

namespace Reshape

variable {φ : Type}

namespace Mapping

open Violation (chain)

/-! ### Sound mappings -/

/-- **A sound mapping**: at every level no field and no target has an empty name, and no two fields
have one target. -/
def Sound (mapping : Mapping φ) : Prop :=
  Everywhere (fun level => "" ∉ level.fields ∧ "" ∉ level.targets ∧ level.targets.Nodup) mapping

instance (mapping : Mapping φ) : Decidable (Sound mapping) :=
  inferInstanceAs (Decidable (Everywhere _ mapping))

variable {before after mapping : Mapping φ} {entry : String × Rule φ} {path : List String}

theorem sound_nil : Sound ([] : Mapping φ) :=
  ⟨⟨nofun, nofun, List.nodup_nil⟩, trivial⟩

theorem inner_concat_iff {inner : Mapping φ} :
    Inner inner (before ++ [entry]) ↔ Inner inner before ∨ entry.2.nested? = some inner := by
  simp only [Inner, List.mem_append, List.mem_singleton, or_and_right, exists_or, exists_eq_left]

/-- One more rule keeps a mapping sound if it has names, its target is new, and it is sound
inside. -/
theorem sound_concat_iff :
    Sound (before ++ [entry]) ↔ Sound before ∧ entry.1 ≠ "" ∧ entry.2.target ≠ "" ∧
      entry.2.target ∉ before.targets ∧ ∀ inner, entry.2.nested? = some inner → Sound inner := by
  have hf : fields (before ++ [entry]) = before.fields ++ [entry.1] := List.map_append
  have hin : (∀ inner, Inner inner (before ++ [entry]) → Sound inner) ↔
      (∀ inner, Inner inner before → Sound inner) ∧
        ∀ inner, entry.2.nested? = some inner → Sound inner := by
    simp only [inner_concat_iff, or_imp, forall_and]
  rw [Sound, everywhere_iff, hf, targets_concat]
  refine (and_congr_right' hin).trans ?_
  rw [Sound, everywhere_iff, List.mem_append, List.mem_append, List.mem_singleton,
    List.mem_singleton, ← List.concat_eq_append, List.nodup_concat]
  tauto

/-! ### The first violation -/

/-- **The first violation of a mapping** that stands at the end of a path: the rules before it are
sound, inside and out, and of what can be wrong with one rule it is the first of an empty field
name, an empty target, a target that an earlier field has, and the violations inside. The reason
names the fields from the root down. -/
inductive Refused : List String → Mapping φ → String → Prop
  | emptyField {before after : Mapping φ} {rule : Rule φ} (sound : Sound before) :
      Refused [] (before ++ ("", rule) :: after) "Field name cannot be empty"
  | emptyFieldIn {path : List String} {before after : Mapping φ} {rule : Rule φ}
      (inside : path ≠ []) (sound : Sound before) :
      Refused path (before ++ ("", rule) :: after)
        s!"Field name cannot be empty in {chain path}"
  | emptyTarget {path : List String} {before after : Mapping φ} {field : String} {rule : Rule φ}
      (sound : Sound before) (named : field ≠ "") (empty : rule.target = "") :
      Refused path (before ++ (field, rule) :: after)
        s!"Field {chain (path ++ [field])} has an empty target key"
  | sharedTarget {path : List String} {before after : Mapping φ} {earlier field : String}
      {rule rule' : Rule φ} (sound : Sound before) (named : field ≠ "") (target : rule.target ≠ "")
      (mem : (earlier, rule') ∈ before) (shared : rule'.target = rule.target) :
      Refused path (before ++ (field, rule) :: after)
        (s!"Fields {chain (path ++ [earlier])} and {chain (path ++ [field])}" ++
          s!" both map to target key '{rule.target}'")
  | inside {path : List String} {before after rules : Mapping φ} {field : String} {rule : Rule φ}
      {reason : String} (sound : Sound before) (named : field ≠ "") (target : rule.target ≠ "")
      (fresh : rule.target ∉ before.targets) (inner : rule.nested? = some rules)
      (refused : Refused (path ++ [field]) rules reason) :
      Refused path (before ++ (field, rule) :: after) reason

/-- After sound rules a rule is sound as well, inside and out, or it has the first violation. -/
theorem sound_or_refused_concat {field : String} {rule : Rule φ} (hs : Sound before)
    (hin : ∀ inner, rule.nested? = some inner →
      Sound inner ∨ ∃ reason, Refused (path ++ [field]) inner reason) :
    Sound (before ++ [(field, rule)]) ∨
      ∃ reason, ∀ after, Refused path (before ++ (field, rule) :: after) reason := by
  by_cases hf : field = ""
  · subst hf
    by_cases hp : path = []
    · subst hp
      exact .inr ⟨_, fun _ => .emptyField hs⟩
    · exact .inr ⟨_, fun _ => .emptyFieldIn hp hs⟩
  by_cases ht : rule.target = ""
  · exact .inr ⟨_, fun _ => .emptyTarget hs hf ht⟩
  by_cases hn : rule.target ∈ before.targets
  · obtain ⟨⟨earlier, rule'⟩, hmem, hshared⟩ := List.mem_map.mp hn
    exact .inr ⟨_, fun _ => .sharedTarget hs hf ht hmem hshared⟩
  cases hr : rule.nested? with
  | none =>
    refine .inl (sound_concat_iff.mpr ⟨hs, hf, ht, hn, fun inner hi => ?_⟩)
    cases hr.symm.trans hi
  | some inner =>
    obtain h | ⟨reason, h⟩ := hin inner hr
    · refine .inl (sound_concat_iff.mpr ⟨hs, hf, ht, hn, fun other hi => ?_⟩)
      exact Option.some.inj (hr.symm.trans hi) ▸ h
    · exact .inr ⟨reason, fun _ => .inside hs hf ht hn hr h⟩

/-- **A mapping is sound, or there is a first violation.** -/
theorem sound_or_refused (mapping : Mapping φ) (path : List String) :
    Sound mapping ∨ ∃ reason, Refused path mapping reason := by
  induction mapping using induction generalizing path with
  | level mapping ih =>
    -- Rule by rule: those so far are sound.
    suffices h : ∀ rest before, before ++ rest = mapping → Sound before →
        Sound mapping ∨ ∃ reason, Refused path mapping reason from h mapping [] rfl sound_nil
    intro rest
    induction rest with
    | nil =>
      intro before hm hs
      rw [List.append_nil] at hm
      exact .inl (hm ▸ hs)
    | cons entry rest hrest =>
      intro before hm hs
      have hin : ∀ inner, entry.2.nested? = some inner →
          Sound inner ∨ ∃ reason, Refused (path ++ [entry.1]) inner reason :=
        fun inner hi => ih inner ⟨entry, hm ▸ by simp, hi⟩ _
      obtain h | ⟨reason, h⟩ := sound_or_refused_concat hs hin
      · exact hrest (before ++ [entry]) (by simpa using hm) h
      · exact .inr ⟨reason, hm ▸ h rest⟩

/-! ### Finding it -/

theorem ruleViolation?_eq (path : List String) (rule : Rule φ) :
    ruleViolation? path rule = rule.nested?.bind (rulesViolation? path []) := by
  cases rule <;> rfl

theorem rulesViolation?_cons (path : List String) (owners : Fields String)
    (entry : String × Rule φ) (rest : Mapping φ) :
    rulesViolation? path owners (entry :: rest) =
      ((ownViolation? path owners entry.1 entry.2.target).or
        (entry.2.nested?.bind (rulesViolation? (path ++ [entry.1]) []))).or
          (rulesViolation? path (Fields.insert owners entry.2.target entry.1) rest) := by
  rw [rulesViolation?, ruleViolation?_eq]

theorem ownViolation?_owners (path : List String) (before : Mapping φ) {field target : String}
    (hf : field ≠ "") (ht : target ≠ "") :
    ownViolation? path before.owners field target =
      (before.owner? target).map fun owner => .sharedTarget path owner.1 field target := by
  rw [ownViolation?, if_neg hf, if_neg ht, owners, get?_ofList_newNames, Option.map_map]
  rfl

/-- With a new target, the names of a rule are no violation. -/
theorem ownViolation?_of_fresh {field target : String} (hf : field ≠ "") (ht : target ≠ "")
    (hn : target ∉ before.targets) : ownViolation? path before.owners field target = none := by
  rw [ownViolation?_owners path before hf ht, owner?_eq_none_iff.mpr hn, Option.map_none]

/-- In a sound mapping the owner of a target is the one rule that has it. -/
theorem owner?_of_mem (hs : Sound before) (hm : entry ∈ before) :
    before.owner? entry.2.target = some entry := by
  cases ho : before.owner? entry.2.target with
  | none => exact absurd (List.mem_map_of_mem hm) (owner?_eq_none_iff.mp ho)
  | some owner =>
    rw [List.inj_on_of_nodup_map hs.here.2.2 (mem_of_owner? ho) hm (target_of_owner? ho)]

/-- Sound rules are passed by, if nothing is found inside them. -/
theorem rulesViolation?_append_of_inner (hs : Sound before)
    (hin : ∀ inner, Inner inner before → ∀ path, rulesViolation? path [] inner = none)
    (path : List String) (rest : Mapping φ) :
    rulesViolation? path [] (before ++ rest) = rulesViolation? path before.owners rest := by
  induction before using List.reverseRecOn generalizing rest with
  | nil => rfl
  | append_singleton before entry ih =>
    obtain ⟨hsound, hf, ht, hn, -⟩ := sound_concat_iff.mp hs
    have hnone : entry.2.nested?.bind (rulesViolation? (path ++ [entry.1]) []) = none := by
      rw [Option.bind_eq_none_iff]
      exact fun inner hi => hin inner (inner_concat_iff.mpr (.inr hi)) _
    rw [List.append_assoc, List.singleton_append,
      ih hsound fun inner hi => hin inner (inner_concat_iff.mpr (.inl hi)),
      rulesViolation?_cons, ownViolation?_of_fresh hf ht hn, hnone, owners_concat]
    rfl

/-- Nothing is found in a sound mapping. -/
theorem rulesViolation?_of_sound (hs : Sound mapping) (path : List String) :
    rulesViolation? path [] mapping = none := by
  induction mapping using induction generalizing path with
  | level mapping ih =>
    have h := rulesViolation?_append_of_inner hs
      (fun inner hi => ih inner hi (hs.inner hi)) path []
    rwa [List.append_nil] at h

/-- Sound rules are passed by. -/
theorem rulesViolation?_append (hs : Sound before) (path : List String) (rest : Mapping φ) :
    rulesViolation? path [] (before ++ rest) = rulesViolation? path before.owners rest :=
  rulesViolation?_append_of_inner hs (fun _ hi => rulesViolation?_of_sound (hs.inner hi)) path rest

/-- **The first violation is the one that is found.** -/
theorem Refused.reason_eq {reason : String} (h : Refused path mapping reason) :
    (rulesViolation? path [] mapping).map Violation.message = some reason := by
  induction h with
  | emptyField sound =>
    rw [rulesViolation?_append sound, rulesViolation?_cons, ownViolation?, if_pos rfl]
    rfl
  | @emptyFieldIn path before after rule inside sound =>
    rw [rulesViolation?_append sound, rulesViolation?_cons, ownViolation?, if_pos rfl]
    cases path with
    | nil => exact absurd rfl inside
    | cons field path => simp [Violation.message, String.join, toString]
  | emptyTarget sound named empty =>
    rw [rulesViolation?_append sound, rulesViolation?_cons, ownViolation?, if_neg named,
      if_pos empty]
    simp [Violation.message, String.join, toString]
  | sharedTarget sound named target mem shared =>
    rw [rulesViolation?_append sound, rulesViolation?_cons, ownViolation?_owners _ _ named target,
      ← shared, owner?_of_mem sound mem]
    simp [Violation.message, String.join, toString, String.append_assoc]
  | inside sound named target fresh inner _ ih =>
    -- The rule's own names are in order, so what is found inside it comes first.
    rw [rulesViolation?_append sound, rulesViolation?_cons,
      ownViolation?_of_fresh named target fresh, inner, Option.none_or, Option.bind_some,
      Option.map_or, ih, Option.some_or]

/-! ### Paths kept as texts -/

/-- The text of a path that goes on with a field. The path of the root has no text. -/
def qualified (path field : String) : String :=
  if path = "" then field else .join [path, ".", field]

/-- The text that says where a path leads, for all but the root. -/
def location (path : String) : String :=
  if path = "" then "" else .join [" in ", path]

/-- The reason for which a rule's own names are refused. -/
def ownRefusal? (path : String) (owners : Fields String) (field target : String) : Option String :=
  if field = "" then some (.join ["Field name cannot be empty", location path])
  else if target = "" then
    some (.join ["Field ", qualified path field, " has an empty target key"])
  else
    (Fields.get? owners target).map fun earlier =>
      .join ["Fields ", qualified path earlier, " and ", qualified path field,
        " both map to target key '", target, "'"]

mutual

/-- The first reason to refuse a rule for what is inside. -/
def ruleRefusal? (path : String) : Rule φ → Option String
  | .copy _ => none
  | .convert _ _ _ _ => none
  | .nest _ _ rules => rulesRefusal? path [] rules
termination_by structural rule => rule

/-- The first reason to refuse rules. -/
def rulesRefusal? (path : String) (owners : Fields String) :
    List (String × Rule φ) → Option String
  | [] => none
  | (field, rule) :: rest =>
    ((ownRefusal? path owners field rule.target).or
      (ruleRefusal? (qualified path field) rule)).or
        (rulesRefusal? path (Fields.insert owners rule.target field) rest)
termination_by structural rules => rules

end

/-- **The reason to refuse a mapping**, with a text for a path. -/
def refusal? (mapping : Mapping φ) : Option String :=
  rulesRefusal? "" [] mapping

/-- The path of the root alone has no text, if no field of a path has an empty name. -/
theorem chain_eq_empty_iff (h : "" ∉ path) : chain path = "" ↔ path = [] := by
  cases path with
  | nil => exact iff_of_true rfl rfl
  | cons field rest =>
    have hf : field ≠ "" := fun he => h (he ▸ List.mem_cons_self)
    refine iff_of_false (fun he => hf ?_) (List.cons_ne_nil _ _)
    cases rest with
    | nil => rwa [chain, String.intercalate_singleton] at he
    | cons next rest =>
      rw [chain, String.intercalate_cons_cons, String.append_eq_empty_iff] at he
      exact (String.append_eq_empty_iff.mp he.1).1

theorem qualified_chain (h : "" ∉ path) (field : String) :
    qualified (chain path) field = chain (path ++ [field]) := by
  by_cases hp : path = []
  · rw [hp, List.nil_append, chain, chain, String.intercalate_singleton]
    rfl
  · rw [qualified, if_neg (mt (chain_eq_empty_iff h).mp hp), chain, chain,
      String.intercalate_append_of_ne_nil hp (List.cons_ne_nil _ _), String.intercalate_singleton]
    simp [String.join]

theorem message_emptyField (h : "" ∉ path) :
    (Violation.emptyField path).message =
      .join ["Field name cannot be empty", location (chain path)] := by
  cases path with
  | nil => rfl
  | cons field path =>
    rw [location, if_neg (mt (chain_eq_empty_iff h).mp (List.cons_ne_nil _ _))]
    simp only [Violation.message, String.join, List.foldl_cons, List.foldl_nil, String.empty_append]
    rw [← String.append_assoc]
    rfl

theorem ownRefusal?_chain (h : "" ∉ path) (owners : Fields String) (field target : String) :
    ownRefusal? (chain path) owners field target =
      (ownViolation? path owners field target).map Violation.message := by
  simp only [ownRefusal?, ownViolation?, apply_ite (Option.map Violation.message), Option.map_some,
    Option.map_map, qualified_chain h, message_emptyField h]
  rfl

-- A field with an empty name is refused before the rules inside it are reached, so no path that is
-- reached has one.
mutual

theorem ruleRefusal?_chain : ∀ (rule : Rule φ) {path : List String}, "" ∉ path →
    ruleRefusal? (chain path) rule = (ruleViolation? path rule).map Violation.message
  | .copy _, _, _ => rfl
  | .convert _ _ _ _, _, _ => rfl
  | .nest _ _ rules, _, h => rulesRefusal?_chain rules h []
termination_by structural rule => rule

theorem rulesRefusal?_chain : ∀ (rules : List (String × Rule φ)) {path : List String},
    "" ∉ path → ∀ owners, rulesRefusal? (chain path) owners rules =
      (rulesViolation? path owners rules).map Violation.message
  | [], _, _, _ => rfl
  | (field, rule) :: rest, path, h, owners => by
    rw [rulesRefusal?, rulesViolation?, Option.map_or, Option.map_or, ownRefusal?_chain h]
    by_cases hf : field = ""
    · rw [ownViolation?, if_pos hf]
      rfl
    have hp : "" ∉ path ++ [field] := by simp [h, Ne.symm hf]
    rw [qualified_chain h, ruleRefusal?_chain rule hp, rulesRefusal?_chain rest h]
termination_by structural rules => rules

end

/-- **Paths kept as texts** give the same reasons. -/
theorem refusal?_eq (mapping : Mapping φ) :
    mapping.refusal? = mapping.violation?.map Violation.message :=
  rulesRefusal?_chain mapping List.not_mem_nil []

/-! ### Validation -/

theorem validate_of_sound (h : Sound mapping) : mapping.validate = .ok () := by
  rw [validate, violation?, rulesViolation?_of_sound h]

theorem validate_of_refused {reason : String} (h : Refused [] mapping reason) :
    mapping.validate = .error (.invalidMapping reason) := by
  obtain ⟨violation, hv, rfl⟩ := Option.map_eq_some_iff.mp h.reason_eq
  rw [validate, violation?, hv]

/-- **Validation** accepts the sound mappings and no others. It refuses any other for its first
violation, depth first, with the reason that names the fields from the root down, and that reason is
found just as well with the path kept as a text. -/
theorem validate_sound_or_refused (mapping : Mapping φ) :
    (mapping.validate = .ok () ↔ mapping.Sound) ∧
      (∀ e, mapping.validate = .error e ↔
        ∃ reason, Refused [] mapping reason ∧ e = .invalidMapping reason) ∧
      ∀ reason, mapping.validate = .error (.invalidMapping reason) ↔
        mapping.refusal? = some reason := by
  have herror : ∀ e, mapping.validate = .error e ↔
      ∃ reason, Refused [] mapping reason ∧ e = .invalidMapping reason := by
    intro e
    constructor
    · intro he
      obtain hs | ⟨reason, hr⟩ := sound_or_refused mapping []
      · cases (validate_of_sound hs).symm.trans he
      · exact ⟨reason, hr, Except.error.inj (he.symm.trans (validate_of_refused hr))⟩
    · rintro ⟨reason, hr, rfl⟩
      exact validate_of_refused hr
  refine ⟨⟨fun hok => ?_, validate_of_sound⟩, herror, fun reason => ?_⟩
  · obtain hs | ⟨reason, hr⟩ := sound_or_refused mapping []
    · exact hs
    · cases (validate_of_refused hr).symm.trans hok
  · rw [refusal?_eq, validate]
    cases mapping.violation? with
    | none => simp
    | some violation => simp

/-- A field without a name inside another is refused with the path that leads to it. -/
example : validate (φ := Empty) [("friends", .nest .many "friends" [("", .copy "x")])] =
    .error (.invalidMapping "Field name cannot be empty in friends") := by
  decide

end Mapping

end Reshape
