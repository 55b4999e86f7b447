import Reshape.Fields
import Mathlib.Data.List.Induction
import Mathlib.Data.List.Nodup

/-!
# Collected fields

Collecting entries one by one is a look-up table in which the last entry of a name counts. Here is
what a look-up finds in it, and that the order of its entries is all that tells it from another
table with the same look-ups.

## Main definitions

* `Fields.insert?`: an update if there is an entry to set
* `Fields.Last`: the last entry of a name
* `Fields.Collects`: what entries are collected to, told by names and look-ups

## Main results

* `Fields.get?_insertAll`, `Fields.get?_ofList_cons`: the last entry of a name is found
* `Fields.perm_of_get?_eq`: fields with the same look-ups are the same up to order
* `Fields.insertAll_ofList`: entries may be collected before they are set
* `Fields.keys_ofList`: the names of collected entries, in order of their first occurrence
* `Fields.get?_ofList_eq_some_iff`: collected entries hold the last entry of each name
* `Fields.eq_of_get?_eq`: fields with the same names in order and the same look-ups are the same
* `Fields.collects_iff`: entries are collected to one thing only
-/

namespace Reshape

universe u v

namespace Fields

variable {α : Type u} {β : Type v}

/-! ### Look-ups in entries of distinct names -/

theorem mem_keys_of_mem {fields : Fields α} {entry : String × α} (h : entry ∈ fields) :
    entry.1 ∈ keys fields :=
  List.mem_map_of_mem h

theorem get?_of_mem {fields : Fields α} (hd : Distinct fields) {entry : String × α}
    (h : entry ∈ fields) : get? fields entry.1 = some entry.2 := by
  induction fields with
  | nil => exact absurd h List.not_mem_nil
  | cons head rest ih =>
    obtain ⟨hn, hr⟩ := List.nodup_cons.mp hd
    rcases List.mem_cons.mp h with rfl | hm
    · rw [get?_cons, if_pos rfl]
    · have hne : head.1 ≠ entry.1 := fun e => hn (e ▸ mem_keys_of_mem hm)
      rw [get?_cons, if_neg hne]
      exact ih hr hm

theorem get?_eq_some_iff {fields : Fields α} (hd : Distinct fields) {key : String} {a : α} :
    get? fields key = some a ↔ (key, a) ∈ fields :=
  ⟨mem_of_get?_eq_some, fun h => get?_of_mem hd h⟩

theorem Distinct.nodup {fields : Fields α} (hd : Distinct fields) : fields.Nodup :=
  List.Nodup.of_map Prod.fst hd

/-- Fields of distinct names with the same look-ups are the same up to order. -/
theorem perm_of_get?_eq {fields fields' : Fields α} (hd : Distinct fields)
    (hd' : Distinct fields') (h : ∀ key, get? fields key = get? fields' key) :
    fields.Perm fields' := by
  -- Lists without repetition are the same up to order if they have the same members.
  rw [List.perm_ext_iff_of_nodup hd.nodup hd'.nodup]
  rintro ⟨key, a⟩
  rw [← get?_eq_some_iff hd, ← get?_eq_some_iff hd', h]

/-- The order of fields of distinct names does not count for look-ups. -/
theorem get?_eq_of_perm {fields fields' : Fields α} (hd : Distinct fields)
    (hp : fields.Perm fields') (key : String) : get? fields key = get? fields' key := by
  have hd' : Distinct fields' := (hp.map Prod.fst).nodup_iff.mp hd
  refine Option.ext fun a => ?_
  rw [get?_eq_some_iff hd, get?_eq_some_iff hd', hp.mem_iff]

/-! ### Look-ups in collected entries -/

/-- After entries are set one after another, a look-up finds the last of its name, and what was
there before if there is none. -/
theorem get?_insertAll (fields entries : Fields α) (key : String) :
    get? (insertAll fields entries) key =
      (get? (ofList entries) key).or (get? fields key) := by
  induction entries generalizing fields with
  | nil => rfl
  | cons entry rest ih =>
    have hf : get? (insertAll fields (entry :: rest)) key =
        (get? (ofList rest) key).or (get? (insert fields entry.1 entry.2) key) := ih _
    have hn : get? (ofList (entry :: rest)) key =
        (get? (ofList rest) key).or (get? [entry] key) := ih _
    -- The first entry stands between what comes after it and what was there before.
    rw [hf, hn, Option.or_assoc, get?_insert, get?_cons]
    by_cases h : entry.1 = key <;> simp [h]

/-- In collected entries the first counts only if its name does not come again. -/
theorem get?_ofList_cons (entry : String × α) (rest : Fields α) (key : String) :
    get? (ofList (entry :: rest)) key =
      (get? (ofList rest) key).or (if entry.1 = key then some entry.2 else none) :=
  get?_insertAll [entry] rest key

/-! ### Entries set one more time -/

/-- Sets the entry of a name, if there is one to set. -/
def insert? (fields : Fields α) (key : String) : Option α → Fields α
  | none => fields
  | some a => insert fields key a

theorem get?_insert? (fields : Fields α) (key other : String) (a : Option α) :
    get? (insert? fields key a) other =
      if key = other then a.or (get? fields other) else get? fields other := by
  cases a with
  | none => simp [insert?]
  | some a => simpa [insert?] using get?_insert fields key other a

theorem mem_insert {fields : Fields α} {key : String} {a : α} {entry : String × α}
    (h : entry ∈ insert fields key a) : entry ∈ fields ∨ entry = (key, a) := by
  induction fields with
  | nil => exact .inr (List.mem_singleton.mp h)
  | cons head rest ih =>
    rw [insert_cons] at h
    by_cases hk : head.1 = key
    · rw [if_pos hk, List.mem_cons] at h
      rcases h with rfl | h
      · exact .inr (by rw [hk])
      · exact .inl (List.mem_cons_of_mem _ h)
    · rw [if_neg hk, List.mem_cons] at h
      rcases h with rfl | h
      · exact .inl List.mem_cons_self
      · exact (ih h).imp_left (List.mem_cons_of_mem _)

theorem ofList_append (entries others : List (String × α)) :
    ofList (entries ++ others) = insertAll (ofList entries) others :=
  List.foldl_append

theorem ofList_concat (entries : List (String × α)) (entry : String × α) :
    ofList (entries ++ [entry]) = insert (ofList entries) entry.1 entry.2 :=
  ofList_append entries [entry]

theorem mem_of_mem_ofList {entries : List (String × α)} {entry : String × α}
    (h : entry ∈ ofList entries) : entry ∈ entries := by
  induction entries using List.reverseRecOn with
  | nil => exact h
  | append_singleton entries last ih =>
    rw [ofList_concat] at h
    rcases mem_insert h with h | rfl
    · exact List.mem_append_left _ (ih h)
    · exact List.mem_append_right _ (List.mem_singleton_self _)

theorem insert_insert_self (fields : Fields α) (key : String) (a b : α) :
    insert (insert fields key b) key a = insert fields key a := by
  induction fields with
  | nil => simp [insert_cons]
  | cons entry rest ih => by_cases h : entry.1 = key <;> simp [insert_cons, h, ih]

/-- Two names can be set in any order if one of them is there. -/
theorem insert_comm {fields : Fields α} {key other : String} (hk : key ∈ keys fields)
    (hne : key ≠ other) (a b : α) :
    insert (insert fields other b) key a = insert (insert fields key a) other b := by
  induction fields with
  | nil => exact absurd hk List.not_mem_nil
  | cons entry rest ih =>
    by_cases he : entry.1 = key
    · simp [insert_cons, he, hne]
    · have hr : key ∈ keys rest := (List.mem_cons.mp hk).resolve_left (Ne.symm he)
      by_cases ho : entry.1 = other <;> simp [insert_cons, he, ho, hne.symm, ih hr]

/-- An entry that is there may as well be set last, if its name does not come again. -/
theorem insertAll_insert_of_mem {fields rest : Fields α} {key : String}
    (hk : key ∈ keys fields) (hn : key ∉ keys rest) (a : α) :
    insertAll (insert fields key a) rest = insert (insertAll fields rest) key a := by
  induction rest generalizing fields with
  | nil => rfl
  | cons entry rest ih =>
    obtain ⟨hne, hn⟩ := not_or.mp (mt List.mem_cons.mpr hn)
    have hm : key ∈ keys (insert fields entry.1 entry.2) := by
      rw [keys_insert]
      split
      · exact hk
      · exact List.mem_append_left _ hk
    have hi := ih hm hn
    rw [insert_comm hk hne] at hi
    exact hi

/-- Setting an entry among others, and then all of them, sets it last. -/
theorem insertAll_insert {entries : Fields α} (hd : Distinct entries) (fields : Fields α)
    (key : String) (a : α) :
    insertAll fields (insert entries key a) = insert (insertAll fields entries) key a := by
  induction entries generalizing fields with
  | nil => rfl
  | cons entry rest ih =>
    obtain ⟨hn, hr⟩ := List.nodup_cons.mp hd
    by_cases he : entry.1 = key
    · -- The entry is set in its place, where it was set with another value before.
      subst he
      have hm : entry.1 ∈ keys (insert fields entry.1 entry.2) := by
        rw [keys_insert]
        split
        · assumption
        · exact List.mem_append_right _ List.mem_cons_self
      have hi := insertAll_insert_of_mem hm hn a
      rw [insert_insert_self] at hi
      rw [insert_cons, if_pos rfl]
      exact hi
    · rw [insert_cons, if_neg he]
      exact ih hr (insert fields entry.1 entry.2)

/-- Setting collected entries is setting the entries one after another. -/
theorem insertAll_ofList (fields : Fields α) (entries : List (String × α)) :
    insertAll fields (ofList entries) = insertAll fields entries := by
  induction entries using List.reverseRecOn with
  | nil => rfl
  | append_singleton entries entry ih =>
    have ha : insertAll fields (entries ++ [entry]) =
        insert (insertAll fields entries) entry.1 entry.2 := List.foldl_append
    rw [ofList_concat, insertAll_insert (distinct_ofList entries), ih, ha]

/-- The names of collected entries are those of the entries, in order of their first occurrence. -/
theorem keys_ofList (entries : List (String × α)) :
    keys (ofList entries) = (keys entries).eraseDups := by
  induction entries using List.reverseRecOn with
  | nil => rfl
  | append_singleton entries entry ih =>
    have hk : keys (entries ++ [entry]) = keys entries ++ [entry.1] := by simp [keys]
    rw [ofList_concat, keys_insert, ih, hk, List.eraseDups_append]
    by_cases hm : entry.1 ∈ keys entries
    · simp [hm, List.cons_removeAll]
    · simp [hm, List.cons_removeAll, List.eraseDups_cons]

/-! ### The last entry of a name -/

section Last

variable {entries : List (String × α)} {name : String} {a : α}

/-- **The last entry of a name** among entries. -/
def Last (entries : List (String × α)) (name : String) (a : α) : Prop :=
  ∃ before after, entries = before ++ (name, a) :: after ∧ name ∉ keys after

theorem Last.mem_keys (h : Last entries name a) : name ∈ keys entries := by
  obtain ⟨before, after, rfl, -⟩ := h
  exact mem_keys_of_mem (List.mem_append_right before List.mem_cons_self)

/-- The first entry is the last of its name if the name does not come again. -/
theorem last_cons {entry : String × α} :
    Last (entry :: entries) name a ↔
      Last entries name a ∨ name ∉ keys entries ∧ entry = (name, a) := by
  constructor
  · rintro ⟨before, after, he, hn⟩
    cases before with
    | nil =>
      obtain ⟨rfl, rfl⟩ := List.cons.inj he
      exact .inr ⟨hn, rfl⟩
    | cons head before =>
      obtain ⟨rfl, rfl⟩ := List.cons.inj he
      exact .inl ⟨before, after, rfl, hn⟩
  · rintro (⟨before, after, rfl, hn⟩ | ⟨hn, rfl⟩)
    · exact ⟨entry :: before, after, rfl, hn⟩
    · exact ⟨[], entries, rfl, hn⟩

theorem get?_ofList_eq_none_iff : get? (ofList entries) name = none ↔ name ∉ keys entries := by
  rw [get?_eq_none_iff, keys_ofList, List.mem_eraseDups]

/-- **Collected entries hold the last entry** of each name. -/
theorem get?_ofList_eq_some_iff : get? (ofList entries) name = some a ↔ Last entries name a := by
  induction entries with
  | nil =>
    constructor
    · intro h
      cases h
    · intro h
      exact absurd h.mem_keys List.not_mem_nil
  | cons entry rest ih =>
    rw [get?_ofList_cons, Option.or_eq_some_iff, ih, get?_ofList_eq_none_iff, last_cons]
    obtain ⟨key, b⟩ := entry
    simp

/-- Entries that are set one after another change what a look-up finds to the last of its name. -/
theorem get?_insertAll_eq_some_iff {fields : Fields α} :
    get? (insertAll fields entries) name = some a ↔
      Last entries name a ∨ name ∉ keys entries ∧ get? fields name = some a := by
  rw [get?_insertAll, Option.or_eq_some_iff, get?_ofList_eq_some_iff, get?_ofList_eq_none_iff]

/-- **What entries are collected to**: each name stands once, in its first place, and has its last
entry. -/
structure Collects (entries : List (String × α)) (fields : Fields α) : Prop where
  keys_eq : keys fields = (keys entries).eraseDups
  get?_eq_some_iff : ∀ name a, get? fields name = some a ↔ Last entries name a

theorem collects_ofList (entries : List (String × α)) : Collects entries (ofList entries) where
  keys_eq := keys_ofList entries
  get?_eq_some_iff _ _ := get?_ofList_eq_some_iff

theorem collects_of_distinct {fields : Fields α} (hd : Distinct fields) :
    Collects fields fields := by
  have hc := collects_ofList fields
  rwa [ofList_of_distinct hd] at hc

/-- Fields of distinct names are told by their names, in order, and by their look-ups. -/
theorem map_get?_keys {fields : Fields α} (hd : Distinct fields) :
    ((keys fields).map fun key => (get? fields key).map (key, ·)) = fields.map some := by
  rw [keys, List.map_map]
  refine List.map_congr_left fun entry hm => ?_
  rw [Function.comp_apply, get?_of_mem hd hm, Option.map_some]

/-- Fields with the same names in the same order and the same look-ups are the same. -/
theorem eq_of_get?_eq {fields fields' : Fields α} (hd : Distinct fields)
    (hk : keys fields = keys fields') (h : ∀ key, get? fields key = get? fields' key) :
    fields = fields' := by
  have hd' : Distinct fields' := by rwa [Distinct, ← hk]
  refine List.map_injective_iff.mpr (fun _ _ => Option.some.inj) ?_
  rw [← map_get?_keys hd, ← map_get?_keys hd', hk]
  exact List.map_congr_left fun key _ => by rw [h]

/-- **Entries are collected to one thing only**: that which comes of setting them in order. -/
theorem collects_iff {fields : Fields α} : Collects entries fields ↔ fields = ofList entries := by
  constructor
  · intro h
    refine (eq_of_get?_eq (distinct_ofList entries) ?_ fun key => Option.ext fun a => ?_).symm
    · rw [keys_ofList, h.keys_eq]
    · rw [get?_ofList_eq_some_iff, h.get?_eq_some_iff]
  · rintro rfl
    exact collects_ofList entries

end Last

/-! ### Look-ups in changed entries -/

theorem get?_map (f : α → β) (fields : Fields α) (key : String) :
    get? (fields.map fun entry => (entry.1, f entry.2)) key = (get? fields key).map f := by
  induction fields with
  | nil => rfl
  | cons entry rest ih =>
    rw [List.map_cons, get?_cons, get?_cons, ih]
    by_cases h : entry.1 = key <;> simp [h]

end Fields

end Reshape
