/-!
# Ordered fields

A list of named entries in which the order of the names matters. Setting a name that is already
there changes its entry in place; setting a new one adds it at the end. Every keyed collection of
the library (objects, mappings, look-up tables) is such a list.

## Main definitions

* `Fields α`: named entries in order
* `Fields.get?`, `Fields.insert`, `Fields.insertAll`, `Fields.ofList`, `Fields.erase`: look-up and
  update
* `Fields.Distinct`: no name occurs twice

## Main results

* `Fields.get?_insert`: what a look-up finds after an update
* `Fields.keys_insert`: an update keeps the names, or adds one at the end
* `Fields.distinct_ofList`: collecting entries one by one leaves no name twice
* `Fields.ofList_of_distinct`: collecting entries of distinct names changes nothing
-/

namespace Reshape

universe u v

/-- **Ordered fields**: entries under names, in order. -/
abbrev Fields (α : Type u) : Type u := List (String × α)

namespace Fields

variable {α : Type u} {β : Type v}

/-- The first entry under a name. -/
def get? : Fields α → String → Option α
  | [], _ => none
  | (name, a) :: rest, key => if name = key then some a else get? rest key

/-- Sets the entry of a name: in place if the name is there, at the end if it is not. -/
def insert : Fields α → String → α → Fields α
  | [], key, a => [(key, a)]
  | (name, b) :: rest, key, a =>
    if name = key then (name, a) :: rest else (name, b) :: insert rest key a

/-- The entries under other names. -/
def erase (fields : Fields α) (key : String) : Fields α :=
  fields.filter fun entry => entry.1 != key

/-- The names, in order. -/
def keys (fields : Fields α) : List String :=
  fields.map Prod.fst

/-- Whether a name has an entry. -/
def contains (fields : Fields α) (key : String) : Bool :=
  (get? fields key).isSome

/-- Sets entries one after another. -/
def insertAll (fields : Fields α) (entries : List (String × α)) : Fields α :=
  entries.foldl (fun acc entry => insert acc entry.1 entry.2) fields

/-- Collects entries one after another: a name keeps its first place and its last entry. -/
def ofList (entries : List (String × α)) : Fields α :=
  insertAll [] entries

/-- No name occurs twice. -/
def Distinct (fields : Fields α) : Prop :=
  (keys fields).Nodup

instance (fields : Fields α) : Decidable (Distinct fields) :=
  inferInstanceAs (Decidable (keys fields).Nodup)

@[simp] theorem get?_nil (key : String) : get? ([] : Fields α) key = none := rfl

theorem get?_cons (entry : String × α) (rest : Fields α) (key : String) :
    get? (entry :: rest) key = if entry.1 = key then some entry.2 else get? rest key := rfl

@[simp] theorem keys_nil : keys ([] : Fields α) = [] := rfl

@[simp] theorem keys_cons (entry : String × α) (rest : Fields α) :
    keys (entry :: rest) = entry.1 :: keys rest := rfl

@[simp] theorem insert_nil (key : String) (a : α) : insert [] key a = [(key, a)] := rfl

theorem insert_cons (entry : String × α) (rest : Fields α) (key : String) (a : α) :
    insert (entry :: rest) key a =
      if entry.1 = key then (entry.1, a) :: rest else entry :: insert rest key a := rfl

@[simp] theorem get?_insert_self (fields : Fields α) (key : String) (a : α) :
    get? (insert fields key a) key = some a := by
  induction fields with
  | nil => simp [get?_cons]
  | cons entry rest ih =>
    by_cases h : entry.1 = key <;> simp [insert_cons, get?_cons, h, ih]

theorem get?_insert_of_ne (fields : Fields α) {key other : String} (a : α) (h : key ≠ other) :
    get? (insert fields key a) other = get? fields other := by
  induction fields with
  | nil => simp [get?_cons, h]
  | cons entry rest ih =>
    by_cases hk : entry.1 = key
    · simp [insert_cons, get?_cons, hk, h]
    · simp [insert_cons, get?_cons, hk, ih]

/-- After an update a look-up finds the new entry under its name, and what was there before under
any other. -/
theorem get?_insert (fields : Fields α) (key other : String) (a : α) :
    get? (insert fields key a) other = if key = other then some a else get? fields other := by
  by_cases h : key = other
  · subst h; simp
  · simp [h, get?_insert_of_ne]

theorem get?_eq_none_iff {fields : Fields α} {key : String} :
    get? fields key = none ↔ key ∉ keys fields := by
  induction fields with
  | nil => simp
  | cons entry rest ih =>
    by_cases h : entry.1 = key
    · simp [get?_cons, h]
    · have h' : key ≠ entry.1 := fun e => h e.symm
      simp [get?_cons, h, h', ih]

theorem mem_of_get?_eq_some {fields : Fields α} {key : String} {a : α}
    (h : get? fields key = some a) : (key, a) ∈ fields := by
  induction fields with
  | nil => simp at h
  | cons entry rest ih =>
    obtain ⟨name, b⟩ := entry
    by_cases hk : name = key
    · simp [get?_cons, hk] at h
      simp [hk, h]
    · simp only [get?_cons, hk, if_false] at h
      exact List.mem_cons_of_mem _ (ih h)

/-- An update keeps the names when the name is there, and adds it at the end when it is not. -/
theorem keys_insert (fields : Fields α) (key : String) (a : α) :
    keys (insert fields key a) =
      if key ∈ keys fields then keys fields else keys fields ++ [key] := by
  induction fields with
  | nil => simp
  | cons entry rest ih =>
    by_cases h : entry.1 = key
    · simp [insert_cons, h]
    · have h' : key ≠ entry.1 := fun e => h e.symm
      by_cases hm : key ∈ keys rest <;> simp [insert_cons, h, h', ih, hm]

theorem insert_of_not_mem {fields : Fields α} {key : String} (a : α) (h : key ∉ keys fields) :
    insert fields key a = fields ++ [(key, a)] := by
  induction fields with
  | nil => rfl
  | cons entry rest ih =>
    simp only [keys_cons, List.mem_cons, not_or] at h
    have h' : entry.1 ≠ key := fun e => h.1 e.symm
    simp [insert_cons, h', ih h.2]

theorem insertAll_of_distinct {fields entries : Fields α} (h : Distinct (fields ++ entries)) :
    insertAll fields entries = fields ++ entries := by
  induction entries generalizing fields with
  | nil => simp [insertAll]
  | cons entry rest ih =>
    have hn : entry.1 ∉ keys fields := by
      simp only [Distinct, keys, List.map_append, List.map_cons] at h
      exact fun hm => (List.nodup_append.1 h).2.2 _ hm _ (by simp) rfl
    have hs : insert fields entry.1 entry.2 = fields ++ [entry] := insert_of_not_mem _ hn
    have ht : insertAll fields (entry :: rest) = insertAll (fields ++ [entry]) rest := by
      simp [insertAll, hs]
    rw [ht, ih (by simpa using h)]
    simp

/-- Collecting entries of distinct names changes nothing. -/
theorem ofList_of_distinct {entries : Fields α} (h : Distinct entries) :
    ofList entries = entries :=
  @insertAll_of_distinct _ [] _ h

theorem Distinct.insert {fields : Fields α} (h : Distinct fields) (key : String) (a : α) :
    Distinct (insert fields key a) := by
  unfold Distinct at *
  rw [keys_insert]
  by_cases hm : key ∈ keys fields
  · simpa [hm] using h
  · rw [if_neg hm, List.nodup_append]
    exact ⟨h, by simp, by simpa using fun x hx (e : x = key) => hm (e ▸ hx)⟩

theorem Distinct.insertAll {fields : Fields α} (h : Distinct fields)
    (entries : List (String × α)) : Distinct (insertAll fields entries) := by
  induction entries generalizing fields with
  | nil => exact h
  | cons entry rest ih => exact ih (h.insert entry.1 entry.2)

/-- Collecting entries one by one leaves no name twice. -/
theorem distinct_ofList (entries : List (String × α)) : Distinct (ofList entries) :=
  Distinct.insertAll (by simp [Distinct]) entries

end Fields

end Reshape
