import Reshape.Example.Animals
import Reshape.Example.Specs
import Reshape.Proofs.Walk

/-!
# Typed records there and back

A typed mapper writes a record, maps it and reads what has come of it. Where each rule does to the
value of its field what a function does to the elements of a type, the mapper does to the elements
of the whole type what these functions do together; so the mapping can be told without values. This
is carried out for the animals and their rows.

## Main definitions

* `LawfulRecorded α`: what is written can be read back
* `Transform.Carries`: a transform does on written elements what a function does on elements
* `Signed.through`: arithmetic on signed 64-bit integers that may overflow
* `Example.Animal.toRow`, `Example.AnimalRow.toAnimal`: the animals and their rows without values
* `Example.Animal.HasRow`: which row an animal has
* `Example.Animal.OutOfRange`, `Example.Animal.overflow`: when it has none, and why

## Main results

* `Mapping.walk_outcome`: a rule that carries a function, and the rules after it
* `TypedMapper.map_outcome`, `TypedMapper.mapReverse_outcome`: typed mappers without values
* `Example.Animal.toAnimal_of_toRow`: the way back undoes the way there
* `TypedMapper.map_herding`: animals there and back
-/

namespace Reshape

open Recorded

variable {α β : Type}

/-! ### Elements that can be read back -/

/-- **What is written can be read back.** -/
class LawfulRecorded (α : Type) [Recorded α] : Prop where
  ofValue?_toValue : ∀ a : α, ofValue? (toValue a) = some a

export LawfulRecorded (ofValue?_toValue)

instance : LawfulRecorded String where
  ofValue?_toValue _ := rfl

instance : LawfulRecorded Signed where
  ofValue?_toValue n := dif_pos n.2

theorem ofItems?_map_toValue [Recorded α] [LawfulRecorded α] (as : List α) :
    ofItems? (as.map toValue) = some as := by
  induction as with
  | nil => rfl
  | cons a as ih => rw [List.map_cons, ofItems?, ofValue?_toValue, ih]; rfl

instance [Recorded α] [LawfulRecorded α] : LawfulRecorded (List α) where
  ofValue?_toValue as := ofItems?_map_toValue as

theorem required?_toValue [Recorded α] [LawfulRecorded α] (a : α) :
    required? (some (toValue a)) = some a :=
  ofValue?_toValue a

/-! ### Transforms that carry functions -/

/-- **A transform carries a function** between types of records: on the value that stands for an
element it answers with the value that stands for the result, and fails as the function does. -/
def Transform.Carries [Recorded α] [Recorded β] (f : Transform) (g : α → Except Error β) : Prop :=
  ∀ a, (f (toValue a)).outcome = (g a).map toValue

namespace Transform.Carries

variable [Recorded α] [Recorded β] {f : Transform} {g : α → Except Error β}

theorem each (h : f.Carries g) (as : List α) :
    (Run.each f (as.map toValue)).outcome = (as.mapM g).map (List.map toValue) := by
  induction as with
  | nil => rfl
  | cons a as ih =>
    rw [List.map_cons, Run.each_cons, Run.bind_outcome, h a, List.mapM_cons]
    cases g a with
    | error e => rfl
    | ok b =>
      refine (Run.bind_outcome _ _).trans ?_
      rw [ih]
      cases as.mapM g <;> rfl

/-- Called on the elements of arrays it carries the function on lists. -/
theorem items (h : f.Carries g) : Carries (Run.onElements f) (List.mapM g) := by
  intro as
  refine (Run.map_outcome _ _).trans ?_
  rw [h.each as]
  cases as.mapM g <;> rfl

/-- Values that are no arrays are not taken apart. -/
theorem whole (h : f.Carries g) (hk : ∀ a : α, (toValue a).kind ≠ .array) :
    Carries (Run.onElements f) g := by
  intro a
  rw [← h a]
  have hk := hk a
  cases hv : toValue a with
  | array items => exact absurd (hv ▸ rfl) hk
  | _ => rfl

/-- Values that are not null do not go past. -/
theorem pastNull (h : f.Carries g) (hk : ∀ a : α, (toValue a).kind ≠ .null) :
    Carries (Run.pastNull f) g := by
  intro a
  rw [← h a]
  have hk := hk a
  cases hv : toValue a with
  | null => exact absurd (hv ▸ rfl) hk
  | _ => rfl

end Transform.Carries

/-! ### Arithmetic that may overflow -/

namespace Signed

/-- **A function of integers** on those of 64 bits with a sign; a result beyond them is refused. -/
def through (name : String) (f : Int → Int) (n : Signed) : Except Error Signed :=
  if h : Number.IsSigned (f n.1) then .ok ⟨f n.1, h⟩
  else .error (.transform s!"{name} overflowed on {n.1}")

/-- The greatest signed 64-bit integer. -/
def greatest : Signed := ⟨0x7fffffffffffffff, by decide⟩

/-- The least signed 64-bit integer. -/
def least : Signed := ⟨-0x8000000000000000, by decide⟩

theorem carries_onNumber (name : String) (onInt : Int → Int)
    (onDouble : Double → Option Double) :
    Transform.Carries (Builtin.onNumber name onInt onDouble) (through name onInt) := by
  rintro ⟨n, hn⟩
  have hs : (Number.ofSigned n hn).toSigned? = some n := Number.toSigned?_ofSigned n hn
  rw [through, show toValue (⟨n, hn⟩ : Signed) = .number (Number.ofSigned n hn) from rfl,
    Builtin.onNumber, hs]
  by_cases h : Number.IsSigned (onInt n) <;> simp [h] <;> rfl

theorem through_eq_ok_iff {name : String} {f : Int → Int} {n m : Signed} :
    through name f n = .ok m ↔ m.1 = f n.1 := by
  rw [through]
  constructor
  · intro h
    split at h
    · exact (Except.ok.inj h) ▸ rfl
    · exact nomatch h
  · intro h
    have hs : Number.IsSigned (f n.1) := h ▸ m.2
    rw [dif_pos hs]
    exact congrArg Except.ok (Subtype.ext h.symm)

theorem through_eq_error_iff {name : String} {f : Int → Int} {n : Signed} {e : Error} :
    through name f n = .error e ↔
      ¬ Number.IsSigned (f n.1) ∧ e = .transform s!"{name} overflowed on {n.1}" := by
  rw [through]
  by_cases h : Number.IsSigned (f n.1)
  · simp [h]
  · simp [h, eq_comm]

/-- The integer after a signed one, unless that is the greatest. -/
def increment : Signed → Except Error Signed := through "increment" fun n => n + 1

/-- The integer before a signed one, unless that is the least. -/
def decrement : Signed → Except Error Signed := through "decrement" fun n => n - 1

/-- A signed integer with the other sign, unless it is the least. -/
def negate : Signed → Except Error Signed := through "negate" fun n => -n

theorem increment_eq_error_iff {n : Signed} {e : Error} :
    increment n = .error e ↔ n = greatest ∧
      e = .transform "increment overflowed on 9223372036854775807" := by
  have hr : ¬ Number.IsSigned (n.1 + 1) ↔ n = greatest := by
    rw [Subtype.ext_iff]
    have hn := n.2
    simp only [Number.IsSigned, greatest] at hn ⊢
    omega
  rw [increment, through_eq_error_iff, hr]
  refine and_congr_right ?_
  rintro rfl
  rfl

theorem negate_eq_error_iff {n : Signed} {e : Error} :
    negate n = .error e ↔ n = least ∧
      e = .transform "negate overflowed on -9223372036854775808" := by
  have hr : ¬ Number.IsSigned (-n.1) ↔ n = least := by
    rw [Subtype.ext_iff]
    have hn := n.2
    simp only [Number.IsSigned, least] at hn ⊢
    omega
  rw [negate, through_eq_error_iff, hr]
  refine and_congr_right ?_
  rintro rfl
  rfl

/-- What has been incremented can be decremented again. -/
theorem decrement_of_increment {n m : Signed} (h : increment n = .ok m) :
    decrement m = .ok n := by
  rw [increment, through_eq_ok_iff] at h
  rw [decrement, through_eq_ok_iff]
  omega

theorem negate_of_negate {n m : Signed} (h : negate n = .ok m) : negate m = .ok n := by
  rw [negate, through_eq_ok_iff] at h ⊢
  omega

end Signed

/-! ### Rules one after another -/

namespace Mapping

variable {direction : Direction} {entry : String × Rule Transform} {rest : Spec}
  {record output : Fields Value}

/-- A rule that keeps the name of its field finds its value in both directions. -/
theorem get?_name_of_target {field : String} {rule : Rule Transform} {v : Value}
    (ht : rule.target = field) (hv : Fields.get? record field = some v) :
    Fields.get? record (name direction (field, rule)) = some v := by
  cases direction with
  | forward => exact hv
  | reverse => exact (congrArg (Fields.get? record) ht).trans hv

/-- A rule whose field is absent is skipped. -/
theorem walk_of_none (hv : Fields.get? record (name direction entry) = none) :
    walk direction (Rule.act direction) (entry :: rest) record output =
      walk direction (Rule.act direction) rest record output := by
  rw [walk, hv]

/-- An alias sets the value that it finds. -/
theorem walk_copy {field target : String} {v : Value}
    (hv : Fields.get? record (direction.pick field target) = some v) :
    walk direction (Rule.act direction) ((field, .copy target) :: rest) record output =
      walk direction (Rule.act direction) rest record
        (Fields.insert output (direction.reversed.pick field target) v) := by
  rw [walk, name, Rule.target, hv]
  rfl

/-- A rule that carries a function sets what stands for the result, and the rules after it go on. -/
theorem walk_outcome [Recorded α] [Recorded β] {g : α → Except Error β}
    (hc : (entry.2.act direction).Carries g) {a : α}
    (hv : Fields.get? record (name direction entry) = some (toValue a)) :
    (walk direction (Rule.act direction) (entry :: rest) record output).outcome =
      (g a).bind fun b => (walk direction (Rule.act direction) rest record
        (Fields.insert output (name direction.reversed entry) (toValue b))).outcome := by
  rw [walk, hv]
  refine (Run.bind_outcome _ _).trans ?_
  rw [hc a]
  cases g a <;> rfl

end Mapping

/-- What comes of a record by tables of distinct names. -/
theorem Compiled.apply_outcome {direction : Direction} {mapping : Spec} {v : Value}
    {record : Fields Value} (hd : (mapping.map (Mapping.name direction)).Nodup)
    (hv : v = .object record) :
    ((ofMapping mapping).apply direction v).outcome =
      (mapping.walk direction (Rule.act direction) record []).outcome.map Value.object := by
  rw [apply_eq_walk hd, hv]
  exact Run.map_outcome _ _

/-! ### Typed mappers -/

namespace TypedMapper

variable {σ τ : Type} [Recorded σ] [Recorded τ] (typed : TypedMapper σ τ)

theorem receive_toValue [LawfulRecorded τ] (b : τ) : receive (toValue b) = pure b := by
  rw [receive, ofValue?_toValue]

/-- A typed mapper does what its mapper carries. -/
theorem map_outcome [LawfulRecorded τ] {g : σ → Except Error τ}
    (h : Transform.Carries typed.mapper.map g) (a : σ) : (typed.map a).outcome = g a := by
  rw [TypedMapper.map, Run.bind_outcome, h a]
  cases g a with
  | error e => rfl
  | ok b => exact congrArg Run.outcome (receive_toValue b)

/-- A typed mapper does in reverse what its mapper carries in reverse. -/
theorem mapReverse_outcome [LawfulRecorded σ] {g : τ → Except Error σ}
    (h : Transform.Carries typed.mapper.mapReverse g) (b : τ) :
    (typed.mapReverse b).outcome = g b := by
  rw [TypedMapper.mapReverse, Run.bind_outcome, h b]
  cases g b with
  | error e => rfl
  | ok a => exact congrArg Run.outcome (receive_toValue a)

end TypedMapper

/-! ### Animals and rows -/

namespace Example

instance : LawfulRecorded Friend where
  ofValue?_toValue friend := by
    change (do some (Friend.mk (← required? (some (toValue friend.name)))
      (← required? (some (toValue friend.age))))) = some friend
    rw [required?_toValue, required?_toValue]
    rfl

instance : LawfulRecorded Animal where
  ofValue?_toValue animal := by
    have hp : ofValue? (toValue animal) = (do
        some (Animal.mk (← required? (some (toValue animal.name))) animal.nickname
          (← required? (some (toValue animal.age))) (← required? (some (toValue animal.friendIds)))
          (← required? (some (toValue animal.friends))))) := by
      -- A nickname is written only if there is one.
      obtain ⟨name, _ | nickname, age, friendIds, friends⟩ := animal <;> rfl
    simp only [hp, required?_toValue]
    rfl

instance : LawfulRecorded AnimalRow where
  ofValue?_toValue row := by
    have hp : ofValue? (toValue row) = (do
        some (AnimalRow.mk (← required? (some (toValue row.fullName))) row.nickname
          (← required? (some (toValue row.age))) (← required? (some (toValue row.friendIds)))
          (← required? (some (toValue row.friends))))) := by
      obtain ⟨fullName, _ | nickname, age, friendIds, friends⟩ := row <;> rfl
    simp only [hp, required?_toValue]
    rfl

/-- A friend with the age changed. -/
def Friend.withAge (g : Signed → Except Error Signed) (friend : Friend) : Except Error Friend := do
  return ⟨friend.name, ← g friend.age⟩

/-- What is converted of an animal, or of a row. -/
structure Figures where
  age : Signed
  friendIds : List Signed
  friends : List Friend

/-- The figures with all ages changed and the signs of the numbers of friends, in this order: the
age, the numbers of friends, the ages of friends. -/
def Figures.convert (g : Signed → Except Error Signed) (figures : Figures) :
    Except Error Figures := do
  return ⟨← g figures.age, ← figures.friendIds.mapM Signed.negate,
    ← figures.friends.mapM (Friend.withAge g)⟩

/-- **The row of an animal**, unless a figure is out of range. -/
def Animal.toRow (animal : Animal) : Except Error AnimalRow :=
  (Figures.convert Signed.increment ⟨animal.age, animal.friendIds, animal.friends⟩).map
    fun figures => ⟨animal.name, animal.nickname, figures.age, figures.friendIds, figures.friends⟩

/-- **The animal of a row**, unless a figure is out of range. -/
def AnimalRow.toAnimal (row : AnimalRow) : Except Error Animal :=
  (Figures.convert Signed.decrement ⟨row.age, row.friendIds, row.friends⟩).map
    fun figures => ⟨row.fullName, row.nickname, figures.age, figures.friendIds, figures.friends⟩

/-- A year is added, and taken away in reverse. -/
theorem carries_age (direction : Direction) : Transform.Carries
    ((Rule.convert .whole "age" Builtin.increment Builtin.decrement).act direction)
    (direction.pick Signed.increment Signed.decrement) := by
  refine Transform.Carries.whole ?_ fun _ => nofun
  cases direction <;> exact Signed.carries_onNumber _ _ _

/-- The spec of friends carries the change of the age, in both directions. -/
theorem carries_companion (direction : Direction) :
    Transform.Carries ((Compiled.ofMapping companion).apply direction)
      (Friend.withAge (direction.pick Signed.increment Signed.decrement)) := by
  intro friend
  refine (Compiled.apply_outcome (by cases direction <;> decide) rfl).trans ?_
  rw [companion, Mapping.walk_copy (v := toValue friend.name) (by cases direction <;> rfl),
    Mapping.walk_outcome (carries_age direction) (a := friend.age) (by cases direction <;> rfl),
    Friend.withAge]
  cases direction.pick Signed.increment Signed.decrement friend.age with
  | error e => rfl
  | ok age => cases direction <;> rfl

/-- The numbers of friends change their sign, in both directions. -/
theorem carries_friendIds (direction : Direction) : Transform.Carries
    ((Rule.convert .elements "friend_ids" Builtin.negate Builtin.negate).act direction)
    (List.mapM Signed.negate) := by
  refine Transform.Carries.pastNull (Transform.Carries.items ?_) fun _ => nofun
  cases direction <;> exact Signed.carries_onNumber _ _ _

theorem carries_friends (direction : Direction) : Transform.Carries
    ((Rule.nest .many "friends" companion).act direction)
    (List.mapM (Friend.withAge (direction.pick Signed.increment Signed.decrement))) :=
  Transform.Carries.pastNull (Transform.Carries.items (carries_companion direction)) fun _ => nofun

/-- The rules for figures, whatever has been set before them. -/
theorem walk_figures {direction : Direction} {record : Fields Value} (figures : Figures)
    (ha : Fields.get? record "age" = some (toValue figures.age))
    (hi : Fields.get? record (direction.pick "friendIds" "friend_ids") =
      some (toValue figures.friendIds))
    (hf : Fields.get? record "friends" = some (toValue figures.friends))
    (output : Fields Value) :
    (Mapping.walk direction (Rule.act direction) (herd.drop 2) record output).outcome =
      (figures.convert (direction.pick Signed.increment Signed.decrement)).map fun figures =>
        Fields.insert (Fields.insert (Fields.insert output "age" (toValue figures.age))
          (direction.pick "friend_ids" "friendIds") (toValue figures.friendIds))
          "friends" (toValue figures.friends) := by
  obtain ⟨age, friendIds, friends⟩ := figures
  rw [show herd.drop 2 = [_, _, _] from rfl, Figures.convert]
  refine (Mapping.walk_outcome (carries_age direction)
    (Mapping.get?_name_of_target rfl ha)).trans ?_
  cases direction.pick Signed.increment Signed.decrement age with
  | error e => rfl
  | ok age =>
    refine (Mapping.walk_outcome (carries_friendIds direction) hi).trans ?_
    dsimp only
    cases List.mapM Signed.negate friendIds with
    | error e => rfl
    | ok friendIds =>
      refine (Mapping.walk_outcome (carries_friends direction)
        (Mapping.get?_name_of_target rfl hf)).trans ?_
      cases List.mapM (Friend.withAge (direction.pick Signed.increment Signed.decrement))
        friends with
      | error e => rfl
      | ok friends => cases direction <;> rfl

/-- The spec of animals in either direction: the name is kept, and the nickname if there is one, and
the figures are converted. -/
theorem apply_herd {direction : Direction} {record : Fields Value} (name : String)
    (nickname : Option String) (figures : Figures)
    (hn : Fields.get? record (direction.pick "name" "full_name") = some (toValue name))
    (hk : Fields.get? record "nickname" = nickname.map toValue)
    (ha : Fields.get? record "age" = some (toValue figures.age))
    (hi : Fields.get? record (direction.pick "friendIds" "friend_ids") =
      some (toValue figures.friendIds))
    (hf : Fields.get? record "friends" = some (toValue figures.friends)) :
    ((Compiled.ofMapping herd).apply direction (.object record)).outcome =
      (figures.convert (direction.pick Signed.increment Signed.decrement)).map fun figures =>
        .object ([(direction.pick "full_name" "name", toValue name)] ++
          optionalField "nickname" nickname ++
          [("age", toValue figures.age),
            (direction.pick "friend_ids" "friendIds", toValue figures.friendIds),
            ("friends", toValue figures.friends)]) := by
  refine (Compiled.apply_outcome (by cases direction <;> decide) rfl).trans ?_
  rw [show herd = _ :: _ :: herd.drop 2 from rfl, Mapping.walk_copy hn]
  rw [← direction.pick_self "nickname"] at hk
  cases nickname with
  | none =>
    -- A missing nickname stays missing.
    rw [Mapping.walk_of_none hk, walk_figures figures ha hi hf]
    cases figures.convert (direction.pick Signed.increment Signed.decrement) with
    | error e => rfl
    | ok figures => cases direction <;> rfl
  | some nickname =>
    rw [Mapping.walk_copy hk, walk_figures figures ha hi hf]
    cases figures.convert (direction.pick Signed.increment Signed.decrement) with
    | error e => rfl
    | ok figures => cases direction <;> rfl

/-- **The spec of animals carries their rows.** -/
theorem carries_herd_forward :
    Transform.Carries ((Compiled.ofMapping herd).apply .forward) Animal.toRow := by
  rintro ⟨name, nickname, age, friendIds, friends⟩
  refine (apply_herd name nickname ⟨age, friendIds, friends⟩ rfl ?_ ?_ ?_ ?_).trans ?_
  · cases nickname <;> rfl
  · cases nickname <;> rfl
  · cases nickname <;> rfl
  · cases nickname <;> rfl
  · simp only [Animal.toRow, Direction.pick_forward]
    cases Figures.convert Signed.increment ⟨age, friendIds, friends⟩ <;> rfl

/-- **In reverse it carries the animals.** -/
theorem carries_herd_reverse :
    Transform.Carries ((Compiled.ofMapping herd).apply .reverse) AnimalRow.toAnimal := by
  rintro ⟨name, nickname, age, friendIds, friends⟩
  refine (apply_herd name nickname ⟨age, friendIds, friends⟩ rfl ?_ ?_ ?_ ?_).trans ?_
  · cases nickname <;> rfl
  · cases nickname <;> rfl
  · cases nickname <;> rfl
  · cases nickname <;> rfl
  · simp only [AnimalRow.toAnimal, Direction.pick_reverse]
    cases Figures.convert Signed.decrement ⟨age, friendIds, friends⟩ <;> rfl

/-! ### Figures out of range -/

theorem Friend.withAge_eq_ok_iff {g : Signed → Except Error Signed} {friend friend' : Friend} :
    friend.withAge g = .ok friend' ↔
      friend'.name = friend.name ∧ g friend.age = .ok friend'.age := by
  obtain ⟨name', age'⟩ := friend'
  rw [Friend.withAge]
  cases g friend.age <;> simp [bind, Except.bind, pure, Except.pure, eq_comm]

theorem Friend.withAge_eq_error_iff {g : Signed → Except Error Signed} {friend : Friend}
    {e : Error} : friend.withAge g = .error e ↔ g friend.age = .error e := by
  rw [Friend.withAge]
  cases g friend.age <;> simp [bind, Except.bind, pure, Except.pure]

namespace Figures

variable {g : Signed → Except Error Signed} {figures figures' : Figures}

/-- Figures are converted if each of them is. -/
theorem convert_eq_ok_iff :
    figures.convert g = .ok figures' ↔
      g figures.age = .ok figures'.age ∧
        figures.friendIds.mapM Signed.negate = .ok figures'.friendIds ∧
        figures.friends.mapM (Friend.withAge g) = .ok figures'.friends := by
  obtain ⟨age', friendIds', friends'⟩ := figures'
  rw [convert]
  cases g figures.age <;> cases figures.friendIds.mapM Signed.negate <;>
    cases figures.friends.mapM (Friend.withAge g) <;>
    simp [bind, Except.bind, pure, Except.pure]

/-- They are refused for the first that is not. -/
theorem convert_eq_error_iff {e : Error} :
    figures.convert g = .error e ↔
      g figures.age = .error e ∨
        (∃ age, g figures.age = .ok age) ∧
          (figures.friendIds.mapM Signed.negate = .error e ∨
            (∃ friendIds, figures.friendIds.mapM Signed.negate = .ok friendIds) ∧
              figures.friends.mapM (Friend.withAge g) = .error e) := by
  rw [convert]
  cases g figures.age <;> cases figures.friendIds.mapM Signed.negate <;>
    cases figures.friends.mapM (Friend.withAge g) <;>
    simp [bind, Except.bind, pure, Except.pure]

/-- The way back undoes what has been converted, and is never refused. -/
theorem convert_decrement (h : figures.convert Signed.increment = .ok figures') :
    figures'.convert Signed.decrement = .ok figures := by
  simp only [convert_eq_ok_iff, mapM_eq_ok_iff, Friend.withAge_eq_ok_iff] at h ⊢
  obtain ⟨ha, hi, hf⟩ := h
  refine ⟨Signed.decrement_of_increment ha, ?_, ?_⟩
  · exact hi.flip.imp fun _ _ => Signed.negate_of_negate
  · exact hf.flip.imp fun _ _ h => ⟨h.1.symm, Signed.decrement_of_increment h.2⟩

end Figures

/-- An animal has a row if its figures can be converted. -/
theorem Animal.toRow_eq_ok_iff {animal : Animal} {row : AnimalRow} :
    animal.toRow = .ok row ↔
      row.fullName = animal.name ∧ row.nickname = animal.nickname ∧
        Figures.convert Signed.increment ⟨animal.age, animal.friendIds, animal.friends⟩ =
          .ok ⟨row.age, row.friendIds, row.friends⟩ := by
  obtain ⟨fullName, nickname, age, friendIds, friends⟩ := row
  rw [toRow]
  cases Figures.convert Signed.increment ⟨animal.age, animal.friendIds, animal.friends⟩ with
  | error e => simp [Except.map]
  | ok figures =>
    obtain ⟨age', friendIds', friends'⟩ := figures
    simp [Except.map, eq_comm]

theorem AnimalRow.toAnimal_eq_ok_iff {row : AnimalRow} {animal : Animal} :
    row.toAnimal = .ok animal ↔
      animal.name = row.fullName ∧ animal.nickname = row.nickname ∧
        Figures.convert Signed.decrement ⟨row.age, row.friendIds, row.friends⟩ =
          .ok ⟨animal.age, animal.friendIds, animal.friends⟩ := by
  obtain ⟨name, nickname, age, friendIds, friends⟩ := animal
  rw [toAnimal]
  cases Figures.convert Signed.decrement ⟨row.age, row.friendIds, row.friends⟩ with
  | error e => simp [Except.map]
  | ok figures =>
    obtain ⟨age', friendIds', friends'⟩ := figures
    simp [Except.map, eq_comm]

/-- The way back undoes the way there. -/
theorem Animal.toAnimal_of_toRow {animal : Animal} {row : AnimalRow}
    (h : animal.toRow = .ok row) : row.toAnimal = .ok animal := by
  obtain ⟨hn, hk, hf⟩ := toRow_eq_ok_iff.mp h
  exact AnimalRow.toAnimal_eq_ok_iff.mpr ⟨hn.symm, hk.symm, Figures.convert_decrement hf⟩

namespace Animal

variable {animal : Animal}

/-- **Which row an animal has**: a year is added to each age, and the numbers of friends have the
other sign. -/
structure HasRow (animal : Animal) (row : AnimalRow) : Prop where
  fullName : row.fullName = animal.name
  nickname : row.nickname = animal.nickname
  age : row.age.1 = animal.age.1 + 1
  friendIds : row.friendIds.map Subtype.val = animal.friendIds.map fun n => -n.1
  friends : row.friends.map (fun friend => (friend.name, friend.age.1)) =
    animal.friends.map fun friend => (friend.name, friend.age.1 + 1)

theorem hasRow_of_toRow {row : AnimalRow} (h : animal.toRow = .ok row) : animal.HasRow row := by
  obtain ⟨hn, hk, hf⟩ := toRow_eq_ok_iff.mp h
  simp only [Figures.convert_eq_ok_iff, mapM_eq_ok_iff, Friend.withAge_eq_ok_iff, Signed.increment,
    Signed.negate, Signed.through_eq_ok_iff] at hf
  obtain ⟨ha, hi, hf⟩ := hf
  refine ⟨hn, hk, ha, ?_, ?_⟩
  · rw [← List.forall₂_eq_eq_eq, List.forall₂_map_left_iff, List.forall₂_map_right_iff]
    exact hi.flip
  · rw [← List.forall₂_eq_eq_eq, List.forall₂_map_left_iff, List.forall₂_map_right_iff]
    exact hf.flip.imp fun _ _ h => Prod.ext h.1 h.2

/-- **A figure is out of range**, so that the animal has no row. -/
def OutOfRange (animal : Animal) : Prop :=
  animal.age = Signed.greatest ∨ Signed.least ∈ animal.friendIds ∨
    ∃ friend ∈ animal.friends, friend.age = Signed.greatest

instance : Decidable animal.OutOfRange :=
  inferInstanceAs (Decidable (_ ∨ _ ∨ _))

/-- **The error for the first figure out of range**, in the order of the age, the numbers of friends
and the ages of friends. -/
def overflow (animal : Animal) : Error :=
  if animal.age ≠ Signed.greatest ∧ Signed.least ∈ animal.friendIds then
    .transform "negate overflowed on -9223372036854775808"
  else
    .transform "increment overflowed on 9223372036854775807"

theorem toRow_eq_error_iff {e : Error} :
    animal.toRow = .error e ↔ animal.OutOfRange ∧ e = animal.overflow := by
  have hr : animal.toRow = .error e ↔ Figures.convert Signed.increment
      ⟨animal.age, animal.friendIds, animal.friends⟩ = .error e := by
    rw [toRow]
    cases Figures.convert Signed.increment ⟨animal.age, animal.friendIds, animal.friends⟩ <;>
      simp [Except.map]
  have hi (e : Error) : animal.friendIds.mapM Signed.negate = .error e ↔ _ :=
    mapM_eq_error_iff fun n e => Signed.negate_eq_error_iff
  have hf (e : Error) : animal.friends.mapM (Friend.withAge Signed.increment) = .error e ↔ _ :=
    mapM_eq_error_iff fun friend e =>
      Friend.withAge_eq_error_iff.trans Signed.increment_eq_error_iff
  rw [hr, Figures.convert_eq_error_iff]
  simp only [exists_ok_iff, ne_eq, hi, hf, Signed.increment_eq_error_iff, OutOfRange, overflow]
  -- What is out of range first is the age or the number of a friend, or neither is.
  by_cases ha : animal.age = Signed.greatest
  · simp [ha]
  · by_cases hl : Signed.least ∈ animal.friendIds <;> simp [ha, hl]

end Animal

/-- **The typed mapper of animals and their rows.** -/
def herding : TypedMapper Animal AnimalRow :=
  (TypedMapper.ofSpec herd).value

theorem herding_map (animal : Animal) : (herding.map animal).outcome = animal.toRow :=
  TypedMapper.map_outcome herding carries_herd_forward animal

theorem herding_mapReverse (row : AnimalRow) : (herding.mapReverse row).outcome = row.toAnimal :=
  TypedMapper.mapReverse_outcome herding carries_herd_reverse row

end Example

open Example

/-- **Animals there and back**: an animal has a row unless a figure is out of range, and is refused
for the first that is; and its row gives the animal back. -/
theorem TypedMapper.map_herding (animal : Animal) :
    (∀ e, (herding.map animal).outcome = .error e ↔
      animal.OutOfRange ∧ e = animal.overflow) ∧
    (herding.map animal).outcome ≠ .error .json ∧
    (¬ animal.OutOfRange → ∃ row, (herding.map animal).outcome = .ok row ∧
      animal.HasRow row ∧ (herding.mapReverse row).outcome = .ok animal) := by
  simp only [herding_map, herding_mapReverse]
  refine ⟨fun e => Animal.toRow_eq_error_iff, fun h => ?_, fun h => ?_⟩
  · have ho : Error.json = animal.overflow := (Animal.toRow_eq_error_iff.mp h).2
    rw [Animal.overflow] at ho
    split at ho <;> exact nomatch ho
  · obtain ⟨row, hr⟩ := exists_ok_iff.mpr fun e he => h (Animal.toRow_eq_error_iff.mp he).1
    exact ⟨row, hr, Animal.hasRow_of_toRow hr, Animal.toAnimal_of_toRow hr⟩

/-- An animal without a nickname has a row, unless it also knows a friend by the least number. -/
theorem TypedMapper.map_stray :
    ¬ stray.OutOfRange ∧
    (∃ row, (herding.map stray).outcome = .ok row ∧ stray.HasRow row ∧
      (herding.mapReverse row).outcome = .ok stray) ∧
    (herding.map { stray with friendIds := [Signed.least] }).outcome =
      .error (.transform "negate overflowed on -9223372036854775808") := by
  have hr : ¬ stray.OutOfRange := by decide
  have ho : { stray with friendIds := [Signed.least] }.OutOfRange := by decide
  exact ⟨hr, (map_herding stray).2.2 hr, ((map_herding _).1 _).mpr ⟨ho, rfl⟩⟩

end Reshape
