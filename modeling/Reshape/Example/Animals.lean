import Reshape.Typed

/-!
# Example: animals and their rows

Two record types for the same thing: an animal as a program holds it, and its row as a table of a
database names the columns.

## Main definitions

* `Friend`, `Animal`, `AnimalRow`: the record types
* `stray`: an animal
-/

namespace Reshape.Example

/-- A friend of an animal. -/
structure Friend where
  name : String
  age : Signed

/-- **An animal**. -/
structure Animal where
  name : String
  nickname : Option String
  age : Signed
  friendIds : List Signed
  friends : List Friend

/-- **The row of an animal**. -/
structure AnimalRow where
  fullName : String
  nickname : Option String
  age : Signed
  friendIds : List Signed
  friends : List Friend

open Recorded

instance : Recorded Friend where
  toValue friend := .object [("name", toValue friend.name), ("age", toValue friend.age)]
  ofValue? v := do
    match ← parts? ["name", "age"] v with
    | [name, age] => some ⟨← required? name, ← required? age⟩
    | _ => none

instance : Recorded Animal where
  toValue animal :=
    .object ([("name", toValue animal.name)] ++ optionalField "nickname" animal.nickname ++
      [("age", toValue animal.age), ("friendIds", toValue animal.friendIds),
        ("friends", toValue animal.friends)])
  ofValue? v := do
    match ← parts? ["name", "nickname", "age", "friendIds", "friends"] v with
    | [name, nickname, age, friendIds, friends] =>
      some ⟨← required? name, ← optional? nickname, ← required? age, ← required? friendIds,
        ← required? friends⟩
    | _ => none

instance : Recorded AnimalRow where
  toValue row :=
    .object ([("full_name", toValue row.fullName)] ++ optionalField "nickname" row.nickname ++
      [("age", toValue row.age), ("friend_ids", toValue row.friendIds),
        ("friends", toValue row.friends)])
  ofValue? v := do
    match ← parts? ["full_name", "nickname", "age", "friend_ids", "friends"] v with
    | [fullName, nickname, age, friendIds, friends] =>
      some ⟨← required? fullName, ← optional? nickname, ← required? age, ← required? friendIds,
        ← required? friends⟩
    | _ => none

/-- An animal without a nickname. -/
def stray : Animal where
  name := "Tom"
  nickname := none
  age := ⟨3, by decide⟩
  friendIds := [⟨7, by decide⟩, ⟨-2, by decide⟩]
  friends := [⟨"Ann", ⟨41, by decide⟩⟩]

end Reshape.Example
