import Reshape.Builtins

/-!
# Example: specs

Specs for the laws of mapping. In the first, two fields compete for a target. In the second none do,
though its targets are its fields in another order; its transforms note that they are called, and
each undoes the other. The third is for typed records. In the fourth no transform ever fails, and
in the last each notes the word that it is called on.

## Main definitions

* `rivals`: a spec with a collision
* `spoken`, `heard`: booleans as words and back
* `poll`: a spec without; `nesting`, `converted`: positions in it
* `herd`: the spec of animals and their rows
* `boxed`: a transform that answers on every value
* `voyage`: a spec with such transforms, and rules inside rules inside rules
* `called`: a transform that notes its words
* `roll`: a spec with such transforms and a collision; `rollCall`: records of it
-/

namespace Reshape.Example

/-- **A spec with a collision**: the earlier rule has transforms and the later one has none. -/
def rivals : Spec :=
  [("price", .convert .whole "amount" Builtin.increment Builtin.decrement),
    ("total", .copy "amount")]

/-- The record of an amount. -/
def bill (amount : Int) (h : Number.IsSigned amount) : Value :=
  .object [("amount", .ofSigned amount h)]

/-- A boolean as a word. -/
def spoken : Transform
  | .bool b => do
    Run.note "spoken"
    pure (.string (if b then "yes" else "no"))
  | v => Run.fail (Builtin.unexpected "spoken" "a boolean" v)

/-- The boolean that a word says. -/
def heard : Transform
  | .string word => do
    Run.note "heard"
    if word = "yes" then pure (.bool true)
    else if word = "no" then pure (.bool false)
    else Run.fail (.transform s!"heard does not know '{word}'")
  | v => Run.fail (Builtin.unexpected "heard" "a string" v)

/-- **A spec without collisions**. -/
def poll : Spec :=
  [("first", .copy "second"), ("second", .copy "first"),
    ("agreed", .convert .whole "consent" spoken heard),
    ("answers", .convert .elements "replies" spoken heard),
    ("voters", .nest .many "people"
      [("name", .copy "label"), ("voted", .convert .whole "turnout" spoken heard)])]

/-- The positions of the rules of the poll that nest. -/
def nesting : List String → Bool
  | ["voters"] => true
  | _ => false

/-- The positions of the rules of the poll that convert. -/
def converted : List String → Bool
  | ["agreed"] => true
  | ["answers"] => true
  | ["voters", "voted"] => true
  | _ => false

/-- A source record of the poll, with a field that the poll does not declare. -/
def ballot : Value :=
  .object [("agreed", .bool true), ("draft", .null), ("second", .string "b"),
    ("first", .string "a"), ("answers", .array [.bool false, .bool true]),
    ("voters", .array [.object [("voted", .bool false), ("name", .string "Ann")]])]

/-- The record in another order, with other fields that the poll does not declare, in the voter
too. -/
def redraft : Value :=
  .object [("voters", .array [.object [("name", .string "Ann"), ("born", .null),
      ("voted", .bool false)]]),
    ("first", .string "a"), ("answers", .array [.bool false, .bool true]), ("note", .bool true),
    ("second", .string "b"), ("agreed", .bool true)]

/-- What the poll makes of the record. -/
def counted : Value :=
  .object [("second", .string "a"), ("first", .string "b"), ("consent", .string "yes"),
    ("replies", .array [.string "no", .string "yes"]),
    ("people", .array [.object [("label", .string "Ann"), ("turnout", .string "no")]])]

/-- What becomes of a friend: a year is added, and taken away in reverse. -/
def companion : Spec :=
  [("name", .copy "name"), ("age", .convert .whole "age" Builtin.increment Builtin.decrement)]

/-- **The spec of animals and their rows**: columns have names of their own, a year is added, and
the numbers of friends change their sign. -/
def herd : Spec :=
  [("name", .copy "full_name"), ("nickname", .copy "nickname"),
    ("age", .convert .whole "age" Builtin.increment Builtin.decrement),
    ("friendIds", .convert .elements "friend_ids" Builtin.negate Builtin.negate),
    ("friends", .nest .many "friends" companion)]

/-- A value as an array of its own. It answers on every value. -/
def boxed : Transform :=
  fun v => pure (.array [v])

/-- What becomes of a berth. -/
def berth : Spec :=
  [("deck", .convert .whole "level" boxed boxed)]

/-- What becomes of a hand and their berths. -/
def hand : Spec :=
  [("name", .copy "label"), ("berths", .nest .one "beds" berth)]

/-- **A spec with transforms that never fail**, three levels deep. -/
def voyage : Spec :=
  [("ports", .convert .elements "stops" boxed boxed), ("crew", .nest .many "people" hand)]

/-- A source record of the voyage in which three values stand where a record might: null in the
place of the berths, null among the berths, and a number among the crew. -/
def muster : Value :=
  .object [("crew", .array [.object [("berths", .null)],
      .object [("name", .null), ("berths", .array [.object [("deck", .null)], .null])],
      .ofSigned 8 (by decide)]),
    ("ports", .null)]

/-- A word as an array of its own. The word is noted. -/
def called : Transform
  | .string word => do
    Run.note word
    pure (.array [.string word])
  | v => Run.fail (Builtin.unexpected "called" "a string" v)

/-- **A spec that tells the order of calls**. Of the two rules with one target the later one counts,
in the place of the earlier. -/
def roll : Spec :=
  [("captain", .copy "crew"), ("mates", .convert .elements "mates" called called),
    ("hands", .convert .whole "crew" called called),
    ("boats", .nest .many "boats" [("hand", .convert .whole "oar" called called)])]

/-- Source records of the roll, in another order than its rules. -/
def rollCall (hand : Value) : Value :=
  .object [("boats", .array [.object [("hand", .string "d")], .object [("hand", hand)],
      .object [("hand", .string "f")]]),
    ("hands", .array [.string "b", .string "c"]), ("captain", .null),
    ("mates", .array [.string "a"])]

end Reshape.Example
