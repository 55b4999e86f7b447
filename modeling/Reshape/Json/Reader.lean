import Reshape.Json.Token

/-!
# Reading JSON

The second step of reading a JSON text: a builder takes the tokens one by one and puts the value
together. Arrays and objects that are still open form a stack, which may hold at most
`nestingLimit` of them.

## Main definitions

* `Frame`: an array or object that is still open
* `Builder`: what has been read and what may come next
* `read?`: the value of a text, every field of its objects as written
* `readMerged?`: the value of a text, repeated names merged
-/

namespace Reshape.Json

/-- The number of arrays and objects that may be open at once. -/
def nestingLimit : Nat := 127

/-- **A frame**: an array or object that is still open while an inner value is read. What it holds
so far is listed last first. -/
inductive Frame where
  | array (before : List Value)
  | object (before : List (String × Value)) (name : String)

/-- **The builder**: what may come next. The frames are listed innermost first. -/
inductive Builder where
  /-- A value must come. -/
  | value (frames : List Frame)
  /-- The first item of an array may come, or its end. -/
  | firstItem (frames : List Frame)
  /-- The name of a field must come; `first` allows the end of the object instead. -/
  | name (before : List (String × Value)) (first : Bool) (frames : List Frame)
  /-- The colon behind a name must come. -/
  | colon (before : List (String × Value)) (name : String) (frames : List Frame)
  /-- A value is complete: a comma or an end may come. -/
  | complete (v : Value) (frames : List Frame)

namespace Builder

/-- Reads the first token of a value. -/
def startValue (frames : List Frame) : Token → Option Builder
  | .string s => some (complete (.string s) frames)
  | .scalar v => some (complete v frames)
  | .beginArray => if frames.length < nestingLimit then some (firstItem frames) else none
  | .beginObject => if frames.length < nestingLimit then some (name [] true frames) else none
  | _ => none

/-- Reads the token behind a complete value. -/
def continueValue (v : Value) : List Frame → Token → Option Builder
  | .array before :: frames, .comma => some (value (.array (v :: before) :: frames))
  | .array before :: frames, .endArray => some (complete (.array (v :: before).reverse) frames)
  | .object before key :: frames, .comma => some (name ((key, v) :: before) false frames)
  | .object before key :: frames, .endObject =>
    some (complete (.object ((key, v) :: before).reverse) frames)
  | _, _ => none

/-- Reads one token. -/
def step : Builder → Token → Option Builder
  | value frames, token => startValue frames token
  | firstItem frames, .endArray => some (complete (.array []) frames)
  | firstItem frames, token => startValue (.array [] :: frames) token
  | name before _ frames, .string key => some (colon before key frames)
  | name _ true frames, .endObject => some (complete (.object []) frames)
  | name _ _ _, _ => none
  | colon before key frames, .colon => some (value (.object before key :: frames))
  | colon _ _ _, _ => none
  | complete v frames, token => continueValue v frames token

/-- The value at the end of the tokens, if nothing is open. -/
def finish? : Builder → Option Value
  | complete v [] => some v
  | _ => none

end Builder

/-- The value that tokens spell. -/
def ofTokens? (tokens : List Token) : Option Value :=
  (tokens.foldlM Builder.step (.value [])).bind Builder.finish?

/-- **The value of a text**. Objects list their fields as written, repeated names among them. -/
def read? (text : String) : Option Value :=
  (tokens? text.toList).bind ofTokens?

/-- The value of a text, in which a repeated name keeps its first place and its last value. -/
def readMerged? (text : String) : Option Value :=
  (read? text).map Value.merged

end Reshape.Json
