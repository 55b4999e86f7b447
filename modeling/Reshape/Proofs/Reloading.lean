import Reshape.Proofs.Json.Accepted
import Reshape.Proofs.Saving

/-!
# Definitions loaded, saved and loaded again

A JSON text may give a definition in many ways: rules as tables or as lists, tags by name or by
number, keys in any order and unknown ones among them, fields more than once. Saving has one way for
each definition, and that one never has more objects inside one another than the text had arrays and
objects. So every definition that was loaded can be saved and loaded again, and saving it once more
changes nothing.

## Main definitions

* `Rule.Savable`, `Definition.Savable`: keyed, and so many objects at most inside one another
* `Reading.Savable`: a node all of whose readings are savable

## Main results

* `Reading.savable_ofItems`, `Reading.savable_ofEntries`: a list or a table adds one level
* `Definition.savable_of_ofNode?`: what a value describes nests no deeper than the value
* `Definition.ofJson_resaved`: what was loaded is loaded again from its JSON text
-/

namespace Reshape

variable {n : Nat}

/-! ### What can be saved -/

/-- **A rule that can be saved** with no more than so many objects inside one another: within it, no
two rules of a level have one field. -/
def Rule.Savable (rule : Rule String) (n : Nat) : Prop :=
  rule.Within Fields.Distinct ∧ rule.toValue.nesting ≤ n

/-- **A definition that can be saved** with no more than so many objects inside one another. -/
def Definition.Savable (definition : Definition) (n : Nat) : Prop :=
  definition.Keyed ∧ definition.toValue.nesting ≤ n

namespace Rule

theorem nestingFields_toFields_le_iff {rules : List (String × Rule String)} :
    Value.nestingFields (toFields rules) ≤ n ↔ ∀ entry ∈ rules, entry.2.toValue.nesting ≤ n := by
  induction rules with
  | nil => simp [toFields, Value.nestingFields]
  | cons entry rest ih => rw [toFields, Value.nestingFields, Nat.max_le, ih, List.forall_mem_cons]

theorem savable_convert (grain : Grain) (target there back : String) :
    (convert grain target there back).Savable (n + 1) :=
  ⟨trivial, Nat.succ_le_succ (Nat.zero_le n)⟩

/-- A nesting rule has one object more than the rules inside it. -/
theorem savable_nest {rules : Definition} (h : rules.Savable n) (arity : Arity) (target : String) :
    (nest arity target rules).Savable (n + 1) := by
  refine ⟨h.1, ?_⟩
  have hn : (nest arity target rules).toValue.nesting = rules.toValue.nesting + 1 := by
    simp [toValue, Definition.toValue, Value.nesting, Value.nestingFields]
  rw [hn]
  exact Nat.succ_le_succ h.2

end Rule

/-- Collected rules have one object more than each of them. -/
theorem Definition.savable_ofList {rules : List (String × Rule String)}
    (h : ∀ entry ∈ rules, entry.2.Savable n) : Savable (Fields.ofList rules) (n + 1) := by
  have hm {entry : String × Rule String} (hm : entry ∈ Fields.ofList rules) :
      entry.2.Savable n := h entry (Fields.mem_of_mem_ofList hm)
  constructor
  · refine Mapping.everywhere_iff.mpr ⟨Fields.distinct_ofList rules, ?_⟩
    rintro inner ⟨entry, he, hi⟩
    exact Mapping.within_iff.mp (hm he).1 inner hi
  · exact Nat.succ_le_succ (Rule.nestingFields_toFields_le_iff.mpr fun entry he => (hm he).2)

/-! ### What is read can be saved -/

/-- **A node all of whose readings can be saved.** -/
structure Reading.Savable (reading : Reading) (n : Nat) : Prop where
  mapping : ∀ definition, reading.mapping? = some definition → definition.Savable n
  rule : ∀ rule, reading.rule? = some rule → rule.Savable n

namespace Reading

theorem savable_nothing : nothing.Savable n :=
  ⟨nofun, nofun⟩

theorem Savable.mono {reading : Reading} {m : Nat} (h : reading.Savable n) (hm : n ≤ m) :
    reading.Savable m where
  mapping definition hd := (h.mapping definition hd).imp_right (Nat.le_trans · hm)
  rule rule hr := (h.rule rule hr).imp_right (Nat.le_trans · hm)

theorem savable_of_convertRule? {grain : Grain} {target there back : Reading} {rule : Rule String}
    (h : convertRule? grain target there back = some rule) : rule.Savable (n + 1) := by
  obtain ⟨target, -, h⟩ := Option.bind_eq_some_iff.mp h
  obtain ⟨there, -, h⟩ := Option.bind_eq_some_iff.mp h
  obtain ⟨back, -, h⟩ := Option.bind_eq_some_iff.mp h
  cases h
  exact Rule.savable_convert grain target there back

theorem savable_of_nestRule? {arity : Arity} {target mapping : Reading} {rule : Rule String}
    (hm : mapping.Savable n) (h : nestRule? arity target mapping = some rule) :
    rule.Savable (n + 1) := by
  obtain ⟨target, -, h⟩ := Option.bind_eq_some_iff.mp h
  obtain ⟨rules, hr, h⟩ := Option.bind_eq_some_iff.mp h
  cases h
  exact Rule.savable_nest (hm.mapping rules hr) arity target

theorem mem_of_only? {entries : List (String × Reading)} {key : String} {reading : Reading}
    (h : only? entries key = some reading) : (key, reading) ∈ entries := by
  unfold only? at h
  split at h
  case h_1 entry he =>
    cases h
    have hm : entry ∈ entries.filter fun entry => entry.1 == key := he ▸ List.mem_singleton_self _
    obtain ⟨hm, hk⟩ := List.mem_filter.mp hm
    exact beq_iff_eq.mp hk ▸ hm
  case h_2 => cases h

theorem mem_of_rules? {entries : List (String × Reading)} {rules : List (String × Rule String)}
    (h : rules? entries = some rules) {entry : String × Rule String} (hm : entry ∈ rules) :
    ∃ reading, (entry.1, reading) ∈ entries ∧ reading.rule? = some entry.2 := by
  induction entries generalizing rules with
  | nil =>
    cases h
    exact absurd hm List.not_mem_nil
  | cons head rest ih =>
    obtain ⟨rule, hr, h⟩ := Option.bind_eq_some_iff.mp h
    obtain ⟨others, ho, h⟩ := Option.bind_eq_some_iff.mp h
    cases h
    rcases List.mem_cons.mp hm with rfl | hm
    · exact ⟨head.2, List.mem_cons_self, hr⟩
    · obtain ⟨reading, hreading, hrule⟩ := ih ho hm
      exact ⟨reading, List.mem_cons_of_mem _ hreading, hrule⟩

/-- A list can be saved with one object more than its items: only the mapping of a nesting rule has
parts, and it stands in the object of the rule as it stood in the list. -/
theorem savable_ofItems {items : List Reading} (h : ∀ item ∈ items, item.Savable n) :
    (ofItems items).Savable (n + 1) := by
  refine ⟨nofun, fun rule (hr : ruleOfList? items = some rule) => ?_⟩
  unfold ruleOfList? at hr
  split at hr
  case h_1 =>
    split at hr
    · exact savable_of_convertRule? hr
    · cases hr
  case h_2 mapping =>
    split at hr
    · exact savable_of_nestRule? (h mapping (by simp)) hr
    · cases hr
  case h_3 => cases hr

theorem savable_of_ruleOfTable? {entries : List (String × Reading)} {rule : Rule String}
    (h : ∀ entry ∈ entries, entry.2.Savable n) (hr : ruleOfTable? entries = some rule) :
    rule.Savable (n + 1) := by
  obtain ⟨_, -, hr⟩ := Option.bind_eq_some_iff.mp hr
  obtain ⟨tag, -, hr⟩ := Option.bind_eq_some_iff.mp hr
  obtain ⟨target, -, hr⟩ := Option.bind_eq_some_iff.mp hr
  cases tag with
  | convert grain =>
    obtain ⟨there, -, hr⟩ := Option.bind_eq_some_iff.mp hr
    obtain ⟨back, -, hr⟩ := Option.bind_eq_some_iff.mp hr
    exact savable_of_convertRule? hr
  | nest arity =>
    obtain ⟨mapping, hm, hr⟩ := Option.bind_eq_some_iff.mp hr
    exact savable_of_nestRule? (h _ (mem_of_only? hm)) hr

/-- A table can be saved with one object more than its entries, as a mapping and as a rule. -/
theorem savable_ofEntries {entries : List (String × Reading)}
    (h : ∀ entry ∈ entries, entry.2.Savable n) : (ofEntries entries).Savable (n + 1) where
  mapping definition hd := by
    obtain ⟨rules, hr, rfl⟩ := Option.map_eq_some_iff.mp hd
    refine Definition.savable_ofList fun entry hm => ?_
    obtain ⟨reading, hreading, hrule⟩ := mem_of_rules? hr hm
    exact (h _ hreading).rule entry.2 hrule
  rule _ := savable_of_ruleOfTable? h

end Reading

namespace Node

open Value (nestingItems nestingFields)

mutual

/-- **All that a value may be read as** can be saved with no more objects inside one another than
arrays and objects in the value. -/
theorem savable_reading : ∀ v : Value, (ofValue v).reading.Savable v.nesting
  | .null => Reading.savable_nothing
  | .bool _ => Reading.savable_nothing
  | .number (.int k _) => by
    rw [ofValue]
    split <;> exact ⟨nofun, nofun⟩
  | .number (.double _) => Reading.savable_nothing
  | .string s => ⟨nofun, fun rule hr => by cases hr; exact ⟨trivial, Nat.le_refl _⟩⟩
  | .array items => Reading.savable_ofItems (savable_readings items)
  | .object fields => Reading.savable_ofEntries (savable_entryReadings fields)
termination_by structural v => v

theorem savable_readings : ∀ items : List Value,
    ∀ reading ∈ readings (ofItems items), reading.Savable (nestingItems items)
  | [] => nofun
  | item :: rest => by
    refine List.forall_mem_cons.mpr ⟨?_, fun reading hm => ?_⟩
    · exact (savable_reading item).mono (Nat.le_max_left _ _)
    · exact (savable_readings rest reading hm).mono (Nat.le_max_right _ _)
termination_by structural items => items

theorem savable_entryReadings : ∀ fields : List (String × Value),
    ∀ entry ∈ entryReadings (ofFields fields), entry.2.Savable (nestingFields fields)
  | [] => nofun
  | (_, v) :: rest => by
    refine List.forall_mem_cons.mpr ⟨?_, fun entry hm => ?_⟩
    · exact (savable_reading v).mono (Nat.le_max_left _ _)
    · exact (savable_entryReadings rest entry hm).mono (Nat.le_max_right _ _)
termination_by structural fields => fields

end

end Node

namespace Definition

variable {text : String} {definition : Definition}

/-- **What a value describes nests no deeper than the value.** -/
theorem savable_of_ofNode? {v : Value} (h : ofNode? (Node.ofValue v) = some definition) :
    definition.Savable v.nesting :=
  (Node.savable_reading v).mapping definition h

/-- A definition that a text describes can be saved with as many brackets open at once as in the
text, and the text has no more than the limit. -/
theorem savable_of_ofJson (h : ofJson text = .ok definition) :
    definition.Savable (Json.openAtOnce text) ∧ Json.openAtOnce text ≤ Json.nestingLimit := by
  unfold ofJson at h
  split at h
  case h_1 hd =>
    cases h
    obtain ⟨v, hv, hd⟩ := Option.bind_eq_some_iff.mp hd
    obtain ⟨hopen, hlimit⟩ := Json.openAtOnce_of_read? hv
    exact ⟨hopen ▸ savable_of_ofNode? hd, hlimit⟩
  case h_2 => cases h

/-- **What was loaded can be saved and loaded again.** The JSON text of a definition that was loaded
is read as the definition, with the fields in their order at every level, and saving what is read
gives the same text: the text has no more brackets open at once than the one that was loaded. -/
theorem ofJson_resaved (h : ofJson text = .ok definition) :
    ofJson definition.toJson = .ok definition ∧
      (ofJson definition.toJson).map toJson = .ok definition.toJson ∧
      Json.openAtOnce definition.toJson ≤ Json.openAtOnce text ∧ Json.openAtOnce text ≤ 127 := by
  obtain ⟨⟨hk, hn⟩, hlimit⟩ := savable_of_ofJson h
  have ht : definition.toValue.Textual := Rule.allTextual_toFields definition
  have hr : Json.read? definition.toJson = some definition.toValue := by
    rw [toJson, Json.read?_pretty ht, if_pos (Nat.le_trans hn hlimit)]
  have hj : ofJson definition.toJson = .ok definition := by
    rw [ofJson, hr, Option.bind_some, ofNode?_toValue hk]
  refine ⟨hj, ?_, ?_, hlimit⟩
  · rw [hj]
    rfl
  · rw [openAtOnce_toJson]
    exact hn

open Json (Scans) in
/-- Of two rules for one field the last counts, in the place of the first. -/
theorem ofJson_scrawl : ofJson Example.scrawl = .ok
    [("pets", .nest .many "animals" [("name", .copy "")]),
      ("age", .convert .whole "\n" "f" "g")] := by
  have hpets : Scans "\x7b\"pets\":[\"array\",\"pet\",\"f\",\"g\"],\n".toList
      [.beginObject, .string "pets", .colon, .beginArray, .string "array", .comma, .string "pet",
        .comma, .string "f", .comma, .string "g", .endArray, .comma] := fun _ => rfl
  have hage : Scans
      "\"\\u0061ge\":\x7b\"reverse\":\"g\",\"notes\":[[true]],\"target\":\"\\n\",".toList
      [.string "age", .colon, .beginObject, .string "reverse", .colon, .string "g", .comma,
        .string "notes", .colon, .beginArray, .beginArray, .scalar (.bool true), .endArray,
        .endArray, .comma, .string "target", .colon, .string "\n", .comma] := fun _ => rfl
  have hrule : Scans
      "\"transform\":\"f\",\"rule\":\"property\"\x7d,\r\n\t\"pets\":[".toList
      [.string "transform", .colon, .string "f", .comma, .string "rule", .colon,
        .string "property", .endObject, .comma, .string "pets", .colon, .beginArray] :=
    fun _ => rfl
  have hthree : Json.bare? ['3'] = some (.number (.int 3 (by decide))) := by
    have hn : Numeral.read? ['3'] = some ⟨none, ['3'], none, none⟩ := rfl
    have ha : Json.admits ⟨none, ['3'], none, none⟩ = true := by decide
    have hi : Json.numberOf? ⟨none, ['3'], none, none⟩ = some (.int 3 (by decide)) := by decide
    simp [Json.bare?, hn, ha, hi]
  have htag : Scans "3,".toList [.scalar (.number (.int 3 (by decide))), .comma] := by
    intro found
    have hs : "3,".toList.foldlM Json.Scanner.step ⟨.between, found⟩ =
        (Json.bare? ['3']).bind fun v => Json.startToken (.scalar v :: found) ',' := rfl
    rw [hs, hthree]
    rfl
  have hname : Scans " \"animals\", \x7b\"name\":\"\"\x7d] \x7d".toList
      [.string "animals", .comma, .beginObject, .string "name", .colon, .string "", .endObject,
        .endArray, .endObject] := fun _ => rfl
  have ht := ((((hpets.append hage).append hrule).append htag).append hname).tokens?_eq
  simp only [← String.toList_append] at ht
  have hr : Json.read? Example.scrawl = _ :=
    congrArg (fun tokens => Option.bind tokens Json.ofTokens?) ht
  rw [ofJson, hr]
  rfl

/-- A text with liberties that has more brackets open at once than it is saved with. -/
theorem ofJson_resaved_scrawl : ∃ definition, ofJson Example.scrawl = .ok definition ∧
    ofJson definition.toJson = .ok definition ∧
    (ofJson definition.toJson).map toJson = .ok definition.toJson ∧
    Json.openAtOnce definition.toJson ≤ Json.openAtOnce Example.scrawl ∧
    Json.openAtOnce Example.scrawl ≤ 127 :=
  ⟨_, ofJson_scrawl, ofJson_resaved ofJson_scrawl⟩

end Definition

end Reshape
