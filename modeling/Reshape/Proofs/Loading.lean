import Reshape.Definition.File
import Reshape.Proofs.Agreement
import Mathlib.Data.List.TakeWhile

/-!
# Loading definitions

What comes of a file is decided in a fixed order: whether it is there, whether its contents are text,
whether its name tells a format, and what the text describes in that format. The name tells the
format by what stands behind its last point; a name whose only point comes first has nothing there.
That a definition has been loaded is reported just if there is one.

## Main definitions

* `Format.Extends`: a name and its extension
* `Format.Names`: the file names of a format
* `Definition.Loads`: what comes of a file

## Main results

* `Format.ofFileName?_eq_some_iff`: the format of a file is told by its extension
* `Definition.load_loads`: what comes of a file, and what is reported
-/

namespace Reshape

/-! ### Extensions -/

namespace Format

/-- **The extension of a name**: what stands behind its last point, if that point is not the first
character. -/
def Extends (name : String) (extension : List Char) : Prop :=
  ∃ stem, stem ≠ [] ∧ '.' ∉ extension ∧ name.toList = stem ++ '.' :: extension

/-- The extension that stands for a format. -/
def word : Format → List Char
  | json => ['j', 's', 'o', 'n']
  | toml => ['t', 'o', 'm', 'l']
  | script => ['m', 'a', 'p']

/-- **The file names of a format**: those with its extension, in any case of ASCII letters. -/
def Names (format : Format) (name : String) : Prop :=
  ∃ extension, Extends name extension ∧ extension.map Char.toLower = format.word

/-- The last point of a text, seen from its end. -/
theorem dropWhile_reverse_eq_cons_iff {text extension stem : List Char} :
    (text.reverse.dropWhile (· ≠ '.') = '.' :: stem.reverse ∧
      (text.reverse.takeWhile (· ≠ '.')).reverse = extension) ↔
    '.' ∉ extension ∧ text = stem ++ '.' :: extension := by
  constructor
  · rintro ⟨hd, rfl⟩
    refine ⟨fun hm => ?_, ?_⟩
    · simpa using List.mem_takeWhile_imp (List.mem_reverse.mp hm)
    · have ha := List.takeWhile_append_dropWhile (p := (· ≠ '.')) (l := text.reverse)
      rw [hd] at ha
      simpa using (congrArg List.reverse ha).symm
  · rintro ⟨hn, rfl⟩
    have hall : ∀ c ∈ extension.reverse, decide (c ≠ '.') = true := by
      intro c hc
      refine decide_eq_true ?_
      rintro rfl
      exact hn (List.mem_reverse.mp hc)
    rw [List.reverse_append, List.reverse_cons, List.append_assoc]
    rw [List.dropWhile_append_of_pos hall, List.takeWhile_append_of_pos hall]
    simp

theorem extension?_eq_some_iff {name : String} {extension : List Char} :
    extension? name = some extension ↔ Extends name extension := by
  have hlast (stem : List Char) := @dropWhile_reverse_eq_cons_iff name.toList extension stem
  have hpoint := List.head?_dropWhile_not (· ≠ '.') name.toList.reverse
  rw [extension?]
  split
  case h_1 h =>
    refine iff_of_false nofun fun ⟨stem, _, hn, hs⟩ => ?_
    exact nomatch h.symm.trans ((hlast stem).mpr ⟨hn, hs⟩).1
  case h_2 h =>
    -- The only point comes first.
    refine iff_of_false nofun fun ⟨stem, hne, hn, hs⟩ => hne ?_
    have hd := h.symm.trans ((hlast stem).mpr ⟨hn, hs⟩).1
    simpa using (List.cons_eq_cons.mp hd).2
  case h_3 hnil hone =>
    rw [Option.some.injEq]
    constructor
    · intro he
      cases hd : name.toList.reverse.dropWhile (· ≠ '.') with
      | nil => exact absurd hd hnil
      | cons c rest =>
        rw [hd] at hpoint
        obtain rfl : c = '.' := by simpa using hpoint
        refine ⟨rest.reverse, ?_, (hlast rest.reverse).mp ⟨by simpa using hd, he⟩⟩
        rintro hr
        rw [List.reverse_eq_nil_iff] at hr
        exact hone '.' (hr ▸ hd)
    · rintro ⟨stem, -, h⟩
      exact ((hlast stem).mpr h).2

theorem ofExtension?_eq_some_iff {extension : List Char} {format : Format} :
    ofExtension? extension = some format ↔ extension.map Char.toLower = format.word := by
  unfold ofExtension?
  cases format <;> simp only [word] <;> split_ifs <;> simp_all

/-- **The format of a file is told by its extension.** -/
theorem ofFileName?_eq_some_iff {name : String} {format : Format} :
    ofFileName? name = some format ↔ format.Names name := by
  simp only [ofFileName?, Option.bind_eq_some_iff, extension?_eq_some_iff,
    ofExtension?_eq_some_iff, Names]

end Format

/-! ### What comes of a file -/

namespace Definition

/-- **What comes of a file** of a name, given its contents if there is such a file. -/
inductive Loads (name : String) : Option ByteArray → Except Error Definition → Prop
  /-- There is no such file, whatever its name. -/
  | missing : Loads name none (.error (.file .missing))
  /-- The contents are not the UTF-8 form of any text, whatever the name. -/
  | notText {bytes : ByteArray} (h : ∀ text : String, text.toUTF8 ≠ bytes) :
      Loads name (some bytes) (.error (.file .notText))
  /-- The name tells JSON, and the text is read as a JSON object. -/
  | json (h : Format.json.Names name) (text : String) :
      Loads name (some text.toUTF8) (ofJson text)
  /-- The name tells TOML, and the text is read as a TOML document. -/
  | toml (h : Format.toml.Names name) (text : String) :
      Loads name (some text.toUTF8) (ofToml text)
  /-- The name tells a script, and the text is read line by line. -/
  | script (h : Format.script.Names name) (text : String) :
      Loads name (some text.toUTF8) (ofScript text)
  /-- The name tells no format. -/
  | unknown (h : ∀ format : Format, ¬ format.Names name) (text : String) :
      Loads name (some text.toUTF8)
        (.error (.invalidMapping ("Unsupported mapping file format: " ++ name)))

theorem fromUTF8?_toUTF8 (text : String) : String.fromUTF8? text.toUTF8 = some text :=
  dif_pos text.isValidUTF8

theorem fromUTF8?_eq_none {bytes : ByteArray} (h : ∀ text : String, text.toUTF8 ≠ bytes) :
    String.fromUTF8? bytes = none :=
  dif_neg fun hb => h (.fromUTF8 bytes hb) rfl

theorem ofFile_toUTF8 (name text : String) :
    ofFile name (some text.toUTF8) = ofFileText name text := by
  rw [ofFile, fromUTF8?_toUTF8]

/-- A text is read in the format that the name tells. -/
theorem loads_ofText {name : String} {format : Format} (h : format.Names name) (text : String) :
    Loads name (some text.toUTF8) (ofText format text) := by
  cases format with
  | json => exact .json h text
  | toml => exact .toml h text
  | script => exact .script h text

theorem ofFileText_of_names {name : String} {format : Format} (h : format.Names name)
    (text : String) : ofFileText name text = ofText format text := by
  rw [ofFileText, Format.ofFileName?_eq_some_iff.mpr h]

/-- The text of a file is read as its name says. -/
theorem loads_ofFileText (name text : String) :
    Loads name (some text.toUTF8) (ofFileText name text) := by
  rw [ofFileText]
  cases hf : Format.ofFileName? name with
  | some format => exact loads_ofText (Format.ofFileName?_eq_some_iff.mp hf) text
  | none =>
    refine .unknown (fun format hn => ?_) text
    exact nomatch hf.symm.trans (Format.ofFileName?_eq_some_iff.mpr hn)

theorem loads_ofFile (name : String) (contents : Option ByteArray) :
    Loads name contents (ofFile name contents) := by
  cases contents with
  | none => exact .missing
  | some bytes =>
    by_cases h : ∃ text : String, text.toUTF8 = bytes
    · obtain ⟨text, rfl⟩ := h
      rw [ofFile_toUTF8]
      exact loads_ofFileText name text
    · have h : ∀ text : String, text.toUTF8 ≠ bytes := not_exists.mp h
      rw [ofFile, fromUTF8?_eq_none h]
      exact .notText h

theorem Loads.eq_ofFile {name : String} {contents : Option ByteArray}
    {result : Except Error Definition} (h : Loads name contents result) :
    result = ofFile name contents := by
  cases h with
  | missing => rfl
  | notText h => rw [ofFile, fromUTF8?_eq_none h]
  | json h text => rw [ofFile_toUTF8, ofFileText_of_names h, ofText]
  | toml h text => rw [ofFile_toUTF8, ofFileText_of_names h, ofText]
  | script h text => rw [ofFile_toUTF8, ofFileText_of_names h, ofText]
  | unknown h text =>
    have hf : Format.ofFileName? name = none :=
      Option.eq_none_iff_forall_ne_some.mpr fun format hf =>
        h format (Format.ofFileName?_eq_some_iff.mp hf)
    rw [ofFile_toUTF8, ofFileText, hf]
    rfl

/-- A definition that is loaded is reported once, with its number of fields, and nothing else is. -/
theorem load_eq (name : String) (contents : Option ByteArray) :
    (load name contents).value = ofFile name contents ∧
      (load name contents).notices =
        match ofFile name contents with
        | .ok definition => [.loaded definition.length name]
        | .error _ => [] := by
  rw [load]
  cases ofFile name contents <;> exact ⟨rfl, rfl⟩

/-- **Loading a definition.** Whether the file is there, whether its contents are text, whether its
name tells a format and what the text describes in that format decide, in this order, what comes of
it. If that is a definition, one message is logged, at the level of information and with the number
of its top-level fields; if it is an error, none is. -/
theorem load_loads (name : String) (contents : Option ByteArray) :
    (∀ result, (load name contents).value = result ↔ Loads name contents result) ∧
    (∀ definition, (load name contents).value = .ok definition →
      (load name contents).notices.map (fun notice => (notice.level, notice.text)) =
        [(.info, "Loaded mapping definition with " ++ toString definition.length ++
          " fields from " ++ name)]) ∧
    ∀ e, (load name contents).value = .error e → (load name contents).notices = [] := by
  obtain ⟨hv, hn⟩ := load_eq name contents
  rw [hv, hn]
  refine ⟨fun result => ⟨?_, fun h => h.eq_ofFile.symm⟩, ?_, ?_⟩
  · rintro rfl
    exact loads_ofFile name contents
  · intro definition h
    rw [h]
    simp [Notice.level, Notice.text, String.join]
  · intro e h
    rw [h]

open Example

theorem ofJson_herds : ofJson herdsJson = .ok herds := by
  have hs : Json.Scans herdsJson.toList
      [.beginObject, .string "herds", .colon, .beginArray, .string "array", .comma,
        .string "sizes", .comma, .string "f", .comma, .string "g", .endArray, .endObject] :=
    fun _ => rfl
  have hr : Json.read? herdsJson = _ :=
    congrArg (fun tokens => Option.bind tokens Json.ofTokens?) hs.tokens?_eq
  rw [ofJson, hr]
  rfl

theorem ofToml_herds : ofToml herdsToml = .ok herds := by
  have ht : herds.toToml = herdsToml := by rfl
  rw [← ht]
  exact ofToml_of_speltInToml (by decide) (by decide) (speltInToml_toToml herds)

/-- A file of each format, with its extension in whatever case and behind other points. A JSON text
in a file that is called after scripts is no script, and a hidden file that is called after a format
has none. -/
theorem load_herds :
    Loads ".herds.JSON" (some herdsJson.toUTF8) (.ok herds) ∧
    Loads "herds.Toml" (some herdsToml.toUTF8) (.ok herds) ∧
    Loads "herds.json.map" (some herdsScript.toUTF8) (.ok herds) ∧
    Loads "herds.map" (some herdsJson.toUTF8) (.error (.invalidDsl
      "Unknown command '\x7b\"herds\":[\"array\",\"sizes\",\"f\",\"g\"]\x7d' on line 1")) ∧
    Loads ".json" (some herdsJson.toUTF8)
      (.error (.invalidMapping "Unsupported mapping file format: .json")) ∧
    (load "herds.Toml" (some herdsToml.toUTF8)).notices.map (fun n => (n.level, n.text)) =
      [(.info, "Loaded mapping definition with 1 fields from herds.Toml")] := by
  have hloads {name text : String} {result : Except Error Definition}
      (h : ofFileText name text = result) : Loads name (some text.toUTF8) result := by
    refine ((load_loads name (some text.toUTF8)).1 result).mp ?_
    rw [(load_eq _ _).1, ofFile_toUTF8, h]
  have hok : (load "herds.Toml" (some herdsToml.toUTF8)).value = .ok herds :=
    ((load_loads _ _).1 _).mpr (hloads ofToml_herds)
  refine ⟨hloads ofJson_herds, hloads ofToml_herds, hloads rfl, hloads ?_, hloads rfl, ?_⟩
  · rfl
  · rw [(load_loads _ _).2.1 herds hok]
    decide

end Definition

end Reshape
