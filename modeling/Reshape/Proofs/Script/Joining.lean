import Reshape.Example.Definitions
import Reshape.Proofs.Script.Grammar

/-!
# Scripts one after another

Two scripts with a line feed between them are one script. If the first is accepted, every block in
it has ended, so that the second is read as it would be on its own: its rules are set after those of
the first, and what is wrong with it is found just as many lines further on as the first has.

## Main results

* `rows_append`, `length_rows`: the rows of two scripts, and how many a script has
* `Means.append`: the definitions of two scripts are set one after the other
* `Means.append_faulty`: what is wrong with the second script is wrong with both
* `message_inj`: the text of a fault tells the line
* `Definition.ofScript_append`: two scripts are read one after the other
-/

namespace Reshape

namespace Script

/-! ### Rows -/

/-- The rows of two texts with a line feed between them. -/
theorem rows_append (first second : String) :
    rows (first ++ "\n" ++ second) = rows first ++ rows second := by
  have hl : (first ++ "\n" ++ second).toList = first.toList ++ '\n' :: second.toList := by
    simp
  rw [rows, hl, List.splitOn_append_cons_self, List.map_append]
  rfl

/-- A text has one row more than line feeds. -/
theorem length_rows (text : String) : (rows text).length = text.toList.count '\n' + 1 := by
  have hs (line text : List Char) :
      (text.splitOnPPrepend (· == '\n') line).length = text.count '\n' + 1 := by
    induction text generalizing line with
    | nil => rfl
    | cons c rest ih =>
      rw [List.splitOnPPrepend_cons_eq_if, List.splitOnP_eq_splitOnPPrepend, List.count_cons]
      split
      · rw [List.length_cons, ih]
      · exact ih (c :: line)
  rw [rows, List.length_map]
  exact hs [] text.toList

variable {before after : List Row} {first second : Definition}

/-! ### What two scripts mean -/

/-- Rows that mean a definition say lines in which no block stays open. -/
theorem Means.exists_lines (h : Means before first) :
    ∃ lines, List.Forall₂ Says before lines ∧ height? 0 lines = some 0 :=
  exists_means_iff.mp ⟨first, h⟩

/-- **The definitions of two scripts** are set one after the other. -/
theorem Means.append (h : Means before first) (h' : Means after second) :
    Means (before ++ after) (Fields.insertAll first second) := by
  obtain ⟨lines, entries, hr, hd, hc⟩ := h
  obtain ⟨lines', entries', hr', hd', hc'⟩ := h'
  refine ⟨lines ++ lines', entries ++ entries', List.rel_append hr hr', hd.append hd', ?_⟩
  rw [Fields.collects_iff] at hc hc' ⊢
  rw [hc, hc', Fields.insertAll_ofList, Fields.ofList_append]

/-- **What is wrong with the second script** is wrong with both, as many rows further on as the
first has. -/
theorem Means.append_faulty (h : Means before first) {fault : Fault} {number : Nat}
    (h' : Faulty after ⟨fault, number⟩) :
    Faulty (before ++ after) ⟨fault, before.length + number⟩ := by
  obtain ⟨lines, hr, hh⟩ := h.exists_lines
  have hheight (more : List Line) : height? 0 (lines ++ more) = height? 0 more := by
    rw [height?_append, hh, Option.bind_some]
  cases h' with
  | @misread before' lines' row fault after' hb hh' hm =>
    rw [← List.append_assoc, ← Nat.add_assoc, ← List.length_append]
    refine .misread after' (List.rel_append hr hb) ?_ hm
    rwa [hheight]
  | @stray before' lines' row after' hb hh' hs =>
    rw [← List.append_assoc, ← Nat.add_assoc, ← List.length_append]
    refine .stray after' (List.rel_append hr hb) ?_ hs
    rwa [hheight]
  | @unclosed _ before' inside arity field target hr' hb hi =>
    rw [hr.length_eq, ← Nat.add_assoc, ← List.length_append]
    have hrows : List.Forall₂ Says (before ++ after)
        ((lines ++ before') ++ .opening arity field target :: inside) := by
      rw [List.append_assoc]
      exact List.rel_append hr hr'
    refine .unclosed hrows ?_ hi
    rwa [hheight]

/-! ### The number in a message -/

/-- A digit is no space. -/
theorem ne_space_of_mem_toString {n : Nat} {c : Char} (h : c ∈ (toString n).toList) :
    (c != ' ') = true := by
  rw [Nat.toString_eq_repr, Nat.toList_repr] at h
  have hd := Nat.isDigit_of_mem_toDigits (by decide) (by decide) h
  rw [bne_iff_ne]
  rintro rfl
  exact nomatch hd

/-- **The text of a fault tells the line**: the number is what stands behind the last space. -/
theorem message_inj {reason reason' : String} {number number' : Nat}
    (h : String.join [reason, " on line ", toString number] =
      String.join [reason', " on line ", toString number']) :
    reason = reason' ∧ number = number' := by
  -- Read from behind, the digits come first, up to a space.
  have hreverse (reason : String) (number : Nat) :
      (String.join [reason, " on line ", toString number]).toList.reverse =
        (toString number).toList.reverse ++
          ' ' :: (reason.toList ++ " on line".toList).reverse := by
    simp
  have hdigits (reason : String) (number : Nat) :
      (String.join [reason, " on line ", toString number]).toList.reverse.takeWhile (· != ' ') =
        (toString number).toList.reverse := by
    rw [hreverse, List.takeWhile_append_of_pos fun c hc =>
      ne_space_of_mem_toString (List.mem_reverse.mp hc)]
    simp
  have hread (n : Nat) : Nat.ofDigitChars 10 (toString n).toList 0 = n := by
    rw [Nat.toString_eq_repr, Nat.toList_repr]
    exact Nat.ofDigitChars_toDigits (by decide) (by decide)
  have hn : (toString number).toList = (toString number').toList := by
    rw [← List.reverse_inj, ← hdigits reason, h, hdigits]
  obtain rfl : number = number' := by rw [← hread number, hn, hread]
  simpa using h

end Script

namespace Definition

/-- **Two scripts with a line feed between them are read one after the other**, if the first is
accepted. The rules of the second are set after those of the first, each in its first place and with
its last rule. If the second is refused, so are both, with the same message but for the number of
the line, which counts the lines of the first too. -/
theorem ofScript_append (first second : String) {definition : Definition}
    (h : ofScript first = .ok definition) :
    (∀ more, ofScript second = .ok more →
      ofScript (first ++ "\n" ++ second) = .ok (Fields.insertAll definition more)) ∧
    (∀ error, ofScript second = .error error → ∃ (reason : String) (number : Nat),
      error = .invalidDsl (.join [reason, " on line ", toString number])) ∧
    ∀ (reason : String) (number : Nat),
      ofScript second = .error (.invalidDsl (.join [reason, " on line ", toString number])) →
      ofScript (first ++ "\n" ++ second) = .error (.invalidDsl
        (.join [reason, " on line ", toString (number + 1 + first.toList.count '\n')])) := by
  have hm := ofScript_eq_ok_iff.mp h
  refine ⟨fun more h' => ?_, fun error h' => ?_, fun reason number h' => ?_⟩
  · rw [ofScript_eq_ok_iff, Script.rows_append]
    exact hm.append (ofScript_eq_ok_iff.mp h')
  · obtain ⟨fault, number, -, rfl⟩ := ofScript_eq_error_iff.mp h'
    exact ⟨_, number, rfl⟩
  · obtain ⟨fault, number', hf, he⟩ := ofScript_eq_error_iff.mp h'
    obtain ⟨rfl, rfl⟩ := Script.message_inj (Error.invalidDsl.inj he)
    refine ofScript_eq_error_iff.mpr ⟨fault, _, ?_, rfl⟩
    have ha := hm.append_faulty hf
    rwa [← Script.rows_append, Script.length_rows, Nat.add_comm, ← Nat.add_assoc,
      Nat.add_right_comm] at ha

open Example

/-- The field that both scripts have keeps its place and takes its second rule; the block that does
not end is opened three lines further down. -/
theorem ofScript_kennel :
    ofScript kennel = .ok [("pets", .nest .many "pets" [("name", .copy "name")])] ∧
    (ofScript kennelMoved = .ok [("home", .copy "house"), ("pets", .copy "animals")] ∧
      ofScript (kennel ++ "\n" ++ kennelMoved) =
        .ok [("pets", .copy "animals"), ("home", .copy "house")]) ∧
    (ofScript kennelOpen = .error (.invalidDsl
        (.join ["Block for 'home' is never closed", " on line ", toString 2])) ∧
      ofScript (kennel ++ "\n" ++ kennelOpen) = .error (.invalidDsl
        (.join ["Block for 'home' is never closed", " on line ", toString 5]))) := by
  have hk : ofScript kennel = .ok [("pets", .nest .many "pets" [("name", .copy "name")])] := by rfl
  have hm : ofScript kennelMoved = .ok [("home", .copy "house"), ("pets", .copy "animals")] := by
    rfl
  have ho : ofScript kennelOpen = .error (.invalidDsl
      (.join ["Block for 'home' is never closed", " on line ", toString 2])) := by rfl
  exact ⟨hk, ⟨hm, (ofScript_append kennel kennelMoved hk).1 _ hm⟩, ho,
    (ofScript_append kennel kennelOpen hk).2.2 _ 2 ho⟩

end Definition

end Reshape
