import Reshape.Builtins
import Reshape.Proofs.Fields

/-!
# Runs of registrations

A registry starts with the builtins, or empty, and transforms are registered one after another.
After each registration all that can be asked of the registry tells the same names, and under each
name stands what was registered for it last, over the builtins where the registry started with them.
A registration is reported exactly if it replaces what was there.

Names are listed in the order of their bytes. They are compared by characters, which comes to the
same: of two characters, the one with the smaller number has the smaller bytes in UTF-8.

## Main definitions

* `Text.bytes`: the bytes of a text
* `Registry.registerAll`: registrations one after another
* `Registry.Coherent`: a registry of which all observers tell the same names
* `Registry.Origin`: what a run of registrations starts from

## Main results

* `Text.bytes_lt`: the order of characters is the order of bytes
* `Registry.distinct_registerAll`: registrations leave no name twice
* `Registry.registerAll_coherent`: what can be asked of a registry, after each registration
-/

namespace Reshape

/-! ### The order of bytes -/

namespace Text

/-- **The bytes of a text** in UTF-8. -/
def bytes (text : String) : List UInt8 :=
  text.toUTF8.data.toList

theorem bytes_eq_flatMap (text : String) :
    bytes text = text.toList.flatMap String.utf8EncodeChar := by
  have h : text.toUTF8 = (text.toList.flatMap String.utf8EncodeChar).toByteArray :=
    String.utf8Encode_toList.symm
  rw [bytes, h, List.toList_data_toByteArray]

/-- The bytes of a character are its number to the base of 64; how many digits there are is told by
the first. -/
theorem utf8EncodeChar_eq (c : Char) :
    String.utf8EncodeChar c =
      if c.toNat ≤ 127 then [UInt8.ofNat c.toNat]
      else if c.toNat ≤ 2047 then
        [UInt8.ofNat (c.toNat / 64 % 32 + 192), UInt8.ofNat (c.toNat % 64 + 128)]
      else if c.toNat ≤ 65535 then
        [UInt8.ofNat (c.toNat / 4096 % 16 + 224), UInt8.ofNat (c.toNat / 64 % 64 + 128),
          UInt8.ofNat (c.toNat % 64 + 128)]
      else
        [UInt8.ofNat (c.toNat / 262144 % 8 + 240), UInt8.ofNat (c.toNat / 4096 % 64 + 128),
          UInt8.ofNat (c.toNat / 64 % 64 + 128), UInt8.ofNat (c.toNat % 64 + 128)] :=
  rfl

theorem toNat_lt (c : Char) : c.toNat < 0x110000 := by
  rcases c.valid with h | ⟨-, h⟩
  · exact Nat.lt_trans h (by decide)
  · exact h

theorem ofNat_cons_lt_iff {m n : Nat} {xs ys : List UInt8} (hm : m < 256) (hn : n < 256) :
    UInt8.ofNat m :: xs < UInt8.ofNat n :: ys ↔ m < n ∨ m = n ∧ xs < ys := by
  rw [List.cons_lt_cons_iff, UInt8.lt_iff_toNat_lt, ← UInt8.toNat_inj, UInt8.toNat_ofNat',
    UInt8.toNat_ofNat', Nat.mod_eq_of_lt hm, Nat.mod_eq_of_lt hn]

/-- The bytes of a smaller character are smaller, whatever comes behind. -/
theorem utf8EncodeChar_append_lt {c d : Char} (h : c < d) (xs ys : List UInt8) :
    String.utf8EncodeChar c ++ xs < String.utf8EncodeChar d ++ ys := by
  have hlt : c.toNat < d.toNat := h
  have hd := toNat_lt d
  -- Digit by digit, so that the digits of two numbers can be compared.
  have hdigit (n : Nat) : n / 4096 = n / 64 / 64 ∧ n / 262144 = n / 64 / 64 / 64 := by
    simp only [Nat.div_div_eq_div_mul, Nat.reduceMul, and_self]
  rw [utf8EncodeChar_eq, utf8EncodeChar_eq]
  simp only [hdigit]
  split_ifs <;>
    simp (disch := omega) only [List.cons_append, List.nil_append, ofNat_cons_lt_iff] <;> omega

/-- **The order of characters is the order of bytes.** -/
theorem bytes_lt {a b : String} (h : a < b) : bytes a < bytes b := by
  have hall {cs ds : List Char} (h : cs < ds) :
      cs.flatMap String.utf8EncodeChar < ds.flatMap String.utf8EncodeChar := by
    induction h with
    | @nil d ds =>
      obtain ⟨byte, bytes, hd⟩ := List.ne_nil_iff_exists_cons.mp (@String.utf8EncodeChar_ne_nil d)
      rw [List.flatMap_cons, hd]
      exact List.nil_lt_cons byte _
    | rel h => exact utf8EncodeChar_append_lt h _ _
    | cons _ ih => exact List.append_left_lt ih
  rw [bytes_eq_flatMap, bytes_eq_flatMap]
  exact hall h

end Text

namespace Registry

variable {registry : Registry} {name : String}

/-! ### What can be asked of a registry -/

/-- **A coherent registry**: the look-up, the resolution and the list of the names tell the same
names, and the list is in ascending order of the bytes, so that no name comes twice. -/
structure Coherent (registry : Registry) : Prop where
  get?_isSome : ∀ name, (registry.get? name).isSome = true ↔ registry.contains name = true
  resolves : ∀ name, (∃ f, registry.resolve name = .ok f) ↔ registry.contains name = true
  mem_names : ∀ name, name ∈ registry.names ↔ registry.contains name = true
  ascending : registry.names.Pairwise fun a b => Text.bytes a < Text.bytes b

theorem contains_iff : registry.contains name = true ↔ ∃ f, registry.get? name = some f := by
  rw [contains_eq_isSome, Option.isSome_iff_exists]

theorem contains_eq_false_iff : registry.contains name = false ↔ registry.get? name = none := by
  rw [contains_eq_isSome, Option.isSome_eq_false_iff, Option.isNone_iff_eq_none]

/-- A name that is not there is refused. -/
theorem resolve_eq_error_iff {error : Error} :
    registry.resolve name = .error error ↔
      registry.contains name = false ∧ error = .unknownFunction name := by
  rw [contains_eq_false_iff, resolve]
  cases registry.get? name <;> simp [eq_comm]

theorem mem_names_iff : name ∈ registry.names ↔ registry.contains name = true := by
  have hn : registry.get? name = none ↔ name ∉ Fields.keys registry.functions :=
    Fields.get?_eq_none_iff
  rw [names, List.mem_mergeSort, contains_eq_isSome, Option.isSome_iff_ne_none, ne_eq, hn, not_not]

/-- Names that are all different are listed in strictly ascending order. -/
theorem pairwise_names (h : Fields.Distinct registry.functions) :
    registry.names.Pairwise fun a b => Text.bytes a < Text.bytes b := by
  have hle : registry.names.Pairwise fun a b => decide (a ≤ b) = true := by
    refine List.pairwise_mergeSort (fun a b c hab hbc => ?_) (fun a b => ?_) _
    · rw [decide_eq_true_iff] at hab hbc ⊢
      exact String.le_trans hab hbc
    · rw [Bool.or_eq_true, decide_eq_true_iff, decide_eq_true_iff]
      exact String.le_total a b
  have hne : registry.names.Pairwise (· ≠ ·) := (List.mergeSort_perm _ _).nodup_iff.mpr h
  refine hle.imp₂ (fun a b hab hne => Text.bytes_lt ?_) hne
  -- If the later name is not greater, the two are the same.
  rw [← String.not_le]
  exact fun hba => hne (String.le_antisymm (of_decide_eq_true hab) hba)

/-- **A registry in which no name comes twice is coherent.** -/
theorem coherent_of_distinct (h : Fields.Distinct registry.functions) : registry.Coherent where
  get?_isSome name := by rw [contains_eq_isSome]
  resolves name := by simp only [resolve_eq_ok_iff, contains_iff]
  mem_names name := mem_names_iff
  ascending := pairwise_names h

/-! ### Registrations one after another -/

/-- **Registrations one after another**, with all that is reported of them. -/
def registerAll (registry : Registry) : List (String × Transform) → Noted Registry
  | [] => ⟨[], registry⟩
  | (name, f) :: rest =>
    let first := registry.register name f
    let others := first.value.registerAll rest
    ⟨first.notices ++ others.notices, others.value⟩

variable {calls : List (String × Transform)}

/-- One registration more reports what it replaces, after all that was reported before. -/
theorem notices_registerAll_concat (registry : Registry) (calls : List (String × Transform))
    (name : String) (f : Transform) :
    (registry.registerAll (calls ++ [(name, f)])).notices =
      (registry.registerAll calls).notices ++
        ((registry.registerAll calls).value.register name f).notices := by
  induction calls generalizing registry with
  | nil => exact List.append_nil _
  | cons call calls ih =>
    obtain ⟨first, g⟩ := call
    exact (congrArg _ (ih (registry.register first g).value)).trans
      (List.append_assoc ..).symm

/-- Registrations set the transforms of their names, one after another. -/
theorem functions_registerAll (registry : Registry) (calls : List (String × Transform)) :
    (registry.registerAll calls).value.functions = Fields.insertAll registry.functions calls := by
  induction calls generalizing registry with
  | nil => rfl
  | cons call calls ih => exact ih (registry.register call.1 call.2).value

/-- **A registration leaves no name twice.** -/
theorem distinct_register (h : Fields.Distinct registry.functions) (name : String)
    (f : Transform) : Fields.Distinct (registry.register name f).value.functions :=
  h.insert name f

/-- **Registrations leave no name twice.** -/
theorem distinct_registerAll (h : Fields.Distinct registry.functions) :
    Fields.Distinct (registry.registerAll calls).value.functions := by
  induction calls generalizing registry with
  | nil => exact h
  | cons call calls ih => exact ih (distinct_register h call.1 call.2)

theorem get?_registerAll_eq_some_iff {f : Transform} :
    (registry.registerAll calls).value.get? name = some f ↔
      Fields.Last calls name f ∨ name ∉ Fields.keys calls ∧ registry.get? name = some f := by
  rw [get?, functions_registerAll]
  exact Fields.get?_insertAll_eq_some_iff

/-! ### From the start -/

/-- What a run of registrations starts from. -/
inductive Origin where
  /-- The builtins. -/
  | builtin
  /-- No transforms. -/
  | empty
  deriving DecidableEq

/-- The registry at the start. -/
def Origin.start : Origin → Registry
  | builtin => Registry.builtin
  | empty => Registry.empty

/-- The registry after registrations. -/
def Origin.after (origin : Origin) (calls : List (String × Transform)) : Registry :=
  (origin.start.registerAll calls).value

/-- What registrations report. -/
def Origin.reports (origin : Origin) (calls : List (String × Transform)) : List Notice :=
  (origin.start.registerAll calls).notices

theorem Origin.distinct_start (origin : Origin) : Fields.Distinct origin.start.functions := by
  cases origin with
  | builtin =>
    show (Fields.keys Builtin.all).Nodup
    decide
  | empty => exact List.nodup_nil

theorem Origin.get?_start_eq_some_iff {origin : Origin} {f : Transform} :
    origin.start.get? name = some f ↔ origin = .builtin ∧ (name, f) ∈ Builtin.all := by
  cases origin with
  | builtin =>
    have hb : Fields.get? Builtin.all name = some f ↔ (name, f) ∈ Builtin.all :=
      Fields.get?_eq_some_iff (Origin.distinct_start .builtin)
    exact hb.trans (and_iff_right rfl).symm
  | empty =>
    constructor
    · rintro ⟨⟩
    · rintro ⟨⟨⟩, -⟩

/-- **Runs of registrations.** After each registration the registry is coherent. A name resolves to
the transform that is found under it, which is the one registered for it last or, if none was and
the run started from the builtins, the builtin; any other name is refused. And a registration is
reported, by one warning with the name, exactly if the name was there just before. -/
theorem registerAll_coherent (origin : Origin) (calls : List (String × Transform)) :
    (origin.after calls).Coherent ∧
      (∀ name f, (origin.after calls).get? name = some f ↔
        Fields.Last calls name f ∨
          name ∉ Fields.keys calls ∧ origin = .builtin ∧ (name, f) ∈ Builtin.all) ∧
      (∀ name f, (origin.after calls).resolve name = .ok f ↔
        (origin.after calls).get? name = some f) ∧
      (∀ name error, (origin.after calls).resolve name = .error error ↔
        (origin.after calls).contains name = false ∧ error = .unknownFunction name) ∧
      ∀ name f, ∃ reported,
        origin.reports (calls ++ [(name, f)]) = origin.reports calls ++ reported ∧
        reported.map (fun notice => (notice.level, notice.text)) =
          if (origin.after calls).contains name then
            [(.warn, .join ["Transform '", name, "' was already registered and has been replaced"])]
          else [] := by
  refine ⟨coherent_of_distinct (distinct_registerAll origin.distinct_start), fun name f => ?_,
    fun name f => resolve_eq_ok_iff, fun name error => resolve_eq_error_iff, fun name f => ?_⟩
  · rw [Origin.after, get?_registerAll_eq_some_iff, Origin.get?_start_eq_some_iff]
  · refine ⟨_, notices_registerAll_concat _ _ name f, ?_⟩
    show List.map _ (if (origin.after calls).contains name then _ else _) = _
    cases (origin.after calls).contains name <;> rfl

/-- A builtin is replaced, and then what replaced it; a new name is not reported. -/
example (f : Transform) :
    (Origin.builtin.reports [("trim", f), ("double", f), ("trim", f)]).map Notice.level =
      [.warn, .warn] :=
  rfl

end Registry

end Reshape
