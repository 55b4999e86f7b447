import Reshape.Proofs.Json.Nesting

/-!
# Accepted texts

A text may spell a value in many ways. However it does, it opens as many brackets at once as arrays
and objects stand inside one another in the value, and never more than the reader allows: the count
is followed from the characters to the tokens, and from the tokens to the value.

## Main definitions

* `openTokens`: how many brackets are open at once in tokens
* `Spells`: characters that open as many brackets as tokens
* `Builder.height`: how many arrays and objects stand inside one another in what is read so far

## Main results

* `Scanner.adds_step`: what one character adds to the tokens
* `spells_of_tokens?`: a text opens as many brackets at once as its tokens
* `Builder.grows_step`, `Builder.height_foldlM`: what one token adds to the height, and what many do
* `openAtOnce_of_read?`: an accepted text opens as many brackets as stand inside one another, and no
  more than the limit
-/

namespace Reshape

namespace Value

theorem nestingItems_le_iff {items : List Value} {n : Nat} :
    nestingItems items ≤ n ↔ ∀ item ∈ items, item.nesting ≤ n := by
  induction items with
  | nil => simp [nestingItems]
  | cons item rest ih => rw [nestingItems, Nat.max_le, ih, List.forall_mem_cons]

theorem nestingFields_le_iff {fields : List (String × Value)} {n : Nat} :
    nestingFields fields ≤ n ↔ ∀ field ∈ fields, field.2.nesting ≤ n := by
  induction fields with
  | nil => simp [nestingFields]
  | cons field rest ih => rw [nestingFields, Nat.max_le, ih, List.forall_mem_cons]

theorem nestingItems_reverse (items : List Value) :
    nestingItems items.reverse = nestingItems items :=
  Nat.le_antisymm
    (nestingItems_le_iff.mpr fun item h => nestingItems_le_iff.mp (Nat.le_refl _) item
      (List.mem_reverse.mp h))
    (nestingItems_le_iff.mpr fun item h => nestingItems_le_iff.mp (Nat.le_refl _) item
      (List.mem_reverse.mpr h))

theorem nestingFields_reverse (fields : List (String × Value)) :
    nestingFields fields.reverse = nestingFields fields :=
  Nat.le_antisymm
    (nestingFields_le_iff.mpr fun field h => nestingFields_le_iff.mp (Nat.le_refl _) field
      (List.mem_reverse.mp h))
    (nestingFields_le_iff.mpr fun field h => nestingFields_le_iff.mp (Nat.le_refl _) field
      (List.mem_reverse.mpr h))

end Value

namespace Json

/-! ### Open brackets in tokens -/

/-- How many brackets are open behind a token, given how many are open before it. -/
def Token.after : Token → Nat → Nat
  | .beginObject, n => n + 1
  | .beginArray, n => n + 1
  | .endObject, n => n - 1
  | .endArray, n => n - 1
  | _, n => n

/-- A token that spells no value with parts. -/
def Token.Flat : Token → Prop
  | .scalar v => v.nesting = 0
  | _ => True

/-- **The most brackets that are open at once** in tokens, given how many are open so far. -/
def openTokens : Nat → List Token → Nat
  | n, [] => n
  | n, token :: rest => max n (openTokens (token.after n) rest)

theorem le_openTokens (n : Nat) (tokens : List Token) : n ≤ openTokens n tokens := by
  cases tokens with
  | nil => exact Nat.le_refl n
  | cons token rest => exact Nat.le_max_left _ _

/-- A token that is no bracket opens nothing. -/
theorem openTokens_cons_of_after {token : Token} (h : ∀ n, token.after n = n) (n : Nat)
    (rest : List Token) : openTokens n (token :: rest) = openTokens n rest := by
  rw [openTokens, h, Nat.max_eq_right (le_openTokens n rest)]

/-! ### From characters to tokens -/

/-- Where the count of brackets stands when the scanner stands somewhere. -/
def Mode.place : Mode → Place
  | .between => .outside
  | .bare _ => .outside
  | .quoted _ _ => .inside
  | .escaped _ _ => .escaped
  | .coded _ _ _ _ => .inside

/-- **Characters that open as many brackets as tokens**, none of which is a value with parts. -/
def Spells (place : Place) (text : List Char) (tokens : List Token) : Prop :=
  (∀ token ∈ tokens, token.Flat) ∧ ∀ n, openFrom place n text = openTokens n tokens

/-- What a character adds to the tokens: in front of whatever follows it, it opens as many brackets
as they do. -/
def Adds (place : Place) (c : Char) (next : Place) (added : List Token) : Prop :=
  ∀ text tokens, Spells next text tokens → Spells place (c :: text) (added ++ tokens)

/-- A character that is passed over adds nothing. -/
theorem Adds.nil {place next : Place} {c : Char}
    (h : ∀ n text, openFrom place n (c :: text) = openFrom next n text) : Adds place c next [] :=
  fun text _ ht => ⟨ht.1, fun n => (h n text).trans (ht.2 n)⟩

/-- A token that is no bracket may come in front. -/
theorem Adds.cons {place next : Place} {c : Char} {added : List Token} (h : Adds place c next added)
    {token : Token} (hf : token.Flat) (ha : ∀ n, token.after n = n) :
    Adds place c next (token :: added) := by
  intro text tokens ht
  obtain ⟨hall, hopen⟩ := h text tokens ht
  refine ⟨List.forall_mem_cons.mpr ⟨hf, hall⟩, fun n => ?_⟩
  rw [List.cons_append, openTokens_cons_of_after ha, hopen]

theorem openFrom_outside_plain {c : Char}
    (h : isSpace c = true ∨ isBare c = true ∨ c = ':' ∨ c = ',') (n : Nat) (text : List Char) :
    openFrom .outside n (c :: text) = openFrom .outside n text := by
  have hc : c ≠ '"' ∧ ¬ (c = '\x7b' ∨ c = '[') ∧ ¬ (c = '\x7d' ∨ c = ']') := by
    refine ⟨?_, ?_, ?_⟩
    · rintro rfl
      exact absurd h (by decide)
    · rintro (rfl | rfl) <;> exact absurd h (by decide)
    · rintro (rfl | rfl) <;> exact absurd h (by decide)
  rw [openFrom, if_neg hc.1, if_neg hc.2.1, if_neg hc.2.2]

theorem openFrom_inside_plain {c : Char} (hq : c ≠ '"') (hb : c ≠ '\\') (n : Nat)
    (text : List Char) : openFrom .inside n (c :: text) = openFrom .inside n text := by
  rw [openFrom, if_neg hq, if_neg hb]

/-- A structural character adds the token that it is. -/
theorem adds_structural {c : Char} {token : Token} (h : structural? c = some token) :
    Adds .outside c .outside [token] := by
  have hpassed {d : Char} (hd : d = ':' ∨ d = ',') : Adds .outside d .outside [] :=
    .nil fun n text => openFrom_outside_plain (.inr (.inr hd)) n text
  unfold structural? at h
  split at h <;> cases h
  case h_5 => exact (hpassed (.inl rfl)).cons trivial fun _ => rfl
  case h_6 => exact (hpassed (.inr rfl)).cons trivial fun _ => rfl
  -- A bracket is counted in the text and in the tokens.
  all_goals
    intro text tokens ht
    refine ⟨List.forall_mem_cons.mpr ⟨trivial, ht.1⟩, fun n => ?_⟩
    simp [openFrom, openTokens, Token.after, ht.2]

/-- What a character between tokens adds. -/
theorem adds_startToken {found : List Token} {c : Char} {next : Scanner}
    (h : startToken found c = some next) :
    ∃ added, next.found = added.reverse ++ found ∧ Adds .outside c next.mode.place added := by
  unfold startToken at h
  split_ifs at h with hs hq hb
  · cases h
    exact ⟨[], rfl, .nil (openFrom_outside_plain (.inl hs))⟩
  · cases h
    subst hq
    exact ⟨[], rfl, .nil fun _ _ => rfl⟩
  · cases h
    exact ⟨[], rfl, .nil (openFrom_outside_plain (.inr (.inl hb)))⟩
  · obtain ⟨token, ht, rfl⟩ := Option.map_eq_some_iff.mp h
    exact ⟨[token], rfl, adds_structural ht⟩

/-- What a character of a string adds: the string itself at its end. -/
theorem adds_readQuoted {found : List Token} {taken : List Char} {high : Option Nat} {c : Char}
    {next : Scanner} (h : readQuoted found taken high c = some next) :
    ∃ added, next.found = added.reverse ++ found ∧ Adds .inside c next.mode.place added := by
  unfold readQuoted at h
  split_ifs at h with hb hh hq hc
  · cases h
    subst hb
    exact ⟨[], rfl, .nil fun _ _ => rfl⟩
  · cases h
    subst hq
    have hn : Adds .inside '"' .outside [] := .nil fun _ _ => rfl
    exact ⟨[.string _], rfl, hn.cons trivial fun _ => rfl⟩
  · cases h
    exact ⟨[], rfl, .nil (openFrom_inside_plain hq hb)⟩

/-- Behind a backslash any character is passed over. -/
theorem adds_readEscaped {found : List Token} {taken : List Char} {high : Option Nat} {c : Char}
    {next : Scanner} (h : readEscaped found taken high c = some next) :
    next.found = found ∧ Adds .escaped c next.mode.place [] := by
  unfold readEscaped at h
  split_ifs at h with hu hh
  · cases h
    exact ⟨rfl, .nil fun _ _ => rfl⟩
  · obtain ⟨escaped, -, rfl⟩ := Option.map_eq_some_iff.mp h
    exact ⟨rfl, .nil fun _ _ => rfl⟩

theorem place_of_takeUnit {taken : List Char} {high : Option Nat} {unit : Nat} {mode : Mode}
    (h : takeUnit taken high unit = some mode) : mode.place = .inside := by
  unfold takeUnit at h
  split at h <;> split_ifs at h <;> cases h <;> rfl

/-- A digit of a code unit is passed over, and the string goes on behind it. -/
theorem adds_readCoded {found : List Token} {taken : List Char} {high : Option Nat}
    {left unit : Nat} {c : Char} {next : Scanner}
    (h : readCoded found taken high left unit c = some next) :
    next.found = found ∧ Adds .inside c next.mode.place [] := by
  obtain ⟨digit, hd, h⟩ := Option.bind_eq_some_iff.mp h
  have hp : ∀ n text, openFrom .inside n (c :: text) = openFrom .inside n text := by
    refine openFrom_inside_plain ?_ ?_
    · rintro rfl
      cases hd
    · rintro rfl
      cases hd
  split_ifs at h
  · obtain ⟨mode, hm, rfl⟩ := Option.map_eq_some_iff.mp h
    exact ⟨rfl, .nil (place_of_takeUnit hm ▸ hp)⟩
  · cases h
    exact ⟨rfl, .nil hp⟩

theorem nesting_of_bare? {text : List Char} {v : Value} (h : bare? text = some v) :
    v.nesting = 0 := by
  unfold bare? at h
  split_ifs at h
  · cases h; rfl
  · cases h; rfl
  · cases h; rfl
  · obtain ⟨n, -, hn⟩ := Option.bind_eq_some_iff.mp h
    split_ifs at hn
    obtain ⟨number, -, rfl⟩ := Option.map_eq_some_iff.mp hn
    rfl

/-- **What a character adds** when the scanner reads it. -/
theorem Scanner.adds_step {scanner next : Scanner} {c : Char} (h : scanner.step c = some next) :
    ∃ added, next.found = added.reverse ++ scanner.found ∧
      Adds scanner.mode.place c next.mode.place added := by
  obtain ⟨mode, found⟩ := scanner
  cases mode with
  | between => exact adds_startToken h
  | bare taken =>
    simp only [step] at h
    split_ifs at h with hb
    · cases h
      exact ⟨[], rfl, .nil (openFrom_outside_plain (.inr (.inl hb)))⟩
    · -- The scalar ends in front of the character.
      obtain ⟨v, hv, hs⟩ := Option.bind_eq_some_iff.mp h
      obtain ⟨added, hf, ha⟩ := adds_startToken hs
      refine ⟨.scalar v :: added, ?_, ha.cons (nesting_of_bare? hv) fun _ => rfl⟩
      rw [hf, List.reverse_cons, List.append_assoc, List.singleton_append]
  | quoted taken high => exact adds_readQuoted h
  | escaped taken high => exact ⟨[], adds_readEscaped h⟩
  | coded taken high left unit => exact ⟨[], adds_readCoded h⟩

/-- What is found in the rest of a text opens as many brackets as the rest of the text. -/
theorem Scanner.spells_foldlM {text : List Char} {scanner last : Scanner} {tokens : List Token}
    (h : text.foldlM step scanner = some last) (hl : last.finish? = some tokens) :
    ∃ found, tokens = scanner.found.reverse ++ found ∧
      Spells scanner.mode.place text found := by
  -- By induction on the text: what the first character adds stands in front of what the rest does.
  induction text generalizing scanner with
  | nil =>
    obtain rfl : scanner = last := Option.some.inj h
    obtain ⟨mode, found⟩ := scanner
    cases mode with
    | between =>
      cases hl
      exact ⟨[], (List.append_nil _).symm, nofun, fun _ => rfl⟩
    | bare taken =>
      obtain ⟨v, hv, rfl⟩ := Option.map_eq_some_iff.mp hl
      refine ⟨[.scalar v], List.reverse_cons, ?_, fun n => ?_⟩
      · exact List.forall_mem_singleton.mpr (nesting_of_bare? hv)
      · exact (openTokens_cons_of_after (fun _ => rfl) n []).symm
    | quoted => cases hl
    | escaped => cases hl
    | coded => cases hl
  | cons c rest ih =>
    rw [List.foldlM_cons] at h
    obtain ⟨next, hs, hr⟩ := Option.bind_eq_some_iff.mp h
    obtain ⟨added, hf, ha⟩ := adds_step hs
    obtain ⟨found, rfl, hfound⟩ := ih hr
    refine ⟨added ++ found, ?_, ha rest found hfound⟩
    rw [hf, List.reverse_append, List.reverse_reverse, List.append_assoc]

/-- **A text opens as many brackets at once as its tokens.** -/
theorem spells_of_tokens? {text : List Char} {tokens : List Token}
    (h : tokens? text = some tokens) : Spells .outside text tokens := by
  obtain ⟨last, hs, hl⟩ := Option.bind_eq_some_iff.mp h
  obtain ⟨found, rfl, hfound⟩ := Scanner.spells_foldlM hs hl
  exact hfound

/-! ### From tokens to values -/

/-- How many arrays and objects stand inside one another in what a frame holds so far. -/
def Frame.nesting : Frame → Nat
  | .array before => Value.nestingItems before
  | .object before _ => Value.nestingFields before

/-- The height of frames: how many arrays and objects stand inside one another in what they hold so
far, when each stands in the next. -/
def stackHeight : List Frame → Nat
  | [] => 0
  | frame :: outer => max (outer.length + 1 + frame.nesting) (stackHeight outer)

theorem length_le_stackHeight (frames : List Frame) : frames.length ≤ stackHeight frames := by
  cases frames with
  | nil => exact Nat.le_refl 0
  | cons frame outer =>
    rw [stackHeight, List.length_cons]
    omega

namespace Builder

/-- The arrays and objects that are open. -/
def frames : Builder → List Frame
  | value frames => frames
  | firstItem frames => .array [] :: frames
  | name before _ frames => .object before "" :: frames
  | colon before key frames => .object before key :: frames
  | complete _ frames => frames

/-- **The height of a builder**: how many arrays and objects stand inside one another in what is
read so far. -/
def height : Builder → Nat
  | complete v frames => max (frames.length + v.nesting) (stackHeight frames)
  | builder => stackHeight builder.frames

theorem length_frames_le_height (builder : Builder) : builder.frames.length ≤ builder.height := by
  have hl := length_le_stackHeight builder.frames
  cases builder with
  | complete v frames => exact Nat.le_trans hl (Nat.le_max_right _ _)
  | _ => exact hl

/-- In an object whose end may come instead of a name there is nothing yet. -/
def Starting : Builder → Prop
  | name before true _ => before = []
  | _ => True

/-- What one token does: it opens or closes a bracket or none, within the limit, and the height
grows to what is open. -/
structure Grows (builder : Builder) (token : Token) (next : Builder) : Prop where
  opened : next.frames.length = token.after builder.frames.length
  limit : next.frames.length ≤ max builder.frames.length nestingLimit
  height : next.height = max builder.height next.frames.length
  starting : next.Starting

/-- A token that opens nothing and leaves the height as it is. -/
theorem Grows.of_height_eq {builder next : Builder} {token : Token}
    (opened : next.frames.length = token.after builder.frames.length)
    (kept : next.frames.length ≤ builder.frames.length) (height : next.height = builder.height)
    (starting : next.Starting) : Grows builder token next where
  opened := opened
  limit := Nat.le_trans kept (Nat.le_max_left _ _)
  height := by
    rw [height, Nat.max_eq_left (Nat.le_trans kept builder.length_frames_le_height)]
  starting := starting

/-- A value without parts is complete at once. -/
theorem grows_complete {v : Value} (hv : v.nesting = 0) (stack : List Frame) {token : Token}
    (ha : ∀ n, token.after n = n) : Grows (.value stack) token (.complete v stack) := by
  refine .of_height_eq (ha _).symm (Nat.le_refl _) ?_ trivial
  have hl := length_le_stackHeight stack
  simp only [height, frames, hv]
  omega

/-- An array or object that is opened holds nothing yet. -/
theorem grows_begin {frame : Frame} (hf : frame.nesting = 0) {stack : List Frame}
    (hl : stack.length < nestingLimit) {token : Token} (ha : ∀ n, token.after n = n + 1)
    {next : Builder} (hn : next.frames = frame :: stack)
    (hh : next.height = stackHeight (frame :: stack)) (hs : next.Starting) :
    Grows (.value stack) token next where
  opened := by
    rw [hn, ha]
    rfl
  limit := by
    rw [hn, List.length_cons]
    omega
  height := by
    rw [hh, hn, stackHeight, hf, List.length_cons]
    exact Nat.max_comm _ _
  starting := hs

theorem grows_startValue {stack : List Frame} {token : Token} {next : Builder} (hf : token.Flat)
    (h : startValue stack token = some next) : Grows (.value stack) token next := by
  unfold startValue at h
  split at h
  case h_1 =>
    cases h
    exact grows_complete rfl stack fun _ => rfl
  case h_2 =>
    cases h
    exact grows_complete hf stack fun _ => rfl
  case h_3 =>
    split_ifs at h with hl
    cases h
    exact grows_begin rfl hl (fun _ => rfl) rfl rfl trivial
  case h_4 =>
    split_ifs at h with hl
    cases h
    exact grows_begin rfl hl (fun _ => rfl) rfl rfl rfl
  case h_5 => cases h

/-- Behind a complete value it is put into the frame around it, which stays open at a comma and is a
complete value itself at its end. -/
theorem grows_continueValue {v : Value} {stack : List Frame} {token : Token} {next : Builder}
    (h : continueValue v stack token = some next) : Grows (.complete v stack) token next := by
  unfold continueValue at h
  split at h
  case h_1 before outer =>
    cases h
    refine .of_height_eq rfl (Nat.le_refl _) ?_ trivial
    simp only [height, frames, stackHeight, Frame.nesting, Value.nestingItems, List.length_cons]
    omega
  case h_2 before outer =>
    cases h
    refine .of_height_eq rfl (Nat.le_succ _) ?_ trivial
    simp only [height, stackHeight, Frame.nesting, Value.nesting, Value.nestingItems_reverse,
      Value.nestingItems, List.length_cons]
    omega
  case h_3 before key outer =>
    cases h
    refine .of_height_eq rfl (Nat.le_refl _) ?_ trivial
    simp only [height, frames, stackHeight, Frame.nesting, Value.nestingFields, List.length_cons]
    omega
  case h_4 before key outer =>
    cases h
    refine .of_height_eq rfl (Nat.le_succ _) ?_ trivial
    simp only [height, stackHeight, Frame.nesting, Value.nesting, Value.nestingFields_reverse,
      Value.nestingFields, List.length_cons]
    omega
  case h_5 => cases h

/-- **What one token adds to the height.** -/
theorem grows_step {builder next : Builder} {token : Token} (hs : builder.Starting)
    (hf : token.Flat) (h : builder.step token = some next) : Grows builder token next := by
  unfold step at h
  split at h
  case h_1 stack => exact grows_startValue hf h
  case h_2 stack =>
    cases h
    exact .of_height_eq rfl (Nat.le_succ _) rfl trivial
  case h_3 stack _ =>
    -- The first item stands in the array as a later one does.
    have hg := grows_startValue hf h
    exact ⟨hg.opened, hg.limit, hg.height, hg.starting⟩
  case h_4 before first stack key =>
    cases h
    exact .of_height_eq rfl (Nat.le_refl _) rfl trivial
  case h_5 before stack =>
    cases h
    obtain rfl : before = [] := hs
    exact .of_height_eq rfl (Nat.le_succ _) rfl trivial
  case h_6 => cases h
  case h_7 before key stack =>
    cases h
    exact .of_height_eq rfl (Nat.le_refl _) rfl trivial
  case h_8 => cases h
  case h_9 v stack => exact grows_continueValue h

/-- **How the height grows over a run**, and that the limit is kept. -/
theorem height_foldlM {tokens : List Token} {builder last : Builder} (hs : builder.Starting)
    (hf : ∀ token ∈ tokens, token.Flat) (hl : builder.frames.length ≤ nestingLimit)
    (h : tokens.foldlM step builder = some last) :
    last.height = max builder.height (openTokens builder.frames.length tokens) ∧
      openTokens builder.frames.length tokens ≤ nestingLimit := by
  induction tokens generalizing builder with
  | nil =>
    obtain rfl : builder = last := Option.some.inj h
    exact ⟨(Nat.max_eq_left builder.length_frames_le_height).symm, hl⟩
  | cons token rest ih =>
    rw [List.foldlM_cons] at h
    obtain ⟨next, hstep, hrest⟩ := Option.bind_eq_some_iff.mp h
    obtain ⟨hflat, hf⟩ := List.forall_mem_cons.mp hf
    have hg := grows_step hs hflat hstep
    -- What is open behind the token is met again as the start of the rest.
    obtain ⟨hheight, hlimit⟩ := ih hg.starting hf (by have := hg.limit; omega) hrest
    have hopen := le_openTokens next.frames.length rest
    have hframes := builder.length_frames_le_height
    have hh := hg.height
    rw [openTokens, ← hg.opened]
    omega

end Builder

/-- **An accepted text opens as many brackets at once** as arrays and objects stand inside one
another in its value, and no more than the limit. -/
theorem openAtOnce_of_read? {text : String} {v : Value} (h : read? text = some v) :
    openAtOnce text = v.nesting ∧ openAtOnce text ≤ nestingLimit := by
  obtain ⟨tokens, ht, hv⟩ := Option.bind_eq_some_iff.mp h
  obtain ⟨last, hb, hl⟩ := Option.bind_eq_some_iff.mp hv
  obtain ⟨hflat, hopen⟩ := spells_of_tokens? ht
  have hs : (Builder.value []).Starting := trivial
  obtain ⟨hheight, hlimit⟩ := Builder.height_foldlM hs hflat (Nat.zero_le _) hb
  obtain rfl : last = .complete v [] := by
    unfold Builder.finish? at hl
    split at hl <;> cases hl
    rfl
  rw [openAtOnce, hopen]
  exact ⟨by simpa [Builder.height, Builder.frames, stackHeight] using hheight.symm, hlimit⟩

end Json

end Reshape
