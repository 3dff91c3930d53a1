import SqlBuilder.Proofs.StoredNames

/-!
# The constraint that forbids nulls

The words that forbid nulls are found in the definition of a column wherever they stand behind a blank, also in quotes
and parentheses, and only there. In a definition in which the constraint is found wherever it stands, and nowhere else,
leaving out what is found leaves a definition without the constraint. Where the constraint stands if the words are
found, and only then, adding them if they are not found leaves a definition with it. Nothing else changes.

* `Item.ForbidsNull`: an item has the constraint, outside of quotes and parentheses.
* `Item.Relaxed`: an item without the constraint in some of its places.
* `Item.PlainNulls`, `Item.FindsNull`: the constraint is found where it stands; the words are found somewhere.
* `Item.KeepsPlace`: where what is left of an item stands when a part of it has been read.
* `Item.relaxed_withoutNotNull`, `Item.forbidsNull_withoutNotNull`: an item without the words.
* `Item.forbidsNull_withNotNull`: an item with the words.
* `Item.Declares.column?_withoutNotNull`, `Item.Declares.column?_withNotNull`: its name is the same.
-/

namespace SqlBuilder

open Definition (Spot)

/-! ## The words -/

namespace Text

/-- A scan goes on behind a token. -/
theorem scanFrom_eq {κ : Type} (read : List Char → Option (κ × Nat)) (skip : Nat) (cs : List Char) :
    scanFrom read skip cs = scan read (cs.drop skip) := by
  induction cs generalizing skip with
  | nil => cases skip <;> rfl
  | cons c cs ih =>
    cases skip with
    | zero => rfl
    | succ skip => exact ih skip

theorem scan_cons_none {κ : Type} {read : List Char → Option (κ × Nat)} {c : Char} {cs : List Char}
    (h : read (c :: cs) = none) : scan read (c :: cs) = .plain c :: scan read cs := by
  rw [scan, scanFrom, h]
  rfl

theorem scan_append_some {κ : Type} {read : List Char → Option (κ × Nat)} {k : κ} {token rest : List Char}
    (filled : token ≠ []) (h : read (token ++ rest) = some (k, token.length)) :
    scan read (token ++ rest) = .token k :: scan read rest := by
  cases token with
  | nil => exact absurd rfl filled
  | cons c token =>
    rw [List.cons_append] at h ⊢
    rw [scan, scanFrom, h]
    simp only [List.length_cons, Nat.add_sub_cancel, scanFrom_eq, List.drop_left]

theorem IsLetterForm.word {c : Char} (h : IsLetterForm c) : isWord c = true := by
  have letters : ∀ n ∈ List.range' 65 26 ++ (List.range' 97 26 ++ [304, 305, 383, 8490]),
      isWord (Char.ofNat n) = true := by decide +kernel
  rw [← Char.ofNat_toNat c]
  refine letters _ ?_
  simp only [List.mem_append, List.mem_range'_1, List.mem_cons, List.not_mem_nil, or_false]
  unfold IsLetterForm at h
  omega

/-- No blank is a part of a word. -/
theorem isWord_of_isBlank {c : Char} (h : isBlank c = true) : isWord c = false := by
  have blanks : ∀ n ∈ List.range' 9 5 ++ (List.range' 28 5 ++ (List.range' 0x2000 11 ++
      [0x85, 0xA0, 0x1680, 0x2028, 0x2029, 0x202F, 0x205F, 0x3000])), isWord (Char.ofNat n) = false := by decide +kernel
  rw [← Char.ofNat_toNat c]
  refine blanks _ ?_
  simp only [isBlank, Bool.or_eq_true, Bool.and_eq_true, decide_eq_true_eq, beq_iff_eq] at h
  simp only [List.mem_append, List.mem_range'_1, List.mem_cons, List.not_mem_nil, or_false]
  omega

end Text

namespace Phrase

/-- A word ends before a blank. -/
theorem endsWord_of_follows {cs : List Char} (h : Item.Follows cs) : endsWord cs = true := by
  cases cs with
  | nil => rfl
  | cons c cs => simp [endsWord, Text.isWord_of_isBlank (h c rfl)]

theorem dropWord?_eq_some {word cs rest : List Char} (plain : IsPlainWord word) (h : dropWord? word cs = some rest) :
    ∃ letters, cs = letters ++ rest ∧ ∀ c ∈ letters, Text.IsLetterForm c := by
  induction word generalizing cs with
  | nil =>
    obtain rfl := Option.some.inj h
    exact ⟨[], rfl, nofun⟩
  | cons w word ih =>
    obtain ⟨letter, plain⟩ := List.forall_mem_cons.mp plain
    cases cs with
    | nil => cases h
    | cons c cs =>
      rw [dropWord?] at h
      split at h
      next same =>
        obtain ⟨letters, rfl, forms⟩ := ih plain h
        exact ⟨c :: letters, rfl, List.forall_mem_cons.mpr ⟨Text.isLetterForm_of_sameLetter letter same, forms⟩⟩
      · cases h

theorem dropBlanks?_cons {c : Char} {cs : List Char} :
    dropBlanks? (c :: cs) = if Text.isBlank c then some (cs.dropWhile Text.isBlank) else none :=
  rfl

theorem dropBlanks?_eq_some {cs rest : List Char} (h : dropBlanks? cs = some rest) :
    ∃ c blanks, cs = c :: (blanks ++ rest) ∧ Text.isBlank c = true ∧ (∀ d ∈ blanks, Text.isBlank d = true) := by
  cases cs with
  | nil => cases h
  | cons c cs =>
    rw [dropBlanks?_cons] at h
    split at h
    next blank =>
      obtain rfl := Option.some.inj h
      exact ⟨c, cs.takeWhile Text.isBlank, by rw [List.takeWhile_append_dropWhile], blank,
        fun d hd => List.mem_takeWhile_imp hd⟩
    · cases h

theorem drop?_pair {first second : String} {cs rest : List Char} : drop? [first, second] cs = some rest ↔
    ∃ cs₁ cs₂, dropWord? first.toList cs = some cs₁ ∧ dropBlanks? cs₁ = some cs₂ ∧
      dropWord? second.toList cs₂ = some rest ∧ endsWord rest = true := by
  have whole : drop? [first, second] cs = (dropWord? first.toList cs).bind fun cs₁ =>
      (dropBlanks? cs₁).bind fun cs₂ => (dropWord? second.toList cs₂).filter endsWord := rfl
  simp only [whole, Option.bind_eq_some_iff, Option.filter_eq_some_iff]
  constructor
  · rintro ⟨cs₁, found, cs₂, blanks, ends⟩
    exact ⟨cs₁, cs₂, found, blanks, ends⟩
  · rintro ⟨cs₁, cs₂, found, blanks, ends⟩
    exact ⟨cs₁, found, cs₂, blanks, ends⟩

end Phrase

namespace Item

/-- The text behind the words that forbid nulls, if a text begins with these and a blank before them. -/
def forbidding? (cs : List Char) : Option (List Char) :=
  (Phrase.dropBlanks? cs).bind (Phrase.drop? ["not", "null"])

theorem plain_not : Phrase.IsPlainWord "not".toList := by
  decide

theorem plain_null : Phrase.IsPlainWord "null".toList := by
  decide

/-- The words consist of blanks and letters, a blank stands before them, and no word goes on behind them. -/
theorem forbidding?_eq_some {cs rest : List Char} (h : forbidding? cs = some rest) :
    (∃ words, cs = words ++ rest ∧ words ≠ [] ∧ ∀ c ∈ words, Text.isBlank c = true ∨ Text.IsLetterForm c) ∧
      Follows cs ∧ Phrase.endsWord rest = true := by
  obtain ⟨cs₀, blanks, words⟩ := Option.bind_eq_some_iff.mp h
  obtain ⟨cs₁, cs₂, first, between, second, ends⟩ := Phrase.drop?_pair.mp words
  obtain ⟨c, before, rfl, blank, allBlank⟩ := Phrase.dropBlanks?_eq_some blanks
  obtain ⟨not_, rfl, letters⟩ := Phrase.dropWord?_eq_some plain_not first
  obtain ⟨d, middle, rfl, blank', allBlank'⟩ := Phrase.dropBlanks?_eq_some between
  obtain ⟨null, rfl, letters'⟩ := Phrase.dropWord?_eq_some plain_null second
  refine ⟨⟨c :: (before ++ (not_ ++ d :: (middle ++ null))), by simp, by simp, ?_⟩, ?_, ends⟩
  · simp only [List.forall_mem_cons, List.forall_mem_append]
    exact ⟨.inl blank, fun c hc => .inl (allBlank c hc), fun c hc => .inr (letters c hc), .inl blank',
      fun c hc => .inl (allBlank' c hc), fun c hc => .inr (letters' c hc)⟩
  · rintro _ ⟨⟩
    exact blank

/-! ## Leaving the words out -/

theorem notNull?_eq (cs : List Char) :
    notNull? cs = (forbidding? cs).map fun rest => ((), cs.length - rest.length) := by
  unfold notNull? forbidding?
  cases (Phrase.dropBlanks? cs).bind (Phrase.drop? ["not", "null"]) <;> rfl

/-- The words are a token of the scan. -/
theorem scan_of_forbidding {cs rest : List Char} (h : forbidding? cs = some rest) :
    Text.scan notNull? cs = .token () :: Text.scan notNull? rest := by
  obtain ⟨⟨words, rfl, filled, -⟩, -⟩ := forbidding?_eq_some h
  refine Text.scan_append_some filled ?_
  rw [notNull?_eq, h]
  simp

theorem scan_cons {c : Char} {cs : List Char} (h : forbidding? (c :: cs) = none) :
    Text.scan notNull? (c :: cs) = .plain c :: Text.scan notNull? cs := by
  refine Text.scan_cons_none ?_
  rw [notNull?_eq, h]
  rfl

/-- Where the words stand, they are left out. -/
theorem withoutNotNull_of_forbidding {cs rest : List Char} (h : forbidding? cs = some rest) :
    withoutNotNull cs = withoutNotNull rest := by
  rw [withoutNotNull, scan_of_forbidding h]
  rfl

/-- Where they do not stand, a character is kept. -/
theorem withoutNotNull_cons {c : Char} {cs : List Char} (h : forbidding? (c :: cs) = none) :
    withoutNotNull (c :: cs) = c :: withoutNotNull cs := by
  rw [withoutNotNull, scan_cons h]
  rfl

/-- Induction along the places where the words are left out. -/
theorem reading_induction {motive : List Char → Prop} (nil : motive [])
    (drop : ∀ cs rest, forbidding? cs = some rest → motive rest → motive cs)
    (keep : ∀ c cs, forbidding? (c :: cs) = none → motive cs → motive (c :: cs)) (cs : List Char) : motive cs := by
  induction size : cs.length using Nat.strong_induction_on generalizing cs with
  | _ n ih =>
    cases words : forbidding? cs with
    | some rest =>
      obtain ⟨⟨token, rfl, filled, -⟩, -⟩ := forbidding?_eq_some words
      refine drop _ _ words (ih _ ?_ rest rfl)
      have longer := List.length_pos_of_ne_nil filled
      rw [← size, List.length_append]
      omega
    | none =>
      cases cs with
      | nil => exact nil
      | cons c cs => exact keep c cs words (ih _ (by rw [← size, List.length_cons]; omega) cs rfl)

/-! ## What is left -/

/-- What is left begins as the text did, if no words that are left out stand there. -/
theorem head?_withoutNotNull (cs : List Char) :
    (withoutNotNull cs).head? = cs.head? ∨ ∃ rest, forbidding? cs = some rest := by
  cases words : forbidding? cs with
  | some rest => exact .inr ⟨rest, rfl⟩
  | none =>
    cases cs with
    | nil => exact .inl rfl
    | cons c cs => exact .inl (by rw [withoutNotNull_cons words]; rfl)

/-- A word that ends before a text ends before what is left of it. -/
theorem endsWord_withoutNotNull {cs : List Char} (h : Phrase.endsWord cs = true) :
    Phrase.endsWord (withoutNotNull cs) = true := by
  induction cs using reading_induction with
  | nil => rfl
  | drop cs rest words ih =>
    rw [withoutNotNull_of_forbidding words]
    exact ih (forbidding?_eq_some words).2.2
  | keep c cs words _ =>
    rw [withoutNotNull_cons words]
    exact h

/-- A text with a letter at its start begins with a word. -/
theorem endsWord_of_letter {c : Char} (letter : Text.IsLetterForm c) (cs : List Char) :
    Phrase.endsWord (c :: cs) = false := by
  simp [Phrase.endsWord, letter.word]

theorem letter_of_not {c : Char} {cs rest : List Char} (h : Phrase.dropWord? "not".toList (c :: cs) = some rest) :
    Text.IsLetterForm c := by
  have first : Text.sameLetter 'n' c = true := by
    by_contra other
    have none_ : Phrase.dropWord? "not".toList (c :: cs) = none := if_neg other
    cases h.symm.trans none_
  exact Text.isLetterForm_of_sameLetter (by decide) first

theorem letter_of_words {c : Char} {cs rest : List Char} (h : Phrase.drop? ["not", "null"] (c :: cs) = some rest) :
    Text.IsLetterForm c := by
  obtain ⟨_, _, first, -⟩ := Phrase.drop?_pair.mp h
  exact letter_of_not first

/-- A word with which what is left begins stands at the start of the text. -/
theorem dropWord?_withoutNotNull {word : List Char} (plain : Phrase.IsPlainWord word) {cs rest : List Char}
    (h : Phrase.dropWord? word (withoutNotNull cs) = some rest) :
    ∃ rest', Phrase.dropWord? word cs = some rest' ∧ rest = withoutNotNull rest' := by
  induction word generalizing cs with
  | nil =>
    obtain rfl := Option.some.inj h
    exact ⟨cs, rfl, rfl⟩
  | cons w word ih =>
    obtain ⟨letter, plain⟩ := List.forall_mem_cons.mp plain
    cases words : forbidding? cs with
    | some after =>
      -- behind the words no letter follows
      have ends := endsWord_withoutNotNull (forbidding?_eq_some words).2.2
      rw [withoutNotNull_of_forbidding words] at h
      cases left : withoutNotNull after with
      | nil =>
        rw [left] at h
        cases h
      | cons d ds =>
        rw [left] at h ends
        rw [Phrase.dropWord?] at h
        split at h
        next same =>
          rw [endsWord_of_letter (Text.isLetterForm_of_sameLetter letter same)] at ends
          cases ends
        · cases h
    | none =>
      cases cs with
      | nil => cases h
      | cons c cs =>
        rw [withoutNotNull_cons words, Phrase.dropWord?] at h
        split at h
        next same =>
          obtain ⟨rest', found, rfl⟩ := ih plain h
          exact ⟨rest', by rw [Phrase.dropWord?, if_pos same, found], rfl⟩
        · cases h

/-- The words stand behind blanks where they stand behind the last of them. -/
theorem forbidding?_blank {c : Char} (blank : Text.isBlank c = true) (cs : List Char) :
    forbidding? (c :: cs) = Phrase.drop? ["not", "null"] (cs.dropWhile Text.isBlank) := by
  rw [forbidding?, Phrase.dropBlanks?_cons, if_pos blank, Option.bind_some]

theorem forbidding?_solid {c : Char} (solid : Text.isBlank c = false) (cs : List Char) :
    forbidding? (c :: cs) = none := by
  rw [forbidding?, Phrase.dropBlanks?_cons, solid]
  rfl

/-- Blanks are kept if the words do not stand behind them. -/
theorem dropWhile_withoutNotNull {cs : List Char}
    (h : Phrase.drop? ["not", "null"] (cs.dropWhile Text.isBlank) = none) :
    (withoutNotNull cs).dropWhile Text.isBlank = withoutNotNull (cs.dropWhile Text.isBlank) := by
  induction cs with
  | nil => rfl
  | cons c cs ih =>
    cases blank : Text.isBlank c with
    | true =>
      rw [List.dropWhile_cons_of_pos blank] at h ⊢
      rw [withoutNotNull_cons ((forbidding?_blank blank cs).trans h), List.dropWhile_cons_of_pos blank, ih h]
    | false =>
      have kept := withoutNotNull_cons (forbidding?_solid blank cs)
      rw [List.dropWhile_cons_of_neg (by simp [blank]), kept, List.dropWhile_cons_of_neg (by simp [blank])]

/-- The words with which what is left begins stand at the start of the text, if no other ones stand within them. -/
theorem drop?_withoutNotNull {cs rest : List Char}
    (h : Phrase.drop? ["not", "null"] (withoutNotNull cs) = some rest)
    (single : ∀ after ∈ Phrase.dropWord? "not".toList cs, forbidding? after = none) :
    ∃ rest', Phrase.drop? ["not", "null"] cs = some rest' ∧ rest = withoutNotNull rest' := by
  obtain ⟨_, _, first, between, second, ends⟩ := Phrase.drop?_pair.mp h
  obtain ⟨cs₁, first', rfl⟩ := dropWord?_withoutNotNull plain_not first
  have plainly := single cs₁ first'
  cases cs₁ with
  | nil => cases between
  | cons c cs₁ =>
    rw [withoutNotNull_cons plainly, Phrase.dropBlanks?_cons] at between
    split at between
    next blank =>
      obtain rfl := Option.some.inj between
      rw [forbidding?_blank blank] at plainly
      rw [dropWhile_withoutNotNull plainly] at second
      obtain ⟨cs₃, second', rfl⟩ := dropWord?_withoutNotNull plain_null second
      refine ⟨cs₃, Phrase.drop?_pair.mpr ⟨_, _, first', by rw [Phrase.dropBlanks?_cons, if_pos blank], second', ?_⟩, rfl⟩
      rcases head?_withoutNotNull cs₃ with same | ⟨after, words⟩
      · cases cs₃ with
        | nil => rfl
        | cons d cs₃ =>
          obtain ⟨ds, left⟩ := List.head?_eq_some_iff.mp same
          rw [left] at ends
          exact ends
      · exact Phrase.endsWord_of_follows (forbidding?_eq_some words).2.1
    · cases between

/-! ## The constraint -/

/-- A place behind a text is outside of quotes and parentheses. -/
def Outside (before : List Char) : Prop :=
  Spot.outside.after? true before = some .outside

instance (before : List Char) : Decidable (Outside before) :=
  inferInstanceAs (Decidable (_ = _))

/-- The constraint that forbids nulls stands between two texts: its words do, outside of quotes and parentheses, and
they are no parts of longer names. -/
structure ForbidsAt (before after : List Char) : Prop where
  outside : Outside before
  start : ∀ c ∈ before.getLast?, isNameChar c = false
  words : ∃ rest ∈ Phrase.drop? ["not", "null"] after, ∀ c ∈ rest.head?, isNameChar c = false

/-- An item has the constraint that forbids nulls. -/
def ForbidsNull (item : Item) : Prop :=
  ∃ before after, item = before ++ after ∧ ForbidsAt before after

/-- An item without the constraint that forbids nulls in some of its places; all else is the same. -/
inductive Relaxed : Spot → List Char → List Char → Prop
  | nil {p : Spot} : Relaxed p [] []
  | keep {p p' : Spot} {c : Char} {cs ds : List Char} (moved : p.step true c = some p') (rest : Relaxed p' cs ds) :
      Relaxed p (c :: cs) (c :: ds)
  | drop {cs after ds : List Char} (words : forbidding? cs = some after) (ends : Follows after)
      (rest : Relaxed .outside after ds) : Relaxed .outside cs ds

/-- What is found between two texts is what stands there: the words that forbid nulls with a blank before them are
the constraint, and they follow no other word of theirs; the constraint has a blank before it. -/
structure PlainNullsAt (before after : List Char) : Prop where
  constraint : ∀ rest ∈ forbidding? after, Outside before ∧ Follows rest
  single : ∀ rest ∈ Phrase.dropWord? "not".toList after,
    forbidding? rest = none ∨ ∃ c ∈ before.getLast?, isNameChar c = true
  apart : ForbidsAt before after → ∃ c ∈ before.getLast?, Text.isBlank c = true

/-- The constraint that forbids nulls is found in an item wherever it stands, and nowhere else. -/
def PlainNulls (item : Item) : Prop :=
  ∀ before after, item = before ++ after → PlainNullsAt before after

/-- The words that forbid nulls are found in an item. -/
def FindsNull (item : Item) : Prop :=
  ∃ before after rest, item = before ++ after ∧ forbidding? after = some rest

instance (before after : List Char) : Decidable (ForbidsAt before after) :=
  decidable_of_iff (Outside before ∧ (∀ c ∈ before.getLast?, isNameChar c = false) ∧
      ∃ rest ∈ Phrase.drop? ["not", "null"] after, ∀ c ∈ rest.head?, isNameChar c = false)
    ⟨fun ⟨a, b, c⟩ => ⟨a, b, c⟩, fun ⟨a, b, c⟩ => ⟨a, b, c⟩⟩

instance (before after : List Char) : Decidable (PlainNullsAt before after) :=
  decidable_of_iff ((∀ rest ∈ forbidding? after, Outside before ∧ Follows rest) ∧
      (∀ rest ∈ Phrase.dropWord? "not".toList after,
        forbidding? rest = none ∨ ∃ c ∈ before.getLast?, isNameChar c = true) ∧
      (ForbidsAt before after → ∃ c ∈ before.getLast?, Text.isBlank c = true))
    ⟨fun ⟨a, b, c⟩ => ⟨a, b, c⟩, fun ⟨a, b, c⟩ => ⟨a, b, c⟩⟩

/-- The places of an item are as many as its characters, and one more. -/
theorem plainNulls_iff {item : Item} :
    item.PlainNulls ↔ ∀ n < item.length + 1, PlainNullsAt (item.take n) (item.drop n) := by
  refine ⟨fun h n _ => h _ _ (List.take_append_drop n item).symm, ?_⟩
  rintro h before after rfl
  have place := h before.length (by rw [List.length_append]; omega)
  rwa [List.take_left, List.drop_left] at place

instance (item : Item) : Decidable item.PlainNulls :=
  decidable_of_iff' _ plainNulls_iff

theorem forbidsNull_iff {item : Item} :
    item.ForbidsNull ↔ ∃ n < item.length + 1, ForbidsAt (item.take n) (item.drop n) := by
  refine ⟨?_, fun ⟨n, _, stands⟩ => ⟨_, _, (List.take_append_drop n item).symm, stands⟩⟩
  rintro ⟨before, after, rfl, stands⟩
  refine ⟨before.length, by rw [List.length_append]; omega, ?_⟩
  rwa [List.take_left, List.drop_left]

instance (item : Item) : Decidable item.ForbidsNull :=
  decidable_of_iff' _ forbidsNull_iff

/-! ### Places -/

theorem noName_of_follows {cs : List Char} (h : Follows cs) : ∀ c ∈ cs.head?, isNameChar c = false := by
  intro c hc
  simp [isNameChar, h c hc]

theorem noName_of_withoutNotNull {cs : List Char} (h : ∀ c ∈ (withoutNotNull cs).head?, isNameChar c = false) :
    ∀ c ∈ cs.head?, isNameChar c = false := by
  rcases head?_withoutNotNull cs with same | ⟨rest, words⟩
  · rwa [same] at h
  · exact noName_of_follows (forbidding?_eq_some words).2.1

/-- Letters do not move a scan that is outside of quotes and parentheses. -/
theorem step_letter {c : Char} (h : Text.IsLetterForm c) : Spot.outside.step true c = some .outside := by
  have other {d : Char} (code : ¬ Text.IsLetterForm d) : c ≠ d := by
    rintro rfl
    exact code h
  have opens : Definition.closing? c = none := by
    simp [Definition.closing?, @other '[' (by decide), @other '\'' (by decide), @other '"' (by decide),
      @other '\x60' (by decide)]
  simp [Spot.step, Spot.outside, opens, @other '(' (by decide), @other ')' (by decide)]

/-- Neither do blanks. -/
theorem outside_append {before words : List Char} (h : Outside before)
    (plain : ∀ c ∈ words, Text.isBlank c = true ∨ Text.IsLetterForm c) : Outside (before ++ words) := by
  have still : Spot.outside.after? true words = some .outside := by
    induction words with
    | nil => rfl
    | cons c words ih =>
      obtain ⟨first, others⟩ := List.forall_mem_cons.mp plain
      have step : Spot.outside.step true c = some .outside :=
        first.elim (Definition.step_blank Definition.outside_isSolid) step_letter
      rw [Spot.after?_cons, step, Option.bind_some, ih others]
  rw [Outside, Spot.after?_append, h, Option.bind_some, still]

/-- Only the constraint is left out. -/
theorem relaxed_withoutNotNull {item : Item} (plain : item.PlainNulls) (scanned : Outside item) :
    Relaxed .outside item item.withoutNotNull := by
  suffices ∀ cs before p, item = before ++ cs → Spot.outside.after? true before = some p →
      Relaxed p cs (withoutNotNull cs) from this item [] _ rfl rfl
  intro cs
  induction cs using reading_induction with
  | nil => exact fun _ _ _ _ => .nil
  | drop cs rest words ih =>
    intro before p whole place
    obtain ⟨outside, ends⟩ := (plain before cs whole).constraint rest words
    obtain rfl := Option.some.inj (place.symm.trans outside)
    obtain ⟨⟨token, rfl, -, letters⟩, -⟩ := forbidding?_eq_some words
    rw [withoutNotNull_of_forbidding words]
    exact .drop words ends (ih (before ++ token) _ (by rw [whole, List.append_assoc]) (outside_append outside letters))
  | keep c cs words ih =>
    intro before p whole place
    rw [Outside, whole, Spot.after?_append, place, Option.bind_some, Spot.after?_cons] at scanned
    obtain ⟨p', moved, -⟩ := Option.bind_eq_some_iff.mp scanned
    rw [withoutNotNull_cons words]
    refine .keep moved (ih (before ++ [c]) p' (by rw [whole, List.append_assoc]; rfl) ?_)
    rw [Spot.after?_append, place, Option.bind_some, Spot.after?_cons, moved]
    rfl

/-- Behind what is left of a text, a scan stands where it stands behind the text. The last characters are the same, but
right behind words that are left out, where no other word goes on. -/
structure KeepsPlace (before left after : List Char) : Prop where
  place : Spot.outside.after? true left = Spot.outside.after? true before
  last : (left.getLast? = before.getLast? ∧ ∀ c ∈ before.getLast?, forbidding? (c :: after) = none) ∨
    Phrase.endsWord after = true

namespace KeepsPlace

variable {c : Char} {cs rest before left : List Char}

theorem start (cs : List Char) : KeepsPlace [] [] cs :=
  ⟨rfl, .inl ⟨rfl, nofun⟩⟩

/-- Behind words that are left out. -/
theorem drop (h : KeepsPlace before left cs) (words : forbidding? cs = some rest) (outside : Outside before) :
    ∃ token, cs = token ++ rest ∧ KeepsPlace (before ++ token) left rest := by
  obtain ⟨⟨token, rfl, -, letters⟩, -, ends⟩ := forbidding?_eq_some words
  refine ⟨token, rfl, ?_, .inr ends⟩
  rw [h.place, outside, outside_append outside letters]

/-- Behind a character that is kept. -/
theorem keep (h : KeepsPlace before left (c :: cs)) (unread : forbidding? (c :: cs) = none) :
    KeepsPlace (before ++ [c]) (left ++ [c]) cs where
  place := by rw [Spot.after?_append, Spot.after?_append, h.place]
  last := .inl ⟨by simp, by simpa using unread⟩

/-- The constraint does not stand where a character is kept: it would stand there in the item, and the blank before it
would have been left out with it. -/
theorem not_forbidsAt (h : KeepsPlace before left (c :: cs)) (plain : PlainNullsAt before (c :: cs)) :
    ¬ ForbidsAt left (withoutNotNull (c :: cs)) := by
  intro stands
  obtain ⟨after, found, ends⟩ := stands.words
  rcases h.last with ⟨sameLast, unread⟩ | ends
  · have single : ∀ rest ∈ Phrase.dropWord? "not".toList (c :: cs), forbidding? rest = none := by
      intro rest begins
      rcases plain.single rest begins with unread | ⟨d, hd, name⟩
      · exact unread
      · cases name.symm.trans (stands.start d (sameLast ▸ hd))
    obtain ⟨rest, found', rfl⟩ := drop?_withoutNotNull found single
    have stood : ForbidsAt before (c :: cs) := {
      outside := h.place.symm.trans stands.outside
      start := sameLast ▸ stands.start
      words := ⟨rest, found', noName_of_withoutNotNull ends⟩ }
    obtain ⟨d, hd, blank⟩ := plain.apart stood
    have solid : Text.isBlank c = false := (letter_of_words found').solid
    have words := unread d hd
    rw [forbidding?_blank blank, List.dropWhile_cons_of_neg (by simp [solid]), found'] at words
    cases words
  · obtain ⟨_, _, first, -⟩ := Phrase.drop?_pair.mp found
    obtain ⟨_, first', -⟩ := dropWord?_withoutNotNull plain_not first
    rw [endsWord_of_letter (letter_of_not first')] at ends
    cases ends

end KeepsPlace

/-- The constraint is left out everywhere. -/
theorem forbidsNull_withoutNotNull {item : Item} (plain : item.PlainNulls) : ¬ item.withoutNotNull.ForbidsNull := by
  suffices ∀ cs before left, item = before ++ cs → KeepsPlace before left cs →
      ∀ a b, withoutNotNull cs = a ++ b → ¬ ForbidsAt (left ++ a) b by
    rintro ⟨a, b, whole, stands⟩
    exact this item [] [] rfl (.start item) a b whole stands
  intro cs
  induction cs using reading_induction with
  | nil =>
    intro before left _ _ a b split stands
    obtain ⟨rfl, rfl⟩ := List.append_eq_nil_iff.mp split.symm
    obtain ⟨rest, words, -⟩ := stands.words
    cases words
  | drop cs rest words ih =>
    intro before left whole keeps a b split
    obtain ⟨token, rfl, behind⟩ := keeps.drop words ((plain before cs whole).constraint rest words).1
    rw [withoutNotNull_of_forbidding words] at split
    exact ih (before ++ token) left (by rw [whole, List.append_assoc]) behind a b split
  | keep c cs unread ih =>
    intro before left whole keeps a b split
    cases a with
    | nil =>
      rw [List.append_nil, ← List.nil_append b, ← split]
      exact keeps.not_forbidsAt (plain before (c :: cs) whole)
    | cons d a =>
      rw [withoutNotNull_cons unread, List.cons_append] at split
      obtain ⟨rfl, others⟩ := List.cons.inj split
      have more := ih (before ++ [c]) (left ++ [c]) (by rw [whole, List.append_assoc]; rfl) (keeps.keep unread) a b others
      rwa [List.append_assoc] at more

/-! ### Adding the constraint -/

/-- The words are found in an item where a scan meets them. -/
theorem findsNull_iff {item : Item} : item.FindsNull ↔ (Text.tokens notNull? item).isEmpty = false := by
  induction item using reading_induction with
  | nil =>
    refine iff_of_false ?_ (by decide)
    rintro ⟨before, after, rest, whole, words⟩
    obtain ⟨rfl, rfl⟩ := List.append_eq_nil_iff.mp whole.symm
    cases words
  | drop cs rest words _ =>
    rw [Text.tokens, scan_of_forbidding words]
    exact iff_of_true ⟨[], cs, rest, rfl, words⟩ rfl
  | keep c cs unread ih =>
    rw [Text.tokens, scan_cons unread]
    refine Iff.trans ⟨?_, fun ⟨before, after, rest, whole, words⟩ => ?_⟩ ih
    · rintro ⟨before, after, rest, whole, words⟩
      cases before with
      | nil =>
        obtain rfl : c :: cs = after := whole
        cases unread.symm.trans words
      | cons d before => exact ⟨before, after, rest, (List.cons.inj whole).2, words⟩
    · exact ⟨c :: before, after, rest, by rw [whole]; rfl, words⟩

instance (item : Item) : Decidable item.FindsNull :=
  decidable_of_iff' _ findsNull_iff

/-- The constraint is added to an item if it does not have it. -/
theorem forbidsNull_withNotNull {item : Item} (found : item.FindsNull ↔ item.ForbidsNull) (scanned : Outside item) :
    item.withNotNull.ForbidsNull ∧
      (item.withNotNull = item ∨ ¬ item.ForbidsNull ∧ item.withNotNull = item ++ " not null".toList) := by
  rw [findsNull_iff] at found
  unfold withNotNull
  split
  next missing =>
    have without : ¬ item.ForbidsNull := by
      rw [← found, missing]
      decide
    refine ⟨⟨item ++ [' '], "not null".toList, by rw [List.append_assoc]; rfl, ?_, ?_, [], rfl, nofun⟩,
      .inr ⟨without, rfl⟩⟩
    · exact outside_append scanned (by simp; left; rfl)
    · intro c hc
      obtain rfl : ' ' = c := by simpa using hc
      rfl
  next words => exact ⟨found.mp (by simpa using words), .inl rfl⟩

/-! ### The name -/

/-- The start of a text is kept if no words are found in it. -/
theorem withoutNotNull_append {front rest : List Char}
    (h : ∀ a b, front = a ++ b → b ≠ [] → forbidding? (b ++ rest) = none) :
    withoutNotNull (front ++ rest) = front ++ withoutNotNull rest := by
  induction front with
  | nil => rfl
  | cons c front ih =>
    have first := h [] (c :: front) rfl (List.cons_ne_nil c front)
    rw [List.cons_append] at first ⊢
    rw [withoutNotNull_cons first, ih fun a b whole => h (c :: a) b (by rw [whole]; rfl)]
    rfl

/-- What is left behind a name is still apart from it. -/
theorem PlainNulls.follows {item : Item} (plain : item.PlainNulls) {before after : List Char}
    (whole : item = before ++ after) (h : Follows after) : Follows (withoutNotNull after) := by
  induction after using reading_induction generalizing before with
  | nil => exact h
  | drop after rest words ih =>
    obtain ⟨⟨token, rfl, -⟩, -⟩ := forbidding?_eq_some words
    rw [withoutNotNull_of_forbidding words]
    exact ih (by rw [whole, List.append_assoc]) ((plain _ _ whole).constraint rest words).2
  | keep c after words _ =>
    rw [withoutNotNull_cons words]
    exact h

/-- No words are found in a name in quotes at the start of an item. -/
theorem withoutNotNull_quoted {c q : Char} (opens : nameClosing? c = some q) {name rest : List Char}
    (missing : q ∉ name) (plain : PlainNulls (c :: (name ++ q :: rest))) :
    withoutNotNull (c :: (name ++ q :: rest)) = c :: (name ++ q :: withoutNotNull rest) := by
  have whole (tail : List Char) : c :: (name ++ q :: tail) = (c :: (name ++ [q])) ++ tail := by simp
  rw [whole rest, whole (withoutNotNull rest)]
  refine withoutNotNull_append fun a b split filled => ?_
  cases a with
  | nil =>
    obtain rfl : c :: (name ++ [q]) = b := split
    exact forbidding?_solid (solid_of_nameClosing? opens) _
  | cons d a =>
    -- the words would stand in quotes
    obtain ⟨rfl, others⟩ := List.cons.inj split
    have unclosed : q ∉ a := by
      rcases List.prefix_concat_iff.mp ⟨b, others.symm⟩ with rfl | before
      · exact absurd (List.append_right_eq_self.mp others.symm) filled
      · exact fun within => missing (before.subset within)
    have inside : Spot.outside.after? true (c :: a) = some ⟨some q, 0⟩ := by
      rw [Spot.after?_cons, step_of_nameClosing? opens, Option.bind_some, Spot.after?_of_quote unclosed]
    by_contra found
    obtain ⟨after, words⟩ := Option.ne_none_iff_exists'.mp found
    have outside := ((plain (c :: a) (b ++ rest) (by rw [whole, split]; simp)).constraint after words).1
    cases inside.symm.trans outside

/-- Neither are they in a name without quotes. -/
theorem withoutNotNull_solid {name : List Char} (solid : ∀ c ∈ name, Text.isBlank c = false) (rest : List Char) :
    withoutNotNull (name ++ rest) = name ++ withoutNotNull rest := by
  refine withoutNotNull_append fun a b split filled => ?_
  cases b with
  | nil => exact absurd rfl filled
  | cons d b => exact forbidding?_solid (solid d (by simp [split])) _

/-- The name of a column without the constraint is the same. -/
theorem Declares.column?_withoutNotNull {name : String} {item : Item} (h : item.Declares name)
    (plain : item.PlainNulls) : item.withoutNotNull.column? = .ok (some name.toList) := by
  cases h with
  | quoted opens missing _ => rw [withoutNotNull_quoted opens missing plain, column?_quoted opens missing]
  | bare filled chars free follows =>
    have solid : ∀ c ∈ name.toList, Text.isBlank c = false := fun c hc => solid_of_isNameChar (chars c hc)
    rw [withoutNotNull_solid solid, column?_bare (by simpa using filled) chars free (plain.follows rfl follows)]

/-- The name of a column with the constraint is the same. -/
theorem Declares.column?_withNotNull {name : String} {item : Item} (h : item.Declares name) :
    item.withNotNull.column? = .ok (some name.toList) := by
  unfold withNotNull
  split
  · cases h with
    | quoted opens plainName _ =>
      rw [List.cons_append, List.append_assoc, List.cons_append, column?_quoted opens plainName]
    | @bare rest filled chars free follows =>
      rw [List.append_assoc, column?_bare (by simpa using filled) chars free (follows.append (by decide))]
  · exact Says.column? (show item.Says (some name) from h)

end Item

end SqlBuilder
