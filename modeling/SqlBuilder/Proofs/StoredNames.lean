import SqlBuilder.Proofs.SplitDefinitions

/-!
# The names in stored definitions

An item of a stored definition defines a column, with whose name it begins, or it is a constraint of the table, which
a reserved word begins. A name may stand in quotes. The name of a column is read up to the first closing quote or
blank, so that a name with its own closing quote in it is read too short, and a name that goes on behind a reserved
word with a character that is no letter is taken for the constraint.

* `Item.Declares`, `Item.Constrains`: an item that defines a column of a name, and one that is a constraint.
* `Item.Says`: what an item says, which is a name or nothing.
* `Item.Says.column?`: what is read from an item that says something.
* `Item.WellFormed.column?`: reading an item of a stored definition does not fail.
-/

namespace SqlBuilder

open List (Forall₂)

/-! ## Letters -/

namespace Text

theorem toNat_ofNat (n : Nat) : (Char.ofNat n).toNat = n ∨ (Char.ofNat n).toNat = 0 := by
  by_cases valid : n.isValidChar
  · rw [Char.ofNat, dif_pos valid]
    exact .inl rfl
  · rw [Char.ofNat, dif_neg valid]
    exact .inr rfl

/-- What may match a letter when case is ignored: letters, the two other forms of the letter i, the long s and the
sign for kelvin. -/
def IsLetterForm (c : Char) : Prop :=
  65 ≤ c.toNat ∧ c.toNat ≤ 90 ∨ 97 ≤ c.toNat ∧ c.toNat ≤ 122 ∨
    c.toNat = 304 ∨ c.toNat = 305 ∨ c.toNat = 383 ∨ c.toNat = 8490

instance (c : Char) : Decidable (IsLetterForm c) :=
  inferInstanceAs (Decidable (_ ∨ _))

/-- No other character has a letter or one of these forms in its lower case. -/
theorem isLetterForm_of_lowerChar {c : Char}
    (h : 97 ≤ (lowerChar c).toNat ∧ (lowerChar c).toNat ≤ 122 ∨ (lowerChar c).toNat = 305 ∨ (lowerChar c).toNat = 383) :
    IsLetterForm c := by
  have ascii : ∀ n < 128, (Char.ofNat n).toLower.toNat < 128 ∧ (97 ≤ (Char.ofNat n).toLower.toNat →
      (Char.ofNat n).toLower.toNat ≤ 122 → 65 ≤ n ∧ n ≤ 90 ∨ 97 ≤ n ∧ n ≤ 122) := by decide
  have runs : ∀ run ∈ lowerRuns, 128 ≤ run.1 ∧ (run.1 = run.2.1 ∧ run.1 = 8490 ∨
      122 < (run.1 : Int) + run.2.2.2 ∧ (∀ code ∈ [305, 383],
        (run.2.1 : Int) + run.2.2.2 < code ∨ code < (run.1 : Int) + run.2.2.2)) := by decide +kernel
  unfold lowerChar at h
  unfold IsLetterForm
  split at h
  next low =>
    have known := ascii c.toNat low
    rw [Char.ofNat_toNat] at known
    omega
  next high =>
    split at h
    next dotted => exact .inr (.inr (.inl (beq_iff_eq.mp dotted)))
    next =>
      rcases toNat_ofNat (applyRuns lowerRuns c.toNat) with code | code
      · rw [code] at h
        unfold applyRuns at h
        split at h
        next first last step shift found =>
          have known := runs _ (List.mem_of_find?_eq_some found)
          have within := List.find?_some found
          simp only [List.forall_mem_cons, Bool.and_eq_true, decide_eq_true_eq] at known within
          omega
        next => omega
      · omega

/-- What matches a letter. -/
theorem isLetterForm_of_sameLetter {w c : Char} (letter : 97 ≤ w.toNat ∧ w.toNat ≤ 122) (h : sameLetter w c = true) :
    IsLetterForm c := by
  have own : lowerChar w = w := by
    have each : ∀ n < 128, 97 ≤ n → n ≤ 122 → (Char.ofNat n).toLower = Char.ofNat n := by decide
    have low : w.toNat < 128 := by omega
    have same := each w.toNat low letter.1 letter.2
    rw [Char.ofNat_toNat] at same
    rw [lowerChar, if_pos low, same]
  have twins : ∀ group ∈ caseTwins, ∀ n ∈ group, 97 ≤ n → n ≤ 122 → ∀ m ∈ group,
      m = 105 ∨ m = 115 ∨ m = 305 ∨ m = 383 := by decide +kernel
  unfold sameLetter at h
  rw [own] at h
  refine isLetterForm_of_lowerChar ?_
  simp only [Bool.or_eq_true, beq_iff_eq, List.any_eq_true, Bool.and_eq_true, List.contains_iff_mem] at h
  rcases h with same | ⟨group, known, first, second⟩
  · rw [← same]
    omega
  · have forms := twins group known _ first letter.1 letter.2 _ second
    omega

theorem IsLetterForm.solid {c : Char} (h : IsLetterForm c) : isBlank c = false := by
  unfold IsLetterForm at h
  unfold isBlank
  simp only [Bool.or_eq_false_iff, Bool.and_eq_false_iff, decide_eq_false_iff_not, beq_eq_false_iff_ne]
  omega

end Text

/-! ## Words at the start of a text -/

namespace Phrase

/-- The letters of a word are small ones. -/
def IsPlainWord (word : List Char) : Prop :=
  ∀ w ∈ word, 97 ≤ w.toNat ∧ w.toNat ≤ 122

instance (word : List Char) : Decidable (IsPlainWord word) :=
  inferInstanceAs (Decidable (∀ w ∈ word, _))

/-- No word goes on behind the text in which it begins if a blank stands there. -/
theorem dropWord?_append {word : List Char} (plain : IsPlainWord word) (cs : List Char) {rest : List Char}
    (follows : Item.Follows rest) : dropWord? word (cs ++ rest) = (dropWord? word cs).map (· ++ rest) := by
  induction word generalizing cs with
  | nil => simp [dropWord?]
  | cons w word ih =>
    obtain ⟨letter, plain⟩ := List.forall_mem_cons.mp plain
    cases cs with
    | nil =>
      cases rest with
      | nil => rfl
      | cons c rest =>
        have other : Text.sameLetter w c = false := by
          by_contra same
          have solid := (Text.isLetterForm_of_sameLetter letter (by simpa using same)).solid
          cases solid.symm.trans (follows c rfl)
        simp [dropWord?, other]
    | cons c cs =>
      rw [List.cons_append, dropWord?, dropWord?]
      by_cases same : Text.sameLetter w c = true
      · simp [same, ih plain]
      · simp [same]

theorem dropWord?_suffix {word cs rest : List Char} (h : dropWord? word cs = some rest) : rest <:+ cs := by
  induction word generalizing cs with
  | nil =>
    obtain rfl := Option.some.inj h
    exact List.suffix_refl _
  | cons w word ih =>
    cases cs with
    | nil => cases h
    | cons c cs =>
      rw [dropWord?] at h
      split at h
      · exact (ih h).trans (List.suffix_cons c cs)
      · cases h

theorem begins_word {word : String} {cs : List Char} :
    begins [word] cs = (dropWord? word.toList cs).any endsWord := by
  rw [begins, drop?]
  cases dropWord? word.toList cs with
  | none => rfl
  | some rest => cases ends : endsWord rest <;> simp [Option.filter, ends]

theorem begins_words {word next : String} {others : List String} {cs : List Char} :
    begins (word :: next :: others) cs =
      ((dropWord? word.toList cs).bind dropBlanks?).any (begins (next :: others)) := by
  rw [begins, drop?]
  · cases dropWord? word.toList cs with
    | none => rfl
    | some rest =>
      cases blanks : dropBlanks? rest with
      | none => simp [blanks]
      | some rest' => simp [blanks, begins]
  · nofun

end Phrase

/-- A scan does not leave a quoted part that is not closed. -/
theorem Definition.Spot.after?_of_quote {q : Char} {cs : List Char} (missing : q ∉ cs) (commas : Bool) (depth : Nat) :
    after? commas ⟨some q, depth⟩ cs = some ⟨some q, depth⟩ := by
  induction cs with
  | nil => rfl
  | cons c cs ih =>
    obtain ⟨other, missing⟩ := not_or.mp (mt List.mem_cons.mpr missing)
    have stays : step commas ⟨some q, depth⟩ c = some ⟨some q, depth⟩ := by simp [step, Ne.symm other]
    rw [after?_cons, stays, Option.bind_some, ih missing]

namespace Item

/-! ## Columns and constraints -/

/-- A character of a name without quotes. -/
def isNameChar (c : Char) : Bool :=
  !Text.isBlank c && (c.isAlphanum || c == '_' || c == '$' || 128 ≤ c.toNat)

theorem solid_of_isNameChar {c : Char} (h : isNameChar c = true) : Text.isBlank c = false := by
  simp only [isNameChar, Bool.and_eq_true, Bool.not_eq_true'] at h
  exact h.1

/-- The words that no name without quotes may be. -/
def reservedWords : List String :=
  ["constraint", "primary", "foreign", "unique", "check"]

/-- An item begins with the name of a column. A name in quotes does not have the closing quote in it, not even
doubled. A name without quotes is followed by a blank if anything follows, and is not taken for one of the reserved
words. -/
inductive Declares (name : String) : Item → Prop
  | quoted {c q : Char} {rest : List Char} (opens : nameClosing? c = some q) (plain : q ∉ name.toList)
      (ends : ∀ d ∈ rest.head?, d ≠ q) : Declares name (c :: (name.toList ++ q :: rest))
  | bare {rest : List Char} (filled : name ≠ "") (plain : ∀ c ∈ name.toList, isNameChar c = true)
      (free : ∀ word ∈ reservedWords, Phrase.begins [word] name.toList = false) (follows : Follows rest) :
      Declares name (name.toList ++ rest)

/-- An item begins with a phrase of a constraint, in letters of any case. -/
def Constrains (item : Item) : Prop :=
  ∃ words ∈ constraintWords, ∃ phrase rest, item = phrase ++ rest ∧ (∀ c ∈ phrase, c.toNat < 128) ∧
    Phrase.drop? words item = some rest ∧ ∀ c ∈ rest.head?, isNameChar c = false

/-- What an item of a definition says: it defines the column of a name, or it is a constraint of the table. -/
def Says (item : Item) : Option String → Prop
  | some name => item.Declares name
  | none => item.Constrains

/-! ## What is read -/

theorem column?_of_isConstraint {item : Item} (h : item.isConstraint = true) : item.column? = .ok none := by
  unfold column?
  rw [if_pos h]

/-- The name of a column is read from the start of its definition. -/
theorem column?_cons {c : Char} {cs : List Char} (h : isConstraint (c :: cs) = false) : column? (c :: cs) =
    match nameClosing? c with
    | none => (firstWord (c :: cs)).map some
    | some q =>
      if (cs.takeWhile (· != q)).length < cs.length then .ok (some (cs.takeWhile (· != q)))
      else .error (.fault .badValue) := by
  unfold column?
  rw [h]
  rfl

/-- Names are read from the items that are no constraints. -/
theorem isConstraint_of_column? {item : Item} {own : Option (List Char)} (h : item.column? = .ok own) :
    item.isConstraint = own.isNone := by
  cases constraint : item.isConstraint with
  | true =>
    obtain rfl := Except.ok.inj ((column?_of_isConstraint constraint).symm.trans h)
    rfl
  | false =>
    cases item with
    | nil => cases h
    | cons c cs =>
      rw [column?_cons constraint] at h
      split at h
      · cases word : firstWord (c :: cs) with
        | error e =>
          rw [word] at h
          cases h
        | ok word =>
          rw [word] at h
          obtain rfl := Except.ok.inj h
          rfl
      · split at h
        · obtain rfl := Except.ok.inj h
          rfl
        · cases h

theorem eq_of_nameClosing? {c q : Char} (opens : nameClosing? c = some q) :
    c = '[' ∧ q = ']' ∨ c = '"' ∧ q = '"' ∨ c = '\x60' ∧ q = '\x60' := by
  unfold nameClosing? at opens
  grind

/-- No constraint begins with a quote. -/
theorem isConstraint_quoted {c q : Char} (opens : nameClosing? c = some q) (cs : List Char) :
    isConstraint (c :: cs) = false := by
  rcases eq_of_nameClosing? opens with ⟨rfl, -⟩ | ⟨rfl, -⟩ | ⟨rfl, -⟩ <;> rfl

theorem solid_of_nameClosing? {c q : Char} (opens : nameClosing? c = some q) : Text.isBlank c = false := by
  rcases eq_of_nameClosing? opens with ⟨rfl, -⟩ | ⟨rfl, -⟩ | ⟨rfl, -⟩ <;> rfl

/-- The quotes of names are quotes to a scan. -/
theorem closing?_of_nameClosing? {c q : Char} (opens : nameClosing? c = some q) : Definition.closing? c = some q := by
  rcases eq_of_nameClosing? opens with ⟨rfl, rfl⟩ | ⟨rfl, rfl⟩ | ⟨rfl, rfl⟩ <;> rfl

/-- A scan waits for the closing quote of a name. -/
theorem step_of_nameClosing? {c q : Char} (opens : nameClosing? c = some q) (commas : Bool) :
    Definition.Spot.outside.step commas c = some ⟨some q, 0⟩ := by
  simp [Definition.Spot.step, Definition.Spot.outside, closing?_of_nameClosing? opens]

/-- A name in quotes is read up to the first closing one. -/
theorem column?_quoted {c q : Char} {name : List Char} (opens : nameClosing? c = some q) (plain : q ∉ name)
    (rest : List Char) : column? (c :: (name ++ q :: rest)) = .ok (some name) := by
  have others : ∀ d ∈ name, (d != q) = true := by
    rintro d hd
    exact bne_iff_ne.mpr (by rintro rfl; exact plain hd)
  have read : (name ++ q :: rest).takeWhile (· != q) = name := by
    rw [List.takeWhile_append_of_pos others]
    simp
  rw [column?_cons (isConstraint_quoted opens _), opens]
  simp [read]

/-- A phrase is not found in a name that is not taken for the first word of it. -/
theorem not_begins_bare {word : String} (plainWord : Phrase.IsPlainWord word.toList) {name rest : List Char}
    (solid : ∀ c ∈ name, Text.isBlank c = false) (free : Phrase.begins [word] name = false) (follows : Follows rest)
    (others : List String) : Phrase.begins (word :: others) (name ++ rest) = false := by
  have read := Phrase.dropWord?_append plainWord name follows
  rw [Phrase.begins_word] at free
  cases found : Phrase.dropWord? word.toList name with
  | none =>
    rw [found] at read
    cases others with
    | nil => simp [Phrase.begins_word, read]
    | cons => simp [Phrase.begins_words, read]
  | some after =>
    -- what follows the word in the name goes on with it
    rw [found] at read free
    cases after with
    | nil => cases free
    | cons c after =>
      have blank : Text.isBlank c = false := solid c ((Phrase.dropWord?_suffix found).subset (.head _))
      cases others with
      | nil =>
        rw [Phrase.begins_word, read]
        exact free
      | cons => simp [Phrase.begins_words, read, Phrase.dropBlanks?, blank]

/-- A name that is not taken for a reserved word begins no constraint. -/
theorem isConstraint_bare {name rest : List Char} (solid : ∀ c ∈ name, Text.isBlank c = false)
    (free : ∀ word ∈ reservedWords, Phrase.begins [word] name = false) (follows : Follows rest) :
    isConstraint (name ++ rest) = false := by
  have known : ∀ words ∈ constraintWords, ∃ word others, words = word :: others ∧ word ∈ reservedWords ∧
      Phrase.IsPlainWord word.toList := by
    simp only [constraintWords, List.forall_mem_cons]
    refine ⟨?_, ?_, ?_, ?_, ?_, nofun⟩ <;> exact ⟨_, _, rfl, by decide, by decide⟩
  refine List.any_eq_false.mpr fun words within => ?_
  obtain ⟨word, others, rfl, reserved, plainWord⟩ := known words within
  rw [not_begins_bare plainWord solid (free word reserved) follows others]
  exact Bool.false_ne_true

theorem firstWord_bare {name rest : List Char} (filled : name ≠ []) (solid : ∀ c ∈ name, Text.isBlank c = false)
    (follows : Follows rest) : firstWord (name ++ rest) = .ok name := by
  have kept : ∀ c ∈ name, (!Text.isBlank c) = true := fun c hc => by rw [solid c hc]; rfl
  have stops : rest.takeWhile (fun c => !Text.isBlank c) = [] := by
    cases rest with
    | nil => rfl
    | cons c cs => simp [follows c rfl]
  have word : (name ++ rest).takeWhile (fun c => !Text.isBlank c) = name := by
    rw [List.takeWhile_append_of_pos kept, stops, List.append_nil]
  cases name with
  | nil => exact absurd rfl filled
  | cons c name =>
    have first : Text.isBlank c = false := solid c (.head _)
    rw [List.cons_append] at word ⊢
    simp [firstWord, Text.firstWord?, first, word]

theorem column?_bare {name rest : List Char} (filled : name ≠ [])
    (plain : ∀ c ∈ name, isNameChar c = true)
    (free : ∀ word ∈ reservedWords, Phrase.begins [word] name = false) (follows : Follows rest) :
    column? (name ++ rest) = .ok (some name) := by
  have solid : ∀ c ∈ name, Text.isBlank c = false := fun c hc => solid_of_isNameChar (plain c hc)
  have word := firstWord_bare filled solid follows
  have column := isConstraint_bare solid free follows
  cases name with
  | nil => exact absurd rfl filled
  | cons c name =>
    have unquoted : nameClosing? c = none := by
      have char := plain c (.head _)
      unfold nameClosing?
      split
      next same => rw [same] at char; cases char
      next =>
        split
        next same =>
          simp only [Bool.or_eq_true, decide_eq_true_eq] at same
          rcases same with rfl | rfl <;> cases char
        next => rfl
    rw [List.cons_append] at word column ⊢
    rw [column?_cons column, unquoted]
    simp only [word]
    rfl

/-- What an item says is read from it. -/
theorem Says.column? {own : Option String} {item : Item} (h : item.Says own) :
    item.column? = .ok (own.map String.toList) := by
  cases own with
  | none =>
    obtain ⟨words, within, -, rest, -, -, begins, -⟩ := h
    refine column?_of_isConstraint (List.any_eq_true.mpr ⟨words, within, ?_⟩)
    rw [Phrase.begins, begins]
    rfl
  | some name =>
    cases h with
    | quoted opens plain _ => exact column?_quoted opens plain _
    | bare filled plain free follows => exact column?_bare (by simpa using filled) plain free follows

/-- An item of a stored definition is a constraint, or some name is read from it. -/
theorem WellFormed.column? {item : Item} (h : item.WellFormed) : ∃ own, item.column? = .ok own := by
  by_cases constraint : item.isConstraint = true
  · exact ⟨none, column?_of_isConstraint constraint⟩
  · cases item with
    | nil => exact absurd rfl h.filled
    | cons c cs =>
      have solid : Text.isBlank c = false := Text.solid_head_stripChars (c :: cs) c (by rw [h.trimmed]; rfl)
      rw [column?_cons (by simpa using constraint)]
      cases opens : nameClosing? c with
      | none => simp [firstWord, Text.firstWord?, solid, Except.map]
      | some q =>
        -- the quote is closed, as the scan of the item ends outside of quotes
        have closed : q ∈ cs := by
          have scanned := h.scanned
          rw [Definition.Spot.after?_cons, step_of_nameClosing? opens, Option.bind_some] at scanned
          by_contra missing
          rw [Definition.Spot.after?_of_quote missing] at scanned
          cases scanned
        have shorter : (cs.takeWhile (· != q)).length < cs.length := by
          have proper : cs.takeWhile (· != q) ≠ cs := fun whole => by
            simpa using List.takeWhile_eq_self_iff.mp whole q closed
          exact lt_of_le_of_ne (List.takeWhile_prefix _).length_le fun same =>
            proper ((List.takeWhile_prefix _).eq_of_length same)
        exact ⟨_, if_pos shorter⟩

end Item

/-! ## The columns of a definition -/

section Columns

variable {items : List Item}

theorem Rebuild.columns_cons (item : Item) (items : List Item) : columns (item :: items) =
    item.column?.bind fun own => (columns items).map fun names => own.toList ++ names := by
  unfold columns
  rw [List.mapM_cons]
  cases item.column? with
  | error e => rfl
  | ok own =>
    cases items.mapM Item.column? with
    | error e => rfl
    | ok owns => cases own <;> rfl

/-- The columns of items that say what they define. -/
theorem Rebuild.columns_of_owns {owns : List (Option String)} (h : Forall₂ Item.Says items owns) :
    columns items = .ok ((owns.filterMap id).map String.toList) := by
  induction h with
  | nil => rfl
  | @cons item own items owns first _ ih =>
    rw [columns_cons, first.column?, ih]
    cases own <;> rfl

/-- Items from which the same names are read have the same columns. -/
theorem Rebuild.columns_map {f : Item → Item} (same : ∀ item ∈ items, (f item).column? = item.column?) :
    columns (items.map f) = columns items := by
  induction items with
  | nil => rfl
  | cons item items ih =>
    obtain ⟨first, others⟩ := List.forall_mem_cons.mp same
    rw [List.map_cons, columns_cons, columns_cons, first, ih others]

end Columns

end SqlBuilder
