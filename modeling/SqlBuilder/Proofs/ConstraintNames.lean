import Mathlib.Data.List.Infix
import SqlBuilder.Proofs.NameRecursion
import SqlBuilder.Proofs.NullConstraints

/-!
# The names of constraints

A constraint that is to be dropped is looked for by its kind and its name among the definitions of a table. The name
may be quoted there, and it is found in any letter case. A default name is made from the names of the table and of the
columns, in lower case.

* `Item.Bears`, `Item.BearsKey`: what a constraint of a name and a kind, and a primary key, read like.
* `Item.isNamed_iff`, `Item.isPrimaryKey_iff`: these are the definitions that are found.
* `Text.IsNamePart`: the names of which a default name is made that stands in a definition as it is.
* `foreignName`, `foreignName_plain`: the default name of a foreign key.
-/

namespace SqlBuilder

open Text (isBlank sameLetter)

/-! ## Words and blanks -/

namespace Phrase

/-- A text is a word in any letter case. -/
def Spells (word cs : List Char) : Prop :=
  List.Forall₂ (fun w c => sameLetter w c = true) word cs

theorem Spells.refl (word : List Char) : Spells word word :=
  List.forall₂_same.mpr fun c _ => by simp [sameLetter]

theorem dropWord?_iff {word cs rest : List Char} :
    dropWord? word cs = some rest ↔ ∃ own, Spells word own ∧ cs = own ++ rest := by
  induction word generalizing cs with
  | nil =>
    constructor
    · rintro ⟨⟩
      exact ⟨[], .nil, rfl⟩
    · rintro ⟨_, ⟨⟩, rfl⟩
      rfl
  | cons w word ih =>
    cases cs with
    | nil =>
      refine ⟨nofun, ?_⟩
      rintro ⟨_, ⟨⟩, whole⟩
      cases whole
    | cons c cs =>
      rw [dropWord?]
      constructor
      · intro h
        split at h
        next same =>
          obtain ⟨own, spelled, rfl⟩ := ih.mp h
          exact ⟨c :: own, .cons same spelled, rfl⟩
        · cases h
      · rintro ⟨_, spelled, whole⟩
        cases spelled with
        | cons same spelled =>
          obtain ⟨rfl, rfl⟩ := List.cons.inj whole
          rw [if_pos same]
          exact ih.mpr ⟨_, spelled, rfl⟩

/-- One or more blanks. -/
def Blanks (cs : List Char) : Prop :=
  cs ≠ [] ∧ ∀ c ∈ cs, isBlank c = true

/-- One of some marks, or nothing. -/
def Mark (marks cs : List Char) : Prop :=
  cs = [] ∨ ∃ m ∈ marks, cs = [m]

theorem mem_blankTails {cs rest : List Char} :
    rest ∈ blankTails cs ↔ ∃ blanks, Blanks blanks ∧ cs = blanks ++ rest := by
  induction cs with
  | nil =>
    refine ⟨nofun, ?_⟩
    rintro ⟨blanks, ⟨filled, -⟩, whole⟩
    exact absurd (List.append_eq_nil_iff.mp whole.symm).1 filled
  | cons c cs ih =>
    rw [blankTails]
    cases blank : isBlank c with
    | false =>
      refine ⟨nofun, ?_⟩
      rintro ⟨blanks, ⟨filled, all⟩, whole⟩
      obtain ⟨b, blanks, rfl⟩ := List.exists_cons_of_ne_nil filled
      obtain ⟨rfl, -⟩ := List.cons.inj whole
      cases blank.symm.trans (all c List.mem_cons_self)
    | true =>
      rw [if_pos rfl, List.mem_cons]
      constructor
      · rintro (rfl | later)
        · exact ⟨[c], ⟨List.cons_ne_nil _ _, List.forall_mem_singleton.mpr blank⟩, rfl⟩
        · obtain ⟨blanks, ⟨-, all⟩, rfl⟩ := ih.mp later
          exact ⟨c :: blanks, ⟨List.cons_ne_nil _ _, List.forall_mem_cons.mpr ⟨blank, all⟩⟩, rfl⟩
      · rintro ⟨blanks, ⟨filled, all⟩, whole⟩
        obtain ⟨b, blanks, rfl⟩ := List.exists_cons_of_ne_nil filled
        obtain ⟨rfl, rfl⟩ := List.cons.inj whole
        cases blanks with
        | nil => exact .inl rfl
        | cons d blanks =>
          exact .inr (ih.mpr ⟨d :: blanks, ⟨List.cons_ne_nil _ _, (List.forall_mem_cons.mp all).2⟩, rfl⟩)

theorem mem_markTails {marks cs rest : List Char} :
    rest ∈ markTails marks cs ↔ ∃ mark, Mark marks mark ∧ cs = mark ++ rest := by
  cases cs with
  | nil =>
    rw [markTails, List.mem_singleton]
    constructor
    · rintro rfl
      exact ⟨[], .inl rfl, rfl⟩
    · rintro ⟨mark, -, whole⟩
      exact (List.append_eq_nil_iff.mp whole.symm).2
  | cons c cs =>
    rw [markTails]
    constructor
    · intro h
      split at h
      next within =>
        rcases List.mem_cons.mp h with rfl | single
        · exact ⟨[c], .inr ⟨c, List.contains_iff_mem.mp within, rfl⟩, rfl⟩
        · exact ⟨[], .inl rfl, (List.mem_singleton.mp single).symm⟩
      · exact ⟨[], .inl rfl, (List.mem_singleton.mp h).symm⟩
    · rintro ⟨_, rfl | ⟨m, within, rfl⟩, whole⟩
      · obtain rfl : c :: cs = rest := whole
        split <;> simp
      · obtain ⟨rfl, rfl⟩ := List.cons.inj whole
        rw [if_pos (List.contains_iff_mem.mpr within)]
        exact List.mem_cons_self

/-- A phrase that begins with a letter. -/
def Starts (words : List String) : Prop :=
  ∃ word others, words = word :: others ∧ word.toList ≠ [] ∧ IsPlainWord word.toList

theorem solid_of_begins {words : List String} {cs : List Char} (starts : Starts words) (h : begins words cs = true) :
    ∃ c rest, cs = c :: rest ∧ isBlank c = false := by
  obtain ⟨word, others, rfl, filled, plain⟩ := starts
  have first : ∃ rest, dropWord? word.toList cs = some rest := by
    rw [← Option.isSome_iff_exists]
    cases others with
    | nil =>
      rw [begins_word] at h
      exact Option.isSome_of_any h
    | cons next others =>
      rw [begins_words] at h
      exact Option.isSome_of_isSome_bind (Option.isSome_of_any h)
  obtain ⟨rest, found⟩ := first
  obtain ⟨own, spelled, rfl⟩ := dropWord?_iff.mp found
  generalize word.toList = letters at filled plain spelled
  cases spelled with
  | nil => exact absurd rfl filled
  | cons same spelled =>
    have letter := Text.isLetterForm_of_sameLetter (plain _ List.mem_cons_self) same
    exact ⟨_, _, rfl, letter.solid⟩

/-- Blanks are dropped up to a character that is none. -/
theorem dropBlanks?_append {gap rest : List Char} (blanks : Blanks gap)
    (solid : ∃ c cs, rest = c :: cs ∧ isBlank c = false) : dropBlanks? (gap ++ rest) = some rest := by
  obtain ⟨b, gap, rfl⟩ := List.exists_cons_of_ne_nil blanks.1
  obtain ⟨blank, all⟩ := List.forall_mem_cons.mp blanks.2
  obtain ⟨c, cs, rfl, solid⟩ := solid
  rw [List.cons_append, dropBlanks?_cons, if_pos blank, List.dropWhile_append_of_pos all,
    List.dropWhile_cons_of_neg (by simp [solid])]

/-- All blanks at the start are dropped. -/
theorem not_blanks_of_dropBlanks? {cs rest gap more : List Char} (h : dropBlanks? cs = some rest)
    (blanks : Blanks gap) : rest ≠ gap ++ more := by
  rintro rfl
  obtain ⟨b, gap, rfl⟩ := List.exists_cons_of_ne_nil blanks.1
  have blank := blanks.2 b List.mem_cons_self
  cases cs with
  | nil => cases h
  | cons c cs =>
    rw [dropBlanks?_cons] at h
    split at h
    · have first := List.head?_dropWhile_not isBlank cs
      rw [Option.some.inj h] at first
      simp [blank] at first
    · cases h

/-- Blanks and a phrase behind them. -/
theorem drop?_behind_blanks {words : List String} {cs : List Char} (starts : Starts words) :
    ((dropBlanks? cs).bind (drop? words)).isSome = true ↔
      ∃ gap rest, Blanks gap ∧ begins words rest = true ∧ cs = gap ++ rest := by
  constructor
  · intro h
    obtain ⟨found, some_⟩ := Option.isSome_iff_exists.mp h
    obtain ⟨rest, dropped, words⟩ := Option.bind_eq_some_iff.mp some_
    obtain ⟨c, blanks, rfl, blank, all⟩ := dropBlanks?_eq_some dropped
    refine ⟨c :: blanks, rest, ⟨List.cons_ne_nil _ _, List.forall_mem_cons.mpr ⟨blank, all⟩⟩, ?_, rfl⟩
    rw [begins, words]
    rfl
  · rintro ⟨gap, rest, blanks, words, rfl⟩
    rw [dropBlanks?_append blanks (solid_of_begins starts words), Option.bind_some]
    exact words

end Phrase

/-! ## Constraints -/

namespace Item

open Phrase (Spells Blanks Mark Starts)

/-- A definition reads as a constraint of a name and a kind: the name stands between `constraint` and the kind, in any
letter case, with quotes around it or without. -/
inductive Bears (name : List Char) (kind : List String) : Item → Prop
  | intro {word blanks opened own closed gap rest : List Char} (constraint : Spells "constraint".toList word)
      (apart : Blanks blanks) (opens : Mark ['\x60', '"', '['] opened) (named : Spells name own)
      (closes : Mark ['\x60', '"', ']'] closed) (apart' : Blanks gap) (begins : Phrase.begins kind rest = true) :
      Bears name kind (word ++ (blanks ++ (opened ++ (own ++ (closed ++ (gap ++ rest))))))

/-- The constraints of a name and a kind are found. -/
theorem isNamed_iff {name : List Char} {kind : List String} {item : Item} (starts : Starts kind) :
    isNamed name kind item = true ↔ Bears name kind item := by
  unfold isNamed
  constructor
  · intro h
    split at h
    · cases h
    next behind found =>
      obtain ⟨word, spelled, rfl⟩ := Phrase.dropWord?_iff.mp found
      simp only [List.any_eq_true, List.mem_flatMap] at h
      obtain ⟨quoted, ⟨unspaced, within, within'⟩, h⟩ := h
      obtain ⟨blanks, apart, rfl⟩ := Phrase.mem_blankTails.mp within
      obtain ⟨opened, opens, rfl⟩ := Phrase.mem_markTails.mp within'
      split at h
      · cases h
      next behind found =>
        obtain ⟨own, named, rfl⟩ := Phrase.dropWord?_iff.mp found
        simp only [List.any_eq_true] at h
        obtain ⟨rest, within, words⟩ := h
        obtain ⟨closed, closes, rfl⟩ := Phrase.mem_markTails.mp within
        obtain ⟨gap, rest, apart', begins, rfl⟩ := (Phrase.drop?_behind_blanks starts).mp words
        exact .intro spelled apart opens named closes apart' begins
  · rintro ⟨spelled, apart, opens, named, closes, apart', begins⟩
    rw [Phrase.dropWord?_iff.mpr ⟨_, spelled, rfl⟩]
    simp only [List.any_eq_true, List.mem_flatMap]
    refine ⟨_, ⟨_, Phrase.mem_blankTails.mpr ⟨_, apart, rfl⟩, Phrase.mem_markTails.mpr ⟨_, opens, rfl⟩⟩, ?_⟩
    rw [Phrase.dropWord?_iff.mpr ⟨_, named, rfl⟩]
    simp only [List.any_eq_true]
    exact ⟨_, Phrase.mem_markTails.mpr ⟨_, closes, rfl⟩,
      (Phrase.drop?_behind_blanks starts).mpr ⟨_, _, apart', begins, rfl⟩⟩

/-- A definition reads as a primary key: with a name that has no blanks in it, or without a name. -/
inductive BearsKey : Item → Prop
  | bare {item : Item} (begins : Phrase.begins ["primary", "key"] item = true) : BearsKey item
  | named {word blanks name gap rest : List Char} (constraint : Spells "constraint".toList word)
      (apart : Blanks blanks) (filled : name ≠ []) (solid : ∀ c ∈ name, isBlank c = false) (apart' : Blanks gap)
      (begins : Phrase.begins ["primary", "key"] rest = true) : BearsKey (word ++ (blanks ++ (name ++ (gap ++ rest))))

/-- The primary keys are found. -/
theorem isPrimaryKey_iff {item : Item} : isPrimaryKey item = true ↔ BearsKey item := by
  have starts : Starts ["primary", "key"] := ⟨_, _, rfl, by decide, by decide⟩
  have named : (do
      let rest ← Phrase.dropBlanks? (← Phrase.dropWord? "constraint".toList item)
      let named := rest.dropWhile fun c => !isBlank c
      Phrase.drop? ["primary", "key"] (← Phrase.dropBlanks? named)).isSome = true ↔
      ∃ behind rest, Phrase.dropWord? "constraint".toList item = some behind ∧
        Phrase.dropBlanks? behind = some rest ∧ ∃ gap key, Blanks gap ∧
          Phrase.begins ["primary", "key"] key = true ∧ (rest.dropWhile fun c => !isBlank c) = gap ++ key := by
    simp only [← Phrase.drop?_behind_blanks starts]
    cases Phrase.dropWord? "constraint".toList item with
    | none => simp
    | some behind => cases dropped : Phrase.dropBlanks? behind <;> simp [dropped]
  rw [isPrimaryKey, Bool.or_eq_true, named]
  constructor
  · rintro (bare | ⟨behind, rest, found, dropped, gap, key, apart', begins, ends⟩)
    · exact .bare bare
    · obtain ⟨word, spelled, rfl⟩ := Phrase.dropWord?_iff.mp found
      -- The name has no blank and one follows it, so it is all that stands before the first blank.
      have split : rest = (rest.takeWhile fun c => !isBlank c) ++ (gap ++ key) := by
        rw [← ends, List.takeWhile_append_dropWhile]
      have solid : ∀ c ∈ rest.takeWhile fun c => !isBlank c, isBlank c = false := by
        intro c hc
        simpa using List.mem_takeWhile_imp hc
      have filled : (rest.takeWhile fun c => !isBlank c) ≠ [] := by
        intro none_
        rw [none_, List.nil_append] at split
        exact Phrase.not_blanks_of_dropBlanks? dropped apart' split
      obtain ⟨b, blanks, rfl, blank, all⟩ := Phrase.dropBlanks?_eq_some dropped
      have apart : Blanks (b :: blanks) := ⟨List.cons_ne_nil _ _, List.forall_mem_cons.mpr ⟨blank, all⟩⟩
      rw [split]
      exact .named spelled apart filled solid apart' begins
  · rintro (bare | ⟨spelled, apart, filled, solid, apart', begins⟩)
    · exact .inl bare
    next word blanks name gap rest =>
      obtain ⟨c, cs, rfl⟩ := List.exists_cons_of_ne_nil filled
      have first : isBlank c = false := solid c List.mem_cons_self
      refine .inr ⟨_, _, Phrase.dropWord?_iff.mpr ⟨_, spelled, rfl⟩,
        Phrase.dropBlanks?_append apart ⟨c, cs ++ (gap ++ rest), rfl, first⟩, gap, rest, apart', begins, ?_⟩
      obtain ⟨b, gap, rfl⟩ := List.exists_cons_of_ne_nil apart'.1
      have blank := apart'.2 b List.mem_cons_self
      rw [List.dropWhile_append_of_pos fun d hd => by simp [solid d hd], List.cons_append,
        List.dropWhile_cons_of_neg (by simp [blank])]

end Item

/-! ## Lower case -/

namespace Text

/-- A character beyond ASCII is itself in lower case, or letters stand for it. -/
def LowerForm (c d : Char) : Prop :=
  d = c ∨ d = 'i' ∨ d = 'k' ∨ 128 ≤ d.toNat ∧ isBlank d = false

theorem lowerForm_applyRuns {c : Char} (h : 128 ≤ c.toNat) :
    LowerForm c (Char.ofNat (applyRuns lowerRuns c.toNat)) := by
  -- A run is of ASCII characters, or of the Kelvin sign, or leads to characters beyond ASCII that are no blanks.
  have runs : ∀ run ∈ lowerRuns, run.2.1 < 128 ∨ run.1 = run.2.1 ∧ (run.1 : Int) + run.2.2.2 = 107 ∨
      (165 ≤ (run.1 : Int) + run.2.2.2 ∧ (run.2.1 : Int) + run.2.2.2 < 55296 ∨
        57343 < (run.1 : Int) + run.2.2.2 ∧ (run.2.1 : Int) + run.2.2.2 < 1114112) ∧
      ∀ blanks ∈ [(5760, 5760), (8192, 8287), (12288, 12288)],
        (run.2.1 : Int) + run.2.2.2 < (blanks.1 : Nat) ∨ (blanks.2 : Nat) < (run.1 : Int) + run.2.2.2 := by
    decide +kernel
  unfold applyRuns
  split
  next first last step shift found =>
    have known := runs _ (List.mem_of_find?_eq_some found)
    have within := List.find?_some found
    simp only [Bool.and_eq_true, decide_eq_true_eq, List.forall_mem_cons] at within known
    rcases known with ascii | ⟨single, kelvin⟩ | ⟨valid, ogham, general, ideographic, -⟩
    · omega
    · have code : ((c.toNat : Int) + shift).toNat = 107 := by omega
      rw [code]
      exact .inr (.inr (.inl rfl))
    · have bound : ((c.toNat : Int) + shift).toNat.isValidChar := by
        unfold Nat.isValidChar
        omega
      have code : (Char.ofNat ((c.toNat : Int) + shift).toNat).toNat = ((c.toNat : Int) + shift).toNat := by
        rw [Char.ofNat, dif_pos bound]
        rfl
      refine .inr (.inr (.inr ⟨by omega, ?_⟩))
      simp only [isBlank, code, Bool.or_eq_false_iff, Bool.and_eq_false_iff, decide_eq_false_iff_not,
        beq_eq_false_iff_ne]
      omega
  next => exact .inl (Char.ofNat_toNat c)

/-- What stands for the first character of a text in lower case. -/
theorem lowerFrom_cons_forms (before : List Char) (c : Char) (cs : List Char) :
    ∃ image, lowerFrom before (c :: cs) = image ++ lowerFrom (c :: before) cs ∧ image ≠ [] ∧
      (c.toNat < 128 ∧ image = [c.toLower] ∨ 128 ≤ c.toNat ∧ ∀ d ∈ image, LowerForm c d) := by
  rw [lowerFrom]
  refine ⟨_, rfl, ?_⟩
  split
  next ascii => exact ⟨List.cons_ne_nil _ _, .inl ⟨ascii, rfl⟩⟩
  next beyond =>
    have beyond : 128 ≤ c.toNat := by omega
    split
    · refine ⟨List.cons_ne_nil _ _, .inr ⟨beyond, List.forall_mem_singleton.mpr (.inr (.inr (.inr ?_)))⟩⟩
      split <;> decide
    · split
      next codes found =>
        obtain ⟨front, back, table, -⟩ := List.lookup_eq_some_iff.mp found
        have entries : ∀ entry ∈ lowerExpansions, entry.2 = [105, 775] := by decide
        obtain rfl : codes = [105, 775] := entries (c.toNat, codes) (by simp [table])
        refine ⟨List.cons_ne_nil _ _, .inr ⟨beyond, ?_⟩⟩
        simp only [List.map_cons, List.map_nil, List.forall_mem_cons]
        exact ⟨.inr (.inl rfl), .inr (.inr (.inr (by decide))), List.forall_mem_nil _⟩
      next => exact ⟨List.cons_ne_nil _ _, .inr ⟨beyond, List.forall_mem_singleton.mpr (lowerForm_applyRuns beyond)⟩⟩

theorem toLower_of_mark {c : Char} (ascii : c.toNat < 128) (mark : c.toLower.isAlpha = false) : c.toLower = c := by
  have each : ∀ n < 128, (Char.ofNat n).toLower.isAlpha = false → (Char.ofNat n).toLower = Char.ofNat n := by decide
  have code := each c.toNat ascii
  rw [Char.ofNat_toNat] at code
  exact code mark

/-- Punctuation stands in the lower-case form of a text only where it stands in the text. -/
theorem mem_of_mem_lowerFrom {x : Char} (ascii : x.toNat < 128) (mark : x.isAlpha = false) {before cs : List Char}
    (h : x ∈ lowerFrom before cs) : x ∈ cs := by
  induction cs generalizing before with
  | nil => cases h
  | cons c cs ih =>
    obtain ⟨image, split, -, forms⟩ := lowerFrom_cons_forms before c cs
    rw [split, List.mem_append] at h
    rcases h with here | later
    · have same : x = c := by
        rcases forms with ⟨small, rfl⟩ | ⟨beyond, forms⟩
        · obtain rfl := List.mem_singleton.mp here
          exact toLower_of_mark small mark
        · rcases forms x here with same | rfl | rfl | ⟨big, -⟩
          · exact same
          · cases mark
          · cases mark
          · omega
      rw [same]
      exact List.mem_cons_self
    · exact List.mem_cons_of_mem _ (ih later)

theorem toLower_toLower {c : Char} (ascii : c.toNat < 128) : c.toLower.toLower = c.toLower := by
  have each : ∀ n < 128, (Char.ofNat n).toLower.toLower = (Char.ofNat n).toLower := by decide
  have code := each c.toNat ascii
  rwa [Char.ofNat_toNat] at code

/-- What stands for a character beyond ASCII belongs to no keyword of an alias. -/
theorem LowerForm.foreign {c d : Char} (h : LowerForm c d) (beyond : 128 ≤ c.toNat) : d.toLower ∉ Scope.aliasMark := by
  have low : ∀ p ∈ Scope.aliasMark, p.toNat < 128 := by simp [Scope.aliasMark]
  have big {e : Char} (beyond : 128 ≤ e.toNat) : e.toLower ∉ Scope.aliasMark := by
    rw [toLower_of_le beyond]
    intro within
    have small := low e within
    omega
  rcases h with rfl | rfl | rfl | ⟨beyond', -⟩
  · exact big beyond
  · decide
  · decide
  · exact big beyond'

/-- The beginning of a keyword of an alias stands in the lower-case form of a text only where it stands in the text. -/
theorem prefix_of_prefix_lowerFrom {pattern before cs : List Char} (known : ∀ p ∈ pattern, p ∈ Scope.aliasMark)
    (h : pattern <+: (lowerFrom before cs).map Char.toLower) : pattern <+: cs.map Char.toLower := by
  induction pattern generalizing before cs with
  | nil => exact List.nil_prefix
  | cons p pattern ih =>
    obtain ⟨first, others⟩ := List.forall_mem_cons.mp known
    cases cs with
    | nil => exact h
    | cons c cs =>
      obtain ⟨image, split, filled, forms⟩ := lowerFrom_cons_forms before c cs
      obtain ⟨d, image, rfl⟩ := List.exists_cons_of_ne_nil filled
      rw [split, List.cons_append, List.map_cons, List.cons_prefix_cons] at h
      rw [List.map_cons, List.cons_prefix_cons]
      rcases forms with ⟨ascii, same⟩ | ⟨beyond, forms⟩
      · obtain ⟨rfl, rfl⟩ := List.cons.inj same
        rw [toLower_toLower ascii] at h
        exact ⟨h.1, ih others h.2⟩
      · exact absurd (h.1 ▸ first) ((forms d List.mem_cons_self).foreign beyond)

/-- A pattern does not begin among characters that are none of its own. -/
theorem infix_of_infix_append {pattern front cs : List Char} (filled : pattern ≠ [])
    (foreign : ∀ d ∈ front, d ∉ pattern) (h : pattern <:+: front ++ cs) : pattern <:+: cs := by
  induction front with
  | nil => exact h
  | cons d front ih =>
    obtain ⟨first, others⟩ := List.forall_mem_cons.mp foreign
    rcases List.infix_cons_iff.mp h with here | later
    · obtain ⟨p, pattern, rfl⟩ := List.exists_cons_of_ne_nil filled
      exact absurd ((List.cons_prefix_cons.mp here).1 ▸ List.mem_cons_self) first
    · exact ih others later

/-- A pattern stands on one side of a mark that is none of its characters. -/
theorem infix_or_infix_of_mark {pattern front cs : List Char} {mark : Char} (foreign : mark ∉ pattern)
    (h : pattern <:+: front ++ mark :: cs) : pattern <:+: front ∨ pattern <:+: cs := by
  rcases List.infix_append_iff.mp h with first | second | ⟨start, back, whole, ends, begins⟩
  · exact .inl first
  · cases pattern with
    | nil => exact .inl List.nil_infix
    | cons p pattern =>
      have apart : ∀ d ∈ [mark], d ∉ p :: pattern := List.forall_mem_singleton.mpr foreign
      exact .inr (infix_of_infix_append (List.cons_ne_nil _ _) apart second)
  · cases back with
    | nil =>
      rw [List.append_nil] at whole
      exact .inl (whole ▸ ends.isInfix)
    | cons b back =>
      obtain ⟨rfl, -⟩ := List.cons_prefix_cons.mp begins
      exact absurd (whole ▸ List.mem_append_right _ List.mem_cons_self) foreign

/-- A text without the keyword of an alias has none in lower case. -/
theorem not_infix_lowerFrom {before cs : List Char} (h : ¬ Scope.aliasMark <:+: cs.map Char.toLower) :
    ¬ Scope.aliasMark <:+: (lowerFrom before cs).map Char.toLower := by
  induction cs generalizing before with
  | nil => exact h
  | cons c cs ih =>
    have missing := mt (List.infix_cons (a := c.toLower)) h
    have later : ¬ Scope.aliasMark <:+: (lowerFrom (c :: before) cs).map Char.toLower := ih missing
    obtain ⟨image, split, filled, forms⟩ := lowerFrom_cons_forms before c cs
    -- A character of ASCII may begin the keyword; what stands for another one is no part of it.
    rcases forms with ⟨-, rfl⟩ | ⟨beyond, forms⟩
    · intro within
      rw [split, List.singleton_append, List.map_cons, List.infix_cons_iff] at within
      rcases within with here | there
      · rw [← List.map_cons, ← List.singleton_append, ← split] at here
        exact h (prefix_of_prefix_lowerFrom (fun _ hp => hp) here).isInfix
      · exact later there
    · intro within
      rw [split, List.map_append] at within
      refine later (infix_of_infix_append (by decide) ?_ within)
      intro d hd
      obtain ⟨e, he, rfl⟩ := List.mem_map.mp hd
      exact (forms e he).foreign beyond

/-- A text that begins with no blank begins with none in lower case. -/
theorem head?_lowerFrom_solid {cs before : List Char} (solid : ∀ c ∈ cs.head?, isBlank c = false) :
    ∀ d ∈ (lowerFrom before cs).head?, isBlank d = false := by
  cases cs with
  | nil => simp [lowerFrom]
  | cons c cs =>
    have first := solid c rfl
    obtain ⟨image, split, filled, forms⟩ := lowerFrom_cons_forms before c cs
    obtain ⟨d, image, rfl⟩ := List.exists_cons_of_ne_nil filled
    rw [split]
    rintro _ ⟨⟩
    rcases forms with ⟨ascii, same⟩ | ⟨-, forms⟩
    · obtain ⟨rfl, -⟩ := List.cons.inj same
      have each : ∀ n < 128, isBlank (Char.ofNat n) = false → isBlank (Char.ofNat n).toLower = false := by decide
      have code := each c.toNat ascii
      rw [Char.ofNat_toNat] at code
      exact code first
    · rcases forms d List.mem_cons_self with rfl | rfl | rfl | ⟨-, solid⟩
      · exact first
      · rfl
      · rfl
      · exact solid

/-- The last character of a text stands alone in lower case. -/
theorem exists_lowerFrom_append {x : Char} (ascii : x.toNat < 128) (before cs : List Char) :
    ∃ front, lowerFrom before (cs ++ [x]) = front ++ [x.toLower] := by
  induction cs generalizing before with
  | nil =>
    obtain ⟨image, split, -, ⟨-, rfl⟩ | ⟨beyond, -⟩⟩ := lowerFrom_cons_forms before x []
    · exact ⟨[], split⟩
    · omega
  | cons c cs ih =>
    obtain ⟨image, split, -⟩ := lowerFrom_cons_forms before c (cs ++ [x])
    obtain ⟨front, rest⟩ := ih (c :: before)
    exact ⟨image ++ front, by rw [List.cons_append, split, rest, List.append_assoc]⟩

/-- A text that begins and ends with no blank has no blanks around it. -/
theorem stripChars_of_ends {front : List Char} {x : Char} (first : ∀ c ∈ (front ++ [x]).head?, isBlank c = false)
    (last : isBlank x = false) : stripChars (front ++ [x]) = front ++ [x] := by
  have starts : (front ++ [x]).dropWhile isBlank = front ++ [x] := by
    cases whole : front ++ [x] with
    | nil => rfl
    | cons c cs => exact List.dropWhile_cons_of_neg (by simp [first c (by rw [whole]; rfl)])
  rw [stripChars, trimmed, starts, trimmedRight, List.reverse_append, List.reverse_singleton, List.singleton_append,
    List.dropWhile_cons_of_neg (by simp [last])]
  simp

/-- A text without the keyword of an alias is no name with one. -/
theorem hasAlias_of_not_infix {cs : List Char} (h : ¬ Scope.aliasMark <:+: cs.map Char.toLower) :
    hasAlias cs = false := by
  have missing : aliasPlace? cs = none := findInfix_eq_none.mpr h
  rw [hasAlias, hasInfix, findInfix_lowerChars, missing]
  rfl

/-- A text without blanks is no name with an alias. -/
theorem hasAlias_of_solid {cs : List Char} (solid : ∀ c ∈ cs, isBlank c = false) : hasAlias cs = false := by
  refine hasAlias_of_not_infix fun within => ?_
  obtain ⟨c, there, same⟩ := List.mem_map.mp (within.subset (by decide : ' ' ∈ Scope.aliasMark))
  have ascii : c.toNat < 128 := by
    by_contra beyond
    rw [toLower_of_le (by omega)] at same
    rw [same] at beyond
    exact beyond (by decide)
  have blank : c = ' ' := by rw [← toLower_of_mark ascii (by rw [same]; rfl), same]
  cases (blank ▸ solid c there : isBlank ' ' = false)

theorem stripChars_of_solid {cs : List Char} (solid : ∀ c ∈ cs, isBlank c = false) : stripChars cs = cs := by
  rcases List.eq_nil_or_concat cs with rfl | ⟨front, x, rfl⟩
  · rfl
  · rw [List.concat_eq_append] at solid ⊢
    exact stripChars_of_ends (fun c hc => solid c (List.mem_of_mem_head? hc)) (solid x (by simp))

/-! ## Default names -/

/-- A text of which a default name can be made that stands in a definition as it is: without dots and dashes, for
which underscores stand in the definition only, without quotes and without the keyword of an alias. -/
structure IsNamePart (cs : List Char) : Prop where
  undotted : '.' ∉ cs
  undashed : '-' ∉ cs
  unquoted : '\x60' ∉ cs
  unaliased : ¬ Scope.aliasMark <:+: cs.map Char.toLower

instance (cs : List Char) : Decidable (IsNamePart cs) :=
  decidable_of_iff ('.' ∉ cs ∧ '-' ∉ cs ∧ '\x60' ∉ cs ∧ ¬ Scope.aliasMark <:+: cs.map Char.toLower)
    ⟨fun ⟨a, b, c, d⟩ => ⟨a, b, c, d⟩, fun ⟨a, b, c, d⟩ => ⟨a, b, c, d⟩⟩

namespace IsNamePart

variable {cs ds : List Char}

theorem joined (h : IsNamePart cs) (h' : IsNamePart ds) : IsNamePart (cs ++ '_' :: ds) where
  undotted := by simp [h.undotted, h'.undotted]
  undashed := by simp [h.undashed, h'.undashed]
  unquoted := by simp [h.unquoted, h'.unquoted]
  unaliased := by
    rw [List.map_append, List.map_cons]
    intro within
    rcases infix_or_infix_of_mark (by decide) within with first | second
    · exact h.unaliased first
    · exact h'.unaliased second

theorem intercalated {parts : List (List Char)} (h : ∀ part ∈ parts, IsNamePart part) :
    IsNamePart (['_'].intercalate parts) := by
  induction parts with
  | nil => exact ⟨nofun, nofun, nofun, by decide⟩
  | cons part parts ih =>
    obtain ⟨first, others⟩ := List.forall_mem_cons.mp h
    cases parts with
    | nil => simpa using first
    | cons next parts =>
      rw [List.intercalate_cons_cons, List.append_assoc]
      exact first.joined (ih others)

theorem lowered (h : IsNamePart cs) (before : List Char) : IsNamePart (lowerFrom before cs) where
  undotted := mt (mem_of_mem_lowerFrom (by decide) (by decide)) h.undotted
  undashed := mt (mem_of_mem_lowerFrom (by decide) (by decide)) h.undashed
  unquoted := mt (mem_of_mem_lowerFrom (by decide) (by decide)) h.unquoted
  unaliased := not_infix_lowerFrom h.unaliased

end IsNamePart

end Text

/-- The default name of a foreign key, made from the names of the table and of the columns. -/
def foreignName (table : String) (columns : List String) : String :=
  Text.lower (table ++ "_" ++ Text.joinWith "_" columns ++ "_" ++ "foreign")

/-- A default name of such names stands in a definition as it is. -/
theorem foreignName_plain {table : String} {columns : List String} (part : Text.IsNamePart table.toList)
    (parts : ∀ column ∈ columns, Text.IsNamePart column.toList) (starts : ∀ c ∈ table.toList.head?, isBlank c = false) :
    PlainName (foreignName table columns) ∧ '\x60' ∉ (foreignName table columns).toList ∧
      Scope.underscored (foreignName table columns) = foreignName table columns := by
  let body := table.toList ++ '_' :: (['_'].intercalate (columns.map String.toList) ++ '_' :: "foreig".toList)
  have chars : (foreignName table columns).toList = Text.lowerChars (body ++ ['n']) := by
    simp [foreignName, Text.lower, Text.joinWith, body, String.toList_append, String.toList_intercalate]
  have whole : Text.IsNamePart (body ++ ['n']) := by
    have listed : Text.IsNamePart (['_'].intercalate (columns.map String.toList)) :=
      .intercalated (List.forall_mem_map.mpr parts)
    have kind : Text.IsNamePart "foreign".toList := by decide +kernel
    simpa [body] using part.joined (listed.joined kind)
  have made : Text.IsNamePart (foreignName table columns).toList := chars ▸ whole.lowered []
  refine ⟨⟨made.undotted, Text.hasAlias_of_not_infix made.unaliased, ?_⟩, made.unquoted, ?_⟩
  · obtain ⟨front, same⟩ := Text.exists_lowerFrom_append (x := 'n') (by decide) [] body
    have first : ∀ c ∈ (body ++ ['n']).head?, isBlank c = false := by
      cases table_ : table.toList with
      | nil => simp only [body, table_]; rintro _ ⟨⟩; rfl
      | cons c cs => simp only [body, table_]; rintro _ ⟨⟩; exact starts c (by rw [table_]; rfl)
    have head : ∀ d ∈ (Text.lowerFrom [] (body ++ ['n'])).head?, isBlank d = false := Text.head?_lowerFrom_solid first
    rw [chars, Text.lowerChars, same] at *
    exact Text.stripChars_of_ends head (by decide)
  · have kept : (foreignName table columns).toList.map (fun c => if c = '-' || c = '.' then '_' else c) =
        (foreignName table columns).toList.map id := by
      refine List.map_congr_left fun c within => if_neg ?_
      simp only [Bool.or_eq_true, decide_eq_true_eq, not_or]
      exact ⟨fun same => made.undashed (same ▸ within), fun same => made.undotted (same ▸ within)⟩
    rw [Scope.underscored, kept, List.map_id, String.ofList_toList]

end SqlBuilder
