import Mathlib.Data.List.DropRight
import SqlBuilder.Proofs.StoredDefinitions

/-!
# Splitting and joining definitions

A scan of a definition goes through its characters and keeps count of the open parentheses and of the quote that it
waits for. A text is an item of a definition if a scan of it comes back to where it began and meets neither a comma nor
a closing parenthesis outside of parentheses. Joining such items and splitting the result are inverse to each other.

* `Definition.Spot`, `Definition.Spot.step`: where a scan stands, and where it stands behind one more character.
* `Item.WellFormed`: a text that is one item.
* `Definition.Closes`: the parenthesis before a text is closed in it.
* `Definition.split_joined`: what is split into items, and into which.
-/

namespace SqlBuilder

namespace Definition

/-! ## Scans -/

/-- Where a scan of a definition stands: in a quoted part, which a character closes, or outside of these, and in how
many open parentheses. -/
structure Spot where
  quote : Option Char := none
  depth : Nat := 0
  deriving DecidableEq

namespace Spot

/-- Outside of quotes and parentheses. -/
def outside : Spot := {}

/-- Where a scan stands behind a character. There is no such place behind a parenthesis that closes none, and behind a
comma outside of parentheses there is one only if such commas are allowed. -/
def step (commas : Bool) (p : Spot) (c : Char) : Option Spot :=
  match p.quote with
  | some q => some { p with quote := if c = q then none else some q }
  | none =>
    match closing? c with
    | some q => some { p with quote := some q }
    | none =>
      if c = '(' then some { p with depth := p.depth + 1 }
      else if c = ')' then if p.depth = 0 then none else some { p with depth := p.depth - 1 }
      else if c = ',' && p.depth = 0 && !commas then none
      else some p

/-- Where a scan stands behind a text. -/
def after? (commas : Bool) (p : Spot) (cs : List Char) : Option Spot :=
  cs.foldlM (step commas) p

end Spot

end Definition

/-- A text is one item of a definition: it has no blanks around it, and a scan of it ends outside of the quotes and the
parentheses that it opens, without a comma or a closing parenthesis there. -/
structure Item.WellFormed (item : Item) : Prop where
  filled : item ≠ []
  trimmed : Text.stripChars item = item
  scanned : Definition.Spot.outside.after? false item = some .outside

instance (item : Item) : Decidable item.WellFormed :=
  decidable_of_iff (item ≠ [] ∧ Text.stripChars item = item ∧
    Definition.Spot.outside.after? false item = some .outside) ⟨fun ⟨a, b, c⟩ => ⟨a, b, c⟩, fun ⟨a, b, c⟩ => ⟨a, b, c⟩⟩

namespace Definition

namespace Spot

variable {commas : Bool} {p p' : Spot} {c : Char} {cs ds : List Char}

theorem after?_nil : p.after? commas [] = some p :=
  rfl

theorem after?_cons : p.after? commas (c :: cs) = (p.step commas c).bind (after? commas · cs) :=
  rfl

theorem after?_append : p.after? commas (cs ++ ds) = (p.after? commas cs).bind (after? commas · ds) :=
  List.foldlM_append

end Spot

open Spot

variable {commas : Bool} {p p' : Spot} {c : Char} {cs current rest : List Char}

theorem closing?_punctuation : closing? '(' = none ∧ closing? ')' = none ∧ closing? ',' = none :=
  ⟨rfl, rfl, rfl⟩

/-- Where a scan stops. -/
theorem step_eq_none : p.step commas c = none ↔ p = outside ∧ (c = ')' ∨ c = ',' ∧ commas = false) := by
  obtain ⟨quote, depth⟩ := p
  cases quote with
  | some q => simp [step, outside]
  | none =>
    cases opens : closing? c with
    | some q =>
      have other : c ≠ ')' ∧ c ≠ ',' := by
        refine ⟨?_, ?_⟩ <;> rintro rfl <;> cases opens
      simp [step, opens, other]
    | none =>
      by_cases enters : c = '('
      · simp [step, enters, closing?_punctuation]
      · by_cases leaves : c = ')'
        · simp [step, leaves, outside, closing?_punctuation]
        · by_cases comma : c = ','
          · simp [step, comma, outside, closing?_punctuation]
          · simp [step, opens, enters, leaves, comma]

/-- What the scanner does with a character: the item goes on as long as a scan of it does. -/
theorem itemsFrom_cons (p : Spot) (c : Char) (cs current : List Char) :
    itemsFrom p.quote p.depth current (c :: cs) =
      match p.step false c with
      | some p' => itemsFrom p'.quote p'.depth (c :: current) cs
      | none =>
        if c = ')' then some ([Text.stripChars current.reverse], cs)
        else (itemsFrom none 0 [] cs).map fun (items, rest) => (Text.stripChars current.reverse :: items, rest) := by
  obtain ⟨quote, depth⟩ := p
  cases quote with
  | some q => simp [itemsFrom, step]
  | none =>
    cases opens : closing? c with
    | some q => simp [itemsFrom, step, opens]
    | none =>
      by_cases enters : c = '('
      · simp [itemsFrom, step, enters, closing?_punctuation]
      · by_cases leaves : c = ')'
        · cases depth <;> simp [itemsFrom, step, leaves, closing?_punctuation]
        · by_cases comma : c = ',' ∧ depth = 0
          · simp [itemsFrom, step, comma, closing?_punctuation]
          · simp [itemsFrom, step, opens, enters, leaves, comma]

/-- Where commas are allowed, a scan goes on as it does where they are not. -/
theorem step_of_step (h : p.step false c = some p') : p.step true c = some p' := by
  unfold step at h ⊢
  grind

theorem after?_of_after? (h : p.after? false cs = some p') : p.after? true cs = some p' := by
  induction cs generalizing p with
  | nil => exact h
  | cons c cs ih =>
    obtain ⟨p₁, first, others⟩ := Option.bind_eq_some_iff.mp h
    rw [after?_cons, step_of_step first]
    exact ih others

/-- A text behind which a scan stands is read as a part of the item. -/
theorem itemsFrom_after (h : p.after? false cs = some p') (current rest : List Char) :
    itemsFrom p.quote p.depth current (cs ++ rest) = itemsFrom p'.quote p'.depth (cs.reverse ++ current) rest := by
  induction cs generalizing p current with
  | nil =>
    obtain rfl := Option.some.inj h
    rfl
  | cons c cs ih =>
    obtain ⟨p₁, first, others⟩ := Option.bind_eq_some_iff.mp h
    rw [List.cons_append, itemsFrom_cons, first]
    simp only [ih others]
    simp

/-- What the scanner reads are texts that are scanned from outside of quotes and parentheses to outside of them. With
the commas between them, they are all that stands before the closing parenthesis. -/
theorem itemsFrom_eq_some {items : List Item} {tail : List Char}
    (h : itemsFrom p.quote p.depth current cs = some (items, tail))
    (before : outside.after? false current.reverse = some p) :
    (∀ item ∈ items, ∃ text, item = Text.stripChars text ∧ outside.after? false text = some outside) ∧
      ∃ inner, cs = inner ++ ')' :: tail ∧ p.after? true inner = some outside := by
  induction cs generalizing p current items with
  | nil => cases h
  | cons c cs ih =>
    rw [itemsFrom_cons] at h
    cases next : p.step false c with
    | some p₁ =>
      rw [next] at h
      have before₁ : outside.after? false (c :: current).reverse = some p₁ := by
        rw [List.reverse_cons, after?_append, before]
        simpa [after?_cons, after?_nil] using next
      obtain ⟨scanned, inner, rfl, closes⟩ := ih h before₁
      refine ⟨scanned, c :: inner, rfl, ?_⟩
      rw [after?_cons, step_of_step next]
      exact closes
    | none =>
      obtain ⟨rfl, punctuation⟩ := step_eq_none.mp next
      rw [next] at h
      rcases punctuation with rfl | ⟨rfl, -⟩
      · obtain ⟨rfl, rfl⟩ : [Text.stripChars current.reverse] = items ∧ cs = tail := by simpa using h
        exact ⟨by simpa using ⟨_, rfl, before⟩, [], rfl, rfl⟩
      · obtain ⟨others, read, rfl⟩ : ∃ others, itemsFrom none 0 [] cs = some (others, tail) ∧
            Text.stripChars current.reverse :: others = items := by simpa using h
        obtain ⟨scanned, inner, rfl, closes⟩ := @ih outside [] _ read rfl
        exact ⟨List.forall_mem_cons.mpr ⟨⟨_, rfl, before⟩, scanned⟩, ',' :: inner, rfl, closes⟩

/-- A text up to the parenthesis that closes it is read. -/
theorem itemsFrom_closed_by {inner : List Char} (h : p.after? true inner = some outside) (current tail : List Char) :
    ∃ items, itemsFrom p.quote p.depth current (inner ++ ')' :: tail) = some (items, tail) := by
  induction inner generalizing p current with
  | nil =>
    obtain rfl := Option.some.inj h
    exact ⟨_, itemsFrom_cons _ _ _ _⟩
  | cons c inner ih =>
    obtain ⟨p₁, first, others⟩ := Option.bind_eq_some_iff.mp h
    rw [List.cons_append, itemsFrom_cons]
    cases next : p.step false c with
    | some p' =>
      obtain rfl : p' = p₁ := Option.some.inj ((step_of_step next).symm.trans first)
      exact ih others _
    | none =>
      obtain ⟨rfl, punctuation⟩ := step_eq_none.mp next
      rcases punctuation with rfl | ⟨rfl, -⟩
      · cases first
      · obtain rfl : outside = p₁ := Option.some.inj first
        obtain ⟨items, read⟩ := ih others []
        exact ⟨_, Option.map_eq_some_iff.mpr ⟨_, read, rfl⟩⟩

/-! ## Blanks -/

theorem solid_of_closing? {q : Char} (h : closing? c = some q) : Text.isBlank q = false := by
  unfold closing? at h
  split at h
  · obtain rfl := Option.some.inj h
    rfl
  · split at h
    next quote =>
      obtain rfl := Option.some.inj h
      simp only [Bool.or_eq_true, decide_eq_true_eq] at quote
      rcases quote with (rfl | rfl) | rfl <;> rfl
    · cases h

/-- No place in a scan waits for a blank. -/
def Spot.IsSolid (p : Spot) : Prop :=
  ∀ q ∈ p.quote, Text.isBlank q = false

theorem outside_isSolid : outside.IsSolid := nofun

theorem IsSolid.step (h : p.IsSolid) (moved : p.step commas c = some p') : p'.IsSolid := by
  unfold Spot.step at moved
  intro q waits
  grind [Spot.IsSolid, solid_of_closing?]

theorem IsSolid.after? (h : p.IsSolid) (moved : p.after? commas cs = some p') : p'.IsSolid := by
  induction cs generalizing p with
  | nil =>
    obtain rfl := Option.some.inj moved
    exact h
  | cons c cs ih =>
    obtain ⟨p₁, first, others⟩ := Option.bind_eq_some_iff.mp moved
    exact ih (IsSolid.step h first) others

/-- A blank does not move a scan. -/
theorem step_blank (h : p.IsSolid) (blank : Text.isBlank c = true) : p.step commas c = some p := by
  have other {d : Char} (solid : Text.isBlank d = false) : c ≠ d := by
    rintro rfl
    cases blank.symm.trans solid
  obtain ⟨quote, depth⟩ := p
  cases quote with
  | some q => simp [step, other (h q rfl)]
  | none =>
    have opens : closing? c = none := by
      simp [closing?, @other '[' rfl, @other '\'' rfl, @other '"' rfl, @other '\x60' rfl]
    simp [step, opens, @other '(' rfl, @other ')' rfl, @other ',' rfl]

theorem after?_dropWhile (h : p.IsSolid) (cs : List Char) :
    p.after? commas (cs.dropWhile Text.isBlank) = p.after? commas cs := by
  induction cs with
  | nil => rfl
  | cons c cs ih =>
    rw [List.dropWhile_cons]
    split
    next blank => rw [ih, after?_cons, step_blank h blank, Option.bind_some]
    · rfl

theorem after?_trimmedRight (h : p.IsSolid) (cs : List Char) :
    p.after? commas (Text.trimmedRight Text.isBlank cs) = p.after? commas cs := by
  induction cs using List.reverseRecOn with
  | nil => rfl
  | append_singleton cs c ih =>
    unfold Text.trimmedRight at ih ⊢
    rw [List.reverse_append, List.reverse_singleton, List.singleton_append, List.dropWhile_cons]
    split
    next blank =>
      rw [ih, after?_append]
      cases moved : p.after? commas cs with
      | none => rfl
      | some p' => simp [after?_cons, after?_nil, step_blank (IsSolid.after? h moved) blank]
    · simp

/-- Blanks around a text do not matter to a scan. -/
theorem after?_stripChars (h : p.IsSolid) (cs : List Char) :
    p.after? commas (Text.stripChars cs) = p.after? commas cs := by
  rw [Text.stripChars, Text.trimmed, after?_trimmedRight h, after?_dropWhile h]

end Definition

namespace Text

/-- A text begins with no blank if it is trimmed. -/
theorem solid_head_stripChars (cs : List Char) : ∀ c ∈ (stripChars cs).head?, isBlank c = false := by
  intro c hc
  have start : stripChars cs <+: cs.dropWhile isBlank := List.rdropWhile_prefix isBlank _
  obtain ⟨rest, begins⟩ := List.head?_eq_some_iff.mp (Option.mem_def.mp hc)
  obtain ⟨after, whole⟩ := start
  have head := List.head?_dropWhile_not isBlank cs
  rw [← whole, begins] at head
  simpa using head

/-- What is trimmed is trimmed for good. -/
theorem stripChars_idem (cs : List Char) : stripChars (stripChars cs) = stripChars cs := by
  have front : (stripChars cs).dropWhile isBlank = stripChars cs := by
    cases trimmed : stripChars cs with
    | nil => rfl
    | cons c rest =>
      have solid : isBlank c = false := solid_head_stripChars cs c (by simp [trimmed])
      rw [List.dropWhile_cons, solid]
      rfl
  have back : trimmedRight isBlank (stripChars cs) = stripChars cs := List.rdropWhile_idempotent isBlank _
  rw [stripChars, Text.trimmed, front, back]

end Text

namespace Definition

open Spot

/-! ## Splitting -/

/-- The parenthesis before a text is closed in it, outside of quotes. -/
def Closes (body : List Char) : Prop :=
  ∃ inner tail, body = inner ++ ')' :: tail ∧ outside.after? true inner = some outside

/-- What the scanner reads are items, but for the empty texts. -/
theorem wellFormed_of_itemsFrom {body tail : List Char} {items : List Item}
    (h : itemsFrom none 0 [] body = some (items, tail)) : ∀ item ∈ items.filter (!·.isEmpty), item.WellFormed := by
  intro item within
  obtain ⟨within, filled⟩ := List.mem_filter.mp within
  obtain ⟨text, rfl, scanned⟩ := (itemsFrom_eq_some (p := outside) h rfl).1 item within
  refine ⟨by simpa using filled, Text.stripChars_idem text, ?_⟩
  rw [after?_stripChars outside_isSolid, scanned]

/-- A definition is split into items. -/
theorem wellFormed_of_split {sql : String} {d : Definition} (h : split sql = .ok d) :
    ∀ item ∈ d.items, item.WellFormed := by
  unfold split at h
  simp only at h
  split at h
  · cases h
  · split at h
    next read =>
      obtain rfl := Except.ok.inj h
      exact wellFormed_of_itemsFrom read
    · cases h

/-- Items that are listed are split into these. -/
theorem split_wellFormed {sql : String} {head tail : List Char} {items : List Item} (plainHead : '(' ∉ head)
    (wellFormed : ∀ item ∈ items, item.WellFormed) (text : sql.toList = head ++ '(' :: (listed items ++ ')' :: tail)) :
    split sql = .ok { head, items, tail } := by
  have trimmed : items.map Text.stripChars = items :=
    (List.map_congr_left fun item hi => (wellFormed item hi).trimmed).trans (List.map_id _)
  have filled : ∀ item ∈ items, (!item.isEmpty) = true := fun item hi => by simpa using (wellFormed item hi).filled
  rw [split_listed plainHead (fun item hi => itemsFrom_after (wellFormed item hi).scanned) text, trimmed,
    List.filter_eq_self.mpr filled]

/-- Splitting a list of items gives these back. A text is split behind its first parenthesis if that is closed outside
of quotes, and then into items; it has an error of its own if it is not, and another one without a parenthesis. -/
theorem split_joined :
    (∀ (sql : String) (head tail : List Char) (items : List Item), '(' ∉ head → (∀ item ∈ items, item.WellFormed) →
      sql.toList = head ++ '(' :: (listed items ++ ')' :: tail) → split sql = .ok { head, items, tail }) ∧
    (∀ sql : String, '(' ∉ sql.toList → split sql = .error (.definitionNotFound sql)) ∧
    ∀ (sql : String) (head body : List Char), '(' ∉ head → sql.toList = head ++ '(' :: body →
      (Closes body → ∃ items tail, split sql = .ok { head, items, tail } ∧ ∀ item ∈ items, item.WellFormed) ∧
      (¬ Closes body → split sql = .error (.definitionUnbalanced sql)) := by
  refine ⟨fun _ _ _ _ => split_wellFormed, fun sql missing => ?_,
    fun sql head body plainHead text => ⟨?_, fun open_ => ?_⟩⟩
  · have whole : sql.toList.takeWhile (· != '(') = sql.toList :=
      List.takeWhile_eq_self_iff.mpr fun c hc => bne_iff_ne.mpr (by rintro rfl; exact missing hc)
    unfold split
    simp [whole]
  · rintro ⟨inner, tail, rfl, closes⟩
    obtain ⟨items, read⟩ := itemsFrom_closed_by closes [] tail
    have read : itemsFrom none 0 [] (inner ++ ')' :: tail) = some (items, tail) := read
    exact ⟨_, tail, by rw [split_head plainHead text, read], wellFormed_of_itemsFrom read⟩
  · have unread : itemsFrom none 0 [] body = none := by
      cases read : itemsFrom none 0 [] body with
      | none => rfl
      | some parts =>
        obtain ⟨-, inner, rfl, closes⟩ := itemsFrom_eq_some (p := outside) read rfl
        exact absurd ⟨inner, parts.2, rfl, closes⟩ open_
    rw [split_head plainHead text, unread]

/-- Items with commas, parentheses and quotes in them, and a text after them. -/
theorem split_joined_nested :
    let items : List Item := ["\"a(\" int".toList, "b numeric(8, 2) default ',)'".toList,
      "[x, y] text check ([x, y] in ('(', ','))".toList, "primary key (\"a(\")".toList]
    let head := "CREATE TABLE \"t\" ".toList
    let tail := " strict".toList
    let sql := String.ofList (head ++ '(' :: (listed items ++ ')' :: tail))
    '(' ∉ head ∧ (∀ item ∈ items, item.WellFormed) ∧ sql.toList = head ++ '(' :: (listed items ++ ')' :: tail) ∧
      split sql = .ok { head, items, tail } := by
  intro items head tail sql
  have plainHead : '(' ∉ head := by decide
  have wellFormed : ∀ item ∈ items, item.WellFormed := by decide +kernel
  have text : sql.toList = head ++ '(' :: (listed items ++ ')' :: tail) := String.toList_ofList
  exact ⟨plainHead, wellFormed, text, split_joined.1 sql head tail items plainHead wellFormed text⟩

end Definition

end SqlBuilder
