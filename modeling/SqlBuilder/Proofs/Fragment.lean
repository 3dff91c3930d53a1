import Mathlib.Data.List.Chain
import SqlBuilder.Proofs.Digits
import SqlBuilder.Sql

/-!
# The texts and the values of fragments

What the ways of putting fragments together do to the values that they hold and to the texts of their
pieces, and when the texts of neighbours cannot run into each other.

* `Sql.texts`: the texts of the pieces that have one; they make up the text of a fragment.
* `Sql.Spaced`: of two neighbouring texts, one has a blank or a mark of punctuation at the border.
* `Sql.bindings_refill`: a fragment that is filled again holds the values that it is filled with.
-/

namespace SqlBuilder

/-- Whether a character parts what stands on its two sides. -/
def parts (c : Char) : Bool :=
  c == ' ' || c == '(' || c == ')' || c == ',' || c == '.'

/-- Whether a text begins with a character that parts. -/
def partsBefore (text : String) : Bool :=
  text.toList.head?.any parts

/-- Whether a text ends with a character that parts. -/
def partsAfter (text : String) : Bool :=
  text.toList.getLast?.any parts

theorem partsAfter_append {a b : String} (h : partsAfter b = true) : partsAfter (a ++ b) = true := by
  unfold partsAfter at h ⊢
  rw [String.toList_append, List.getLast?_append]
  cases last : b.toList.getLast? with
  | none => simp [last] at h
  | some c => simpa [last] using h

theorem partsBefore_append {a b : String} (h : partsBefore a = true) : partsBefore (a ++ b) = true := by
  unfold partsBefore at h ⊢
  rw [String.toList_append]
  cases chars : a.toList with
  | nil => simp [chars] at h
  | cons c cs => simpa [chars] using h

namespace Sql

/-! ## Values -/

@[simp] theorem bindings_nil : bindings [] = [] := rfl

@[simp] theorem bindings_append (a b : Sql) : bindings (a ++ b) = bindings a ++ bindings b := by
  simp [bindings]

@[simp] theorem bindings_word (w : String) : bindings (word w) = [] := rfl

@[simp] theorem bindings_raw (text : String) : bindings (raw text) = [] := rfl

@[simp] theorem bindings_parens (sql : Sql) : bindings (parens sql) = bindings sql := by
  simp [parens]

@[simp] theorem bindings_when_word (c : Bool) (w : String) : bindings (when c (word w)) = [] := by
  cases c <;> rfl

@[simp] theorem bindings_after (keyword : String) (sql : Sql) :
    bindings (after keyword sql) = bindings sql := by
  unfold after
  split <;> simp

@[simp] theorem bindings_joined (separator : String) (sqls : List Sql) :
    bindings (joined separator sqls) = sqls.flatMap bindings := by
  induction sqls with
  | nil => rfl
  | cons sql rest ih =>
    cases rest with
    | nil => simp [joined]
    | cons => simp [joined, ih]

@[simp] theorem bindings_commas (sqls : List Sql) : bindings (commas sqls) = sqls.flatMap bindings :=
  bindings_joined _ _

@[simp] theorem bindings_flatten (sqls : List Sql) :
    bindings sqls.flatten = sqls.flatMap bindings := by
  induction sqls with
  | nil => rfl
  | cons sql rest ih => simp [ih]

@[simp] theorem bindings_separated (separator : String) (sqls : List Sql) :
    bindings (separated separator sqls) = sqls.flatMap bindings := by
  suffices h : ∀ done : Sql, bindings (sqls.foldl
      (fun done sql => if done.isBlank || sql.isBlank then done ++ sql else done ++ word separator ++ sql)
      done) = bindings done ++ sqls.flatMap bindings from by simpa [separated] using h []
  induction sqls with
  | nil => simp
  | cons sql rest ih =>
    intro done
    rw [List.foldl_cons, ih]
    split <;> simp

@[simp] theorem bindings_strays (values : List Value) : bindings (values.map .stray) = values := by
  simp only [bindings, List.filterMap_map]
  exact List.filterMap_some

@[simp] theorem bindings_strayed (sql : Sql) : bindings (strayed sql) = bindings sql :=
  bindings_strays _

@[simp] theorem bindings_frozen (sql : Sql) : bindings (frozen sql) = [] := by
  simp only [bindings, frozen, List.filterMap_filterMap, List.filterMap_eq_nil_iff]
  rintro (_ | _) - <;> rfl

@[simp] theorem bindings_spelled (text : String) (template : List (Text.Lexeme Unit)) :
    bindings (spelled text template) = [] := rfl

@[simp] theorem bindings_filled (sql : Sql) (template : List (Text.Lexeme Unit)) :
    bindings (filled sql template) = bindings sql := by
  simp only [filled]
  split <;> simp

theorem bindings_cons (piece : Piece) (sql : Sql) :
    bindings (piece :: sql) = piece.binding?.toList ++ bindings sql := by
  cases h : piece.binding? <;> simp [bindings, h]

/-- A piece that binds nothing stays when a fragment is filled. -/
theorem refill_cons {piece : Piece} (h : piece.binding? = none) (values : List Value) (sql : Sql) :
    refill values (piece :: sql) = piece :: refill values sql := by
  cases piece with
  | param _ => exact absurd h (by simp [Piece.binding?])
  | stray _ => exact absurd h (by simp [Piece.binding?])
  | _ => cases values <;> rfl

/-- Values that are at least as many as the placeholders of a fragment are what it holds when it is
filled with them. -/
theorem bindings_refill {values : List Value} {sql : Sql}
    (enough : (bindings sql).length ≤ values.length) : bindings (refill values sql) = values := by
  induction sql generalizing values with
  | nil => rw [refill, bindings_strays]
  | cons piece rest ih =>
    cases piece with
    | param v =>
      cases values with
      | nil => simp [bindings_cons, Piece.binding?] at enough
      | cons value values =>
        simp only [refill, bindings_cons, Piece.binding?, Option.toList_some, List.cons_append,
          List.nil_append]
        rw [ih (by simpa [bindings_cons, Piece.binding?] using enough)]
    | stray v =>
      have fewer : (bindings rest).length ≤ values.length := by
        simp only [bindings_cons, Piece.binding?, Option.toList_some, List.length_append,
          List.length_singleton] at enough
        omega
      cases values <;> simpa only [refill] using ih fewer
    | _ =>
      rw [refill_cons rfl, bindings_cons, ih (by simpa [bindings_cons, Piece.binding?] using enough)]
      rfl

/-! ## Texts -/

/-- The texts of the pieces that have one. -/
def texts (sql : Sql) : List String :=
  (sql.map Piece.text).filter fun text => !text.isEmpty

@[simp] theorem texts_nil : texts [] = [] := rfl

@[simp] theorem texts_append (a b : Sql) : texts (a ++ b) = texts a ++ texts b := by
  simp [texts]

theorem isBlank_iff (sql : Sql) : sql.isBlank = true ↔ sql.texts = [] := by
  simp [isBlank, texts, List.filter_eq_nil_iff]

theorem texts_frozen (sql : Sql) : texts (frozen sql) = texts sql := by
  induction sql with
  | nil => rfl
  | cons piece rest ih =>
    cases piece <;> simp_all [texts, frozen, Piece.text, List.filter_cons]

theorem texts_refill (values : List Value) (sql : Sql) : texts (refill values sql) = texts sql := by
  induction sql generalizing values with
  | nil => simp [texts, refill, Piece.text]
  | cons piece rest ih =>
    have step (p : Piece) (sql : Sql) : texts (p :: sql) = texts [p] ++ texts sql :=
      texts_append [p] sql
    cases piece with
    | param v =>
      cases values with
      | nil =>
        change texts (.param v :: refill [] rest) = _
        rw [step, ih, ← step]
      | cons value values => rw [refill, step, ih, step (.param v)]; rfl
    | stray v => cases values <;> (rw [refill, ih, step (.stray v)]; rfl)
    | _ => rw [refill_cons rfl, step, ih, ← step]

@[simp] theorem texts_strayed (sql : Sql) : texts (strayed sql) = [] := by
  simp [texts, strayed, Piece.text, List.filter_eq_nil_iff]

/-! ## Borders -/

/-- Of two neighbouring texts, one parts at the border. -/
def Spaced (sql : Sql) : Prop :=
  sql.texts.IsChain fun text next => partsAfter text = true ∨ partsBefore next = true

/-- The first text parts at its beginning, if there is one. -/
def PartsBefore (sql : Sql) : Prop :=
  ∀ text ∈ sql.texts.head?, partsBefore text = true

/-- The last text parts at its end, if there is one. -/
def PartsAfter (sql : Sql) : Prop :=
  ∀ text ∈ sql.texts.getLast?, partsAfter text = true

theorem spaced_nil : Spaced [] := List.isChain_nil

theorem spaced_single (piece : Piece) : Spaced [piece] := by
  unfold Spaced texts
  cases h : piece.text.isEmpty <;> simp [h]

theorem Spaced.append {a b : Sql} (ha : a.Spaced) (hb : b.Spaced)
    (border : a.PartsAfter ∨ b.PartsBefore) : (a ++ b).Spaced := by
  unfold Spaced
  rw [texts_append, List.isChain_append]
  refine ⟨ha, hb, fun x hx y hy => ?_⟩
  rcases border with border | border
  · exact .inl (border x hx)
  · exact .inr (border y hy)

theorem partsBefore_nil : PartsBefore [] := by
  simp [PartsBefore]

theorem partsAfter_nil : PartsAfter [] := by
  simp [PartsAfter]

theorem PartsBefore.append {a b : Sql} (ha : a.PartsBefore) (hb : b.PartsBefore) :
    (a ++ b).PartsBefore := by
  intro text h
  rw [texts_append] at h
  cases ht : a.texts with
  | nil => exact hb text (by simpa [ht] using h)
  | cons first rest => exact ha text (by simpa [ht] using h)

theorem PartsAfter.append {a b : Sql} (ha : a.PartsAfter) (hb : b.PartsAfter) :
    (a ++ b).PartsAfter := by
  intro text h
  rw [texts_append] at h
  cases ht : b.texts.getLast? with
  | none =>
    rw [List.getLast?_eq_none_iff] at ht
    exact ha text (by simpa [ht] using h)
  | some last => exact hb text (by rw [List.getLast?_append, ht] at h; simpa [ht] using h)

theorem texts_word {w : String} (h : w.isEmpty = false) : texts (word w) = [w] := by
  simp [texts, word, Piece.text, h]

theorem partsBefore_of_text {sql : Sql} (h : SqlBuilder.partsBefore sql.text = true) :
    sql.PartsBefore := by
  intro text ht
  induction sql with
  | nil => simp at ht
  | cons piece rest ih =>
    have split : Sql.text (piece :: rest) = piece.text ++ Sql.text rest := by simp [Sql.text]
    rw [split] at h
    cases empty : piece.text.isEmpty with
    | true =>
      have none : piece.text = "" := by simpa using empty
      refine ih (by simpa [none] using h) ?_
      simpa [texts, none] using ht
    | false =>
      have first : text = piece.text := by simpa [texts, empty, eq_comm] using ht
      have nonempty : piece.text.toList ≠ [] := by simpa using empty
      rw [first]
      cases chars : piece.text.toList with
      | nil => exact absurd chars nonempty
      | cons c cs => simpa [SqlBuilder.partsBefore, String.toList_append, chars] using h

/-- A word that parts before what it begins. -/
theorem partsBefore_word {w : String} (h : partsBefore w = true) (sql : Sql) :
    (word w ++ sql).PartsBefore := by
  have nonempty : w.isEmpty = false := by
    by_contra empty
    rw [Bool.not_eq_false, String.isEmpty_iff] at empty
    simp [empty, SqlBuilder.partsBefore] at h
  intro text ht
  simp only [texts_append, texts_word nonempty, List.cons_append, List.head?_cons] at ht
  obtain rfl : w = text := by simpa using ht
  exact h

/-- A word that parts after what it ends. -/
theorem partsAfter_word {w : String} (h : partsAfter w = true) (sql : Sql) :
    (sql ++ word w).PartsAfter := by
  have nonempty : w.isEmpty = false := by
    by_contra empty
    rw [Bool.not_eq_false, String.isEmpty_iff] at empty
    simp [empty, SqlBuilder.partsAfter] at h
  intro text ht
  simp only [texts_append, texts_word nonempty, List.getLast?_append, List.getLast?_singleton] at ht
  obtain rfl : w = text := by simpa using ht
  exact h

end Sql

end SqlBuilder
