import Mathlib.Data.List.Forall2
import SqlBuilder.Proofs.Fragment
import SqlBuilder.Proofs.Tandem
import SqlBuilder.Render.Compile

/-!
# Likenesses

What two statements that are rendered in tandem have in common, as a parameter: how the values that they
bind may differ, how their errors may, and what may occur in them at all. Rendered fragments are alike if
they have the same pieces up to the values bound, every piece is a proper one, and, where that is asked
for, neighbouring texts cannot run into each other.

* `Likeness`: the parameter.
* `Likeness.Fair`: what the words of the library and of the dialect have to be in it.
* `Likeness.Lax`, `Likeness.Lawful`: what it has to admit besides, so that statements may bind values anywhere.
* `Likeness.Frag`: fragments are alike, up to the values that they bind.
* `Likeness.Frag.joined`, `Likeness.Frag.refill` and their like: each way of putting fragments together
  keeps them alike.
-/

namespace SqlBuilder

open List (Forall₂)

/-- How two statements that are rendered in tandem may differ, and what may occur in them. -/
structure Likeness where
  env : Environment
  client : Client Value
  /-- how the values that two statements bind at one place may differ -/
  value : Value → Value → Prop
  /-- how their errors may differ -/
  error : Error → Error → Prop
  /-- the pieces that may occur -/
  piece : Piece → Prop
  /-- the characters that may occur in names -/
  char : Char → Prop
  /-- neighbouring texts may not run into each other -/
  spaced : Prop
  /-- the statements may be other than selects -/
  writes : Prop
  /-- the text of a fragment may stand a second time without its values -/
  freezes : Prop
  /-- operands may be of any kind -/
  liberal : Prop
  /-- a callback on one side may be the query that it makes on the other -/
  exchanges : Prop

/-- Two pieces differ in their values at most. -/
inductive Piece.Like (value : Value → Value → Prop) : Piece → Piece → Prop
  | same {piece : Piece} (silent : piece.binding? = none) : Piece.Like value piece piece
  | param {v w : Value} (h : value v w) : Piece.Like value (.param v) (.param w)
  | stray {v w : Value} (h : value v w) : Piece.Like value (.stray v) (.stray w)

/-- The words of the library, with the blanks around them. -/
def vocabulary : List String :=
  [", ", " ", "(", ")", ".", "*", "asc", "desc", "and", "or", "not ",
   "1 = 1", "1 = 0", " in ", " not in ", " between ", " not between ", " and ", " is null",
   " is not null", "exists ", "like", "::int", "::float", " on ", " using ",
   " as ", "materialized ", "not materialized ", "with ", "with recursive ", "select ", "distinct ",
   "distinct on ", "top (", ") ", "partition by ", "order by ", "from ", "where ", "having ",
   "group by ", " nulls first", " nulls last", " limit ", " offset ", " rows", " offset 0 rows",
   " fetch next ", " rows only", " for update", " for share", " for no key update", " for key share",
   " of ", " skip locked", " nowait",
   " with (UPDLOCK, ROWLOCK)", " with (UPDLOCK, ROWLOCK, READPAST)", " with (UPDLOCK, ROWLOCK, NOWAIT)",
   " with (HOLDLOCK, ROWLOCK)", " with (HOLDLOCK, ROWLOCK, READPAST)",
   " with (HOLDLOCK, ROWLOCK, NOWAIT)",
   "insert into ", "insert ignore into ", "upsert into ", "update ", "delete from ", " set ", " = ",
   " + ", " - ", " values ", "DEFAULT", " where ", " returning ", " output ", "inserted.", "deleted.",
   " on conflict", " do nothing", " do update set ", " = excluded.", " on duplicate key update ",
   " = values("]

/-- The words of a window of rows that stand in for missing ones. -/
def Paging.words : Paging → List String
  | .limitOffset (some stand) => [" limit " ++ stand]
  | .offsetFetch _ (some stand) => [" order by " ++ stand]
  | _ => []

/-- The words of a dialect, with the blanks around them. -/
def Capabilities.words (c : Capabilities) : List String :=
  [c.aliasKeyword, c.jsonPath.function ++ "(", c.ilikeOperator, " " ++ c.emptyInsert] ++
    c.operators.map Scope.escapedOperator ++ c.jsonPath.textOperator.toList ++
      c.jsonPath.unquoteFunction.toList ++ c.paging.words

namespace Likeness

variable (D : Likeness)

/-- What the dialect can do. -/
abbrev capabilities : Capabilities :=
  D.client.capabilities

/-- A name all of whose characters may occur. -/
def Spelled (text : String) : Prop :=
  ∀ c ∈ text.toList, D.char c

/-- A word that may stand before anything. -/
def Opening (w : String) : Prop :=
  D.piece (.word w) ∧ (D.spaced → partsAfter w = true)

/-- A word that may stand after anything. -/
def Closing (w : String) : Prop :=
  D.piece (.word w) ∧ (D.spaced → partsBefore w = true)

/-- A word that may stand between anything. -/
def Joint (w : String) : Prop :=
  D.Opening w ∧ D.Closing w

/-- A template with one slot that may be filled with anything, or any template at all. -/
def Slotted (parts : List (Text.Lexeme Unit)) : Prop :=
  D.liberal ∨ ∃ before after : List Char,
    parts = before.map .plain ++ .token () :: after.map .plain ∧
      D.Opening (String.ofList before) ∧ D.piece (.word (String.ofList after)) ∧
        (D.spaced → after ≠ [] → partsBefore (String.ofList after) = true)

/-- The words of the dialect may occur where it has them. -/
structure Speaks : Prop where
  aliasKeyword : D.Joint D.capabilities.aliasKeyword
  operators : ∀ token ∈ D.capabilities.operators, D.piece (.word (Scope.escapedOperator token))
  extract : D.Opening (D.capabilities.jsonPath.function ++ "(")
  asText : ∀ operator ∈ D.capabilities.jsonPath.textOperator, D.Closing operator
  unquote : ∀ function ∈ D.capabilities.jsonPath.unquoteFunction, D.piece (.word function)
  ilike : D.piece (.word D.capabilities.ilikeOperator)
  emptyInsert : D.piece (.word (" " ++ D.capabilities.emptyInsert))
  limit : ∀ stand, D.capabilities.paging = .limitOffset (some stand) →
    D.piece (.word (" limit " ++ stand))
  order : ∀ useTop stand, D.capabilities.paging = .offsetFetch useTop (some stand) →
    D.piece (.word (" order by " ++ stand))
  truncate : D.writes → ∀ template parts, D.capabilities.truncate = .text template →
    Template.braced "table" template = .ok parts → D.Slotted parts

/-- A dialect all of whose words may occur. -/
theorem speaks_of_words (words : ∀ w ∈ D.capabilities.words, D.piece (.word w))
    (keyword : D.spaced → partsBefore D.capabilities.aliasKeyword = true ∧
      partsAfter D.capabilities.aliasKeyword = true)
    (operator : D.spaced → ∀ w ∈ D.capabilities.jsonPath.textOperator, partsBefore w = true)
    (truncate : D.writes → ∀ template parts, D.capabilities.truncate = .text template →
      Template.braced "table" template = .ok parts → D.Slotted parts) : D.Speaks where
  aliasKeyword :=
    have word := words _ (by simp [Capabilities.words])
    ⟨⟨word, fun spaced => (keyword spaced).2⟩, ⟨word, fun spaced => (keyword spaced).1⟩⟩
  operators token known :=
    words _ (by simp only [Capabilities.words, List.mem_append, List.mem_map]; grind)
  extract := ⟨words _ (by simp [Capabilities.words]), fun _ => partsAfter_append rfl⟩
  asText w known :=
    ⟨words _ (by simp [Capabilities.words, Option.mem_def.mp known]), fun spaced => operator spaced w known⟩
  unquote w known := words _ (by simp [Capabilities.words, Option.mem_def.mp known])
  ilike := words _ (by simp [Capabilities.words])
  emptyInsert := words _ (by simp [Capabilities.words])
  limit stand known := words _ (by simp [Capabilities.words, known, Paging.words])
  order useTop stand known := words _ (by simp [Capabilities.words, known, Paging.words])
  truncate := truncate

/-- What a likeness has to say about values, errors, names and the words of the library. -/
structure Fair : Prop extends D.Speaks where
  value_refl : ∀ v, D.value v v
  value_undefined : ∀ {v w}, D.value v w → v.containsUndefined = w.containsUndefined
  error_refl : ∀ e, D.error e e
  error_bounds : ∀ {e e' column}, D.error e e' → (e = .boundsNeeded column ↔ e' = .boundsNeeded column)
  words : ∀ w ∈ vocabulary, D.piece (.word w)
  name : ∀ {segment}, D.Spelled segment → D.piece (.name D.capabilities.quoting segment)
  integer : ∀ n : Int, D.piece (.number (toString n))
  param : ∀ v, D.piece (.param v)
  undefined : D.piece (.stray .undefined)
  markChars : ∀ c ∈ ['.', ' ', 'a', 's'], D.char c
  hook : D.liberal ∨ D.client.wrapIdentifier = none
  unhooked : D.exchanges → D.client.wrapIdentifier = none
  anyPiece : D.liberal → ∀ piece, D.piece piece
  anyChar : D.liberal → ∀ c, D.char c
  unspaced : D.liberal → ¬ D.spaced

/-- Values may go without their text. -/
def Drops : Prop :=
  ∀ v, D.piece (.stray v)

/-- Placeholders may go without values. -/
def Repeats : Prop :=
  D.piece (.word "?")

/-- Values may go without their text where there are writes, and placeholders without values where fragments
stand a second time. -/
structure Lax : Prop where
  stray : D.writes → D.Drops
  mark : D.freezes → D.Repeats

/-- What a likeness has to say about all of its statements, whatever they bind. -/
structure Lawful : Prop extends D.Fair, D.Lax

/-! ## Fragments -/

/-- Two fragments have the same pieces up to the values bound, and proper ones. -/
structure Frag (a b : Sql) : Prop where
  like : Forall₂ (Piece.Like D.value) a b
  proper : ∀ piece ∈ a, D.piece piece
  spaced : D.spaced → a.Spaced

/-- Fragments that may stand after anything. -/
structure Tail (a b : Sql) : Prop extends D.Frag a b where
  parts : D.spaced → a.PartsBefore

/-- Fragments that may stand before anything. -/
structure Head (a b : Sql) : Prop extends D.Frag a b where
  parts : D.spaced → a.PartsAfter

/-- Two compilations render alike fragments, and bind what those hold. -/
abbrev RendersSql (c c' : Compile Sql) : Prop :=
  Tandem D.error c c' (Yields D.Frag Sql.bindings)

/-- Two compilations render alike fragments that may stand after anything. -/
abbrev RendersTail (c c' : Compile Sql) : Prop :=
  Tandem D.error c c' (Yields D.Tail Sql.bindings)

/-- Two compilations render alike fragments that may stand before anything. -/
abbrev RendersHead (c c' : Compile Sql) : Prop :=
  Tandem D.error c c' (Yields D.Head Sql.bindings)

variable {D} {a a' b b' : Sql} {as as' : List Sql} {w : String}

theorem Fair.closing (law : D.Fair) (known : w ∈ vocabulary) (parts : partsBefore w = true) :
    D.Closing w :=
  ⟨law.words w known, fun _ => parts⟩

theorem Fair.opening (law : D.Fair) (known : w ∈ vocabulary) (parts : partsAfter w = true) :
    D.Opening w :=
  ⟨law.words w known, fun _ => parts⟩

theorem Fair.joint (law : D.Fair) (known : w ∈ vocabulary) (before : partsBefore w = true)
    (after : partsAfter w = true) : D.Joint w :=
  ⟨law.opening known after, law.closing known before⟩

theorem Frag.texts (h : D.Frag a a') : a.texts = a'.texts := by
  obtain ⟨like, -, -⟩ := h
  induction like with
  | nil => rfl
  | cons first _ ih =>
    unfold Sql.texts at ih ⊢
    cases first <;> simp [List.filter_cons, Piece.text, ih]

theorem Frag.text (h : D.Frag a a') : a.text = a'.text := by
  obtain ⟨like, -, -⟩ := h
  unfold Sql.text
  congr 1
  induction like with
  | nil => rfl
  | cons first _ ih => cases first <;> simp [Piece.text, ih]

theorem Frag.isBlank (h : D.Frag a a') : a.isBlank = a'.isBlank := by
  rw [Bool.eq_iff_iff, Sql.isBlank_iff, Sql.isBlank_iff, h.texts]

theorem Frag.bindings (h : D.Frag a a') : Forall₂ D.value a.bindings a'.bindings := by
  obtain ⟨like, -, -⟩ := h
  induction like with
  | nil => exact .nil
  | cons first _ ih =>
    rw [Sql.bindings_cons, Sql.bindings_cons]
    cases first with
    | same silent => simpa [silent] using ih
    | param h => exact .cons h ih
    | stray h => exact .cons h ih

theorem Frag.length_bindings (h : D.Frag a a') : a.bindings.length = a'.bindings.length :=
  h.bindings.length_eq

theorem Frag.nil : D.Frag [] [] :=
  ⟨.nil, by simp, fun _ => Sql.spaced_nil⟩

theorem Frag.piece {piece : Piece} (proper : D.piece piece) (silent : piece.binding? = none) :
    D.Frag [piece] [piece] :=
  ⟨.cons (.same silent) .nil, by simpa using proper, fun _ => Sql.spaced_single _⟩

theorem Frag.word (h : D.piece (.word w)) : D.Frag (Sql.word w) (Sql.word w) :=
  .piece h rfl

theorem Frag.param {v v' : Value} (proper : D.piece (.param v)) (h : D.value v v') :
    D.Frag [.param v] [.param v'] :=
  ⟨.cons (.param h) .nil, by simpa using proper, fun _ => Sql.spaced_single _⟩

theorem Frag.append (ha : D.Frag a a') (hb : D.Frag b b')
    (border : D.spaced → a.PartsAfter ∨ b.PartsBefore) : D.Frag (a ++ b) (a' ++ b') where
  like := List.rel_append ha.like hb.like
  proper := fun piece h => (List.mem_append.mp h).elim (ha.proper piece) (hb.proper piece)
  spaced := fun spaced => (ha.spaced spaced).append (hb.spaced spaced) (border spaced)

theorem Frag.append_tail (ha : D.Frag a a') (hb : D.Tail b b') : D.Frag (a ++ b) (a' ++ b') :=
  ha.append hb.toFrag fun spaced => .inr (hb.parts spaced)

theorem Head.append_frag (ha : D.Head a a') (hb : D.Frag b b') : D.Frag (a ++ b) (a' ++ b') :=
  ha.toFrag.append hb fun spaced => .inl (ha.parts spaced)

theorem Tail.nil : D.Tail [] [] :=
  ⟨.nil, fun _ => Sql.partsBefore_nil⟩

theorem Head.nil : D.Head [] [] :=
  ⟨.nil, fun _ => Sql.partsAfter_nil⟩

theorem Tail.append (ha : D.Tail a a') (hb : D.Tail b b') : D.Tail (a ++ b) (a' ++ b') :=
  ⟨ha.toFrag.append_tail hb, fun spaced => (ha.parts spaced).append (hb.parts spaced)⟩

theorem Head.append (ha : D.Head a a') (hb : D.Head b b') : D.Head (a ++ b) (a' ++ b') :=
  ⟨ha.append_frag hb.toFrag, fun spaced => (ha.parts spaced).append (hb.parts spaced)⟩

theorem Opening.head (h : D.Opening w) : D.Head (Sql.word w) (Sql.word w) :=
  ⟨.word h.1, fun spaced => Sql.partsAfter_word (h.2 spaced) []⟩

theorem Closing.tail (h : D.Closing w) : D.Tail (Sql.word w) (Sql.word w) where
  toFrag := .word h.1
  parts := fun spaced => by simpa using Sql.partsBefore_word (h.2 spaced) []

/-- A fragment after a word. -/
theorem Frag.after_word (h : D.Opening w) (ha : D.Frag a a') :
    D.Frag (Sql.word w ++ a) (Sql.word w ++ a') :=
  h.head.append_frag ha

/-- A fragment before a word. -/
theorem Frag.before_word (ha : D.Frag a a') (h : D.Closing w) :
    D.Frag (a ++ Sql.word w) (a' ++ Sql.word w) :=
  ha.append_tail h.tail

/-- A fragment after a word that may stand after anything. -/
theorem Frag.tail_after (h : D.Joint w) (ha : D.Frag a a') :
    D.Tail (Sql.word w ++ a) (Sql.word w ++ a') :=
  ⟨ha.after_word h.1, fun spaced => Sql.partsBefore_word (h.2.2 spaced) a⟩

/-- A fragment before a word that may stand before anything. -/
theorem Frag.head_before (ha : D.Frag a a') (h : D.Joint w) :
    D.Head (a ++ Sql.word w) (a' ++ Sql.word w) :=
  ⟨ha.before_word h.2, fun spaced => Sql.partsAfter_word (h.1.2 spaced) a⟩

/-- Two fragments with a word between them. -/
theorem Frag.between (ha : D.Frag a a') (h : D.Joint w) (hb : D.Frag b b') :
    D.Frag (a ++ Sql.word w ++ b) (a' ++ Sql.word w ++ b') :=
  (ha.head_before h).append_frag hb

theorem Frag.when_head (c : Bool) (h : D.Opening w) :
    D.Head (Sql.when c (Sql.word w)) (Sql.when c (Sql.word w)) := by
  cases c
  · exact .nil
  · exact h.head

theorem Frag.when_tail (c : Bool) (h : c = true → D.Closing w) :
    D.Tail (Sql.when c (Sql.word w)) (Sql.when c (Sql.word w)) := by
  cases c
  · exact .nil
  · exact (h rfl).tail

theorem Fair.parens (law : D.Fair) (ha : D.Frag a a') : D.Frag a.parens a'.parens :=
  (ha.after_word (law.opening (w := "(") (by simp [vocabulary]) rfl)).before_word
    (law.closing (by simp [vocabulary]) rfl)

theorem Fair.parens_tail (law : D.Fair) (ha : D.Frag a a') : D.Tail a.parens a'.parens where
  toFrag := law.parens ha
  parts := fun _ => by
    simpa [Sql.parens] using Sql.partsBefore_word (w := "(") rfl (a ++ Sql.word ")")

theorem Fair.parens_head (law : D.Fair) (ha : D.Frag a a') : D.Head a.parens a'.parens where
  toFrag := law.parens ha
  parts := fun _ => Sql.partsAfter_word rfl _

theorem Frag.joined (h : D.Joint w) (hs : Forall₂ D.Frag as as') :
    D.Frag (Sql.joined w as) (Sql.joined w as') := by
  induction hs with
  | nil => exact .nil
  | cons first rest ih =>
    cases rest with
    | nil => exact first
    | cons => exact first.between h ih

theorem Fair.commas (law : D.Fair) (hs : Forall₂ D.Frag as as') :
    D.Frag (Sql.commas as) (Sql.commas as') :=
  .joined (law.joint (by simp [vocabulary]) rfl rfl) hs

theorem Frag.separated (h : D.Joint w) (hs : Forall₂ D.Frag as as') :
    D.Frag (Sql.separated w as) (Sql.separated w as') := by
  suffices H : ∀ done done' : Sql, D.Frag done done' → D.Frag
      (as.foldl
        (fun done sql => if done.isBlank || sql.isBlank then done ++ sql else done ++ Sql.word w ++ sql)
        done)
      (as'.foldl
        (fun done sql => if done.isBlank || sql.isBlank then done ++ sql else done ++ Sql.word w ++ sql)
        done')
    from H [] [] .nil
  induction hs with
  | nil => exact fun done done' hd => hd
  | @cons a a' _ _ ha _ ih =>
    intro done done' hd
    refine ih _ _ ?_
    simp only [← hd.isBlank, ← ha.isBlank]
    by_cases blank : (done.isBlank || a.isBlank) = true
    · rw [if_pos blank, if_pos blank]
      refine hd.append ha fun _ => ?_
      rcases Bool.or_eq_true _ _ ▸ blank with blank | blank
      · exact .inl (by simp [Sql.PartsAfter, (Sql.isBlank_iff done).mp blank])
      · exact .inr (by simp [Sql.PartsBefore, (Sql.isBlank_iff a).mp blank])
    · rw [if_neg blank, if_neg blank]
      exact hd.between h ha

theorem Frag.after (h : D.Opening w) (ha : D.Frag a a') : D.Frag (a.after w) (a'.after w) := by
  unfold Sql.after
  rw [← ha.isBlank]
  split
  · exact ha
  · exact ha.after_word h

theorem Frag.after_tail (h : D.Joint w) (ha : D.Frag a a') : D.Tail (a.after w) (a'.after w) := by
  refine ⟨ha.after h.1, fun spaced => ?_⟩
  unfold Sql.after
  split
  next blank => simp [Sql.PartsBefore, (Sql.isBlank_iff a).mp blank]
  next => exact Sql.partsBefore_word (h.2.2 spaced) a

theorem Frag.frozen (ha : D.Frag a a') (kept : D.Repeats ∨ a.bindings = []) : D.Frag a.frozen a'.frozen := by
  refine ⟨?_, ?_, fun spaced => ?_⟩
  · clear kept
    obtain ⟨like, -, -⟩ := ha
    induction like with
    | nil => exact .nil
    | @cons p _ _ _ first _ ih =>
      cases first with
      | same silent =>
        cases p <;> first | exact .cons (.same rfl) ih | simp [Piece.binding?] at silent
      | param _ => exact .cons (.same rfl) ih
      | stray _ => exact ih
  · intro piece hp
    obtain ⟨origin, ho, hpo⟩ := List.mem_filterMap.mp hp
    have proper := ha.proper origin ho
    cases origin with
    | param v =>
      cases hpo
      refine kept.resolve_right fun none => ?_
      have bound : v ∈ a.bindings := List.mem_filterMap.mpr ⟨_, ho, rfl⟩
      simp [none] at bound
    | stray v => cases hpo
    | _ =>
      cases hpo
      exact proper
  · unfold Sql.Spaced
    rw [Sql.texts_frozen]
    exact ha.spaced spaced

theorem Frag.strayed (ha : D.Frag a a') (kept : D.Drops ∨ a.bindings = []) : D.Tail a.strayed a'.strayed where
  like := by
    have values := ha.bindings
    unfold Sql.strayed
    generalize a.bindings = vs, a'.bindings = vs' at values
    induction values with
    | nil => exact .nil
    | cons hv _ ih => exact .cons (.stray hv) ih
  proper := by
    intro piece hp
    obtain ⟨v, hv, rfl⟩ := List.mem_map.mp hp
    rcases kept with drops | none
    · exact drops v
    · simp [none] at hv
  spaced := fun _ => by simp [Sql.Spaced]
  parts := fun _ => by simp [Sql.PartsBefore]

theorem Fair.refill (law : D.Fair) (drops : D.Drops) {vs vs' : List Value} (hv : Forall₂ D.value vs vs')
    (ha : D.Frag a a') : D.Frag (Sql.refill vs a) (Sql.refill vs' a') := by
  refine ⟨?_, ?_, fun spaced => ?_⟩
  · obtain ⟨like, -, -⟩ := ha
    induction like generalizing vs vs' with
    | nil =>
      simp only [Sql.refill]
      induction hv with
      | nil => exact .nil
      | cons hv _ ih => exact .cons (.stray hv) ih
    | cons first _ ih =>
      cases first with
      | same silent =>
        rw [Sql.refill_cons silent, Sql.refill_cons silent]
        exact .cons (.same silent) (ih hv)
      | param h =>
        cases hv with
        | nil => exact .cons (.param h) (ih .nil)
        | cons first rest => exact .cons (.param first) (ih rest)
      | stray _ =>
        cases hv with
        | nil => exact ih .nil
        | cons first rest => exact ih (.cons first rest)
  · have proper := ha.proper
    clear hv ha
    induction a generalizing vs with
    | nil =>
      intro piece hp
      rw [Sql.refill] at hp
      obtain ⟨v, -, rfl⟩ := List.mem_map.mp hp
      exact drops v
    | cons first rest ih =>
      have rest_proper {vs : List Value} := @ih vs fun piece hp => proper piece (.tail _ hp)
      cases first with
      | param v =>
        cases vs with
        | nil => exact List.forall_mem_cons.mpr ⟨proper _ (.head _), rest_proper⟩
        | cons value values => exact List.forall_mem_cons.mpr ⟨law.param value, rest_proper⟩
      | stray v => cases vs <;> exact rest_proper
      | _ =>
        rw [Sql.refill_cons rfl]
        exact List.forall_mem_cons.mpr ⟨proper _ (.head _), rest_proper⟩
  · unfold Sql.Spaced
    rw [Sql.texts_refill]
    exact ha.spaced spaced

end Likeness

end SqlBuilder
