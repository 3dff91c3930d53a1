import SqlBuilder.Placeholder
import SqlBuilder.Proofs.Levels

/-!
# Placeholders and their values

A compiled select has as many placeholders as values, and each placeholder stands where its value would
stand if values were written into the text. The values come in the order in which they are bound, from
whichever clause, so that the list that all clauses share is the list of the statement.

* `Sql.written`: the text of a fragment with each value in its place.
* `replaceMarks`: a text with the placeholders replaced from the left.
* `Likeness.marked`: what a select may contain so that its placeholders can be told from other text.
* `Query.compile_placeholders`: the placeholders and the values of a compiled select.
-/

namespace SqlBuilder

open List (Forall₂)

/-! ## Placeholders in texts -/

/-- The question marks of a text, but for those after a backslash, replaced from the left. -/
def replaceMarks : List String → List Char → List Char
  | _, [] => []
  | texts, '\\' :: '?' :: cs => '\\' :: '?' :: replaceMarks texts cs
  | text :: texts, '?' :: cs => text.toList ++ replaceMarks texts cs
  | texts, c :: cs => c :: replaceMarks texts cs

/-- Whether the question marks of a text stand after backslashes, and the backslashes before them. -/
def markless : List Char → Bool
  | [] => true
  | '\\' :: '?' :: cs => markless cs
  | c :: cs => c != '?' && c != '\\' && markless cs

/-- Characters that are neither question marks nor backslashes make a text without placeholders. -/
theorem markless_of_forall {cs : List Char} (h : ∀ c ∈ cs, c ≠ '?' ∧ c ≠ '\\') : markless cs = true := by
  induction cs with
  | nil => rfl
  | cons c cs ih =>
    obtain ⟨mark, slash⟩ := h c (.head _)
    have rest := ih fun c hc => h c (.tail _ hc)
    unfold markless
    split
    · simp_all
    · simp_all
    · simp_all

theorem inlineSlots_append {a : List Char} (h : markless a = true) (b : List Char) :
    inlineSlots (a ++ b) = inlineSlots b := by
  fun_induction markless a with
  | case1 => rfl
  | case2 cs ih => simpa [inlineSlots] using ih h
  | case3 c cs _ ih =>
    simp only [Bool.and_eq_true, bne_iff_ne, ne_eq] at h
    obtain ⟨⟨mark, slash⟩, rest⟩ := h
    rw [List.cons_append, ← ih rest]
    conv_lhs => unfold inlineSlots
    split <;> simp_all

theorem replaceMarks_append {a : List Char} (h : markless a = true) (texts : List String) (b : List Char) :
    replaceMarks texts (a ++ b) = a ++ replaceMarks texts b := by
  fun_induction markless a with
  | case1 => rfl
  | case2 cs ih => simpa [replaceMarks] using ih h
  | case3 c cs _ ih =>
    simp only [Bool.and_eq_true, bne_iff_ne, ne_eq] at h
    obtain ⟨⟨mark, slash⟩, rest⟩ := h
    rw [List.cons_append, List.cons_append, ← ih rest]
    conv_lhs => unfold replaceMarks
    split <;> simp_all

/-! ## Placeholders in fragments -/

/-- The text of a piece with the value that it binds in its place. -/
def Piece.written (write : Value → String) : Piece → String
  | .param v => write v
  | piece => piece.text

namespace Sql

/-- The text of a fragment with each value in its place. -/
def written (write : Value → String) (sql : Sql) : String :=
  String.join (sql.map (Piece.written write))

/-- A piece is a placeholder, or its text has none and it binds nothing. -/
def Legible (piece : Piece) : Prop :=
  (∃ v, piece = .param v) ∨ piece.binding? = none ∧ markless piece.text.toList = true

/-- The placeholders of a fragment are as many as its values. -/
theorem inlineSlots_text {sql : Sql} (h : ∀ piece ∈ sql, Legible piece) :
    inlineSlots sql.text.toList = sql.bindings.length := by
  induction sql with
  | nil => rfl
  | cons piece sql ih =>
    have rest := ih fun piece hp => h piece (.tail _ hp)
    have split : Sql.text (piece :: sql) = piece.text ++ Sql.text sql := by simp [Sql.text]
    rw [split, String.toList_append, bindings_cons]
    rcases h piece (.head _) with ⟨v, rfl⟩ | ⟨silent, plain⟩
    · simpa [Piece.text, Piece.binding?, inlineSlots] using rest
    · rw [inlineSlots_append plain, rest, silent]
      rfl

/-- Each placeholder of a fragment stands where its value is written. -/
theorem replaceMarks_text {sql : Sql} (h : ∀ piece ∈ sql, Legible piece) (write : Value → String) :
    replaceMarks (sql.bindings.map write) sql.text.toList = (sql.written write).toList := by
  induction sql with
  | nil => rfl
  | cons piece sql ih =>
    have rest := ih fun piece hp => h piece (.tail _ hp)
    have split : Sql.text (piece :: sql) = piece.text ++ Sql.text sql := by simp [Sql.text]
    have split' : Sql.written write (piece :: sql) = piece.written write ++ Sql.written write sql := by
      simp [Sql.written]
    rw [split, split', String.toList_append, String.toList_append, bindings_cons, ← rest]
    rcases h piece (.head _) with ⟨v, rfl⟩ | ⟨silent, plain⟩
    · simp [Piece.text, Piece.binding?, Piece.written, replaceMarks]
    · rw [replaceMarks_append plain, silent]
      cases piece with
      | param v => cases silent
      | _ => rfl

end Sql

/-! ## Names -/

namespace Text

theorem mem_of_mem_replaceFrom {pattern replacement : List Char} {skip : Nat} {c : Char} {cs : List Char}
    (h : c ∈ replaceFrom pattern replacement skip cs) : c ∈ replacement ∨ c ∈ cs := by
  induction cs generalizing skip with
  | nil => cases skip <;> simp [replaceFrom] at h
  | cons d cs ih =>
    cases skip with
    | succ skip => exact (ih h).imp id (.tail _)
    | zero =>
      unfold replaceFrom at h
      split at h
      · rcases List.mem_append.mp h with h | h
        · exact .inl h
        · exact (ih h).imp id (.tail _)
      · rcases List.mem_cons.mp h with rfl | h
        · exact .inr (.head _)
        · exact (ih h).imp id (.tail _)

theorem mem_of_mem_replace {s pattern replacement : String} {c : Char}
    (h : c ∈ (replace s pattern replacement).toList) : c ∈ replacement.toList ∨ c ∈ s.toList := by
  unfold replace replaceAll at h
  rw [String.toList_ofList] at h
  split at h
  · exact .inr h
  · exact mem_of_mem_replaceFrom h

end Text

/-- A delimited identifier has the characters of its segment and of its quotes. -/
theorem Quoting.mem_quote {q : Quoting} {segment : String} {c : Char} (h : c ∈ (q.quote segment).toList) :
    c ∈ segment.toList ∨ c ∈ q.openQuote.toList ∨ c ∈ q.closeQuote.toList := by
  unfold Quoting.quote at h
  split at h
  · exact .inl h
  · simp only [String.toList_append, List.mem_append] at h
    rcases h with (h | h) | h
    · exact .inr (.inl h)
    · rcases Text.mem_of_mem_replace h with h | h
      · simp only [String.toList_append, List.mem_append, or_self] at h
        exact .inr (.inr h)
      · exact .inl h
    · exact .inr (.inr h)

/-! ## Selects with placeholders that can be told from other text -/

namespace Likeness

/-- Selects in which nothing but placeholders reads like one: names, aliases, comments and the texts of
raw expressions have neither question marks nor backslashes, every slot of a raw expression has its
binding, every nested query is a select as well, and nulls are put first or last only where the dialect
can say so. -/
def marked (env : Environment) (client : Client Value) : Likeness where
  env
  client
  value := Eq
  error := Eq
  piece
    | .param _ => True
    | .stray v => v.containsUndefined = true
    | piece => markless piece.text.toList = true
  char c := c ≠ '?' ∧ c ≠ '\\'
  spaced := False
  writes := False
  freezes := False
  liberal := False
  exchanges := False

variable {env : Environment} {client : Client Value}

/-- Every built-in dialect can write such selects. -/
theorem marked_lawful (builtin : client.dialect ∈ Dialect.builtin) (unhooked : client.wrapIdentifier = none) :
    (marked env client).Lawful where
  toSpeaks := by
    have known : ∀ d ∈ Dialect.builtin, ∀ w ∈ d.capabilities.words, markless w.toList = true := by
      decide +kernel
    exact speaks_of_words _ (known _ builtin) False.elim False.elim False.elim
  value_refl _ := rfl
  value_undefined h := congrArg _ h
  error_refl _ := rfl
  error_bounds h := h ▸ Iff.rfl
  words := by
    have known : ∀ w ∈ vocabulary, markless w.toList = true := by decide +kernel
    exact known
  name := by
    intro segment h
    have quotes : ∀ d ∈ Dialect.builtin, (d.capabilities.quoting.openQuote.toList ++
        d.capabilities.quoting.closeQuote.toList).all (fun c => c ≠ '?' ∧ c ≠ '\\') = true := by decide
    refine markless_of_forall fun c hc => ?_
    rcases Quoting.mem_quote hc with hc | hc
    · exact h c hc
    · exact of_decide_eq_true (List.all_eq_true.mp (quotes _ builtin) c (List.mem_append.mpr hc))
  integer n := by
    refine markless_of_forall fun c hc => ?_
    rcases mem_toString_int hc with rfl | digit
    · decide
    · constructor <;> (rintro rfl; exact absurd digit (by decide))
  param _ := trivial
  undefined := rfl
  stray := False.elim
  mark := False.elim
  markChars := by simp [marked]
  hook := .inr unhooked
  unhooked := False.elim
  anyPiece := False.elim
  anyChar := False.elim
  unspaced := False.elim

end Likeness

/-- The text of a query with each value written where its clause binds it. -/
def Query.written (env : Environment) (write : Value → String) (q : Query Value) : Compile String := do
  return (← env.nested.query q.client none none q).sql.written write

/-- A compiled select has as many placeholders as values, which come in the order in which they are bound;
and the placeholders replaced by the texts of the values are the select with each value written in its
place. -/
theorem Query.compile_placeholders {env : Environment} {q : Query Value}
    (builtin : q.client.dialect ∈ Dialect.builtin) (unhooked : q.client.wrapIdentifier = none)
    (h : (Likeness.marked env q.client).Like q q) {p p' : Progress} {c : Compiled Value}
    (run : q.compile env p = .ok c p') :
    inlineSlots c.sql.toList = c.bindings.length ∧ p'.bound = p.bound ++ c.bindings ∧
      ∀ write, ∃ text, q.written env write p = .ok text p' ∧
        replaceMarks (c.bindings.map write) c.sql.toList = text.toList := by
  obtain ⟨r, rendered, sql, bindings, frag, defined, bound⟩ :=
    h.rendered (Likeness.marked_lawful builtin unhooked) rfl run
  have legible : ∀ piece ∈ r.sql, Sql.Legible piece := by
    intro piece hp
    have proper := frag.proper piece hp
    cases piece with
    | param v => exact .inl ⟨v, rfl⟩
    | stray v =>
      -- the values of a statement that has a rendering are defined
      have settled := List.any_eq_false.mp defined v (List.mem_filterMap.mpr ⟨_, hp, rfl⟩)
      exact absurd proper settled
    | _ => exact .inr ⟨rfl, proper⟩
  refine ⟨?_, bound, fun write => ⟨r.sql.written write, ?_, ?_⟩⟩
  · rw [sql, bindings]
    exact Sql.inlineSlots_text legible
  · change EStateM.bind (env.nested.query q.client none none q) _ p = _
    have rendered' : env.nested.query q.client none none q p = .ok r p' := rendered
    unfold EStateM.bind
    rw [rendered']
    rfl
  · rw [sql, bindings]
    exact Sql.replaceMarks_text legible write

/-- A select with two values, of which a sub-query binds the second. -/
theorem Query.compile_placeholders_nested :
    let client : Client Value := { dialect := .postgres }
    let env : Environment := { client }
    let owners := (((Query.ofClient client).select [.str "owner"]).from_ (.str "pets")).addCondition
      .where_ .and false (.compare (.str "kind") (.str "=") (.str "cat?"))
    let q := (((Query.ofClient client).from_ (.str "users")).addCondition .where_ .and false
      (.compare (.str "age") (.str ">") (.int 5))).addIn .where_ .and false (.str "id") (.query owners)
    q.client.dialect ∈ Dialect.builtin ∧ q.client.wrapIdentifier = none ∧
      (Likeness.marked env q.client).Like q q ∧ ∃ c p', q.compile env {} = .ok c p' ∧
        inlineSlots c.sql.toList = c.bindings.length ∧ p'.bound = [] ++ c.bindings ∧
          ∀ write, ∃ text, q.written env write {} = .ok text p' ∧
            replaceMarks (c.bindings.map write) c.sql.toList = text.toList := by
  intro client env owners q
  have spelled {s : String} (h : s.toList.all fun c => c != '?' && c != '\\') :
      (Likeness.marked env client).Spelled s := fun c hc => by
    have plain : (c != '?' && c != '\\') = true := List.all_eq_true.mp h c hc
    simpa [Likeness.marked] using plain
  have name {L} (s : String) (h : s.toList.all fun c => c != '?' && c != '\\') :
      (Likeness.marked env client).Column L (.str s) (.str s) := .name rfl (spelled h)
  have compared {L} (column : String) (operator : String) (s : Scalar)
      (h : column.toList.all fun c => c != '?' && c != '\\') : (Likeness.marked env client).TestLike L
        (.compare (.str column) (.str operator) (.scalar s)) (.compare (.str column) (.str operator) (.scalar s)) :=
    .compare (name _ h) (.word ⟨rfl, rfl⟩) ⟨rfl, fun _ => rfl⟩ (.bound ⟨rfl, rfl⟩ ⟨rfl, rfl⟩ rfl rfl rfl)
  have inner : (Likeness.marked env client).QueryLike ((Likeness.marked env client).level 398) owners owners := by
    have select : (Likeness.marked env client).SelectLike ((Likeness.marked env client).level 398)
        owners.statement owners.statement := {
      schema := rfl
      schemaShown := nofun
      table := .some (name "pets" rfl)
      commonTables := .nil
      projection := .cons (.columns (.cons (name "owner" rfl) .nil)) .nil
      joins := .nil
      wheres := .cons ⟨rfl, rfl, nofun, rfl, compared _ _ _ rfl⟩ .nil
      groups := .nil
      havings := .nil
      orders := .nil
      limit := rfl
      offset := rfl
      unions := .nil
      lock := rfl
      lockTables := .nil
      wait := rfl }
    exact ⟨.inr rfl, rfl, select, rfl, nofun, rfl, nofun⟩
  have outer : (Likeness.marked env client).QueryLike ((Likeness.marked env client).level 399) q q := by
    have select : (Likeness.marked env client).SelectLike ((Likeness.marked env client).level 399)
        q.statement q.statement := {
      schema := rfl
      schemaShown := nofun
      table := .some (name "users" rfl)
      commonTables := .nil
      projection := .nil
      joins := .nil
      wheres := .cons ⟨rfl, rfl, nofun, rfl, compared _ _ _ rfl⟩ (.cons ⟨rfl, rfl, nofun, rfl,
        .isIn ⟨rfl, .cons (name "id" rfl) .nil⟩ ⟨rfl, fun _ => rfl⟩
          (.operand rfl rfl rfl (.builder (.query inner)))⟩ .nil)
      groups := .nil
      havings := .nil
      orders := .nil
      limit := rfl
      offset := rfl
      unions := .nil
      lock := rfl
      lockTables := .nil
      wait := rfl }
    exact ⟨.inr rfl, rfl, select, rfl, nofun, rfl, nofun⟩
  have builtin : q.client.dialect ∈ Dialect.builtin := .head _
  have succeeds : (q.compile env).outcome.1.isOk = true := by decide +kernel
  unfold Compile.outcome at succeeds
  split at succeeds
  next c p' run => exact ⟨builtin, rfl, outer, c, p', run, Query.compile_placeholders builtin rfl outer run⟩
  · cases succeeds

end SqlBuilder
