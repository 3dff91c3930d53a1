import SqlBuilder.Proofs.Successes

/-!
# Inserts and their options

An insert may be asked to return columns of its rows and to say what becomes of rows that exist already. It
either shows what it was asked for, or it has no compiled form; but an insert whose rows come from a query,
and one whose rows have no columns, show neither a clause at their end nor one about conflicts.

* `Sql.Shown`: a fragment is a part of a text.
* `Value.Keyed`: the rows of an insert have a column.
* `Scope.insertStatement_ok`: what an insert shows, from rows or from a query.
* `Query.compile_insert_options`: what a compiled insert shows of its options.
-/

namespace SqlBuilder

open List (Forall₂)

/-! ## Parts of texts -/

namespace Sql

theorem join_texts (sql : Sql) : String.join sql.texts = sql.text := by
  induction sql with
  | nil => rfl
  | cons piece rest ih =>
    unfold text texts at ih ⊢
    rw [List.map_cons, List.filter_cons]
    cases blank : piece.text.isEmpty with
    | true =>
      obtain none_ : piece.text = "" := String.isEmpty_iff.mp blank
      simp [ih, none_]
    | false => simp [ih]

/-- A fragment has the same text without its values. -/
theorem text_frozen (sql : Sql) : sql.frozen.text = sql.text := by
  rw [← join_texts, texts_frozen, join_texts]

/-- A fragment is a part of a text. -/
def Shown (part : Sql) (text : String) : Prop :=
  part.text.toList <:+: text.toList

/-- The pieces of a fragment stand in another one. -/
theorem Shown.of_texts {part sql : Sql} (h : part.texts <:+: sql.texts) : part.Shown sql.text := by
  obtain ⟨before, after, same⟩ := h
  refine ⟨(String.join before).toList, (String.join after).toList, ?_⟩
  rw [← join_texts part, ← join_texts sql, ← same]
  simp [String.join_append]

theorem texts_infix {part sql : Sql} (h : part <:+: sql) : part.texts <:+: sql.texts :=
  (h.map Piece.text).filter _

theorem texts_suffix {part sql : Sql} (h : part <:+ sql) : part.texts <:+ sql.texts :=
  (h.map Piece.text).filter _

/-- Comments stand before a statement. -/
theorem suffix_commented (comments : List String) (sql : Sql) : sql <:+ Scope.commented comments sql := by
  induction comments with
  | nil => exact List.suffix_rfl
  | cons comment comments ih => exact ih.trans (List.suffix_append [Piece.comment comment, Piece.word " "] _)

theorem texts_afterWith (tables statement : Sql) : statement.texts <:+ (Scope.afterWith tables statement).texts := by
  have last (done : Sql) : statement.texts <:+ texts (if done.isBlank || statement.isBlank then done ++ statement
      else done ++ word " " ++ statement) := by
    split <;> rw [texts_append] <;> exact List.suffix_append ..
  unfold Scope.afterWith
  split
  · rw [texts_append]
    exact List.suffix_append ..
  · exact last _

end Sql

namespace Scope

variable {s : Scope}

/-! ## Returned columns -/

/-- Columns as they are rendered in a list. -/
def Columns (s : Scope) (columns : List Value) (parts : List Sql) : Prop :=
  Forall₂ (fun column part => (s.wrap column).Renders part) columns parts

theorem wrap_of_textual {column : Value} {operand : Operand} {part : Sql} (h : (s.wrapOperand column).Renders operand)
    (textual : operand.textual.Renders part) : (s.wrap column).Renders part := by
  obtain ⟨p, p', run⟩ := h
  cases operand with
  | sql own =>
    obtain rfl := textual.of_pure
    exact ⟨p, p', Compile.bind_ok.mpr ⟨_, _, run, rfl⟩⟩
  | object v => exact absurd textual Compile.Renders.not_throw

theorem columns_of_textual {columns : List Value} {operands : List Operand} {parts : List Sql}
    (named : Forall₂ (fun column operand => (s.wrapOperand column).Renders operand) columns operands)
    (written : Forall₂ (fun operand part => operand.textual.Renders part) operands parts) :
    s.Columns columns parts := by
  induction named generalizing parts with
  | nil =>
    cases written
    exact .nil
  | cons first _ ih =>
    cases written with
    | cons own rest => exact .cons (wrap_of_textual first own) (ih rest)

/-- A list of columns names each of them. -/
theorem columnizeAll_ok {columns : List Value} {sql : Sql} (h : (s.columnizeAll columns).Renders sql) :
    ∃ parts, s.Columns columns parts ∧ sql = Sql.commas parts := by
  obtain ⟨operands, rendered, h⟩ := h.of_bind
  obtain ⟨parts, textual, h⟩ := h.of_bind
  exact ⟨parts, columns_of_textual rendered.of_mapM textual.of_mapM, h.of_pure⟩

/-- The clause of returned columns before the values of a write names each of them. -/
theorem outputClause_ok {source : String} {returning : List Value} {sql : Sql} (requested : returning ≠ [])
    (h : (s.outputClause source returning).Renders sql) :
    s.capabilities.returning ≠ .unsupported ∧ (s.capabilities.returning = .output →
      ∃ parts, s.Columns returning parts ∧
        sql = Sql.word " output " ++ Sql.commas (parts.map (Sql.word (source ++ ".") ++ ·))) := by
  obtain ⟨column, columns, rfl⟩ := List.exists_cons_of_ne_nil requested
  cases known : s.capabilities.returning with
  | suffix => exact ⟨nofun, nofun⟩
  | unsupported =>
    simp only [outputClause, known] at h
    exact absurd h Compile.Renders.not_throw
  | output =>
    refine ⟨nofun, fun _ => ?_⟩
    simp only [outputClause, known] at h
    obtain ⟨named, rendered, h⟩ := h.of_bind
    obtain rfl := h.of_pure
    obtain ⟨parts, each, rfl⟩ := rendered.of_mapM_around
    exact ⟨parts, each, rfl⟩

/-- The clause of returned columns at the end of a write names each of them. -/
theorem returningClause_ok {returning : List Value} {sql : Sql} (requested : returning ≠ [])
    (suffix : s.capabilities.returning = .suffix) (h : (s.returningClause returning).Renders sql) :
    ∃ parts, s.Columns returning parts ∧ sql = Sql.word " returning " ++ Sql.commas parts := by
  obtain ⟨column, columns, rfl⟩ := List.exists_cons_of_ne_nil requested
  simp only [returningClause, suffix] at h
  obtain ⟨named, rendered, h⟩ := h.of_bind
  obtain rfl := h.of_pure
  obtain ⟨parts, each, rfl⟩ := columnizeAll_ok rendered
  exact ⟨parts, each, rfl⟩

/-! ## Conflicts -/

/-- What a clause about conflicts begins with. -/
theorem conflictClause_ok {names : List Value} {c : Conflict Value} {sql : Sql}
    (h : (s.conflictClause names c).Renders sql) :
    (s.capabilities.conflict = .onConflict → ∃ rest, sql = Sql.word " on conflict" ++ rest) ∧
    (s.capabilities.conflict = .onDuplicateKey → c.merge ≠ none →
      ∃ rest, sql = Sql.word " on duplicate key update " ++ rest) := by
  cases known : s.capabilities.conflict with
  | onConflict =>
    refine ⟨fun _ => ?_, nofun⟩
    cases merge : c.merge with
    | none =>
      simp only [conflictClause, known, merge] at h
      split at h
      · obtain ⟨target, -, h⟩ := h.of_bind
        exact ⟨_, h.of_pure.trans (List.append_assoc ..)⟩
      · obtain ⟨columns, -, h⟩ := h.of_bind
        obtain ⟨target, -, h⟩ := h.of_bind
        exact ⟨_, h.of_pure.trans (List.append_assoc ..)⟩
    | some updates =>
      simp only [conflictClause, known, merge] at h
      split at h
      · obtain ⟨target, -, h⟩ := h.of_bind
        obtain ⟨merged, -, h⟩ := h.of_bind
        exact ⟨target ++ (Sql.word " do update set " ++ merged), h.of_pure.trans (by simp only [List.append_assoc])⟩
      · obtain ⟨columns, -, h⟩ := h.of_bind
        obtain ⟨target, -, h⟩ := h.of_bind
        obtain ⟨merged, -, h⟩ := h.of_bind
        exact ⟨target ++ (Sql.word " do update set " ++ merged), h.of_pure.trans (by simp only [List.append_assoc])⟩
  | onDuplicateKey =>
    refine ⟨nofun, fun _ merging => ?_⟩
    obtain ⟨updates, merge⟩ := Option.ne_none_iff_exists'.mp merging
    simp only [conflictClause, known, merge] at h
    obtain ⟨merged, -, h⟩ := h.of_bind
    exact ⟨merged, h.of_pure⟩
  | unsupported => exact ⟨nofun, nofun⟩

/-- The keyword of an insert that has a compiled form. -/
theorem insertKeyword_ok {c : Conflict Value} {keyword : String} (h : (s.insertKeyword (some c)).Renders keyword) :
    s.capabilities.conflict ≠ .unsupported ∧
      (s.capabilities.conflict = .onDuplicateKey → c.merge = none → keyword = "insert ignore into") := by
  obtain ⟨columns, merge⟩ := c
  cases known : s.capabilities.conflict with
  | onConflict => exact ⟨nofun, nofun⟩
  | unsupported =>
    simp only [insertKeyword, known] at h
    exact absurd h Compile.Renders.not_throw
  | onDuplicateKey =>
    refine ⟨nofun, fun _ ignoring => ?_⟩
    obtain rfl : merge = none := ignoring
    simp only [insertKeyword, known] at h
    exact h.of_pure

/-! ## Rows and sources -/

/-- Some rows have a column, which the text of an insert names. -/
def Keyed (values : Value) : Prop :=
  isSource values = false ∧ ∃ rows, rowsOf values = .ok rows ∧ rows ≠ [] ∧ rowColumns rows ≠ []

/-- The names of the columns of an insert, in order. -/
def columnNames (values : Value) : List Value :=
  match rowsOf values with
  | .ok rows => (rowColumns rows).map (·.name)
  | .error _ => []

theorem columnNames_eq {values : Value} {rows : List Row} (ok : rowsOf values = .ok rows) :
    columnNames values = (rowColumns rows).map (·.name) := by
  unfold columnNames
  rw [ok]

/-- What an insert shows between its keyword and its end: a clause of returned columns, and, if its rows
have a column, a clause about conflicts and another one of returned columns. -/
structure InsertShows (s : Scope) (keyword : String) (st : Statement Value) (values : Value) (sql : Sql) : Prop where
  keyword : ∃ rest, sql.texts = (keyword ++ " ") :: rest
  output : ∃ clause, (s.outputClause "inserted" st.returning).Renders clause ∧ clause.texts <:+: sql.texts
  conflict : Keyed values → ∀ c ∈ st.conflict, ∃ clause,
    (s.conflictClause (columnNames values) c).Renders clause ∧ clause.texts <:+: sql.texts
  returning : Keyed values → ∃ clause, (s.returningClause st.returning).Renders clause ∧ clause.texts <:+: sql.texts

theorem texts_keyword (keyword : String) (sql : Sql) :
    ∃ rest, (Sql.word (keyword ++ " ") ++ sql).texts = (keyword ++ " ") :: rest := by
  have present : (keyword ++ " ").isEmpty = false := by
    rw [Bool.eq_false_iff, ne_eq, String.isEmpty_iff, String.append_eq_empty_iff]
    simp
  exact ⟨sql.texts, by rw [Sql.texts_append, Sql.texts_word present]; rfl⟩

/-- Without columns an insert shows what it was asked to return before its rows, and has no conflicts and no
end. -/
theorem InsertShows.of_unkeyed {keyword : String} {st : Statement Value} {values : Value}
    {table output rest sql : Sql} (unkeyed : ¬ Keyed values)
    (shown : (s.outputClause "inserted" st.returning).Renders output)
    (whole : sql.texts = (Sql.word (keyword ++ " ") ++ table ++ output ++ rest).texts) :
    s.InsertShows keyword st values sql := by
  refine ⟨?_, ⟨output, shown, ?_⟩, fun keyed => absurd keyed unkeyed, fun keyed => absurd keyed unkeyed⟩
  · rw [whole]
    simp only [List.append_assoc]
    exact texts_keyword _ _
  · rw [whole]
    simp only [Sql.texts_append]
    exact ⟨_, _, rfl⟩

/-- An insert of rows with columns shows its options. -/
theorem insertRows_named {keyword : String} {table sql : Sql} {st : Statement Value} {values : Value}
    {row : Row} {rows : List Row} {column : RowColumn} {rest : List RowColumn} (ok : rowsOf values = .ok (row :: rows))
    (columns : rowColumns (row :: rows) = column :: rest)
    (h : (s.insertRows keyword table st (row :: rows)).Renders sql) : s.InsertShows keyword st values sql := by
  have named : (column :: rest).map (·.name) = columnNames values := by rw [columnNames_eq ok, columns]
  simp only [insertRows, columns, named] at h
  obtain ⟨-, -, h⟩ := h.of_bind
  obtain ⟨names, -, h⟩ := h.of_bind
  obtain ⟨output, shown, h⟩ := h.of_bind
  obtain ⟨missing, -, h⟩ := h.of_bind
  obtain ⟨cells, -, h⟩ := h.of_bind
  -- the clause about conflicts is empty without any
  obtain ⟨conflict, handled, h⟩ : ∃ conflict, (∀ c ∈ st.conflict,
      (s.conflictClause (columnNames values) c).Renders conflict) ∧
      (do return Sql.word (keyword ++ " ") ++ table ++ Sql.word " " ++ names.parens ++ output ++
        Sql.word " values " ++ Sql.commas cells ++ conflict ++ (← s.returningClause st.returning) :
          Compile Sql).Renders sql := by
    cases given : st.conflict with
    | none =>
      simp only [given] at h
      obtain ⟨conflict, -, h⟩ := h.of_bind
      exact ⟨conflict, nofun, h⟩
    | some c =>
      simp only [given] at h
      obtain ⟨conflict, handled, h⟩ := h.of_bind
      exact ⟨conflict, fun _ same => Option.some.inj same ▸ handled, h⟩
  obtain ⟨returning, returned, h⟩ := h.of_bind
  obtain rfl := h.of_pure
  refine ⟨?_, ⟨output, shown, ?_⟩, fun _ c given => ⟨conflict, handled c given, ?_⟩,
    fun _ => ⟨returning, returned, ?_⟩⟩
  · simp only [List.append_assoc]
    exact texts_keyword _ _
  · refine ⟨(Sql.word (keyword ++ " ") ++ table ++ Sql.word " " ++ names.parens).texts,
      (Sql.word " values " ++ Sql.commas cells ++ conflict ++ returning).texts, ?_⟩
    simp only [Sql.texts_append, List.append_assoc]
  · simp only [Sql.texts_append]
    exact ⟨_, _, rfl⟩
  · rw [Sql.texts_append]
    exact (List.suffix_append ..).isInfix

/-- An insert of rows shows its options. -/
theorem insertRows_ok {keyword : String} {table sql : Sql} {st : Statement Value} {values : Value} {rows : List Row}
    (ok : rowsOf values = .ok rows) (filled : rows ≠ [])
    (h : (s.insertRows keyword table st rows).Renders sql) : s.InsertShows keyword st values sql := by
  obtain ⟨row, others, rfl⟩ := List.exists_cons_of_ne_nil filled
  cases columns : rowColumns (row :: others) with
  | cons column rest => exact insertRows_named ok columns h
  | nil =>
    have unkeyed : ¬ Keyed values := by
      rintro ⟨-, rows, same, -, named⟩
      obtain rfl : row :: others = rows := Except.ok.inj (ok.symm.trans same)
      exact named columns
    simp only [insertRows, columns] at h
    obtain ⟨output, shown, h⟩ := h.of_bind
    obtain rfl := h.of_pure
    exact .of_unkeyed unkeyed shown rfl

/-- Only an empty list has no rows. -/
theorem sequence_of_rowsOf_nil {values : Value} (h : rowsOf values = .ok []) : values.sequence? = some [] := by
  have listed (read : Value → Except Error (List (Value × Value))) {items : List Value}
      (h : (do return (← items.mapM read).mapIdx rowOf : Except Error (List Row)) = .ok []) : items = [] := by
    cases items with
    | nil => rfl
    | cons item rest =>
      rw [List.mapM_cons] at h
      cases first : read item with
      | error e =>
        rw [first] at h
        cases h
      | ok entries =>
        cases others : rest.mapM read with
        | error e =>
          rw [first, others] at h
          cases h
        | ok rows =>
          rw [first, others] at h
          have empty : (entries :: rows).mapIdx rowOf = [] := Except.ok.inj h
          simp at empty
  unfold rowsOf at h
  split at h
  · simp at h
  · exact congrArg some (listed _ h)
  · exact congrArg some (listed _ h)
  · cases h

/-- An insert shows its options, from rows or from a query. -/
theorem insertStatement_ok {keyword : String} {sql : Sql} {st : Statement Value} {values : Value}
    (filled : values.sequence? ≠ some []) (h : (s.insertStatement keyword st values).Renders sql) :
    s.InsertShows keyword st values sql := by
  unfold insertStatement at h
  obtain ⟨table, -, h⟩ := h.of_bind
  split at h
  next source =>
    obtain ⟨body, -, h⟩ := h.of_bind
    obtain ⟨output, shown, h⟩ := h.of_bind
    obtain rfl := h.of_pure
    have unkeyed : ¬ Keyed values := fun keyed => by simp [keyed.1] at source
    have whole : (Sql.word (keyword ++ " ") ++ table ++ sourced output body).texts =
        (Sql.word (keyword ++ " ") ++ table ++ output ++ (Sql.word " " ++ body)).texts := by
      simp only [Sql.texts_append, texts_sourced, List.append_assoc]
    exact .of_unkeyed unkeyed shown whole
  · obtain ⟨rows, read, h⟩ := h.of_bind
    have ok := read.of_liftCompile
    refine insertRows_ok ok ?_ h
    rintro rfl
    exact filled (sequence_of_rowsOf_nil ok)

/-- What a statement takes the rows of an insert from. -/
def written (st : Statement Value) : Value :=
  match st.method with
  | .upsert => st.upsert.getD .null
  | _ => st.insert.getD .null

/-- The keyword of an insert. -/
structure Keyword (s : Scope) (st : Statement Value) (keyword : String) : Prop where
  supported : st.conflict ≠ none → s.capabilities.conflict ≠ .unsupported
  ignores : ∀ c ∈ st.conflict, s.capabilities.conflict = .onDuplicateKey → c.merge = none →
    keyword = "insert ignore into"

/-- The statement of an insert, after its common tables. -/
theorem insert_ok {st : Statement Value} {sql : Sql} (filled : (st.insert.getD .null).sequence? ≠ some [])
    (h : (s.insert st).Renders sql) :
    ∃ keyword statement, s.Keyword st keyword ∧ s.InsertShows keyword st (st.insert.getD .null) statement ∧
      statement.texts <:+ sql.texts := by
  obtain ⟨tables, -, h⟩ := h.of_bind
  obtain ⟨keyword, chosen, h⟩ := h.of_bind
  obtain ⟨statement, rendered, h⟩ := h.of_bind
  obtain rfl := h.of_pure
  refine ⟨keyword, statement, ?_, insertStatement_ok filled rendered, Sql.texts_afterWith _ _⟩
  cases given : st.conflict with
  | none => exact ⟨fun some_ => absurd given some_, by simp [given]⟩
  | some c =>
    rw [given] at chosen
    obtain ⟨supported, ignores⟩ := insertKeyword_ok chosen
    refine ⟨fun _ => supported, fun c' same => ?_⟩
    obtain rfl : c = c' := Option.some.inj (given.symm.trans same)
    exact ignores

/-- An upsert that is rendered handles no conflicts, and is an insert after its common tables. -/
theorem upsert_inserts {st : Statement Value} {sql : Sql} (h : (s.upsert st).Renders sql) :
    st.conflict = none ∧ ∃ tables statement,
      (s.insertStatement "upsert into" st (st.upsert.getD .null)).Renders statement ∧ sql = afterWith tables statement := by
  unfold Scope.upsert at h
  cases given : st.conflict with
  | some c =>
    simp only [given, Option.isSome_some, if_true] at h
    split at h
    · obtain ⟨_, refused, _⟩ := h.of_bind
      exact absurd refused Compile.Renders.not_throw
    · obtain ⟨_, refused, _⟩ := h.of_bind
      exact absurd refused Compile.Renders.not_throw
  | none =>
    simp only [given, Option.isSome_none, Bool.false_eq_true, if_false] at h
    split at h
    · obtain ⟨tables, -, h⟩ := h.of_bind
      obtain ⟨statement, rendered, h⟩ := h.of_bind
      exact ⟨rfl, tables, statement, rendered, h.of_pure⟩
    · obtain ⟨tables, -, h⟩ := h.of_bind
      exact absurd h Compile.Renders.not_throw

/-- The statement of an upsert, after its common tables. It has no conflicts. -/
theorem upsert_ok {st : Statement Value} {sql : Sql} (filled : (st.upsert.getD .null).sequence? ≠ some [])
    (h : (s.upsert st).Renders sql) :
    ∃ keyword statement, s.Keyword st keyword ∧ s.InsertShows keyword st (st.upsert.getD .null) statement ∧
      statement.texts <:+ sql.texts := by
  obtain ⟨plain, tables, statement, rendered, rfl⟩ := upsert_inserts h
  exact ⟨_, statement, ⟨fun some_ => absurd plain some_, by simp [plain]⟩, insertStatement_ok filled rendered,
    Sql.texts_afterWith _ _⟩

/-- The statement of a write that adds rows, after its common tables. -/
theorem write_ok {st : Statement Value} {sql : Sql} (write : st.method = .insert ∨ st.method = .upsert)
    (filled : (written st).sequence? ≠ some []) (h : (s.body st.method st).Renders sql) :
    ∃ keyword statement, s.Keyword st keyword ∧ s.InsertShows keyword st (written st) statement ∧
      statement.texts <:+ sql.texts := by
  rcases write with method | method
  · have same : written st = st.insert.getD .null := by simp [written, method]
    rw [same] at filled ⊢
    rw [method] at h
    exact insert_ok filled h
  · have same : written st = st.upsert.getD .null := by simp [written, method]
    rw [same] at filled ⊢
    rw [method] at h
    exact upsert_ok filled h

/-! ## Options -/

/-- What a text shows of the columns that an insert was asked to return: each of them, where the dialect names
them before the values, and each of them at the end of an insert whose rows have a column. -/
structure ShowsReturned (s : Scope) (st : Statement Value) (text : String) : Prop where
  supported : s.capabilities.returning ≠ .unsupported
  output : s.capabilities.returning = .output → ∃ parts, s.Columns st.returning parts ∧
    (Sql.word " output " ++ Sql.commas (parts.map (Sql.word ("inserted" ++ ".") ++ ·))).Shown text
  suffix : s.capabilities.returning = .suffix → Keyed (written st) → ∃ parts, s.Columns st.returning parts ∧
    (Sql.word " returning " ++ Sql.commas parts).Shown text

/-- What a text shows of what an insert was asked to do about rows that exist already: its keyword where that
ignores them, and otherwise, if the rows have a column, its clause over the columns of the insert. -/
structure ShowsConflict (s : Scope) (st : Statement Value) (c : Conflict Value) (text : String) : Prop where
  supported : s.capabilities.conflict ≠ .unsupported
  ignore : s.capabilities.conflict = .onDuplicateKey → c.merge = none → (Sql.word "insert ignore into ").Shown text
  clause : Keyed (written st) → ∃ clause, (s.conflictClause (columnNames (written st)) c).Renders clause ∧
    clause.Shown text ∧
    (s.capabilities.conflict = .onConflict → ∃ rest, clause = Sql.word " on conflict" ++ rest) ∧
    (s.capabilities.conflict = .onDuplicateKey → c.merge ≠ none →
      ∃ rest, clause = Sql.word " on duplicate key update " ++ rest)

variable {st : Statement Value} {keyword : String} {sql : Sql} {text : String}

theorem InsertShows.returned (h : s.InsertShows keyword st (written st) sql) (requested : st.returning ≠ [])
    (shown : ∀ {part : Sql}, part.texts <:+: sql.texts → part.Shown text) : s.ShowsReturned st text := by
  obtain ⟨output, rendered, inside⟩ := h.output
  obtain ⟨supported, named⟩ := outputClause_ok requested rendered
  refine ⟨supported, fun known => ?_, fun known keyed => ?_⟩
  · obtain ⟨parts, each, rfl⟩ := named known
    exact ⟨parts, each, shown inside⟩
  · obtain ⟨returning, rendered, inside⟩ := h.returning keyed
    obtain ⟨parts, each, rfl⟩ := returningClause_ok requested known rendered
    exact ⟨parts, each, shown inside⟩

theorem InsertShows.handled (h : s.InsertShows keyword st (written st) sql) (word : s.Keyword st keyword)
    {c : Conflict Value} (given : st.conflict = some c)
    (shown : ∀ {part : Sql}, part.texts <:+: sql.texts → part.Shown text) : s.ShowsConflict st c text := by
  refine ⟨word.supported (by simp [given]), fun known ignoring => shown ?_, fun keyed => ?_⟩
  · obtain ⟨rest, begins⟩ := h.keyword
    have ignore : keyword ++ " " = "insert ignore into " := by rw [word.ignores c given known ignoring]; rfl
    rw [begins, ignore]
    exact ⟨[], rest, rfl⟩
  · obtain ⟨clause, rendered, inside⟩ := h.conflict keyed c given
    exact ⟨clause, rendered, shown inside, conflictClause_ok rendered⟩

end Scope

/-- A compiled insert, of anything but an empty list, shows its options. One that was asked to return columns
or to handle conflicts is not compiled for a dialect that cannot; the columns are named wherever the dialect
names them before the values; and if the rows have a column, so are the columns at the end, and the clause
about conflicts. -/
theorem Query.compile_insert_options {env : Environment} {q : Query Value}
    (write : q.statement.method = .insert ∨ q.statement.method = .upsert)
    (filled : (Scope.written q.statement).sequence? ≠ some []) {p p' : Progress} {c : Compiled Value}
    (run : q.compile env p = .ok c p') :
    (q.statement.returning ≠ [] → (q.scope env).ShowsReturned q.statement c.sql) ∧
      ∀ conflict ∈ q.statement.conflict, (q.scope env).ShowsConflict q.statement conflict c.sql := by
  obtain ⟨body, rendered, sql, -⟩ := Query.compile_body run
  obtain ⟨keyword, statement, word, shows, last⟩ := Scope.write_ok write filled rendered
  have shown {part : Sql} (h : part.texts <:+: statement.texts) : part.Shown c.sql := by
    rw [sql]
    exact .of_texts (h.trans (last.trans (Sql.texts_suffix (Sql.suffix_commented _ _))).isInfix)
  exact ⟨fun requested => shows.returned requested shown, fun conflict given => shows.handled word given shown⟩

/-- An insert of one row that updates a row with the same key, and returns a column. -/
theorem Query.compile_insert_options_row :
    let client : Client Value := { dialect := .postgres }
    let env : Environment := { client }
    let q := ((((Query.ofClient client).from_ (.str "users")).insert (.map [(.str "id", .int 1)]) .null).onConflict
      [.str "id"] (some .null)).returning [.str "id", .str "name"]
    (q.statement.method = .insert ∨ q.statement.method = .upsert) ∧
      (Scope.written q.statement).sequence? ≠ some [] ∧ ∃ c p', q.compile env {} = .ok c p' ∧
        (q.statement.returning ≠ [] → (q.scope env).ShowsReturned q.statement c.sql) ∧
          ∀ conflict ∈ q.statement.conflict, (q.scope env).ShowsConflict q.statement conflict c.sql := by
  intro client env q
  have filled : (Scope.written q.statement).sequence? ≠ some [] := nofun
  have succeeds : (q.compile env).outcome.1.isOk = true := by decide +kernel
  unfold Compile.outcome at succeeds
  split at succeeds
  next c p' run => exact ⟨.inl rfl, filled, c, p', run, Query.compile_insert_options (.inl rfl) filled run⟩
  · cases succeeds

/-- An insert from a query, or of a row without columns, is compiled without the columns that it was asked to
return and without a clause about conflicts. -/
theorem Query.compile_insert_dropped :
    let client : Client Value := { dialect := .postgres }
    let env : Environment := { client }
    let source := (Query.ofClient client).from_ (.str "u")
    let q (values : Value) := ((((Query.ofClient client).from_ (.str "t")).insert values .null).onConflict
      [.str "id"] none).returning [.str "id"]
    let sql (values : Value) := ((q values).compile env).outcome.1.toOption.map Compiled.sql
    sql (.query source) = some "insert into \"t\" select * from \"u\"" ∧
      sql (.map []) = some "insert into \"t\" default values" := by
  decide +kernel

end SqlBuilder
