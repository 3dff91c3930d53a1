import SqlBuilder.Proofs.Inserts

/-!
# The rows that an insert says

An insert of several rows has a list of cells for each of them, in their order, under the columns that any of
them has. Rows without columns have no cells to list: an insert of those is the form of the dialect for one row
of defaults, however many they are.

* `Scope.CellOf`, `Scope.TupleOf`: what stands in an insert for a row.
* `Scope.SaysRows`: an insert says some rows, and no others.
* `Query.compile_inserted_rows`: a compiled insert of one row, or of rows that have a column, says its rows.
-/

namespace SqlBuilder

open List (Forall₂)

namespace Scope

variable {s : Scope}

/-! ## Columns -/

theorem rowColumns_of_nil {rows : List Row} (bare : ∀ row ∈ rows, row = []) : rowColumns rows = [] := by
  have empty : rows.flatten = [] := List.flatten_eq_nil_iff.mpr bare
  rw [rowColumns, empty, List.foldl_nil]

/-- More cells leave the columns that there are. -/
theorem withColumns_ne_nil (cells : List (RowColumn × Value)) {columns : List RowColumn} (some_ : columns ≠ []) :
    cells.foldl (fun columns (c, _) => if columns.any fun d => d.same c then columns else columns ++ [c])
      columns ≠ [] := by
  induction cells generalizing columns with
  | nil => exact some_
  | cons cell cells ih =>
    refine ih ?_
    dsimp only
    split
    · exact some_
    · simp

/-- Rows have columns if one of them has. -/
theorem rowColumns_ne_nil {rows : List Row} {row : Row} (known : row ∈ rows) (keyed : row ≠ []) :
    rowColumns rows ≠ [] := by
  have cells : rows.flatten ≠ [] := fun none_ => keyed (List.flatten_eq_nil_iff.mp none_ row known)
  obtain ⟨cell, rest, same⟩ := List.exists_cons_of_ne_nil cells
  rw [rowColumns, same, List.foldl_cons]
  exact withColumns_ne_nil rest (by simp)

/-! ## Rows -/

/-- What stands in a row under a column: what the value of the row renders to, or what stands for a column that
the row lacks. -/
inductive CellOf (s : Scope) (row : Row) (column : RowColumn) : Sql → Prop
  | value {v : Value} {sql : Sql} (given : cell? row column = some v) (stored : (s.stored v).Renders (.sql sql)) :
      CellOf s row column sql
  | default_ (lacking : cell? row column = none) : CellOf s row column (Sql.word "DEFAULT")
  | null (lacking : cell? row column = none) : CellOf s row column [.param .null]

/-- What stands for a row: its cells under the columns, in parentheses. -/
def TupleOf (s : Scope) (columns : List RowColumn) (row : Row) (tuple : Sql) : Prop :=
  ∃ cells, Forall₂ (s.CellOf row) columns cells ∧ tuple = (Sql.commas cells).parens

/-- What may stand after the rows of an insert: a clause about conflicts, a clause of returned columns, or
nothing. -/
inductive RowsEnd : Sql → Prop
  | nothing : RowsEnd []
  | clause {word : String} (rest : Sql)
      (known : word ∈ [" on conflict", " on duplicate key update ", " returning "]) : RowsEnd (Sql.word word ++ rest)

theorem RowsEnd.append {clause others : Sql} (first : RowsEnd clause) (second : RowsEnd others) :
    RowsEnd (clause ++ others) := by
  cases first with
  | nothing => exact second
  | clause rest known =>
    rw [List.append_assoc]
    exact .clause _ known

/-- An insert says some rows, and no others. -/
inductive SaysRows (s : Scope) : List Row → Sql → Prop
  /-- a list of cells for each row, in their order, and no list after those -/
  | tuples {rows : List Row} {tuples : List Sql} (head tail : Sql) (named : rowColumns rows ≠ [])
      (each : Forall₂ (s.TupleOf (rowColumns rows)) rows tuples) (ends : RowsEnd tail) :
      SaysRows s rows (head ++ Sql.word " values " ++ Sql.commas tuples ++ tail)
  /-- one row of defaults -/
  | defaults (head : Sql) : SaysRows s [[]] (head ++ Sql.word (" " ++ s.capabilities.emptyInsert))

theorem SaysRows.after {rows : List Row} {sql : Sql} (h : s.SaysRows rows sql) (before : Sql) :
    s.SaysRows rows (before ++ sql) := by
  cases h with
  | tuples head tail named each ends =>
    simpa only [List.append_assoc] using SaysRows.tuples (before ++ head) tail named each ends
  | defaults head => simpa only [List.append_assoc] using SaysRows.defaults (s := s) (before ++ head)

theorem cellOf_of_renders {missing : Missing} {row : Row} {column : RowColumn} {sql : Sql}
    (h : (s.rowCell missing row column).Renders (.sql sql)) : s.CellOf row column sql := by
  unfold rowCell at h
  split at h
  next v given => exact .value given h
  next lacking =>
    obtain rfl : sql = Sql.word "DEFAULT" := Operand.sql.inj h.of_pure
    exact .default_ lacking
  next lacking =>
    obtain ⟨bound, run, h⟩ := h.of_bind
    obtain rfl := Operand.sql.inj h.of_pure
    obtain ⟨_, -, run⟩ := run.of_bind
    obtain rfl := run.of_pure
    exact .null lacking

theorem cellsOf_of_renders {missing : Missing} {row : Row} {columns : List RowColumn} {operands : List Operand}
    {cells : List Sql}
    (rendered : Forall₂ (fun column operand => (s.rowCell missing row column).Renders operand) columns operands)
    (textual : Forall₂ (fun operand cell => operand.textual.Renders cell) operands cells) :
    Forall₂ (s.CellOf row) columns cells := by
  induction rendered generalizing cells with
  | nil =>
    cases textual
    exact .nil
  | @cons column operand _ _ first _ ih =>
    cases textual with
    | cons text others =>
      refine .cons ?_ (ih others)
      cases operand with
      | sql own =>
        obtain rfl := text.of_pure
        exact cellOf_of_renders first
      | object v => exact absurd text Compile.Renders.not_throw

theorem tupleOf_of_renders {columns : List RowColumn} {missing : Missing} {row : Row} {sql : Sql}
    (h : (s.rowValues columns missing row).Renders sql) : s.TupleOf columns row sql := by
  obtain ⟨operands, rendered, h⟩ := h.of_bind
  obtain ⟨cells, textual, h⟩ := h.of_bind
  exact ⟨cells, cellsOf_of_renders rendered.of_mapM textual.of_mapM, h.of_pure⟩

/-! ## Clauses after the rows -/

theorem rowsEnd_of_conflict {names : List Value} {c : Conflict Value} {sql : Sql}
    (h : (s.conflictClause names c).Renders sql) : RowsEnd sql := by
  obtain ⟨onConflict, onDuplicateKey⟩ := conflictClause_ok h
  cases known : s.capabilities.conflict with
  | onConflict =>
    obtain ⟨rest, rfl⟩ := onConflict known
    exact .clause rest (by simp)
  | onDuplicateKey =>
    cases merge : c.merge with
    | none =>
      simp only [conflictClause, known, merge] at h
      obtain rfl := h.of_pure
      exact .nothing
    | some updates =>
      obtain ⟨rest, rfl⟩ := onDuplicateKey known (by simp [merge])
      exact .clause rest (by simp)
  | unsupported =>
    simp only [conflictClause, known] at h
    exact absurd h Compile.Renders.not_throw

theorem rowsEnd_of_returning {returning : List Value} {sql : Sql} (h : (s.returningClause returning).Renders sql) :
    RowsEnd sql := by
  unfold returningClause at h
  split at h
  · obtain ⟨named, -, h⟩ := h.of_bind
    obtain rfl := h.of_pure
    exact .clause named (by simp)
  · obtain rfl := h.of_pure
    exact .nothing

/-! ## Statements -/

/-- The rows of an insert that have a column are all said; if none has one, a row of defaults is said. -/
theorem saysRows_of_renders {keyword : String} {table sql : Sql} {st : Statement Value} {rows : List Row}
    (filled : rows ≠ []) (h : (s.insertRows keyword table st rows).Renders sql) :
    (rowColumns rows ≠ [] → s.SaysRows rows sql) ∧ (rowColumns rows = [] → s.SaysRows [[]] sql) := by
  obtain ⟨row, others, rfl⟩ := List.exists_cons_of_ne_nil filled
  cases columns : rowColumns (row :: others) with
  | nil =>
    refine ⟨fun named => absurd rfl named, fun _ => ?_⟩
    simp only [insertRows, columns] at h
    obtain ⟨output, -, h⟩ := h.of_bind
    obtain rfl := h.of_pure
    exact .defaults _
  | cons column rest =>
    refine ⟨fun named => ?_, by simp⟩
    simp only [insertRows, columns] at h
    obtain ⟨-, -, h⟩ := h.of_bind
    obtain ⟨names, -, h⟩ := h.of_bind
    obtain ⟨output, -, h⟩ := h.of_bind
    obtain ⟨missing, -, h⟩ := h.of_bind
    obtain ⟨tuples, rendered, h⟩ := h.of_bind
    have each : Forall₂ (s.TupleOf (rowColumns (row :: others))) (row :: others) tuples := by
      rw [columns]
      exact rendered.of_mapM.imp fun _ _ => tupleOf_of_renders
    obtain ⟨conflict, closes, h⟩ : ∃ conflict, RowsEnd conflict ∧
        (do return Sql.word (keyword ++ " ") ++ table ++ Sql.word " " ++ names.parens ++ output ++
          Sql.word " values " ++ Sql.commas tuples ++ conflict ++ (← s.returningClause st.returning) :
            Compile Sql).Renders sql := by
      cases given : st.conflict with
      | none =>
        simp only [given] at h
        obtain ⟨conflict, none_, h⟩ := h.of_bind
        obtain rfl := none_.of_pure
        exact ⟨[], .nothing, h⟩
      | some c =>
        simp only [given] at h
        obtain ⟨conflict, handled, h⟩ := h.of_bind
        exact ⟨conflict, rowsEnd_of_conflict handled, h⟩
    obtain ⟨returning, returned, h⟩ := h.of_bind
    obtain rfl := h.of_pure
    rw [List.append_assoc _ conflict]
    exact .tuples _ _ (by simp [columns]) each (closes.append (rowsEnd_of_returning returned))

theorem suffix_afterWith (tables statement : Sql) : statement <:+ afterWith tables statement := by
  have last (done : Sql) : statement <:+ if done.isBlank || statement.isBlank then done ++ statement
      else done ++ Sql.word " " ++ statement := by
    split <;> exact List.suffix_append ..
  unfold afterWith
  split
  · exact List.suffix_append ..
  · exact last _

theorem suffix_commented (comments : List String) (sql : Sql) : sql <:+ commented comments sql := by
  induction comments with
  | nil => exact List.suffix_rfl
  | cons comment comments ih => exact ih.trans (List.suffix_append [Piece.comment comment, Piece.word " "] _)

/-- A write that adds rows ends with an insert of what it was given. -/
theorem write_insert {st : Statement Value} {sql : Sql} (write : st.method = .insert ∨ st.method = .upsert)
    (h : (s.body st.method st).Renders sql) :
    ∃ keyword statement, (s.insertStatement keyword st (written st)).Renders statement ∧ statement <:+ sql := by
  rcases write with method | method
  · have same : written st = st.insert.getD .null := by simp [written, method]
    rw [method] at h
    obtain ⟨tables, -, h⟩ := h.of_bind
    obtain ⟨keyword, -, h⟩ := h.of_bind
    obtain ⟨statement, rendered, h⟩ := h.of_bind
    obtain rfl := h.of_pure
    exact ⟨keyword, statement, same ▸ rendered, suffix_afterWith ..⟩
  · have same : written st = st.upsert.getD .null := by simp [written, method]
    rw [method] at h
    obtain ⟨-, tables, statement, rendered, rfl⟩ := upsert_inserts h
    exact ⟨_, statement, same ▸ rendered, suffix_afterWith ..⟩

/-! ## Mappings -/

/-- The mappings that a value gives as rows: itself, or those in a sequence. -/
inductive GivesRows : Value → List (List (Value × Value)) → Prop
  | map (entries : List (Value × Value)) : GivesRows (.map entries) [entries]
  | list (rows : List (List (Value × Value))) : GivesRows (.list (rows.map .map)) rows
  | tuple (rows : List (List (Value × Value))) : GivesRows (.tuple (rows.map .map)) rows

variable {values : Value} {rows : List (List (Value × Value))}

theorem mapM_map {read : Value → Except Error (List (Value × Value))}
    (reads : ∀ entries, read (.map entries) = .ok entries) (rows : List (List (Value × Value))) :
    (rows.map Value.map).mapM read = .ok rows := by
  induction rows with
  | nil => rfl
  | cons row rows ih =>
    rw [List.map_cons, List.mapM_cons, reads, ih]
    rfl

theorem GivesRows.rowsOf (h : GivesRows values rows) : rowsOf values = .ok (rows.mapIdx rowOf) := by
  cases h with
  | map entries => rfl
  | list rows =>
    rw [Scope.rowsOf, mapM_map fun _ => rfl]
    rfl
  | tuple rows =>
    rw [Scope.rowsOf, mapM_map fun _ => rfl]
    rfl

theorem GivesRows.notSource (h : GivesRows values rows) : isSource values = false := by
  cases h <;> rfl

theorem rowOf_eq_nil {number : Nat} {entries : List (Value × Value)} : rowOf number entries = [] ↔ entries = [] := by
  simp [rowOf]

/-- Rows have a column if one of their mappings has an entry. -/
theorem rowColumns_mapIdx : rowColumns (rows.mapIdx rowOf) = [] ↔ ∀ entries ∈ rows, entries = [] := by
  constructor
  · intro bare entries known
    by_contra keyed
    obtain ⟨i, h, rfl⟩ := List.getElem_of_mem known
    have row : rowOf i rows[i] ∈ rows.mapIdx rowOf := List.mem_mapIdx.mpr ⟨i, h, rfl⟩
    exact rowColumns_ne_nil row (mt rowOf_eq_nil.mp keyed) bare
  · intro bare
    refine rowColumns_of_nil fun row known => ?_
    obtain ⟨i, h, rfl⟩ := List.mem_mapIdx.mp known
    exact rowOf_eq_nil.mpr (bare _ (List.getElem_mem h))

end Scope

open Scope

/-- A compiled insert of mappings, one or more, says a row for each of them, in their order, if there is one
mapping or if one of them has an entry. If none has, it says a row of defaults, however many they are. -/
theorem Query.compile_inserted_rows {env : Environment} {q : Query Value}
    (write : q.statement.method = .insert ∨ q.statement.method = .upsert) {rows : List (List (Value × Value))}
    (given : GivesRows (Scope.written q.statement) rows) (filled : rows ≠ []) {p p' : Progress} {c : Compiled Value}
    (run : q.compile env p = .ok c p') :
    ∃ sql : Sql, c.sql = sql.text ∧
      ((rows.length = 1 ∨ ∃ entries ∈ rows, entries ≠ []) → (q.scope env).SaysRows (rows.mapIdx rowOf) sql) ∧
      ((∀ entries ∈ rows, entries = []) → (q.scope env).SaysRows [[]] sql) := by
  obtain ⟨body, rendered, text, -⟩ := Query.compile_body run
  obtain ⟨keyword, statement, inserts, last⟩ := write_insert write rendered
  obtain ⟨table, -, inserts⟩ := inserts.of_bind
  rw [given.notSource, if_neg Bool.false_ne_true] at inserts
  obtain ⟨read, same, inserts⟩ := inserts.of_bind
  obtain rfl : rows.mapIdx rowOf = read := Except.ok.inj (given.rowsOf.symm.trans same.of_liftCompile)
  have some_ : rows.mapIdx rowOf ≠ [] := by simpa using filled
  obtain ⟨said, defaults⟩ := saysRows_of_renders some_ inserts
  obtain ⟨before, whole⟩ := last.trans (suffix_commented q.statement.comments body)
  have all (keyed : rowColumns (rows.mapIdx rowOf) ≠ []) :
      (q.scope env).SaysRows (rows.mapIdx rowOf) (commented q.statement.comments body) :=
    whole ▸ (said keyed).after before
  have one (bare : ∀ entries ∈ rows, entries = []) :
      (q.scope env).SaysRows [[]] (commented q.statement.comments body) :=
    whole ▸ (defaults (rowColumns_mapIdx.mpr bare)).after before
  refine ⟨_, text, ?_, one⟩
  rintro (single | ⟨entries, known, keyed⟩)
  · obtain ⟨entries, rfl⟩ := List.length_eq_one_iff.mp single
    by_cases bare : entries = []
    · obtain rfl := bare
      exact one (by simp)
    · exact all fun none_ => bare (rowColumns_mapIdx.mp none_ entries (by simp))
  · exact all fun none_ => keyed (rowColumns_mapIdx.mp none_ entries known)

/-- Three rows, one of them without an entry, which update rows with the same key and return a column. -/
theorem Query.compile_inserted_rows_sparse :
    let client : Client Value := { dialect := .postgres }
    let env : Environment := { client }
    let rows : List (List (Value × Value)) := [[(.str "a", .int 1)], [], [(.str "b", .int 2), (.str "a", .null)]]
    let q := ((((Query.ofClient client).from_ (.str "t")).insert (.list (rows.map .map)) .null).onConflict
      [.str "a"] (some .null)).returning [.str "b"]
    (q.statement.method = .insert ∨ q.statement.method = .upsert) ∧ GivesRows (Scope.written q.statement) rows ∧
      rows ≠ [] ∧ ∃ c p', q.compile env {} = .ok c p' ∧ ∃ sql : Sql, c.sql = sql.text ∧
        ((rows.length = 1 ∨ ∃ entries ∈ rows, entries ≠ []) → (q.scope env).SaysRows (rows.mapIdx rowOf) sql) ∧
        ((∀ entries ∈ rows, entries = []) → (q.scope env).SaysRows [[]] sql) := by
  intro client env rows q
  have given : GivesRows (Scope.written q.statement) rows := .list rows
  have filled : rows ≠ [] := List.cons_ne_nil _ _
  have succeeds : (q.compile env).outcome.1.isOk = true := by decide +kernel
  unfold Compile.outcome at succeeds
  split at succeeds
  next c p' run => exact ⟨.inl rfl, given, filled, c, p', run, Query.compile_inserted_rows (.inl rfl) given filled run⟩
  · cases succeeds

/-- Two rows without an entry are one row of defaults, as one such row is. -/
theorem Query.compile_inserted_rows_lost :
    let client : Client Value := { dialect := .mysql }
    let env : Environment := { client }
    let q (rows : List (List (Value × Value))) :=
      ((Query.ofClient client).from_ (.str "t")).insert (.list (rows.map .map)) .null
    let sql (rows : List (List (Value × Value))) := ((q rows).compile env).outcome.1.toOption.map Compiled.sql
    sql [[], []] = some "insert into \x60t\x60 () values ()" ∧ sql [[], []] = sql [[]] := by
  decide +kernel

end SqlBuilder
