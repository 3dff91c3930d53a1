import SqlBuilder.Proofs.ConfinedClauses

/-!
# Statements that are confined to a region

The rendering of writes and of whole statements in two stores that agree in a region.

* `View.insertRows`, `View.insertStatement`: inserts, from rows or from a query.
* `View.update`, `View.delete`, `View.truncate`: the other writes.
* `View.statement`: statements of all kinds.
-/

namespace SqlBuilder.Region.View

variable {R : Region} (V : R.View)

/-! ## Returned columns and assignments -/

theorem outputClause (source : String) {returning : List Value} (h : ∀ v ∈ returning, R.value v) :
    R.Renders (V.scope.outputClause source returning) (V.other.outputClause source returning) R.sql := by
  have capabilities : V.other.capabilities = V.scope.capabilities := rfl
  unfold Scope.outputClause
  rw [capabilities]
  split
  · exact .pure sql_nil
  · exact .pure sql_nil
  · exact V.unsupported _ _
  · refine (Confined.mapM (Q := R.sql) fun column hc => ?_).bind fun _ hp => .pure (by simpa using hp)
    exact (V.wrap (h column hc)).bind fun _ ha => .pure (by simp [ha])

theorem returningClause {returning : List Value} (h : ∀ v ∈ returning, R.value v) :
    R.Renders (V.scope.returningClause returning) (V.other.returningClause returning) R.sql := by
  have capabilities : V.other.capabilities = V.scope.capabilities := rfl
  unfold Scope.returningClause
  rw [capabilities]
  split
  · exact (V.columnizeAll h).bind fun _ ha => .pure (by simp [ha])
  · exact .pure sql_nil

theorem assignment {entry : Value × Value} (h : R.value entry.1 ∧ R.value entry.2) :
    R.Renders (V.scope.assignment entry) (V.other.assignment entry) R.sql := by
  obtain ⟨column, v⟩ := entry
  refine (V.trackUndefined h.1 v).bind fun _ _ => (V.storable h.2).bind fun stored hs => ?_
  exact (V.wrap h.1).bind fun _ ht => (V.parameter hs).bind fun _ ha => .pure (by simp [ht, ha])

theorem assignments {entries : List (Value × Value)} (h : ∀ e ∈ entries, R.value e.1 ∧ R.value e.2) :
    R.Renders (V.scope.assignments entries) (V.other.assignments entries) R.sql :=
  (Confined.mapM fun e he => V.assignment (h e he)).bind fun _ hp => .pure ((sql_commas _).mpr hp)

theorem counters {cs : List (Counter Value)} (h : ∀ c ∈ cs, R.value c.step) :
    R.Renders (V.scope.counters cs) (V.other.counters cs) R.sql := by
  refine (Confined.mapM (Q := R.sql) fun c hc => ?_).bind fun _ hp => .pure ((sql_commas _).mpr hp)
  exact (V.wrapString _).bind fun _ ht => (V.parameter (h c hc)).bind fun _ ha => .pure (by simp [ht, ha])

/-! ## Conflicts -/

theorem mergeClause (before after : String) {columns : List Value} {updates : Value}
    (hc : ∀ v ∈ columns, R.value v) (hu : R.value updates) :
    R.Renders (V.scope.mergeClause before after columns updates) (V.other.mergeClause before after columns updates)
      R.sql := by
  have taken {columns : List Value} (hc : ∀ v ∈ columns, R.value v) : R.Renders
      (do
        return Sql.commas (← columns.mapM fun column => do
          let target ← V.scope.wrap column
          return target ++ Sql.word before ++ (← V.scope.wrap column) ++ Sql.when (!after.isEmpty) (Sql.word after)))
      (do
        return Sql.commas (← columns.mapM fun column => do
          let target ← V.other.wrap column
          return target ++ Sql.word before ++ (← V.other.wrap column) ++ Sql.when (!after.isEmpty) (Sql.word after)))
      R.sql := by
    refine (Confined.mapM (Q := R.sql) fun column hm => ?_).bind fun _ hp => .pure ((sql_commas _).mpr hp)
    refine (V.wrap (hc column hm)).bind fun _ ht => (V.wrap (hc column hm)).bind fun _ ha => .pure ?_
    simp [ht, ha, sql_when]
  unfold Scope.mergeClause
  split
  · exact V.assignments (value_map.mp hu)
  · refine .ite (fun _ => ?_) fun _ => (Confined.pure hc).bind fun _ => taken
    exact (Renders.liftCompile (outcome_items hu)).bind fun _ => taken

theorem conflictClause {columns : List Value} {c : Conflict Value} (hc : ∀ v ∈ columns, R.value v)
    (h : c.Of (.operands R.value)) :
    R.Renders (V.scope.conflictClause columns c) (V.other.conflictClause columns c) R.sql := by
  have capabilities : V.other.capabilities = V.scope.capabilities := rfl
  unfold Scope.conflictClause
  rw [capabilities]
  obtain ⟨targets, merge⟩ := c
  have merged (before after : String) {updates : Value} (given : merge = some updates) : R.Renders
      (V.scope.mergeClause before after columns updates) (V.other.mergeClause before after columns updates) R.sql :=
    V.mergeClause before after hc (h.merge updates given)
  have targeted {rest rest' : Sql → Compile Sql}
      (h' : ∀ {target}, R.sql target → R.Renders (rest target) (rest' target) R.sql) :
      R.Renders
        (if targets.isEmpty then do rest (← pure []) else do
          rest (← pure (Sql.word " " ++ (← V.scope.columnizeAll targets).parens)))
        (if targets.isEmpty then do rest' (← pure []) else do
          rest' (← pure (Sql.word " " ++ (← V.other.columnizeAll targets).parens))) R.sql := by
    refine .ite (fun _ => (Confined.pure (P := R.sql) sql_nil).bind fun _ => h') fun _ => ?_
    exact (V.columnizeAll h.columns).bind fun _ ha => (Confined.pure (P := R.sql) (by simp [ha])).bind fun _ => h'
  generalize V.scope.capabilities.conflict = support
  cases support with
  | onConflict =>
    cases merge with
    | none => exact targeted fun ht => .pure (by simp [ht])
    | some updates => exact targeted fun ht => (merged _ _ rfl).bind fun _ ha => .pure (by simp [ht, ha])
  | onDuplicateKey =>
    cases merge with
    | none => exact .pure sql_nil
    | some updates => exact (merged _ _ rfl).bind fun _ ha => .pure (by simp [ha])
  | unsupported => exact V.unsupported _ _

theorem insertKeyword (c : Option (Conflict Value)) :
    R.Renders (V.scope.insertKeyword c) (V.other.insertKeyword c) fun _ => True := by
  have capabilities : V.other.capabilities = V.scope.capabilities := rfl
  unfold Scope.insertKeyword
  rw [capabilities]
  split
  · exact V.unsupported _ _
  · exact .pure trivial
  · exact .pure trivial

/-! ## Rows -/

/-- The columns and the values of some rows lie in a region. -/
def rows (R : Region) (rows : List Scope.Row) : Prop :=
  ∀ row ∈ rows, ∀ e ∈ row, R.value e.1.name ∧ R.value e.2

theorem rows_numbered {entries : List (List (Value × Value))}
    (h : ∀ es ∈ entries, ∀ e ∈ es, R.value e.1 ∧ R.value e.2) : rows R (entries.mapIdx Scope.rowOf) := by
  intro row hr e he
  obtain ⟨i, hi, rfl⟩ := List.mem_mapIdx.mp hr
  obtain ⟨j, hj, rfl⟩ := List.mem_mapIdx.mp he
  exact h _ (List.getElem_mem hi) _ (List.getElem_mem hj)

/-- The rows of a sequence of mappings. -/
theorem outcome_rowItems {items : List Value} (h : ∀ w ∈ items, R.value w) : R.Outcome (rows R)
    (do
      return (← items.mapM fun
        | .map entries => Except.ok entries
        | _ => .error (.invalid .insertValues)).mapIdx Scope.rowOf) := by
  refine (Outcome.mapM (Q := fun es => ∀ e ∈ es, R.value e.1 ∧ R.value e.2) fun w hw => ?_).bind
    fun _ hes => rows_numbered hes
  split
  · exact value_map.mp (h _ hw)
  · exact error_invalid _

theorem outcome_rowsOf {v : Value} (h : R.value v) : R.Outcome (rows R) (Scope.rowsOf v) := by
  unfold Scope.rowsOf
  split
  · exact rows_numbered (by simpa using value_map.mp h)
  · exact outcome_rowItems (value_list.mp h)
  · exact outcome_rowItems (value_tuple.mp h)
  · exact error_invalid _

/-- Columns with those of more cells. -/
theorem value_withColumns {cells : Scope.Row} (known : ∀ e ∈ cells, R.value e.1.name)
    {columns : List Scope.RowColumn} (hc : ∀ c ∈ columns, R.value c.name) :
    ∀ c ∈ cells.foldl (fun columns (c, _) =>
      if columns.any fun d => d.same c then columns else columns ++ [c]) columns, R.value c.name := by
  induction cells generalizing columns with
  | nil => exact hc
  | cons e cells ih =>
    refine ih (fun e he => known e (.tail _ he)) fun c hm => ?_
    dsimp only at hm
    split at hm
    · exact hc c hm
    · rcases List.mem_append.mp hm with old | new
      · exact hc c old
      · cases List.mem_singleton.mp new
        exact known e (.head _)

theorem value_rowColumns {rs : List Scope.Row} (h : rows R rs) : ∀ c ∈ Scope.rowColumns rs, R.value c.name := by
  have cells : ∀ e ∈ rs.flatten, R.value e.1.name := by
    intro e he
    obtain ⟨row, hr, he⟩ := List.mem_flatten.mp he
    exact (h row hr e he).1
  exact value_withColumns cells (by simp)

theorem missing (rs : List Scope.Row) (columns : List Scope.RowColumn) :
    R.Renders (V.scope.missing rs columns) (V.other.missing rs columns) fun _ => True := by
  have client : V.other.client = V.scope.client := rfl
  have capabilities : V.other.capabilities = V.scope.capabilities := rfl
  unfold Scope.missing
  rw [client, capabilities]
  refine .ite (fun _ => .pure trivial) fun _ => .ite (fun _ => .pure trivial) fun _ => ?_
  exact .ite (fun _ => (Renders.report _).bind fun _ _ => .pure trivial) fun _ => .pure trivial

theorem rowCell {row : Scope.Row} (missing : Scope.Missing) (column : Scope.RowColumn)
    (h : ∀ e ∈ row, R.value e.1.name ∧ R.value e.2) :
    R.Renders (V.scope.rowCell missing row column) (V.other.rowCell missing row column) R.operand := by
  unfold Scope.rowCell
  split
  next v found =>
    obtain ⟨e, lookup, rfl⟩ := Option.map_eq_some_iff.mp found
    exact V.stored (h e (List.mem_of_find?_eq_some lookup)).2
  · exact .pure (sql_word _)
  · exact (bound (value_scalar _)).bind fun _ ha => .pure ha

theorem rowValues {row : Scope.Row} (columns : List Scope.RowColumn) (missing : Scope.Missing)
    (h : ∀ e ∈ row, R.value e.1.name ∧ R.value e.2) :
    R.Renders (V.scope.rowValues columns missing row) (V.other.rowValues columns missing row) R.sql :=
  (Confined.mapM fun column _ => V.rowCell missing column h).bind fun _ ho =>
    (textuals ho).bind fun _ hp => .pure (by simpa using hp)

theorem trackRows (rs : List Scope.Row) (columns : List Scope.RowColumn) :
    R.Renders (Scope.trackRows rs columns) (Scope.trackRows rs columns) fun _ => True := by
  unfold Scope.trackRows
  induction columns with
  | nil => exact .pure trivial
  | cons column columns ih =>
    refine Confined.bind (P := fun _ => True) ?_ fun _ _ => ih
    exact .ite (fun _ => Renders.markUndefined _) fun _ => .pure trivial

theorem insertRows (keyword : String) {table : Sql} {st : Statement Value} {rs : List Scope.Row}
    (ht : R.sql table) (h : st.Of (.operands R.value)) (hr : rows R rs) :
    R.Renders (V.scope.insertRows keyword table st rs) (V.other.insertRows keyword table st rs) R.sql := by
  have columns := value_rowColumns hr
  have capabilities : V.other.capabilities = V.scope.capabilities := rfl
  unfold Scope.insertRows
  rw [capabilities]
  extract_lets target
  have targeted : R.sql target := by simp [target, ht]
  split
  · exact .pure ((sql_strayed).mpr ht)
  · exact (V.outputClause _ h.returning).bind fun _ ha => .pure (by simp [targeted, ha])
  next rs' _ _ _ _ =>
    have names : ∀ v ∈ (Scope.rowColumns rs').map (·.name), R.value v := by
      intro v hv
      obtain ⟨c, hc, rfl⟩ := List.mem_map.mp hv
      exact columns c hc
    refine (trackRows _ _).bind fun _ _ => (V.columnizeAll names).bind fun _ hn => ?_
    refine (V.outputClause _ h.returning).bind fun _ ho => (V.missing _ _).bind fun missing _ => ?_
    refine (Confined.mapM fun row hm => V.rowValues _ missing (hr row hm)).bind fun values hv => ?_
    have ending {conflict : Sql} (hc : R.sql conflict) {head : Sql} (hh : R.sql head) : R.Renders
        (do
          return head ++ Sql.word " values " ++ Sql.commas values ++ conflict ++
            (← V.scope.returningClause st.returning))
        (do
          return head ++ Sql.word " values " ++ Sql.commas values ++ conflict ++
            (← V.other.returningClause st.returning)) R.sql := by
      refine (V.returningClause h.returning).bind fun _ ha => .pure ?_
      simp only [sql_append, sql_word, sql_commas, and_true]
      exact ⟨⟨⟨hh, hv⟩, hc⟩, ha⟩
    cases given : st.conflict with
    | some c =>
      exact (V.conflictClause names (h.conflict c given)).bind fun _ hc => ending hc (by simp [targeted, hn, ho])
    | none => exact (Confined.pure (P := R.sql) sql_nil).bind fun _ hc => ending hc (by simp [targeted, hn, ho])

theorem sql_sourced {output body : Sql} (ho : R.sql output) (hb : R.sql body) : R.sql (Scope.sourced output body) := by
  unfold sql
  rw [Scope.bindings_sourced]
  exact fun v hv => (List.mem_append.mp hv).elim (hb v) (ho v)

theorem insertStatement (keyword : String) {st : Statement Value} {v : Value} (h : st.Of (.operands R.value))
    (hv : R.value v) :
    R.Renders (V.scope.insertStatement keyword st v) (V.other.insertStatement keyword st v) R.sql := by
  refine (V.table h).bind fun table ht => .ite (fun _ => ?_) fun _ => ?_
  · refine (V.subquery hv).bind fun _ hb => (V.outputClause _ h.returning).bind fun _ ho => .pure ?_
    simp [ht, sql_sourced ho hb]
  · exact (Renders.liftCompile (outcome_rowsOf hv)).bind fun _ => V.insertRows keyword ht h

/-! ## Writes -/

theorem sql_afterWith {tables statement : Sql} (ht : R.sql tables) (hs : R.sql statement) :
    R.sql (Scope.afterWith tables statement) := by
  unfold sql
  rw [Likeness.Setting.bindings_afterWith]
  exact fun v hv => (List.mem_append.mp hv).elim (ht v) (hs v)

theorem insert {st : Statement Value} (h : st.Of (.operands R.value)) :
    R.Renders (V.scope.insert st) (V.other.insert st) R.sql := by
  refine (V.withClause h.commonTables).bind fun _ ht => (V.insertKeyword _).bind fun keyword _ => ?_
  have rows := value_getD h.insert (value_scalar .null)
  exact (V.insertStatement keyword h rows).bind fun _ ha => .pure (sql_afterWith ht ha)

/-- An upsert that handles no conflicts. -/
theorem plainUpsert {st : Statement Value} (h : st.Of (.operands R.value)) : R.Renders
    (do
      let tables ← V.scope.withClause st.commonTables
      match V.scope.capabilities.upsert with
      | .into =>
        return Scope.afterWith tables (← V.scope.insertStatement "upsert into" st (st.upsert.getD .null))
      | .unsupported => V.scope.unsupported "upsert")
    (do
      let tables ← V.other.withClause st.commonTables
      match V.other.capabilities.upsert with
      | .into =>
        return Scope.afterWith tables (← V.other.insertStatement "upsert into" st (st.upsert.getD .null))
      | .unsupported => V.other.unsupported "upsert") R.sql := by
  have capabilities : V.other.capabilities = V.scope.capabilities := rfl
  refine (V.withClause h.commonTables).bind fun _ ht => ?_
  rw [capabilities]
  cases V.scope.capabilities.upsert with
  | into =>
    have rows := value_getD h.upsert (value_scalar .null)
    exact (V.insertStatement _ h rows).bind fun _ ha => .pure (sql_afterWith ht ha)
  | unsupported => exact V.unsupported _ _

theorem upsert {st : Statement Value} (h : st.Of (.operands R.value)) :
    R.Renders (V.scope.upsert st) (V.other.upsert st) R.sql :=
  .ite (fun _ => (V.unsupported (P := fun _ => True) _ _).bind fun _ _ => V.plainUpsert h) fun _ => V.plainUpsert h

theorem filtered (source : String) {st : Statement Value} (h : st.Of (.operands R.value)) :
    R.Renders (V.scope.filtered source st) (V.other.filtered source st) R.sql := by
  refine (V.outputClause source h.returning).bind fun _ ho => (V.conditionClause _ _ h.wheres).bind fun _ hw => ?_
  exact (V.returningClause h.returning).bind fun _ hr => .pure (by simp [ho, hw, hr])

theorem update {st : Statement Value} (h : st.Of (.operands R.value)) :
    R.Renders (V.scope.update st) (V.other.update st) R.sql := by
  unfold Scope.update
  refine (V.withClause h.commonTables).bind fun tables hw => (V.table h).bind fun table ht => ?_
  refine (V.tableHint _ _).bind fun hint hh => ?_
  have ending {values steps : List Sql} (hv : ∀ a ∈ values, R.sql a) (hs : ∀ a ∈ steps, R.sql a) : R.Renders
      (if (values ++ steps).isEmpty then throw .emptyUpdate else do
        return Scope.afterWith tables (Sql.word "update " ++ table ++ hint ++ Sql.word " set " ++
          Sql.commas (values ++ steps) ++ (← V.scope.filtered "inserted" st)))
      (if (values ++ steps).isEmpty then throw .emptyUpdate else do
        return Scope.afterWith tables (Sql.word "update " ++ table ++ hint ++ Sql.word " set " ++
          Sql.commas (values ++ steps) ++ (← V.other.filtered "inserted" st))) R.sql := by
    have assigned : R.sql (Sql.commas (values ++ steps)) :=
      (sql_commas _).mpr fun a ha => (List.mem_append.mp ha).elim (hv a) (hs a)
    refine .ite (fun _ => .throw (error_of_ne (by simp))) fun _ => (V.filtered _ h).bind fun _ ha => .pure ?_
    refine sql_afterWith hw ?_
    simp only [sql_append, sql_word, and_true, true_and]
    exact ⟨⟨⟨ht, hh⟩, assigned⟩, ha⟩
  have single {a : Sql} (ha : R.sql a) : R.Renders (pure [a]) (pure [a]) fun parts => ∀ a ∈ parts, R.sql a :=
    .pure (by simpa using ha)
  have none_ : R.Renders (pure []) (pure []) fun parts => ∀ a ∈ parts, R.sql a := .pure (by simp)
  have stepped {values : List Sql} (hv : ∀ a ∈ values, R.sql a) := Confined.ite (p := st.counters.isEmpty = true)
    (fun _ => none_.bind fun _ => ending hv)
    fun _ => (V.counters h.counters).bind fun _ ha => (single ha).bind fun _ => ending hv
  exact .ite (fun _ => none_.bind fun _ => stepped)
    fun _ => (V.assignments h.update).bind fun _ ha => (single ha).bind fun _ => stepped

theorem delete {st : Statement Value} (h : st.Of (.operands R.value)) :
    R.Renders (V.scope.delete st) (V.other.delete st) R.sql := by
  refine (V.withClause h.commonTables).bind fun _ hw => (V.table h).bind fun _ ht => ?_
  exact (V.filtered _ h).bind fun _ ha => .pure (sql_afterWith hw (by simp [ht, ha]))

theorem truncate {st : Statement Value} (h : st.Of (.operands R.value)) :
    R.Renders (V.scope.truncate st) (V.other.truncate st) R.sql := by
  have template (slotted : SlottedStatement) :
      R.Renders (templateOf slotted) (templateOf slotted) fun _ => True := by
    unfold templateOf
    split
    · exact .pure trivial
    · exact .throw error_noSuchMember
    · exact .throw error_noSuchMember
  have slots (template : String) :
      R.Renders (slotted "table" template) (slotted "table" template) fun _ => True := by
    unfold slotted
    split
    · exact .pure trivial
    next fault _ => exact .throw (error_of_ne (by cases fault <;> nofun))
  refine (template _).bind fun template _ => (V.table h).bind fun table ht => ?_
  refine (slots template).bind fun parts _ => .pure ?_
  simpa [sql] using ht

/-! ## Statements -/

theorem fromClause {st : Statement Value} (h : st.Of (.operands R.value)) :
    R.Renders (V.scope.fromClause st) (V.other.fromClause st) R.sql :=
  .ite (fun _ => .pure sql_nil) fun _ => (V.table h).bind fun _ ht => (V.tableHint _ _).bind fun _ hh =>
    .pure (by simp [ht, hh])

theorem select {st : Statement Value} (h : st.Of (.operands R.value)) :
    R.Renders (V.scope.select st) (V.other.select st) R.sql := by
  refine (V.withClause h.commonTables).bind fun _ h₁ => (V.projection _ _ h.projection).bind fun _ h₂ => ?_
  refine (V.fromClause h).bind fun _ h₃ => (V.joinClause h.joins).bind fun _ h₄ => ?_
  refine (V.conditionClause _ _ h.wheres).bind fun _ h₅ => (V.groupClause h.groups).bind fun _ h₆ => ?_
  refine (V.conditionClause _ _ h.havings).bind fun _ h₇ => (V.orderClause h.orders).bind fun _ h₈ => ?_
  refine (V.paging st).bind fun _ h₉ => (V.unionClause h.unions).bind fun _ h₁₀ => ?_
  refine (V.lockClause h.lockTables).bind fun _ h₁₁ => .pure ?_
  simp [h₁, h₂, h₃, h₄, h₅, h₆, h₇, h₈, h₉, h₁₀, h₁₁]

theorem body (method : Method) {st : Statement Value} (h : st.Of (.operands R.value)) :
    R.Renders (V.scope.body method st) (V.other.body method st) R.sql := by
  cases method with
  | select | first => exact V.select h
  | insert => exact V.insert h
  | update => exact V.update h
  | delete => exact V.delete h
  | upsert => exact V.upsert h
  | truncate => exact V.truncate h

theorem columnTexts (columns : List Value) :
    R.Renders (Scope.columnTexts columns) (Scope.columnTexts columns) fun _ => True := by
  refine (Confined.mapM (Q := fun _ => True) fun column _ => ?_).mono fun _ _ => trivial
  split
  · exact .pure trivial
  · exact .throw error_wrongType

theorem checked (method : Method) {st : Statement Value} (h : st.Of (.operands R.value)) :
    R.Renders (V.scope.checked method st) (V.other.checked method st) R.sql := by
  refine (V.body method h).bind fun body hb => .get_bind fun p _ => .ite (fun _ => ?_) fun _ => .pure ?_
  · exact (columnTexts _).bind fun _ _ => .throw (error_of_ne nofun)
  · simpa [sql] using hb

theorem statement (method : Method) {st : Statement Value} (h : st.Of (.operands R.value)) :
    R.Renders (V.scope.statement method st) (V.other.statement method st) R.rendered :=
  (Renders.ownColumns (V.checked method h)).bind fun _ ha => .pure ⟨ha, h.asName⟩

end SqlBuilder.Region.View
