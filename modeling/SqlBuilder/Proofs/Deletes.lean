import SqlBuilder.Proofs.Successes

/-!
# What a deletion says

A deletion is rendered from its common tables, its table, its conditions and the columns that it returns.
Its other clauses have no place in it: whatever a deletion is joined with or limited to, it is the same.

* `Statement.DeletesAlike`: statements that agree on what a deletion is rendered from.
* `Scope.delete_congr`: their renderings are one.
* `Scope.delete_ok`: the clauses that a deletion shows.
* `Query.compile_delete`: both, of compiled deletions.
-/

namespace SqlBuilder

/-! ## Clauses without a place -/

/-- Two statements agree on what a deletion is rendered from; their joins, groups, orders, limits and other
clauses may differ. -/
structure Statement.DeletesAlike (st st' : Statement Value) : Prop where
  method : st.method = st'.method
  comments : st.comments = st'.comments
  commonTables : st.commonTables = st'.commonTables
  schema : st.schema = st'.schema
  table : st.table = st'.table
  wheres : st.wheres = st'.wheres
  returning : st.returning = st'.returning
  asName : st.asName = st'.asName

theorem Scope.delete_congr (s : Scope) {st st' : Statement Value} (h : st.DeletesAlike st') :
    s.delete st = s.delete st' := by
  simp only [Scope.delete, Scope.table, Scope.filtered, h.commonTables, h.schema, h.table, h.wheres, h.returning]

/-- Queries whose statements are rendered alike are compiled to the same, if they agree on what stands beside the
rendering. -/
theorem Query.compile_edit_congr {env : Environment} {q : Query Value} {f : Statement Value → Statement Value}
    (method : (f q.statement).method = q.statement.method) (comments : (f q.statement).comments = q.statement.comments)
    (asName : (f q.statement).asName = q.statement.asName)
    (returning : (f q.statement).returning = q.statement.returning)
    (body : (q.scope env).body q.statement.method (f q.statement) =
      (q.scope env).body q.statement.method q.statement) : (q.edit f).compile env = q.compile env := by
  have statement : (q.scope env).statement (f q.statement).method (f q.statement) =
      (q.scope env).statement q.statement.method q.statement := by
    simp only [Scope.statement, Scope.checked, method, comments, body, asName]
  have rendered : env.nested.query q.client none none (q.edit f) = env.nested.query q.client none none q :=
    statement
  have compiled : env.nested.compiledQuery (q.edit f) = env.nested.compiledQuery q := by
    unfold Nested.compiledQuery
    simp only [Query.edit, returning] at rendered ⊢
    rw [rendered]
  exact congrArg env.settled compiled

/-- Deletions that agree on what they are rendered from are compiled to the same. -/
theorem Query.compile_delete_congr {env : Environment} {q : Query Value} (delete : q.statement.method = .delete)
    {f : Statement Value → Statement Value} (h : (f q.statement).DeletesAlike q.statement) :
    (q.edit f).compile env = q.compile env := by
  refine Query.compile_edit_congr h.method h.comments h.asName h.returning ?_
  rw [delete]
  exact Scope.delete_congr _ h

/-! ## Clauses with a place -/

/-- The clauses of a deletion, rendered. -/
structure Deletion where
  tables : Sql
  table : Sql
  output : Sql
  wheres : Sql
  returning : Sql

namespace Deletion

/-- The text of a deletion and its values. -/
def sql (d : Deletion) : Sql :=
  Scope.afterWith d.tables (Sql.word "delete from " ++ d.table ++ (d.output ++ d.wheres ++ d.returning))

/-- The clauses are those of a statement; every condition of it is among them. -/
structure Of (d : Deletion) (s : Scope) (st : Statement Value) : Prop where
  tables : (s.withClause st.commonTables).Renders d.tables
  table : (s.table st).Renders d.table
  output : (s.outputClause "deleted" st.returning).Renders d.output
  wheres : (s.conditionClause .where_ " where" st.wheres).Renders d.wheres
  conditions : ∀ c ∈ st.wheres, s.Shows (s.condition .where_ c) d.wheres
  returning : (s.returningClause st.returning).Renders d.returning

end Deletion

/-- A deletion is its clauses. -/
theorem Scope.delete_ok {s : Scope} {st : Statement Value} {sql : Sql} (h : (s.delete st).Renders sql) :
    ∃ d : Deletion, d.Of s st ∧ sql = d.sql := by
  obtain ⟨tables, common, h⟩ := h.of_bind
  obtain ⟨table, named, h⟩ := h.of_bind
  obtain ⟨rest, filtered, h⟩ := h.of_bind
  obtain rfl := h.of_pure
  obtain ⟨output, shown, filtered⟩ := filtered.of_bind
  obtain ⟨wheres, tested, filtered⟩ := filtered.of_bind
  obtain ⟨returning, returned, filtered⟩ := filtered.of_bind
  obtain rfl := filtered.of_pure
  exact ⟨⟨tables, table, output, wheres, returning⟩,
    ⟨common, named, shown, tested, Scope.conditionClause_ok tested, returned⟩, rfl⟩

/-! ## Compiled deletions -/

/-- A compiled deletion shows its common tables, its table, every one of its conditions and the columns that
it returns, and nothing else: with other joins, groups, orders, limits or set operations it is compiled to
the same. -/
theorem Query.compile_delete {env : Environment} {q : Query Value} (delete : q.statement.method = .delete) :
    (∀ f : Statement Value → Statement Value, (f q.statement).DeletesAlike q.statement →
      (q.edit f).compile env = q.compile env) ∧
    ∀ {p p' : Progress} {c : Compiled Value}, q.compile env p = .ok c p' →
      ∃ d : Deletion, d.Of (q.scope env) q.statement ∧
        c.sql = (Scope.commented q.statement.comments d.sql).text ∧ c.bindings = d.sql.bindings := by
  refine ⟨fun f => Query.compile_delete_congr delete, fun run => ?_⟩
  obtain ⟨body, rendered, sql, bindings⟩ := Query.compile_body run
  rw [delete] at rendered
  obtain ⟨d, clauses, rfl⟩ := Scope.delete_ok rendered
  exact ⟨d, clauses, sql, bindings⟩

/-- A deletion with a condition, and with a join, an order and a limit that it does not show. -/
theorem Query.compile_delete_condition :
    let client : Client Value := { dialect := .postgres }
    let env : Environment := { client }
    let q := (((Query.ofClient client).from_ (.str "users")).addCondition .where_ .and false
      (.compare (.str "age") (.str ">") (.int 5))).delete .null
    let narrow (st : Statement Value) : Statement Value :=
      { st with joins := [{ table := .str "pets" }], orders := [.by_ (.str "age") .null none], limit := some 1 }
    q.statement.method = .delete ∧ (q.edit narrow).compile env = q.compile env ∧
      ∃ c p', q.compile env {} = .ok c p' ∧ ∃ d : Deletion, d.Of (q.scope env) q.statement ∧
        c.sql = (Scope.commented q.statement.comments d.sql).text ∧ c.bindings = d.sql.bindings := by
  intro client env q narrow
  have same : (narrow q.statement).DeletesAlike q.statement := ⟨rfl, rfl, rfl, rfl, rfl, rfl, rfl, rfl⟩
  obtain ⟨congr, clauses⟩ := @Query.compile_delete env q rfl
  have succeeds : (q.compile env).outcome.1.isOk = true := by decide +kernel
  unfold Compile.outcome at succeeds
  split at succeeds
  next c p' run => exact ⟨rfl, congr narrow same, c, p', run, clauses run⟩
  · cases succeeds

/-- A deletion that has a limit, or a join, is compiled to the deletion without it. -/
theorem Query.compile_delete_unlimited :
    let client : Client Value := { dialect := .postgres }
    let env : Environment := { client }
    let q := ((Query.ofClient client).from_ (.str "t")).delete .null
    let limited := q.edit fun st => { st with limit := some 1 }
    let joined := q.addJoin { table := .str "b" }
    limited.statement.method = .delete ∧ limited.statement.limit = some 1 ∧
      joined.statement.method = .delete ∧ joined.statement.joins ≠ [] ∧
      limited.compile env = q.compile env ∧ joined.compile env = q.compile env ∧
      (q.compile env).outcome.1.toOption.map Compiled.sql = some "delete from \"t\"" := by
  intro client env q limited joined
  refine ⟨rfl, rfl, rfl, by simp [joined, Query.addJoin, Query.edit], ?_, ?_, by decide +kernel⟩
  · exact Query.compile_delete_congr rfl ⟨rfl, rfl, rfl, rfl, rfl, rfl, rfl, rfl⟩
  · exact Query.compile_delete_congr rfl ⟨rfl, rfl, rfl, rfl, rfl, rfl, rfl, rfl⟩

end SqlBuilder
