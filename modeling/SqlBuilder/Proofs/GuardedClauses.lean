import SqlBuilder.Proofs.Clauses
import SqlBuilder.Proofs.GuardedConditions

/-!
# Guarded clauses

The clauses of a select beside the same ones without guards. No clause but the conditions marks a column.

* `Guard.withClause`, `Guard.projection`, `Guard.table`: what comes before the conditions.
* `Guard.joinClause`: joins, whose conditions have to be exact.
* `Guard.orderClause`, `Guard.paging`, `Guard.unionClause`: what comes after them.
-/

namespace SqlBuilder.Guard

variable (G : Guard)

/-! ## Selects -/

theorem aliasedIf (sql : Sql) (asName : Value) :
    Guarded False (G.scope.aliasedIf sql asName) (G.free.aliasedIf sql asName) := by
  unfold Scope.aliasedIf
  exact .ite (fun _ => (G.aliasName _).bind fun _ => .pure _) fun _ => .pure _

theorem commonTable (t : CommonTable Value) :
    Guarded False (G.scope.commonTable t) (G.free.commonTable t) := by
  unfold Scope.commonTable
  refine (G.wrapString _).bind fun _ => ?_
  cases t.columns.filter Value.isTruthy with
  | some columns =>
    split <;> exact (G.columnize _).bind fun _ => (Guarded.pure _).bind fun _ => (G.subquery _).bind fun _ => .pure _
  | none => split <;> exact (Guarded.pure _).bind fun _ => (G.subquery _).bind fun _ => .pure _

theorem withClause (tables : List (CommonTable Value)) :
    Guarded False (G.scope.withClause tables) (G.free.withClause tables) := by
  unfold Scope.withClause
  refine .ite (fun _ => .pure _) fun _ => ?_
  exact (Guarded.mapM_free fun t _ => G.commonTable t).bind fun _ => .pure _

theorem aggregate (function : String) (value : Value) (distinct : Bool) (asName : Value) :
    Guarded False (G.scope.aggregate function value distinct asName)
      (G.free.aggregate function value distinct asName) := by
  unfold Scope.aggregate
  generalize Scope.aggregateOperand value asName = operand
  obtain ⟨value, asName⟩ := operand
  simp only
  split
  · exact (G.columnizeAll _).bind fun _ => G.aliasedIf _ _
  · exact (G.wrap _).bind fun _ => G.aliasedIf _ _

theorem windowTerms (terms : List (Value × Value)) :
    Guarded False (G.scope.windowTerms terms) (G.free.windowTerms terms) := by
  refine (Guarded.mapM_free fun e _ => ?_).bind fun _ => .pure _
  refine (G.wrapOperand _).bind fun _ => (Guarded.textual _).bind fun _ => ?_
  exact .ite (fun _ => (G.direction _).bind fun _ => .pure _) fun _ => .pure _

theorem window (w : Window Value) : Guarded False (G.scope.window w) (G.free.window w) := by
  unfold Scope.window
  split
  · exact (G.unwrapOrNothing _).bind fun _ => (G.spell _).bind fun _ => G.aliasedIf _ _
  · refine .ite (fun _ => ?_) fun _ => ?_
    · exact (Guarded.pure _).bind fun _ => (G.windowTerms _).bind fun _ => (Guarded.pure _).bind fun _ =>
        G.aliasedIf _ _
    · exact (G.windowTerms _).bind fun _ => (Guarded.pure _).bind fun _ => (G.windowTerms _).bind fun _ =>
        (Guarded.pure _).bind fun _ => G.aliasedIf _ _

theorem projectionEntry (entry : Projection Value) :
    Guarded False (G.scope.projectionEntry entry) (G.free.projectionEntry entry) := by
  unfold Scope.projectionEntry
  split
  · exact .pure _
  · exact .mapM_free fun v _ => G.wrapOperand v
  · exact (G.aggregate _ _ _ _).bind fun _ => .pure _
  · exact (G.window _).bind fun _ => .pure _
  · exact (G.jsonExtract _ _).bind fun _ => (G.aliasedIf _ _).bind fun _ => .pure _

theorem distinctClause (entries : List (Projection Value)) :
    Guarded False (G.scope.distinctClause entries) (G.free.distinctClause entries) := by
  have same : G.free.capabilities = G.scope.capabilities := rfl
  unfold Scope.distinctClause
  rw [same]
  refine .ite (fun _ => ?_) fun _ => .pure _
  refine .ite (fun _ => (Guarded.throw_right _)) fun _ => ?_
  exact (G.columnizeAll _).bind fun _ => .pure _

omit G in
theorem rowCount (before : String) (n : Nat) (after : String) :
    Guarded False (Scope.rowCount before n after) (Scope.rowCount before n after) :=
  ((Guarded.bound _).mono False.elim).bind fun _ => .pure _

theorem topClause (limit offset : Option Nat) :
    Guarded False (G.scope.topClause limit offset) (G.free.topClause limit offset) := by
  unfold Scope.topClause
  have same : G.free.capabilities = G.scope.capabilities := rfl
  rw [same]
  split
  · exact rowCount _ _ _
  · exact .pure _

theorem projection (entries : List (Projection Value)) (limit offset : Option Nat) :
    Guarded False (G.scope.projection entries limit offset) (G.free.projection entries limit offset) := by
  refine (G.distinctClause _).bind fun _ => (G.topClause _ _).bind fun _ => ?_
  refine (Guarded.mapM_free fun e _ => G.projectionEntry e).bind fun _ => ?_
  exact (Guarded.textuals _).bind fun _ => .pure _

theorem tableIn (schema : Option Value) (table : Value) :
    Guarded False (G.scope.tableIn schema table) (G.free.tableIn schema table) := by
  unfold Scope.tableIn
  split
  · exact (G.inSchema _ _).bind fun _ => G.wrapString _
  · exact G.wrap _

theorem table (st : Statement Value) : Guarded False (G.scope.table st) (G.free.table st) := by
  unfold Scope.table
  split
  · exact G.tableIn _ _
  · exact .throw_right _

theorem tableHint (lock : Option LockMode) (wait : Option WaitMode) :
    Guarded False (G.scope.tableHint lock wait) (G.free.tableHint lock wait) := by
  have same : G.free.capabilities = G.scope.capabilities := rfl
  unfold Scope.tableHint
  rw [same]
  split
  · split
    · exact (Guarded.pure _).bind fun _ => .pure _
    · exact (Guarded.pure _).bind fun _ => .pure _
    · exact .throw_right _
  · exact .pure _

theorem join {j : Join Value} (h : ∀ c ∈ j.conditions, c.isExact = true) :
    Guarded False (G.scope.join j) (G.free.join j) := by
  unfold Scope.join
  refine .ite (fun _ => G.unwrapOrNothing _) fun _ => ?_
  exact (G.tableIn _ _).bind fun _ => (G.joinConditions h).bind fun _ => .pure _

theorem joinClause {joins : List (Join Value)} (h : ∀ j ∈ joins, ∀ c ∈ j.conditions, c.isExact = true) :
    Guarded False (G.scope.joinClause joins) (G.free.joinClause joins) :=
  (Guarded.mapM_free fun j hj => G.join (h j hj)).bind fun _ => (Guarded.textuals _).bind fun _ => .pure _

theorem groupEntry (entry : GroupEntry Value) :
    Guarded False (G.scope.groupEntry entry) (G.free.groupEntry entry) := by
  unfold Scope.groupEntry
  refine .ite (fun _ => .mapM_free fun v _ => G.unwrapOrNothing v) fun _ => ?_
  exact (G.columnizeAll _).bind fun _ => .pure _

theorem groupClause (entries : List (GroupEntry Value)) :
    Guarded False (G.scope.groupClause entries) (G.free.groupClause entries) := by
  unfold Scope.groupClause
  refine .ite (fun _ => .pure _) fun _ => ?_
  refine (Guarded.mapM_free fun e _ => G.groupEntry e).bind fun _ => ?_
  exact (Guarded.textuals _).bind fun _ => .pure _

theorem orderBy (column direction : Value) (nulls : Option NullsOrder) :
    Guarded False (G.scope.orderBy column direction nulls) (G.free.orderBy column direction nulls) := by
  have same : G.free.capabilities = G.scope.capabilities := rfl
  unfold Scope.orderBy
  rw [same]
  refine (G.wrap _).bind fun _ => (G.direction _).bind fun _ => ?_
  split
  · exact .pure _
  · exact .ite (fun _ => .pure _) fun _ => .pure _

theorem orderEntry (entry : OrderEntry Value) :
    Guarded False (G.scope.orderEntry entry) (G.free.orderEntry entry) := by
  unfold Scope.orderEntry
  split
  · exact G.unwrapOrNothing _
  · exact (G.orderBy _ _ _).bind fun _ => .pure _

theorem orderClause (entries : List (OrderEntry Value)) :
    Guarded False (G.scope.orderClause entries) (G.free.orderClause entries) := by
  unfold Scope.orderClause
  refine .ite (fun _ => .pure _) fun _ => ?_
  refine (Guarded.mapM_free fun e _ => G.orderEntry e).bind fun _ => ?_
  exact (Guarded.textuals _).bind fun _ => .pure _

theorem paging (st : Statement Value) : Guarded False (G.scope.paging st) (G.free.paging st) := by
  have same : G.free.capabilities = G.scope.capabilities := rfl
  have counted (before : String) (n : Nat) (after : String) := rowCount before n after
  unfold Scope.paging
  rw [same]
  generalize st.limit = limit, st.offset = offset
  -- each part is a row count, or a word
  split
  next stand _ =>
    cases limit <;> cases offset <;> cases stand
    all_goals repeat first
      | exact .pure _
      | refine Guarded.bind (counted _ _ _) fun _ => ?_
      | refine Guarded.bind (.pure _) fun _ => ?_
  next useTop order _ =>
    refine .ite (fun _ => .pure _) fun _ => ?_
    cases order.filter (fun order => !order.isEmpty && st.orders.isEmpty) <;> cases limit <;> cases offset
    all_goals repeat first
      | exact .pure _
      | refine Guarded.bind (counted _ _ _) fun _ => ?_
      | refine Guarded.bind (.pure _) fun _ => ?_

theorem unionClause (operations : List (SetOperation Value)) :
    Guarded False (G.scope.unionClause operations) (G.free.unionClause operations) :=
  (Guarded.mapM_free fun _ _ => (G.subquery _).bind fun _ => .pure _).bind fun _ => .pure _

theorem lockClause (st : Statement Value) : Guarded False (G.scope.lockClause st) (G.free.lockClause st) := by
  have same : G.free.capabilities = G.scope.capabilities := rfl
  unfold Scope.lockClause
  rw [same]
  split
  · exact .pure _
  · exact .throw_right _
  · split
    · exact .throw_right _
    · exact .pure _
  · exact .pure _
  next modes waits ofTables mode _ _ =>
    refine .ite (fun _ => .throw_right _) fun _ => ?_
    have ending (tables : Sql) : Guarded False (G.scope.lockRows waits mode st.wait tables)
        (G.free.lockRows waits mode st.wait tables) := by
      cases st.wait with
      | none => exact .pure _
      | some wait => exact .ite (fun _ => .throw_right _) fun _ => .pure _
    refine .ite (fun _ => (Guarded.pure _).bind fun _ => ending _) fun _ => ?_
    refine .ite (fun _ => .throw_right _) fun _ => ?_
    exact (G.columnizeAll _).bind fun _ => (Guarded.pure _).bind fun _ => ending _

end SqlBuilder.Guard
