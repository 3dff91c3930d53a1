import SqlBuilder.Proofs.GuardedClauses
import SqlBuilder.Proofs.Successes

/-!
# Guarded statements

Writes, statements and raw expressions beside the same ones without guards. The columns of an assignment and
of the rows of an insert are marked where a value is undefined, and all of the values are bound. So the guard
of a whole statement refuses only if an undefined value has been bound, and that of a raw expression only if
one is among its bindings.

* `Guard.assignments`, `Guard.insertRows`: what a write puts in.
* `Guard.body`, `Guard.statement`: a statement of any kind.
* `Guard.rawExpression`: a raw expression.
-/

namespace SqlBuilder

namespace Guard

variable (G : Guard)

/-! ## Returned columns -/

theorem outputClause (source : String) (returning : List Value) :
    Guarded False (G.scope.outputClause source returning) (G.free.outputClause source returning) := by
  have same : G.free.capabilities = G.scope.capabilities := rfl
  unfold Scope.outputClause
  rw [same]
  split
  · exact .pure _
  · exact .pure _
  · exact .throw_right _
  · exact (Guarded.mapM_free fun _ _ => (G.wrap _).bind fun _ => .pure _).bind fun _ => .pure _

theorem returningClause (returning : List Value) :
    Guarded False (G.scope.returningClause returning) (G.free.returningClause returning) := by
  have same : G.free.capabilities = G.scope.capabilities := rfl
  unfold Scope.returningClause
  rw [same]
  split
  · exact (G.columnizeAll _).bind fun _ => .pure _
  · exact .pure _

/-! ## Assignments -/

theorem assignment (entry : Value × Value) : Guarded False (G.scope.assignment entry) (G.free.assignment entry) := by
  obtain ⟨column, value⟩ := entry
  refine G.tracked column id ?_
  by_cases undefined : value.containsUndefined = true
  · rw [storable_undefined undefined, storable_undefined undefined, pure_bind, pure_bind]
    exact (G.wrap column).bind fun _ => (G.parameter value).bind_first fun _ => .pure _
  · refine .of_not undefined ((G.storable value).bind fun stored => (G.wrap column).bind fun _ => ?_)
    exact ((G.parameter stored).mono False.elim).bind fun _ => .pure _

theorem assignments (entries : List (Value × Value)) :
    Guarded False (G.scope.assignments entries) (G.free.assignments entries) :=
  (Guarded.mapM_free fun e _ => G.assignment e).bind fun _ => .pure _

theorem counters (cs : List (Counter Value)) : Guarded False (G.scope.counters cs) (G.free.counters cs) := by
  refine (Guarded.mapM_free fun c _ => ?_).bind fun _ => .pure _
  exact (G.wrapString _).bind fun _ => ((G.parameter _).mono False.elim).bind fun _ => .pure _

/-! ## Conflicts -/

theorem mergeClause (before after : String) (columns : List Value) (updates : Value) :
    Guarded False (G.scope.mergeClause before after columns updates)
      (G.free.mergeClause before after columns updates) := by
  unfold Scope.mergeClause
  split
  · exact G.assignments _
  · have merged (columns : List Value) : Guarded False
        (do
          return Sql.commas (← columns.mapM fun column => do
            let target ← G.scope.wrap column
            return target ++ Sql.word before ++ (← G.scope.wrap column) ++
              Sql.when (!after.isEmpty) (Sql.word after)))
        (do
          return Sql.commas (← columns.mapM fun column => do
            let target ← G.free.wrap column
            return target ++ Sql.word before ++ (← G.free.wrap column) ++
              Sql.when (!after.isEmpty) (Sql.word after))) :=
      (Guarded.mapM_free fun _ _ => (G.wrap _).bind fun _ => (G.wrap _).bind fun _ => .pure _).bind fun _ => .pure _
    refine .ite (fun _ => ?_) fun _ => (Guarded.pure _).bind merged
    exact (Guarded.same (.liftCompile _)).bind merged

theorem conflictClause (columns : List Value) (c : Conflict Value) :
    Guarded False (G.scope.conflictClause columns c) (G.free.conflictClause columns c) := by
  have same : G.free.capabilities = G.scope.capabilities := rfl
  unfold Scope.conflictClause
  rw [same]
  split
  · split
    · refine .ite (fun _ => (Guarded.pure _).bind fun _ => .pure _) fun _ => ?_
      exact (G.columnizeAll _).bind fun _ => (Guarded.pure _).bind fun _ => .pure _
    · refine .ite (fun _ => ?_) fun _ => ?_
      · exact (Guarded.pure _).bind fun _ => (G.mergeClause _ _ _ _).bind fun _ => .pure _
      · refine (G.columnizeAll _).bind fun _ => (Guarded.pure _).bind fun _ => ?_
        exact (G.mergeClause _ _ _ _).bind fun _ => .pure _
  · exact .pure _
  · exact (G.mergeClause _ _ _ _).bind fun _ => .pure _
  · exact .throw_right _

theorem insertKeyword (c : Option (Conflict Value)) :
    Guarded False (G.scope.insertKeyword c) (G.free.insertKeyword c) := by
  have same : G.free.capabilities = G.scope.capabilities := rfl
  unfold Scope.insertKeyword
  rw [same]
  split
  · exact .throw_right _
  · exact .pure _
  · exact .pure _

/-! ## Rows -/

theorem missing (rows : List Scope.Row) (columns : List Scope.RowColumn) :
    Guarded False (G.scope.missing rows columns) (G.free.missing rows columns) := by
  have same : G.free.capabilities = G.scope.capabilities := rfl
  have client : G.free.client = G.scope.client := rfl
  unfold Scope.missing
  rw [same, client]
  refine .ite (fun _ => .pure _) fun _ => .ite (fun _ => .pure _) fun _ => .ite (fun _ => ?_) fun _ => .pure _
  exact (Guarded.same (.report _)).bind fun _ => .pure _

/-- A value of a row is undefined. -/
def CellUndefined (row : Scope.Row) (column : Scope.RowColumn) : Prop :=
  (Scope.cell? row column).any Value.containsUndefined = true

theorem rowCell (missing : Scope.Missing) (row : Scope.Row) (column : Scope.RowColumn) :
    Guarded (CellUndefined row column) (G.scope.rowCell missing row column) (G.free.rowCell missing row column) := by
  unfold Scope.rowCell CellUndefined
  cases Scope.cell? row column with
  | some v => exact (G.stored v).mono fun undefined => by simpa using undefined
  | none =>
    refine .of_not (by simp) ?_
    cases missing with
    | default_ => exact .pure _
    | null => exact ((Guarded.bound _).mono False.elim).bind fun _ => .pure _

theorem rowValues (columns : List Scope.RowColumn) (missing : Scope.Missing) (row : Scope.Row) :
    Guarded (∃ column ∈ columns, CellUndefined row column) (G.scope.rowValues columns missing row)
      (G.free.rowValues columns missing row) :=
  (Guarded.mapM fun column _ => G.rowCell missing row column).bind_first fun _ =>
    (Guarded.textuals _).bind fun _ => .pure _

omit G in
/-- A column of rows is marked only if a value in it is undefined. -/
theorem trackRows_marks {rows : List Scope.Row} {columns : List Scope.RowColumn} {p q : Progress}
    (run : Scope.trackRows rows columns p = .ok () q) :
    q.bound = p.bound ∧ (q.undefinedColumns ≠ p.undefinedColumns →
      ∃ row ∈ rows, ∃ column ∈ columns, CellUndefined row column) := by
  unfold Scope.trackRows at run
  induction columns generalizing p with
  | nil =>
    cases run
    exact ⟨rfl, fun changed => absurd rfl changed⟩
  | cons column columns ih =>
    change EStateM.bind _ _ p = _ at run
    unfold EStateM.bind at run
    split at run
    next next_ first =>
      obtain ⟨bound, marked⟩ := ih run
      have later : (∃ row ∈ rows, ∃ column ∈ columns, CellUndefined row column) →
          ∃ row ∈ rows, ∃ c ∈ column :: columns, CellUndefined row c :=
        fun ⟨row, hr, c, hc, undefined⟩ => ⟨row, hr, c, .tail _ hc, undefined⟩
      split at first
      next undefined =>
        cases first
        obtain ⟨row, hr, undefined⟩ := List.any_eq_true.mp undefined
        exact ⟨bound, fun _ => ⟨row, hr, column, .head _, undefined⟩⟩
      next =>
        cases first
        exact ⟨bound, fun changed => later (marked changed)⟩
    next => cases run

theorem insertRows (keyword : String) (table : Sql) (st : Statement Value) (rows : List Scope.Row) :
    Guarded False (G.scope.insertRows keyword table st rows) (G.free.insertRows keyword table st rows) := by
  unfold Scope.insertRows
  split
  · exact .pure _
  · exact (G.outputClause _ _).bind fun _ => .pure _
  · refine .marks (fun _ _ => trackRows_marks) ?_
    refine (G.columnizeAll _).bind fun _ => (G.outputClause _ _).bind fun _ => (G.missing _ _).bind fun missing => ?_
    refine (Guarded.mapM fun row _ => G.rowValues _ missing row).bind_first fun _ => ?_
    split
    · exact (G.conflictClause _ _).bind fun _ => (G.returningClause _).bind fun _ => .pure _
    · exact (Guarded.pure _).bind fun _ => (G.returningClause _).bind fun _ => .pure _

theorem insertStatement (keyword : String) (st : Statement Value) (values : Value) :
    Guarded False (G.scope.insertStatement keyword st values) (G.free.insertStatement keyword st values) := by
  unfold Scope.insertStatement
  refine (G.table st).bind fun _ => .ite (fun _ => ?_) fun _ => ?_
  · exact (G.subquery _).bind fun _ => (G.outputClause _ _).bind fun _ => .pure _
  · exact (Guarded.same (.liftCompile _)).bind fun _ => G.insertRows _ _ _ _

/-! ## Statements -/

theorem insert (st : Statement Value) : Guarded False (G.scope.insert st) (G.free.insert st) :=
  (G.withClause _).bind fun _ => (G.insertKeyword _).bind fun _ => (G.insertStatement _ _ _).bind fun _ => .pure _

theorem upsert (st : Statement Value) : Guarded False (G.scope.upsert st) (G.free.upsert st) := by
  have same : G.free.capabilities = G.scope.capabilities := rfl
  unfold Scope.upsert
  rw [same]
  split
  all_goals refine .ite (fun _ => .throw_right _) fun _ => (G.withClause _).bind fun _ => ?_
  · exact (G.insertStatement _ _ _).bind fun _ => .pure _
  · exact .throw_right _

theorem filtered (source : String) {st : Statement Value} (h : ∀ c ∈ st.wheres, c.isExact = true) :
    Guarded False (G.scope.filtered source st) (G.free.filtered source st) :=
  (G.outputClause _ _).bind fun _ => (G.conditionClause _ _ h).bind fun _ => (G.returningClause _).bind fun _ =>
    .pure _

theorem update {st : Statement Value} (h : ∀ c ∈ st.wheres, c.isExact = true) :
    Guarded False (G.scope.update st) (G.free.update st) := by
  unfold Scope.update
  refine (G.withClause _).bind fun tables => (G.table st).bind fun table => (G.tableHint _ _).bind fun hint => ?_
  have complete (values steps : List Sql) : Guarded False
      (if (values ++ steps).isEmpty then throw .emptyUpdate else do
        return Scope.afterWith tables (Sql.word "update " ++ table ++ hint ++ Sql.word " set " ++
          Sql.commas (values ++ steps) ++ (← G.scope.filtered "inserted" st)))
      (if (values ++ steps).isEmpty then throw .emptyUpdate else do
        return Scope.afterWith tables (Sql.word "update " ++ table ++ hint ++ Sql.word " set " ++
          Sql.commas (values ++ steps) ++ (← G.free.filtered "inserted" st))) :=
    .ite (fun _ => .throw_right _) fun _ => (G.filtered _ h).bind fun _ => .pure _
  have stepped (values : List Sql) := Guarded.ite (P := st.counters.isEmpty = true)
    (fun _ => (Guarded.pure []).bind (complete values))
    fun _ => (G.counters st.counters).bind fun steps => (Guarded.pure [steps]).bind (complete values)
  exact .ite (fun _ => (Guarded.pure []).bind stepped)
    fun _ => (G.assignments st.update).bind fun values => (Guarded.pure [values]).bind stepped

theorem delete {st : Statement Value} (h : ∀ c ∈ st.wheres, c.isExact = true) :
    Guarded False (G.scope.delete st) (G.free.delete st) :=
  (G.withClause _).bind fun _ => (G.table st).bind fun _ => (G.filtered _ h).bind fun _ => .pure _

theorem truncate (st : Statement Value) : Guarded False (G.scope.truncate st) (G.free.truncate st) := by
  have same : G.free.capabilities = G.scope.capabilities := rfl
  have template : Quiet (templateOf G.scope.capabilities.truncate) := by
    unfold templateOf
    split
    · exact .pure _
    · exact .throw _
    · exact .throw _
  have slots (template : String) : Quiet (slotted "table" template) := by
    unfold slotted
    split
    · exact .pure _
    · exact .throw _
  unfold Scope.truncate
  rw [same]
  refine (Guarded.same template).bind fun _ => (G.table st).bind fun _ => ?_
  exact (Guarded.same (slots _)).bind fun _ => .pure _

theorem fromClause (st : Statement Value) : Guarded False (G.scope.fromClause st) (G.free.fromClause st) := by
  unfold Scope.fromClause
  refine .ite (fun _ => .pure _) fun _ => ?_
  exact (G.table st).bind fun _ => (G.tableHint _ _).bind fun _ => .pure _

theorem select {st : Statement Value} (h : ∀ c ∈ st.shownConditions .select, c.isExact = true) :
    Guarded False (G.scope.select st) (G.free.select st) := by
  have joins : ∀ j ∈ st.joins, ∀ c ∈ j.conditions, c.isExact = true := fun j hj c hc =>
    h c (List.mem_append_left _ (List.mem_append_left _ (List.mem_flatMap.mpr ⟨j, hj, hc⟩)))
  have wheres : ∀ c ∈ st.wheres, c.isExact = true := fun c hc =>
    h c (List.mem_append_left _ (List.mem_append_right _ hc))
  have havings : ∀ c ∈ st.havings, c.isExact = true := fun c hc => h c (List.mem_append_right _ hc)
  refine (G.withClause _).bind fun _ => (G.projection _ _ _).bind fun _ => (G.fromClause st).bind fun _ => ?_
  refine (G.joinClause joins).bind fun _ => (G.conditionClause _ _ wheres).bind fun _ => ?_
  refine (G.groupClause _).bind fun _ => (G.conditionClause _ _ havings).bind fun _ => ?_
  refine (G.orderClause _).bind fun _ => (G.paging _).bind fun _ => (G.unionClause _).bind fun _ => ?_
  exact (G.lockClause _).bind fun _ => .pure _

/-- A statement whose conditions bind what they look at. -/
theorem body (method : Method) {st : Statement Value} (h : ∀ c ∈ st.shownConditions method, c.isExact = true) :
    Guarded False (G.scope.body method st) (G.free.body method st) := by
  cases method with
  | select => exact G.select h
  | first => exact G.select h
  | insert => exact G.insert st
  | update => exact G.update h
  | delete => exact G.delete h
  | upsert => exact G.upsert st
  | truncate => exact G.truncate st

end Guard

namespace Scope

variable {s : Scope} {method : Method} {st : Statement Value} {p q : Progress} {sql : Sql}

/-- Finding the texts of columns changes nothing. -/
theorem columnTexts_ok {columns : List Value} {texts : List String} (run : columnTexts columns p = .ok texts q) :
    q = p := by
  unfold columnTexts at run
  induction columns generalizing texts with
  | nil =>
    cases run
    rfl
  | cons column columns ih =>
    rw [List.mapM_cons] at run
    obtain ⟨_, _, first, rest⟩ := Compile.bind_ok.mp run
    obtain ⟨_, _, others, done⟩ := Compile.bind_ok.mp rest
    cases done
    split at first <;> cases first
    exact ih others

/-- A statement without guards is its body after its comments, where the conditions are exact and the columns
that are marked are texts. -/
theorem unguardedBody_ok (run : s.unguardedBody method st p = .ok sql q) :
    (∀ c ∈ st.shownConditions method, c.isExact = true) ∧
      ∃ body texts, s.body method st p = .ok body q ∧ sql = commented st.comments body ∧
        columnTexts q.undefinedColumns q = .ok texts q := by
  obtain ⟨_, p', exact_, run⟩ := Compile.bind_ok.mp run
  obtain ⟨body, _, rendered, run⟩ := Compile.bind_ok.mp run
  obtain ⟨_, _, ⟨⟩, run⟩ := Compile.bind_ok.mp run
  obtain ⟨texts, _, named, ⟨⟩⟩ := Compile.bind_ok.mp run
  obtain rfl := columnTexts_ok named
  unfold assertExact at exact_
  split at exact_
  next all =>
    cases exact_
    exact ⟨List.all_eq_true.mp all, body, texts, rendered, rfl, named⟩
  · cases exact_

/-- A statement is complete unless a column is marked or an undefined value is bound. -/
theorem checked_complete {body : Sql} {texts : List String} (rendered : s.body method st p = .ok body q)
    (named : columnTexts q.undefinedColumns q = .ok texts q) :
    s.checked method st p =
      if !q.undefinedColumns.isEmpty || body.bindings.any Value.containsUndefined then
        .error (.undefinedInQuery method.name texts (commented st.comments body).text) q
      else .ok (commented st.comments body) q := by
  unfold checked
  change EStateM.bind (s.body method st) _ p = _
  unfold EStateM.bind
  rw [rendered]
  change (if _ then _ else _ : Compile Sql) q = _
  rw [Likeness.Setting.bindings_commented]
  split
  next undefined =>
    change EStateM.bind (columnTexts q.undefinedColumns) _ q = _
    unfold EStateM.bind
    rw [named]
    rfl
  next => rfl

theorem checked_error {e : Error} (failed : s.body method st p = .error e q) :
    s.checked method st p = .error e q := by
  change EStateM.bind (s.body method st) _ p = _
  unfold EStateM.bind
  rw [failed]

end Scope

namespace Guard

variable (G : Guard)

/-- The guards of a statement refuse where one without guards binds an undefined value, and pass elsewhere. The
values that its body binds are those of its rendering. -/
theorem statement (method : Method) (st : Statement Value)
    (yields : ∀ {p sql q}, G.free.body method st p = .ok sql q → q.bound = p.bound ++ Sql.bindings sql) :
    Guarded False (G.scope.statement method st) (G.free.unguardedStatement method st) := by
  refine Guarded.bind ?_ fun _ => .pure _
  intro p a q run
  unfold ownColumns at run ⊢
  split at run
  next a q first =>
    cases run
    obtain ⟨exact_, body, texts, rendered, rfl, named⟩ := Scope.unguardedBody_ok first
    obtain ⟨vs, bound, outcome⟩ := G.body method exact_ _ _ _ rendered
    have holds : vs = body.bindings := List.append_cancel_left (bound.symm.trans (yields rendered))
    refine ⟨vs, bound, ?_⟩
    generalize guarded : G.scope.body method st _ = r at outcome
    cases outcome with
    | refuses undefined kind =>
      rw [Scope.checked_error guarded]
      exact .refuses undefined kind
    | passes paid =>
      rw [Scope.checked_complete guarded named]
      by_cases undefined : (!q.undefinedColumns.isEmpty || body.bindings.any Value.containsUndefined) = true
      · rw [if_pos undefined]
        refine .refuses ?_ rfl
        rcases Bool.or_eq_true _ _ ▸ undefined with marked | some_
        · exact paid (.inr fun none_ => by simp [none_] at marked)
        · exact holds ▸ some_
      · rw [if_neg undefined]
        exact .passes fun some_ => some_.elim False.elim fun changed => absurd rfl changed
  · cases run

/-! ## Raw expressions -/

theorem fillPositional (values : List Value) (parts : List Template.Part) :
    Guarded False (G.scope.fillPositional values parts) (G.free.fillPositional values parts) := by
  induction parts generalizing values with
  | nil =>
    unfold Scope.fillPositional
    exact .pure _
  | cons part parts ih =>
    cases part with
    | text cs =>
      unfold Scope.fillPositional
      exact (ih values).bind fun _ => .pure _
    | value cs =>
      cases values with
      | nil =>
        unfold Scope.fillPositional
        exact (ih []).bind fun _ => .pure _
      | cons v values =>
        unfold Scope.fillPositional
        exact ((G.argument v).mono False.elim).bind fun _ => (ih values).bind fun _ => .pure _
    | identifier cs =>
      cases values with
      | nil =>
        unfold Scope.fillPositional
        exact (ih []).bind fun _ => .pure _
      | cons v values =>
        unfold Scope.fillPositional
        exact (G.columnize v).bind fun _ => (ih values).bind fun _ => .pure _

theorem positional (template : String) (values : List Value) :
    Guarded False (G.scope.positional template values) (G.free.positional template values) := by
  refine (G.fillPositional _ _).bind fun ⟨filled, n⟩ => (Guarded.textuals filled).bind fun _ => ?_
  exact .ite (fun _ => .throw_right _) fun _ => .pure _

theorem fillNamed (entries : List (Value × Value)) (part : Template.NamedPart) :
    Guarded False (G.scope.fillNamed entries part) (G.free.fillNamed entries part) := by
  have undefined (slot : String) : Guarded False
      (do
        bindAll [.undefined]
        return Sql.raw slot ++ [.stray .undefined])
      (do
        bindAll [.undefined]
        return Sql.raw slot ++ [.stray .undefined]) :=
    ((Guarded.bindAll _).mono False.elim).bind fun _ => .pure _
  unfold Scope.fillNamed
  cases part with
  | text cs => exact .pure _
  | value key =>
    simp only
    split
    · exact .pure _
    · exact undefined _
    · exact ((G.argument _).mono False.elim).bind fun _ => .textual _
  | identifier key =>
    simp only
    split
    · exact .pure _
    · exact undefined _
    · exact G.columnize _

theorem named (template : String) (entries : List (Value × Value)) :
    Guarded False (G.scope.named template entries) (G.free.named template entries) :=
  (Guarded.mapM_free fun part _ => G.fillNamed entries part).bind fun _ => .pure _

theorem filledTemplate (r : Raw Value) :
    Guarded False (G.scope.filledTemplate r) (G.free.filledTemplate r) := by
  unfold Scope.filledTemplate
  split
  · exact (G.named _ _).bind fun _ => .pure _
  · exact .pure _
  · exact .pure _
  · exact (G.positional _ _).bind fun _ => .pure _
  · exact .throw_right _

omit G in
theorem follow (first second : Operand) : Guarded False (Scope.follow first second) (Scope.follow first second) := by
  unfold Scope.follow
  split
  · exact .pure _
  · split
    · exact .pure _
    · exact .throw_right _
  · exact .throw_right _

theorem surrounded (r : Raw Value) : Guarded False (G.scope.surrounded r) (G.free.surrounded r) := by
  have after (operand : Operand) : Guarded False (Scope.ended (r.after.filter Value.isTruthy) operand)
      (Scope.ended (r.after.filter Value.isTruthy) operand) := by
    cases r.after.filter Value.isTruthy with
    | some after => exact follow _ _
    | none => exact .pure _
  rw [Scope.surrounded_eq, Scope.surrounded_eq]
  refine (G.filledTemplate r).bind fun operand => ?_
  cases r.before.filter Value.isTruthy with
  | some before => exact (follow _ _).bind after
  | none => exact (Guarded.pure _).bind after

theorem referenceTarget (name : Value) (schema asName : Option Value) :
    Guarded False (G.scope.referenceTarget name schema asName) (G.free.referenceTarget name schema asName) := by
  unfold Scope.referenceTarget
  split
  · exact .pure _
  · exact (G.display _).bind fun _ => (G.inSchema _ _).bind fun _ => .pure _
  · exact (G.display _).bind fun _ => (G.inSchema _ _).bind fun _ => (G.display _).bind fun _ => .pure _

/-- The guard of a raw expression refuses where undefined ones among its values are bound. -/
theorem withUndefined {values : List Value} {operand : Operand} {error : String → Error}
    (undefined : Undefined values) (kind : ∀ text, (error text).isUndefined = true) {β : Type}
    (f : β → Compile Operand) :
    Guarded False (do f (← throw (error (← G.scope.spell operand).text)))
      (G.free.withUndefined values operand) := by
  obtain ⟨v, hv, holds⟩ := List.any_eq_true.mp undefined
  have found : v ∈ values.filter Value.containsUndefined := List.mem_filter.mpr ⟨hv, holds⟩
  have some_ : ¬ (values.filter Value.containsUndefined).isEmpty = true := fun none_ => by
    simp [List.isEmpty_iff.mp none_] at found
  unfold Scope.withUndefined
  simp only
  rw [if_neg some_]
  refine (G.spell operand).bind fun sql => .refusal ?_ (kind _) f _
  exact List.any_eq_true.mpr ⟨v, found, holds⟩

omit G in
theorem withUndefined_none {s : Scope} {values : List Value} (none_ : ¬ Undefined values) (operand : Operand) :
    s.withUndefined values operand = pure operand := by
  have empty : values.filter Value.containsUndefined = [] := by
    simpa [Undefined, List.filter_eq_nil_iff] using none_
  unfold Scope.withUndefined
  simp only
  rw [empty]
  rfl

omit G in
theorem bindings_undefined (bindings : RawBindings Value) :
    bindings.toValue.containsUndefined = true ↔ Undefined bindings.values := by
  cases bindings with
  | positional values => rw [RawBindings.toValue, Value.containsUndefined, Value.anyUndefined_eq_any]; rfl
  | named entries =>
    rw [RawBindings.toValue, Value.containsUndefined, Value.entryUndefined_eq_any, Undefined, RawBindings.values,
      List.any_map]
    rfl

/-- A raw expression refuses where one without guards binds an undefined value, and passes elsewhere. -/
theorem rawExpression (r : Raw Value) : Guarded False (G.scope.rawExpression r) (G.free.unguardedRaw r) := by
  unfold Scope.rawExpression Scope.unguardedRaw
  cases r.reference with
  | some name =>
    simp only [Scope.referenceText, bind_assoc]
    refine (G.referenceTarget _ _ _).bind fun target => (G.columnize target).bind fun sql => ?_
    by_cases undefined : target.containsUndefined = true
    · have refused : Guarded False
          (do
            throw (.undefinedInRaw [.int 0] (← G.scope.spell (.sql sql)).text)
            return .sql sql)
          (G.free.withUndefined [target] (.sql sql)) :=
        G.withUndefined (Undefined.single.mpr undefined) (fun _ => rfl) fun _ : Unit => pure (.sql sql)
      rw [if_pos undefined, bind_assoc]
      exact refused
    · rw [if_neg undefined, pure_bind, withUndefined_none (mt Undefined.single.mp undefined)]
      exact .pure _
  | none =>
    refine (G.surrounded r).bind fun operand => ?_
    simp only
    by_cases undefined : r.bindings.toValue.containsUndefined = true
    · rw [if_pos undefined]
      exact G.withUndefined ((bindings_undefined _).mp undefined) (fun _ => rfl) _
    · rw [if_neg undefined, withUndefined_none (mt (bindings_undefined _).mpr undefined)]
      exact .pure _

end Guard

end SqlBuilder
