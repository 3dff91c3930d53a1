import SqlBuilder.Proofs.ConfinedOperands

/-!
# Clauses that are confined to a region

The rendering of conditions, of raw expressions and of the clauses of a select in two stores that agree in a
region. What the parts of a clause refer to lies in the region.

* `View.test`, `View.allConditions`: conditions, with the groups that callbacks add.
* `View.rawExpression`: raw expressions and references.
* `View.projection`, `View.joinClause`, `View.orderClause` and their like: the clauses of a select.
-/

namespace SqlBuilder.Region.View

variable {R : Region} (V : R.View)

/-! ## Comparisons -/

theorem trackUndefined {column : Value} (h : R.value column) (v : Value) :
    R.Renders (V.scope.trackUndefined column v) (V.other.trackUndefined column v) fun _ => True := by
  unfold Scope.trackUndefined
  exact .ite (fun _ => (V.displayed h).bind fun _ _ => Renders.markUndefined _) fun _ => .pure trivial

theorem compare {column operator v : Value} (hc : R.value column) (ho : R.value operator) (hv : R.value v) :
    R.Renders (V.scope.compare column operator v) (V.other.compare column operator v) R.sql := by
  refine (V.wrap hc).bind fun target ht => (V.trackUndefined hc v).bind fun _ _ => ?_
  refine (V.operator ho).bind fun word hw => (V.parameter hv).bind fun value hv => .pure ?_
  simp [ht, hw, hv]

theorem compareColumns {column operator other : Value} (hc : R.value column) (ho : R.value operator)
    (hv : R.value other) :
    R.Renders (V.scope.compareColumns column operator other) (V.other.compareColumns column operator other)
      R.sql := by
  refine (V.wrap hc).bind fun target ht => (V.operator ho).bind fun word hw => ?_
  exact (V.wrap hv).bind fun value hv => .pure (by simp [ht, hw, hv])

theorem membership {column values : Value} (negated : Bool) (hc : R.value column) (hv : R.value values) :
    R.Renders (V.scope.membership negated column values) (V.other.membership negated column values) R.sql := by
  have tested {target : Sql} (ht : R.sql target) : R.Renders
      (do
        V.scope.trackUndefined column values
        return target ++ Sql.word (if negated then " not in " else " in ") ++ (← V.scope.values values))
      (do
        V.other.trackUndefined column values
        return target ++ Sql.word (if negated then " not in " else " in ") ++ (← V.other.values values)) R.sql :=
    (V.trackUndefined hc values).bind fun _ _ => (V.values hv).bind fun _ ha => .pure (by simp [ht, ha])
  unfold Scope.membership
  split
  · exact .pure (sql_word _)
  · cases sequence : column.sequence? with
    | some columns =>
      exact (V.columnizeAll (value_sequence hc sequence)).bind fun _ ha =>
        (Confined.pure (P := R.sql) (sql_parens.mpr ha)).bind fun _ => tested
    | none => exact (V.wrap hc).bind fun _ => tested

/-- A bound of a range, if there is one at its place. -/
theorem rangeBound {bounds : List Value} (hb : ∀ v ∈ bounds, R.value v) (i : Nat) : R.Renders
    (match bounds[i]? with
      | some v => V.scope.parameter v
      | none => throw (.fault .outOfRange))
    (match bounds[i]? with
      | some v => V.other.parameter v
      | none => throw (.fault .outOfRange)) R.sql := by
  cases given : bounds[i]? with
  | some v => exact V.parameter (hb v (List.mem_of_getElem? given))
  | none => exact .throw (error_fault _)

theorem range {column : Value} {bounds : List Value} (negated : Bool) (hc : R.value column)
    (hb : ∀ v ∈ bounds, R.value v) :
    R.Renders (V.scope.range negated column bounds) (V.other.range negated column bounds) R.sql := by
  unfold Scope.range
  refine (V.wrap hc).bind fun target ht => (V.trackUndefined hc _).bind fun _ _ => ?_
  exact (V.rangeBound hb 0).bind fun low hl => (V.rangeBound hb 1).bind fun high hh => .pure (by simp [ht, hl, hh])

/-! ## Places in documents -/

theorem jsonPath {path : Value} (h : R.value path) :
    R.Renders (V.scope.jsonPath path) (V.other.jsonPath path) R.sql := by
  unfold Scope.jsonPath
  refine .ite (fun _ => ?_) fun _ => V.parameter h
  split
  · exact (Confined.mapM fun key _ => bound (value_scalar _)).bind fun _ hk => .pure ((sql_commas _).mpr hk)
  · exact .throw error_wrongType
  · exact .throw (error_missing _ _)

theorem jsonExtract {column path : Value} (hc : R.value column) (hp : R.value path) :
    R.Renders (V.scope.jsonExtract column path) (V.other.jsonExtract column path) R.sql :=
  (V.columnize hc).bind fun target ht => (V.jsonPath hp).bind fun place hp => .pure (by simp [ht, hp])

theorem jsonCompare {column path operator v : Value} (hc : R.value column) (hp : R.value path)
    (ho : R.value operator) (hv : R.value v) :
    R.Renders (V.scope.jsonCompare column path operator v) (V.other.jsonCompare column path operator v) R.sql := by
  refine (V.trackUndefined hc v).bind fun _ _ => (V.jsonExtract hc hp).bind fun extracted he => ?_
  refine (V.operator ho).bind fun word hw => (V.parameter hv).bind fun value hv => .pure ?_
  have cast (style : JsonPathStyle) : R.sql (Scope.jsonOperand style v extracted) := by simpa [sql] using he
  simp [cast, hw, hv]

/-! ## Conditions -/

theorem sql_negatable {negated : Bool} {a : Sql} (h : R.sql a) : R.sql (Scope.negatable negated a) := by
  simpa [sql] using h

theorem sql_group {negated : Bool} {a : Sql} (h : R.sql a) : R.sql (Scope.group negated a) := by
  simpa [sql] using h

theorem pairTests {entries : List (Value × Value)} (h : ∀ e ∈ entries, R.value e.1 ∧ R.value e.2) :
    R.Renders (V.scope.pairTests entries) (V.other.pairTests entries) R.sql := by
  unfold Scope.pairTests
  refine (Confined.mapM (Q := R.sql) fun e he => ?_).bind fun _ hp => .pure ((sql_joined _ _).mpr hp)
  obtain ⟨hc, hv⟩ := h e he
  obtain ⟨column, value⟩ := e
  dsimp only
  split
  · exact (V.wrap hc).bind fun _ ha => .pure (by simp [ha])
  · exact V.compare hc (value_scalar _) hv

theorem pairColumns {entries : List (Value × Value)} (h : ∀ e ∈ entries, R.value e.1 ∧ R.value e.2) :
    R.Renders (V.scope.pairColumns entries) (V.other.pairColumns entries) R.sql :=
  (Confined.mapM fun e he => V.compareColumns (h e he).1 (value_scalar _) (h e he).2).bind fun _ hp =>
    .pure ((sql_joined _ _).mpr hp)

theorem conditions_of {st : Statement Value} (h : st.Of (.operands R.value)) (clause : ConditionClause) :
    ∀ c ∈ st.conditions clause, c.Of (.operands R.value) := by
  cases clause with
  | where_ => exact h.wheres
  | having => exact h.havings

theorem callbackConditions {callback : Value} (clause : ConditionClause) (h : R.value callback) :
    R.Renders (V.scope.callbackConditions clause callback) (V.other.callbackConditions clause callback) R.sql := by
  unfold Scope.callbackConditions
  split
  · refine (V.callbackQuery (value_callback.mp h)).bind fun q hq => ?_
    refine V.conditions _ _ clause _ (fun v hv => ?_) (conditions_of hq.statement clause)
    rcases Option.or_eq_some_iff.mp hv with own | ⟨-, made⟩
    · exact V.context v own
    · exact hq.context v made
  · exact .throw error_wrongType

theorem callbackJoin {callback : Value} (h : R.value callback) :
    R.Renders (V.scope.callbackJoin callback) (V.other.callbackJoin callback) R.sql := by
  unfold Scope.callbackJoin
  split
  · exact (Renders.ofLogged (V.join _ (value_callback.mp h))).bind fun _ hj =>
      V.conditions _ _ _ _ V.context hj.conditions
  · exact .throw error_wrongType

/-- The two values of each entry, one after the other. -/
theorem entries_of {entries : List (Value × Value)}
    (h : ∀ v ∈ entries.flatMap fun e => [e.1, e.2], R.value v) : ∀ e ∈ entries, R.value e.1 ∧ R.value e.2 :=
  fun e he => ⟨h _ (List.mem_flatMap.mpr ⟨e, he, by simp⟩), h _ (List.mem_flatMap.mpr ⟨e, he, by simp⟩)⟩

theorem test {t : Test Value} (clause : ConditionClause) (negated : Bool) (h : ∀ v ∈ t.operands, R.value v) :
    R.Renders (V.scope.test clause negated t) (V.other.test clause negated t) R.sql := by
  cases t with
  | compare column operator v =>
    exact (V.compare (h _ (by simp [Test.operands])) (h _ (by simp [Test.operands]))
      (h _ (by simp [Test.operands]))).bind fun _ ha => .pure (sql_negatable ha)
  | compareColumns column operator other =>
    exact (V.compareColumns (h _ (by simp [Test.operands])) (h _ (by simp [Test.operands]))
      (h _ (by simp [Test.operands]))).bind fun _ ha => .pure (sql_negatable ha)
  | isIn column values =>
    exact V.membership negated (h _ (by simp [Test.operands])) (h _ (by simp [Test.operands]))
  | isNull column =>
    exact (V.wrap (h _ (by simp [Test.operands]))).bind fun _ ha => .pure (by simp [ha])
  | between column bounds =>
    exact V.range negated (h _ (.head _)) fun v hv => h v (.tail _ hv)
  | exists_ query =>
    exact (V.subquery (h _ (by simp [Test.operands]))).bind fun _ ha => .pure (sql_negatable (by simp [ha]))
  | group callback =>
    exact (V.callbackConditions clause (h _ (by simp [Test.operands]))).bind fun _ ha => .pure (sql_group ha)
  | pairs entries => exact (V.pairTests (entries_of h)).bind fun _ ha => .pure (sql_group ha)
  | raw expression =>
    refine (V.unwrapOrNothing (h _ (by simp [Test.operands]))).bind fun _ ho => (V.spell ho).bind fun _ ha => ?_
    exact .pure (sql_negatable (sql_parens.mpr ha))
  | like column pattern ignoreCase =>
    have hc := h column (by simp [Test.operands])
    refine (V.wrap hc).bind fun target ht => (V.trackUndefined hc pattern).bind fun _ _ => ?_
    refine (V.parameter (h _ (by simp [Test.operands]))).bind fun value hv => .pure (sql_negatable ?_)
    simp [ht, hv]
  | jsonPath column path operator v =>
    exact (V.jsonCompare (h _ (by simp [Test.operands])) (h _ (by simp [Test.operands]))
      (h _ (by simp [Test.operands])) (h _ (by simp [Test.operands]))).bind fun _ ha => .pure (sql_negatable ha)
  | joinGroup callback =>
    exact (V.callbackJoin (h _ (by simp [Test.operands]))).bind fun _ ha => .pure (sql_group ha)
  | joinPairs entries => exact (V.pairColumns (entries_of h)).bind fun _ ha => .pure (sql_group ha)
  | «using» columns => exact .throw error_noSuchMember

theorem condition {c : Condition Value} (clause : ConditionClause) (h : c.Of (.operands R.value)) :
    R.Renders (V.scope.condition clause c) (V.other.condition clause c) R.operand := by
  obtain ⟨connective, word, negated, t⟩ := c
  have other (negated : Bool) : R.Renders (do return Operand.sql (← V.scope.test clause negated t))
      (do return Operand.sql (← V.other.test clause negated t)) R.operand :=
    (V.test clause negated h.test).bind fun _ ha => .pure ha
  cases t with
  | raw expression =>
    cases negated with
    | true => exact other true
    | false => exact V.unwrapOrNothing (h.test _ (.head _))
  | _ => exact other negated

theorem conjunction {c : Condition Value} (h : c.Of (.operands R.value)) :
    R.Renders (V.scope.conjunction c) (V.other.conjunction c) R.sql := by
  unfold Scope.conjunction
  split
  next word given => exact (V.displayed (h.word word given)).bind fun _ _ => .pure (sql_raw _)
  · exact .pure (sql_word _)

theorem conjoin {done : Sql} {c : Condition Value} {operand : Operand} (hd : R.sql done)
    (h : c.Of (.operands R.value)) (ho : R.operand operand) :
    R.Renders (V.scope.conjoin done c operand) (V.other.conjoin done c operand) R.sql := by
  unfold Scope.conjoin
  refine .ite (fun _ => ?_) fun _ => .ite (fun _ => ?_) fun _ => ?_
  · exact (V.spell (operand_orNothing ho)).bind fun _ ha => .pure (by simp [hd, ha])
  · exact (textual ho).bind fun _ ha => .pure (by simp [hd, ha])
  · exact (V.conjunction h).bind fun _ hw => (V.spell ho).bind fun _ ha => .pure (by simp [hd, hw, ha])

theorem allConditions {cs : List (Condition Value)} (clause : ConditionClause)
    (h : ∀ c ∈ cs, c.Of (.operands R.value)) :
    R.Renders (V.scope.conditions clause cs) (V.other.conditions clause cs) R.sql :=
  Confined.foldlM (fun _ hd c hc => (V.condition clause (h c hc)).bind fun _ ho => V.conjoin hd (h c hc) ho) sql_nil

theorem conditionClause {cs : List (Condition Value)} (clause : ConditionClause) (keyword : String)
    (h : ∀ c ∈ cs, c.Of (.operands R.value)) :
    R.Renders (V.scope.conditionClause clause keyword cs) (V.other.conditionClause clause keyword cs) R.sql :=
  (V.allConditions clause h).bind fun _ ha => .pure ((sql_after _).mpr ha)

theorem joinConditions {cs : List (Condition Value)} (h : ∀ c ∈ cs, c.Of (.operands R.value)) :
    R.Renders (V.scope.joinConditions cs) (V.other.joinConditions cs) R.sql := by
  unfold Scope.joinConditions
  split
  · exact (V.columnizeAll (h _ (.head _)).test).bind fun _ ha => .pure (by simp [ha])
  · refine (V.allConditions _ h).bind fun a ha => .pure ?_
    split
    · exact ha
    · exact (sql_after _).mpr ha

/-! ## Raw expressions -/

theorem fillPositional {values : List Value} (h : ∀ v ∈ values, R.value v) (parts : List Template.Part) :
    R.Renders (V.scope.fillPositional values parts) (V.other.fillPositional values parts)
      fun filled => ∀ o ∈ filled.1, R.operand o := by
  induction parts generalizing values with
  | nil =>
    unfold Scope.fillPositional
    exact .pure nofun
  | cons part parts ih =>
    cases part with
    | text cs =>
      unfold Scope.fillPositional
      exact (ih h).bind fun filled hf => .pure (by simpa using hf)
    | value cs =>
      cases values with
      | nil => exact (ih h).bind fun filled hf => .pure (by simpa using hf)
      | cons v values =>
        unfold Scope.fillPositional
        refine (V.argument (h v (.head _))).bind fun here ho => ?_
        exact (ih fun w hw => h w (.tail _ hw)).bind fun filled hf => .pure (by simpa using ⟨ho, hf⟩)
    | identifier cs =>
      cases values with
      | nil => exact (ih h).bind fun filled hf => .pure (by simpa using hf)
      | cons v values =>
        unfold Scope.fillPositional
        refine (V.columnize (h v (.head _))).bind fun here ho => ?_
        exact (ih fun w hw => h w (.tail _ hw)).bind fun filled hf => .pure (by simpa using ⟨ho, hf⟩)

theorem positional {values : List Value} (template : String) (h : ∀ v ∈ values, R.value v) :
    R.Renders (V.scope.positional template values) (V.other.positional template values) R.sql := by
  refine (V.fillPositional h _).bind fun filled hf => (textuals hf).bind fun parts hp => ?_
  refine .ite (fun _ => ?_) fun _ => .pure ((sql_flatten _).mpr hp)
  exact .throw (error_of_ne nofun)

theorem value_get? {key : String} {entries : List (Value × Value)} {v : Value}
    (h : ∀ e ∈ entries, R.value e.2) (found : Value.get? key entries = some v) : R.value v := by
  obtain ⟨e, lookup, rfl⟩ := Option.map_eq_some_iff.mp found
  exact h e (List.mem_of_find?_eq_some lookup)

theorem fillNamed {entries : List (Value × Value)} (h : ∀ e ∈ entries, R.value e.2) (part : Template.NamedPart) :
    R.Renders (V.scope.fillNamed entries part) (V.other.fillNamed entries part) R.sql := by
  have stray (slot : String) : R.sql (Sql.raw slot ++ [.stray .undefined]) := by
    simp [sql, Sql.bindings, Sql.raw, Piece.binding?]
  unfold Scope.fillNamed
  cases part with
  | text cs => exact .pure (sql_raw _)
  | value key =>
    dsimp only
    split
    · exact .pure (sql_raw _)
    · exact (Renders.bindAll _).bind fun _ _ => .pure (stray _)
    next found => exact (V.argument (value_get? h found)).bind fun _ => textual
  | identifier key =>
    dsimp only
    split
    · exact .pure (sql_raw _)
    · exact (Renders.bindAll _).bind fun _ _ => .pure (stray _)
    next found => exact V.columnize (value_get? h found)

theorem named {entries : List (Value × Value)} (template : String) (h : ∀ e ∈ entries, R.value e.2) :
    R.Renders (V.scope.named template entries) (V.other.named template entries) R.sql :=
  (Confined.mapM fun part _ => V.fillNamed h part).bind fun _ hp => .pure ((sql_flatten _).mpr hp)

theorem referenceTarget {name : Value} {schema asName : Option Value} (hn : R.value name)
    (hs : ∀ v ∈ schema, R.value v) (ha : ∀ v ∈ asName, R.value v) :
    R.Renders (V.scope.referenceTarget name schema asName) (V.other.referenceTarget name schema asName) R.value := by
  unfold Scope.referenceTarget
  split
  · exact .pure hn
  · refine (V.displayed hn).bind fun text _ => (V.inSchema (fun v hv => ?_) text).bind fun _ _ => ?_
    · exact hs v (Option.mem_filter_iff.mp hv).1
    · exact .pure (value_scalar _)
  next given =>
    refine (V.displayed hn).bind fun text _ => (V.inSchema (fun v hv => ?_) text).bind fun _ _ => ?_
    · exact hs v (Option.mem_filter_iff.mp hv).1
    · refine (V.displayed (ha _ ?_)).bind fun _ _ => .pure (value_scalar _)
      exact (Option.mem_filter_iff.mp given).1

theorem referenceText {target : Value} (h : R.value target) :
    R.Renders (V.scope.referenceText target) (V.other.referenceText target) R.sql := by
  refine (V.columnize h).bind fun _ ha => .ite (fun _ => ?_) fun _ => .pure ha
  exact .throw (error_of_ne nofun)

theorem filledTemplate {r : Raw Value} (h : R.raw r) :
    R.Renders (V.scope.filledTemplate r) (V.other.filledTemplate r) R.operand := by
  obtain ⟨client, sql, bindings, before, after, timeout, cancel, options, reference, schema, asName⟩ := r
  have values := h.bindings
  unfold Scope.filledTemplate
  dsimp only at values ⊢
  split
  next entries text =>
    refine (V.named text fun e he => ?_).bind fun _ ha => .pure ha
    exact values _ (List.mem_map_of_mem he)
  · exact .pure (sql_raw _)
  · exact .pure h.sql
  next given text nonempty => exact (V.positional text values).bind fun _ ha => .pure ha
  · exact .throw error_wrongType

theorem value_follow? {v w x : Value} (hv : R.value v) (hw : R.value w) (h : v.follow? w = some x) :
    R.value x := by
  have whole {x : Value} (h : (do return Value.int ((← v.asWhole?) + (← w.asWhole?))) = some x) : R.value x := by
    simp only [Option.bind_eq_bind, Option.bind_eq_some_iff] at h
    obtain ⟨m, -, n, -, same⟩ := h
    cases same
    exact value_scalar _
  unfold Value.follow? at h
  split at h
  · cases h
    simp only [value_list] at *
    simpa [or_imp, forall_and] using ⟨hv, hw⟩
  · cases h
    simp only [value_tuple] at *
    simpa [or_imp, forall_and] using ⟨hv, hw⟩
  · cases h
    exact value_scalar _
  · exact whole h

theorem follow {first second : Operand} (hf : R.operand first) (hs : R.operand second) :
    R.Renders (Scope.follow first second) (Scope.follow first second) R.operand := by
  unfold Scope.follow
  split
  · exact .pure (sql_append.mpr ⟨hf, hs⟩)
  next v w =>
    split
    next x joined => exact .pure (value_follow? hf hs joined)
    · exact .throw error_wrongType
  · exact .throw error_wrongType

theorem operand_ofValue {v : Value} (h : R.value v) : R.operand (Scope.ofValue v) := by
  unfold Scope.ofValue
  split
  · exact sql_raw _
  · exact h

/-- What stands after a raw expression. -/
theorem followed {r : Raw Value} (h : R.raw r) {operand : Operand} (ho : R.operand operand) : R.Renders
    (match r.after.filter Value.isTruthy with
      | some after => Scope.follow operand (Scope.ofValue after)
      | none => pure operand)
    (match r.after.filter Value.isTruthy with
      | some after => Scope.follow operand (Scope.ofValue after)
      | none => pure operand) R.operand := by
  split
  next after given => exact follow ho (operand_ofValue (h.after _ (Option.mem_filter_iff.mp given).1))
  · exact .pure ho

theorem surrounded {r : Raw Value} (h : R.raw r) :
    R.Renders (V.scope.surrounded r) (V.other.surrounded r) R.operand := by
  unfold Scope.surrounded
  refine (V.filledTemplate h).bind fun operand ho => ?_
  cases given : r.before.filter Value.isTruthy with
  | some before =>
    have stands := operand_ofValue (h.before _ (Option.mem_filter_iff.mp given).1)
    exact (follow stands ho).bind fun _ => followed h
  | none => exact (Confined.pure ho).bind fun _ => followed h

theorem rawExpression {r : Raw Value} (h : R.raw r) :
    R.Renders (V.scope.rawExpression r) (V.other.rawExpression r) R.operand := by
  unfold Scope.rawExpression
  split
  next name given =>
    refine (V.referenceTarget (h.reference name given) h.schema h.asName).bind fun target ht => ?_
    exact (V.referenceText ht).bind fun _ ha => .pure ha
  · refine (V.surrounded h).bind fun operand ho => .ite (fun _ => ?_) fun _ => .pure ho
    exact (V.spell ho).bind fun _ _ => .throw (error_of_ne nofun)

/-! ## Common tables and the projection -/

theorem aliasedIf {a : Sql} (asName : Value) (h : R.sql a) :
    R.Renders (V.scope.aliasedIf a asName) (V.other.aliasedIf a asName) R.sql :=
  .ite (fun _ => (V.aliasName asName).bind fun _ hn => .pure (V.sql_aliased.mpr ⟨h, hn⟩)) fun _ => .pure h

theorem commonTable {t : CommonTable Value} (h : t.Of (.operands R.value)) :
    R.Renders (V.scope.commonTable t) (V.other.commonTable t) R.sql := by
  unfold Scope.commonTable
  extract_lets storage
  have stored : R.sql storage := by
    unfold storage
    split <;> simp
  refine (V.wrapString _).bind fun name hn => ?_
  have ending {columns : Sql} (hc : R.sql columns) : R.Renders
      (do return name ++ columns ++ Sql.word " as " ++ storage ++ (← V.scope.subquery t.query).parens)
      (do return name ++ columns ++ Sql.word " as " ++ storage ++ (← V.other.subquery t.query).parens) R.sql :=
    (V.subquery h.query).bind fun _ hb => .pure (by simp [hn, hc, hb, stored])
  cases given : t.columns.filter Value.isTruthy with
  | some columns =>
    refine (V.columnize (h.columns columns (Option.mem_filter_iff.mp given).1)).bind fun _ hc => ?_
    exact (Confined.pure (P := R.sql) (sql_parens.mpr hc)).bind fun _ => ending
  | none => exact (Confined.pure (P := R.sql) sql_nil).bind fun _ => ending

theorem withClause {tables : List (CommonTable Value)} (h : ∀ t ∈ tables, t.Of (.operands R.value)) :
    R.Renders (V.scope.withClause tables) (V.other.withClause tables) R.sql := by
  unfold Scope.withClause
  refine .ite (fun _ => .pure sql_nil) fun _ => ?_
  exact (Confined.mapM fun t ht => V.commonTable (h t ht)).bind fun _ hp => .pure (by simpa using hp)

theorem value_aggregateOperand {v : Value} (h : R.value v) (asName : Value) :
    R.value (Scope.aggregateOperand v asName).1 := by
  unfold Scope.aggregateOperand
  split
  · split
    · exact value_scalar _
    · exact h
  · exact h

theorem aggregate (function : String) {v : Value} (distinct : Bool) (asName : Value) (h : R.value v) :
    R.Renders (V.scope.aggregate function v distinct asName) (V.other.aggregate function v distinct asName) R.sql := by
  unfold Scope.aggregate
  have operand := value_aggregateOperand h asName
  generalize Scope.aggregateOperand v asName = pair at operand ⊢
  obtain ⟨v', asName'⟩ := pair
  dsimp only at operand ⊢
  have ending {keyword : String} {target : Sql} (ht : R.sql target) : R.Renders
      (V.scope.aliasedIf (Sql.word keyword ++ target ++ Sql.word ")") asName')
      (V.other.aliasedIf (Sql.word keyword ++ target ++ Sql.word ")") asName') R.sql :=
    V.aliasedIf _ (by simp [ht])
  cases sequence : v'.sequence? with
  | some columns => exact (V.columnizeAll (value_sequence operand sequence)).bind fun _ => ending
  | none => exact (V.wrap operand).bind fun _ => ending

theorem windowTerms {terms : List (Value × Value)} (h : ∀ t ∈ terms, R.value t.1 ∧ R.value t.2) :
    R.Renders (V.scope.windowTerms terms) (V.other.windowTerms terms) R.sql := by
  unfold Scope.windowTerms
  refine (Confined.mapM (Q := R.sql) fun t ht => ?_).bind fun _ hp => .pure ((sql_commas _).mpr hp)
  obtain ⟨column, direction⟩ := t
  refine ((V.wrapOperand _ (h _ ht).1).bind fun _ ho => (textual ho).bind fun a ha => ?_)
  refine .ite (fun _ => ?_) fun _ => .pure ha
  exact (V.direction (h _ ht).2).bind fun _ hd => .pure (by simp [ha, hd])

theorem window {w : Window Value} (h : w.Of (.operands R.value)) :
    R.Renders (V.scope.window w) (V.other.window w) R.sql := by
  have ending {frame : Sql} (hf : R.sql frame) : R.Renders
      (V.scope.aliasedIf (Sql.word (w.function ++ "() over (") ++ frame ++ Sql.word ")") w.asName)
      (V.other.aliasedIf (Sql.word (w.function ++ "() over (") ++ frame ++ Sql.word ")") w.asName) R.sql :=
    V.aliasedIf _ (by simp [hf])
  unfold Scope.window
  cases given : w.raw with
  | some expression =>
    exact (V.unwrapOrNothing (h.raw expression given)).bind fun _ ho => (V.spell ho).bind fun _ => ending
  | none =>
    have ordered {partition : Sql} (hp : R.sql partition) : R.Renders
        (do
          let frame ← pure (partition ++ Sql.word "order by " ++ (← V.scope.windowTerms w.order))
          V.scope.aliasedIf (Sql.word (w.function ++ "() over (") ++ frame ++ Sql.word ")") w.asName)
        (do
          let frame ← pure (partition ++ Sql.word "order by " ++ (← V.other.windowTerms w.order))
          V.other.aliasedIf (Sql.word (w.function ++ "() over (") ++ frame ++ Sql.word ")") w.asName) R.sql :=
      (V.windowTerms h.order).bind fun _ ha => (Confined.pure (P := R.sql) (by simp [hp, ha])).bind fun _ => ending
    refine .ite (fun _ => (Confined.pure (P := R.sql) sql_nil).bind fun _ => ordered) fun _ => ?_
    exact (V.windowTerms h.partitions).bind fun _ ha =>
      (Confined.pure (P := R.sql) (by simp [ha])).bind fun _ => ordered

theorem projectionEntry {entry : Projection Value} (h : entry.Of (.operands R.value)) :
    R.Renders (V.scope.projectionEntry entry) (V.other.projectionEntry entry) fun os => ∀ o ∈ os, R.operand o := by
  unfold Scope.projectionEntry
  split
  · exact .pure nofun
  · exact Confined.mapM fun v hv => V.wrapOperand v (h v hv)
  · exact (V.aggregate _ _ _ h.2.1).bind fun _ ha => .pure (by simpa using ha)
  · exact (V.window h).bind fun _ ha => .pure (by simpa using ha)
  · exact (V.jsonExtract h.1 h.2.1).bind fun _ ha => (V.aliasedIf _ ha).bind fun _ ha => .pure (by simpa using ha)

theorem value_distinctOnColumns {entries : List (Projection Value)} (h : ∀ e ∈ entries, e.Of (.operands R.value)) :
    ∀ v ∈ Scope.distinctOnColumns entries, R.value v := by
  intro v hv
  obtain ⟨entry, he, hv⟩ := List.mem_flatMap.mp hv
  split at hv
  · exact h _ he v hv
  · cases hv

theorem unsupported {α : Type} {P : α → Prop} (feature detail : String) :
    R.Renders (V.scope.unsupported feature detail) (V.other.unsupported feature detail) P :=
  .throw (error_of_ne nofun)

theorem distinctClause {entries : List (Projection Value)} (h : ∀ e ∈ entries, e.Of (.operands R.value)) :
    R.Renders (V.scope.distinctClause entries) (V.other.distinctClause entries) R.sql := by
  unfold Scope.distinctClause
  refine .ite (fun _ => ?_) fun _ => .pure (sql_when _ (sql_word _))
  have columns : R.Renders
      (do return Sql.word "distinct on " ++ (← V.scope.columnizeAll (Scope.distinctOnColumns entries)).parens ++
        Sql.word " ")
      (do return Sql.word "distinct on " ++ (← V.other.columnizeAll (Scope.distinctOnColumns entries)).parens ++
        Sql.word " ") R.sql :=
    (V.columnizeAll (value_distinctOnColumns h)).bind fun _ ha => .pure (by simp [ha])
  exact .ite (fun _ => (V.unsupported (P := fun _ => True) _ _).bind fun _ _ => columns) fun _ => columns

theorem rowCount (before : String) (n : Nat) (after : String) :
    R.Renders (Scope.rowCount before n after) (Scope.rowCount before n after) R.sql :=
  (bound (value_scalar _)).bind fun _ ha => .pure (by simp [ha, sql_when])

theorem topClause (limit offset : Option Nat) :
    R.Renders (V.scope.topClause limit offset) (V.other.topClause limit offset) R.sql := by
  have capabilities : V.other.capabilities = V.scope.capabilities := rfl
  unfold Scope.topClause
  rw [capabilities]
  split
  · exact rowCount _ _ _
  · exact .pure sql_nil

theorem projection {entries : List (Projection Value)} (limit offset : Option Nat)
    (h : ∀ e ∈ entries, e.Of (.operands R.value)) :
    R.Renders (V.scope.projection entries limit offset) (V.other.projection entries limit offset) R.sql := by
  unfold Scope.projection
  refine (V.distinctClause h).bind fun distinct hd => (V.topClause limit offset).bind fun top ht => ?_
  refine (Confined.mapM fun e he => V.projectionEntry (h e he)).bind fun operands ho => ?_
  refine (textuals fun o hm => ?_).bind fun parts hp => .pure ?_
  · obtain ⟨os, hos, hm⟩ := List.mem_flatten.mp hm
    exact ho os hos o hm
  · have columns : R.sql (Sql.commas parts) := (sql_commas _).mpr hp
    simp only [sql_append, sql_word, true_and]
    refine ⟨⟨hd, ht⟩, ?_⟩
    split
    · exact sql_append.mpr ⟨columns, sql_word _⟩
    · exact columns

/-! ## Tables, groups and orders -/

theorem tableIn {schema : Option Value} {table : Value} (hs : ∀ v ∈ schema, R.value v) (ht : R.value table) :
    R.Renders (V.scope.tableIn schema table) (V.other.tableIn schema table) R.sql := by
  unfold Scope.tableIn
  split
  · exact (V.inSchema hs _).bind fun _ _ => V.wrapString _
  · exact V.wrap ht

theorem table {st : Statement Value} (h : st.Of (.operands R.value)) :
    R.Renders (V.scope.table st) (V.other.table st) R.sql := by
  unfold Scope.table
  split
  next table given => exact V.tableIn h.schema (h.table table given)
  · exact .throw (error_of_ne nofun)

theorem tableHint (lock : Option LockMode) (wait : Option WaitMode) :
    R.Renders (V.scope.tableHint lock wait) (V.other.tableHint lock wait) R.sql := by
  have capabilities : V.other.capabilities = V.scope.capabilities := rfl
  unfold Scope.tableHint
  rw [capabilities]
  split
  next mode _ =>
    cases mode with
    | forUpdate | forShare =>
      exact (Confined.pure (P := fun _ => True) trivial).bind fun _ _ => .pure (sql_word _)
    | forNoKeyUpdate | forKeyShare =>
      exact (V.unsupported (P := fun _ => True) _ _).bind fun _ _ => .pure (sql_word _)
  · exact .pure sql_nil

theorem joined {j : Join Value} (h : j.Of (.operands R.value)) :
    R.Renders (V.scope.join j) (V.other.join j) R.operand := by
  unfold Scope.join
  refine .ite (fun _ => V.unwrapOrNothing h.table) fun _ => ?_
  refine (V.tableIn h.schema h.table).bind fun table ht => (V.joinConditions h.conditions).bind fun _ hc => .pure ?_
  simp [ht, hc]

theorem joinClause {joins : List (Join Value)} (h : ∀ j ∈ joins, j.Of (.operands R.value)) :
    R.Renders (V.scope.joinClause joins) (V.other.joinClause joins) R.sql :=
  (Confined.mapM fun j hj => V.joined (h j hj)).bind fun _ ho =>
    (textuals ho).bind fun _ hp => .pure ((sql_joined _ _).mpr hp)

theorem groupEntry {entry : GroupEntry Value} (h : ∀ v ∈ entry.values, R.value v) :
    R.Renders (V.scope.groupEntry entry) (V.other.groupEntry entry) fun os => ∀ o ∈ os, R.operand o :=
  .ite (fun _ => Confined.mapM fun v hv => V.unwrapOrNothing (h v hv)) fun _ =>
    (V.columnizeAll h).bind fun _ ha => .pure (by simpa using ha)

theorem groupClause {entries : List (GroupEntry Value)} (h : ∀ g ∈ entries, ∀ v ∈ g.values, R.value v) :
    R.Renders (V.scope.groupClause entries) (V.other.groupClause entries) R.sql := by
  unfold Scope.groupClause
  refine .ite (fun _ => .pure sql_nil) fun _ => ?_
  refine (Confined.mapM fun e he => V.groupEntry (h e he)).bind fun operands ho => ?_
  refine (textuals fun o hm => ?_).bind fun parts hp => .pure (by simpa using hp)
  obtain ⟨os, hos, hm⟩ := List.mem_flatten.mp hm
  exact ho os hos o hm

theorem orderBy {column direction : Value} (nulls : Option NullsOrder) (hc : R.value column)
    (hd : R.value direction) :
    R.Renders (V.scope.orderBy column direction nulls) (V.other.orderBy column direction nulls) R.sql := by
  unfold Scope.orderBy
  refine (V.wrap hc).bind fun target ht => (V.direction hd).bind fun direction hd => ?_
  split
  · exact .pure (by simp [ht, hd])
  · exact .ite (fun _ => .pure (by simp [ht, hd])) fun _ => .pure (by simp [ht, hd])

theorem orderEntry {entry : OrderEntry Value} (h : ∀ v ∈ entry.operands, R.value v) :
    R.Renders (V.scope.orderEntry entry) (V.other.orderEntry entry) R.operand := by
  cases entry with
  | raw expression => exact V.unwrapOrNothing (h _ (.head _))
  | by_ column direction nulls =>
    exact (V.orderBy nulls (h _ (.head _)) (h _ (.tail _ (.head _)))).bind fun _ ha => .pure ha

theorem orderClause {entries : List (OrderEntry Value)} (h : ∀ e ∈ entries, ∀ v ∈ e.operands, R.value v) :
    R.Renders (V.scope.orderClause entries) (V.other.orderClause entries) R.sql := by
  unfold Scope.orderClause
  refine .ite (fun _ => .pure sql_nil) fun _ => ?_
  exact (Confined.mapM fun e he => V.orderEntry (h e he)).bind fun _ ho =>
    (textuals ho).bind fun _ hp => .pure (by simpa using hp)

/-! ## The end of a select -/

/-- The offset of a window of rows, after its limit. -/
theorem offsetAfter {limited : Sql} (hl : R.sql limited) (offset : Option Nat) : R.Renders
    (match offset with
      | some n => do return limited ++ (← Scope.rowCount " offset " n "")
      | none => return limited)
    (match offset with
      | some n => do return limited ++ (← Scope.rowCount " offset " n "")
      | none => return limited) R.sql := by
  cases offset with
  | some n => exact (rowCount _ _ _).bind fun _ ha => .pure (by simp [hl, ha])
  | none => exact .pure hl

/-- The limit of a window of rows, after its order and its offset. -/
theorem fetchAfter {ordered skipped : Sql} (ho : R.sql ordered) (hs : R.sql skipped) (limit : Option Nat) : R.Renders
    (match limit with
      | some n => do return ordered ++ skipped ++ (← Scope.rowCount " fetch next " n " rows only")
      | none => return ordered ++ skipped)
    (match limit with
      | some n => do return ordered ++ skipped ++ (← Scope.rowCount " fetch next " n " rows only")
      | none => return ordered ++ skipped) R.sql := by
  cases limit with
  | some n => exact (rowCount _ _ _).bind fun _ ha => .pure (by simp [ho, hs, ha])
  | none => exact .pure (by simp [ho, hs])

theorem paging (st : Statement Value) : R.Renders (V.scope.paging st) (V.other.paging st) R.sql := by
  have capabilities : V.other.capabilities = V.scope.capabilities := rfl
  have word (w : String) : R.Renders (pure (Sql.word w)) (pure (Sql.word w)) R.sql := .pure (sql_word w)
  have nothing : R.Renders (pure []) (pure []) R.sql := .pure sql_nil
  unfold Scope.paging
  rw [capabilities]
  generalize st.limit = limit, st.offset = offset
  -- each part is a row count, or a word
  split
  next stand _ =>
    cases limit with
    | some n => exact (rowCount _ _ _).bind fun _ hl => offsetAfter hl offset
    | none =>
      cases offset with
      | none => exact nothing.bind fun _ hl => offsetAfter hl none
      | some m =>
        cases stand with
        | none => exact nothing.bind fun _ hl => offsetAfter hl (some m)
        | some stand => exact (word _).bind fun _ hl => offsetAfter hl (some m)
  next useTop order _ =>
    refine .ite (fun _ => nothing) fun _ => ?_
    extract_lets ordered
    have first : R.sql ordered := by
      unfold ordered
      split
      · exact sql_when _ (sql_word _)
      · exact sql_nil
    cases offset with
    | some n => exact (rowCount _ _ _).bind fun _ hs => fetchAfter first hs limit
    | none =>
      cases limit with
      | some m => exact (word _).bind fun _ hs => fetchAfter first hs (some m)
      | none => exact nothing.bind fun _ hs => fetchAfter first hs none

theorem unionClause {operations : List (SetOperation Value)} (h : ∀ o ∈ operations, o.Of (.operands R.value)) :
    R.Renders (V.scope.unionClause operations) (V.other.unionClause operations) R.sql := by
  unfold Scope.unionClause
  refine (Confined.mapM (Q := R.sql) fun o ho => ?_).bind fun _ hp => .pure ((sql_flatten _).mpr hp)
  refine (V.subquery (h o ho).query).bind fun body hb => .pure ?_
  cases o.wrap <;> simp [hb]

theorem lockClause {st : Statement Value} (h : ∀ v ∈ st.lockTables, R.value v) :
    R.Renders (V.scope.lockClause st) (V.other.lockClause st) R.sql := by
  have capabilities : V.other.capabilities = V.scope.capabilities := rfl
  unfold Scope.lockClause
  rw [capabilities]
  split
  · exact .pure sql_nil
  · exact V.unsupported _ _
  · split
    · exact V.unsupported _ _
    · exact .pure sql_nil
  · exact .pure sql_nil
  next modes waits ofTables mode _ _ =>
    have ending {tables : Sql} (ht : R.sql tables) : R.Renders (V.scope.lockRows waits mode st.wait tables)
        (V.other.lockRows waits mode st.wait tables) R.sql := by
      have ends (wait : Sql) (hw : R.sql wait) : R.sql (Sql.word (Scope.lockWords mode) ++ tables ++ wait) := by
        simp [ht, hw]
      cases st.wait with
      | none => exact (Confined.pure (P := R.sql) sql_nil).bind fun wait hw => .pure (ends wait hw)
      | some wait =>
        have last : R.Renders (pure (Sql.word (Scope.waitWords wait))) (pure (Sql.word (Scope.waitWords wait)))
            R.sql := .pure (sql_word _)
        refine .ite (fun _ => (V.unsupported (P := fun _ => True) _ _).bind fun _ _ => ?_) fun _ => ?_
        · exact last.bind fun wait hw => .pure (ends wait hw)
        · exact last.bind fun wait hw => .pure (ends wait hw)
    have columns : R.Renders
        (do
          let tables ← pure (Sql.word " of " ++ (← V.scope.columnizeAll st.lockTables))
          V.scope.lockRows waits mode st.wait tables)
        (do
          let tables ← pure (Sql.word " of " ++ (← V.other.columnizeAll st.lockTables))
          V.other.lockRows waits mode st.wait tables) R.sql :=
      (V.columnizeAll h).bind fun _ ha => (Confined.pure (P := R.sql) (by simp [ha])).bind fun _ => ending
    have rest : R.Renders
        (if st.lockTables.isEmpty then do V.scope.lockRows waits mode st.wait (← pure [])
          else do
            if !ofTables then V.scope.unsupported "lock tables"
            let tables ← pure (Sql.word " of " ++ (← V.scope.columnizeAll st.lockTables))
            V.scope.lockRows waits mode st.wait tables)
        (if st.lockTables.isEmpty then do V.other.lockRows waits mode st.wait (← pure [])
          else do
            if !ofTables then V.other.unsupported "lock tables"
            let tables ← pure (Sql.word " of " ++ (← V.other.columnizeAll st.lockTables))
            V.other.lockRows waits mode st.wait tables) R.sql := by
      refine .ite (fun _ => (Confined.pure (P := R.sql) sql_nil).bind fun _ => ending) fun _ => ?_
      exact .ite (fun _ => (V.unsupported (P := fun _ => True) _ _).bind fun _ _ => columns) fun _ => columns
    exact .ite (fun _ => (V.unsupported (P := fun _ => True) _ _).bind fun _ _ => rest) fun _ => rest

end SqlBuilder.Region.View
