import SqlBuilder.Proofs.ConfinedChanges

/-!
# Calls that are confined to a region

A call on a query whose arguments refer to a region only is confined to it: the query refers to nothing outside
of the region when it did not before, whether the call succeeds or is refused, and neither does what the chain
of calls goes on with.

* `Region.step`: where a chain goes on, within a region.
* `Region.Builds`: a call that is confined to a region.
* `Region.builds_condition` and its like: each kind of calls.
* `Region.builds_calls`, `Region.builds_call`: every call on a query.
-/

namespace SqlBuilder.Region

open QueryCall

variable (R : Region)

/-- What a chain of calls goes on with lies in a region. -/
def step : QueryStep → Prop
  | .stay | .copy | .output _ | .unknown => True
  | .conflict columns => ∀ v ∈ columns, R.value v
  | .value v => R.value v
  | .join chains j => (∀ calls ∈ chains, R.chain calls) ∧ j.Of (.operands R.value)
  | .window chains w => (∀ calls ∈ chains, R.chain calls) ∧ w.Of (.operands R.value)

/-- A call keeps a query within a region, whether it succeeds or is refused. -/
abbrev Builds (c : Build (Query Value) QueryStep) : Prop :=
  R.Confined R.query c c R.step

variable {R}

/-! ## Kinds of calls -/

theorem builds_always {f : Query Value → Query Value} (h : ∀ q, R.query q → R.query (f q)) :
    R.Builds (always f) :=
  (Confined.modify h).bind fun _ _ => .pure trivial

theorem builds_attempt {f : Query Value → Except Error (Query Value)}
    (h : ∀ q, R.query q → R.Outcome R.query (f q)) : R.Builds (attempt f) :=
  (Confined.change h).bind fun _ _ => .pure trivial

section

variable {a : Arguments} (ha : R.arguments a)

include ha

theorem builds_columns {f : Query Value → List Value → Query Value}
    (h : ∀ q vs, R.query q → (∀ v ∈ vs, R.value v) → R.query (f q vs)) : R.Builds (columns a f) :=
  builds_attempt fun q hq => (outcome_variadic ha _).bind fun r hr => .pure (h q r.1 hq hr.1)

theorem builds_single (parameter : String) {f : Query Value → Value → Query Value}
    (h : ∀ q v, R.query q → R.value v → R.query (f q v)) : R.Builds (single a parameter f) :=
  builds_attempt fun q hq => (outcome_one ha _).bind fun v hv => .pure (h q v hq hv)

/-- A change made of the values that some parameters received. -/
theorem builds_bound (parameters : List String) (required : Nat)
    {f : Query Value → Bound → Except Error (Query Value)}
    (h : ∀ q b, R.query q → R.bound b → R.Outcome R.query (f q b)) :
    R.Builds (attempt fun q => do let b ← a.bind parameters required; f q b) :=
  builds_attempt fun q hq => (outcome_bind ha _ _).bind fun b hb => h q b hq hb

theorem builds_join (kind : String) : R.Builds (QueryCall.join kind a) := by
  refine (Confined.liftExcept (outcome_bind ha _ _)).bind fun b hb => Confined.get_bind fun q hq => ?_
  have table := value_get hb "table"
  have joined := join_joinOf hq kind table
  dsimp only
  split
  · refine builds_always fun q hq => ?_
    split
    · exact query_rawJoin hq table
    · exact query_addJoin hq joined
  next chains given => exact .pure ⟨value_callback.mp (value_given? hb _ _ given), joined⟩
  next first _ given =>
    exact builds_always fun q hq => query_addJoin hq
      (join_on joined _ nofun (value_given? hb _ _ given) (value_given? hb _) (value_given? hb _))

theorem builds_window (function : String) : R.Builds (QueryCall.window function a) := by
  refine (Confined.liftExcept (outcome_bind ha _ _)).bind fun b hb => ?_
  have window : Window.Of (.operands R.value) { function, asName := b.get "alias" } :=
    { word := trivial, asName := value_get hb _, raw := nofun, order := nofun, partitions := nofun }
  have order := value_get hb "order_by"
  dsimp only
  split
  next chains given =>
    rw [given] at order
    exact .pure ⟨value_callback.mp order, window⟩
  · refine .ite (fun _ => builds_always fun q hq => query_addWindow hq ?_) fun _ => ?_
    · exact { window with raw := by rintro _ ⟨⟩; exact order }
    · exact builds_attempt fun q hq =>
        (outcome_windowOf window order (value_get hb _)).bind fun _ hw => .pure (query_addWindow hq hw)

theorem builds_commonTable (recursive : Bool) (materialized : Option Bool) :
    R.Builds (commonTable a recursive materialized) :=
  builds_bound ha _ _ fun _ _ hq hb =>
    query_withTable hq _ (value_get hb _) (value_present? (value_get hb _)) _ _

variable (clause : ConditionClause) (connective : Connective) (negated : Bool)

theorem builds_condition : R.Builds (condition a clause connective negated) :=
  builds_bound ha _ _ fun _ _ hq hb =>
    query_addWhere hq _ _ _ (value_get hb _) (value_given? hb _) (value_given? hb _)

theorem builds_columnComparison : R.Builds (columnComparison a connective) :=
  builds_bound ha _ _ fun _ _ hq hb => .pure
    (query_addColumnComparison hq _ (value_get hb _) (value_get hb _) (value_given? hb _))

theorem builds_membership : R.Builds (membership a clause connective negated) :=
  builds_bound ha _ _ fun _ _ hq hb => .pure (query_addIn hq _ _ _ (value_get hb _) (value_get hb _))

theorem builds_nullness : R.Builds (nullness a clause connective negated) :=
  builds_single ha _ fun _ _ hq hv => query_isNull hq _ _ _ hv

theorem builds_range : R.Builds (range a clause connective negated) :=
  builds_bound ha _ _ fun _ _ hq hb => query_addBetween hq _ _ _ (value_get hb _) (value_get hb _)

theorem builds_existence : R.Builds (existence a connective negated) :=
  builds_single ha _ fun _ _ hq hv => query_addCondition hq _ _ _ (by simpa [Test.operands] using hv)

omit ha in
theorem value_toRaw (q : Query Value) {sql bindings : Value} (hs : R.value sql) (hb : R.value bindings) :
    R.value (q.toRaw sql bindings) := by
  unfold Query.toRaw
  split
  · exact hs
  · exact value_ofValue q.client hs hb

theorem builds_rawCondition : R.Builds (rawCondition a clause connective) :=
  builds_bound ha _ _ fun q _ hq hb => .pure (query_addCondition hq _ _ _
    (by simpa [Test.operands] using value_toRaw q (value_get hb _) (value_get hb _)))

theorem builds_pattern (ignoreCase : Bool) : R.Builds (pattern a connective ignoreCase) :=
  builds_bound ha _ _ fun _ _ hq hb => .pure (query_addCondition hq _ _ _
    (by simpa [Test.operands] using ⟨value_get hb _, value_get hb _⟩))

theorem builds_jsonComparison : R.Builds (jsonComparison a connective) :=
  builds_bound ha _ _ fun _ _ hq hb => .pure (query_addCondition hq _ _ _
    (by simpa [Test.operands] using ⟨value_get hb _, value_get hb _, value_get hb _, value_get hb _⟩))

theorem builds_setOperation (kind : String) : R.Builds (setOperation a kind) :=
  builds_attempt fun _ hq => (outcome_variadic ha _).bind fun _ hr => .pure (query_combine hq _ hr.1 _)

theorem builds_aggregate (function : String) (distinct : Bool) : R.Builds (aggregate a function distinct) :=
  builds_single ha _ fun _ _ hq hv => query_aggregate hq _ hv _

theorem builds_lock (mode : LockMode) : R.Builds (lock a mode) :=
  builds_columns ha fun _ _ hq hv => query_lock hq _ hv

theorem builds_wait (mode : WaitMode) : R.Builds (wait a mode) :=
  builds_attempt fun _ hq => (outcome_none ha).bind fun _ _ => query_wait hq mode

theorem builds_clear (name : String) : R.Builds (clear a name) :=
  builds_attempt fun _ hq => (outcome_none ha).bind fun _ _ => query_clear hq _

theorem builds_conflict : R.Builds (conflict a) :=
  (Confined.liftExcept (outcome_variadic ha _)).bind fun _ hr => .pure hr.1

theorem builds_context : R.Builds (QueryCall.context a) := by
  refine (Confined.liftExcept (outcome_bind ha _ _)).bind fun b hb => ?_
  split
  · exact Confined.get_bind fun q hq => .pure (value_getD hq.context (value_scalar _))
  next context given => exact builds_always fun q hq => query_setContext hq (value_given? hb _ _ given)

theorem builds_copy : R.Builds (copy a) :=
  (Confined.liftExcept (outcome_none ha)).bind fun _ _ => .pure trivial

theorem builds_output (form : OutputForm) : R.Builds (output a form) :=
  (Confined.liftExcept (outcome_none ha)).bind fun _ _ => .pure trivial

theorem builds_extension : R.Builds (QueryCall.extension a) := by
  refine (Confined.liftExcept (outcome_bind ha _ _)).bind fun b hb => ?_
  have ends : R.Builds (pure (.value .null)) := .pure (value_scalar _)
  split
  · exact .ite (fun _ => .throw (error_invalid _)) fun _ => ends
  · exact .throw error_wrongType

theorem builds_removal : R.Builds (removal a) :=
  (Confined.liftExcept (outcome_one ha _)).bind fun _ _ =>
    .ite (fun _ => .throw error_wrongType) fun _ => .pure (value_scalar _)

end

/-! ## Calls that take lists entry by entry -/

theorem outcome_nullsOrder (nulls : Value) : R.Outcome (fun _ => True) (Query.nullsOrder nulls) := by
  unfold Query.nullsOrder
  split
  · trivial
  · trivial
  · trivial
  · exact error_invalid _

variable (R) in
/-- A change keeps a query within a region, whether it succeeds or is refused. -/
abbrev Keeps (c : Build (Query Value) Unit) : Prop :=
  R.Confined R.query c c fun _ => True

theorem keeps_checkNulls (nulls : Value) : R.Keeps (Query.checkNulls nulls) :=
  (Confined.liftExcept (outcome_nullsOrder nulls)).bind fun _ _ => .pure trivial

mutual

theorem keeps_orderBy {direction column : Value} (hd : R.value direction) (nulls : Value)
    (hc : R.value column) : R.Keeps (Query.orderBy direction nulls column) := by
  unfold Query.orderBy
  split
  next items => exact (keeps_checkNulls nulls).bind fun _ _ => keeps_orderByAll hd (value_list.mp hc)
  next items => exact (keeps_checkNulls nulls).bind fun _ _ => keeps_orderByAll hd (value_tuple.mp hc)
  · refine (Confined.liftExcept (outcome_nullsOrder nulls)).bind fun _ _ => .modify fun q hq => ?_
    exact query_addOrders hq (by simpa [OrderEntry.operands] using ⟨hc, hd⟩)

theorem keeps_orderByAll {direction : Value} (hd : R.value direction) {items : List Value}
    (h : ∀ v ∈ items, R.value v) : R.Keeps (Query.orderByAll direction items) := by
  unfold Query.orderByAll
  split
  · exact .pure trivial
  next entries items =>
    have held := value_map.mp (h _ (.head _))
    exact (keeps_orderByEntry (value_entryOrNull _ held) _ held).bind fun _ _ =>
      keeps_orderByAll hd fun v hv => h v (.tail _ hv)
  next item items _ =>
    exact (keeps_orderBy hd .null (h _ (.head _))).bind fun _ _ =>
      keeps_orderByAll hd fun v hv => h v (.tail _ hv)

theorem keeps_orderByEntry {direction : Value} (hd : R.value direction) (nulls : Value)
    {entries : List (Value × Value)} (h : ∀ e ∈ entries, R.value e.1 ∧ R.value e.2) :
    R.Keeps (Query.orderByEntry direction nulls entries) := by
  unfold Query.orderByEntry
  split
  · exact .throw (error_fault _)
  next key column entries =>
    exact .ite (fun _ => keeps_orderBy hd nulls (h _ (.head _)).2) fun _ =>
      keeps_orderByEntry hd nulls fun e he => h e (.tail _ he)

end

theorem query_setCounter {q : Query Value} (h : R.query q) {c : Counter Value} (hc : R.value c.step) :
    R.query (q.edit fun s => { s with counters := Query.setCounter s.counters c }) := by
  refine ⟨{ h.statement with counters := ?_ }, h.context⟩
  dsimp only [Query.edit]
  unfold Query.setCounter
  split
  · intro c' hm
    obtain ⟨old, ho, rfl⟩ := List.mem_map.mp hm
    split
    · exact hc
    · exact h.statement.counters old ho
  · exact List.forall_mem_append.mpr ⟨h.statement.counters, List.forall_mem_singleton.mpr hc⟩

theorem outcome_counterOf (sign : Sign) {e : Value × Value} (h : R.value e.2) :
    R.Outcome (fun c => R.value c.step) (Query.counterOf sign e) := by
  unfold Query.counterOf
  split
  · split
    · exact h
    · exact error_invalid _
  · exact error_invalid _

theorem keeps_countAll (sign : Sign) {entries : List (Value × Value)} (h : ∀ e ∈ entries, R.value e.2) :
    R.Keeps (Query.countAll sign entries) := by
  induction entries with
  | nil => exact .modify fun q hq => ⟨{ hq.statement with }, hq.context⟩
  | cons entry entries ih =>
    exact (Confined.liftExcept (outcome_counterOf sign (h _ (.head _)))).bind fun c hc =>
      (Confined.modify fun q hq => query_setCounter hq hc).bind fun _ _ => ih fun e he => h e (.tail _ he)

theorem keeps_count (sign : Sign) {column amount : Value} (hc : R.value column) (hs : R.value amount) :
    R.Keeps (Query.count sign column amount) := by
  unfold Query.count
  split
  · exact keeps_countAll sign fun e he => (value_map.mp hc e he).2
  · exact keeps_countAll sign (List.forall_mem_singleton.mpr hs)

section

variable {a : Arguments} (ha : R.arguments a)

include ha

theorem builds_order : R.Builds (order a) :=
  (Confined.liftExcept (outcome_bind ha _ _)).bind fun _ hb =>
    (keeps_orderBy (value_get hb _) _ (value_get hb _)).bind fun _ _ => .pure trivial

theorem builds_counter (sign : Sign) : R.Builds (counter a sign) := by
  refine (Confined.liftExcept (outcome_bind ha _ _)).bind fun b hb => ?_
  have amount := value_getD (value_given? hb "amount") (value_scalar (.int 1))
  exact (keeps_count sign (value_get hb _) amount).bind fun _ _ => .pure trivial

theorem builds_options : R.Builds (QueryCall.options a) := by
  have each {items : List Value} (h : ∀ v ∈ items, R.value v) : R.Keeps (addEach items) := by
    induction items with
    | nil => exact .pure trivial
    | cons item items ih =>
      refine (Confined.change fun q hq => ?_).bind fun _ _ => ih fun v hv => h v (.tail _ hv)
      exact (outcome_entry (h _ (.head _))).bind fun _ _ => .pure (query_addOptions hq _)
  refine (Confined.liftExcept (outcome_one ha _)).bind fun v hv => ?_
  split
  · exact builds_always fun q hq => query_addOptions hq _
  · exact (Confined.liftExcept (View.outcome_items hv)).bind fun _ hi =>
      (each hi).bind fun _ _ => .pure trivial

end

/-! ## Calls by name -/

/-- Every call on a query is confined to a region to which its arguments refer. -/
theorem builds_calls : ∀ c ∈ Query.calls, ∀ a, R.arguments a → R.Builds (c.2 a) := by
  have raw {q : Query Value} {b : Bound} (hb : R.bound b) :
      R.value (q.toRaw (b.get "sql") (b.get "bindings")) := value_toRaw q (value_get hb _) (value_get hb _)
  simp only [Query.calls, List.forall_mem_cons]
  exact ⟨
    -- projection and source
    fun a ha => builds_columns ha fun _ _ => query_select,
    fun a ha => builds_columns ha fun _ _ => query_distinct,
    fun a ha => builds_attempt fun _ hq => (outcome_variadic ha _).bind fun _ hr => query_distinctOn hq hr.1,
    fun a ha => builds_single ha _ fun _ _ => query_from,
    fun a ha => builds_single ha _ fun _ _ => query_withSchema,
    fun a ha => builds_single ha _ fun _ _ => query_as,
    fun a ha => builds_commonTable ha _ _,
    fun a ha => builds_commonTable ha _ _,
    fun a ha => builds_commonTable ha _ _,
    fun a ha => builds_commonTable ha _ _,
    -- joins
    fun a ha => builds_join ha _, fun a ha => builds_join ha _, fun a ha => builds_join ha _,
    fun a ha => builds_join ha _, fun a ha => builds_join ha _, fun a ha => builds_join ha _,
    fun a ha => builds_join ha _,
    -- conditions
    fun a ha => builds_condition ha _ _ _, fun a ha => builds_condition ha _ _ _,
    fun a ha => builds_condition ha _ _ _, fun a ha => builds_condition ha _ _ _,
    fun a ha => builds_columnComparison ha _, fun a ha => builds_columnComparison ha _,
    fun a ha => builds_membership ha _ _ _, fun a ha => builds_membership ha _ _ _,
    fun a ha => builds_membership ha _ _ _, fun a ha => builds_membership ha _ _ _,
    fun a ha => builds_nullness ha _ _ _, fun a ha => builds_nullness ha _ _ _,
    fun a ha => builds_nullness ha _ _ _, fun a ha => builds_nullness ha _ _ _,
    fun a ha => builds_range ha _ _ _, fun a ha => builds_range ha _ _ _,
    fun a ha => builds_range ha _ _ _, fun a ha => builds_range ha _ _ _,
    fun a ha => builds_existence ha _ _, fun a ha => builds_existence ha _ _,
    fun a ha => builds_existence ha _ _, fun a ha => builds_existence ha _ _,
    fun a ha => builds_rawCondition ha _ _, fun a ha => builds_rawCondition ha _ _,
    fun a ha => builds_pattern ha _ _, fun a ha => builds_pattern ha _ _,
    fun a ha => builds_pattern ha _ _, fun a ha => builds_pattern ha _ _,
    fun a ha => builds_jsonComparison ha _, fun a ha => builds_jsonComparison ha _,
    -- groups, orders and havings
    fun a ha => builds_columns ha fun _ _ => query_groupBy,
    fun a ha => builds_bound ha _ _ fun _ _ hq hb => .pure (query_groupByRaw hq (raw hb)),
    fun a ha => builds_order ha,
    fun a ha => builds_bound ha _ _ fun _ _ hq hb => .pure
      (query_addOrders hq (by simpa [OrderEntry.operands] using raw hb)),
    fun a ha => builds_condition ha _ _ _, fun a ha => builds_condition ha _ _ _,
    fun a ha => builds_membership ha _ _ _, fun a ha => builds_membership ha _ _ _,
    fun a ha => builds_nullness ha _ _ _, fun a ha => builds_nullness ha _ _ _,
    fun a ha => builds_range ha _ _ _, fun a ha => builds_range ha _ _ _,
    fun a ha => builds_rawCondition ha _ _, fun a ha => builds_rawCondition ha _ _,
    -- set operations and paging
    fun a ha => builds_setOperation ha _, fun a ha => builds_setOperation ha _,
    fun a ha => builds_setOperation ha _, fun a ha => builds_setOperation ha _,
    fun a ha => builds_attempt fun _ hq => (outcome_one ha _).bind fun v _ => query_limit hq v,
    fun a ha => builds_attempt fun _ hq => (outcome_one ha _).bind fun v _ => query_offset hq v,
    fun a ha => builds_columns ha fun _ _ => query_first,
    -- aggregates, windows and JSON
    fun a ha => builds_bound ha _ _ fun _ _ hq hb => .pure
      (query_aggregate hq _ (value_getD (value_given? hb _) (value_scalar _)) _),
    fun a ha => builds_columns ha fun _ _ hq hv => query_aggregate hq _ (value_distinctTarget hv) _,
    fun a ha => builds_aggregate ha _ _, fun a ha => builds_aggregate ha _ _,
    fun a ha => builds_aggregate ha _ _, fun a ha => builds_aggregate ha _ _,
    fun a ha => builds_aggregate ha _ _, fun a ha => builds_aggregate ha _ _,
    fun a ha => builds_window ha _, fun a ha => builds_window ha _, fun a ha => builds_window ha _,
    fun a ha => builds_bound ha _ _ fun _ _ hq hb => .pure
      (query_jsonExtract hq (value_get hb _) (value_get hb _) (value_get hb _)),
    -- locks
    fun a ha => builds_lock ha _, fun a ha => builds_lock ha _,
    fun a ha => builds_lock ha _, fun a ha => builds_lock ha _,
    fun a ha => builds_wait ha _, fun a ha => builds_wait ha _,
    -- writes
    fun a ha => builds_bound ha _ _ fun _ _ hq hb => .pure (query_insert hq (value_get hb _) (value_get hb _)),
    fun a ha => builds_bound ha _ _ fun _ _ hq hb => .pure (query_upsert hq (value_get hb _) (value_get hb _)),
    fun a ha => builds_bound ha _ _ fun _ _ hq hb =>
      query_update hq (value_get hb _) (value_given? hb _) (value_get hb _),
    fun a ha => builds_counter ha _, fun a ha => builds_counter ha _,
    fun a ha => builds_bound ha _ _ fun _ _ hq hb => .pure (query_delete hq (value_get hb _)),
    fun a ha => builds_attempt fun _ hq => (outcome_none ha).bind fun _ _ => .pure (query_truncate hq),
    fun a ha => builds_columns ha fun _ _ => query_returning,
    fun a ha => builds_conflict ha,
    -- what is needed to run a query
    fun a ha => builds_attempt fun _ hq => (outcome_one ha _).bind fun v _ => query_comment hq v,
    fun a ha => builds_bound ha _ _ fun _ _ hq _ => query_setTimeout hq _ _,
    fun a ha => builds_options ha,
    fun a ha => builds_context ha,
    -- copies and clearing
    fun a ha => builds_copy ha,
    fun a ha => builds_attempt fun _ hq => (outcome_one ha _).bind fun v _ => query_clear hq v,
    fun a ha => builds_clear ha _, fun a ha => builds_clear ha _, fun a ha => builds_clear ha _,
    fun a ha => builds_clear ha _, fun a ha => builds_clear ha _, fun a ha => builds_clear ha _,
    -- what it compiles to
    fun a ha => builds_output ha _, fun a ha => builds_output ha _, fun a ha => builds_output ha _,
    -- methods of the caller's
    fun a ha => builds_extension ha,
    fun a ha => builds_removal ha,
    nofun⟩

/-- A call on a query by name is confined to a region to which its arguments refer. -/
theorem builds_call (name : String) {a : Arguments} (ha : R.arguments a) : R.Builds (Query.call name a) := by
  unfold Query.call
  split
  next found => exact builds_calls _ (List.mem_of_find?_eq_some found) a ha
  · exact .ite (fun _ => .throw error_wrongType) fun _ => .pure trivial

end SqlBuilder.Region
