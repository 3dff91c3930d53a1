import SqlBuilder.Proofs.Registers

/-!
# Calls on registers

A call that writes a register reads no other part of the statement than its schema, so the entries it puts there
are the same for all queries with the same client and the same schema. There is one rule for each way in which
steps are put together, one lemma for each change of a query, and from these one for each kind of call.

* `Register.Gives`, `Register.Confines`: the judgements on changes and on steps.
* `Register.Ends`: what a call on a register may leave to be done.
* `Query.gives_addWhere`, `Query.gives_select` and their siblings: the changes.
* `Query.calls_confined`: every call that the table of calls has for a method that writes a register.
-/

namespace SqlBuilder

open Query (Alike)

namespace Register

variable (g : Register) {α β : Type}

/-! ## Judgements -/

/-- A change of a query that puts entries into one register, which are the same for all queries that calls on it do
not tell apart. -/
def Gives (f : Query Value → Except Error (Query Value)) : Prop :=
  ∀ q q', f q = .ok q' → ∃ es, (∀ e ∈ es, e.register = g) ∧ ∀ q₂, g.Alike q q₂ → f q₂ = .ok (q₂.put es)

/-- A step that puts entries into one register, which are the same for all queries that calls on it do not tell
apart, and so is its result. -/
def Confines (P : α → Prop) (step : Build (Query Value) α) : Prop :=
  ∀ q a q', step q = .ok a q' → P a ∧
    ∃ es, (∀ e ∈ es, e.register = g) ∧ ∀ q₂, g.Alike q q₂ → step q₂ = .ok a (q₂.put es)

variable {g} {P : α → Prop} {Q : β → Prop}

namespace Gives

/-- A change that always puts the same entries. -/
theorem put {f : Query Value → Query Value} (es : List Entry) (of : ∀ e ∈ es, e.register = g)
    (same : ∀ q, f q = q.put es) : g.Gives fun q => pure (f q) := by
  rintro q _ ⟨⟩
  exact ⟨es, of, fun q₂ _ => congrArg Except.ok (same q₂)⟩

/-- A change whose entries are made for the client of the query. -/
theorem put_client {f : Query Value → Query Value} (es : Client Value → List Entry)
    (of : ∀ client, ∀ e ∈ es client, e.register = g) (same : ∀ q, f q = q.put (es q.client)) :
    g.Gives fun q => pure (f q) := by
  rintro q _ ⟨⟩
  refine ⟨es q.client, of _, fun q₂ alike => congrArg Except.ok ?_⟩
  rw [same, alike.client]

theorem error (e : Error) : g.Gives fun _ => .error e := by
  rintro q _ ⟨⟩

/-- A change after an outcome that does not depend on the query. -/
protected theorem bind {x : Except Error β} {f : β → Query Value → Except Error (Query Value)}
    (h : ∀ b, g.Gives (f b)) : g.Gives fun q => x >>= fun b => f b q := by
  cases x with
  | ok b => exact h b
  | error e => exact error e

end Gives

namespace Confines

protected theorem pure {a : α} (result : P a) : g.Confines P (pure a) := by
  rintro q _ _ ⟨⟩
  exact ⟨result, [], nofun, fun _ _ => rfl⟩

protected theorem throw (e : Error) : g.Confines P (throw e) := by
  rintro q _ _ ⟨⟩

protected theorem bind {step : Build (Query Value) α} {f : α → Build (Query Value) β}
    (h : g.Confines P step) (next : ∀ a, g.Confines Q (f a)) : g.Confines Q (step >>= f) := by
  intro q b q' run
  obtain ⟨a, q₁, first, second⟩ := Build.bind_ok.mp run
  obtain ⟨-, es, of, puts⟩ := h q a q₁ first
  obtain ⟨result, es', of', puts'⟩ := next a q₁ b q' second
  obtain rfl : q₁ = q.put es := by
    cases first.symm.trans (puts q (Alike.refl.on g))
    rfl
  refine ⟨result, es ++ es', fun e mem => (List.mem_append.mp mem).elim (of e) (of' e), fun q₂ alike => ?_⟩
  rw [Query.put_append]
  exact Build.bind_ok.mpr ⟨a, _, puts q₂ alike, puts' _ (alike.put es es)⟩

/-- A step after an outcome without effects. -/
theorem of_outcome {x : Except Error α} {f : α → Build (Query Value) β} (next : ∀ a, g.Confines Q (f a)) :
    g.Confines Q (liftExcept x >>= f) := by
  cases x with
  | ok a => exact next a
  | error e => exact .throw e

/-- A step that looks at the client and the schema of the query first. -/
theorem of_get {f : Query Value → Build (Query Value) β} (next : ∀ q, g.Confines Q (f q))
    (fixed : ∀ q q₂, g.Alike q q₂ → f q₂ = f q) : g.Confines Q (get >>= f) := by
  intro q b q' run
  obtain ⟨result, es, of, puts⟩ := next q q b q' run
  refine ⟨result, es, of, fun q₂ alike => ?_⟩
  change f q₂ q₂ = _
  rw [fixed q q₂ alike]
  exact puts q₂ alike

theorem modify {f : Query Value → Query Value} (h : g.Gives fun q => pure (f q)) :
    g.Confines (fun _ => True) (modify f : Build (Query Value) PUnit) := by
  rintro q _ _ ⟨⟩
  obtain ⟨es, of, puts⟩ := h q _ rfl
  refine ⟨trivial, es, of, fun q₂ alike => ?_⟩
  exact congrArg (EStateM.Result.ok ()) (Except.ok.inj (puts q₂ alike))

end Confines

/-- What is still to be done after a call on a register, if something is: a callback puts a join or a window
together. -/
def Ends (g : Register) : QueryStep → Prop
  | .stay => True
  | .join _ _ => g = .joins
  | .window _ _ => g = .projection
  | _ => False

end Register

/-- The register of a clause of conditions. -/
def ConditionClause.register : ConditionClause → Register
  | where_ => .wheres
  | having => .havings

/-- A condition as an entry of its clause. -/
def ConditionClause.entry : ConditionClause → Condition Value → Entry
  | where_ => .where_
  | having => .having

/-! ## Changes of a query -/

namespace Query

open Register (Gives Confines)

variable {g : Register} {clause : ConditionClause} {connective : Connective} {negated : Bool}

/-- More entries of the projection. -/
theorem put_projection (q : Query Value) (ps : List (Projection Value)) :
    (q.edit fun s => { s with projection := s.projection ++ ps }) = q.put (ps.map .projection) := by
  induction ps generalizing q with
  | nil => simp [edit]
  | cons p ps ih =>
    rw [List.map_cons, put_cons, ← ih]
    simp [put, edit, Entry.apply]

/-- More set operations. -/
theorem put_unions (q : Query Value) (us : List (SetOperation Value)) :
    (q.edit fun s => { s with unions := s.unions ++ us }) = q.put (us.map .union) := by
  induction us generalizing q with
  | nil => simp [edit]
  | cons u us ih =>
    rw [List.map_cons, put_cons, ← ih]
    simp [put, edit, Entry.apply]

theorem addCondition_put (q : Query Value) (test : Test Value) :
    q.addCondition clause connective negated test = q.put [clause.entry { connective, negated, test }] := by
  cases clause <;> rfl

theorem entry_register (c : Condition Value) : (clause.entry c).register = clause.register := by
  cases clause <;> rfl

theorem gives_addCondition (test : Test Value) :
    clause.register.Gives fun q => pure (q.addCondition clause connective negated test) :=
  .put [_] (by simp [entry_register]) fun q => q.addCondition_put test

theorem gives_addBetween (column bounds : Value) :
    clause.register.Gives fun q => q.addBetween clause connective negated column bounds := by
  unfold addBetween
  split
  · exact gives_addCondition _
  · exact .error _

theorem gives_addComparison (column operator value : Value) :
    clause.register.Gives fun q => q.addComparison clause connective negated column operator value := by
  unfold addComparison
  simp only
  split
  · exact gives_addCondition _
  · exact gives_addCondition _
  · exact gives_addBetween column _
  · exact gives_addBetween column _
  · split
    · exact gives_addCondition _
    · split <;> exact gives_addCondition _
  · exact gives_addCondition _

/-- Conditions for the entries of a mapping. -/
theorem put_pairs (q : Query Value) (clause : ConditionClause) (entries : List (Value × Value)) :
    entries.foldl (fun q (k, v) => q.addCondition clause .and false (pairTest k v)) q =
      q.put (entries.map fun (k, v) => clause.entry { test := pairTest k v }) := by
  induction entries generalizing q with
  | nil => rfl
  | cons entry entries ih =>
    obtain ⟨k, v⟩ := entry
    rw [List.foldl_cons, ih, List.map_cons, put_cons]
    exact congrArg (fun q => put q _) (q.addCondition_put _)

theorem gives_addCriterion (criterion : Value) :
    clause.register.Gives fun q => q.addCriterion clause connective negated criterion := by
  unfold addCriterion
  split
  · exact .put_client (fun client => [clause.entry ⟨connective, none, negated, .raw ((ofClient client).rawText _)⟩])
      (by simp [entry_register]) fun q => q.addCondition_put _
  · split
    · refine .put _ (fun e mem => ?_) fun q => q.put_pairs clause _
      obtain ⟨⟨k, v⟩, -, rfl⟩ := List.mem_map.mp mem
      exact entry_register _
    · exact gives_addCondition _
  · exact gives_addCondition _
  · split
    · exact gives_addCondition _
    · exact .error _

theorem gives_addWhere (column : Value) (operator value : Option Value) :
    clause.register.Gives fun q => q.addWhere clause connective negated column operator value := by
  unfold addWhere
  split
  · exact gives_addCriterion column
  · exact gives_addCondition _
  · exact gives_addComparison column _ _
  · exact gives_addComparison column _ _

theorem gives_addColumnComparison (column operator : Value) (other : Option Value) :
    Register.wheres.Gives fun q => pure (q.addColumnComparison connective column operator other) := by
  cases other <;> exact @gives_addCondition .where_ _ _ _

theorem gives_withTable (name query : Value) (columns : Option Value) (recursive : Bool)
    (materialized : Option Bool) :
    Register.commonTables.Gives fun q => q.withTable name query columns recursive materialized := by
  unfold withTable
  split
  next name =>
    split
    · exact .put [.commonTable { name, query, columns, recursive, materialized }] (by simp [Entry.register])
        fun _ => rfl
    · exact .error _
  · exact .error _

theorem gives_limit (value : Value) : Register.limit.Gives fun q => q.limit value :=
  .bind fun n => .put [.limit n] (by simp [Entry.register]) fun _ => rfl

theorem gives_offset (value : Value) : Register.offset.Gives fun q => q.offset value :=
  .bind fun n => .put [.offset n] (by simp [Entry.register]) fun _ => rfl

theorem gives_distinctOn (columns : List Value) : Register.projection.Gives fun q => q.distinctOn columns := by
  cases columns with
  | nil => exact .error _
  | cons column columns =>
    exact .put [.projection (.columns (column :: columns) .distinctOn)] (by simp [Entry.register]) fun _ => rfl

theorem gives_select (columns : List Value) : Register.projection.Gives fun q => pure (q.select columns) := by
  cases columns with
  | nil => exact .put [] nofun fun _ => rfl
  | cons column columns =>
    exact .put [.projection (.columns (column :: columns) .plain)] (by simp [Entry.register]) fun _ => rfl

theorem gives_aggregate (function : String) (column : Value) (distinct : Bool) :
    Register.projection.Gives fun q => pure (q.aggregate function column distinct) :=
  .put _ (by simp [Entry.register]) fun q => q.put_projection _

theorem gives_combine (kind : String) (queries : List Value) (wrap : Bool) :
    Register.unions.Gives fun q => pure (q.combine kind queries wrap) :=
  .put _ (by simp [Entry.register]) fun q => q.put_unions _

/-! ### Orders -/

theorem confines_checkNulls (nulls : Value) : Register.orders.Confines (fun _ => True) (checkNulls nulls) :=
  .of_outcome fun _ => .pure trivial

theorem confines_addOrder (column direction : Value) (nulls : Option NullsOrder) :
    Register.orders.Confines (fun _ => True) (modify fun q : Query Value => q.addOrder column direction nulls) :=
  .modify (.put [.order (.by_ column direction nulls)] (by simp [Entry.register]) fun _ => rfl)

mutual

theorem confines_orderBy (direction nulls column : Value) :
    Register.orders.Confines (fun _ => True) (orderBy direction nulls column) := by
  unfold orderBy
  split
  · exact .bind (confines_checkNulls nulls) fun _ => confines_orderByAll direction _
  · exact .bind (confines_checkNulls nulls) fun _ => confines_orderByAll direction _
  · exact .of_outcome fun _ => confines_addOrder _ _ _

theorem confines_orderByAll (direction : Value) (items : List Value) :
    Register.orders.Confines (fun _ => True) (orderByAll direction items) := by
  unfold orderByAll
  split
  · exact .pure trivial
  · exact .bind (confines_orderByEntry _ _ _) fun _ => confines_orderByAll direction _
  · exact .bind (confines_orderBy direction .null _) fun _ => confines_orderByAll direction _

theorem confines_orderByEntry (direction nulls : Value) (entries : List (Value × Value)) :
    Register.orders.Confines (fun _ => True) (orderByEntry direction nulls entries) := by
  unfold orderByEntry
  split
  · exact .throw _
  · split
    · exact confines_orderBy direction nulls _
    · exact confines_orderByEntry direction nulls _

end

end Query

/-! ## Kinds of calls -/

namespace QueryCall

open Register (Gives Confines Ends)
open Query

variable {g : Register} (a : Arguments) (connective : Connective) (negated : Bool)

theorem always_confines {f : Query Value → Query Value} (h : g.Gives fun q => pure (f q)) :
    g.Confines g.Ends (always f) :=
  (Confines.modify h).bind fun _ => .pure trivial

theorem attempt_confines {f : Query Value → Except Error (Query Value)} (h : g.Gives f) :
    g.Confines g.Ends (attempt f) := by
  intro q r q' run
  rw [attempt_eq] at run
  split at run
  next given =>
    cases run
    obtain ⟨es, of, puts⟩ := h q q' given
    exact ⟨trivial, es, of, fun q₂ alike => by rw [attempt_eq, puts q₂ alike]⟩
  · cases run

theorem columns_confines {f : Query Value → List Value → Query Value}
    (h : ∀ columns, g.Gives fun q => pure (f q columns)) : g.Confines g.Ends (columns a f) :=
  attempt_confines (.bind fun _ => h _)

theorem single_confines (parameter : String) {f : Query Value → Value → Query Value}
    (h : ∀ v, g.Gives fun q => pure (f q v)) : g.Confines g.Ends (single a parameter f) :=
  attempt_confines (.bind fun _ => h _)

theorem join_confines (kind : String) : Register.joins.Confines Register.joins.Ends (QueryCall.join kind a) := by
  refine .of_outcome fun b => .of_get (fun q => ?_) fun q q₂ alike => ?_
  · have added (j : Join Value) : Register.joins.Gives fun q => pure (q.addJoin j) :=
      .put [.join j] (by simp [Entry.register]) fun _ => rfl
    split
    · refine always_confines ?_
      cases (b.get "table").isRaw <;> exact added _
    · exact .pure rfl
    · exact always_confines (added _)
  · simp only [joinOf, alike.schema rfl]

theorem window_confines (function : String) :
    Register.projection.Confines Register.projection.Ends (QueryCall.window function a) := by
  have added (w : Window Value) : Register.projection.Gives fun q => pure (q.addWindow w) :=
    .put [.projection (.window w)] (by simp [Entry.register]) fun _ => rfl
  refine .of_outcome fun b => ?_
  simp only
  split
  · exact .pure rfl
  · split
    · exact always_confines (added _)
    · exact attempt_confines (.bind fun _ => added _)

theorem commonTable_confines (recursive : Bool) (materialized : Option Bool) :
    Register.commonTables.Confines Register.commonTables.Ends (commonTable a recursive materialized) :=
  attempt_confines (.bind fun _ => gives_withTable _ _ _ _ _)

/-- What holds of a call for both clauses of conditions. -/
theorem both_clauses (f : ConditionClause → Build (Query Value) QueryStep)
    (h : ∀ clause : ConditionClause, clause.register.Confines clause.register.Ends (f clause)) :
    Register.wheres.Confines Register.wheres.Ends (f .where_) ∧
      Register.havings.Confines Register.havings.Ends (f .having) :=
  ⟨h .where_, h .having⟩

theorem condition_confines :
    Register.wheres.Confines Register.wheres.Ends (condition a .where_ connective negated) ∧
      Register.havings.Confines Register.havings.Ends (condition a .having connective negated) :=
  both_clauses (fun clause => condition a clause connective negated) fun _ =>
    attempt_confines (.bind fun _ => gives_addWhere _ _ _)

theorem columnComparison_confines : Register.wheres.Confines Register.wheres.Ends (columnComparison a connective) :=
  attempt_confines (.bind fun _ => gives_addColumnComparison _ _ _)

theorem membership_confines :
    Register.wheres.Confines Register.wheres.Ends (membership a .where_ connective negated) ∧
      Register.havings.Confines Register.havings.Ends (membership a .having connective negated) :=
  both_clauses (fun clause => membership a clause connective negated) fun _ =>
    attempt_confines (.bind fun _ => gives_addCondition _)

theorem nullness_confines :
    Register.wheres.Confines Register.wheres.Ends (nullness a .where_ connective negated) ∧
      Register.havings.Confines Register.havings.Ends (nullness a .having connective negated) :=
  both_clauses (fun clause => nullness a clause connective negated) fun _ =>
    single_confines a "column" fun _ => gives_addCondition _

theorem range_confines :
    Register.wheres.Confines Register.wheres.Ends (range a .where_ connective negated) ∧
      Register.havings.Confines Register.havings.Ends (range a .having connective negated) :=
  both_clauses (fun clause => range a clause connective negated) fun _ =>
    attempt_confines (.bind fun _ => gives_addBetween _ _)

theorem existence_confines : Register.wheres.Confines Register.wheres.Ends (existence a connective negated) :=
  single_confines a "query" fun _ => @gives_addCondition .where_ _ _ _

theorem pattern_confines (ignoreCase : Bool) :
    Register.wheres.Confines Register.wheres.Ends (pattern a connective ignoreCase) :=
  attempt_confines (.bind fun _ => @gives_addCondition .where_ _ _ _)

theorem jsonComparison_confines : Register.wheres.Confines Register.wheres.Ends (jsonComparison a connective) :=
  attempt_confines (.bind fun _ => @gives_addCondition .where_ _ _ _)

theorem rawCondition_confines :
    Register.wheres.Confines Register.wheres.Ends (rawCondition a .where_ connective) ∧
      Register.havings.Confines Register.havings.Ends (rawCondition a .having connective) :=
  both_clauses (fun clause => rawCondition a clause connective) fun clause =>
    attempt_confines (.bind fun _ => .put_client
    (fun client => [clause.entry ⟨connective, none, false, .raw ((ofClient client).toRaw _ _)⟩])
    (by simp [entry_register]) fun q => q.addCondition_put _)

theorem order_confines : Register.orders.Confines Register.orders.Ends (order a) :=
  .of_outcome fun _ => (confines_orderBy _ _ _).bind fun _ => .pure trivial

theorem setOperation_confines (kind : String) :
    Register.unions.Confines Register.unions.Ends (setOperation a kind) :=
  attempt_confines (.bind fun _ => gives_combine _ _ _)

theorem aggregate_confines (function : String) (distinct : Bool) :
    Register.projection.Confines Register.projection.Ends (QueryCall.aggregate a function distinct) :=
  single_confines a "column" fun _ => gives_aggregate _ _ _

end QueryCall

/-! ## Calls by name -/

namespace Query

open Register QueryCall

/-- The calls that write a register put entries into that register. -/
theorem calls_confined :
    ∀ c ∈ calls, ∀ name ∈ c.1, ∀ g, ofMethod? name = some g → ∀ a, g.Confines g.Ends (c.2 a) := by
  -- the methods of one call are all of one register, so each call of the table is judged once, by its kind
  simp only [calls, ofMethod?, all, methods, List.find?_cons, List.find?_nil, List.mem_cons, List.not_mem_nil, or_false,
    forall_eq_or_imp, forall_eq, List.contains_cons, List.contains_nil, String.reduceBEq, Bool.or_false, Bool.false_or,
    Option.some.injEq, forall_eq', reduceCtorEq, false_imp_iff, implies_true, and_true, true_and,
    window_confines, aggregate_confines, join_confines, commonTable_confines, condition_confines,
    columnComparison_confines, membership_confines, nullness_confines, range_confines, existence_confines,
    pattern_confines, jsonComparison_confines, rawCondition_confines, order_confines, setOperation_confines,
    and_self]
  -- what is left are the calls of one method each
  refine ⟨fun a => columns_confines a gives_select,
    fun a => columns_confines a fun columns => .put [.projection (.columns columns .distinct)] ?_ fun _ => rfl,
    fun a => attempt_confines (.bind fun _ => gives_distinctOn _),
    fun a => columns_confines a fun columns => .put [.group _] ?_ fun _ => rfl,
    fun a => attempt_confines (.bind fun _ =>
      .put_client (fun client => [.group ⟨[(ofClient client).toRaw _ _], true⟩]) ?_ fun _ => rfl),
    fun a => attempt_confines (.bind fun _ =>
      .put_client (fun client => [.order (.raw ((ofClient client).toRaw _ _))]) ?_ fun _ => rfl),
    fun a => attempt_confines (.bind gives_limit),
    fun a => attempt_confines (.bind gives_offset),
    fun a => attempt_confines (.bind fun _ => gives_aggregate _ _ _),
    fun a => columns_confines a fun _ => gives_aggregate _ _ _,
    fun a => attempt_confines (.bind fun _ => .put [.projection (.jsonExtract _ _ _)] ?_ fun _ => rfl)⟩ <;>
  simp [Entry.register]

end Query

end SqlBuilder
