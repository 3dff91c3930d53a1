import SqlBuilder.Proofs.ConfinedStatements
import SqlBuilder.Script.Cursor

/-!
# Changes that are confined to a region

A change whose arguments refer to a region only makes a query, a join, a window or a raw expression refer to
nothing outside of it.

* `Region.arguments`, `Region.bound`: evaluated arguments that lie in a region.
* `Region.query_select` and its like: each change of a query.
* `Region.outcome_joinCall`, `Region.outcome_windowCall`, `Region.outcome_rawCall`: every call on another
  builder.
-/

namespace SqlBuilder.Region

open List (forall_mem_append forall_mem_singleton)

variable {R : Region}

/-! ## Values -/

theorem value_present? {v : Value} (h : R.value v) : ∀ w ∈ v.present?, R.value w := by
  intro w hw
  unfold Value.present? at hw
  split at hw <;> cases hw
  exact h

theorem value_flattenArguments {vs : List Value} (h : ∀ v ∈ vs, R.value v) :
    ∀ v ∈ Value.flattenArguments vs, R.value v := by
  unfold Value.flattenArguments
  split
  · exact value_list.mp (h _ (.head _))
  · exact value_tuple.mp (h _ (.head _))
  · exact h

theorem value_sorted {v : Value} (h : R.value v) : R.value v.sorted := by
  unfold Value.sorted
  split
  · exact value_list.mpr fun w hw => value_set.mp h w ((List.mergeSort_perm _ _).subset hw)
  · exact h

theorem value_insertEntry {entries : List (Value × Value)} {key v : Value}
    (h : ∀ e ∈ entries, R.value e.1 ∧ R.value e.2) (hk : R.value key) (hv : R.value v) :
    ∀ e ∈ Value.insertEntry entries key v, R.value e.1 ∧ R.value e.2 := by
  unfold Value.insertEntry
  split
  · intro e he
    obtain ⟨⟨k, old⟩, hm, rfl⟩ := List.mem_map.mp he
    dsimp only
    split
    · exact ⟨(h _ hm).1, hv⟩
    · exact h _ hm
  · exact forall_mem_append.mpr ⟨h, forall_mem_singleton.mpr ⟨hk, hv⟩⟩

theorem value_mergeEntries {entries changes : List (Value × Value)}
    (h : ∀ e ∈ entries, R.value e.1 ∧ R.value e.2) (hc : ∀ e ∈ changes, R.value e.1 ∧ R.value e.2) :
    ∀ e ∈ Value.mergeEntries entries changes, R.value e.1 ∧ R.value e.2 := by
  unfold Value.mergeEntries
  induction changes generalizing entries with
  | nil => exact h
  | cons e changes ih =>
    have first := hc e (.head _)
    exact ih (value_insertEntry h first.1 first.2) fun e he => hc e (.tail _ he)

theorem value_mapping {entries : List (Value × Value)} (h : ∀ e ∈ entries, R.value e.1 ∧ R.value e.2) :
    ∀ e ∈ Value.mapping entries, R.value e.1 ∧ R.value e.2 :=
  value_mergeEntries (List.forall_mem_nil _) h

theorem value_distinct {items : List Value} (h : ∀ v ∈ items, R.value v) :
    ∀ v ∈ Value.distinct items, R.value v := by
  have kept (done : List Value) (hd : ∀ v ∈ done, R.value v) : ∀ v ∈ items.foldl
      (fun done v => if done.any fun w => w.sameKey v then done else done ++ [v]) done, R.value v := by
    induction items generalizing done with
    | nil => exact hd
    | cons v items ih =>
      refine ih (fun w hw => h w (.tail _ hw)) _ ?_
      dsimp only
      split
      · exact hd
      · exact forall_mem_append.mpr ⟨hd, forall_mem_singleton.mpr (h v (.head _))⟩
  exact kept [] nofun

theorem value_rawBindings {v : Value} (h : R.value v) : ∀ w ∈ v.rawBindings.values, R.value w := by
  unfold Value.rawBindings
  split
  · nofun
  · intro w hw
    obtain ⟨e, he, rfl⟩ := List.mem_map.mp hw
    exact (value_map.mp h e he).2
  · exact value_list.mp h
  · exact value_tuple.mp h
  · exact forall_mem_singleton.mpr h

theorem value_ofValue (client : Client Value) {sql bindings : Value} (hs : R.value sql) (hb : R.value bindings) :
    R.value (.raw (Raw.ofValue client sql bindings)) :=
  value_raw.mpr
    { sql := hs, bindings := value_rawBindings hb, before := nofun, after := nofun, reference := nofun
      schema := nofun, asName := nofun }

/-! ## Arguments -/

variable (R)

/-- The evaluated arguments of a call lie in a region. -/
structure arguments (a : Arguments) : Prop where
  positional : ∀ v ∈ a.positional, R.value v
  keywords : ∀ e ∈ a.keywords, R.value e.2

/-- The values that parameters received lie in a region. -/
def bound (b : Bound) : Prop :=
  ∀ e ∈ b, R.value e.2

variable {R} {a : Arguments} {b : Bound}

theorem value_given? (h : R.bound b) (name : String) : ∀ v ∈ b.given? name, R.value v := by
  intro v hv
  unfold Bound.given? at hv
  induction b with
  | nil => cases hv
  | cons e b ih =>
    rw [List.lookup_cons] at hv
    split at hv
    · cases hv
      exact h e (.head _)
    · exact ih (fun e he => h e (.tail _ he)) hv

theorem value_get (h : R.bound b) (name : String) : R.value (b.get name) :=
  value_getD (value_given? h name) (value_scalar _)

theorem outcome_bind (h : R.arguments a) (parameters : List String) (required : Nat) :
    R.Outcome R.bound (a.bind parameters required) := by
  unfold Arguments.bind
  dsimp only
  split
  · refine forall_mem_append.mpr ⟨fun e he => ?_, h.keywords⟩
    exact h.positional _ (List.of_mem_zip he).2
  · exact error_wrongType

theorem outcome_variadic (h : R.arguments a) (keywords : List String) :
    R.Outcome (fun r => (∀ v ∈ r.1, R.value v) ∧ R.bound r.2) (a.variadic keywords) := by
  unfold Arguments.variadic
  split
  · exact ⟨value_flattenArguments h.positional, h.keywords⟩
  · exact error_wrongType

theorem outcome_none (h : R.arguments a) : R.Outcome (fun _ => True) a.none_ :=
  (outcome_bind h _ _).bind fun _ _ => .pure trivial

theorem outcome_one (h : R.arguments a) (parameter : String) : R.Outcome R.value (a.one parameter) :=
  (outcome_bind h _ _).bind fun _ hb => .pure (value_get hb _)

theorem outcome_entry {v : Value} (h : R.value v) :
    R.Outcome (fun e => R.value e.1 ∧ R.value e.2) v.entry := by
  have paired : R.Outcome (fun e => R.value e.1 ∧ R.value e.2) v.pair := by
    refine (View.outcome_items h).bind fun items hi => ?_
    split
    · exact .pure ⟨hi _ (by simp), hi _ (by simp)⟩
    · exact error_fault _
  refine paired.bind fun e he => ?_
  obtain ⟨key, value⟩ := e
  dsimp only
  split
  · exact .pure he
  · exact error_wrongType

/-! ## Changes of a query -/

variable {q : Query Value} {v w x : Value} {vs : List Value}

theorem query_select (h : R.query q) (hv : ∀ v ∈ vs, R.value v) : R.query (q.select vs) := by
  unfold Query.select
  split
  · exact h
  · exact ⟨{ h.statement with
      projection := forall_mem_append.mpr ⟨h.statement.projection, forall_mem_singleton.mpr hv⟩ }, h.context⟩

theorem query_distinct (h : R.query q) (hv : ∀ v ∈ vs, R.value v) : R.query (q.distinct vs) :=
  ⟨{ h.statement with
    projection := forall_mem_append.mpr ⟨h.statement.projection, forall_mem_singleton.mpr hv⟩ }, h.context⟩

theorem query_distinctOn (h : R.query q) (hv : ∀ v ∈ vs, R.value v) : R.Outcome R.query (q.distinctOn vs) := by
  unfold Query.distinctOn
  split
  · exact error_invalid _
  · exact ⟨{ h.statement with
      projection := forall_mem_append.mpr ⟨h.statement.projection, forall_mem_singleton.mpr hv⟩ }, h.context⟩

theorem query_from (h : R.query q) (hv : R.value v) : R.query (q.from_ v) :=
  ⟨{ h.statement with table := value_present? hv }, h.context⟩

theorem query_withSchema (h : R.query q) (hv : R.value v) : R.query (q.withSchema v) :=
  ⟨{ h.statement with schema := value_present? hv }, h.context⟩

theorem query_as (h : R.query q) (hv : R.value v) : R.query (q.as_ v) :=
  ⟨{ h.statement with asName := value_present? hv }, h.context⟩

theorem query_withTable (h : R.query q) (name : Value) (hv : R.value v) {columns : Option Value}
    (hc : ∀ v ∈ columns, R.value v) (recursive : Bool) (materialized : Option Bool) :
    R.Outcome R.query (q.withTable name v columns recursive materialized) := by
  unfold Query.withTable
  split
  · split
    · exact ⟨{ h.statement with
        commonTables := forall_mem_append.mpr
          ⟨h.statement.commonTables, forall_mem_singleton.mpr ⟨hv, hc⟩⟩ }, h.context⟩
    · exact error_invalid _
  · exact error_invalid _

theorem query_addCondition (h : R.query q) (clause : ConditionClause) (connective : Connective) (negated : Bool)
    {test : Test Value} (ht : ∀ v ∈ test.operands, R.value v) :
    R.query (q.addCondition clause connective negated test) := by
  have added : Condition.Of (.operands R.value) { connective, negated, test } := ⟨ht, nofun⟩
  cases clause with
  | where_ =>
    exact ⟨{ h.statement with
      wheres := forall_mem_append.mpr ⟨h.statement.wheres, forall_mem_singleton.mpr added⟩ }, h.context⟩
  | having =>
    exact ⟨{ h.statement with
      havings := forall_mem_append.mpr ⟨h.statement.havings, forall_mem_singleton.mpr added⟩ }, h.context⟩

theorem query_addIn (h : R.query q) (clause : ConditionClause) (connective : Connective) (negated : Bool)
    (hv : R.value v) (hw : R.value w) : R.query (q.addIn clause connective negated v w) :=
  query_addCondition h _ _ _ (by simpa [Test.operands] using ⟨hv, value_sorted hw⟩)

theorem query_isNull (h : R.query q) (clause : ConditionClause) (connective : Connective) (negated : Bool)
    (hv : R.value v) : R.query (q.addCondition clause connective negated (.isNull v)) :=
  query_addCondition h _ _ _ (by simpa [Test.operands] using hv)

theorem query_addBetween (h : R.query q) (clause : ConditionClause) (connective : Connective) (negated : Bool)
    (hv : R.value v) (hw : R.value w) : R.Outcome R.query (q.addBetween clause connective negated v w) := by
  unfold Query.addBetween
  split
  next low high sequence =>
    have bounds := View.value_sequence hw sequence
    exact query_addCondition h _ _ _ (by simpa [Test.operands] using ⟨hv, by simpa using bounds⟩)
  · intro column same
    cases same
    exact hv

theorem query_addComparison (h : R.query q) (clause : ConditionClause) (connective : Connective) (negated : Bool)
    (hv : R.value v) (hw : R.value w) (hx : R.value x) :
    R.Outcome R.query (q.addComparison clause connective negated v w x) := by
  have compared : R.query (q.addCondition clause connective negated (.compare v w x)) :=
    query_addCondition h _ _ _ (by simpa [Test.operands] using ⟨hv, hw, hx⟩)
  unfold Query.addComparison
  extract_lets test
  split
  · exact query_addIn h _ _ _ hv hx
  · exact query_addIn h _ _ _ hv hx
  · exact query_addBetween h _ _ _ hv hx
  · exact query_addBetween h _ _ _ hv hx
  · split
    · exact query_isNull h _ _ _ hv
    · split
      · exact query_isNull h _ _ _ hv
      · exact compared
  · exact compared

theorem query_pairs (h : R.query q) (clause : ConditionClause) {entries : List (Value × Value)}
    (he : ∀ e ∈ entries, R.value e.1 ∧ R.value e.2) :
    R.query (entries.foldl (fun q (k, v) => q.addCondition clause .and false (Query.pairTest k v)) q) := by
  induction entries generalizing q with
  | nil => exact h
  | cons e entries ih =>
    obtain ⟨k, v⟩ := e
    obtain ⟨hk, hv⟩ := he _ (.head _)
    refine ih (query_addCondition h _ _ _ ?_) fun e hm => he e (.tail _ hm)
    unfold Query.pairTest
    split
    · simpa [Test.operands] using hk
    · simpa [Test.operands] using ⟨hk, hv⟩

/-- A text as a raw expression. -/
theorem raw_text {client : Option (Client Value)} (text : String) : R.raw { client, sql := .str text } where
  sql := value_scalar _
  bindings := nofun
  before := nofun
  after := nofun
  reference := nofun
  schema := nofun
  asName := nofun

theorem query_addCriterion (h : R.query q) (clause : ConditionClause) (connective : Connective) (negated : Bool)
    (hv : R.value v) : R.Outcome R.query (q.addCriterion clause connective negated v) := by
  unfold Query.addCriterion
  split
  · exact query_addCondition h _ _ _ (by simpa [Test.operands, Query.rawText] using raw_text _)
  next entries =>
    split
    · exact query_pairs h _ (value_map.mp hv)
    · refine query_addCondition h _ _ _ fun w hw => ?_
      obtain ⟨e, he, hw⟩ := List.mem_flatMap.mp hw
      have held := value_map.mp hv e he
      simp only [List.mem_cons, List.not_mem_nil, or_false] at hw
      rcases hw with rfl | rfl
      · exact held.1
      · exact held.2
  · exact query_addCondition h _ _ _ (by simpa [Test.operands] using hv)
  · split
    · exact query_addCondition h _ _ _ (by simpa [Test.operands] using hv)
    · exact error_invalid _

theorem query_addWhere (h : R.query q) (clause : ConditionClause) (connective : Connective) (negated : Bool)
    (hv : R.value v) {operator value : Option Value} (ho : ∀ w ∈ operator, R.value w)
    (hx : ∀ w ∈ value, R.value w) : R.Outcome R.query (q.addWhere clause connective negated v operator value) := by
  unfold Query.addWhere
  split
  · exact query_addCriterion h _ _ _ hv
  · exact query_isNull h _ _ _ hv
  · exact query_addComparison h _ _ _ hv (value_scalar _) (ho _ rfl)
  · exact query_addComparison h _ _ _ hv (ho _ rfl) (hx _ rfl)

theorem query_addColumnComparison (h : R.query q) (connective : Connective) (hv : R.value v) (hw : R.value w)
    {other : Option Value} (ho : ∀ w ∈ other, R.value w) :
    R.query (q.addColumnComparison connective v w other) := by
  unfold Query.addColumnComparison
  split
  · exact query_addCondition h _ _ _ (by simpa [Test.operands] using ⟨hv, hw, ho _ rfl⟩)
  · exact query_addCondition h _ _ _ (by simpa [Test.operands] using ⟨hv, hw⟩)

theorem query_groupBy (h : R.query q) (hv : ∀ v ∈ vs, R.value v) : R.query (q.groupBy vs) :=
  ⟨{ h.statement with
    groups := forall_mem_append.mpr ⟨h.statement.groups, forall_mem_singleton.mpr hv⟩ }, h.context⟩

theorem query_groupByRaw (h : R.query q) (hv : R.value v) : R.query (q.groupByRaw v) :=
  ⟨{ h.statement with
    groups := forall_mem_append.mpr
      ⟨h.statement.groups, forall_mem_singleton.mpr (forall_mem_singleton.mpr hv)⟩ }, h.context⟩

theorem query_addOrders (h : R.query q) {entry : OrderEntry Value} (he : ∀ v ∈ entry.operands, R.value v) :
    R.query (q.edit fun s => { s with orders := s.orders ++ [entry] }) :=
  ⟨{ h.statement with
    orders := forall_mem_append.mpr ⟨h.statement.orders, forall_mem_singleton.mpr he⟩ }, h.context⟩

theorem query_combine (h : R.query q) (kind : String) (hv : ∀ v ∈ vs, R.value v) (wrap : Bool) :
    R.query (q.combine kind vs wrap) := by
  refine ⟨{ h.statement with unions := forall_mem_append.mpr ⟨h.statement.unions, fun o ho => ?_⟩ }, h.context⟩
  obtain ⟨v, hm, rfl⟩ := List.mem_map.mp ho
  exact ⟨trivial, hv v hm⟩

theorem outcome_rowCount (name : String) (v : Value) : R.Outcome (fun _ => True) (Query.rowCount name v) := by
  unfold Query.rowCount
  split
  · trivial
  · exact error_invalid _

theorem query_limit (h : R.query q) (v : Value) : R.Outcome R.query (q.limit v) :=
  (outcome_rowCount _ v).bind fun _ _ => .pure ⟨{ h.statement with }, h.context⟩

theorem query_offset (h : R.query q) (v : Value) : R.Outcome R.query (q.offset v) :=
  (outcome_rowCount _ v).bind fun _ _ => .pure ⟨{ h.statement with }, h.context⟩

theorem query_first (h : R.query q) (hv : ∀ v ∈ vs, R.value v) : R.query (q.first vs) :=
  ⟨{ (query_select h hv).statement with }, (query_select h hv).context⟩

theorem query_aggregate (h : R.query q) (function : String) (hv : R.value v) (distinct : Bool) :
    R.query (q.aggregate function v distinct) := by
  unfold Query.aggregate
  refine ⟨{ h.statement with projection := forall_mem_append.mpr ⟨h.statement.projection, ?_⟩ }, h.context⟩
  split
  · intro entry hm
    obtain ⟨e, he, rfl⟩ := List.mem_map.mp hm
    have held := value_map.mp hv e he
    exact ⟨⟨trivial, trivial⟩, held.2, held.1⟩
  · exact forall_mem_singleton.mpr ⟨⟨trivial, trivial⟩, hv, value_scalar _⟩

theorem value_distinctTarget (hv : ∀ v ∈ vs, R.value v) : R.value (QueryCall.distinctTarget vs) := by
  unfold QueryCall.distinctTarget
  split
  · exact value_scalar _
  · exact hv _ (.head _)
  · exact value_list.mpr hv

theorem value_entryOrNull {entries : List (Value × Value)} (key : String)
    (h : ∀ e ∈ entries, R.value e.1 ∧ R.value e.2) : R.value (Query.entryOrNull key entries) :=
  value_getD (fun _ found => View.value_get? (fun e he => (h e he).2) found) (value_scalar _)

/-- The terms of a window, one for each item of a sequence. -/
theorem outcome_windowItems {items : List Value} (h : ∀ v ∈ items, R.value v) :
    R.Outcome (fun terms => ∀ t ∈ terms, R.value t.1 ∧ R.value t.2)
      (items.mapM fun
        | .map entries =>
          match Value.get? "column" entries with
          | some column => .ok (column, Query.entryOrNull "order" entries)
          | none => .error (.fault .missingKey)
        | item => .ok (item, .null)) := by
  refine Outcome.mapM fun item hi => ?_
  split
  · have entries := value_map.mp (h _ hi)
    split
    next found => exact ⟨View.value_get? (fun e he => (entries e he).2) found, value_entryOrNull _ entries⟩
    · exact error_fault _
  · exact ⟨h _ hi, value_scalar _⟩

theorem outcome_windowTerms (hd : R.value w) (hv : R.value v) :
    R.Outcome (fun terms => ∀ t ∈ terms, R.value t.1 ∧ R.value t.2) (Query.windowTerms w v) := by
  unfold Query.windowTerms
  split
  · exact outcome_windowItems (value_list.mp hv)
  · exact outcome_windowItems (value_tuple.mp hv)
  · exact forall_mem_singleton.mpr ⟨hv, hd⟩

theorem query_addWindow (h : R.query q) {window : Window Value} (hw : window.Of (.operands R.value)) :
    R.query (q.addWindow window) :=
  ⟨{ h.statement with
    projection := forall_mem_append.mpr ⟨h.statement.projection, forall_mem_singleton.mpr hw⟩ }, h.context⟩

theorem outcome_windowOf {window : Window Value} (h : window.Of (.operands R.value)) (hv : R.value v)
    (hw : R.value w) : R.Outcome (Window.Of (.operands R.value)) (Query.windowOf window v w) := by
  unfold Query.windowOf
  split
  · exact error_invalid _
  · refine (outcome_windowTerms (value_scalar _) hv).bind fun order ho => ?_
    have ending {partitions : List (Value × Value)} (hp : ∀ t ∈ partitions, R.value t.1 ∧ R.value t.2) :
        Window.Of (.operands R.value) { window with order, partitions } :=
      { h with order := ho, partitions := hp }
    split
    · exact ending nofun
    · exact (outcome_windowTerms (value_scalar _) hw).bind fun _ hp => .pure (ending hp)

theorem query_jsonExtract (h : R.query q) (hv : R.value v) (hw : R.value w) (hx : R.value x) :
    R.query (q.jsonExtract v w x) :=
  ⟨{ h.statement with
    projection := forall_mem_append.mpr
      ⟨h.statement.projection, forall_mem_singleton.mpr ⟨hv, hw, hx⟩⟩ }, h.context⟩

theorem query_lock (h : R.query q) (mode : LockMode) (hv : ∀ v ∈ vs, R.value v) : R.query (q.lock mode vs) :=
  ⟨{ h.statement with lockTables := hv }, h.context⟩

theorem query_wait (h : R.query q) (mode : WaitMode) : R.Outcome R.query (q.wait mode) := by
  unfold Query.wait
  split
  · exact ⟨{ h.statement with }, h.context⟩
  · exact error_invalid _

theorem query_returning (h : R.query q) (hv : ∀ v ∈ vs, R.value v) : R.query (q.returning vs) :=
  ⟨{ h.statement with returning := hv }, h.context⟩

theorem query_returningIf (h : R.query q) (hv : R.value v) : R.query (q.returningIf v) := by
  unfold Query.returningIf
  split
  · exact h
  · exact query_returning h (value_flattenArguments (forall_mem_singleton.mpr hv))

theorem query_insert (h : R.query q) (hv : R.value v) (hw : R.value w) : R.query (q.insert v w) :=
  query_returningIf ⟨{ h.statement with insert := by rintro _ ⟨⟩; exact hv }, h.context⟩ hw

theorem query_upsert (h : R.query q) (hv : R.value v) (hw : R.value w) : R.query (q.upsert v w) :=
  query_returningIf ⟨{ h.statement with upsert := by rintro _ ⟨⟩; exact hv }, h.context⟩ hw

theorem query_setColumns (h : R.query q) {entries : List (Value × Value)}
    (he : ∀ e ∈ entries, R.value e.1 ∧ R.value e.2) (hw : R.value w) : R.query (q.setColumns entries w) :=
  query_returningIf ⟨{ h.statement with update := value_mergeEntries h.statement.update he }, h.context⟩ hw

theorem query_update (h : R.query q) (hv : R.value v) {value : Option Value} (hx : ∀ v ∈ value, R.value v)
    (hw : R.value w) : R.Outcome R.query (q.update v value w) := by
  unfold Query.update
  split
  · exact error_invalid _
  · exact query_setColumns h (forall_mem_singleton.mpr ⟨value_scalar _, hx _ rfl⟩) hw
  · exact query_setColumns h (value_map.mp hv) hw
  · exact error_invalid _

theorem query_delete (h : R.query q) (hv : R.value v) : R.query (q.delete v) :=
  query_returningIf ⟨{ h.statement with }, h.context⟩ hv

theorem query_truncate (h : R.query q) : R.query q.truncate :=
  ⟨{ h.statement with }, h.context⟩

theorem query_onConflict (h : R.query q) (hv : ∀ v ∈ vs, R.value v) {merge : Option Value}
    (hm : ∀ v ∈ merge, R.value v) : R.query (q.onConflict vs merge) :=
  ⟨{ h.statement with conflict := by rintro _ ⟨⟩; exact ⟨hv, hm⟩ }, h.context⟩

theorem query_comment (h : R.query q) (v : Value) : R.Outcome R.query (q.comment v) := by
  unfold Query.comment
  split
  · split
    · exact error_invalid _
    · exact ⟨{ h.statement with comments := fun _ _ => trivial }, h.context⟩
  · exact error_invalid _

theorem query_setTimeout (h : R.query q) (v : Value) (cancel : Option Value) :
    R.Outcome R.query (q.setTimeout v cancel) := by
  unfold Query.setTimeout
  split
  · split
    · exact error_of_ne nofun
    · exact ⟨h.statement, h.context⟩
  · exact error_invalid _

theorem query_addOptions (h : R.query q) (entries : List (Value × Value)) : R.query (q.addOptions entries) :=
  ⟨h.statement, h.context⟩

theorem query_setContext (h : R.query q) (hv : R.value v) : R.query (q.setContext v) :=
  ⟨h.statement, value_present? hv⟩

theorem query_clear (h : R.query q) (v : Value) : R.Outcome R.query (q.clear v) := by
  unfold Query.clear
  split
  · exact ⟨{ h.statement with projection := nofun }, h.context⟩
  · exact ⟨{ h.statement with projection := nofun }, h.context⟩
  · exact ⟨{ h.statement with wheres := nofun }, h.context⟩
  · exact ⟨{ h.statement with orders := nofun }, h.context⟩
  · exact ⟨{ h.statement with havings := nofun }, h.context⟩
  · exact ⟨{ h.statement with groups := nofun }, h.context⟩
  · exact ⟨{ h.statement with unions := nofun }, h.context⟩
  · exact ⟨{ h.statement with commonTables := nofun }, h.context⟩
  · exact ⟨{ h.statement with joins := nofun }, h.context⟩
  · exact ⟨{ h.statement with counters := nofun }, h.context⟩
  · exact ⟨{ h.statement with }, h.context⟩
  · exact ⟨{ h.statement with }, h.context⟩
  · split
    · exact error_invalid _
    · exact error_wrongType

/-! ## Changes of other builders -/

theorem query_addJoin (h : R.query q) {j : Join Value} (hj : j.Of (.operands R.value)) : R.query (q.addJoin j) :=
  ⟨{ h.statement with
    joins := forall_mem_append.mpr ⟨h.statement.joins, forall_mem_singleton.mpr hj⟩ }, h.context⟩

theorem query_rawJoin (h : R.query q) (hv : R.value v) : R.query (q.rawJoin v) :=
  query_addJoin h { word := fun _ => trivial, table := hv, schema := nofun, conditions := nofun }

theorem join_joinOf (h : R.query q) (kind : String) (hv : R.value v) :
    (q.joinOf kind v).Of (.operands R.value) where
  word _ := trivial
  table := hv
  schema := h.statement.schema
  conditions := nofun

section

variable {j : Join Value} (h : j.Of (.operands R.value)) (connective : Connective)

include h

theorem join_addCondition (negated : Bool) {test : Test Value} (ht : ∀ v ∈ test.operands, R.value v)
    {word : Option Value} (hw : ∀ v ∈ word, R.value v) :
    (j.addCondition connective negated test word).Of (.operands R.value) :=
  { h with conditions := forall_mem_append.mpr ⟨h.conditions, forall_mem_singleton.mpr ⟨ht, hw⟩⟩ }

theorem join_on {word operator second : Option Value} (hw : ∀ v ∈ word, R.value v) (hv : R.value v)
    (ho : ∀ v ∈ operator, R.value v) (hs : ∀ v ∈ second, R.value v) :
    (j.on connective word v operator second).Of (.operands R.value) := by
  have given : R.value (operator.getD Join.leftOut) := value_getD ho (value_other _ _)
  unfold Join.on
  dsimp only
  split
  · exact join_addCondition h _ _ (by simpa [Test.operands] using hv) hw
  next entries =>
    refine join_addCondition h _ _ (fun w hm => ?_) hw
    obtain ⟨e, he, hm⟩ := List.mem_flatMap.mp hm
    have held := value_map.mp hv e he
    simp only [List.mem_cons, List.not_mem_nil, or_false] at hm
    rcases hm with rfl | rfl
    · exact held.1
    · exact held.2
  · split
    · exact join_addCondition h _ _ (by simpa [Test.operands] using hv) hw
    · split
      · exact join_addCondition h _ _ (by simpa [Test.operands] using ⟨hv, given⟩) hw
      · exact join_addCondition h _ _ (by simpa [Test.operands] using ⟨hv, given, hs _ rfl⟩) hw

theorem join_onValue {word operator value : Option Value} (hw : ∀ v ∈ word, R.value v) (hv : R.value v)
    (ho : ∀ v ∈ operator, R.value v) (hx : ∀ v ∈ value, R.value v) :
    (j.onValue connective word v operator value).Of (.operands R.value) := by
  have given : R.value (operator.getD Join.leftOut) := value_getD ho (value_other _ _)
  cases value with
  | none => exact join_addCondition h _ _ (by simpa [Test.operands] using ⟨hv, given⟩) hw
  | some value => exact join_addCondition h _ _ (by simpa [Test.operands] using ⟨hv, given, hx _ rfl⟩) hw

theorem join_sharing (hv : ∀ v ∈ vs, R.value v) : (j.sharing vs).Of (.operands R.value) := by
  refine join_addCondition h _ _ ?_ nofun
  exact hv

end

/-- A call on a join. -/
theorem outcome_joinCall {j : Join Value} (h : j.Of (.operands R.value)) (ha : R.arguments a) (name : String) :
    R.Outcome (Join.Of (.operands R.value)) (j.call name a) := by
  have compared (parameters keywords : List String) :
      R.Outcome R.bound (JoinCall.comparison a parameters keywords) := by
    unfold JoinCall.comparison
    split
    · exact outcome_bind ha _ _
    · exact error_wrongType
  have columns (usual : Connective) (keywords : List String) :
      R.Outcome (Join.Of (.operands R.value)) (JoinCall.columns j a usual keywords) :=
    (compared _ _).bind fun _ hb => .pure
      (join_on h _ (value_given? hb _) (value_get hb _) (value_given? hb _) (value_given? hb _))
  have value (usual : Connective) (keywords : List String) :
      R.Outcome (Join.Of (.operands R.value)) (JoinCall.value j a usual keywords) :=
    (compared _ _).bind fun _ hb => .pure
      (join_onValue h _ (value_given? hb _) (value_get hb _) (value_given? hb _) (value_given? hb _))
  have membership (connective : Connective) (negated : Bool) : R.Outcome (Join.Of (.operands R.value)) (do
      let b ← a.bind ["column", "values"] 2
      return j.addCondition connective negated (.isIn (b.get "column") (b.get "values"))) :=
    (outcome_bind ha _ _).bind fun _ hb => .pure
      (join_addCondition h _ _ (by simpa [Test.operands] using ⟨value_get hb _, value_get hb _⟩) nofun)
  have nullness (connective : Connective) (negated : Bool) : R.Outcome (Join.Of (.operands R.value)) (do
      return j.addCondition connective negated (.isNull (← a.one "column"))) :=
    (outcome_one ha _).bind fun _ hv => .pure
      (join_addCondition h _ _ (by simpa [Test.operands] using hv) nofun)
  have range (negated : Bool) : R.Outcome (Join.Of (.operands R.value)) (do
      let b ← a.bind ["column", "values"] 2
      return j.onBetween negated (b.get "column") (← (b.get "values").items)) :=
    (outcome_bind ha _ _).bind fun _ hb => (View.outcome_items (value_get hb _)).bind fun _ hi => .pure
      (join_addCondition h _ _ (by simpa [Test.operands] using ⟨value_get hb _, hi⟩) nofun)
  have existence (negated : Bool) : R.Outcome (Join.Of (.operands R.value)) (do
      return j.addCondition .and negated (.exists_ (← a.one "query"))) :=
    (outcome_one ha _).bind fun _ hv => .pure
      (join_addCondition h _ _ (by simpa [Test.operands] using hv) nofun)
  unfold Join.call
  dsimp only
  split
  · exact columns _ _
  · exact columns _ _
  · exact columns _ _
  · exact value _ _
  · exact value _ _
  · exact value _ _
  · exact membership _ _
  · exact membership _ _
  · exact membership _ _
  · exact nullness _ _
  · exact nullness _ _
  · exact nullness _ _
  · exact range _
  · exact range _
  · exact existence _
  · exact existence _
  · exact (outcome_variadic ha _).bind fun r hr => .pure
      (join_sharing h hr.1)
  · exact error_wrongType
  · exact error_wrongType
  · exact error_wrongType
  · exact error_wrongType
  · exact error_noSuchMember

/-- A call on a window. -/
theorem outcome_windowCall {window : Window Value} (h : window.Of (.operands R.value)) (ha : R.arguments a)
    (name : String) : R.Outcome (Window.Of (.operands R.value)) (window.call name a) := by
  have terms : R.Outcome (fun terms => ∀ t ∈ terms, R.value t.1 ∧ R.value t.2) (do
      let b ← a.bind ["column", "direction"] 1
      Query.windowTerms (b.get "direction") (b.get "column")) :=
    (outcome_bind ha _ _).bind fun _ hb => outcome_windowTerms (value_get hb _) (value_get hb _)
  unfold Window.call
  dsimp only
  split
  · exact terms.bind fun _ ht => .pure { h with order := forall_mem_append.mpr ⟨h.order, ht⟩ }
  · exact terms.bind fun _ ht => .pure { h with partitions := forall_mem_append.mpr ⟨h.partitions, ht⟩ }
  · exact error_wrongType
  · exact error_wrongType
  · exact error_wrongType
  · exact error_wrongType
  · exact error_wrongType
  · exact error_noSuchMember

theorem outcome_pairs (h : R.value v) :
    R.Outcome (fun entries => ∀ e ∈ entries, R.value e.1 ∧ R.value e.2) v.pairs := by
  unfold Value.pairs
  split
  · exact value_map.mp h
  · exact (View.outcome_items h).bind fun _ hi => .mapM fun _ hm => outcome_entry (hi _ hm)

/-- A call on a raw expression. -/
theorem outcome_rawCall {r : Raw Value} (h : R.raw r) (ha : R.arguments a) (name : String) :
    R.Outcome R.raw (r.call name a) := by
  unfold Raw.call
  split
  · exact (outcome_bind ha _ _).bind fun _ hb => .pure
      { h with sql := value_get hb _, bindings := value_rawBindings (value_get hb _) }
  · exact (outcome_bind ha _ _).bind fun _ hb => .pure
      { h with before := value_present? (value_get hb _), after := value_present? (value_get hb _) }
  · refine (outcome_bind ha _ _).bind fun _ hb => ?_
    unfold Raw.setTimeout
    have changed (duration : Value) (cancel : Option Value) :
        R.raw { r with timeout := duration.present?, cancelOnTimeout := cancel } := { h with }
    split
    · split
      · exact error_of_ne nofun
      · split
        · exact error_of_ne nofun
        · exact changed _ _
    · exact changed _ _
  · exact (outcome_one ha _).bind fun _ hv => (outcome_pairs hv).bind fun _ _ => .pure { h with }
  · exact (outcome_one ha _).bind fun _ hv => .pure { h with schema := value_present? hv }
  · exact (outcome_one ha _).bind fun _ hv => .pure { h with asName := value_present? hv }
  · split
    · exact error_wrongType
    · exact error_noSuchMember

end SqlBuilder.Region
