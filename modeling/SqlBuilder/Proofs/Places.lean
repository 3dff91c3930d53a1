import SqlBuilder.Proofs.Building
import SqlBuilder.Proofs.Levels
import SqlBuilder.Proofs.Reflexivity

/-!
# Places for sub-queries

Where a sub-query may stand in a query: in a condition, as a common table, as an operand of a set
operation, as the source of an insert or one of its values, as a new value of an update; and the same in a
query that itself stands in such a place. Whatever may stand for something else in all of these places
makes the queries around stand for each other, at every level.

* `Place`: a query with a place for an operand, anywhere in it.
* `Likeness.Interchangeable`: two operands stand for each other in all places.
* `Likeness.Liberal.place_like`: the queries around them do, at every level.
-/

namespace SqlBuilder

open List (Forall₂)

/-- What stands before and after a place in a list. -/
structure Gap (α : Type) where
  before : List α := []
  after : List α := []

/-- The list with something in the place. -/
def Gap.fill {α : Type} (gap : Gap α) (a : α) : List α :=
  gap.before ++ a :: gap.after

/-- A test with a place for an operand. -/
inductive TestPlace
  | compare (column operator : Value)
  | isIn (column : Value)
  /-- an item of the list that a membership test looks into -/
  | member (column : Value) (items : Gap Value)
  /-- the lower of two bounds, before the upper one -/
  | low (column bound : Value)
  /-- the upper of two bounds, after the lower one -/
  | high (column bound : Value)
  | exists_
  | like (column : Value) (ignoreCase : Bool)
  | jsonPath (column path operator : Value)
  /-- the value of one of several columns -/
  | pair (entries : Gap (Value × Value)) (column : Value)

/-- The test with an operand in the place. -/
def TestPlace.fill (v : Value) : TestPlace → Test Value
  | compare column operator => .compare column operator v
  | isIn column => .isIn column v
  | member column items => .isIn column (.list (items.fill v))
  | low column bound => .between column [v, bound]
  | high column bound => .between column [bound, v]
  | exists_ => .exists_ v
  | like column ignoreCase => .like column v ignoreCase
  | jsonPath column path operator => .jsonPath column path operator v
  | pair entries column => .pairs (entries.fill (column, v))

/-- The rows of an insert with a place for a value: in a single row, or in a row of a list. -/
structure RowPlace where
  rows : Option (Gap Value) := none
  entries : Gap (Value × Value) := {}
  column : Value

/-- The rows with an operand in the place. -/
def RowPlace.fill (place : RowPlace) (v : Value) : Value :=
  let row := .map (place.entries.fill (place.column, v))
  match place.rows with
  | none => row
  | some rows => .list (rows.fill row)

/-- A query with a place for an operand. -/
inductive Place
  | condition (q : Query Value) (clause : ConditionClause) (conditions : Gap (Condition Value))
      (c : Condition Value) (place : TestPlace)
  | joined (q : Query Value) (joins : Gap (Join Value)) (j : Join Value)
      (conditions : Gap (Condition Value)) (c : Condition Value) (place : TestPlace)
  | commonTable (q : Query Value) (tables : Gap (CommonTable Value)) (t : CommonTable Value)
  | operand (q : Query Value) (operations : Gap (SetOperation Value)) (o : SetOperation Value)
  | insertSource (q : Query Value)
  | insertValue (q : Query Value) (place : RowPlace)
  | upsertSource (q : Query Value)
  | upsertValue (q : Query Value) (place : RowPlace)
  | updateValue (q : Query Value) (entries : Gap (Value × Value)) (column : Value)
  /-- a new value for the rows of an insert that exist already -/
  | mergeValue (q : Query Value) (columns : List Value) (entries : Gap (Value × Value)) (column : Value)
  /-- a place in a query that itself stands in a place -/
  | within (outer inner : Place)

/-- A statement with other conditions in a clause. -/
def Statement.setConditions (st : Statement Value) (cs : List (Condition Value)) :
    ConditionClause → Statement Value
  | .where_ => { st with wheres := cs }
  | .having => { st with havings := cs }

namespace Place

/-- The query with an operand in the place. -/
def fill (v : Value) : Place → Query Value
  | condition q clause conditions c place =>
    q.edit fun st => st.setConditions (conditions.fill { c with test := place.fill v }) clause
  | joined q joins j conditions c place =>
    q.edit fun st =>
      { st with
        joins := joins.fill { j with conditions := conditions.fill { c with test := place.fill v } } }
  | commonTable q tables t => q.edit fun st => { st with commonTables := tables.fill { t with query := v } }
  | operand q operations o => q.edit fun st => { st with unions := operations.fill { o with query := v } }
  | insertSource q => q.edit fun st => { st with insert := some v }
  | insertValue q place => q.edit fun st => { st with insert := some (place.fill v) }
  | upsertSource q => q.edit fun st => { st with upsert := some v }
  | upsertValue q place => q.edit fun st => { st with upsert := some (place.fill v) }
  | updateValue q entries column => q.edit fun st => { st with update := entries.fill (column, v) }
  | mergeValue q columns entries column =>
    q.edit fun st =>
      { st with conflict := some { columns, merge := some (.map (entries.fill (column, v))) } }
  | within outer inner => outer.fill (.query (inner.fill v))

/-- The client of the query around everything. -/
def client : Place → Client Value
  | condition q _ _ _ _ | joined q _ _ _ _ _ | commonTable q _ _ | operand q _ _ | insertSource q
  | insertValue q _ | upsertSource q | upsertValue q _ | updateValue q _ _
  | mergeValue q _ _ _ => q.client
  | within outer _ => outer.client

@[simp] theorem fill_client (place : Place) (v : Value) : (place.fill v).client = place.client := by
  induction place generalizing v with
  | within outer inner ih _ => exact ih _
  | _ => rfl

end Place

namespace Likeness

variable {D : Likeness} {L : Level}

/-- Two operands stand for each other wherever a sub-query may stand. -/
structure Interchangeable (D : Likeness) (L : Level) (v v' : Value) : Prop where
  argument : D.Argument L v v'
  subquery : D.Subquery L v v'
  source : Scope.isSource v = true
  source' : Scope.isSource v' = true
  raw : v.isRaw = v'.isRaw
  present : v ≠ .null
  present' : v' ≠ .null
  sequence : v.sequence? = none
  sequence' : v'.sequence? = none
  single : v.items = .error wrongType
  single' : v'.items = .error wrongType
  container : isContainer v = false
  container' : isContainer v' = false
  undefined : v.containsUndefined = false
  undefined' : v'.containsUndefined = false
  cast : ∀ sql, Scope.jsonOperand D.capabilities.jsonPath v sql =
    Scope.jsonOperand D.capabilities.jsonPath v' sql

/-- All parts of two statements stand for each other. -/
structure StatementLike (D : Likeness) (L : Level) (st st' : Statement Value) : Prop
    extends D.SelectLike L st st' where
  method : st.method = st'.method
  insert : D.SourceLike L (st.insert.getD .null) (st'.insert.getD .null)
  upsert : D.SourceLike L (st.upsert.getD .null) (st'.upsert.getD .null)
  conflict : Option.Rel (D.ConflictLike L) st.conflict st'.conflict
  update : Forall₂ (D.AssignmentLike L) st.update st'.update
  counters : Forall₂ (D.CounterLike L) st.counters st'.counters
  returning : Forall₂ (D.Column L) st.returning st'.returning
  comments : st.comments = st'.comments
  asName : st.asName = st'.asName

/-- Statements all of whose parts stand for each other do, whatever they are for. -/
theorem StatementLike.body {st st' : Statement Value} (h : D.StatementLike L st st') (allowed : D.writes) :
    ∀ method, D.BodyLike L method st st' := by
  have write : D.WriteLike L st st' :=
    { h.toSelectLike with allowed, returning := h.returning }
  intro method
  cases method with
  | select => exact h.toSelectLike
  | first => exact h.toSelectLike
  | insert => exact { write with source := h.insert, conflict := h.conflict }
  | upsert => exact { write with source := h.upsert, conflict := h.conflict }
  | delete => exact { write with wheres := h.wheres }
  | update =>
    exact {
      write with
      wheres := h.wheres
      lock := h.lock
      wait := h.wait
      values := h.update
      counters := h.counters }
  | truncate => exact { h.toSelectLike with allowed }

/-- Lists that differ in one place are alike if what stands there is. -/
theorem forall₂_fill {α : Type} {R : α → α → Prop} (refl : ∀ a, R a a) (gap : Gap α) {a a' : α}
    (h : R a a') : Forall₂ R (gap.fill a) (gap.fill a') :=
  List.rel_append (List.forall₂_same.mpr fun a _ => refl a)
    (.cons h (List.forall₂_same.mpr fun a _ => refl a))

/-- Two entries of a row, as they are given, stand for each other. -/
structure GivenEntry (D : Likeness) (L : Level) (e e' : Value × Value) : Prop where
  column : e.1 = e'.1
  undefined : e.2.containsUndefined = e'.2.containsUndefined
  stored : D.Stored L e.2 e'.2

/-- Two rows of an insert, as they are given, stand for each other: they are one value, or mappings with
the same columns. -/
inductive GivenRow (D : Likeness) (L : Level) : Value → Value → Prop
  | same (v : Value) : GivenRow D L v v
  | map {entries entries' : List (Value × Value)} (h : Forall₂ (D.GivenEntry L) entries entries') :
      GivenRow D L (.map entries) (.map entries')

/-- Lists whose items are related have related items with their numbers. -/
theorem forall₂_mapIdx {α β γ δ : Type} {R : α → β → Prop} {S : γ → δ → Prop} {f : Nat → α → γ}
    {g : Nat → β → δ} {as : List α} {bs : List β} (h : Forall₂ R as bs)
    (step : ∀ i a b, R a b → S (f i a) (g i b)) : Forall₂ S (as.mapIdx f) (bs.mapIdx g) := by
  induction h generalizing f g with
  | nil => exact .nil
  | cons first _ ih =>
    rw [List.mapIdx_cons, List.mapIdx_cons]
    exact .cons (step _ _ _ first) (ih fun i => step (i + 1))

namespace Stands

variable (any : D.Stands L .any)

include any

theorem givenEntry (e : Value × Value) : D.GivenEntry L e e :=
  ⟨rfl, rfl, any.stored trivial⟩

theorem rowOf {entries entries' : List (Value × Value)} (h : Forall₂ (D.GivenEntry L) entries entries')
    (number : Nat) : Forall₂ (D.CellLike L) (Scope.rowOf number entries) (Scope.rowOf number entries') := by
  refine forall₂_mapIdx h ?_
  rintro i ⟨column, v⟩ ⟨_, v'⟩ ⟨rfl, undefined, stored⟩
  exact ⟨rfl, any.column column trivial, undefined, stored⟩

/-- The rows of two inserts stand for each other if they are given with the same columns. -/
theorem rowsOf {items items' : List Value} (h : Forall₂ (D.GivenRow L) items items') :
    D.SourceLike L (.list items) (.list items') := by
  have alike : (∃ e, items.mapM Scope.entriesOf = .error e ∧ items'.mapM Scope.entriesOf = .error e) ∨
      ∃ rows rows', items.mapM Scope.entriesOf = .ok rows ∧ items'.mapM Scope.entriesOf = .ok rows' ∧
        Forall₂ (Forall₂ (D.GivenEntry L)) rows rows' := by
    induction h with
    | nil => exact .inr ⟨[], [], rfl, rfl, .nil⟩
    | @cons v v' _ _ first _ ih =>
      have head : (∃ e, Scope.entriesOf v = .error e ∧ Scope.entriesOf v' = .error e) ∨
          ∃ row row', Scope.entriesOf v = .ok row ∧ Scope.entriesOf v' = .ok row' ∧ Forall₂ (D.GivenEntry L) row row' := by
        cases first with
        | same v =>
          cases v with
          | map entries =>
            exact .inr ⟨_, _, rfl, rfl, List.forall₂_same.mpr fun e _ => any.givenEntry e⟩
          | _ => exact .inl ⟨_, rfl, rfl⟩
        | map h => exact .inr ⟨_, _, rfl, rfl, h⟩
      rcases head with ⟨e, left, right⟩ | ⟨row, row', left, right, entries⟩
      · exact .inl ⟨e, by rw [List.mapM_cons, left]; rfl, by rw [List.mapM_cons, right]; rfl⟩
      · rcases ih with ⟨e, fails, fails'⟩ | ⟨rows, rows', ok, ok', rest⟩
        · exact .inl ⟨e, by rw [List.mapM_cons, left, fails]; rfl, by rw [List.mapM_cons, right, fails']; rfl⟩
        · exact .inr ⟨row :: rows, row' :: rows', by rw [List.mapM_cons, left, ok]; rfl,
            by rw [List.mapM_cons, right, ok']; rfl, .cons entries rest⟩
  have list (items : List Value) :
      Scope.rowsOf (.list items) = return (← items.mapM Scope.entriesOf).mapIdx Scope.rowOf := rfl
  rcases alike with ⟨e, fails, fails'⟩ | ⟨rows, rows', ok, ok', entries⟩
  · exact .none rfl rfl (by rw [list, fails]; rfl) (by rw [list, fails']; rfl) (any.error_refl e)
  · exact .rows rfl rfl (by rw [list, ok]; rfl) (by rw [list, ok']; rfl)
      (forall₂_mapIdx entries fun number _ _ h => any.rowOf h number)

/-- The rows of two inserts stand for each other if what stands in one place of theirs does. -/
theorem rowPlace (place : RowPlace) {v v' : Value} (h : D.Interchangeable L v v') :
    D.SourceLike L (place.fill v) (place.fill v') := by
  have entry : D.GivenEntry L (place.column, v) (place.column, v') :=
    ⟨rfl, by rw [h.undefined, h.undefined'], .operand h.container h.container' h.argument⟩
  have entries := forall₂_fill (any.givenEntry) place.entries entry
  unfold RowPlace.fill
  cases place.rows with
  | none => exact .rows rfl rfl rfl rfl (.cons (any.rowOf entries 0) .nil)
  | some rows => exact any.rowsOf (forall₂_fill .same rows (.map entries))

/-! ## Tests -/

omit any in
/-- A list with an undefined value in it has one whatever stands in a place where neither of two values
is undefined. -/
theorem undefined_fill (items : Gap Value) {v v' : Value} (h : D.Interchangeable L v v') :
    (Value.list (items.fill v)).containsUndefined = (Value.list (items.fill v')).containsUndefined :=
  Value.anyUndefined_eq (forall₂_fill (R := fun v v' => v.containsUndefined = v'.containsUndefined)
    (fun _ => rfl) items (by rw [h.undefined, h.undefined']))

theorem memberPlace (items : Gap Value) {v v' : Value} (h : D.Interchangeable L v v') :
    D.Members L (.list (items.fill v)) (.list (items.fill v')) := by
  have values := forall₂_fill (fun _ => any.stored trivial) items (.operand h.container h.container' h.argument)
  have rows := forall₂_fill (fun _ => any.rowItems trivial) items
    (.none h.single h.single' (any.error_refl wrongType))
  obtain ⟨before, after⟩ := items
  cases before with
  | nil => exact .values rfl rfl h.sequence h.sequence' values
  | cons first before =>
    cases nested : first.sequence? with
    | none => exact .values rfl rfl nested nested values
    | some _ => exact .rows rfl rfl (by simp [nested]) (by simp [nested]) rows

/-- Two tests stand for each other if what stands in one place of theirs does. -/
theorem testPlace (place : TestPlace) {v v' : Value} (h : D.Interchangeable L v v') :
    D.TestLike L (place.fill v) (place.fill v') := by
  have tracked (column : Value) : Tracked column column v v' :=
    ⟨by rw [h.undefined, h.undefined'], fun _ => rfl⟩
  have same (v : Value) : D.Argument L v v := any.argument trivial
  cases place with
  | compare column operator =>
    exact .compare (any.column column trivial) (any.wordOf trivial) (tracked column) h.argument
  | isIn column =>
    exact .isIn (any.columns trivial) (tracked column) (.operand h.sequence h.sequence' h.raw h.argument)
  | member column items =>
    exact .isIn (any.columns trivial) ⟨undefined_fill items h, fun _ => rfl⟩ (any.memberPlace items h)
  | low column bound =>
    refine .between (any.column column trivial) ⟨?_, fun _ => rfl⟩ (.cons h.argument (.cons (same bound) .nil))
    simp [Value.containsUndefined, Value.anyUndefined, h.undefined, h.undefined']
  | high column bound =>
    refine .between (any.column column trivial) ⟨?_, fun _ => rfl⟩ (.cons (same bound) (.cons h.argument .nil))
    simp [Value.containsUndefined, Value.anyUndefined, h.undefined, h.undefined']
  | exists_ => exact .exists_ h.subquery
  | like column ignoreCase => exact .like (any.column column trivial) (tracked column) h.argument
  | jsonPath column path operator =>
    exact .jsonPath (any.columns trivial) (any.path trivial) (any.wordOf trivial) (tracked column)
      h.cast h.argument
  | pair entries column =>
    exact .pairs (forall₂_fill (fun _ => any.pair ⟨trivial, trivial⟩) entries
      (.value h.present h.present' (any.column column trivial) (tracked column) h.argument))

/-- Two conditions stand for each other if what stands in one place of theirs does. -/
theorem conditionPlace (c : Condition Value) (place : TestPlace) {v v' : Value}
    (h : D.Interchangeable L v v') :
    D.ConditionLike L { c with test := place.fill v } { c with test := place.fill v' } :=
  ⟨rfl, rfl, fun _ _ => any.connective trivial, rfl, any.testPlace place h⟩

/-- Two lists of conditions stand for each other if what stands in one place of theirs does. -/
theorem conditionsPlace (conditions : Gap (Condition Value)) (c : Condition Value) (place : TestPlace)
    {v v' : Value} (h : D.Interchangeable L v v') :
    D.ConditionsLike L (conditions.fill { c with test := place.fill v })
      (conditions.fill { c with test := place.fill v' }) :=
  forall₂_fill (fun c => any.condition c.of_any) conditions
    (any.conditionPlace c place h)

/-! ## Queries -/

theorem statement (st : Statement Value) : D.StatementLike L st st where
  toSelectLike := any.select st.of_any
  method := rfl
  insert := any.source trivial
  upsert := any.source trivial
  conflict := any.conflicts st.of_any
  update := any.updates st.of_any
  counters := any.counters st.of_any
  returning := any.columnList fun _ _ => trivial
  comments := rfl
  asName := rfl

/-- Two queries stand for each other that differ in their statements only. -/
theorem edited (q : Query Value) {f f' : Statement Value → Statement Value}
    (h : D.StatementLike L (f q.statement) (f' q.statement)) : D.QueryLike L (q.edit f) (q.edit f') where
  context := .inr rfl
  method := h.method
  body := h.body any.allowed _
  comments := h.comments
  commentsFit _ _ := any.comment trivial
  asName := h.asName
  fits _ _ := any.asName _

end Stands

namespace Liberal

variable (law : D.Liberal)

include law

/-- Two queries stand for each other, at every level, that differ in one statement, at every level. -/
theorem edited_level (q : Query Value) {f f' : Statement Value → Statement Value}
    (h : ∀ n, D.Stands (D.level n) .any → D.StatementLike (D.level n) q.statement q.statement →
      D.StatementLike (D.level n) (f q.statement) (f' q.statement)) (n : Nat) :
    (D.level n).query (q.edit f) (q.edit f') := by
  cases n with
  | zero => trivial
  | succ n =>
    have any := law.stands (law.level_refl n)
    exact any.edited q (h n any (any.statement q.statement))

/-- The queries around a place stand for each other, at every level, if what stands in it does. -/
theorem place_like (place : Place) {v v' : Value} (h : ∀ n, D.Interchangeable (D.level n) v v') (n : Nat) :
    (D.level n).query (place.fill v) (place.fill v') := by
  induction place generalizing v v' n with
  | within outer inner outer_ih inner_ih =>
    refine outer_ih (fun n => ?_) n
    have nested := inner_ih h n
    exact {
      argument := .builder (.query nested)
      subquery := .expression rfl rfl (.builder (.query nested))
      source := rfl
      source' := rfl
      raw := rfl
      present := nofun
      present' := nofun
      sequence := rfl
      sequence' := rfl
      single := rfl
      single' := rfl
      container := rfl
      container' := rfl
      undefined := rfl
      undefined' := rfl
      cast := fun _ => rfl }
  | condition q clause conditions c place =>
    refine law.edited_level q (fun n any same => ?_) n
    have alike := any.conditionsPlace conditions c place (h n)
    cases clause with
    | where_ => exact { same with wheres := alike }
    | having => exact { same with havings := alike }
  | joined q joins j conditions c place =>
    refine law.edited_level q (fun n any same => ?_) n
    have alike := any.conditionsPlace conditions c place (h n)
    exact {
      same with
      joins := forall₂_fill (fun j => any.join j.of_any) joins
        { any.join j.of_any with conditions := fun _ => alike } }
  | commonTable q tables t =>
    refine law.edited_level q (fun n any same => ?_) n
    have same_table (t : CommonTable Value) : D.TableLike (D.level n) t t :=
      any.commonTable ⟨trivial, fun _ _ => trivial⟩
    exact {
      same with
      commonTables := forall₂_fill same_table tables { same_table t with query := (h n).subquery } }
  | operand q operations o =>
    refine law.edited_level q (fun n any same => ?_) n
    have same_operand (o : SetOperation Value) : D.OperationLike (D.level n) o o :=
      any.operation ⟨trivial, trivial⟩
    exact {
      same with
      unions := forall₂_fill same_operand operations { same_operand o with query := (h n).subquery } }
  | insertSource q =>
    refine law.edited_level q (fun n any same => ?_) n
    exact { same with insert := .query (h n).source (h n).source' (h n).subquery }
  | insertValue q place =>
    refine law.edited_level q (fun n any same => ?_) n
    exact { same with insert := any.rowPlace place (h n) }
  | upsertSource q =>
    refine law.edited_level q (fun n any same => ?_) n
    exact { same with upsert := .query (h n).source (h n).source' (h n).subquery }
  | upsertValue q place =>
    refine law.edited_level q (fun n any same => ?_) n
    exact { same with upsert := any.rowPlace place (h n) }
  | updateValue q entries column =>
    refine law.edited_level q (fun n any same => ?_) n
    have entry : D.AssignmentLike (D.level n) (column, v) (column, v') :=
      ⟨any.column column trivial, ⟨by rw [(h n).undefined, (h n).undefined'], fun _ => rfl⟩,
        .operand (h n).container (h n).container' (h n).argument⟩
    exact { same with update := forall₂_fill (fun _ => any.assignment ⟨trivial, trivial⟩) entries entry }
  | mergeValue q columns entries column =>
    refine law.edited_level q (fun n any same => ?_) n
    have entry : D.AssignmentLike (D.level n) (column, v) (column, v') :=
      ⟨any.column column trivial, ⟨by rw [(h n).undefined, (h n).undefined'], fun _ => rfl⟩,
        .operand (h n).container (h n).container' (h n).argument⟩
    have merge := forall₂_fill (fun _ => any.assignment ⟨trivial, trivial⟩) entries entry
    exact { same with conflict := .some ⟨any.columnList fun _ _ => trivial, .some (.assignments merge)⟩ }

end Liberal

end Likeness

end SqlBuilder
