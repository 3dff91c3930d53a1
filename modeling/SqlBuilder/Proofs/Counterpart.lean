import SqlBuilder.Proofs.Likeness

/-!
# Counterparts

When the parts of two statements stand for each other in a likeness, place by place: operands in the
place of a column, of a value, of a sub-query; conditions, clauses, and whole statements. What is nested
is compared one level down, and callbacks are compared by the objects that they make there.

* `Likeness.Level`: the comparison of what is nested one level down.
* `Likeness.Column`, `Likeness.Argument`, `Likeness.Stored`, `Likeness.Subquery`: operands.
* `Likeness.TestLike`, `Likeness.SelectLike`, `Likeness.BodyLike`: clauses and statements.
* `Likeness.QueryLike`, `Likeness.RawLike`: queries and raw expressions.
* `Likeness.level`, `Likeness.Like`: the comparison at every level, and at the top one.
-/

namespace SqlBuilder.Likeness

open List (Forall₂)

/-- What is nested one level down: what builders compile to there, and which queries, raw expressions
and lists of conditions stand for each other. -/
structure Level where
  outputs : Outputs
  query : Query Value → Query Value → Prop
  raw : Raw Value → Raw Value → Prop
  conditions : List (Condition Value) → List (Condition Value) → Prop

variable (D : Likeness) (L : Level)

/-- Hooks on identifiers see the same context, if there are any. -/
def SameContext (context context' : Option Value) : Prop :=
  D.client.wrapIdentifier = none ∨ context = context'

/-! ## Callbacks -/

/-- The evaluator for callbacks one level down. -/
def Level.evaluator : Evaluator :=
  SqlBuilder.evaluator D.env L.outputs nestingLimit

/-- Two callbacks make queries that stand for each other. -/
def Callback (chains chains' : List Chain) : Prop :=
  ∀ events, Logged.EndsAlike D.error L.query
    ((L.evaluator D).onQuery chains (Query.ofClient D.client) events)
    ((L.evaluator D).onQuery chains' (Query.ofClient D.client) events)

/-- Two callbacks add conditions that stand for each other to an empty query. -/
def ConditionCallback (clause : ConditionClause) (chains chains' : List Chain) : Prop :=
  ∀ events, Logged.EndsAlike D.error
    (fun q q' => L.conditions (q.statement.conditions clause) (q'.statement.conditions clause) ∧
      D.SameContext q.context q'.context)
    ((L.evaluator D).onQuery chains (Query.ofClient D.client) events)
    ((L.evaluator D).onQuery chains' (Query.ofClient D.client) events)

/-- Two callbacks add conditions that stand for each other to an empty join. -/
def JoinCallback (chains chains' : List Chain) : Prop :=
  ∀ events, Logged.EndsAlike D.error (fun j j' => L.conditions j.conditions j'.conditions)
    ((L.evaluator D).onObject Join.call chains { table := .null } events)
    ((L.evaluator D).onObject Join.call chains' { table := .null } events)

/-- A callback makes a query that a given one stands for, and reports nothing. -/
def Makes (chains : List Chain) (q' : Query Value) : Prop :=
  ∀ events, ∃ q, (L.evaluator D).onQuery chains (Query.ofClient D.client) events = .ok q events ∧
    L.query q q'

/-! ## Operands -/

/-- An operand is neither a query nor a raw expression. -/
def Inert (v : Value) : Prop :=
  D.env.query? v = none ∧ D.env.raw? v = none

/-- The text of an operand may stand in a name. -/
def Shown (v : Value) : Prop :=
  (∀ c, D.char c) ∨ (v.isBuilder = false ∧ D.Spelled v.text)

/-- An operand may stand in the place of an alias: if it is a text, it is one for a name. -/
def Alias (v : Value) : Prop :=
  ∀ name, v = .str name → D.Spelled name

/-- Two queries or raw expressions stand for each other. -/
inductive Builder : Value → Value → Prop
  | query {q q' : Query Value} (h : L.query q q') : Builder (.query q) (.query q')
  | raw {r r' : Raw Value} (h : L.raw r r') : Builder (.raw r) (.raw r')
  | sharedQuery {o : SharedObject} {q : Query Value} (found : D.env.query? (.shared o) = some q)
      (h : L.query q q) : Builder (.shared o) (.shared o)
  | sharedRaw {o : SharedObject} {r : Raw Value} (missing : D.env.query? (.shared o) = none)
      (found : D.env.raw? (.shared o) = some r) (h : L.raw r r) : Builder (.shared o) (.shared o)

mutual

/-- Two operands in the place of a column stand for each other. -/
inductive Column : Value → Value → Prop
  | integer (n : Int) : Column (.int n) (.int n)
  | float {x : FloatText} (h : D.piece (.number x.text)) : Column (.scalar (.float x)) (.scalar (.float x))
  | name {s : Scalar} (number : Value.isNumber (.scalar s) = false) (h : D.Spelled s.text) :
      Column (.scalar s) (.scalar s)
  | callback {chains chains' : List Chain} (h : D.Callback L chains chains') :
      Column (.callback chains) (.callback chains')
  | map {entries entries' : List (Value × Value)} (h : Entries entries entries') :
      Column (.map entries) (.map entries')
  | builder {v v' : Value} (h : D.Builder L v v') : Column v v'
  | other {v : Value} (inert : D.Inert v) (callback : v.isCallback = false) (map : v.entries? = none)
      (scalar : v.scalar? = none) (h : D.Shown v) : Column v v

/-- The entries of two mappings from aliases to columns stand for each other. -/
inductive Entries : List (Value × Value) → List (Value × Value) → Prop
  | nil : Entries [] []
  | cons {asName target target' : Value} {entries entries' : List (Value × Value)}
      (fits : D.Alias asName) (first : Column target target') (rest : Entries entries entries') :
      Entries ((asName, target) :: entries) ((asName, target') :: entries')

end

/-- Two operands that each name some columns stand for each other. -/
structure Columns (v v' : Value) : Prop where
  sequence : v.sequence?.isSome = v'.sequence?.isSome
  columns : Forall₂ (D.Column L) v.columnList v'.columnList

/-- Two words that the caller chose, or expressions in their place, stand for each other. -/
inductive Word : Value → Value → Prop
  | builder {v v' : Value} (h : D.Builder L v v') : Word v v'
  | word {v : Value} (inert : D.Inert v) : Word v v

/-- Two operands in the place of a value stand for each other. -/
inductive Argument : Value → Value → Prop
  | callback {chains chains' : List Chain} (h : D.Callback L chains chains') :
      Argument (.callback chains) (.callback chains')
  | builder {v v' : Value} (h : D.Builder L v v') : Argument v v'
  | makes {chains : List Chain} {q : Query Value} (allowed : D.exchanges) (h : D.Makes L chains q) :
      Argument (.callback chains) (.query q)
  | bound {v v' : Value} (inert : D.Inert v) (inert' : D.Inert v') (callback : v.isCallback = false)
      (callback' : v'.isCallback = false) (h : D.value v v') : Argument v v'

/-- Whether an operand is a container that is stored as its JSON text. -/
def isContainer : Value → Bool
  | .list _ | .tuple _ | .map _ => true
  | _ => false

/-- Two operands in the place of a value that is stored stand for each other. -/
inductive Stored : Value → Value → Prop
  | container {v : Value} (h : isContainer v = true) : Stored v v
  | operand {v v' : Value} (plain : isContainer v = false) (plain' : isContainer v' = false)
      (h : D.Argument L v v') : Stored v v'

/-- Two rows of a list of rows stand for each other: their items do, or they fail alike. -/
inductive RowItems (v v' : Value) : Prop
  | items {items items' : List Value} (ok : v.items = .ok items) (ok' : v'.items = .ok items')
      (h : Forall₂ (D.Stored L) items items')
  | none {e e' : Error} (error : v.items = .error e) (error' : v'.items = .error e') (h : D.error e e')

/-- Two operands that a membership test looks into stand for each other. -/
inductive Members : Value → Value → Prop
  | empty {v v' : Value} (h : v.sequence? = some []) (h' : v'.sequence? = some []) : Members v v'
  | values {v v' first first' : Value} {rest rest' : List Value}
      (sequence : v.sequence? = some (first :: rest)) (sequence' : v'.sequence? = some (first' :: rest'))
      (flat : first.sequence? = none) (flat' : first'.sequence? = none)
      (h : Forall₂ (D.Stored L) (first :: rest) (first' :: rest')) : Members v v'
  | rows {v v' first first' : Value} {rest rest' : List Value}
      (sequence : v.sequence? = some (first :: rest)) (sequence' : v'.sequence? = some (first' :: rest'))
      (nested : first.sequence?.isSome = true) (nested' : first'.sequence?.isSome = true)
      (h : Forall₂ (D.RowItems L) (first :: rest) (first' :: rest')) : Members v v'
  | operand {v v' : Value} (single : v.sequence? = none) (single' : v'.sequence? = none)
      (raw : v.isRaw = v'.isRaw) (h : D.Argument L v v') : Members v v'

/-- Two expressions, or two operands that are none, stand for each other. -/
inductive Expression : Value → Value → Prop
  | builder {v v' : Value} (h : D.Builder L v v') : Expression v v'
  | nothing {v v' : Value} (inert : D.Inert v) (inert' : D.Inert v') : Expression v v'

/-- Two operands in the place of a sub-query stand for each other. -/
inductive Subquery : Value → Value → Prop
  | callback {chains chains' : List Chain} (h : D.Callback L chains chains') :
      Subquery (.callback chains) (.callback chains')
  | makes {chains : List Chain} {q : Query Value} (allowed : D.exchanges) (h : D.Makes L chains q) :
      Subquery (.callback chains) (.query q)
  | expression {v v' : Value} (callback : v.isCallback = false) (callback' : v'.isCallback = false)
      (h : D.Expression L v v') : Subquery v v'

/-- The values that go with a column are both undefined or both not; undefined ones go with one column,
which messages name. -/
structure Tracked (column column' v v' : Value) : Prop where
  undefined : v.containsUndefined = v'.containsUndefined
  column : v.containsUndefined = true → column = column'

/-! ## Conditions -/

/-- Two operands that name a place in a JSON document stand for each other. -/
structure Path (path path' : Value) : Prop where
  same : path = path'
  argument : D.Argument L path path'

/-- Two pairs of a column and the value that it has stand for each other. -/
inductive PairLike : Value × Value → Value × Value → Prop
  | null {column column' : Value} (h : D.Column L column column') :
      PairLike (column, .null) (column', .null)
  | value {column column' v v' : Value} (present : v ≠ .null) (present' : v' ≠ .null)
      (h : D.Column L column column') (tracked : Tracked column column' v v')
      (argument : D.Argument L v v') : PairLike (column, v) (column', v')

/-- Two tests stand for each other. -/
inductive TestLike : Test Value → Test Value → Prop
  | compare {column column' operator operator' v v' : Value} (left : D.Column L column column')
      (word : D.Word L operator operator') (tracked : Tracked column column' v v')
      (right : D.Argument L v v') :
      TestLike (.compare column operator v) (.compare column' operator' v')
  | compareColumns {column column' operator operator' other other' : Value}
      (left : D.Column L column column') (word : D.Word L operator operator')
      (right : D.Column L other other') :
      TestLike (.compareColumns column operator other) (.compareColumns column' operator' other')
  | isIn {column column' v v' : Value} (left : D.Columns L column column')
      (tracked : Tracked column column' v v') (right : D.Members L v v') :
      TestLike (.isIn column v) (.isIn column' v')
  | isNull {column column' : Value} (left : D.Column L column column') :
      TestLike (.isNull column) (.isNull column')
  | between {column column' : Value} {bounds bounds' : List Value} (left : D.Column L column column')
      (tracked : Tracked column column' (.list bounds) (.list bounds'))
      (right : Forall₂ (D.Argument L) bounds bounds') :
      TestLike (.between column bounds) (.between column' bounds')
  | exists_ {v v' : Value} (h : D.Subquery L v v') : TestLike (.exists_ v) (.exists_ v')
  | group {chains chains' : List Chain} (h : ∀ clause, D.ConditionCallback L clause chains chains') :
      TestLike (.group (.callback chains)) (.group (.callback chains'))
  | noGroup {v v' : Value} (h : v.isCallback = false) (h' : v'.isCallback = false) :
      TestLike (.group v) (.group v')
  | pairs {entries entries' : List (Value × Value)} (h : Forall₂ (D.PairLike L) entries entries') :
      TestLike (.pairs entries) (.pairs entries')
  | raw {v v' : Value} (h : D.Expression L v v') : TestLike (.raw v) (.raw v')
  | like {column column' v v' : Value} {ignoreCase : Bool} (left : D.Column L column column')
      (tracked : Tracked column column' v v') (right : D.Argument L v v') :
      TestLike (.like column v ignoreCase) (.like column' v' ignoreCase)
  | jsonPath {column column' path path' operator operator' v v' : Value}
      (left : D.Columns L column column') (place : D.Path L path path')
      (word : D.Word L operator operator') (tracked : Tracked column column' v v')
      (cast : ∀ sql, Scope.jsonOperand D.capabilities.jsonPath v sql =
        Scope.jsonOperand D.capabilities.jsonPath v' sql)
      (right : D.Argument L v v') :
      TestLike (.jsonPath column path operator v) (.jsonPath column' path' operator' v')
  | joinGroup {chains chains' : List Chain} (h : D.JoinCallback L chains chains') :
      TestLike (.joinGroup (.callback chains)) (.joinGroup (.callback chains'))
  | noJoinGroup {v v' : Value} (h : v.isCallback = false) (h' : v'.isCallback = false) :
      TestLike (.joinGroup v) (.joinGroup v')
  | joinPairs {entries entries' : List (Value × Value)}
      (h : Forall₂ (fun e e' => D.Column L e.1 e'.1 ∧ D.Column L e.2 e'.2) entries entries') :
      TestLike (.joinPairs entries) (.joinPairs entries')
  | sharing {columns columns' : List Value} (h : Forall₂ (D.Column L) columns columns') :
      TestLike (.using columns) (.using columns')

/-- A word of the caller's in the place of a connective may stand there. -/
def Conjunction (w : Value) : Prop :=
  D.liberal ∨ (w.isBuilder = false ∧ D.piece (.raw w.text))

/-- Two conditions stand for each other. -/
structure ConditionLike (c c' : Condition Value) : Prop where
  connective : c.connective = c'.connective
  word : c.word = c'.word
  wordText : ∀ w ∈ c.word, D.Conjunction w
  negated : c.negated = c'.negated
  test : D.TestLike L c.test c'.test

/-- Two lists of conditions stand for each other. -/
abbrev ConditionsLike (cs cs' : List (Condition Value)) : Prop :=
  Forall₂ (D.ConditionLike L) cs cs'

/-! ## Clauses -/

/-- Two columns with directions stand for each other. -/
structure TermLike (t t' : Value × Value) : Prop where
  column : D.Column L t.1 t'.1
  given : t.2.isTruthy = t'.2.isTruthy
  direction : D.Word L t.2 t'.2

/-- Two window functions stand for each other. -/
structure WindowLike (w w' : Window Value) : Prop where
  function : w.function = w'.function
  word : D.piece (.word (w.function ++ "() over ("))
  asName : w.asName = w'.asName
  fits : D.Alias w.asName
  raw : Option.Rel (D.Expression L) w.raw w'.raw
  order : Forall₂ (D.TermLike L) w.order w'.order
  partitions : Forall₂ (D.TermLike L) w.partitions w'.partitions

/-- Two entries of a projection stand for each other. -/
inductive ProjectionLike : Projection Value → Projection Value → Prop
  | columns {values values' : List Value} {role : ColumnRole} (h : Forall₂ (D.Column L) values values') :
      ProjectionLike (.columns values role) (.columns values' role)
  | aggregate {function : String} {v v' asName : Value} {distinct : Bool}
      (plain : D.piece (.word (function ++ "("))) (word : D.piece (.word (function ++ "(distinct ")))
      (fits : D.Alias asName) (h : D.Columns L v v') :
      ProjectionLike (.aggregate function v distinct asName) (.aggregate function v' distinct asName)
  | window {w w' : Window Value} (h : D.WindowLike L w w') : ProjectionLike (.window w) (.window w')
  | jsonExtract {column column' path path' asName : Value} (h : D.Columns L column column')
      (place : D.Path L path path') (fits : D.Alias asName) :
      ProjectionLike (.jsonExtract column path asName) (.jsonExtract column' path' asName)

/-- A schema may stand before a name, if it is given. -/
def SchemaShown (schema : Option Value) : Prop :=
  ∀ v ∈ schema, v.isTruthy = true → D.Shown v

/-- Two joins stand for each other. -/
structure JoinLike (j j' : Join Value) : Prop where
  raw : j.raw = j'.raw
  expression : j.raw = true → D.Expression L j.table j'.table
  kind : j.kind = j'.kind
  word : j.raw = false → D.piece (.word (j.kind ++ " join "))
  schema : j.schema = j'.schema
  schemaShown : j.raw = false → D.SchemaShown j.schema
  table : j.raw = false → D.Column L j.table j'.table
  conditions : j.raw = false → D.ConditionsLike L j.conditions j'.conditions

/-- Two entries of the group list stand for each other. -/
structure GroupLike (g g' : GroupEntry Value) : Prop where
  raw : g.raw = g'.raw
  expressions : g.raw = true → Forall₂ (D.Expression L) g.values g'.values
  columns : g.raw = false → Forall₂ (D.Column L) g.values g'.values

/-- Two entries of the order list stand for each other. -/
inductive OrderLike : OrderEntry Value → OrderEntry Value → Prop
  | by_ {column column' direction direction' : Value} {nulls : Option NullsOrder}
      (left : D.Column L column column') (word : D.Word L direction direction')
      (native : nulls.isSome = true → D.capabilities.nativeNullsOrdering = true ∨ D.freezes) :
      OrderLike (.by_ column direction nulls) (.by_ column' direction' nulls)
  | raw {v v' : Value} (h : D.Expression L v v') : OrderLike (.raw v) (.raw v')

/-- Two combined queries stand for each other. -/
structure OperationLike (o o' : SetOperation Value) : Prop where
  query : D.Subquery L o.query o'.query
  kind : o.kind = o'.kind
  word : D.piece (.word (" " ++ o.kind ++ " "))
  wrap : o.wrap = o'.wrap

/-- Two common tables stand for each other. -/
structure TableLike (t t' : CommonTable Value) : Prop where
  name : t.name = t'.name
  spelled : D.Spelled t.name
  query : D.Subquery L t.query t'.query
  columns : Option.Rel (D.Columns L) (t.columns.filter Value.isTruthy) (t'.columns.filter Value.isTruthy)
  recursive : t.recursive = t'.recursive
  materialized : t.materialized = t'.materialized

/-! ## Writes -/

/-- Two columns with new values stand for each other. -/
structure AssignmentLike (e e' : Value × Value) : Prop where
  column : D.Column L e.1 e'.1
  tracked : Tracked e.1 e'.1 e.2 e'.2
  stored : D.Stored L e.2 e'.2

/-- Two columns that move by a step stand for each other. -/
structure CounterLike (c c' : Counter Value) : Prop where
  column : c.column = c'.column
  spelled : D.Spelled c.column
  sign : c.sign = c'.sign
  step : D.Argument L c.step c'.step

/-- What two inserts do to update existing rows stands for each other. -/
inductive MergeLike : Value → Value → Prop
  | assignments {entries entries' : List (Value × Value)}
      (h : Forall₂ (D.AssignmentLike L) entries entries') : MergeLike (.map entries) (.map entries')
  | columns {v : Value} (map : v.entries? = none)
      (h : ∀ items, v.items = .ok items → Forall₂ (D.Column L) items items) : MergeLike v v

/-- What two inserts do about existing rows stands for each other. -/
structure ConflictLike (c c' : Conflict Value) : Prop where
  columns : Forall₂ (D.Column L) c.columns c'.columns
  merge : Option.Rel (D.MergeLike L) c.merge c'.merge

/-- Two cells of a row stand for each other. -/
structure CellLike (c c' : Scope.RowColumn × Value) : Prop where
  column : c.1 = c'.1
  name : D.Column L c.1.name c.1.name
  undefined : c.2.containsUndefined = c'.2.containsUndefined
  stored : D.Stored L c.2 c'.2

/-- What two inserts put in stands for each other: the queries they take rows from, or the rows. -/
inductive SourceLike : Value → Value → Prop
  | query {v v' : Value} (source : Scope.isSource v = true) (source' : Scope.isSource v' = true)
      (h : D.Subquery L v v') : SourceLike v v'
  | rows {v v' : Value} {rows rows' : List Scope.Row} (source : Scope.isSource v = false)
      (source' : Scope.isSource v' = false) (ok : Scope.rowsOf v = .ok rows)
      (ok' : Scope.rowsOf v' = .ok rows') (h : Forall₂ (Forall₂ (D.CellLike L)) rows rows') :
      SourceLike v v'
  | none {v v' : Value} {e e' : Error} (source : Scope.isSource v = false)
      (source' : Scope.isSource v' = false) (error : Scope.rowsOf v = .error e)
      (error' : Scope.rowsOf v' = .error e') (h : D.error e e') : SourceLike v v'

/-! ## Statements -/

/-- The tables of two statements stand for each other. -/
structure FromLike (st st' : Statement Value) : Prop where
  schema : st.schema = st'.schema
  schemaShown : D.SchemaShown st.schema
  table : Option.Rel (D.Column L) st.table st'.table

/-- Two selects stand for each other. -/
structure SelectLike (st st' : Statement Value) : Prop extends D.FromLike L st st' where
  commonTables : Forall₂ (D.TableLike L) st.commonTables st'.commonTables
  projection : Forall₂ (D.ProjectionLike L) st.projection st'.projection
  joins : Forall₂ (D.JoinLike L) st.joins st'.joins
  wheres : D.ConditionsLike L st.wheres st'.wheres
  groups : Forall₂ (D.GroupLike L) st.groups st'.groups
  havings : D.ConditionsLike L st.havings st'.havings
  orders : Forall₂ (D.OrderLike L) st.orders st'.orders
  limit : st.limit = st'.limit
  offset : st.offset = st'.offset
  unions : Forall₂ (D.OperationLike L) st.unions st'.unions
  lock : st.lock = st'.lock
  lockTables : Forall₂ (D.Column L) st.lockTables st'.lockTables
  wait : st.wait = st'.wait

/-- The parts that all writes have stand for each other. -/
structure WriteLike (st st' : Statement Value) : Prop extends D.FromLike L st st' where
  allowed : D.writes
  commonTables : Forall₂ (D.TableLike L) st.commonTables st'.commonTables
  returning : Forall₂ (D.Column L) st.returning st'.returning

/-- Two inserts stand for each other. -/
structure InsertLike (st st' : Statement Value) : Prop extends D.WriteLike L st st' where
  source : D.SourceLike L (st.insert.getD .null) (st'.insert.getD .null)
  conflict : Option.Rel (D.ConflictLike L) st.conflict st'.conflict

/-- Two upserts stand for each other. -/
structure UpsertLike (st st' : Statement Value) : Prop extends D.WriteLike L st st' where
  source : D.SourceLike L (st.upsert.getD .null) (st'.upsert.getD .null)
  conflict : Option.Rel (D.ConflictLike L) st.conflict st'.conflict

/-- Two writes with conditions stand for each other. -/
structure DeleteLike (st st' : Statement Value) : Prop extends D.WriteLike L st st' where
  wheres : D.ConditionsLike L st.wheres st'.wheres

/-- Two updates stand for each other. -/
structure UpdateLike (st st' : Statement Value) : Prop extends D.DeleteLike L st st' where
  lock : st.lock = st'.lock
  wait : st.wait = st'.wait
  values : Forall₂ (D.AssignmentLike L) st.update st'.update
  counters : Forall₂ (D.CounterLike L) st.counters st'.counters

/-- Two truncations stand for each other. -/
structure TruncateLike (st st' : Statement Value) : Prop extends D.FromLike L st st' where
  allowed : D.writes

/-- Two statements of a kind stand for each other, without the comments before them. -/
def BodyLike (method : Method) (st st' : Statement Value) : Prop :=
  match method with
  | .select | .first => D.SelectLike L st st'
  | .insert => D.InsertLike L st st'
  | .update => D.UpdateLike L st st'
  | .delete => D.DeleteLike L st st'
  | .upsert => D.UpsertLike L st st'
  | .truncate => D.TruncateLike L st st'

/-- Two queries stand for each other. -/
structure QueryLike (q q' : Query Value) : Prop where
  context : D.SameContext q.context q'.context
  method : q.statement.method = q'.statement.method
  body : D.BodyLike L q.statement.method q.statement q'.statement
  comments : q.statement.comments = q'.statement.comments
  commentsFit : ∀ comment ∈ q.statement.comments, D.piece (.comment comment)
  asName : q.statement.asName = q'.statement.asName
  fits : ∀ v ∈ q.statement.asName, D.Alias v

/-! ## Raw expressions -/

/-- The values for the slots of a template by position stand for each other. -/
inductive SlotsLike : List Template.Part → List Value → List Value → Prop
  | nil {values values' : List Value} : SlotsLike [] values values'
  | text {cs : List Char} {parts : List Template.Part} {values values' : List Value}
      (h : D.piece (.raw (String.ofList cs))) (rest : SlotsLike parts values values') :
      SlotsLike (.text cs :: parts) values values'
  | value {cs : List Char} {parts : List Template.Part} {v v' : Value} {values values' : List Value}
      (h : D.Argument L v v') (rest : SlotsLike parts values values') :
      SlotsLike (.value cs :: parts) (v :: values) (v' :: values')
  | identifier {cs : List Char} {parts : List Template.Part} {v v' : Value}
      {values values' : List Value} (h : D.Columns L v v') (rest : SlotsLike parts values values') :
      SlotsLike (.identifier cs :: parts) (v :: values) (v' :: values')
  | openValue {cs : List Char} {parts : List Template.Part} (h : D.piece (.raw (String.ofList cs)))
      (rest : SlotsLike parts [] []) : SlotsLike (.value cs :: parts) [] []
  | openIdentifier {cs : List Char} {parts : List Template.Part}
      (h : D.piece (.raw (String.ofList cs))) (rest : SlotsLike parts [] []) :
      SlotsLike (.identifier cs :: parts) [] []

/-- Two values for a slot of a name stand for each other, or the text of the slot may stay. -/
inductive NamedLike (slot : List Char) (R : Value → Value → Prop) : Option Value → Option Value → Prop
  | missing (h : D.piece (.raw (String.ofList slot))) : NamedLike slot R none none
  | undefined (h : D.piece (.raw (String.ofList slot))) : NamedLike slot R (some .undefined) (some .undefined)
  | value {v v' : Value} (present : v ≠ .undefined) (present' : v' ≠ .undefined) (h : R v v') :
      NamedLike slot R (some v) (some v')

/-- What stands in a part of a template with named slots stands for each other. -/
def NamedPartLike (entries entries' : List (Value × Value)) : Template.NamedPart → Prop
  | .text cs => D.piece (.raw (String.ofList cs))
  | .value key =>
    D.NamedLike (':' :: key) (D.Argument L) (Value.get? (String.ofList key) entries)
      (Value.get? (String.ofList key) entries')
  | .identifier key =>
    D.NamedLike (':' :: key ++ [':']) (D.Columns L) (Value.get? (String.ofList key) entries)
      (Value.get? (String.ofList key) entries')

/-- The bindings of two raw expressions with one text stand for each other. -/
inductive BindingsLike (sql : String) : RawBindings Value → RawBindings Value → Prop
  | none (h : D.piece (.raw sql)) : BindingsLike sql (.positional []) (.positional [])
  | positional {values values' : List Value} (free : ¬ D.spaced) (given : values ≠ [])
      (undefined : Forall₂ (fun v v' => v.containsUndefined = v'.containsUndefined) values values')
      (h : D.SlotsLike L (Template.positional sql.toList) values values') :
      BindingsLike sql (.positional values) (.positional values')
  | named {entries entries' : List (Value × Value)} (free : ¬ D.spaced)
      (undefined : Forall₂ (fun e e' => e.1 = e'.1 ∧ e.2.containsUndefined = e'.2.containsUndefined)
        entries entries')
      (h : ∀ part ∈ Template.named sql.toList, D.NamedPartLike L entries entries' part) :
      BindingsLike sql (.named entries) (.named entries')

/-- What stands around a raw expression may stand there. -/
def Around (v : Option Value) : Prop :=
  ∀ text, v.filter Value.isTruthy = some (.str text) → ¬ D.spaced ∧ D.piece (.raw text)

/-- Two raw expressions stand for each other. -/
inductive RawLike : Raw Value → Raw Value → Prop
  /-- references to one name -/
  | reference {r r' : Raw Value} {name : Value} (h : r.reference = some name)
      (h' : r'.reference = some name) (schema : r.schema = r'.schema) (asName : r.asName = r'.asName)
      (columns : D.Columns L name name) (nameShown : D.Shown name)
      (schemaShown : D.SchemaShown r.schema) (aliasShown : D.SchemaShown r.asName) : RawLike r r'
  /-- one text, with something in its slots -/
  | text {r r' : Raw Value} {sql : String} (h : r.reference = none) (h' : r'.reference = none)
      (same : r.sql = .str sql) (same' : r'.sql = .str sql) (before : r.before = r'.before)
      (beforeFits : D.Around r.before) (after : r.after = r'.after) (afterFits : D.Around r.after)
      (bindings : D.BindingsLike L sql r.bindings r'.bindings) : RawLike r r'
  /-- one object in the place of a text -/
  | object {r : Raw Value} (allowed : D.liberal) (h : r.reference = none) (object : r.sql.str? = none) :
      RawLike r r

/-! ## Levels -/

/-- The comparison of what is nested up to a number of levels deep. What is nested too deep has no
rendering, whatever it is. -/
def level : Nat → Level
  | 0 =>
    { outputs := Nested.exhausted.outputs
      query := fun _ _ => True
      raw := fun _ _ => True
      conditions := fun _ _ => True }
  | n + 1 =>
    { outputs := (Nested.ofDepth D.env (n + 1)).outputs
      query := D.QueryLike (level n)
      raw := D.RawLike (level n)
      conditions := D.ConditionsLike (level n) }

/-- Two queries stand for each other, with everything that is nested in them. -/
def Like (q q' : Query Value) : Prop :=
  (D.level nestingLimit).query q q'

end SqlBuilder.Likeness
