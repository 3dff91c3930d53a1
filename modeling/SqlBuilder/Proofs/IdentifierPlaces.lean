import SqlBuilder.Proofs.Clauses
import SqlBuilder.Proofs.Enclosed

/-!
# Places for identifiers

Where a query may stand in the place of an identifier: as a projected column or the operand of an aggregate, as
the table of a select or of a join, as the column of a condition, in a group and in an order; and the same in a
query that itself stands in such a place. Two operands whose renderings differ by parentheses make two selects
that differ by the same ones, as often as the operand is written.

* `ColumnTest`, `ProjectionPlace`, `ClausePlace`: places for an identifier in the clauses of a select.
* `IdentifierPlace`: a query with a place for an identifier, anywhere in it.
* `IdentifierPlace.Shown`: what stands in the place is a part of the text.
* `Scope.Twins`: two operands that differ by parentheses.
* `Scope.conditions_twins`, `Scope.projection_twins` and their like: the clauses around them.
* `Scope.select_twins`: the selects around them.
-/

namespace SqlBuilder

/-! ## Places -/

/-- A test with a place for a column. -/
inductive ColumnTest
  | compare (operator value : Value)
  /-- the first of two columns -/
  | left (operator other : Value)
  /-- the second of two columns -/
  | right (column operator : Value)
  | isIn (values : Value)
  /-- one of the columns of a membership test -/
  | isInRow (columns : Gap Value) (values : Value)
  | isNull
  | between (bounds : List Value)
  | like (pattern : Value) (ignoreCase : Bool)
  | jsonPath (path operator value : Value)
  /-- one of several columns that are compared with values -/
  | pair (entries : Gap (Value × Value)) (value : Value)
  /-- one of several columns that are compared with others, in a join -/
  | joinPair (entries : Gap (Value × Value)) (other : Value)
  /-- one of those that they are compared with -/
  | joinedPair (entries : Gap (Value × Value)) (column : Value)

namespace ColumnTest

/-- The test with an operand in the place. -/
def fill (v : Value) : ColumnTest → Test Value
  | compare operator value => .compare v operator value
  | left operator other => .compareColumns v operator other
  | right column operator => .compareColumns column operator v
  | isIn values => .isIn v values
  | isInRow columns values => .isIn (.list (columns.fill v)) values
  | isNull => .isNull v
  | between bounds => .between v bounds
  | like pattern ignoreCase => .like v pattern ignoreCase
  | jsonPath path operator value => .jsonPath v path operator value
  | pair entries value => .pairs (entries.fill (v, value))
  | joinPair entries other => .joinPairs (entries.fill (v, other))
  | joinedPair entries column => .joinPairs (entries.fill (column, v))

/-- The column is written: it is not compared with an undefined value, nor looked for in an empty list. -/
def Shown : ColumnTest → Prop
  | compare _ value | pair _ value | jsonPath _ _ value | like value _ => value.containsUndefined = false
  | isIn values | isInRow _ values => values.containsUndefined = false ∧ values.sequence? ≠ some []
  | between bounds => (Value.list bounds).containsUndefined = false
  | left _ _ | right _ _ | isNull | joinPair _ _ | joinedPair _ _ => True

end ColumnTest

/-- An entry of a projection with a place for a column. -/
inductive ProjectionPlace
  | column (columns : Gap Value) (role : ColumnRole)
  | aggregate (function : String) (distinct : Bool) (asName : Value)
  /-- one of the columns of an aggregate -/
  | aggregateRow (columns : Gap Value) (function : String) (distinct : Bool) (asName : Value)

/-- The entry with an operand in the place. -/
def ProjectionPlace.fill (v : Value) : ProjectionPlace → Projection Value
  | column columns role => .columns (columns.fill v) role
  | aggregate function distinct asName => .aggregate function v distinct asName
  | aggregateRow columns function distinct asName => .aggregate function (.list (columns.fill v)) distinct asName

/-- A place for an identifier in one clause of a select. -/
inductive ClausePlace
  | projected (entries : Gap (Projection Value)) (place : ProjectionPlace)
  | from_
  | joined (joins : Gap (Join Value)) (j : Join Value)
  | condition (clause : ConditionClause) (conditions : Gap (Condition Value)) (c : Condition Value)
      (place : ColumnTest)
  | joinCondition (joins : Gap (Join Value)) (j : Join Value) (conditions : Gap (Condition Value))
      (c : Condition Value) (place : ColumnTest)
  | grouped (groups : Gap (GroupEntry Value)) (columns : Gap Value)
  | ordered (orders : Gap (OrderEntry Value)) (direction : Value) (nulls : Option NullsOrder)

namespace ClausePlace

/-- The statement with an operand in the place. -/
def fill (v : Value) (st : Statement Value) : ClausePlace → Statement Value
  | projected entries place => { st with projection := entries.fill (place.fill v) }
  | from_ => { st with table := some v }
  | joined joins j => { st with joins := joins.fill { j with table := v, raw := false } }
  | condition clause conditions c place => st.setConditions (conditions.fill { c with test := place.fill v }) clause
  | joinCondition joins j conditions c place =>
    { st with
      joins := joins.fill { j with conditions := conditions.fill { c with test := place.fill v }, raw := false } }
  | grouped groups columns => { st with groups := groups.fill { values := columns.fill v, raw := false } }
  | ordered orders direction nulls => { st with orders := orders.fill (.by_ v direction nulls) }

/-- What stands in the place is a part of the text: no condition stands in a join that has shared columns. -/
def Shown : ClausePlace → Prop
  | condition _ _ _ place => place.Shown
  | joinCondition _ _ conditions _ place =>
    place.Shown ∧ ∀ first ∈ conditions.before.head?, ∀ columns, first.test ≠ .using columns
  | _ => True

end ClausePlace

/-- A query with a place for an identifier. -/
inductive IdentifierPlace
  | clause (q : Query Value) (place : ClausePlace)
  /-- a place in a query that itself stands in a place -/
  | within (outer inner : IdentifierPlace)

/-- A query is a select. -/
def Query.Selects (q : Query Value) : Prop :=
  q.statement.method = .select ∨ q.statement.method = .first

namespace IdentifierPlace

/-- The query with an operand in the place. -/
def fill (v : Value) : IdentifierPlace → Query Value
  | clause q place => q.edit fun st => place.fill v st
  | within outer inner => outer.fill (.query (inner.fill v))

/-- The client of the query around everything. -/
def client : IdentifierPlace → Client Value
  | clause q _ => q.client
  | within outer _ => outer.client

/-- What stands in the place is a part of the text of a select. -/
def Shown : IdentifierPlace → Prop
  | clause q place => q.Selects ∧ place.Shown
  | within outer inner => outer.Shown ∧ inner.Shown

@[simp] theorem fill_client (place : IdentifierPlace) (v : Value) : (place.fill v).client = place.client := by
  induction place generalizing v with
  | clause q place => rfl
  | within outer inner ih _ => exact ih _

end IdentifierPlace

/-! ## Compilations -/

theorem Abreast.foldlM {α β σ τ : Type} {R : Nat → σ → τ → Prop} {P : Nat → α → β → Prop} {f : σ → α → Compile σ}
    {g : τ → β → Compile τ} {m n : Nat} {as : List α} {bs : List β} {a : σ} {b : τ} (h : Counted P n as bs)
    (step : ∀ {k l a b x y}, R k a b → P l x y → Abreast (R (k + l)) (f a x) (g b y)) (begun : R m a b) :
    Abreast (R (m + n)) (as.foldlM f a) (bs.foldlM g b) := by
  induction h generalizing m a b with
  | nil => exact .pure begun
  | cons first _ ih =>
    rw [List.foldlM_cons, List.foldlM_cons, ← Nat.add_assoc]
    exact (step begun first).bind fun _ _ next => ih next

/-! ## Operands -/

namespace Operand

variable {Part : Sql → Prop} {n : Nat} {o o' : Operand}

/-- Two operands are one object, or fragments that differ by parentheses. -/
inductive Enclosed (Part : Sql → Prop) : Nat → Operand → Operand → Prop
  | sql {n : Nat} {a b : Sql} (h : Sql.Enclosed Part n a b) : Enclosed Part n (.sql a) (.sql b)
  | object (v : Value) : Enclosed Part 0 (.object v) (.object v)

theorem Enclosed.same (o : Operand) : Enclosed Part 0 o o := by
  cases o with
  | sql sql => exact .sql (.same sql)
  | object v => exact .object v

theorem Enclosed.isBlank (firm : Sql.Firm Part) (h : Enclosed Part n o o') : o.isBlank = o'.isBlank := by
  cases h with
  | sql h => exact h.isBlank firm
  | object v => rfl

theorem Enclosed.orNothing (h : Enclosed Part n o o') : Enclosed Part n o.orNothing o'.orNothing := by
  cases h with
  | sql h => exact .sql h
  | object v => exact .same _

theorem Enclosed.textual (h : Enclosed Part n o o') : Abreast (Sql.Enclosed Part n) o.textual o'.textual := by
  cases h with
  | sql h => exact .pure h
  | object v => exact .throw _ _

theorem Enclosed.spell (s : Scope) (h : Enclosed Part n o o') : Abreast (Sql.Enclosed Part n) (s.spell o) (s.spell o') := by
  cases h with
  | sql h => exact .pure h
  | object v => exact .refl .same _

theorem Enclosed.textuals {os os' : List Operand} (h : Counted (Enclosed Part) n os os') :
    Abreast (Counted (Sql.Enclosed Part) n) (os.mapM Operand.textual) (os'.mapM Operand.textual) := by
  refine .mapM ?_
  induction h with
  | nil => exact .nil
  | cons first _ ih => exact .cons first.textual ih

end Operand

/-- A callback or a query. -/
inductive Value.IsNested : Value → Prop
  | callback (chains : List Chain) : IsNested (.callback chains)
  | query (q : Query Value) : IsNested (.query q)

namespace Scope

variable {s : Scope} {Part : Sql → Prop} {n : Nat} {v v' : Value}

/-- Two callbacks or queries that differ by a number of parentheses, in the place of an identifier. -/
structure Twins (s : Scope) (Part : Sql → Prop) (n : Nat) (v v' : Value) : Prop where
  nested : v.IsNested
  nested' : v'.IsNested
  operand : Abreast (Operand.Enclosed Part n) (s.wrapOperand v) (s.wrapOperand v')

theorem wrap_twins (h : s.Twins Part n v v') : Abreast (Sql.Enclosed Part n) (s.wrap v) (s.wrap v') :=
  h.operand.bind fun _ _ ho => ho.spell s

theorem wrapOperands_twins (h : s.Twins Part n v v') (columns : Gap Value) :
    Abreast (Counted (Operand.Enclosed Part) n) ((columns.fill v).mapM s.wrapOperand)
      ((columns.fill v').mapM s.wrapOperand) :=
  .mapM (.fill (fun _ => .refl .same _) columns h.operand)

theorem columnizeAll_twins (h : s.Twins Part n v v') (columns : Gap Value) :
    Abreast (Sql.Enclosed Part n) (s.columnizeAll (columns.fill v)) (s.columnizeAll (columns.fill v')) :=
  (wrapOperands_twins h columns).bind fun _ _ hos =>
    (Operand.Enclosed.textuals hos).bind fun _ _ hs => .pure (hs.joined _)

theorem columnize_twins (h : s.Twins Part n v v') : Abreast (Sql.Enclosed Part n) (s.columnize v) (s.columnize v') := by
  have single {w : Value} (nested : w.IsNested) : w.columnList = Gap.fill {} w := by
    cases nested <;> rfl
  rw [columnize, columnize, single h.nested, single h.nested']
  exact columnizeAll_twins h {}

/-! ## Tests -/

theorem trackUndefined_of_defined {column value : Value} (defined : value.containsUndefined = false) :
    s.trackUndefined column value = pure () := by
  rw [trackUndefined, defined]
  rfl

theorem compare_twins (h : s.Twins Part n v v') {operator value : Value} (defined : value.containsUndefined = false) :
    Abreast (Sql.Enclosed Part n) (s.compare v operator value) (s.compare v' operator value) := by
  unfold compare
  refine (wrap_twins h).bind fun a a' ha => ?_
  rw [trackUndefined_of_defined defined, trackUndefined_of_defined defined]
  exact .after fun _ => .after fun _ => .after fun _ => .pure ((Counted.cons ha (.refl .same _)).joined _)

theorem compareColumns_left (h : s.Twins Part n v v') (operator other : Value) :
    Abreast (Sql.Enclosed Part n) (s.compareColumns v operator other) (s.compareColumns v' operator other) :=
  (wrap_twins h).bind fun _ _ ha => .after fun _ => .after fun _ =>
    .pure ((Counted.cons ha (.refl .same _)).joined _)

theorem compareColumns_right (h : s.Twins Part n v v') (column operator : Value) :
    Abreast (Sql.Enclosed Part n) (s.compareColumns column operator v) (s.compareColumns column operator v') :=
  .after fun a => .after fun b => (wrap_twins h).bind fun _ _ hc =>
    .pure ((Counted.fill .same { before := [a, b] } hc).joined _)

/-- What a membership test looks for: a column, or several ones in parentheses. -/
def memberTarget (s : Scope) (column : Value) : Compile Sql :=
  match column.sequence? with
  | some columns => do return (← s.columnizeAll columns).parens
  | none => s.wrap column

theorem membership_of_ne_nil {values : Value} (filled : values.sequence? ≠ some []) (negated : Bool) (column : Value) :
    s.membership negated column values = do
      let target ← s.memberTarget column
      s.trackUndefined column values
      return target ++ Sql.word (if negated then " not in " else " in ") ++ (← s.values values) := by
  unfold membership memberTarget
  split
  next empty => exact absurd empty filled
  next => cases column.sequence? <;> simp

theorem membership_twins {column column' values : Value} {negated : Bool} (defined : values.containsUndefined = false)
    (filled : values.sequence? ≠ some [])
    (h : Abreast (Sql.Enclosed Part n) (s.memberTarget column) (s.memberTarget column')) :
    Abreast (Sql.Enclosed Part n) (s.membership negated column values) (s.membership negated column' values) := by
  rw [membership_of_ne_nil filled, membership_of_ne_nil filled]
  refine h.bind fun a a' ha => ?_
  rw [trackUndefined_of_defined defined, trackUndefined_of_defined defined]
  exact .after fun _ => .after fun _ => .pure ((ha.before _).before _)

theorem range_twins (h : s.Twins Part n v v') {negated : Bool} {bounds : List Value}
    (defined : (Value.list bounds).containsUndefined = false) :
    Abreast (Sql.Enclosed Part n) (s.range negated v bounds) (s.range negated v' bounds) := by
  unfold range
  refine (wrap_twins h).bind fun a a' ha => ?_
  rw [trackUndefined_of_defined defined, trackUndefined_of_defined defined]
  exact .after fun _ => .after fun _ => .after fun _ => .pure ((((ha.before _).before _).before _).before _)

theorem jsonExtract_twins (h : s.Twins Part n v v') (path : Value) :
    Abreast (Sql.Enclosed Part n) (s.jsonExtract v path) (s.jsonExtract v' path) :=
  (columnize_twins h).bind fun _ _ ha => .after fun _ =>
    .pure ((((ha.after _).before _).before _).before _)

theorem jsonOperand_enclosed {a b : Sql} (h : Sql.Enclosed Part n a b) (style : JsonPathStyle) (value : Value) :
    Sql.Enclosed Part n (jsonOperand style value a) (jsonOperand style value b) := by
  unfold jsonOperand
  split
  · split
    · exact ((h.before _).parens).before _
    · exact ((h.before _).parens).before _
    · exact h.before _
  · split
    · exact h.parens.after _
    · exact h
  · exact h

theorem jsonCompare_twins (h : s.Twins Part n v v') {path operator value : Value}
    (defined : value.containsUndefined = false) :
    Abreast (Sql.Enclosed Part n) (s.jsonCompare v path operator value) (s.jsonCompare v' path operator value) := by
  unfold jsonCompare
  rw [trackUndefined_of_defined defined, trackUndefined_of_defined defined]
  refine .after fun _ => (jsonExtract_twins h path).bind fun a a' ha => .after fun _ => .after fun _ => .pure ?_
  exact (Counted.cons (jsonOperand_enclosed ha _ value) (.refl .same _)).joined _

theorem pairTests_twins (h : s.Twins Part n v v') (entries : Gap (Value × Value)) {value : Value}
    (defined : value.containsUndefined = false) :
    Abreast (Sql.Enclosed Part n) (s.pairTests (entries.fill (v, value))) (s.pairTests (entries.fill (v', value))) := by
  unfold pairTests
  refine (Abreast.mapM (.fill (fun _ => .refl .same _) entries ?_)).bind fun _ _ hs => .pure (hs.joined _)
  dsimp only
  split
  · exact (wrap_twins h).bind fun _ _ ha => .pure (ha.before _)
  · exact compare_twins h defined

theorem pairColumns_twins {e e' : Value × Value} (entries : Gap (Value × Value))
    (h : Abreast (Sql.Enclosed Part n) (s.compareColumns e.1 (.str "=") e.2) (s.compareColumns e'.1 (.str "=") e'.2)) :
    Abreast (Sql.Enclosed Part n) (s.pairColumns (entries.fill e)) (s.pairColumns (entries.fill e')) :=
  (Abreast.mapM (.fill (fun _ => .refl .same _) entries h)).bind fun _ _ hs => .pure (hs.joined _)

theorem negatable_enclosed {a b : Sql} (h : Sql.Enclosed Part n a b) (negated : Bool) :
    Sql.Enclosed Part n (negatable negated a) (negatable negated b) :=
  h.after _

variable (firm : Sql.Firm Part)

include firm

theorem group_enclosed {a b : Sql} (h : Sql.Enclosed Part n a b) (negated : Bool) :
    Sql.Enclosed Part n (group negated a) (group negated b) := by
  unfold group
  rw [h.isBlank firm]
  split
  · exact h
  · exact negatable_enclosed h.parens negated

/-- A test with one of two operands as a column. -/
theorem test_twins (h : s.Twins Part n v v') {place : ColumnTest} (shown : place.Shown) (clause : ConditionClause)
    (negated : Bool) :
    Abreast (Sql.Enclosed Part n) (s.test clause negated (place.fill v)) (s.test clause negated (place.fill v')) := by
  cases place with
  | compare operator value =>
    exact (compare_twins h shown).bind fun _ _ ha => .pure (negatable_enclosed ha negated)
  | left operator other =>
    exact (compareColumns_left h operator other).bind fun _ _ ha => .pure (negatable_enclosed ha negated)
  | right column operator =>
    exact (compareColumns_right h column operator).bind fun _ _ ha => .pure (negatable_enclosed ha negated)
  | isIn values =>
    have single {w : Value} (nested : w.IsNested) : s.memberTarget w = s.wrap w := by
      cases nested <;> rfl
    refine membership_twins shown.1 shown.2 ?_
    rw [single h.nested, single h.nested']
    exact wrap_twins h
  | isInRow columns values =>
    have several : Abreast (Sql.Enclosed Part n) (s.memberTarget (.list (columns.fill v)))
        (s.memberTarget (.list (columns.fill v'))) :=
      (columnizeAll_twins h columns).bind fun _ _ ha => .pure ha.parens
    exact membership_twins shown.1 shown.2 several
  | isNull => exact (wrap_twins h).bind fun _ _ ha => .pure (ha.before _)
  | between bounds => exact range_twins h shown
  | like pattern ignoreCase =>
    refine (wrap_twins h).bind fun a a' ha => ?_
    rw [trackUndefined_of_defined shown, trackUndefined_of_defined shown]
    exact .after fun _ => .after fun _ => .pure (negatable_enclosed ((Counted.cons ha (.refl .same _)).joined _) negated)
  | jsonPath path operator value =>
    exact (jsonCompare_twins h shown).bind fun _ _ ha => .pure (negatable_enclosed ha negated)
  | pair entries value =>
    exact (pairTests_twins h entries shown).bind fun _ _ ha => .pure (group_enclosed firm ha negated)
  | joinPair entries other =>
    exact (pairColumns_twins entries (compareColumns_left h _ other)).bind fun _ _ ha =>
      .pure (group_enclosed firm ha negated)
  | joinedPair entries column =>
    exact (pairColumns_twins entries (compareColumns_right h column _)).bind fun _ _ ha =>
      .pure (group_enclosed firm ha negated)

/-! ## Conditions -/

omit firm in
/-- A test with a column in a place is no raw expression, and shares no columns. -/
theorem condition_fill (clause : ConditionClause) (c : Condition Value) (place : ColumnTest) (w : Value) :
    s.condition clause { c with test := place.fill w } = do return .sql (← s.test clause c.negated (place.fill w)) := by
  cases place <;> rfl

theorem conjoin_twins {m : Nat} {done done' : Sql} {c c' : Condition Value} {o o' : Operand}
    (same : s.conjunction c = s.conjunction c') (begun : Sql.Enclosed Part m done done')
    (h : Operand.Enclosed Part n o o') :
    Abreast (Sql.Enclosed Part (m + n)) (s.conjoin done c o) (s.conjoin done' c' o') := by
  unfold conjoin
  rw [h.isBlank firm, begun.isBlank firm, same]
  split
  · exact (h.orNothing.spell s).bind fun _ _ ha => .pure (begun.append ha)
  · split
    · exact h.textual.bind fun _ _ ha => .pure (begun.append ha)
    · exact .after fun _ => (h.spell s).bind fun _ _ ha =>
        .pure (((((begun.before _).before _).before _)).append ha)

/-- Conditions that are rendered by themselves, and then joined. -/
theorem conditions_twins (h : s.Twins Part n v v') {place : ColumnTest} (shown : place.Shown) (clause : ConditionClause)
    (gap : Gap (Condition Value)) (c : Condition Value) :
    Abreast (Sql.Enclosed Part n) (s.conditions clause (gap.fill { c with test := place.fill v }))
      (s.conditions clause (gap.fill { c with test := place.fill v' })) := by
  let Alike (k : Nat) (c c' : Condition Value) : Prop := s.conjunction c = s.conjunction c' ∧
    Abreast (Operand.Enclosed Part k) (s.condition clause c) (s.condition clause c')
  have all : Counted Alike n (gap.fill { c with test := place.fill v }) (gap.fill { c with test := place.fill v' }) := by
    refine .fill (fun _ => ⟨rfl, .refl .same _⟩) gap ⟨rfl, ?_⟩
    rw [condition_fill, condition_fill]
    exact (test_twins firm h shown clause c.negated).bind fun _ _ ha => .pure (.sql ha)
  have whole := Abreast.foldlM (R := Sql.Enclosed Part)
    (f := fun done c => do s.conjoin done c (← s.condition clause c))
    (g := fun done c => do s.conjoin done c (← s.condition clause c)) all
    (fun begun alike => alike.2.bind fun _ _ ho => conjoin_twins firm alike.1 begun ho) (.same [])
  rwa [Nat.zero_add] at whole

theorem conditionClause_twins (h : s.Twins Part n v v') {place : ColumnTest} (shown : place.Shown)
    (clause : ConditionClause) (keyword : String) (gap : Gap (Condition Value)) (c : Condition Value) :
    Abreast (Sql.Enclosed Part n) (s.conditionClause clause keyword (gap.fill { c with test := place.fill v }))
      (s.conditionClause clause keyword (gap.fill { c with test := place.fill v' })) :=
  (conditions_twins firm h shown clause gap c).bind fun _ _ ha => .pure (ha.after_keyword firm _)

omit firm in
/-- The conditions of a join without shared columns. -/
theorem joinConditions_of_open {cs : List (Condition Value)}
    (open_ : ∀ first ∈ cs.head?, ∀ columns, first.test ≠ .using columns) :
    s.joinConditions cs = do
      let sql ← s.conditions .where_ cs
      return if Text.startsWith sql.text " using" then sql else sql.after " on " := by
  unfold joinConditions
  split
  next columns rest => exact absurd rfl (open_ _ rfl columns)
  next => rfl

theorem joinConditions_twins (h : s.Twins Part n v v') {place : ColumnTest} (shown : place.Shown)
    (gap : Gap (Condition Value)) (open_ : ∀ first ∈ gap.before.head?, ∀ columns, first.test ≠ .using columns)
    (c : Condition Value) :
    Abreast (Sql.Enclosed Part n) (s.joinConditions (gap.fill { c with test := place.fill v }))
      (s.joinConditions (gap.fill { c with test := place.fill v' })) := by
  have first (w : Value) : ∀ first ∈ (gap.fill { c with test := place.fill w }).head?, ∀ columns,
      first.test ≠ .using columns := by
    obtain ⟨before, after⟩ := gap
    cases before with
    | nil =>
      rintro _ ⟨⟩ columns
      cases place <;> nofun
    | cons c' before => exact open_
  rw [joinConditions_of_open (first v), joinConditions_of_open (first v')]
  refine (conditions_twins firm h shown .where_ gap c).bind fun a a' ha => .pure ?_
  rw [ha.startsWith_using firm]
  split
  · exact ha
  · exact ha.after_keyword firm _

/-! ## The projection -/

omit firm in
theorem aggregateOperand_of_nested {w : Value} (nested : w.IsNested) (asName : Value) :
    aggregateOperand w asName = (w, asName) ∧ w.sequence? = none := by
  cases nested <;> exact ⟨rfl, rfl⟩

omit firm in
theorem aliasedIf_twins {a b : Sql} (h : Sql.Enclosed Part n a b) (asName : Value) :
    Abreast (Sql.Enclosed Part n) (s.aliasedIf a asName) (s.aliasedIf b asName) := by
  unfold aliasedIf
  split
  · exact .after fun _ => .pure ((h.before _).before _)
  · exact .pure h

omit firm in
theorem aggregate_twins (h : s.Twins Part n v v') (function : String) (distinct : Bool) (asName : Value) :
    Abreast (Sql.Enclosed Part n) (s.aggregate function v distinct asName) (s.aggregate function v' distinct asName) := by
  obtain ⟨same, single⟩ := aggregateOperand_of_nested h.nested asName
  obtain ⟨same', single'⟩ := aggregateOperand_of_nested h.nested' asName
  unfold aggregate
  simp only [same, single, same', single']
  exact (wrap_twins h).bind fun _ _ ha => aliasedIf_twins ((ha.after _).before _) asName

omit firm in
theorem aggregateRow_twins (h : s.Twins Part n v v') (columns : Gap Value) (function : String) (distinct : Bool)
    (asName : Value) :
    Abreast (Sql.Enclosed Part n) (s.aggregate function (.list (columns.fill v)) distinct asName)
      (s.aggregate function (.list (columns.fill v')) distinct asName) :=
  (columnizeAll_twins h columns).bind fun _ _ ha => aliasedIf_twins ((ha.after _).before _) asName

omit firm in
theorem distinctOnColumns_fill (entries : Gap (Projection Value)) (e : Projection Value) :
    distinctOnColumns (entries.fill e) =
      distinctOnColumns entries.before ++ (distinctOnColumns [e] ++ distinctOnColumns entries.after) := by
  simp [distinctOnColumns, Gap.fill]

/-- What a projection of some entries says, if what it says about distinct rows and what the entries render to
differ by parentheses. -/
theorem projection_of_entries {m : Nat} {entries entries' : List (Projection Value)}
    (distinct : Abreast (Sql.Enclosed Part m) (s.distinctClause entries) (s.distinctClause entries'))
    (each : Abreast (Counted (Counted (Operand.Enclosed Part)) n) (entries.mapM s.projectionEntry)
      (entries'.mapM s.projectionEntry)) (limit offset : Option Nat) :
    Abreast (Sql.Enclosed Part (m + n)) (s.projection entries limit offset) (s.projection entries' limit offset) := by
  unfold projection
  refine distinct.bind fun a a' ha => .after fun top => each.bind fun os os' hos =>
    (Operand.Enclosed.textuals hos.flatten).bind fun cs cs' hcs => .pure ?_
  have columns : Sql.Enclosed Part n (Sql.commas cs) (Sql.commas cs') := hcs.joined _
  have head := (ha.after (Sql.word "select ")).before top
  rw [columns.isBlank firm]
  split
  · exact head.append (columns.before _)
  · exact head.append columns

/-- An entry with one of two operands in it, which is not for distinct rows by itself. -/
theorem projection_of_entry {e e' : Projection Value} (entries : Gap (Projection Value))
    (asks : asksDistinct e = asksDistinct e') (plain : asksDistinctOn e = false) (plain' : asksDistinctOn e' = false)
    (h : Abreast (Counted (Operand.Enclosed Part) n) (s.projectionEntry e) (s.projectionEntry e'))
    (limit offset : Option Nat) :
    Abreast (Sql.Enclosed Part n) (s.projection (entries.fill e) limit offset)
      (s.projection (entries.fill e') limit offset) := by
  have none_ {e : Projection Value} (plain : asksDistinctOn e = false) : distinctOnColumns [e] = [] := by
    cases e with
    | columns values role => cases role <;> first | rfl | cases plain
    | _ => rfl
  have same : s.distinctClause (entries.fill e) = s.distinctClause (entries.fill e') := by
    unfold distinctClause
    rw [distinctOnColumns_fill, distinctOnColumns_fill, none_ plain, none_ plain']
    simp only [Gap.fill, List.any_append, List.any_cons, asks, plain, plain']
  have distinct : Abreast (Sql.Enclosed Part 0) (s.distinctClause (entries.fill e)) (s.distinctClause (entries.fill e')) :=
    same ▸ .refl .same _
  have whole := projection_of_entries firm (n := n) distinct
    (.mapM (.fill (fun _ => .refl (.refl .same) _) entries h)) limit offset
  rwa [Nat.zero_add] at whole

/-- An entry for rows that differ in some columns, one of which is one of two operands. -/
theorem projection_of_distinctOn (h : s.Twins Part n v v') (entries : Gap (Projection Value)) (columns : Gap Value)
    (limit offset : Option Nat) :
    Abreast (Sql.Enclosed Part n) (s.projection (entries.fill (.columns (columns.fill v) .distinctOn)) limit offset)
      (s.projection (entries.fill (.columns (columns.fill v') .distinctOn)) limit offset) := by
  let whole : Gap Value :=
    { before := distinctOnColumns entries.before ++ columns.before
      after := columns.after ++ distinctOnColumns entries.after }
  have all (w : Value) : distinctOnColumns (entries.fill (.columns (columns.fill w) .distinctOn)) = whole.fill w := by
    rw [distinctOnColumns_fill]
    simp [distinctOnColumns, Gap.fill, whole]
  have asks (w : Value) : (entries.fill (.columns (columns.fill w) .distinctOn)).any asksDistinctOn = true := by
    simp [Gap.fill, asksDistinctOn]
  have distinct : Abreast (Sql.Enclosed Part n)
      (s.distinctClause (entries.fill (.columns (columns.fill v) .distinctOn)))
      (s.distinctClause (entries.fill (.columns (columns.fill v') .distinctOn))) := by
    unfold distinctClause
    rw [if_pos (asks v), if_pos (asks v'), all, all]
    have named := (columnizeAll_twins h whole).bind fun _ _ ha =>
      .pure ((ha.parens.after (Sql.word "distinct on ")).before (Sql.word " "))
    by_cases foreign : (!s.capabilities.supportsDistinctOn) = true
    · simp only [if_pos foreign]
      exact .after fun _ => named
    · simp only [if_neg foreign]
      exact named
  exact projection_of_entries firm (n := 0) distinct
    (.mapM (.fill (fun _ => .refl (.refl .same) _) entries (.pure .nil))) limit offset

theorem projection_twins (h : s.Twins Part n v v') (entries : Gap (Projection Value)) (place : ProjectionPlace)
    (limit offset : Option Nat) :
    Abreast (Sql.Enclosed Part n) (s.projection (entries.fill (place.fill v)) limit offset)
      (s.projection (entries.fill (place.fill v')) limit offset) := by
  have single {a b : Sql} (ha : Sql.Enclosed Part n a b) :
      Counted (Operand.Enclosed Part) n [Operand.sql a] [Operand.sql b] :=
    .cons (.sql ha) .nil
  cases place with
  | column columns role =>
    cases role with
    | distinctOn => exact projection_of_distinctOn firm h entries columns limit offset
    | plain =>
      refine projection_of_entry firm entries (by rfl) (by rfl) (by rfl) ?_ limit offset
      exact wrapOperands_twins h columns
    | distinct =>
      refine projection_of_entry firm entries (by rfl) (by rfl) (by rfl) ?_ limit offset
      exact wrapOperands_twins h columns
  | aggregate function distinct asName =>
    refine projection_of_entry firm entries (by rfl) (by rfl) (by rfl) ?_ limit offset
    exact (aggregate_twins h function distinct asName).bind fun _ _ ha => .pure (single ha)
  | aggregateRow columns function distinct asName =>
    refine projection_of_entry firm entries (by rfl) (by rfl) (by rfl) ?_ limit offset
    exact (aggregateRow_twins h columns function distinct asName).bind fun _ _ ha => .pure (single ha)

/-! ## Tables -/

omit firm in
theorem tableIn_twins (h : s.Twins Part n v v') (schema : Option Value) :
    Abreast (Sql.Enclosed Part n) (s.tableIn schema v) (s.tableIn schema v') := by
  have same {w : Value} (nested : w.IsNested) : s.tableIn schema w = s.wrap w := by
    cases nested <;> rfl
  rw [same h.nested, same h.nested']
  exact wrap_twins h

omit firm in
theorem fromClause_twins (h : s.Twins Part n v v') (st : Statement Value) :
    Abreast (Sql.Enclosed Part n) (s.fromClause { st with table := some v })
      (s.fromClause { st with table := some v' }) :=
  (tableIn_twins h st.schema).bind fun _ _ ha => .after fun _ => .pure ((ha.after _).before _)

omit firm in
theorem joinClause_of_join {j j' : Join Value} (joins : Gap (Join Value))
    (h : Abreast (Operand.Enclosed Part n) (s.join j) (s.join j')) :
    Abreast (Sql.Enclosed Part n) (s.joinClause (joins.fill j)) (s.joinClause (joins.fill j')) :=
  (Abreast.mapM (.fill (fun _ => .refl .same _) joins h)).bind fun _ _ hos =>
    (Operand.Enclosed.textuals hos).bind fun _ _ hs => .pure (hs.joined _)

omit firm in
theorem join_table (h : s.Twins Part n v v') (j : Join Value) :
    Abreast (Operand.Enclosed Part n) (s.join { j with table := v, raw := false })
      (s.join { j with table := v', raw := false }) :=
  (tableIn_twins h j.schema).bind fun _ _ ha => .after fun _ => .pure (.sql ((ha.after _).before _))

theorem join_condition (h : s.Twins Part n v v') {place : ColumnTest} (shown : place.Shown) (j : Join Value)
    (gap : Gap (Condition Value)) (open_ : ∀ first ∈ gap.before.head?, ∀ columns, first.test ≠ .using columns)
    (c : Condition Value) :
    Abreast (Operand.Enclosed Part n)
      (s.join { j with conditions := gap.fill { c with test := place.fill v }, raw := false })
      (s.join { j with conditions := gap.fill { c with test := place.fill v' }, raw := false }) :=
  .after fun _ => (joinConditions_twins firm h shown gap open_ c).bind fun _ _ ha => .pure (.sql (ha.after _))

/-! ## Groups and orders -/

omit firm in
theorem groupClause_twins (h : s.Twins Part n v v') (groups : Gap (GroupEntry Value)) (columns : Gap Value) :
    Abreast (Sql.Enclosed Part n) (s.groupClause (groups.fill { values := columns.fill v, raw := false }))
      (s.groupClause (groups.fill { values := columns.fill v', raw := false })) := by
  have filled (e : GroupEntry Value) : (groups.fill e).isEmpty = false := by
    simp [Gap.fill]
  have entry : Abreast (Counted (Operand.Enclosed Part) n) (s.groupEntry { values := columns.fill v, raw := false })
      (s.groupEntry { values := columns.fill v', raw := false }) :=
    (columnizeAll_twins h columns).bind fun _ _ ha => .pure (.cons (.sql ha) .nil)
  unfold groupClause
  rw [filled, filled]
  exact (Abreast.mapM (.fill (fun _ => .refl (.refl .same) _) groups entry)).bind fun _ _ hos =>
    (Operand.Enclosed.textuals hos.flatten).bind fun _ _ hs => .pure ((hs.joined _).after _)

/-- An order by one of two operands, which is written once or twice. -/
theorem orderBy_twins (h : s.Twins Part n v v') (direction : Value) (nulls : Option NullsOrder) :
    ∃ m, n ≤ m ∧ Abreast (Sql.Enclosed Part m) (s.orderBy v direction nulls) (s.orderBy v' direction nulls) := by
  unfold orderBy
  cases nulls with
  | none => exact ⟨n, le_rfl, (wrap_twins h).bind fun _ _ ha => .after fun _ => .pure ((ha.before _).before _)⟩
  | some nulls =>
    by_cases native : s.capabilities.nativeNullsOrdering = true
    · simp only [if_pos native]
      exact ⟨n, le_rfl, (wrap_twins h).bind fun _ _ ha => .after fun _ =>
        .pure (((ha.before _).before _).before _)⟩
    · simp only [if_neg native]
      -- Emulated nulls write the operand twice, the second time without its values.
      refine ⟨n + n, Nat.le_add_left .., (wrap_twins h).bind fun a a' ha => .after fun _ => .pure ?_⟩
      exact ((((ha.before _).parens.before _).append (ha.frozen firm)).before _).before _

theorem orderClause_twins (h : s.Twins Part n v v') (orders : Gap (OrderEntry Value)) (direction : Value)
    (nulls : Option NullsOrder) :
    ∃ m, n ≤ m ∧ Abreast (Sql.Enclosed Part m) (s.orderClause (orders.fill (.by_ v direction nulls)))
      (s.orderClause (orders.fill (.by_ v' direction nulls))) := by
  obtain ⟨m, most, by_⟩ := orderBy_twins firm h direction nulls
  have filled (e : OrderEntry Value) : (orders.fill e).isEmpty = false := by
    simp [Gap.fill]
  have entry : Abreast (Operand.Enclosed Part m) (s.orderEntry (.by_ v direction nulls))
      (s.orderEntry (.by_ v' direction nulls)) :=
    by_.bind fun _ _ ha => .pure (.sql ha)
  unfold orderClause
  rw [filled, filled]
  exact ⟨m, most, (Abreast.mapM (.fill (fun _ => .refl .same _) orders entry)).bind fun _ _ hos =>
    (Operand.Enclosed.textuals hos).bind fun _ _ hs => .pure ((hs.joined _).after _)⟩

/-! ## Selects -/

/-- The clauses of a select that have blanks between them. -/
def selectClauses (s : Scope) (st : Statement Value) : List (Compile Sql) :=
  [s.withClause st.commonTables, s.projection st.projection st.limit st.offset, s.fromClause st,
    s.joinClause st.joins, s.conditionClause .where_ "where" st.wheres, s.groupClause st.groups,
    s.conditionClause .having "having" st.havings, s.orderClause st.orders]

/-- The clauses of a select that begin with a blank. -/
def selectEnds (s : Scope) (st : Statement Value) : List (Compile Sql) :=
  [s.paging st, s.unionClause st.unions, s.lockClause st]

omit firm in
/-- A select is its clauses, one after the other. -/
theorem select_eq (st : Statement Value) : s.select st = do
    let clauses ← (s.selectClauses st).mapM id
    let ends ← (s.selectEnds st).mapM id
    return Sql.separated " " clauses ++ ends.flatten := by
  simp [select, selectClauses, selectEnds, List.append_assoc]

/-- Two selects that differ in one clause. -/
theorem select_of_clause {st st' : Statement Value} {c c' : Compile Sql} (gap : Gap (Compile Sql))
    (h : Abreast (Sql.Enclosed Part n) c c') (left : s.selectClauses st = gap.fill c)
    (right : s.selectClauses st' = gap.fill c') (ends : s.selectEnds st = s.selectEnds st') :
    Abreast (Sql.Enclosed Part n) (s.select st) (s.select st') := by
  rw [select_eq, select_eq, left, right, ends]
  refine (Abreast.mapM (R := Sql.Enclosed Part) (.fill (fun _ => .refl .same _) gap h)).bind fun _ _ hcs => .after fun _ =>
    .pure ((hcs.separated firm _).before _)

/-- The clauses around one of those that have blanks between them. -/
def clausesAround (s : Scope) (st : Statement Value) (i : Nat) : Gap (Compile Sql) where
  before := (s.selectClauses st).take i
  after := (s.selectClauses st).drop (i + 1)

omit firm in
/-- The window of rows of a select depends on whether it has an order, but not on which. -/
theorem paging_ordered (st : Statement Value) {orders orders' : List (OrderEntry Value)}
    (same : orders.isEmpty = orders'.isEmpty) :
    s.paging { st with orders := orders } = s.paging { st with orders := orders' } := by
  unfold paging
  dsimp only
  rw [same]

/-- Two selects that differ in a place for an identifier differ by as many parentheses as the operands there,
or by more if these are written again. -/
theorem select_twins (h : s.Twins Part n v v') {place : ClausePlace} (shown : place.Shown) (st : Statement Value) :
    ∃ m, n ≤ m ∧ Abreast (Sql.Enclosed Part m) (s.select (place.fill v st)) (s.select (place.fill v' st)) := by
  cases place with
  | projected entries place =>
    exact ⟨n, le_rfl, select_of_clause firm (s.clausesAround st 1) (projection_twins firm h entries place _ _)
      rfl rfl rfl⟩
  | from_ => exact ⟨n, le_rfl, select_of_clause firm (s.clausesAround st 2) (fromClause_twins h st) rfl rfl rfl⟩
  | joined joins j =>
    exact ⟨n, le_rfl, select_of_clause firm (s.clausesAround st 3) (joinClause_of_join joins (join_table h j))
      rfl rfl rfl⟩
  | condition clause conditions c place =>
    cases clause with
    | where_ =>
      exact ⟨n, le_rfl, select_of_clause firm (s.clausesAround st 4)
        (conditionClause_twins firm h shown .where_ "where" conditions c) rfl rfl rfl⟩
    | having =>
      exact ⟨n, le_rfl, select_of_clause firm (s.clausesAround st 6)
        (conditionClause_twins firm h shown .having "having" conditions c) rfl rfl rfl⟩
  | joinCondition joins j conditions c place =>
    exact ⟨n, le_rfl, select_of_clause firm (s.clausesAround st 3) (joinClause_of_join joins
      (join_condition firm h shown.1 j conditions shown.2 c)) rfl rfl rfl⟩
  | grouped groups columns =>
    exact ⟨n, le_rfl, select_of_clause firm (s.clausesAround st 5) (groupClause_twins h groups columns) rfl rfl rfl⟩
  | ordered orders direction nulls =>
    obtain ⟨m, most, ordered⟩ := orderClause_twins firm h orders direction nulls
    have filled (e : OrderEntry Value) : (orders.fill e).isEmpty = false := by
      simp [Gap.fill]
    have pages := s.paging_ordered st ((filled (.by_ v direction nulls)).trans (filled (.by_ v' direction nulls)).symm)
    exact ⟨m, most, select_of_clause firm (s.clausesAround st 7) ordered rfl rfl (congrArg (· :: _) pages)⟩

end Scope

end SqlBuilder
