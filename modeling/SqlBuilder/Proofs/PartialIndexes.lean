import SqlBuilder.Proofs.ConstraintRebuilds
import SqlBuilder.Proofs.Enclosed
import SqlBuilder.Proofs.GuardedStatements
import SqlBuilder.Proofs.Locks
import SqlBuilder.Proofs.WrittenOut

/-!
# Partial indexes

The rows that an index covers are given by the conditions of a query. They are rendered by themselves, without the
checks that a statement passes; still the text behind the index is that behind the projection of the query where it is
written out, and both fail alike, if the conditions have text and their values are defined and have literals. Conditions
without text leave the word `where` behind an index, and undefined values are nulls there.

* `Ddl.Extends`: a step that puts more text behind the statement of another one.
* `Scope.select_wheres`: a select with conditions only.
* `Scope.Restricts`: the conditions that say which rows an index covers.
* `Scope.tableStatement_rows`: an index on some of the rows, and the query that gives them.
-/

namespace SqlBuilder

/-! ## Compilations by themselves -/

namespace Compile

variable {α β : Type}

theorem bind_run (c : Compile α) (f : α → Compile β) (p : Progress) : (c >>= f) p =
    match c p with
    | .ok a q => f a q
    | .error e q => .error e q := by
  change EStateM.bind c f p = _
  unfold EStateM.bind
  cases c p <;> rfl

/-- What a compilation by itself comes to after some events. -/
def outcomeAfter (c : Compile α) (events : List LogEvent) : Except Error α × List LogEvent :=
  match c { events } with
  | .ok a p => (.ok a, p.events)
  | .error e p => (.error e, p.events)

/-- A compilation of its own. -/
def own (c : Compile α) : Compile α :=
  ownColumns (ownBindings c)

/-- It begins with nothing bound and no undefined columns, and only its events remain. -/
theorem own_run (c : Compile α) (p : Progress) : own c p =
    (match c.outcomeAfter p.events with
    | (.ok a, events) => .ok a { p with events }
    | (.error e, events) => .error e { p with events } : EStateM.Result Error Progress α) := by
  unfold own ownColumns ownBindings outcomeAfter
  dsimp only
  cases c { events := p.events } <;> rfl

/-- Compilations of their own are the same if they come to the same. -/
theorem own_congr {c c' : Compile α} (same : ∀ events, c.outcomeAfter events = c'.outcomeAfter events) :
    own c = own c' := by
  funext p
  rw [own_run, own_run, same]

theorem own_map (c : Compile α) (f : α → β) : (do return f (← own c)) = own (do return f (← c)) := by
  funext p
  rw [bind_run, own_run, own_run, outcomeAfter, outcomeAfter, bind_run]
  cases c { events := p.events } <;> rfl

end Compile

/-! ## Statements with more text -/

/-- A step adds what another one does, one statement, with a text behind it. It fails if the other one does, and as the
text does otherwise. -/
def Ddl.Extends (plain full : Ddl Unit) (rest : Compile String) : Prop :=
  ∀ statements p, match plain statements p with
    | .error e p' => full statements p = .error e p'
    | .ok (_, statements') p' => ∃ c : Compiled Value, statements' = statements ++ [c] ∧
      match rest p' with
      | .error e _ => ∃ p'', full statements p = .error e p''
      | .ok text p'' => full statements p = .ok ((), statements ++ [{ c with sql := c.sql ++ text }]) p''

namespace Ddl

variable {α : Type}

theorem lift_bind_run (c : Compile α) (f : α → Ddl Unit) (statements : List (Compiled Value)) (p : Progress) :
    (liftM c >>= f : Ddl Unit) statements p =
      match c p with
      | .ok a q => f a statements q
      | .error e q => .error e q := by
  change (do let r ← (do return (← c, statements)); f r.1 r.2 : Compile _) p = _
  rw [Compile.bind_run, Compile.bind_run]
  cases c p <;> rfl

namespace Extends

variable {rest : Compile String}

/-- A compilation before both steps. -/
theorem after_lift {c : Compile α} {plain full : α → Ddl Unit} (h : ∀ a, Extends (plain a) (full a) rest) :
    Extends (liftM c >>= plain) (liftM c >>= full) rest := by
  intro statements p
  rw [lift_bind_run, lift_bind_run]
  cases c p with
  | ok a q => exact h a statements q
  | error e q => rfl

end Extends

end Ddl

namespace Scope

variable {s : Scope} {t : Table Value} {v : Value} {q : Query Value}

/-! ## The rows of an index -/

/-- The conditions of a predicate. -/
def predicate (s : Scope) (q : Query Value) : Compile Sql :=
  s.nested.conditions s.client q.context .where_ q.statement.wheres

theorem indexedRows_eq (dialect : s.grammar.hasPartialIndexes = true) (query : s.env.query? v = some q) :
    s.indexedRows (some v) =
      Compile.own do return Sql.word " where " ++ Sql.raw (← s.inlined (← s.predicate q)) := by
  have written : s.writtenConditions v = Compile.own do return Sql.raw (← s.inlined (← s.predicate q)) := by
    unfold writtenConditions
    simp only [query]
    rfl
  change (if s.grammar.hasPartialIndexes then _ else _) = _
  rw [if_pos dialect, written, Compile.own_map]
  simp only [bind_assoc, pure_bind]

/-- The text behind an index on the rows of a predicate. -/
def rowsText (s : Scope) (v : Value) : Compile String := do
  return (← s.indexedRows (some v)).text

/-- A statement with what a compilation of its own gives behind it. What was bound before stays with the statement. -/
theorem pushOn_extends {sql : Sql} (filled : sql.isBlank = false) (c : Compile Sql) :
    Ddl.Extends (s.pushOn t sql) (liftM (Compile.own c) >>= fun rows => s.pushOn t (sql ++ rows))
      (do return (← Compile.own c).text) := by
  intro statements p
  rw [pushOn_filled filled, Ddl.lift_bind_run]
  refine ⟨_, rfl, ?_⟩
  -- By then the statement has taken what was bound; a compilation of its own does not see the difference.
  rw [Compile.bind_run, Compile.own_run, Compile.own_run]
  dsimp only
  obtain ⟨outcome, events⟩ := c.outcomeAfter p.events
  cases outcome with
  | error e => exact ⟨_, rfl⟩
  | ok rows =>
    have filled' : (sql ++ rows).isBlank = false := by rw [Sql.isBlank_append, filled]; rfl
    dsimp only
    rw [pushOn_filled filled']
    simp only [statementOf, Sql.text_append]
    rfl

/-- An index on the rows of a predicate is one on all rows with more text. -/
theorem createIndex_extends (dialect : s.grammar.hasPartialIndexes = true) (query : s.env.query? v = some q)
    (kind : String) (name using_ : Sql) (columns : List Value) :
    Ddl.Extends (s.createIndex t kind name using_ columns none) (s.createIndex t kind name using_ columns (some v))
      (s.rowsText v) := by
  refine .after_lift fun table => .after_lift fun columns => ?_
  have filled : (Sql.word ("create " ++ kind ++ " ") ++ name ++ Sql.word " on " ++ table ++ using_ ++ Sql.word " " ++
      columns.parens).isBlank = false := by
    rw [Sql.isBlank_append, Sql.isBlank_parens, Bool.and_false]
  have extends_ := pushOn_extends (s := s) (t := t) filled do
    return Sql.word " where " ++ Sql.raw (← s.inlined (← s.predicate q))
  rw [← indexedRows_eq dialect query] at extends_
  rw [show s.indexedRows none = pure [] from rfl, liftM_pure, pure_bind, List.append_nil]
  exact extends_

end Scope

/-! ## Requests for indexes -/

/-- The options of an index for all rows. -/
def withoutPredicate (options : List (String × Value)) : List (String × Value) :=
  options.filter fun option => option.1 ≠ "predicate"

theorem lookup_withoutPredicate (options : List (String × Value)) (name : String) :
    (withoutPredicate options).lookup name = if name = "predicate" then none else options.lookup name := by
  induction options with
  | nil => simp [withoutPredicate]
  | cons option options ih =>
    obtain ⟨key, value⟩ := option
    by_cases own : key = "predicate"
    · have left : withoutPredicate ((key, value) :: options) = withoutPredicate options := by
        simp [withoutPredicate, own]
      rw [left, ih]
      split
      · rfl
      next other => rw [List.lookup_cons, beq_false_of_ne (own ▸ other)]
    · have kept : withoutPredicate ((key, value) :: options) = (key, value) :: withoutPredicate options := by
        simp [withoutPredicate, own]
      rw [kept, List.lookup_cons, List.lookup_cons, ih]
      by_cases same : name = key
      · simp [same, own]
      · simp [beq_false_of_ne same]

theorem option?_predicate (options : List (String × Value)) :
    option? (withoutPredicate options) "predicate" = none := by
  rw [option?, lookup_withoutPredicate, if_pos rfl]
  rfl

theorem option?_other (name : String) (other : name ≠ "predicate") (options : List (String × Value)) :
    option? (withoutPredicate options) name = option? options name := by
  rw [option?, lookup_withoutPredicate, if_neg other, option?]

/-- A request for an index on the rows of a predicate, and the same for all rows. A unique key is asked for as an
index. -/
inductive AsksRows (v : Value) : TableStatement Value → TableStatement Value → Prop
  | index {columns : List Value} {name : Option Value} {options : List (String × Value)}
    (rows : option? options "predicate" = some v) :
    AsksRows v (.index columns name options) (.index columns name (withoutPredicate options))
  | unique {columns : List Value} {name : Option Value} {options : List (String × Value)} {flag : Value}
    (rows : option? options "predicate" = some v) (asked : option? options "use_constraint" = some flag)
    (unset : flag.isTruthy = false) :
    AsksRows v (.unique columns name options) (.unique columns name (withoutPredicate options))

namespace Scope

variable {s : Scope} {t : Table Value} {v : Value} {q : Query Value}

/-- The statement of an index on the rows of a predicate is that of one on all rows with more text. -/
theorem tableStatement_extends (dialect : s.grammar.hasPartialIndexes = true) (query : s.env.query? v = some q)
    {full plain : TableStatement Value} (asks : AsksRows v full plain) :
    Ddl.Extends (s.tableStatement t plain) (s.tableStatement t full) (s.rowsText v) := by
  cases asks with
  | @index columns name options rows =>
    simp only [tableStatement, addIndex, option?_predicate, option?_other "index_type" (by decide), rows]
    split
    · simp [*, Grammar.hasPartialIndexes] at dialect
    · simp [*, Grammar.hasPartialIndexes] at dialect
    · refine .after_lift fun name => ?_
      split
      · exact .after_lift fun using_ => createIndex_extends dialect query _ _ _ _
      · exact .after_lift fun using_ => createIndex_extends dialect query _ _ _ _
      · rw [pure_bind, pure_bind]
        exact createIndex_extends dialect query _ _ _ _
  | @unique columns name options flag rows asked unset =>
    simp only [tableStatement, addUnique, option?_predicate, isAsked, option?_other "deferrable" (by decide),
      option?_other "use_constraint" (by decide), rows, asked, Option.elim_some, unset]
    split
    · split
      · exact fun _ _ => rfl
      · exact .after_lift fun name => createIndex_extends dialect query _ _ _ _
    · simp [*, Grammar.hasPartialIndexes] at dialect
    · refine .after_lift fun name => ?_
      rw [if_neg Bool.false_ne_true, if_neg Bool.false_ne_true]
      split
      · exact fun _ _ => rfl
      · exact createIndex_extends dialect query _ _ _ _

/-! ## Queries with conditions only -/

/-- A select with the text of its conditions. -/
def restricted (conditions : Sql) : Sql :=
  Sql.word "select " ++ Sql.word "*" ++
    if conditions.isBlank then conditions else Sql.word " " ++ (Sql.word "where " ++ conditions)

theorem bindings_restricted (conditions : Sql) : (restricted conditions).bindings = conditions.bindings := by
  unfold restricted
  split <;> simp

theorem projection_all (s : Scope) : s.projection [] none none = pure (Sql.word "select " ++ Sql.word "*") := by
  have top : s.topClause none none = pure [] := by
    unfold topClause
    split
    next given _ => cases given
    · rfl
  unfold projection
  rw [top]
  rfl

theorem paging_all (s : Scope) (st : Statement Value) (limit : st.limit = none) (offset : st.offset = none) :
    s.paging st = pure [] := by
  unfold paging
  rw [limit, offset]
  cases s.capabilities.paging with
  | limitOffset stand => rfl
  | offsetFetch useTop order =>
    simp only [Option.isSome_none, Sql.when, Bool.false_eq_true, if_false]
    split
    · rfl
    · split <;> rfl

/-- The clauses of a select of which only the conditions may have text. -/
theorem separated_wheres (conditions : Sql) :
    Sql.separated " "
      [[], Sql.word "select " ++ Sql.word "*", [], [], conditions.after "where ", [], Sql.after "having " [], []] =
      restricted conditions := by
  have nothing : Sql.isBlank [] = true := rfl
  have select_ : (Sql.word "select ").isBlank = false := by decide
  have where_ : (Sql.word "where ").isBlank = false := by decide
  unfold restricted
  cases blank : conditions.isBlank with
  | true => simp [Sql.separated, Sql.after, Sql.isBlank_append, nothing, select_, blank]
  | false => simp [Sql.separated, Sql.after, Sql.isBlank_append, nothing, select_, where_, blank]

/-- A select with conditions only is of all columns. -/
theorem select_wheres (s : Scope) (wheres : List (Condition Value)) :
    s.select { wheres } = (do return restricted (← s.conditions .where_ wheres)) := by
  have having_ : s.conditions .having [] = pure [] := rfl
  have unlocked_ : s.lockClause { wheres } = pure [] :=
    show s.lockClause (unlocked { wheres }) = pure [] from lockClause_unlocked
  unfold select
  rw [projection_all, paging_all s _ rfl rfl, unlocked_]
  simp [withClause, fromClause, joinClause, groupClause, orderClause, conditionClause, unionClause, having_, Sql.joined,
    separated_wheres]

/-! ## Predicates -/

/-- Conditions have text, and their values are defined and have literals. -/
structure Restricting (s : Scope) (conditions : Sql) (p : Progress) : Prop where
  filled : conditions.isBlank = false
  columns : p.undefinedColumns = []
  defined : ¬ Undefined conditions.bindings
  written : ∃ text p', s.inlined conditions p = .ok text p'

/-- The conditions of a predicate restrict rows, if they can be rendered. -/
def Restricts (s : Scope) (q : Query Value) : Prop :=
  ∀ events conditions p, s.predicate q { events } = .ok conditions p → s.Restricting conditions p

/-- Conditions without undefined values pass the checks of a statement. -/
theorem checked_wheres {wheres : List (Condition Value)} {p p' : Progress} {conditions : Sql}
    (rendered : s.conditions .where_ wheres p = .ok conditions p') (columns : p'.undefinedColumns = [])
    (defined : ¬ Undefined conditions.bindings) :
    s.checked .select { wheres } p = .ok (restricted conditions) p' := by
  have body : s.body .select { wheres } p = .ok (restricted conditions) p' := by
    change s.select { wheres } p = _
    rw [select_wheres, Compile.bind_run, rendered]
    rfl
  have passes :
      (!p'.undefinedColumns.isEmpty || (restricted conditions).bindings.any Value.containsUndefined) = false := by
    rw [columns, bindings_restricted]
    simpa [Undefined] using defined
  have named : columnTexts p'.undefinedColumns p' = .ok [] p' := by rw [columns]; rfl
  rw [checked_complete body named, if_neg (by rw [passes]; exact Bool.false_ne_true)]
  rfl

/-- Literals stand in the text of a select as they do in that of its conditions. -/
theorem inlined_restricted {conditions : Sql} (filled : conditions.isBlank = false) :
    s.inlined (restricted conditions) = (do return "select * where " ++ (← s.inlined conditions)) := by
  have unmarked : '?' ∉ "select * where ".toList := by decide
  have settled : "select * where ".toList.getLast? ≠ some '\\' := by decide
  have inlines := inline_append unmarked settled
  have text : (restricted conditions).text.toList = "select * where ".toList ++ conditions.text.toList := by
    unfold restricted
    rw [filled]
    simp [Sql.text_append, Sql.text_word]
  have written (literals : List String) : inlineLiterals literals (restricted conditions).text =
      "select * where " ++ inlineLiterals literals conditions.text := by
    rw [inlineLiterals, inlineLiterals, text, (inlines _ _).1, String.ofList_append, String.ofList_toList]
  unfold inlined Literal.inline
  simp only [text, bindings_restricted, (inlines [] _).2, written, bind_assoc, pure_bind]

/-- A value is a query of the client's that holds conditions only. -/
structure HoldsConditions (s : Scope) (v : Value) (q : Query Value) : Prop where
  builder : v.isQuery = true
  query : s.env.query? v = some q
  client : q.client = s.client
  only : ∃ wheres, q.statement = { wheres }

section Queries

variable {n : Nat} (levels : s.nested = .ofDepth s.env (n + 1)) (holds : s.HoldsConditions v q)
  (restricts : s.Restricts q)

include levels holds restricts

theorem query_run (events : List LogEvent) : s.nested.query q.client none none q { events } =
    match s.predicate q { events } with
    | .ok conditions p => .ok { sql := restricted conditions, method := .select } p
    | .error e p => .error e { p with undefinedColumns := [] } := by
  obtain ⟨wheres, only⟩ := holds.only
  let own : Scope := { env := s.env, client := s.client, context := q.context, nested := .ofDepth s.env n }
  have predicate_ : s.predicate q = own.conditions .where_ wheres := by
    rw [predicate, levels, only]
    rfl
  have statement_ : s.nested.query q.client none none q = (do
      return { sql := ← ownColumns (own.checked .select { wheres }), method := .select }) := by
    rw [levels, holds.client]
    change own.statement q.statement.method q.statement = _
    rw [only]
    rfl
  rw [statement_, Compile.bind_run, ownColumns]
  -- The statement has undefined columns of its own, of which the conditions leave none.
  cases rendered : s.predicate q { events } with
  | ok conditions p =>
    have fine := restricts events conditions p rendered
    rw [predicate_] at rendered
    rw [checked_wheres rendered fine.columns fine.defined]
    dsimp only
    rw [← fine.columns]
    rfl
  | error e p =>
    rw [predicate_] at rendered
    have failed : own.body .select { wheres } { events } = .error e p := by
      change own.select { wheres } _ = _
      rw [select_wheres, Compile.bind_run, rendered]
    rw [checked_error failed]

/-- What a query with conditions only is written out as is what stands behind an index on its rows. -/
theorem display_restricted (dialect : s.grammar.hasPartialIndexes = true) :
    s.nested.display s.env v = (do return "select *" ++ (← s.rowsText v)) := by
  have shown : s.nested.display s.env v = Compile.own (do
      let r ← s.nested.query q.client none none q
      s.nested.inlined q.client r.sql.text r.sql.bindings) := by
    have builder : v.isBuilder = true := by rw [Value.isBuilder, holds.builder]; rfl
    have standing : s.nested.standing s.env v = (do
        return (q.client, .sql (← s.nested.query q.client none none q).sql)) := by
      rw [Nested.standing, holds.query]
    unfold Nested.display
    split
    next => cases holds.query
    next =>
      rw [if_pos builder, standing]
      simp only [bind_assoc, pure_bind]
      rfl
  rw [shown, rowsText, indexedRows_eq dialect holds.query]
  simp only [Compile.own_map, bind_assoc, pure_bind]
  -- Both are compilations of their own, and both begin with the conditions.
  refine Compile.own_congr fun events => ?_
  rw [Compile.outcomeAfter, Compile.outcomeAfter, Compile.bind_run, Compile.bind_run, query_run levels holds restricts]
  cases rendered : s.predicate q { events } with
  | error e p => rfl
  | ok conditions p =>
    have fine := restricts events conditions p rendered
    have whole : s.nested.inlined q.client (restricted conditions).text (restricted conditions).bindings =
        (do return "select * where " ++ (← s.inlined conditions)) := by
      rw [holds.client]
      exact inlined_restricted fine.filled
    have joined (text : String) :
        "select * where " ++ text = "select *" ++ (Sql.word " where " ++ Sql.raw text).text := by
      rw [Sql.text_append, Sql.text_word, ← String.append_assoc]
      simp [Sql.text, Sql.raw, Piece.text]
    dsimp only
    rw [whole]
    simp only [joined]

/-- The text behind an index fails where the query is not compiled. -/
theorem rowsText_fails (dialect : s.grammar.hasPartialIndexes = true) (p : Progress) (e : Error) :
    (∃ p', s.rowsText v p = .error e p') ↔
      ∃ events, (s.nested.compiledQuery q).logged p.events = .error e events := by
  rw [rowsText, indexedRows_eq dialect holds.query, Compile.own_map, Compile.own_run, Compile.outcomeAfter,
    Compile.bind_run, Compile.bind_run, Compile.logged, Nested.compiledQuery, Compile.bind_run,
    query_run levels holds restricts]
  cases rendered : s.predicate q { events := p.events } with
  | error e' q' => simp
  | ok conditions q' =>
    obtain ⟨text, q'', written⟩ := (restricts p.events conditions q' rendered).written
    dsimp only
    rw [Compile.bind_run, written]
    constructor
    · rintro ⟨_, ⟨⟩⟩
    · rintro ⟨_, ⟨⟩⟩

/-- An index on the rows of a predicate has the text behind it that stands behind the projection where the predicate is
written out, and it fails where the predicate is not compiled. -/
theorem tableStatement_rows (dialect : s.grammar.hasPartialIndexes = true) {full plain : TableStatement Value}
    (asks : AsksRows v full plain) :
    ∃ rest : Compile String,
      s.nested.display s.env v = (do return "select *" ++ (← rest)) ∧
      (∀ p e, (∃ p', rest p = .error e p') ↔
        ∃ events, (s.nested.compiledQuery q).logged p.events = .error e events) ∧
      Ddl.Extends (s.tableStatement t plain) (s.tableStatement t full) rest :=
  ⟨s.rowsText v, display_restricted levels holds restricts dialect, rowsText_fails levels holds restricts dialect,
    tableStatement_extends dialect holds.query asks⟩

end Queries

/-! ## Conditions with text -/

/-- Values are defined, and have literals. -/
def Writes (s : Scope) (values : List Value) : Prop :=
  ∀ v ∈ values, v.containsUndefined = false ∧
    ∃ text, (Literal.forSlot s.capabilities.escape s.nested.printers "local" v).Gives text []

/-- A condition has text, with values that are defined and have literals, and a connective joins it with others. -/
def Tests (s own : Scope) (c : Condition Value) : Prop :=
  c.word = none ∧ ∃ sql values, (own.condition .where_ c).Gives (.sql sql) values ∧ sql.isBlank = false ∧
    s.Writes sql.bindings

section Tests

variable {own : Scope}

theorem conjoin_gives {c : Condition Value} (joined : c.word = none) {sql : Sql} (filled : sql.isBlank = false)
    (done : Sql) : ∃ whole, (own.conjoin done c (.sql sql)).Gives whole [] ∧ whole.isBlank = false ∧
      whole.bindings = done.bindings ++ sql.bindings := by
  have conjunction_ : own.conjunction c = pure (Sql.word c.connective.word) := by rw [conjunction, joined]
  unfold conjoin
  rw [if_neg (by rw [Operand.isBlank, filled]; exact Bool.false_ne_true), conjunction_]
  split
  · exact ⟨done ++ sql, .pure _, by rw [Sql.isBlank_append, filled, Bool.and_false], Sql.bindings_append _ _⟩
  · refine ⟨done ++ Sql.word " " ++ Sql.word c.connective.word ++ Sql.word " " ++ sql, .pure _, ?_, by simp⟩
    rw [Sql.isBlank_append, filled, Bool.and_false]

/-- Conditions with text, after others. -/
theorem conditions_gives {conditions : List (Condition Value)} (tests : ∀ c ∈ conditions, s.Tests own c) {done : Sql}
    (writes : s.Writes done.bindings) : ∃ whole values,
      (conditions.foldlM (fun done c => do own.conjoin done c (← own.condition .where_ c)) done).Gives whole values ∧
        s.Writes whole.bindings ∧ (done.isBlank = false ∨ conditions ≠ [] → whole.isBlank = false) := by
  -- From the first condition on there is text, which no later condition takes away.
  induction conditions generalizing done with
  | nil => exact ⟨done, [], .pure _, writes, by simp⟩
  | cons c conditions ih =>
    obtain ⟨joined, sql, values, gives, filled, written⟩ := tests c (.head _)
    obtain ⟨step, conjoined, filled', bindings⟩ := conjoin_gives joined filled done
    have writes' : s.Writes step.bindings := by
      rw [bindings]
      exact List.forall_mem_append.mpr ⟨writes, written⟩
    obtain ⟨whole, more, rest, writes'', filled''⟩ := ih (fun c hc => tests c (.tail _ hc)) writes'
    rw [List.foldlM_cons]
    exact ⟨whole, _, (gives.bind conjoined).bind rest, writes'', fun _ => filled'' (.inl filled')⟩

theorem inlined_gives {sql : Sql} (writes : s.Writes sql.bindings) : ∃ text, (s.inlined sql).Gives text [] := by
  have literals (slots : Nat) : ∀ values : List Value, s.Writes values → ∃ texts,
      (Literal.forSlots s.capabilities.escape s.nested.printers "local" slots values).Gives texts [] := by
    intro values writes
    induction values generalizing slots with
    | nil => cases slots <;> exact ⟨[], .pure []⟩
    | cons v values ih =>
      cases slots with
      | zero => exact ⟨[], .pure []⟩
      | succ slots =>
        obtain ⟨text, own⟩ := (writes v (.head _)).2
        obtain ⟨texts, others⟩ := ih slots fun v hv => writes v (.tail _ hv)
        exact ⟨text :: texts, own.bind_silent others.map⟩
  obtain ⟨texts, gives⟩ := literals _ _ writes
  exact ⟨_, gives.map⟩

/-- A test with text, of a condition that may be negated. -/
theorem tests_of_gives {c : Condition Value} (joined : c.word = none) (parsed : ∀ v, c.test ≠ .raw v) {sql : Sql}
    {values : List Value} (gives : (own.test .where_ c.negated c.test).Gives sql values) (filled : sql.isBlank = false)
    (writes : s.Writes sql.bindings) : s.Tests own c := by
  refine ⟨joined, sql, values, ?_, filled, writes⟩
  unfold condition
  split
  next given _ => exact absurd given (parsed _)
  next => exact gives.map

/-- A comparison of a column with a text. -/
theorem compare_tests (quotes : own.Quotes) {c : Condition Value} (joined : c.word = none)
    {column operator text : String} (test : c.test = .compare (.str column) (.str operator) (.str text))
    (plain : PlainName column) (known : own.capabilities.operators.contains (Text.lower operator) = true) :
    s.Tests own c := by
  have operator_ : own.operator (.str operator) = pure (Sql.word (escapedOperator (Text.lower operator))) := by
    rw [operator_str, if_pos known]
  let sql : Sql := Sql.joined " " [[.name own.capabilities.quoting column],
    Sql.word (escapedOperator (Text.lower operator)), [.param (.str text)]]
  have compared : (own.compare (.str column) (.str operator) (.str text)).Gives sql [.str text] := by
    unfold Scope.compare
    rw [operator_, show own.trackUndefined (.str column) (.str text) = pure () from rfl]
    exact (quotes.wrap_gives plain).bind_silent <|
      .bind_silent (.pure ()) (.bind_silent (.pure _) (parameter_scalar _).map)
  have bindings : (negatable c.negated sql).bindings = [.str text] := Likeness.Setting.bindings_negatable c.negated sql
  have gives : (own.test .where_ c.negated c.test).Gives (negatable c.negated sql) [.str text] := by
    rw [test]
    exact compared.map
  refine tests_of_gives joined (by simp [test]) gives ?_ ?_
  · have last : Sql.isBlank [.param (.str text)] = false := by simp [Sql.isBlank, Piece.text]
    rw [negatable, Sql.isBlank_append]
    simp only [sql, Sql.joined, Sql.isBlank_append, last, Bool.and_false]
  · rw [bindings]
    intro v within
    obtain rfl := List.mem_singleton.mp within
    exact ⟨rfl, _, .pure _⟩

/-- A column that is null. -/
theorem isNull_tests (quotes : own.Quotes) {c : Condition Value} (joined : c.word = none) {column : String}
    (test : c.test = .isNull (.str column)) (plain : PlainName column) : s.Tests own c := by
  let sql : Sql :=
    [.name own.capabilities.quoting column] ++ Sql.word (if c.negated then " is not null" else " is null")
  have last : (Sql.word (if c.negated then " is not null" else " is null")).isBlank = false := by
    cases c.negated <;> decide
  have gives : (own.test .where_ c.negated c.test).Gives sql [] := by
    rw [test]
    exact (quotes.wrap_gives plain).map
  refine tests_of_gives joined (by simp [test]) gives ?_ nofun
  rw [Sql.isBlank_append, last, Bool.and_false]

end Tests

/-- Some conditions with text restrict rows. -/
theorem restricts_of_tests {n : Nat} (levels : s.nested = .ofDepth s.env (n + 1)) (filled : q.statement.wheres ≠ [])
    (tests : ∀ c ∈ q.statement.wheres,
      s.Tests { env := s.env, client := s.client, context := q.context, nested := .ofDepth s.env n } c) :
    s.Restricts q := by
  intro events conditions p rendered
  obtain ⟨whole, values, gives, writes, filled'⟩ := conditions_gives tests (show s.Writes (Sql.bindings []) from nofun)
  obtain ⟨p', run, -, columns⟩ := gives { events }
  rw [predicate, levels] at rendered
  obtain ⟨rfl, rfl⟩ := EStateM.Result.ok.inj (run.symm.trans rendered)
  obtain ⟨text, written⟩ := inlined_gives writes
  obtain ⟨p'', inlined_, -⟩ := written p'
  refine ⟨filled' (.inr filled), columns, ?_, text, p'', inlined_⟩
  intro undefined
  obtain ⟨v, within, undefined⟩ := List.any_eq_true.mp undefined
  rw [(writes v within).1] at undefined
  cases undefined

/-- A unique key for the rows of a comparison and a test for null. -/
theorem tableStatement_rows_compared :
    let client : Client Value := { dialect := .postgres }
    let env : Environment := { client }
    let s : Scope := env.scope client
    let t : Table Value := { client, method := .alter, name := "t" }
    let q : Query Value := ((Query.ofClient client).addCondition .where_ .and false
      (.compare (.str "a") (.str "=") (.str "x?"))).addCondition .where_ .or true (.isNull (.str "b"))
    let plain : TableStatement Value := .unique [.str "a"] none [("use_constraint", .bool false)]
    let full : TableStatement Value :=
      .unique [.str "a"] none [("use_constraint", .bool false), ("predicate", .query q)]
    (∃ rest : Compile String,
      s.nested.display s.env (.query q) = (do return "select *" ++ (← rest)) ∧
      (∀ p e, (∃ p', rest p = .error e p') ↔
        ∃ events, (s.nested.compiledQuery q).logged p.events = .error e events) ∧
      Ddl.Extends (s.tableStatement t plain) (s.tableStatement t full) rest) ∧
    ((s.tableStatement t full).run []).outcome.1.toOption.map (fun result => result.2.map (·.sql)) =
      some ["create unique index \"t_a_unique\" on \"t\" (\"a\") where \"a\" = 'x?' or \"b\" is not null"] := by
  intro client env s t q plain full
  have quotes (own : Scope) (given : own.client = client) : own.Quotes :=
    quotes_of_builtin (by simp [given, client, Dialect.builtin]) (by rw [given])
  have restricts : s.Restricts q := by
    refine restricts_of_tests (n := nestingLimit - 1) rfl (List.cons_ne_nil _ _) ?_
    refine List.forall_mem_cons.mpr ⟨?_, List.forall_mem_singleton.mpr ?_⟩
    · exact compare_tests (quotes _ rfl) rfl rfl ⟨by decide, by decide, by decide⟩ (by decide +kernel)
    · exact isNull_tests (quotes _ rfl) rfl rfl ⟨by decide, by decide, by decide⟩
  refine ⟨?_, by decide +kernel⟩
  exact tableStatement_rows (n := nestingLimit - 1) rfl ⟨rfl, rfl, rfl, _, rfl⟩ restricts rfl
    (.unique rfl rfl rfl)

/-- An index has the word `where` behind it although the query has no conditions, and a null where the query is refused
for an undefined value. -/
theorem tableStatement_rows_unfit :
    let client : Client Value := { dialect := .postgres }
    let env : Environment := { client }
    let s : Scope := env.scope client
    let t : Table Value := { client, method := .alter, name := "t" }
    let all := Query.ofClient client
    let undefined := all.addCondition .where_ .and false (.compare (.str "a") (.str "=") .undefined)
    let index (q : Query Value) : Option (List String) :=
      let change := s.tableStatement t (.index [.str "a"] none [("predicate", .query q)])
      (change.run []).outcome.1.toOption.map fun result => result.2.map (·.sql)
    index all = some ["create index \"t_a_index\" on \"t\" (\"a\") where "] ∧
      (s.nested.display env (.query all)).outcome.1.toOption = some "select *" ∧
      index undefined = some ["create index \"t_a_index\" on \"t\" (\"a\") where \"a\" = NULL"] ∧
      ∃ e, (s.nested.compiledQuery undefined).outcome.1 = .error e ∧ e.isUndefined = true := by
  intro client env s t all undefined index
  have refused : (match (s.nested.compiledQuery undefined).outcome.1 with
    | .ok _ => false
    | .error e => e.isUndefined) = true := by decide +kernel
  refine ⟨by decide +kernel, by decide +kernel, by decide +kernel, ?_⟩
  cases outcome : (s.nested.compiledQuery undefined).outcome.1 with
  | ok c =>
    rw [outcome] at refused
    cases refused
  | error e =>
    rw [outcome] at refused
    exact ⟨e, rfl, refused⟩

end Scope

end SqlBuilder
