import SqlBuilder.Proofs.IdentifierPlaces
import SqlBuilder.Proofs.InPlace

/-!
# Nested selects in the place of identifiers

A callback in the place of an identifier is rendered as a select in parentheses; the query that it makes is
rendered there as the same select without them. The statements around them bind the same values, and their texts
are the same but for these parentheses, in every place and however deep it is nested.

* `Query.NestedAs`: the renderings of a query inside another one.
* `Query.nestedAs_firm`: they begin like statements.
* `Query.Pair`: two queries that differ by parentheses wherever they are nested.
* `IdentifierPlace.pair`: the queries around two operands that differ by parentheses do so themselves.
* `Query.compile_nested_identifier`: a callback and the query that it makes, in any place.
-/

namespace SqlBuilder

/-! ## The beginnings of selects -/

theorem Compile.Returns.ownBindings {α : Type} {P : α → Prop} {c : Compile α} (h : c.Returns P) :
    (ownBindings c).Returns P := by
  intro p a p' run
  unfold SqlBuilder.ownBindings at run
  split at run
  next first =>
    cases run
    exact h _ _ _ first
  · cases run

namespace Scope

variable {s : Scope}

theorem opens_word {w : String} (opening : String) (known : opening ∈ openings) (begins : opening.toList <+: w.toList)
    (sql : Sql) : Opens (Sql.word w ++ sql).text.toList := by
  rw [Sql.text_append, Sql.text_word, String.toList_append]
  exact ⟨opening, known, begins.trans (List.prefix_append ..)⟩

theorem withClause_opens (tables : List (CommonTable Value)) :
    (s.withClause tables).Returns fun sql => sql = [] ∨ Opens sql.text.toList := by
  unfold withClause
  split
  · exact .pure (.inl rfl)
  · refine .bind fun _ => .pure (.inr (opens_word "with " (by decide) ?_ _))
    split <;> decide

theorem projection_opens (entries : List (Projection Value)) (limit offset : Option Nat) :
    (s.projection entries limit offset).Returns fun sql => Opens sql.text.toList := by
  unfold projection
  refine .bind fun _ => .bind fun _ => .bind fun _ => .bind fun _ => .pure ?_
  simp only [List.append_assoc]
  exact opens_word "select " (by decide) (by decide) _

/-- More fragments leave the beginning of a text as it is. -/
theorem foldl_opens (rest : List Sql) {done : Sql} (h : Opens done.text.toList) :
    Opens (rest.foldl
      (fun done sql => if done.isBlank || sql.isBlank then done ++ sql else done ++ Sql.word " " ++ sql)
      done).text.toList := by
  induction rest generalizing done with
  | nil => exact h
  | cons sql rest ih =>
    refine ih ?_
    dsimp only
    split
    · rw [Sql.text_append, String.toList_append]
      exact h.append _
    · rw [Sql.text_append, Sql.text_append, String.toList_append, String.toList_append, List.append_assoc]
      exact h.append _

theorem separated_opens {first second : Sql} (rest : List Sql) (begins : first = [] ∨ Opens first.text.toList)
    (opens : Opens second.text.toList) : Opens (Sql.separated " " (first :: second :: rest)).text.toList := by
  rcases begins with rfl | begins
  · exact foldl_opens rest opens
  · exact foldl_opens (second :: rest) begins

theorem select_opens (st : Statement Value) : (s.select st).Returns fun sql => Opens sql.text.toList := by
  unfold select
  refine .bind_of (withClause_opens _) fun tables ht => .bind_of (projection_opens _ _ _) fun columns hc => ?_
  refine .bind fun _ => .bind fun _ => .bind fun _ => .bind fun _ => .bind fun _ => .bind fun _ => .bind fun _ =>
    .bind fun _ => .bind fun _ => .pure ?_
  rw [Sql.text_append, Sql.text_append, Sql.text_append, String.toList_append, String.toList_append,
    String.toList_append, List.append_assoc, List.append_assoc]
  exact (separated_opens _ ht hc).append _

theorem commented_opens {sql : Sql} (h : Opens sql.text.toList) (comments : List String) :
    Opens (commented comments sql).text.toList := by
  cases comments with
  | nil => exact h
  | cons comment comments =>
    have split : (commented (comment :: comments) sql).text.toList =
        "/* ".toList ++ (comment ++ " */").toList ++ (Sql.word " " ++ commented comments sql).text.toList := by
      have whole : commented (comment :: comments) sql =
          [Piece.comment comment] ++ (Sql.word " " ++ commented comments sql) := rfl
      rw [whole, Sql.text_append, String.toList_append]
      simp [Sql.text, Piece.text]
    rw [split, List.append_assoc]
    exact ⟨"/* ", by decide, List.prefix_append ..⟩

end Scope

/-! ## Rendered queries -/

/-- The scope of what is nested a number of levels above the deepest one. -/
def Nested.scopeAt (env : Environment) (client : Client Value) (context : Option Value) (n : Nat) : Scope :=
  { env, client, context, nested := .ofDepth env n }

/-- What a query renders to inside another one, with its values or where it is written again without them. -/
inductive Query.NestedAs (env : Environment) (client : Client Value) (q : Query Value) : Sql → Prop
  | rendered {context : Option Value} {n : Nat} {r : Rendered}
      (h : ((Nested.scopeAt env client context n).nestedQuery q).Renders r) : NestedAs env client q r.sql
  | again {sql : Sql} (h : NestedAs env client q sql) : NestedAs env client q sql.frozen

section

variable {env : Environment} {client : Client Value} {context : Option Value} {n : Nat} {q : Query Value}

/-- A nested select begins like a statement. It is the statement of its query, with the alias of that. -/
theorem Query.nestedQuery_returns (selects : q.Selects) :
    ((Nested.scopeAt env client context n).nestedQuery q).Returns fun r =>
      Opens r.sql.text.toList ∧ r.method = q.statement.method ∧ r.asName = q.statement.asName := by
  unfold Scope.nestedQuery Nested.scopeAt
  refine .bind_of (.ownBindings (P := fun r => Opens r.sql.text.toList ∧ r.method = q.statement.method ∧
    r.asName = q.statement.asName) ?_) fun r h => .bind fun _ => .pure h
  cases n with
  | zero => exact .throw _
  | succ n =>
    have body (s : Scope) : (s.body q.statement.method q.statement).Returns fun sql => Opens sql.text.toList := by
      rcases selects with method | method <;> (rw [method]; exact s.select_opens _)
    unfold Nested.ofDepth Scope.statement Scope.checked
    refine .bind_of (.ownColumns (.bind_of (body _) fun sql h => .bind fun _ => ?_)) fun sql h => .pure ⟨h, rfl, rfl⟩
    dsimp only
    split
    · exact .bind fun _ => .bind_of (Q := fun _ => False) (.throw _) fun _ none_ => none_.elim
    · exact .pure (Scope.commented_opens h _)

/-- The renderings of a nested select begin like statements. -/
theorem Query.nestedAs_firm (selects : q.Selects) : Sql.Firm (q.NestedAs env client) where
  opens part known := by
    induction known with
    | rendered h =>
      obtain ⟨p, p', run⟩ := h
      exact (Query.nestedQuery_returns selects _ _ _ run).1
    | again _ ih => rwa [Sql.text_frozen]
  frozen _ known := .again known

/-! ## Queries beside each other -/

/-- Two rendered queries differ by parentheses. -/
structure Rendered.Enclosed (Part : Sql → Prop) (n : Nat) (r r' : Rendered) : Prop where
  sql : Sql.Enclosed Part n r.sql r'.sql
  method : r.method = r'.method
  asName : r.asName = r'.asName

/-- Two queries differ by parentheses wherever they are nested, by one pair at least. -/
def Query.Pair (env : Environment) (client : Client Value) (Part : Sql → Prop) (q q' : Query Value) : Prop :=
  ∀ k context, ∃ n, 0 < n ∧ Abreast (Rendered.Enclosed Part n)
    ((Nested.ofDepth env k).query client context none q) ((Nested.ofDepth env k).query client context none q')

/-- So do two operands in the place of an identifier. -/
def Value.Pair (env : Environment) (client : Client Value) (Part : Sql → Prop) (v v' : Value) : Prop :=
  ∀ k context, ∃ n, 0 < n ∧ (Nested.scopeAt env client context k).Twins Part n v v'

variable {Part : Sql → Prop}

namespace Scope

variable {s : Scope} {m : Nat}

theorem wrapOperand_query (s : Scope) (q : Query Value) :
    s.wrapOperand (.query q) = do return .sql (← s.outputQuery (← s.nestedQuery q) false) := by
  have own : s.env.query? (.query q) = some q := rfl
  rw [wrapOperand_eq s rfl rfl rfl]
  simp [unwrapPresent, unwrap, own]

/-- A nested query in a place without an alias. -/
theorem outputQuery_own (s : Scope) (r : Rendered) (isParameter : Bool) : s.outputQuery r isParameter =
    bif (r.method = .select || r.method = .first) && (isParameter || (r.asName.filter Value.isTruthy).isSome) &&
        !r.sql.isBlank then
      match r.asName.filter Value.isTruthy with
      | none => pure r.sql.parens
      | some asName => do return s.aliased r.sql.parens (← s.wrapString (← nameText asName))
    else pure r.sql := by
  unfold outputQuery
  rw [cond_eq_ite]
  cases r.asName.filter Value.isTruthy <;> rfl

theorem commented_enclosed {a b : Sql} (h : Sql.Enclosed Part m a b) (comments : List String) :
    Sql.Enclosed Part m (commented comments a) (commented comments b) := by
  induction comments with
  | nil => exact h
  | cons comment comments ih => exact ih.after [.comment comment, .word " "]

theorem statement_twins {method : Method} {st st' : Statement Value} (comments : st.comments = st'.comments)
    (asName : st.asName = st'.asName) (h : Abreast (Sql.Enclosed Part m) (s.body method st) (s.body method st')) :
    Abreast (Rendered.Enclosed Part m) (s.statement method st) (s.statement method st') := by
  have checked : Abreast (Sql.Enclosed Part m) (s.checked method st) (s.checked method st') := by
    unfold Scope.checked
    refine h.bind fun a a' ha => .after fun p => ?_
    have whole := commented_enclosed ha st.comments
    rw [← comments]
    dsimp only
    rw [whole.bindings]
    split
    · exact .after fun _ => .throw _ _
    · exact .pure whole
  exact checked.ownColumns.bind fun _ _ ha => .pure ⟨ha, rfl, asName⟩

variable (firm : Sql.Firm Part)

include firm

theorem outputQuery_twins {r r' : Rendered} (h : Rendered.Enclosed Part m r r') (isParameter : Bool) :
    Abreast (Sql.Enclosed Part m) (s.outputQuery r isParameter) (s.outputQuery r' isParameter) := by
  rw [outputQuery_own, outputQuery_own, h.method, h.asName, h.sql.isBlank firm]
  generalize ((r'.method = .select || r'.method = .first) && (isParameter ||
    (r'.asName.filter Value.isTruthy).isSome) && !r'.sql.isBlank) = inside
  cases inside with
  | false => exact .pure h.sql
  | true =>
    cases r'.asName.filter Value.isTruthy with
    | none => exact .pure h.sql.parens
    | some asName => exact .after fun _ => .after fun _ => .pure ((h.sql.parens.before _).before _)

end Scope

/-- Two queries that differ by parentheses do so in the place of an identifier. -/
theorem Query.Pair.operands (firm : Sql.Firm Part) {q q' : Query Value} (h : q.Pair env client Part q') :
    Value.Pair env client Part (.query q) (.query q') := by
  intro k context
  obtain ⟨n, some_, abreast⟩ := h k none
  refine ⟨n, some_, .query q, .query q', ?_⟩
  rw [Scope.wrapOperand_query, Scope.wrapOperand_query]
  have nested : Abreast (Rendered.Enclosed Part n) ((Nested.scopeAt env client context k).nestedQuery q)
      ((Nested.scopeAt env client context k).nestedQuery q') := by
    refine abreast.ownBindings.bind fun r r' hr => ?_
    rw [hr.sql.bindings]
    exact .after fun _ => .pure hr
  exact nested.bind fun _ _ hr => (Scope.outputQuery_twins firm hr false).bind fun _ _ ha => .pure (.sql ha)

/-- Two queries of one form whose selects differ by parentheses. -/
theorem Query.pair_of_select {st' : Statement Value} (selects : q.Selects) (method : q.statement.method = st'.method)
    (comments : q.statement.comments = st'.comments) (asName : q.statement.asName = st'.asName)
    (h : ∀ k context, ∃ n, 0 < n ∧ Abreast (Sql.Enclosed Part n)
      ((Nested.scopeAt env client context k).select q.statement) ((Nested.scopeAt env client context k).select st')) :
    q.Pair env client Part (q.edit fun _ => st') := by
  intro k outer
  cases k with
  | zero => exact ⟨1, Nat.one_pos, .throw _ _⟩
  | succ k =>
    obtain ⟨n, some_, abreast⟩ := h k (outer.or q.context)
    refine ⟨n, some_, ?_⟩
    change Abreast _ (Scope.statement (Nested.scopeAt env client (outer.or q.context) k) q.statement.method q.statement)
      (Scope.statement (Nested.scopeAt env client (outer.or q.context) k) st'.method st')
    rw [← method]
    refine Scope.statement_twins comments asName ?_
    rcases selects with select | first
    · rw [select]
      exact abreast
    · rw [first]
      exact abreast

/-- A place for an identifier has nothing to do with what a statement is for, its comments and its alias. -/
theorem ClausePlace.fill_frame (place : ClausePlace) (v : Value) (st : Statement Value) :
    (place.fill v st).method = st.method ∧ (place.fill v st).comments = st.comments ∧
      (place.fill v st).asName = st.asName := by
  cases place with
  | condition clause => cases clause <;> exact ⟨rfl, rfl, rfl⟩
  | _ => exact ⟨rfl, rfl, rfl⟩

/-- The queries around two operands that differ by parentheses do so themselves. -/
theorem IdentifierPlace.pair (firm : Sql.Firm Part) {place : IdentifierPlace} (shown : place.Shown) {v v' : Value}
    (h : Value.Pair env client Part v v') : (place.fill v).Pair env client Part (place.fill v') := by
  induction place generalizing v v' with
  | within outer inner first second => exact first shown.1 ((second shown.2 h).operands firm)
  | clause q place =>
    obtain ⟨method, comments, asName⟩ := place.fill_frame v q.statement
    obtain ⟨method', comments', asName'⟩ := place.fill_frame v' q.statement
    have selects : (q.edit fun st => place.fill v st).Selects := by
      unfold Query.Selects
      rw [show (q.edit fun st => place.fill v st).statement.method = q.statement.method from method]
      exact shown.1
    refine Query.pair_of_select selects (method.trans method'.symm) (comments.trans comments'.symm)
      (asName.trans asName'.symm) fun k context => ?_
    obtain ⟨n, some_, twins⟩ := h k context
    obtain ⟨m, most, abreast⟩ := Scope.select_twins firm twins shown.2 q.statement
    exact ⟨m, some_.trans_le most, abreast⟩

/-! ## Callbacks and the queries that they make -/

/-- Progresses that agree, and with the same values bound, are one. -/
theorem Progress.Agrees.eq {p p' : Progress} (h : p.Agrees p') (bound : p.bound = p'.bound) : p = p' := by
  cases p
  cases p'
  congr 1
  · exact h.columns
  · exact h.events

/-- Fragments that differ in nothing are one. -/
theorem Likeness.Frag.eq {a b : Sql} (h : (Likeness.exchanging env client).Frag a b) : a = b := by
  rw [← List.forall₂_eq_eq_eq]
  refine h.like.imp fun piece piece' like => ?_
  cases like with
  | same => rfl
  | param h => exact congrArg Piece.param h
  | stray h => exact congrArg Piece.stray h

/-- A callback and the query that it makes are rendered to one statement. -/
theorem callback_abreast (unhooked : client.wrapIdentifier = none) {chain : Chain} {made : Query Value}
    (built : env.built client chain = .ok { origin := made }) (context : Option Value) (k : Nat) :
    Abreast Eq ((Nested.scopeAt env client context k).compileCallback [chain])
      ((Nested.scopeAt env client context k).nestedQuery made) := by
  have law : (Likeness.exchanging env client).Liberal := Likeness.exchanging_liberal unhooked
  let X : (Likeness.exchanging env client).Setting ((Likeness.exchanging env client).level k) :=
    ⟨_, context, context, law.toFair, Likeness.sound law.toLawful k, .inr rfl⟩
  intro p
  have tandem := X.callback_query trivial (Likeness.exchanging_makes law built k) p p ⟨rfl, rfl⟩
  change EndsAlike _ _ _ _ ((Nested.scopeAt env client context k).compileCallback [chain] p)
    ((Nested.scopeAt env client context k).nestedQuery made p) at tandem
  generalize (Nested.scopeAt env client context k).compileCallback [chain] p = left,
    (Nested.scopeAt env client context k).nestedQuery made p = right at tandem
  cases tandem with
  | error => exact .error
  | @ok r r' q q' vs vs' agrees bound bound' result =>
    obtain ⟨like, rfl, rfl⟩ := result
    have results : r = r' := by
      cases r
      cases r'
      congr 1
      · exact like.sql.eq
      · exact like.method
      · exact like.asName
    have values : q.bound = q'.bound := by
      rw [bound, bound', results]
    rw [results, agrees.eq values]
    exact .ok rfl

/-- In the place of an identifier, a callback and the query that it makes differ by the parentheses around the
select. -/
theorem callback_pair (unhooked : client.wrapIdentifier = none) {chain : Chain} {made : Query Value}
    (built : env.built client chain = .ok { origin := made }) (selects : made.Selects)
    (unnamed : made.statement.asName = none) :
    Value.Pair env client (made.NestedAs env client) (.callback [chain]) (.query made) := by
  intro k context
  refine ⟨1, Nat.one_pos, .callback _, .query made, ?_⟩
  have callback (s : Scope) : s.wrapOperand (.callback [chain]) = do
      return .sql (← s.outputQuery (← s.compileCallback [chain]) true) := by
    unfold Scope.wrapOperand
    rfl
  rw [callback, Scope.wrapOperand_query]
  refine (callback_abreast unhooked built context k).renders.bind fun r r' hr => ?_
  obtain ⟨rfl, rendered⟩ := hr
  obtain ⟨p, p', run⟩ := rendered
  obtain ⟨opens, method, asName⟩ := Query.nestedQuery_returns selects _ _ _ run
  have shown : ∀ isParameter, (Nested.scopeAt env client context k).outputQuery r isParameter =
      if isParameter then pure r.sql.parens else pure r.sql := by
    intro isParameter
    have select : r.method = .select ∨ r.method = .first := method ▸ selects
    rw [Scope.outputQuery_own, asName, unnamed, Sql.isBlank_of_opens opens]
    cases isParameter <;> rcases select with select | select <;> (rw [select]; rfl)
  -- Only the callback asks for parentheses around a select that has no alias.
  rw [shown true, shown false]
  exact (Abreast.pure (.part (.rendered ⟨p, p', run⟩))).bind fun _ _ ha => .pure (.sql ha)

end

/-! ## Statements -/

theorem Abreast.settled {α β : Type} {R : α → β → Prop} {c : Compile α} {c' : Compile β} (env : Environment)
    (h : Abreast R c c') : Abreast R (env.settled c) (env.settled c') := by
  intro p
  change EndsAbreast R (EStateM.tryCatch c env.fail p) (EStateM.tryCatch c' env.fail p)
  unfold EStateM.tryCatch
  have ends := h p
  generalize c p = r, c' p = r' at ends ⊢
  cases ends with
  | ok related => exact .ok related
  | @error e e' q q' =>
    have failed {γ : Type} (e : Error) (q : Progress) : ∃ e' q', (env.fail e : Compile γ) q = .error e' q' := by
      cases run : (env.fail e : Compile γ) q with
      | ok a q' => exact (env.fail_returns e _ _ _ run).elim
      | error e' q' => exact ⟨e', q', rfl⟩
    obtain ⟨_, _, left⟩ := failed (γ := α) e (EStateM.Backtrackable.restore q (EStateM.Backtrackable.save p))
    obtain ⟨_, _, right⟩ := failed (γ := β) e' (EStateM.Backtrackable.restore q' (EStateM.Backtrackable.save p))
    simp only [left, right]
    exact .error

/-- Two compiled statements bind the same values, and their texts are the same but for a number of parts, which
stand in parentheses in the first one. -/
structure Compiled.Enclosed (Part : Sql → Prop) (n : Nat) (c c' : Compiled Value) : Prop where
  bindings : c.bindings = c'.bindings
  texts : ∃ a b, Sql.Enclosed Part n a b ∧ c.sql = a.text ∧ c'.sql = b.text

theorem Compiled.Enclosed.length {Part : Sql → Prop} {n : Nat} {c c' : Compiled Value} (h : c.Enclosed Part n c') :
    c.sql.length = c'.sql.length + 2 * n := by
  obtain ⟨a, b, enclosed, left, right⟩ := h.texts
  rw [left, right]
  exact enclosed.length

theorem Query.Pair.compile {env : Environment} {client : Client Value} {Part : Sql → Prop} {q q' : Query Value}
    (h : q.Pair env client Part q') (own : q.client = client) (own' : q'.client = client) :
    ∃ n, 0 < n ∧ Abreast (Compiled.Enclosed Part n) (q.compile env) (q'.compile env) := by
  obtain ⟨n, some_, abreast⟩ := h nestingLimit none
  refine ⟨n, some_, .settled env ?_⟩
  unfold Nested.compiledQuery
  rw [own, own']
  exact abreast.bind fun r r' hr => .pure ⟨hr.sql.bindings, r.sql, r'.sql, hr.sql, rfl, rfl⟩

/-- A query with a callback in the place of an identifier, and the one with the query that the chain of the
callback puts together on a fresh query, in the same place: if the latter is a select without an alias, the two
compile to the same values, and to one text but for parentheses around that select, which only the callback has,
once at least; or both fail. -/
theorem Query.compile_nested_identifier {env : Environment} {place : IdentifierPlace} {chain : Chain}
    {made : Query Value} (unhooked : place.client.wrapIdentifier = none)
    (built : env.built place.client chain = .ok { origin := made }) (selects : made.Selects)
    (unnamed : made.statement.asName = none) (shown : place.Shown) :
    ∃ n, 0 < n ∧ Abreast
      (fun c c' => c.Enclosed (made.NestedAs env place.client) n c' ∧ c.sql.length = c'.sql.length + 2 * n)
      ((place.fill (.callback [chain])).compile env) ((place.fill (.query made)).compile env) := by
  have operands := callback_pair unhooked built selects unnamed
  have queries := IdentifierPlace.pair (Query.nestedAs_firm selects) shown operands
  obtain ⟨n, some_, abreast⟩ := queries.compile (place.fill_client _) (place.fill_client _)
  exact ⟨n, some_, abreast.mono fun _ _ h => ⟨h, h.length⟩⟩

/-- The column of a comparison in a select that is itself projected. -/
theorem Query.compile_nested_identifier_within :
    let client : Client Value := { dialect := .postgres }
    let env : Environment := { client }
    let chain : Chain := [
      { name := "select", arguments := [.scalar (.str "user_id")] },
      { name := "from_", arguments := [.scalar (.str "orders")] },
      { name := "where", arguments := [.scalar (.str "total"), .scalar (.str ">"), .scalar (.int 5)] }]
    let made := (((Query.ofClient client).select [.str "user_id"]).from_ (.str "orders")).addCondition
      .where_ .and false (.compare (.str "total") (.str ">") (.int 5))
    let outer := IdentifierPlace.clause ((Query.ofClient client).from_ (.str "users"))
      (.projected { before := [.columns [.str "id"] .plain] } (.column {} .plain))
    let inner := IdentifierPlace.clause ((Query.ofClient client).from_ (.str "teams"))
      (.condition .where_ {} { test := .isNull (.str "id") } (.compare (.str "=") (.int 1)))
    let place := outer.within inner
    place.client.wrapIdentifier = none ∧ env.built place.client chain = .ok { origin := made } ∧ made.Selects ∧
      made.statement.asName = none ∧ place.Shown ∧ ∃ n, 0 < n ∧ Abreast
        (fun c c' => c.Enclosed (made.NestedAs env place.client) n c' ∧ c.sql.length = c'.sql.length + 2 * n)
        ((place.fill (.callback [chain])).compile env) ((place.fill (.query made)).compile env) := by
  intro client env chain made outer inner place
  have built : env.built place.client chain = .ok { origin := made } := rfl
  have selects : made.Selects := .inl rfl
  have shown : place.Shown := ⟨⟨.inl rfl, trivial⟩, .inl rfl, rfl⟩
  exact ⟨rfl, built, selects, rfl, shown, Query.compile_nested_identifier rfl built selects rfl shown⟩

/-- A query among the columns of a select is written without parentheses there. -/
theorem Query.compile_nested_identifier_bare :
    let client : Client Value := { dialect := .postgres }
    let env : Environment := { client }
    let chain : Chain := [
      { name := "select", arguments := [.scalar (.str "a")] },
      { name := "from_", arguments := [.scalar (.str "u")] },
      { name := "where", arguments := [.scalar (.str "b"), .scalar (.int 1)] }]
    let place := IdentifierPlace.clause ((Query.ofClient client).from_ (.str "t"))
      (.projected {} (.column {} .plain))
    let sql (v : Value) := ((place.fill v).compile env).outcome.1.toOption.map fun c =>
      (c.sql, c.bindings.map Value.text)
    (env.built client chain).toOption.bind (fun cursor => sql (.query cursor.origin)) =
        some ("select select \"a\" from \"u\" where \"b\" = ? from \"t\"", ["1"]) ∧
      sql (.callback [chain]) = some ("select (select \"a\" from \"u\" where \"b\" = ?) from \"t\"", ["1"]) := by
  decide +kernel

end SqlBuilder
