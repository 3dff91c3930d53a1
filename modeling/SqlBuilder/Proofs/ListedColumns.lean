import SqlBuilder.Proofs.Deletes
import SqlBuilder.Proofs.Refusals

/-!
# Columns in a list

A call that orders by a list of columns, or that gives a window such a list, is a chain of calls, one for each column.
Not all of its arguments reach them: the choice for nulls does not reach the columns of an order, and the direction does
not reach those of a window. So a list stands for the chain of calls with the same arguments where there is nothing to
lose.

* `Value.IsSingle`: a column that is given by itself.
* `Query.call_order_list`, `Query.orderEach_eq`: a list of columns in an order, and a chain of calls.
* `WindowList.call_list`, `WindowList.callEach_eq`: a list of columns in a window, and a chain of calls.
* `Query.compile_window_congr`: windows that are rendered alike.
* `Query.listed_columns`: lists and chains.
-/

namespace SqlBuilder

/-- A column that is given by itself: no list of columns, and no mapping that holds one. -/
structure Value.IsSingle (v : Value) : Prop where
  sequence : v.sequence? = none
  entries : v.entries? = none

/-- Terms that have the columns of a list, and two settings: they are the same if the settings are, or if there are no
columns. -/
theorem map_eq_map_iff {α : Type} {cs : List Value} {f g : Value → α} {same : Prop} (each : ∀ c, f c = g c ↔ same) :
    cs.map f = cs.map g ↔ same ∨ cs = [] := by
  rw [List.map_inj_left]
  cases cs with
  | nil => simp
  | cons c cs =>
    constructor
    · intro h
      exact .inl ((each c).mp (h c (.head _)))
    · rintro (h | h) c' -
      · exact (each c').mpr h
      · cases h

/-! ## Orders -/

namespace Query

/-- The arguments of an order by a column, or by a list of columns. -/
def orderArguments (direction nulls column : Value) : Arguments :=
  { positional := [column, direction], keywords := [("nulls", nulls)] }

/-- An order by some columns, with a call for each. -/
def orderEach (direction nulls : Value) : List Value → Build (Query Value) Unit
  | [] => pure ()
  | c :: cs => do
    let _ ← Query.call "order_by" (orderArguments direction nulls c)
    orderEach direction nulls cs

variable {direction nulls : Value} {choice : Option NullsOrder} {cs : List Value}

theorem orderBy_ok (valid : nullsOrder nulls = .ok choice) {c : Value} (single : c.sequence? = none) (q : Query Value) :
    orderBy direction nulls c q = .ok () (q.addOrders [.by_ c direction choice]) := by
  rw [orderBy_single single, valid]
  rfl

theorem orderByAll_ok (single : ∀ c ∈ cs, c.IsSingle) (q : Query Value) :
    orderByAll direction cs q = .ok () (q.addOrders (cs.map fun c => .by_ c direction none)) := by
  induction cs generalizing q with
  | nil =>
    rw [orderByAll, List.map_nil, addOrders_nil]
    rfl
  | cons c cs ih =>
    have own := single c (.head _)
    have split : orderByAll direction (c :: cs) = (do orderBy direction .null c; orderByAll direction cs) := by
      rw [orderByAll]
      rintro entries rfl
      cases own.entries
    rw [split]
    refine Build.bind_ok.mpr ⟨(), _, orderBy_ok rfl own.sequence q, ?_⟩
    rw [ih fun c' mem => single c' (.tail _ mem), addOrders_addOrders]
    rfl

/-- An order by one column adds it with its direction and its choice for nulls. -/
theorem call_order_single (valid : nullsOrder nulls = .ok choice) {c : Value} (single : c.sequence? = none)
    (q : Query Value) : Query.call "order_by" (orderArguments direction nulls c) q =
      .ok .stay (q.addOrders [.by_ c direction choice]) := by
  change (do orderBy direction nulls c; return QueryStep.stay) q = _
  exact Build.bind_ok.mpr ⟨(), _, orderBy_ok valid single q, rfl⟩

/-- An order by a list adds its columns with their direction, but without a choice for nulls. -/
theorem call_order_list (valid : nullsOrder nulls = .ok choice) {columns : Value} (listed : columns.sequence? = some cs)
    (single : ∀ c ∈ cs, c.IsSingle) (q : Query Value) :
    Query.call "order_by" (orderArguments direction nulls columns) q =
      .ok .stay (q.addOrders (cs.map fun c => .by_ c direction none)) := by
  change (do orderBy direction nulls columns; return QueryStep.stay) q = _
  refine Build.bind_ok.mpr ⟨(), _, ?_, rfl⟩
  rw [orderBy_sequence listed, checkNulls, valid]
  exact orderByAll_ok single q

/-- A call for each of some columns adds them with their direction and their choice for nulls. -/
theorem orderEach_eq (valid : nullsOrder nulls = .ok choice) (single : ∀ c ∈ cs, c.IsSingle) (q : Query Value) :
    orderEach direction nulls cs q = .ok () (q.addOrders (cs.map fun c => .by_ c direction choice)) := by
  induction cs generalizing q with
  | nil =>
    rw [List.map_nil, addOrders_nil]
    rfl
  | cons c cs ih =>
    rw [orderEach]
    refine Build.bind_ok.mpr ⟨_, _, call_order_single valid (single c (.head _)).sequence q, ?_⟩
    rw [ih fun c' mem => single c' (.tail _ mem), addOrders_addOrders]
    rfl

theorem addOrders_inj {q : Query Value} {entries more : List (OrderEntry Value)} :
    q.addOrders entries = q.addOrders more ↔ entries = more := by
  constructor
  · intro same
    have orders : (q.addOrders entries).statement.orders = (q.addOrders more).statement.orders := by rw [same]
    exact List.append_cancel_left orders
  · rintro rfl
    rfl

end Query

/-! ## Windows -/

/-- Steps that are the same for each of some items. -/
theorem mapM_congr {m : Type → Type} [Monad m] [LawfulMonad m] {α β : Type} {f g : α → m β} {as : List α}
    (same : ∀ a ∈ as, f a = g a) : as.mapM f = as.mapM g := by
  induction as with
  | nil => rfl
  | cons a as ih =>
    rw [List.mapM_cons, List.mapM_cons, same a (.head _), ih fun b mem => same b (.tail _ mem)]

/-- The columns of a list have no direction of their own. -/
theorem Query.windowTerms_list {direction columns : Value} {cs : List Value} (listed : columns.sequence? = some cs)
    (single : ∀ c ∈ cs, c.IsSingle) : Query.windowTerms direction columns = .ok (cs.map fun c => (c, .null)) := by
  have list : Query.windowTerms direction columns = Query.windowTerms direction (.list cs) := by
    cases columns <;> cases listed <;> rfl
  rw [list, Query.windowTerms]
  clear listed list
  induction cs with
  | nil => rfl
  | cons c cs ih =>
    have own := (single c (.head _)).entries
    rw [List.mapM_cons, ih fun c' mem => single c' (.tail _ mem)]
    cases c with
    | map entries => cases own
    | _ => rfl

/-- The lists of columns that a window has. -/
inductive WindowList
  | order | partition
  deriving DecidableEq

namespace WindowList

/-- The method that adds to a list. -/
def method : WindowList → String
  | order => "order_by"
  | partition => "partition_by"

/-- A window with more columns in a list. -/
def add (l : WindowList) (w : Window Value) (terms : List (Value × Value)) : Window Value :=
  match l with
  | order => { w with order := w.order ++ terms }
  | partition => { w with partitions := w.partitions ++ terms }

theorem add_nil (l : WindowList) (w : Window Value) : l.add w [] = w := by
  cases l <;> simp [add]

theorem add_add (l : WindowList) (w : Window Value) (terms more : List (Value × Value)) :
    l.add (l.add w terms) more = l.add w (terms ++ more) := by
  cases l <;> simp [add]

theorem add_inj {l : WindowList} {w : Window Value} {terms more : List (Value × Value)} :
    l.add w terms = l.add w more ↔ terms = more := by
  cases l <;> simp [add]

/-- More columns of a window, with a call for each. -/
def callEach (l : WindowList) (direction : Value) : List Value → Window Value → Except Error (Window Value)
  | [], w => .ok w
  | c :: cs, w => do l.callEach direction cs (← w.call l.method { positional := [c, direction] })

variable {direction : Value} {cs : List Value}

theorem call_eq (l : WindowList) (w : Window Value) (column direction : Value) :
    w.call l.method { positional := [column, direction] } =
      do return l.add w (← Query.windowTerms direction column) := by
  cases l <;> rfl

theorem call_single (l : WindowList) (w : Window Value) {c : Value} (single : c.sequence? = none) :
    w.call l.method { positional := [c, direction] } = .ok (l.add w [(c, direction)]) := by
  have terms : Query.windowTerms direction c = .ok [(c, direction)] := by
    unfold Query.windowTerms
    split <;> first | cases single | rfl
  rw [call_eq, terms]
  rfl

/-- A list of columns in a window is added without a direction. -/
theorem call_list (l : WindowList) (w : Window Value) {columns : Value} (listed : columns.sequence? = some cs)
    (single : ∀ c ∈ cs, c.IsSingle) :
    w.call l.method { positional := [columns, direction] } = .ok (l.add w (cs.map fun c => (c, .null))) := by
  rw [call_eq, Query.windowTerms_list listed single]
  rfl

/-- A call for each of some columns adds them with their direction. -/
theorem callEach_eq (l : WindowList) (single : ∀ c ∈ cs, c.IsSingle) (w : Window Value) :
    l.callEach direction cs w = .ok (l.add w (cs.map fun c => (c, direction))) := by
  induction cs generalizing w with
  | nil => rw [callEach, List.map_nil, add_nil]
  | cons c cs ih =>
    rw [callEach, call_single l w (single c (.head _)).sequence]
    change l.callEach direction cs (l.add w [(c, direction)]) = _
    rw [ih fun c' mem => single c' (.tail _ mem), add_add]
    rfl

end WindowList

/-! ## Windows that are rendered alike -/

namespace Scope

variable {s : Scope}

/-- A column of a window, with its direction if it has one. -/
def windowTerm (s : Scope) (term : Value × Value) : Compile Sql := do
  let sql ← (← s.wrapOperand term.1).textual
  if term.2.isTruthy then return sql ++ Sql.word " " ++ (← s.direction term.2)
  else return sql

theorem windowTerms_eq (s : Scope) (terms : List (Value × Value)) :
    s.windowTerms terms = do return Sql.commas (← terms.mapM s.windowTerm) :=
  rfl

/-- A direction that does not count as present is as good as none. -/
theorem windowTerm_absent {direction : Value} (absent : direction.isTruthy = false) (c : Value) :
    s.windowTerm (c, direction) = s.windowTerm (c, .null) := by
  have null : Value.null.isTruthy = false := rfl
  simp only [windowTerm, absent, null, Bool.false_eq_true, if_false]

theorem windowTerms_absent {direction : Value} (absent : direction.isTruthy = false) (before : List (Value × Value))
    (cs : List Value) : s.windowTerms (before ++ cs.map fun c => (c, direction)) =
      s.windowTerms (before ++ cs.map fun c => (c, .null)) := by
  have same : ∀ c ∈ cs, (s.windowTerm ∘ fun c => (c, direction)) c = (s.windowTerm ∘ fun c => (c, Value.null)) c :=
    fun c _ => windowTerm_absent absent c
  rw [windowTerms_eq, windowTerms_eq, List.mapM_append, List.mapM_append, List.mapM_map, List.mapM_map,
    mapM_congr same]

theorem window_absent {direction : Value} (absent : direction.isTruthy = false) (l : WindowList) (w : Window Value)
    (cs : List Value) : s.window (l.add w (cs.map fun c => (c, direction))) =
      s.window (l.add w (cs.map fun c => (c, .null))) := by
  cases l with
  | order =>
    simp only [window, WindowList.add, windowTerms_absent absent]
    rfl
  | partition =>
    have empty : (w.partitions ++ cs.map fun c => (c, direction)).isEmpty =
        (w.partitions ++ cs.map fun c => (c, Value.null)).isEmpty := by
      cases w.partitions <;> cases cs <;> rfl
    simp only [window, WindowList.add, windowTerms_absent absent, empty]
    rfl

/-- A projection is rendered from what its windows are rendered to. -/
theorem projection_congr {w w' : Window Value} (same : s.window w = s.window w')
    (before after : List (Projection Value)) (limit offset : Option Nat) :
    s.projection (before ++ .window w :: after) limit offset =
      s.projection (before ++ .window w' :: after) limit offset := by
  have entries : (before ++ .window w :: after).mapM s.projectionEntry =
      (before ++ .window w' :: after).mapM s.projectionEntry := by
    have entry : s.projectionEntry (.window w) = s.projectionEntry (.window w') := by
      simp only [projectionEntry, same]
    rw [List.mapM_append, List.mapM_append, List.mapM_cons, List.mapM_cons, entry]
  have distinct : s.distinctClause (before ++ .window w :: after) =
      s.distinctClause (before ++ .window w' :: after) := by
    simp [distinctClause, distinctOnColumns, asksDistinct, asksDistinctOn]
  rw [projection, projection, entries, distinct]

/-- Only selects have a projection. -/
theorem body_congr {method : Method} {st : Statement Value} {entries entries' : List (Projection Value)}
    (same : s.projection entries st.limit st.offset = s.projection entries' st.limit st.offset) :
    s.body method { st with projection := entries } = s.body method { st with projection := entries' } := by
  have select : s.select { st with projection := entries } = s.select { st with projection := entries' } := by
    unfold Scope.select
    simp only [same]
    rfl
  cases method with
  | select => exact select
  | first => exact select
  | insert => rfl
  | update => rfl
  | delete => rfl
  | upsert => rfl
  | truncate => rfl

end Scope

/-- A query with a window in its projection. -/
def Query.withWindow (q : Query Value) (before : List (Projection Value)) (w : Window Value)
    (after : List (Projection Value)) : Query Value :=
  q.edit fun s => { s with projection := before ++ .window w :: after }

/-- Queries with windows that are rendered alike are compiled to the same. -/
theorem Query.compile_window_congr (env : Environment) (q : Query Value) {w w' : Window Value}
    (same : ∀ s : Scope, s.window w = s.window w') (before after : List (Projection Value)) :
    (q.withWindow before w after).compile env = (q.withWindow before w' after).compile env := by
  have edited : q.withWindow before w after = (q.withWindow before w' after).edit fun s =>
      { s with projection := before ++ .window w :: after } := rfl
  rw [edited]
  refine Query.compile_edit_congr rfl rfl rfl rfl ?_
  exact Scope.body_congr (Scope.projection_congr (same _) before after _ _)

/-- A list of columns in an order is the chain of calls without the choice for nulls, and in a window the chain of calls
without the direction. So it is the chain of calls with the same arguments where there is no choice for nulls, and where
there is no direction; and a direction that does not count as present makes no difference either. -/
theorem Query.listed_columns {columns direction nulls : Value} {cs : List Value} {choice : Option NullsOrder}
    (listed : columns.sequence? = some cs) (single : ∀ c ∈ cs, c.IsSingle) (valid : nullsOrder nulls = .ok choice) :
    (∀ q : Query Value, ∃ whole chain,
      Query.call "order_by" (orderArguments direction nulls columns) q = .ok .stay whole ∧
        orderEach direction .null cs q = .ok () whole ∧ orderEach direction nulls cs q = .ok () chain ∧
        (whole = chain ↔ choice = none ∨ cs = [])) ∧
      ∀ (l : WindowList) (w : Window Value), ∃ whole chain,
        w.call l.method { positional := [columns, direction] } = .ok whole ∧
          l.callEach .null cs w = .ok whole ∧ l.callEach direction cs w = .ok chain ∧
          (whole = chain ↔ direction = .null ∨ cs = []) ∧
          (direction.isTruthy = false →
            ∀ (env : Environment) (q : Query Value) (before after : List (Projection Value)),
              (q.withWindow before whole after).compile env = (q.withWindow before chain after).compile env) := by
  constructor
  · intro q
    refine ⟨_, _, call_order_list valid listed single q, orderEach_eq rfl single q, orderEach_eq valid single q, ?_⟩
    rw [addOrders_inj]
    apply map_eq_map_iff
    intro c
    simp [eq_comm]
  · intro l w
    refine ⟨_, _, l.call_list w listed single, l.callEach_eq single w, l.callEach_eq single w, ?_, ?_⟩
    · rw [WindowList.add_inj]
      apply map_eq_map_iff
      intro c
      simp [eq_comm]
    · intro absent env q before after
      exact compile_window_congr env q (fun s => (Scope.window_absent absent l w cs).symm) before after

/-- A list of a name and an expression, with a direction and a choice for nulls. -/
theorem Query.listed_columns_descending :
    let client : Client Value := { dialect := .postgres }
    let cs : List Value := [.str "a", .raw (Raw.ofText client "lower(b)")]
    (Value.list cs).sequence? = some cs ∧ (∀ c ∈ cs, c.IsSingle) ∧ nullsOrder (.str "last") = .ok (some .last) ∧
      (∀ q : Query Value, ∃ whole chain,
        Query.call "order_by" (orderArguments (.str "desc") (.str "last") (.list cs)) q = .ok .stay whole ∧
          orderEach (.str "desc") .null cs q = .ok () whole ∧
          orderEach (.str "desc") (.str "last") cs q = .ok () chain ∧
          (whole = chain ↔ some NullsOrder.last = none ∨ cs = [])) ∧
        ∀ (l : WindowList) (w : Window Value), ∃ whole chain,
          w.call l.method { positional := [.list cs, .str "desc"] } = .ok whole ∧
            l.callEach .null cs w = .ok whole ∧ l.callEach (.str "desc") cs w = .ok chain ∧
            (whole = chain ↔ (Value.str "desc") = .null ∨ cs = []) ∧
            ((Value.str "desc").isTruthy = false →
              ∀ (env : Environment) (q : Query Value) (before after : List (Projection Value)),
                (q.withWindow before whole after).compile env = (q.withWindow before chain after).compile env) := by
  intro client cs
  have single : ∀ c ∈ cs, c.IsSingle :=
    List.forall_mem_cons.mpr ⟨⟨rfl, rfl⟩, List.forall_mem_singleton.mpr ⟨rfl, rfl⟩⟩
  exact ⟨rfl, single, rfl, Query.listed_columns rfl single rfl⟩

/-- An order by a list drops the choice for nulls of its columns, and a window with a list drops their direction. -/
theorem Query.listed_columns_dropped :
    let client : Client Value := { dialect := .postgres }
    let env : Environment := { client }
    let q := (Query.ofClient client).from_ (.str "t")
    let sql (q : Query Value) := (q.compile env).outcome.1.toOption.map Compiled.sql
    let ordered {α : Type} (build : Build (Query Value) α) : Option String := match build q with
      | .ok _ q => sql q
      | .error _ _ => none
    let windowed (w : Except Error (Window Value)) : Option String := w.toOption.bind fun w => sql (q.addWindow w)
    let w : Window Value := { function := "row_number", asName := .null }
    let cs : List Value := [.str "a", .str "b"]
    ordered (Query.call "order_by" (orderArguments (.str "desc") (.str "last") (.list cs))) =
        some "select * from \"t\" order by \"a\" desc, \"b\" desc" ∧
      ordered (orderEach (.str "desc") (.str "last") cs) =
        some "select * from \"t\" order by \"a\" desc nulls last, \"b\" desc nulls last" ∧
      windowed (w.call "order_by" { positional := [.list cs, .str "desc"] }) =
        some "select row_number() over (order by \"a\", \"b\") from \"t\"" ∧
      windowed (WindowList.order.callEach (.str "desc") cs w) =
        some "select row_number() over (order by \"a\" desc, \"b\" desc) from \"t\"" := by
  decide +kernel

end SqlBuilder
