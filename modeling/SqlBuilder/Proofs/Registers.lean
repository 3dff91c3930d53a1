import SqlBuilder.Proofs.Refusals

/-!
# Registers of a statement

The clauses of a select that calls add to, and its limit and offset, are registers: a call puts entries into one
of them and leaves the others alone. What it puts there depends on the client and the schema of the query, but
on no register.

* `Register`, `Register.ofMethod?`: the registers, and the methods that write them.
* `Entry`: what a register receives, and `Query.put`: a query with more entries.
* `Query.put_comm`: entries of different registers may be put in any order.
* `Query.put_eq_of_filter`: what is put into each register decides the query.
* `Query.put_emptied`: emptying a register undoes what was put into it.
-/

namespace SqlBuilder

/-! ## Registers and their entries -/

/-- The parts of a select that calls write, each of its own. -/
inductive Register
  | projection | joins | wheres | groups | havings | orders | unions | commonTables | limit | offset
  deriving DecidableEq

/-- The methods that write a register, and nothing else. -/
def Register.methods : Register → List String
  | projection =>
    ["select", "column", "columns", "distinct", "distinct_on", "count", "count_distinct", "min", "max", "sum",
     "sum_distinct", "avg", "avg_distinct", "row_number", "rank", "dense_rank", "json_extract"]
  | joins =>
    ["join", "inner_join", "left_join", "left_outer_join", "right_join", "right_outer_join", "full_outer_join",
     "cross_join"]
  | wheres =>
    ["where", "and_where", "or_where", "where_not", "or_where_not", "where_column", "or_where_column", "where_in",
     "or_where_in", "where_not_in", "or_where_not_in", "where_null", "or_where_null", "where_not_null",
     "or_where_not_null", "where_between", "or_where_between", "where_not_between", "or_where_not_between",
     "where_exists", "or_where_exists", "where_not_exists", "or_where_not_exists", "where_raw", "or_where_raw",
     "where_like", "or_where_like", "where_ilike", "or_where_ilike", "where_json_path", "or_where_json_path"]
  | groups => ["group_by", "group_by_raw"]
  | havings =>
    ["having", "or_having", "having_in", "having_not_in", "having_null", "having_not_null", "having_between",
     "having_not_between", "having_raw", "or_having_raw"]
  | orders => ["order_by", "order_by_raw"]
  | unions => ["union", "union_all", "intersect", "except_"]
  | commonTables => ["with_", "with_recursive", "with_materialized", "with_not_materialized"]
  | limit => ["limit"]
  | offset => ["offset"]

/-- The registers. -/
def Register.all : List Register :=
  [.projection, .joins, .wheres, .groups, .havings, .orders, .unions, .commonTables, .limit, .offset]

/-- The register that a method writes, if it writes one and nothing else. -/
def Register.ofMethod? (name : String) : Option Register :=
  all.find? fun g => g.methods.contains name

/-- What one register receives: one more entry, or a new number of rows. -/
inductive Entry
  | projection (p : Projection Value)
  | join (j : Join Value)
  | where_ (c : Condition Value)
  | group (g : GroupEntry Value)
  | having (c : Condition Value)
  | order (o : OrderEntry Value)
  | union (u : SetOperation Value)
  | commonTable (t : CommonTable Value)
  | limit (n : Nat)
  | offset (n : Nat)

namespace Entry

/-- The register that receives an entry. -/
def register : Entry → Register
  | projection _ => .projection
  | join _ => .joins
  | where_ _ => .wheres
  | group _ => .groups
  | having _ => .havings
  | order _ => .orders
  | union _ => .unions
  | commonTable _ => .commonTables
  | limit _ => .limit
  | offset _ => .offset

/-- A statement whose register received an entry. -/
def apply : Entry → Statement Value → Statement Value
  | projection p, s => { s with projection := s.projection ++ [p] }
  | join j, s => { s with joins := s.joins ++ [j] }
  | where_ c, s => { s with wheres := s.wheres ++ [c] }
  | group g, s => { s with groups := s.groups ++ [g] }
  | having c, s => { s with havings := s.havings ++ [c] }
  | order o, s => { s with orders := s.orders ++ [o] }
  | union u, s => { s with unions := s.unions ++ [u] }
  | commonTable t, s => { s with commonTables := s.commonTables ++ [t] }
  | limit n, s => { s with limit := some n }
  | offset n, s => { s with offset := some n }

theorem apply_comm {e e' : Entry} (different : e.register ≠ e'.register) (s : Statement Value) :
    e.apply (e'.apply s) = e'.apply (e.apply s) := by
  cases e <;> cases e' <;> first | rfl | exact absurd rfl different

@[simp] theorem apply_schema (s : Statement Value) (e : Entry) : (e.apply s).schema = s.schema := by
  cases e <;> rfl

end Entry

/-- A statement whose register is empty. -/
def Register.emptied : Register → Statement Value → Statement Value
  | projection, s => { s with projection := [] }
  | joins, s => { s with joins := [] }
  | wheres, s => { s with wheres := [] }
  | groups, s => { s with groups := [] }
  | havings, s => { s with havings := [] }
  | orders, s => { s with orders := [] }
  | unions, s => { s with unions := [] }
  | commonTables, s => { s with commonTables := [] }
  | limit, s => { s with limit := none }
  | offset, s => { s with offset := none }

namespace Register

variable {g : Register} {e : Entry}

theorem emptied_apply (of : e.register = g) (s : Statement Value) :
    g.emptied (e.apply s) = g.emptied s := by
  subst of
  cases e <;> rfl

theorem emptied_apply_ne (other : e.register ≠ g) (s : Statement Value) :
    g.emptied (e.apply s) = e.apply (g.emptied s) := by
  cases e <;> cases g <;> first | rfl | exact absurd rfl other

end Register

namespace Query

/-- A query whose registers received entries. -/
def put (q : Query Value) (es : List Entry) : Query Value :=
  q.edit fun s => es.foldl (fun s e => e.apply s) s

/-- Two queries with the same client and the same schema. -/
structure Alike (q q' : Query Value) : Prop where
  client : q'.client = q.client
  schema : q'.statement.schema = q.statement.schema

variable (q : Query Value) {q' : Query Value} {es es' : List Entry} {e : Entry} {g : Register}

@[simp] theorem put_nil : q.put [] = q := rfl

theorem put_cons (e : Entry) (es : List Entry) : q.put (e :: es) = (q.put [e]).put es := rfl

theorem put_append (es es' : List Entry) : q.put (es ++ es') = (q.put es).put es' := by
  simp only [put, edit, List.foldl_append]

theorem alike_put (es : List Entry) : q.Alike (q.put es) where
  client := rfl
  schema := by
    simp only [put, edit]
    induction es generalizing q with
    | nil => rfl
    | cons e es ih => exact (ih (q.put [e])).trans (e.apply_schema q.statement)

variable {q}

theorem Alike.refl : q.Alike q := ⟨rfl, rfl⟩

theorem Alike.symm (h : q.Alike q') : q'.Alike q := ⟨h.client.symm, h.schema.symm⟩

theorem Alike.trans {q'' : Query Value} (h : q.Alike q') (h' : q'.Alike q'') : q.Alike q'' :=
  ⟨h'.client.trans h.client, h'.schema.trans h.schema⟩

end Query

/-- Two queries that calls on a register do not tell apart: they have the same client and, where tables are joined,
the same schema. -/
structure Register.Alike (g : Register) (q q' : Query Value) : Prop where
  client : q'.client = q.client
  schema : g = .joins → q'.statement.schema = q.statement.schema

theorem Register.Alike.put {g : Register} {q q' : Query Value} (h : g.Alike q q') (es es' : List Entry) :
    g.Alike (q.put es) (q'.put es') where
  client := h.client
  schema := fun joins =>
    ((q'.alike_put es').schema.trans (h.schema joins)).trans (q.alike_put es).schema.symm

namespace Query

variable {q q' : Query Value} {es es' : List Entry} {e : Entry}

theorem Alike.on (h : q.Alike q') (g : Register) : g.Alike q q' := ⟨h.client, fun _ => h.schema⟩

/-- An entry may be put before others that go to other registers. -/
theorem put_comm (apart : ∀ e' ∈ es, e'.register ≠ e.register) : q.put (es ++ [e]) = q.put (e :: es) := by
  induction es generalizing q with
  | nil => rfl
  | cons e' es ih =>
    have first : (q.put [e']).put [e] = (q.put [e]).put [e'] :=
      congrArg (fun s => { q with statement := s }) (Entry.apply_comm (apart e' (.head _)).symm q.statement)
    rw [List.cons_append, put_cons, ih fun e₁ mem => apart e₁ (.tail _ mem), put_cons, first]
    rfl

/-- What is put into each register decides the query, in whatever order the registers have their turns. -/
theorem put_eq_of_filter (same : ∀ g, es.filter (·.register = g) = es'.filter (·.register = g)) :
    q.put es = q.put es' := by
  induction es generalizing q es' with
  | nil =>
    have none_ : es' = [] := by
      refine List.eq_nil_iff_forall_not_mem.mpr fun e mem => ?_
      have received := (same e.register).symm ▸ List.mem_filter.mpr ⟨mem, by simp⟩
      exact nomatch received
    rw [none_]
  | cons e es ih =>
    -- the first entry is also the first one that its register receives on the other side
    have own := same e.register
    rw [List.filter_cons_of_pos (by simp)] at own
    obtain ⟨before, after, rfl, apart, -, rest⟩ := List.filter_eq_cons_iff.mp own.symm
    have apart : ∀ e' ∈ before, e'.register ≠ e.register := fun e' mem => by simpa using apart e' mem
    have others : ∀ g, es.filter (·.register = g) = (before ++ after).filter (·.register = g) := by
      intro g
      rw [List.filter_append]
      by_cases of : e.register = g
      · subst of
        have none_ : before.filter (·.register = e.register) = [] :=
          List.filter_eq_nil_iff.mpr (by simpa using apart)
        rw [none_, List.nil_append, rest]
      · have kept := same g
        rwa [List.filter_cons_of_neg (by simpa using of), List.filter_append,
          List.filter_cons_of_neg (by simpa using of)] at kept
    rw [put_cons, ih others, ← put_cons, show before ++ e :: after = (before ++ [e]) ++ after by simp, put_append,
      put_comm apart, ← put_append, List.cons_append]

/-- Emptying a register undoes what was put into it. -/
theorem put_emptied (g : Register) :
    (q.put es).edit g.emptied = (q.edit g.emptied).put (es.filter (·.register ≠ g)) := by
  induction es generalizing q with
  | nil => rfl
  | cons e es ih =>
    rw [put_cons, ih]
    by_cases of : e.register = g
    · rw [List.filter_cons_of_neg (by simpa using of)]
      exact congrArg (fun s => Query.put { q with statement := s } _) (g.emptied_apply of q.statement)
    · rw [List.filter_cons_of_pos (by simpa using of), put_cons]
      exact congrArg (fun s => Query.put { q with statement := s } _) (g.emptied_apply_ne of q.statement)

end Query

end SqlBuilder
