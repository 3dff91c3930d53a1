import SqlBuilder.Proofs.IndependentCalls
import SqlBuilder.Proofs.Memories
import SqlBuilder.Session

/-!
# What calls write

A call makes a query out of what the query in the memory reads as, and the writes of its method carry that over.
Where they are all that the call changes, the query in the memory reads as what was made.

* `Memory.query_writeAll`: a query after writes, read field by field.
* `Memory.ofQuery_creates`: a new query reads as the one that it was made from.
* `Mutation.Cover`: the writes are all that is different between two queries.
* `Mutation.calls_written`: each call changes what its method writes.
* `Mutation.call_covered`: so does every call by name, and one that fails changes in place only.
-/

namespace SqlBuilder

/-! ## Parts of a query -/

/-- A statement with other entries of a clause. -/
def Statement.setEntries (s : Statement Value) : (g : Grouping) → List g.Entry → Statement Value
  | .commonTables, entries => { s with commonTables := entries }
  | .projection, entries => { s with projection := entries }
  | .joins, entries => { s with joins := entries }
  | .wheres, entries => { s with wheres := entries }
  | .unions, entries => { s with unions := entries }
  | .groups, entries => { s with groups := entries }
  | .orders, entries => { s with orders := entries }
  | .havings, entries => { s with havings := entries }

/-- A query with a field of another one. -/
def Field.take (q' q : Query Value) : Field → Query Value
  | .method => q.edit fun s => { s with method := q'.statement.method }
  | .table => q.edit fun s => { s with table := q'.statement.table }
  | .schema => q.edit fun s => { s with schema := q'.statement.schema }
  | .asName => q.edit fun s => { s with asName := q'.statement.asName }
  | .limit => q.edit fun s => { s with limit := q'.statement.limit }
  | .offset => q.edit fun s => { s with offset := q'.statement.offset }
  | .lock => q.edit fun s => { s with lock := q'.statement.lock }
  | .lockTables => q.edit fun s => { s with lockTables := q'.statement.lockTables }
  | .wait => q.edit fun s => { s with wait := q'.statement.wait }
  | .insert => q.edit fun s => { s with insert := q'.statement.insert }
  | .update => q.edit fun s => { s with update := q'.statement.update }
  | .upsert => q.edit fun s => { s with upsert := q'.statement.upsert }
  | .counters => q.edit fun s => { s with counters := q'.statement.counters }
  | .returning => q.edit fun s => { s with returning := q'.statement.returning }
  | .conflict => q.edit fun s => { s with conflict := q'.statement.conflict }
  | .timeout => { q with timeout := q'.timeout }
  | .cancelOnTimeout => { q with cancelOnTimeout := q'.cancelOnTimeout }
  | .context => { q with context := q'.context }

/-- A query with a part of another one, as it is written. -/
def Mutation.take (q' q : Query Value) : Mutation → Query Value
  | .add g => q.edit fun s => s.setEntries g (q'.statement.entries g)
  | .drop g => q.edit fun s => s.setEntries g []
  | .count => q.edit fun s => { s with counters := q'.statement.counters }
  | .comment => q.edit fun s => { s with comments := q'.statement.comments }
  | .option => { q with options := q'.options }
  | .assign f => f.take q' q

namespace Memory

variable {m : Memory} {b : Ref .query} {q q' : Query Value}

/-! ## Reading what was written -/

section Reads

theorem query_assign (f : Field) : (m.assign b q' f).query b = f.take q' (m.query b) := by
  cases f with
  | conflict =>
    cases conflict : q'.statement.conflict <;>
      simp [assign, conflict, editModel, query, Memory.model, statement, entries, Field.take, Query.edit]
  | timeout | cancelOnTimeout | context =>
    simp [assign, editQuery, query, Memory.model, statement, entries, Field.take]
  | _ => simp [assign, editModel, query, Memory.model, statement, entries, Field.take, Query.edit]

theorem query_setList (g : Grouping) (list : Option Nat) :
    (m.setList b g list).query b = (m.query b).edit fun s => s.setEntries g (match list with
      | none => []
      | some i => m.get (⟨i⟩ : Ref (.entries g))) := by
  cases g <;> cases list <;> simp [setList, query, Memory.model, statement, entries, Query.edit, Statement.setEntries]

/-- What was written is what the query reads as. -/
theorem query_write (e : Mutation) : (m.write b q' e).query b = e.take q' (m.query b) := by
  cases e with
  | assign f => exact query_assign f
  | count | comment | option => simp [write, query, Memory.model, statement, entries, Mutation.take, Query.edit]
  | drop g => exact query_setList g none
  | add g =>
    simp only [write, Mutation.take]
    split
    · next list =>
      cases g <;> simp_all [query, Memory.model, statement, entries, Query.edit, Statement.setEntries]
    · next none_ empty =>
      cases g <;> simp_all [query, Memory.model, statement, entries, Query.edit, Statement.setEntries]
    · rw [newList, query_setList]
      cases g <;> simp [query, Memory.model, statement, entries, Query.edit, Statement.setEntries]

/-- So is all that was written, one part after another. -/
theorem query_writeAll (es : List Mutation) :
    (m.writeAll b q' es).query b = es.foldl (fun q e => e.take q' q) (m.query b) := by
  induction es generalizing m with
  | nil => rfl
  | cons e es ih =>
    rw [List.foldl_cons, ← query_write e]
    exact ih

/-- A new query reads as the query that it was made of. -/
theorem ofQuery_creates (m : Memory) (q : Query Value) :
    Creates m (m.ofQuery q).1 (m.ofQuery q).2 ∧ (m.ofQuery q).2.query (m.ofQuery q).1 = q := by
  obtain ⟨made, empty⟩ := m.newQuery_creates q.client
  refine ⟨made.works ((Works.refl made.holds).writeAll q _), ?_⟩
  change ((m.newQuery q.client).2.writeAll (m.newQuery q.client).1 q Mutation.all).query (m.newQuery q.client).1 = q
  rw [query_writeAll, empty]
  simp only [Mutation.all, Grouping.all, Field.all, List.map_cons, List.map_nil, List.cons_append, List.nil_append,
    List.foldl_cons, List.foldl_nil, Mutation.take, Field.take, Query.edit, Statement.setEntries, Statement.entries,
    Query.ofClient]

end Reads

end Memory

/-! ## What calls make of a query -/

namespace Mutation

variable {q q' : Query Value} {es : List Mutation}

/-- What was written of another query is all that is different in it. -/
def Cover (es : List Mutation) (q q' : Query Value) : Prop :=
  es.foldl (fun q e => e.take q' q) q = q'

theorem take_self {e : Mutation} (kept : ∀ g, e ≠ .drop g) : e.take q q = q := by
  cases e with
  | drop g => exact absurd rfl (kept g)
  | add g => cases g <;> rfl
  | assign f => cases f <;> rfl
  | _ => rfl

/-- A query that is as it was, unless a clause is forgotten. -/
theorem cover_self (kept : ∀ e ∈ es, ∀ g, e ≠ .drop g) : Cover es q q := by
  induction es with
  | nil => rfl
  | cons e es ih =>
    unfold Cover
    rw [List.foldl_cons, take_self (kept e List.mem_cons_self)]
    exact ih fun e' mem => kept e' (List.mem_cons_of_mem e mem)

theorem cover_inPlace (es : List Mutation) : Cover (es.filter inPlace) q q := by
  refine cover_self fun e mem g same => ?_
  subst same
  exact nomatch (List.mem_filter.mp mem).2

/-- What a call that writes a register writes. -/
def ofRegister : Register → List Mutation
  | .projection => [.add .projection]
  | .joins => [.add .joins]
  | .wheres => [.add .wheres]
  | .groups => [.add .groups]
  | .havings => [.add .havings]
  | .orders => [.add .orders]
  | .unions => [.add .unions]
  | .commonTables => [.add .commonTables]
  | .limit => [.assign .limit]
  | .offset => [.assign .offset]

/-! ### Rows of methods -/

theorem clauseRows_eq : clauseRows = Register.all.map fun g => (g.methods, fun _ => ofRegister g) :=
  rfl

/-- The methods of a register write nothing else. -/
theorem ofMethod_register {name : String} {g : Register} (of : Register.ofMethod? name = some g) (a : Arguments) :
    ofMethod name a = ofRegister g := by
  have found : clauseRows.find? (fun row => row.1.contains name) = some (g.methods, fun _ => ofRegister g) := by
    rw [clauseRows_eq, List.find?_map]
    exact congrArg (Option.map _) of
  rw [ofMethod, fromRows, List.find?_append, found, Option.some_or]

theorem ofMethod_other {name : String} (of : Register.ofMethod? name = none) (a : Arguments) :
    ofMethod name a = fromRows otherRows name a := by
  have none_ : clauseRows.find? (fun row => row.1.contains name) = none := by
    rw [clauseRows_eq, List.find?_map]
    exact congrArg (Option.map _) of
  rw [ofMethod, fromRows, List.find?_append, none_, Option.none_or, fromRows]

/-- Entries of one register are all that is different. -/
theorem cover_put {g : Register} {entries : List Entry} (of : ∀ e ∈ entries, e.register = g) :
    Cover (ofRegister g) q (q.put entries) := by
  have others : entries.filter (·.register ≠ g) = [] := by simpa [List.filter_eq_nil_iff] using of
  have same : (q.put entries).edit g.emptied = q.edit g.emptied := by
    rw [Query.put_emptied, others, Query.put_nil]
  -- with the entries of the register put back, these are the two queries
  have put_back := congrArg (fun r => (ofRegister g).foldl (fun r e => e.take (q.put entries) r) r) same
  cases g <;> exact put_back.symm

/-! ### Kinds of calls -/

end Mutation

/-- Whether a callback is still to put a part of the query together. -/
def QueryStep.isOpen : QueryStep → Bool
  | .join _ _ | .window _ _ => true
  | _ => false

namespace Mutation

variable {q q' : Query Value} {es : List Mutation}

/-- A step of a call writes parts of the query, leaves the rest of it as it was, and leaves nothing to a callback. -/
def Writes (es : List Mutation) (step : Build (Query Value) QueryStep) : Prop :=
  ∀ q r q', step q = .ok r q' → Cover es q q' ∧ r.isOpen = false

namespace Writes

variable {a : Arguments}

theorem attempt {f : Query Value → Except Error (Query Value)} (h : ∀ q q', f q = .ok q' → Cover es q q') :
    Writes es (QueryCall.attempt f) := by
  intro q r q' run
  rw [QueryCall.attempt_eq] at run
  split at run
  next given =>
    cases run
    exact ⟨h q q' given, rfl⟩
  · cases run

/-- A change that looks at its arguments first. -/
theorem attempt_bind {α : Type} {x : Except Error α} {f : α → Query Value → Except Error (Query Value)}
    (h : ∀ v, x = .ok v → ∀ q q', f v q = .ok q' → Cover es q q') :
    Writes es (QueryCall.attempt fun q => x >>= fun v => f v q) := by
  refine .attempt fun q q' given => ?_
  cases bound : x with
  | ok v => exact h v bound q q' (by rwa [bound] at given)
  | error e =>
    rw [bound] at given
    nomatch given

theorem single {parameter : String} {f : Query Value → Value → Query Value} (h : ∀ q v, Cover es q (f q v)) :
    Writes es (QueryCall.single a parameter f) :=
  .attempt_bind fun v _ q _ made => by
    cases made
    exact h q v

theorem columns {f : Query Value → List Value → Query Value} (h : ∀ q columns, Cover es q (f q columns)) :
    Writes es (QueryCall.columns a f) :=
  .attempt_bind fun _ _ q _ made => by
    cases made
    exact h q _

/-- A call after which something is still to be done changes nothing itself. -/
theorem pending {step : Build (Query Value) QueryStep} (h : QueryCall.Tidy step)
    (going : ∀ q r q', step q = .ok r q' → r ≠ .stay ∧ r.isOpen = false) : Writes [] step := by
  intro q r q' run
  obtain ⟨goes, closed⟩ := going q r q' run
  obtain rfl := (h.pending run).resolve_left goes
  exact ⟨rfl, closed⟩

end Writes

theorem returningIf_eq (v : Value) : (v.present? = none ∧ ∀ q : Query Value, q.returningIf v = q) ∨
    (v.present?.isSome ∧ ∃ columns, ∀ q : Query Value, q.returningIf v = q.returning columns) := by
  cases v with
  | scalar s => cases s <;> first | exact .inl ⟨rfl, fun _ => rfl⟩ | exact .inr ⟨rfl, _, fun _ => rfl⟩
  | _ => exact .inr ⟨rfl, _, fun _ => rfl⟩

/-- The columns to return are written if some are named. -/
theorem returned_eq {a : Arguments} {parameters : List String} {required : Nat} {b : Bound}
    (bound : a.bind parameters required = .ok b) :
    (returned a parameters required = [] ∧ ∀ q : Query Value, q.returningIf (b.get "returning") = q) ∨
      (returned a parameters required = [.assign .returning] ∧
        ∃ columns, ∀ q : Query Value, q.returningIf (b.get "returning") = q.returning columns) := by
  unfold returned
  rw [bound]
  obtain ⟨absent, same⟩ | ⟨present, columns, returns⟩ := returningIf_eq (b.get "returning")
  · exact .inl ⟨by simp [absent], same⟩
  · exact .inr ⟨by simp [present], columns, returns⟩

theorem clear_covered {v : Value} (run : q.clear v = .ok q') : Cover (clearing v) q q' := by
  unfold Query.clear at run
  split at run <;> cases run <;> simp only [clearing] <;> rfl

/-- An outcome without effects. -/
theorem outcome_ok {σ α : Type} {x : Except Error α} {v : α} {s s' : σ} (run : liftExcept x s = .ok v s') :
    x = .ok v ∧ s' = s := by
  cases x <;> cases run
  exact ⟨rfl, rfl⟩

theorem countAll_covered {sign : Sign} {entries : List (Value × Value)}
    (run : Query.countAll sign entries q = .ok () q') : Cover [.count, .assign .method] q q' := by
  induction entries generalizing q with
  | nil =>
    cases run
    rfl
  | cons entry entries ih =>
    obtain ⟨c, q₁, read, counted⟩ := Build.bind_ok.mp run
    obtain ⟨-, rfl⟩ := outcome_ok read
    obtain ⟨⟨⟩, q₂, ⟨⟩, rest⟩ := Build.bind_ok.mp counted
    have covered := ih rest
    exact covered

theorem addEach_covered {items : List Value} (run : QueryCall.addEach items q = .ok () q') :
    Cover [.option] q q' := by
  induction items generalizing q with
  | nil =>
    cases run
    rfl
  | cons item items ih =>
    obtain ⟨⟨⟩, q₁, added, rest⟩ := Build.bind_ok.mp run
    obtain ⟨q₂, q₃, ⟨⟩, changed⟩ := Build.bind_ok.mp added
    obtain ⟨q₄, q₅, made, ⟨⟩⟩ := Build.bind_ok.mp changed
    obtain ⟨read, rfl⟩ := outcome_ok made
    cases given : item.entry with
    | error e =>
      rw [given] at read
      nomatch read
    | ok entry =>
      rw [given] at read
      cases read
      have covered := ih rest
      exact covered

namespace Writes

variable {a : Arguments}

theorem counter (sign : Sign) : Writes [.count, .assign .method] (QueryCall.counter a sign) := by
  intro q r q' run
  obtain ⟨b, q₁, bound, rest⟩ := Build.bind_ok.mp run
  obtain ⟨-, rfl⟩ := outcome_ok bound
  obtain ⟨⟨⟩, q₂, counted, ⟨⟩⟩ := Build.bind_ok.mp rest
  rw [Query.count_eq] at counted
  exact ⟨countAll_covered counted, rfl⟩

theorem options : Writes [.option] (QueryCall.options a) := by
  intro q r q' run
  obtain ⟨v, q₁, given, rest⟩ := Build.bind_ok.mp run
  obtain ⟨-, rfl⟩ := outcome_ok given
  cases map : v.entries? with
  | some entries =>
    rw [map] at rest
    cases rest
    exact ⟨rfl, rfl⟩
  | none =>
    rw [map] at rest
    obtain ⟨items, q₂, listed, adds⟩ := Build.bind_ok.mp rest
    obtain ⟨-, rfl⟩ := outcome_ok listed
    obtain ⟨⟨⟩, q₃, added, ⟨⟩⟩ := Build.bind_ok.mp adds
    exact ⟨addEach_covered added, rfl⟩

theorem context : Writes [.assign .context] (QueryCall.context a) := by
  intro q r q' run
  obtain ⟨b, q₁, bound, rest⟩ := Build.bind_ok.mp run
  obtain ⟨-, rfl⟩ := outcome_ok bound
  cases given : b.given? "context" <;> rw [given] at rest <;> cases rest <;> exact ⟨rfl, rfl⟩

/-- A write that returns columns if it is given some. -/
theorem cover_returned {parameters : List String} {required : Nat} {b : Bound}
    (bound : a.bind parameters required = .ok b) (plain : Cover es q q')
    (returning : ∀ columns, Cover (es ++ [.assign .returning]) q (q'.returning columns)) :
    Cover (es ++ returned a parameters required) q (q'.returningIf (b.get "returning")) := by
  obtain ⟨row, same⟩ | ⟨row, columns, returns⟩ := returned_eq bound
  · rw [row, same, List.append_nil]
    exact plain
  · rw [row, returns]
    exact returning columns

theorem insert : Writes ([.assign .method, .assign .insert] ++ returned a ["values", "returning"] 1)
    (QueryCall.attempt fun q => do
      let b ← a.bind ["values", "returning"] 1
      return q.insert (b.get "values") (b.get "returning")) :=
  .attempt_bind fun _ bound _ _ made => by
    cases made
    exact cover_returned bound rfl fun _ => rfl

theorem upsert : Writes ([.assign .method, .assign .upsert] ++ returned a ["values", "returning"] 1)
    (QueryCall.attempt fun q => do
      let b ← a.bind ["values", "returning"] 1
      return q.upsert (b.get "values") (b.get "returning")) :=
  .attempt_bind fun _ bound _ _ made => by
    cases made
    exact cover_returned bound rfl fun _ => rfl

theorem update : Writes ([.assign .method, .assign .update] ++ returned a ["values", "value", "returning"] 1)
    (QueryCall.attempt fun q => do
      let b ← a.bind ["values", "value", "returning"] 1
      q.update (b.get "values") (b.given? "value") (b.get "returning")) :=
  .attempt_bind fun _ bound _ _ made => by
    unfold Query.update at made
    split at made <;> cases made <;> exact cover_returned bound rfl fun _ => rfl

theorem delete : Writes ([.assign .method] ++ returned a ["returning"] 0)
    (QueryCall.attempt fun q => do
      let b ← a.bind ["returning"] 0
      return q.delete (b.get "returning")) :=
  .attempt_bind fun _ bound _ _ made => by
    cases made
    exact cover_returned bound rfl fun _ => rfl

theorem wait (mode : WaitMode) : Writes [.assign .wait] (QueryCall.wait a mode) := by
  refine .attempt_bind fun _ _ q q' made => ?_
  unfold Query.wait at made
  split at made <;> cases made
  rfl

theorem comment : Writes [.comment] (QueryCall.attempt fun q => do q.comment (← a.one "text")) := by
  refine .attempt_bind fun v _ q q' made => ?_
  unfold Query.comment at made
  split at made
  · split at made <;> cases made
    rfl
  · cases made

theorem timeout : Writes [.assign .timeout, .assign .cancelOnTimeout] (QueryCall.attempt fun q => do
    let b ← a.bind ["ms", "cancel"] 1
    q.setTimeout (b.get "ms") (b.given? "cancel")) := by
  refine .attempt_bind fun b _ q q' made => ?_
  unfold Query.setTimeout at made
  split at made
  · split at made <;> cases made
    rfl
  · cases made

theorem clear {clause : String} (is : clearing (.str clause) = es) : Writes es (QueryCall.clear a clause) :=
  .attempt_bind fun _ _ _ _ made => is ▸ clear_covered made

theorem clearNamed : Writes ((a.one "statement").toOption.elim [] clearing)
    (QueryCall.attempt fun q => do q.clear (← a.one "statement")) := by
  refine .attempt_bind fun v given q q' made => ?_
  rw [given]
  exact clear_covered made

theorem conflict : Writes [] (QueryCall.conflict a) :=
  .pending (QueryCall.conflict_tidy a) fun q r q' run => by
    obtain ⟨_, _, -, ⟨⟩⟩ := Build.bind_ok.mp run
    exact ⟨nofun, rfl⟩

theorem copy : Writes [] (QueryCall.copy a) :=
  .pending (QueryCall.copy_tidy a) fun q r q' run => by
    obtain ⟨_, _, -, ⟨⟩⟩ := Build.bind_ok.mp run
    exact ⟨nofun, rfl⟩

theorem output (form : OutputForm) : Writes [] (QueryCall.output a form) :=
  .pending (QueryCall.output_tidy a form) fun q r q' run => by
    obtain ⟨_, _, -, ⟨⟩⟩ := Build.bind_ok.mp run
    exact ⟨nofun, rfl⟩

theorem extension : Writes [] (QueryCall.extension a) :=
  .pending (QueryCall.extension_tidy a) fun q r q' run => by
    obtain ⟨b, q₁, -, rest⟩ := Build.bind_ok.mp run
    generalize b.get "name" = v at rest
    cases v with
    | scalar s =>
      cases s with
      | str name =>
        dsimp only at rest
        split at rest <;> cases rest
        exact ⟨nofun, rfl⟩
      | _ => cases rest
    | _ => cases rest

theorem removal : Writes [] (QueryCall.removal a) :=
  .pending (QueryCall.removal_tidy a) fun q r q' run => by
    obtain ⟨_, _, -, rest⟩ := Build.bind_ok.mp run
    split at rest <;> cases rest
    exact ⟨nofun, rfl⟩

end Writes

/-! ### Calls by name -/

open Query QueryCall Register in
/-- Every other call writes what its method writes. -/
theorem calls_written :
    ∀ c ∈ calls, ∀ name ∈ c.1, ofMethod? name = none → ∀ a, Writes (fromRows otherRows name a) (c.2 a) := by
  -- the methods that write no register, one by one
  simp only [calls, ofMethod?, Register.all, methods, List.find?_cons, List.find?_nil, List.mem_cons,
    List.not_mem_nil, or_false, forall_eq_or_imp, forall_eq, List.contains_cons, List.contains_nil, String.reduceBEq,
    Bool.or_false, Bool.false_or, reduceCtorEq, false_imp_iff, true_and, forall_const]
  -- what each of them writes
  simp only [fromRows, otherRows, List.find?_cons, List.find?_nil, List.contains_cons, List.contains_nil,
    String.reduceBEq, Bool.or_false, Bool.or_true]
  exact ⟨⟨fun _ => .single fun _ _ => rfl, fun _ => .single fun _ _ => rfl, fun _ => .single fun _ _ => rfl⟩,
    fun _ => .single fun _ _ => rfl, fun _ => .single fun _ _ => rfl,
    fun _ => .columns fun _ columns => by cases columns <;> rfl,
    fun _ => .columns fun _ _ => rfl, fun _ => .columns fun _ _ => rfl, fun _ => .columns fun _ _ => rfl,
    fun _ => .columns fun _ _ => rfl, fun _ => .wait _, fun _ => .wait _, fun _ => .insert, fun _ => .upsert,
    fun _ => .update, fun _ => .counter _, fun _ => .counter _, ⟨fun _ => .delete, fun _ => .delete⟩,
    fun _ => .attempt_bind fun _ _ _ _ made => by cases made; rfl, fun _ => .columns fun _ _ => rfl,
    fun _ => .conflict, fun _ => .comment, fun _ => .timeout, fun _ => .options, fun _ => .context, fun _ => .copy,
    fun _ => .clearNamed, fun _ => .clear rfl, fun _ => .clear rfl, fun _ => .clear rfl, fun _ => .clear rfl,
    fun _ => .clear rfl, fun _ => .clear rfl, fun _ => .output _, fun _ => .output _, fun _ => .output _,
    fun _ => .extension, fun _ => .removal⟩

/-- What is still to be done after a call, once its callback has put a part of the query together. -/
def Completes (es : List Mutation) (q q' : Query Value) : QueryStep → Prop
  | .join _ _ => ∀ j, Cover es q (q'.addJoin j)
  | .window _ _ => ∀ w, Cover es q (q'.addWindow w)
  | _ => True

theorem completes_closed {r : QueryStep} (closed : r.isOpen = false) : Completes es q q' r := by
  cases r <;> first | exact trivial | cases closed

theorem call_register {name : String} {g : Register} (of : Register.ofMethod? name = some g) {a : Arguments}
    {r : QueryStep} (run : Query.call name a q = .ok r q') :
    Cover (ofMethod name a) q q' ∧ Completes (ofMethod name a) q q' r := by
  rw [ofMethod_register of]
  obtain ⟨ends, entries, own, puts⟩ := Query.call_confined of a q r q' run
  cases run.symm.trans (puts q (Query.Alike.refl.on g))
  refine ⟨cover_put own, ?_⟩
  have one_more (e : Entry) (last : e.register = g) : Cover (ofRegister g) q ((q.put entries).put [e]) := by
    rw [← Query.put_append]
    exact cover_put (by simpa [or_imp, forall_and, last] using own)
  cases r with
  | join chains j => exact fun j => one_more (.join j) ends.symm
  | window chains w => exact fun w => one_more (.projection (.window w)) ends.symm
  | _ => exact trivial

theorem otherRows_sublist : (otherRows.flatMap (·.1)).isSublist (Query.calls.flatMap (·.1)) := by
  decide +kernel

/-- What is no method of queries writes nothing. -/
theorem ofMethod_unknown {name : String} (of : Register.ofMethod? name = none)
    (unknown : Query.calls.find? (fun c => c.1.contains name) = none) (a : Arguments) : ofMethod name a = [] := by
  have none_ : otherRows.find? (fun row => row.1.contains name) = none := by
    refine List.find?_eq_none.mpr fun row mem named => ?_
    have method := (List.isSublist_iff_sublist.mp otherRows_sublist).subset
      (List.mem_flatMap.mpr ⟨row, mem, List.contains_iff_mem.mp named⟩)
    obtain ⟨c, member, listed⟩ := List.mem_flatMap.mp method
    exact List.find?_eq_none.mp unknown c member (List.contains_iff_mem.mpr listed)
  rw [ofMethod_other of, fromRows, none_]

/-- What a method writes is what it changes, and a call that fails changes in place only. -/
theorem call_covered {name : String} {a : Arguments} :
    (∀ r, Query.call name a q = .ok r q' → Cover (ofMethod name a) q q' ∧ Completes (ofMethod name a) q q' r) ∧
      ∀ e, Query.call name a q = .error e q' → Cover ((ofMethod name a).filter inPlace) q q' := by
  constructor
  · intro r run
    cases of : Register.ofMethod? name with
    | some g => exact call_register of run
    | none =>
      unfold Query.call at run
      cases found : Query.calls.find? fun call => call.1.contains name with
      | some c =>
        rw [found] at run
        have named : name ∈ c.1 := by simpa using List.find?_some found
        rw [ofMethod_other of]
        obtain ⟨covers, closed⟩ := calls_written c (List.mem_of_find?_eq_some found) name named of a q r q' run
        exact ⟨covers, completes_closed closed⟩
      | none =>
        rw [found] at run
        rw [ofMethod_unknown of found]
        dsimp only at run
        split at run <;> cases run
        exact ⟨rfl, trivial⟩
  · intro e run
    cases Query.call_left run with
    | same => exact cover_inPlace _
    | ordered bound list taken refused =>
      obtain ⟨added, rfl⟩ := (Query.onlyOrders_orderByAll _ _).ok taken
      rw [ofMethod_register (g := .orders) (by decide)]
      rfl
    | counted signed bound map taken refused =>
      have row : ofMethod name a = [.count, .assign .method] := by
        obtain named | named := List.mem_cons.mp signed
        · cases named
          exact ofMethod_other (by decide) a
        · cases List.mem_singleton.mp named
          exact ofMethod_other (by decide) a
      rw [row]
      rfl
    | optioned bound list taken refused =>
      rw [ofMethod_other (by decide)]
      rfl

end Mutation

end SqlBuilder
