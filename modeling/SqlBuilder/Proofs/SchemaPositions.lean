import SqlBuilder.Proofs.IndependentCalls
import SqlBuilder.Proofs.JoinConditions
import SqlBuilder.Proofs.QualifiedNames

/-!
# Where the schema of a query is set

The table of a query is looked for in the schema that the query has in the end, a joined table in the one that it
had when the table was joined. So the call that sets the schema may stand anywhere among calls that join no tables,
and each join that it is moved past is rendered with the schema or without it.

* `Query.relocate`: a query whose schema is set, also for its joins from a position on.
* `Query.AddsJoins`: a change of queries that adds joins in the schema that it finds.
* `Environment.calledAll_adds`: what calls on a query come to.
* `Environment.calledAll_withSchema`: the same calls with one more that sets the schema.
* `Environment.schema_positions`: the tables of the compiled query, by the position of that call.
-/

namespace SqlBuilder

open List (Forall₂)

/-! ## Joins in a schema -/

namespace Join

/-- A join of a table in a schema. A raw join stands for itself. -/
def inSchema (schema : Option Value) (j : Join Value) : Join Value :=
  if j.raw then j else { j with schema }

@[simp] theorem inSchema_raw (schema : Option Value) (j : Join Value) : (j.inSchema schema).raw = j.raw := by
  unfold inSchema
  split <;> rfl

@[simp] theorem inSchema_inSchema (schema schema' : Option Value) (j : Join Value) :
    (j.inSchema schema).inSchema schema' = j.inSchema schema' := by
  unfold inSchema
  by_cases raw : j.raw <;> simp [raw]

theorem schema_inSchema (schema : Option Value) {j : Join Value} (named : j.raw = false) :
    (j.inSchema schema).schema = schema := by
  simp [inSchema, named]

theorem inSchema_record (schema : Option Value) (j : Join Value) (cs : List (Condition Value)) :
    (j.record cs).inSchema schema = (j.inSchema schema).record cs := by
  unfold inSchema record
  by_cases raw : j.raw <;> simp [raw]

end Join

/-! ## Changes that add joins -/

namespace Query

/-- A query whose schema is set, also for its joins from a position on. -/
def relocate (q : Query Value) (schema : Option Value) (n : Nat) : Query Value :=
  q.edit fun s => { s with schema, joins := s.joins.mapIdx fun i j => if i < n then j else j.inSchema schema }

/-- Setting the schema leaves all joins as they are. -/
theorem withSchema_eq_relocate (q : Query Value) (schema : String) :
    q.withSchema (.str schema) = q.relocate (some (.str schema)) q.statement.joins.length := by
  have joins : (q.statement.joins.mapIdx fun i j =>
      if i < q.statement.joins.length then j else j.inSchema (some (.str schema))) = q.statement.joins := by
    refine List.ext_getElem (by simp) fun i _ bound => ?_
    simp [bound]
  simp only [relocate, withSchema, edit, Value.present?, joins]

/-- A query that has the schema already, and whose joins have it from the position on, stays as it is. -/
theorem relocate_eq_self {q : Query Value} {n : Nat}
    (kept : ∀ i (bound : i < q.statement.joins.length), n ≤ i →
      q.statement.joins[i].inSchema q.statement.schema = q.statement.joins[i]) :
    q.relocate q.statement.schema n = q := by
  have joins : (q.statement.joins.mapIdx fun i j => if i < n then j else j.inSchema q.statement.schema) =
      q.statement.joins := by
    refine List.ext_getElem (by simp) fun i _ bound => ?_
    rw [List.getElem_mapIdx]
    split
    · rfl
    next behind => exact kept i bound (Nat.le_of_not_lt behind)
  rw [relocate, edit, joins]

/-- The joins of a relocated query. -/
theorem joins_relocate (q : Query Value) (schema : Option Value) (n i : Nat) :
    (q.relocate schema n).statement.joins[i]? =
      q.statement.joins[i]?.map fun j => if i < n then j else j.inSchema schema := by
  simp [relocate, edit]

/-- A change of queries that adds some joins, each in the schema that the query has. -/
structure AddsJoins (f : Query Value → Query Value) (count : Nat) : Prop where
  client : ∀ q, (f q).client = q.client
  method : ∀ q, (f q).statement.method = q.statement.method
  joins : ∀ q, (f q).statement.joins.length = q.statement.joins.length + count
  relocates : ∀ q schema n, n ≤ q.statement.joins.length → f (q.relocate schema n) = (f q).relocate schema n

namespace AddsJoins

variable {f g : Query Value → Query Value} {count more : Nat}

theorem refl : AddsJoins id 0 where
  client _ := rfl
  method _ := rfl
  joins _ := rfl
  relocates _ _ _ _ := rfl

theorem comp (h : AddsJoins f count) (h' : AddsJoins g more) : AddsJoins (g ∘ f) (count + more) where
  client q := (h'.client _).trans (h.client q)
  method q := (h'.method _).trans (h.method q)
  joins q := by rw [Function.comp_apply, h'.joins, h.joins, Nat.add_assoc]
  relocates q schema n bound := by
    have longer : n ≤ (f q).statement.joins.length := by
      rw [h.joins]
      omega
    rw [Function.comp_apply, Function.comp_apply, h.relocates q schema n bound, h'.relocates _ schema n longer]

theorem from_ (table : Value) : AddsJoins (fun q => q.from_ table) 0 where
  client _ := rfl
  method _ := rfl
  joins _ := rfl
  relocates _ _ _ _ := rfl

/-- Entries that are no joins. -/
theorem put {es : List Entry} (others : ∀ e ∈ es, e.register ≠ .joins) : AddsJoins (fun q => q.put es) 0 := by
  induction es with
  | nil => exact refl
  | cons e es ih =>
    have first : AddsJoins (fun q => q.put [e]) 0 := by
      have other := others e (.head _)
      cases e with
      | join j => exact absurd rfl other
      | _ => exact ⟨fun _ => rfl, fun _ => rfl, fun _ => rfl, fun _ _ _ _ => rfl⟩
    exact first.comp (ih fun e mem => others e (.tail _ mem))

/-- A join in the schema of the query. -/
theorem addJoin (j : Join Value) : AddsJoins (fun q => q.addJoin (j.inSchema q.statement.schema)) 1 where
  client _ := rfl
  method _ := rfl
  joins q := by simp [Query.addJoin, edit]
  relocates q schema n bound := by
    simp [Query.addJoin, relocate, edit, List.mapIdx_append, Nat.not_lt.mpr bound]

/-- If there were no joins before, all of them are in the schema of the query. -/
theorem inSchema_eq (h : AddsJoins f count) {q : Query Value} (none_ : q.statement.joins = []) :
    ∀ j ∈ (f q).statement.joins, j.inSchema q.statement.schema = j := by
  have same : q.relocate q.statement.schema 0 = q := relocate_eq_self (by simp [none_])
  have kept := h.relocates q q.statement.schema 0 (Nat.zero_le _)
  rw [same] at kept
  intro j mem
  rw [kept] at mem
  obtain ⟨i, bound, rfl⟩ := List.getElem_of_mem mem
  simp [relocate, edit]

end AddsJoins

end Query

/-! ## Calls that join tables -/

namespace Evaluator

variable {ev : Evaluator}

/-- Calls that succeed on a join record the same conditions on every join. -/
theorem calls_everywhere {chain : Chain} {m m' : Making (Join Value)} (run : ev.calls joinStep chain m = .ok () m') :
    ∃ cs, ∀ j, ev.calls joinStep chain { m with object := j } = .ok () { m' with object := j.record cs } := by
  induction chain generalizing m with
  | nil =>
    cases run
    exact ⟨[], fun j => by rw [Join.record_nil]; rfl⟩
  | cons call chain ih =>
    rw [Evaluator.calls] at run
    obtain ⟨a, m₁, evaluated, run⟩ := Build.bind_ok.mp run
    obtain ⟨⟨⟩, m₂, step, run⟩ := Build.bind_ok.mp run
    unfold Make.ofLogged at evaluated
    split at evaluated
    next events arguments =>
      cases evaluated
      obtain ⟨c, records, rfl⟩ := joinStep_ok step
      obtain ⟨cs, others⟩ := ih run
      refine ⟨c :: cs, fun j => ?_⟩
      have rest := others (j.record [c])
      rw [Join.record_record] at rest
      rw [Evaluator.calls]
      refine Build.bind_ok.mpr ⟨a, { object := j, events }, ?_, Build.bind_ok.mpr ⟨(), _, ?_, rest⟩⟩
      · unfold Make.ofLogged
        simp only [arguments]
      · rw [joinStep_eq]
        simp only [records.adds j]
    · cases evaluated

/-- A callback that puts a join together records the same conditions on every join. -/
theorem onObject_everywhere {chains : List Chain} {j j' : Join Value} {events events' : List LogEvent}
    (run : ev.onObject Join.call chains j events = .ok j' events') :
    ∃ cs, ∀ j₂, ev.onObject Join.call chains j₂ events = .ok (j₂.record cs) events' := by
  induction chains generalizing j events with
  | nil =>
    cases run
    exact ⟨[], fun j₂ => by rw [Join.record_nil]; rfl⟩
  | cons chain chains ih =>
    rw [onObject, List.foldlM_cons] at run
    obtain ⟨j₁, events₁, first, run⟩ := Build.bind_ok.mp run
    unfold onBuilder Make.finish at first
    split at first
    next made =>
      cases first
      obtain ⟨cs, here⟩ := calls_everywhere made
      obtain ⟨more, others⟩ := ih run
      refine ⟨cs ++ more, fun j₂ => ?_⟩
      rw [onObject, List.foldlM_cons, ← Join.record_record]
      refine Build.bind_ok.mpr ⟨j₂.record cs, _, ?_, others (j₂.record cs)⟩
      change Make.finish (ev.calls joinStep chain) j₂ events = _
      unfold Make.finish
      simp only [here j₂]
    · cases first

end Evaluator

namespace QueryCall

/-- What a call that joins a table comes to: a join in the schema of the query, which is added, or which a callback
puts together. -/
theorem join_ok {kind : String} {a : Arguments} {q q' : Query Value} {step : QueryStep}
    (run : QueryCall.join kind a q = .ok step q') : ∃ j : Join Value,
    (∀ q₂, QueryCall.join kind a q₂ = .ok .stay (q₂.addJoin (j.inSchema q₂.statement.schema))) ∨
      ∃ chains, ∀ q₂, QueryCall.join kind a q₂ = .ok (.join chains (j.inSchema q₂.statement.schema)) q₂ := by
  cases bound : a.bind ["table", "first", "operator", "second"] 1 with
  | error e =>
    unfold QueryCall.join at run
    rw [bound] at run
    cases run
  | ok b =>
    let table := b.get "table"
    let j : Join Value := { table, kind }
    have columns (first : Value) : ∃ c, ∀ q₂ : Query Value,
        (q₂.joinOf kind table).on .and none first (b.given? "operator") (b.given? "second") =
          (j.record [c]).inSchema q₂.statement.schema := by
      obtain ⟨e, failed⟩ | ⟨c, -, -, adds⟩ :=
        Join.recording_on .and none first (b.given? "operator") (b.given? "second")
      · cases failed j
      · refine ⟨c, fun q₂ => ?_⟩
        rw [j.inSchema_record]
        exact Except.ok.inj (adds _)
    cases given : b.given? "first" with
    | none =>
      have bare (q₂ : Query Value) : QueryCall.join kind a q₂ =
          always (fun q => if table.isRaw then q.rawJoin table else q.addJoin (q₂.joinOf kind table)) q₂ := by
        unfold QueryCall.join
        simp only [bound, liftExcept, pure_bind, given]
        rfl
      by_cases raw : table.isRaw = true
      · refine ⟨{ table, raw := true }, .inl fun q₂ => ?_⟩
        rw [bare]
        simp only [raw, if_true]
        rfl
      · refine ⟨j, .inl fun q₂ => ?_⟩
        rw [bare]
        simp only [raw]
        rfl
    | some first =>
      cases first with
      | callback chains =>
        refine ⟨j, .inr ⟨chains, fun q₂ => ?_⟩⟩
        unfold QueryCall.join
        simp only [bound, liftExcept, pure_bind, given]
        rfl
      | _ =>
        obtain ⟨c, recorded⟩ := columns _
        refine ⟨j.record [c], .inl fun q₂ => ?_⟩
        rw [← recorded]
        unfold QueryCall.join
        simp only [bound, liftExcept, pure_bind, given]
        rfl

end QueryCall

/-- The methods that join tables. -/
theorem Query.call_joins {name : String} (of : Register.ofMethod? name = some .joins) :
    ∃ kind, ∀ a, Query.call name a = QueryCall.join kind a := by
  have methods := Query.mem_methods of
  simp only [Register.methods, List.mem_cons, List.not_mem_nil, or_false] at methods
  rcases methods with rfl | rfl | rfl | rfl | rfl | rfl | rfl | rfl <;> exact ⟨_, fun _ => rfl⟩

namespace QueryCursor

variable {ev : Evaluator} {outputs : Outputs} {extension : Option (Arguments → Make QueryCursor Unit)}
  {name : String} {a : Arguments} {q : Query Value} {events : List LogEvent} {m : Making QueryCursor}

/-- A call that joins a table adds the same join to every query, in the schema of that query. -/
theorem call_join (of : Register.ofMethod? name = some .joins)
    (run : QueryCursor.call ev.callbacks outputs extension name a (start q events) = .ok () m) :
    ∃ j : Join Value, ∀ q₂ : Query Value, QueryCursor.call ev.callbacks outputs extension name a (start q₂ events) =
      .ok () (start (q₂.addJoin (j.inSchema q₂.statement.schema)) m.events) := by
  have made : ev.callbacks.join = ev.onObject Join.call := rfl
  obtain ⟨kind, named⟩ := Query.call_joins of
  obtain ⟨next, same, stay, completes, -⟩ := call_start ev.callbacks outputs extension name a
  rw [same, named] at run
  obtain ⟨step, m₁, called, rest⟩ := Build.bind_ok.mp run
  obtain ⟨q₁, done, rfl⟩ := onCurrent_ok.mp called
  obtain ⟨j, added | ⟨chains, asked⟩⟩ := QueryCall.join_ok done
  · cases done.symm.trans (added q)
    rw [stay] at rest
    cases rest
    exact ⟨j, fun q₂ => call_stay (by rw [named]; exact added q₂)⟩
  · cases done.symm.trans (asked q)
    rw [completes, made] at rest
    obtain ⟨j', m₂, first, added⟩ := Build.bind_ok.mp rest
    obtain ⟨events', ran, rfl⟩ := ofLogged_ok.mp first
    cases added
    obtain ⟨cs, everywhere⟩ := Evaluator.onObject_everywhere ran
    refine ⟨j.record cs, fun q₂ => ?_⟩
    rw [same, named, j.inSchema_record]
    refine Build.bind_ok.mpr ⟨_, _, onCurrent_ok.mpr ⟨q₂, asked q₂, rfl⟩, ?_⟩
    rw [completes, made]
    exact Build.bind_ok.mpr ⟨_, _, ofLogged_ok.mpr ⟨events', everywhere _, rfl⟩, rfl⟩

end QueryCursor

/-! ## Calls on a query -/

/-- The methods that set the table. -/
def sourceMethods : List String :=
  ["from_", "table", "into"]

/-- Whether a call sets the table or writes a register. -/
def Call.builds (c : Call Term) : Bool :=
  sourceMethods.contains c.name || (Register.ofMethod? c.name).isSome

/-- The call that sets the schema. -/
def Call.withSchema (schema : String) : Call Term :=
  { name := "with_schema", arguments := [.scalar (.str schema)] }

/-- How many calls of a sequence join a table. -/
def Chain.joinCount (calls : Chain) : Nat :=
  calls.countP Register.joins.receives

namespace Environment

variable {env : Environment} {q r : Query Value} {c : Call Term} {calls : Chain}

/-- A call on a query runs its callbacks with some evaluator. -/
theorem evaluator_call (env : Environment) (name : String) : ∃ (ev : Evaluator) (outputs : Outputs)
    (extension : Option (Arguments → Make QueryCursor Unit)),
    ∀ a, env.evaluator.call name a = QueryCursor.call ev.callbacks outputs extension name a :=
  ⟨_, _, _, fun _ => rfl⟩

/-- A call that joins a table adds a join in the schema of the query, whatever that is. -/
theorem called_join (of : Register.ofMethod? c.name = some .joins) (run : env.called q c = .ok r) :
    ∃ j : Join Value, ∀ q₂, env.called q₂ c = .ok (q₂.addJoin (j.inSchema q₂.statement.schema)) := by
  obtain ⟨a, events, m, given, run, -⟩ := called_ok.mp run
  obtain ⟨ev, outputs, extension, same⟩ := env.evaluator_call c.name
  rw [same] at run
  obtain ⟨j, added⟩ := QueryCursor.call_join of run
  exact ⟨j, fun q₂ => called_ok.mpr ⟨a, events, _, given, (congrFun (same a) _).trans (added q₂), rfl⟩⟩

/-- A call that sets the table sets it to the same on every query. -/
theorem called_source (of : c.name ∈ sourceMethods) (run : env.called q c = .ok r) :
    ∃ table : Value, ∀ q₂, env.called q₂ c = .ok (q₂.from_ table) := by
  obtain ⟨a, events, m, given, run, -⟩ := called_ok.mp run
  have named : Query.call c.name a = QueryCall.single a "table" Query.from_ := by
    simp only [sourceMethods, List.mem_cons, List.not_mem_nil, or_false] at of
    rcases of with h | h | h <;> rw [h] <;> rfl
  obtain ⟨ev, outputs, extension, same⟩ := env.evaluator_call c.name
  rw [same] at run
  obtain ⟨next, started, stay, -⟩ := QueryCursor.call_start ev.callbacks outputs extension c.name a
  rw [started, named] at run
  obtain ⟨step, m₁, called, rest⟩ := Build.bind_ok.mp run
  obtain ⟨q₁, done, rfl⟩ := QueryCursor.onCurrent_ok.mp called
  cases one : a.one "table" with
  | error e =>
    rw [QueryCall.single, QueryCall.attempt_eq, one] at done
    cases done
  | ok table =>
    have set (q₂ : Query Value) : QueryCall.single a "table" Query.from_ q₂ = .ok .stay (q₂.from_ table) := by
      rw [QueryCall.single, QueryCall.attempt_eq, one]
      rfl
    cases done.symm.trans (set q)
    rw [stay] at rest
    cases rest
    refine ⟨table, fun q₂ => called_ok.mpr ⟨a, events, QueryCursor.start (q₂.from_ table) events, given, ?_, rfl⟩⟩
    rw [same]
    exact QueryCursor.call_stay (by rw [named]; exact set q₂)

/-- A call that sets the schema. -/
theorem called_withSchema (env : Environment) (schema : String) (q : Query Value) :
    env.called q (.withSchema schema) = .ok (q.withSchema (.str schema)) :=
  called_stay (a := { positional := [.str schema] }) rfl rfl

/-- A call that sets the table or writes a register adds the join that it asks for, if it does, in the schema of the
query, and is the same change of every query with the same client. -/
theorem called_adds (builds : c.builds) (run : env.called q c = .ok r) :
    ∃ f, Query.AddsJoins f (Chain.joinCount [c]) ∧ ∀ q₂, q₂.client = q.client → env.called q₂ c = .ok (f q₂) := by
  rw [Call.builds, Bool.or_eq_true, List.contains_iff_mem, Option.isSome_iff_exists] at builds
  rcases builds with source | ⟨g, of⟩
  · obtain ⟨table, sets⟩ := called_source source run
    have none_ : Chain.joinCount [c] = 0 := by
      simp only [sourceMethods, List.mem_cons, List.not_mem_nil, or_false] at source
      rw [Chain.joinCount, List.countP_singleton, Register.receives]
      rcases source with h | h | h <;> rw [h] <;> rfl
    rw [none_]
    exact ⟨_, .from_ table, fun q₂ _ => sets q₂⟩
  · have counted : Chain.joinCount [c] = if g = .joins then 1 else 0 := by
      rw [Chain.joinCount, List.countP_singleton, Register.receives, of]
      simp
    rw [counted]
    by_cases joins : g = .joins
    · subst joins
      obtain ⟨j, adds⟩ := called_join of run
      exact ⟨_, .addJoin j, fun q₂ _ => adds q₂⟩
    · obtain ⟨es, own, puts⟩ := called_confined of run
      rw [if_neg joins]
      refine ⟨_, .put fun e mem => ?_, fun q₂ client => puts q₂ ⟨client, fun h => absurd h joins⟩⟩
      rw [own e mem]
      exact joins

/-- Calls that set the table or write registers, made one after another. -/
theorem calledAll_adds (builds : ∀ c ∈ calls, c.builds) (run : env.calledAll q calls = .ok r) :
    ∃ f, Query.AddsJoins f (Chain.joinCount calls) ∧
      ∀ q₂, q₂.client = q.client → env.calledAll q₂ calls = .ok (f q₂) := by
  induction calls generalizing q with
  | nil => exact ⟨id, .refl, fun _ _ => rfl⟩
  | cons c calls ih =>
    obtain ⟨first, others⟩ := List.forall_mem_cons.mp builds
    unfold calledAll at run ⊢
    rw [List.foldlM_cons] at run
    cases made : env.called q c with
    | error e =>
      rw [made] at run
      cases run
    | ok q₁ =>
      rw [made] at run
      obtain ⟨f, adds, same⟩ := called_adds first made
      obtain ⟨g, more, rest⟩ := ih others run
      obtain rfl : q₁ = f q := Except.ok.inj (made.symm.trans (same q rfl))
      have count : Chain.joinCount (c :: calls) = Chain.joinCount [c] + Chain.joinCount calls := by
        rw [Chain.joinCount, List.countP_cons, Nat.add_comm, Chain.joinCount, List.countP_singleton, Chain.joinCount]
      rw [count]
      refine ⟨g ∘ f, adds.comp more, fun q₂ client => ?_⟩
      rw [List.foldlM_cons, same q₂ client]
      exact rest (f q₂) (by rw [adds.client, adds.client, client])

/-- Calls on a relocated query come to the relocated query. -/
theorem calledAll_relocate (builds : ∀ c ∈ calls, c.builds) {schema : Option Value} {n : Nat}
    (bound : n ≤ q.statement.joins.length) : env.calledAll (q.relocate schema n) calls = .ok r ↔
      ∃ r₀, env.calledAll q calls = .ok r₀ ∧ r = r₀.relocate schema n := by
  constructor
  · intro run
    obtain ⟨f, adds, same⟩ := calledAll_adds builds run
    refine ⟨f q, same q rfl, ?_⟩
    rw [← adds.relocates q schema n bound]
    exact Except.ok.inj (run.symm.trans (same _ rfl))
  · rintro ⟨r₀, run, rfl⟩
    obtain ⟨f, adds, same⟩ := calledAll_adds builds run
    obtain rfl : r₀ = f q := Except.ok.inj (run.symm.trans (same q rfl))
    rw [← adds.relocates q schema n bound]
    exact same _ rfl

/-- Calls with one among them that sets the schema come to what they come to without it, where the schema is set
in the end, also for the joins behind that call. -/
theorem calledAll_withSchema {before after : Chain} {schema : String} (builds : ∀ c ∈ before ++ after, c.builds) :
    env.calledAll q (before ++ .withSchema schema :: after) = .ok r ↔ ∃ r₀, env.calledAll q (before ++ after) = .ok r₀ ∧
      r = r₀.relocate (some (.str schema)) (q.statement.joins.length + Chain.joinCount before) := by
  obtain ⟨early, late⟩ := List.forall_mem_append.mp builds
  have parts (calls more : Chain) : env.calledAll q (calls ++ more) =
      env.calledAll q calls >>= fun q => env.calledAll q more := List.foldlM_append
  rw [parts, parts]
  cases first : env.calledAll q before with
  | error e =>
    constructor
    · rintro ⟨⟩
    · rintro ⟨_, ⟨⟩, -⟩
  | ok q₁ =>
    obtain ⟨f, adds, same⟩ := calledAll_adds early first
    have count : q.statement.joins.length + Chain.joinCount before = q₁.statement.joins.length := by
      rw [← adds.joins, Except.ok.inj (first.symm.trans (same q rfl))]
    have set : env.calledAll q₁ (.withSchema schema :: after) =
        env.calledAll (q₁.relocate (some (.str schema)) q₁.statement.joins.length) after := by
      rw [← Query.withSchema_eq_relocate]
      unfold calledAll
      rw [List.foldlM_cons, called_withSchema]
      rfl
    rw [count]
    change env.calledAll q₁ (.withSchema schema :: after) = .ok r ↔ _
    rw [set]
    exact calledAll_relocate late (Nat.le_refl _)

end Environment

/-! ## Tables of a compiled query -/

namespace Scope

/-- A table by its name, in a schema if there is one. -/
def tableSql (s : Scope) (schema : Option String) (name : String) : Sql :=
  match schema with
  | some schema => s.nameIn schema name
  | none => s.segmentSql name

/-- A table is rendered by its name and that of its schema. -/
theorem Quotes.tableIn_eq {s : Scope} (h : s.Quotes) {schema : Option String} {name : String}
    (outer : ∀ schema_ ∈ schema, SingleName schema_ ∧ schema_ ≠ "") (inner : SingleName name) :
    s.tableIn (schema.map .str) (.str name) = pure (s.tableSql schema name) := by
  cases schema with
  | none => exact h.wrapString_single inner
  | some schema =>
    obtain ⟨single, filled⟩ := outer schema rfl
    have truthy : (Value.str schema).isTruthy = true := by simpa [Value.isTruthy, Scalar.isTruthy] using filled
    have named : s.inSchema (some (.str schema)) name = pure (schema ++ "." ++ name) := by
      rw [inSchema, truthy]
      rfl
    change s.inSchema (some (.str schema)) name >>= s.wrapString = _
    rw [named]
    exact h.wrapString_nameIn single inner

end Scope

/-- A join of a table by its name, in a schema if there is one. -/
structure Join.Names (j : Join Value) (schema : Option String) (name : String) : Prop where
  table : j.table = .str name
  schema : j.schema = schema.map .str
  raw : j.raw = false

/-- A compiled select with tables by their names shows the table and each join, in their order. -/
theorem Query.compile_tables {env : Environment} {q : Query Value} {p p' : Progress} {c : Compiled Value}
    {schema : Option String} {table : String} {schemas : Nat → Option String}
    (select : q.Selects) (quotes : (q.scope env).Quotes) (run : q.compile env p = .ok c p')
    (own : ∀ schema_ ∈ schema, SingleName schema_ ∧ schema_ ≠ "")
    (others : ∀ i, ∀ schema_ ∈ schemas i, SingleName schema_ ∧ schema_ ≠ "")
    (schema_ : q.statement.schema = schema.map .str) (table_ : q.statement.table = some (.str table))
    (single : SingleName table)
    (joins : ∀ (i : Nat) (j : Join Value), q.statement.joins[i]? = some j →
      ∃ name, j.Names (schemas i) name ∧ SingleName name) :
    ∃ (sql : Sql) (parts : List Sql), c.sql = sql.text ∧
      Sql.word "from " ++ (q.scope env).tableSql schema table <:+: sql ∧ Sql.joined " " parts <:+: sql ∧
      parts.length = q.statement.joins.length ∧
      ∀ i j, q.statement.joins[i]? = some j → ∃ name conditions, j.table = .str name ∧
        parts[i]? = some (Sql.word (j.kind ++ " join ") ++ (q.scope env).tableSql (schemas i) name ++ conditions) := by
  obtain ⟨body, rendered, sql, -⟩ := Query.compile_body run
  have selected : ((q.scope env).select q.statement).Renders body := by
    rcases select with method | method <;> (rw [method] at rendered; exact rendered)
  obtain ⟨source, joined, -, from_, clause, -, sourceIn, joinedIn, -⟩ := Scope.select_ok selected
  have whole : body <:+: Scope.commented q.statement.comments body := (Sql.suffix_commented _ _).isInfix
  have named : (q.scope env).table q.statement = pure ((q.scope env).tableSql schema table) := by
    rw [Scope.table, table_, schema_]
    exact quotes.tableIn_eq own single
  have first : Sql.word "from " ++ (q.scope env).tableSql schema table <+: source := by
    simp only [Scope.fromClause, table_, Option.isNone_some, Bool.false_eq_true, if_false] at from_
    obtain ⟨written, shown, from_⟩ := from_.of_bind
    obtain ⟨hint, -, from_⟩ := from_.of_bind
    rw [named] at shown
    rw [from_.of_pure, shown.of_pure]
    exact List.prefix_append ..
  obtain ⟨operands, each, clause⟩ := clause.of_bind
  obtain ⟨parts, texts, clause⟩ := clause.of_bind
  obtain rfl := clause.of_pure
  have each := each.of_mapM
  have texts := texts.of_mapM
  refine ⟨_, parts, sql, (first.isInfix.trans sourceIn).trans whole, joinedIn.trans whole, ?_, fun i j at_ => ?_⟩
  · rw [← texts.length_eq, each.length_eq]
  · obtain ⟨name, names, single⟩ := joins i j at_
    obtain ⟨bound, rfl⟩ := List.getElem?_eq_some_iff.mp at_
    have bound' : i < operands.length := each.length_eq ▸ bound
    have bound'' : i < parts.length := texts.length_eq ▸ bound'
    have shown := each.get bound bound'
    have text := texts.get bound' bound''
    obtain ⟨target, conditions, source, -, is⟩ := Scope.join_ok names.raw shown
    rw [List.get_eq_getElem] at is text
    rw [is] at text
    rw [names.table, names.schema, quotes.tableIn_eq (others i) single] at source
    refine ⟨name, conditions, names.table, ?_⟩
    rw [List.getElem?_eq_getElem bound'', ← source.of_pure]
    exact congrArg some text.of_pure

namespace Environment

variable {env : Environment} {client : Client Value} {schema table : String} {before after : Chain}
  {q r : Query Value}

/-- A new query after such calls, of which none sets the schema. -/
structure Bare (client : Client Value) (q : Query Value) (count : Nat) : Prop where
  client : q.client = client
  selects : q.Selects
  joins : q.statement.joins.length = count
  /-- no table is joined in a schema -/
  schemas : ∀ j ∈ q.statement.joins, j.raw = false → j.schema = none

theorem calledAll_bare {calls : Chain} (builds : ∀ c ∈ calls, c.builds)
    (run : env.calledAll (.ofClient client) calls = .ok q) : Bare client q (Chain.joinCount calls) := by
  obtain ⟨f, adds, same⟩ := calledAll_adds builds run
  obtain rfl : q = f (.ofClient client) := Except.ok.inj (run.symm.trans (same _ rfl))
  refine ⟨adds.client _, .inl (adds.method _), (adds.joins _).trans (Nat.zero_add _), fun j mem named => ?_⟩
  rw [← adds.inSchema_eq rfl j mem]
  exact Join.schema_inSchema _ named

/-- The joins of a new query after such calls and one that sets the schema: those behind that call have it. -/
theorem Bare.schema_relocate {count n i : Nat} (h : Bare client q count) {schema : Value} {j : Join Value}
    (at_ : (q.relocate (some schema) n).statement.joins[i]? = some j) (named : j.raw = false) :
    j.schema = if i < n then none else some schema := by
  rw [q.joins_relocate, Option.map_eq_some_iff] at at_
  obtain ⟨j₀, at_, rfl⟩ := at_
  split
  next early =>
    rw [if_pos early] at named
    exact h.schemas j₀ (List.mem_of_getElem? at_) named
  next late =>
    rw [if_neg late, Join.inSchema_raw] at named
    exact Join.schema_inSchema _ named

/-- The position of the call that sets the schema, among the joins, is seen in the joins. -/
theorem Bare.relocate_inj {count n n' : Nat} (h : Bare client q count) {schema : Value} (bound : n ≤ count)
    (bound' : n' ≤ count) (named : ∀ j ∈ (q.relocate (some schema) n).statement.joins, j.raw = false) :
    q.relocate (some schema) n' = q.relocate (some schema) n ↔ n' = n := by
  refine ⟨fun same => ?_, fun same => by rw [same]⟩
  -- a join between the two positions has the schema on one side only
  have at_ (i : Nat) (there : i < count) : i < n ↔ i < n' := by
    obtain ⟨j, at_⟩ : ∃ j, (q.relocate (some schema) n).statement.joins[i]? = some j := by
      rw [q.joins_relocate, List.getElem?_eq_getElem (h.joins ▸ there)]
      exact ⟨_, rfl⟩
    have own := named j (List.mem_of_getElem? at_)
    have first := h.schema_relocate at_ own
    rw [← same] at at_
    have second := h.schema_relocate at_ own
    rw [first] at second
    by_cases early : i < n <;> by_cases early' : i < n' <;> simp [early, early'] at second ⊢
  by_contra other
  rcases Nat.lt_or_gt_of_ne other with less | less
  · have between := (at_ n' (by omega)).mp less
    omega
  · have between := (at_ n (by omega)).mpr less
    omega

/-- Calls that set the table to a name, join tables by their names and write other registers, and one call that sets
the schema: a compiled select shows the table in the schema, and so each table that is joined behind that call, but
no table that is joined before it. The call may be moved, and leaves the query as it is exactly if it is moved past
no join. -/
theorem schema_positions (outer : SingleName schema) (filled : schema ≠ "") (builds : ∀ c ∈ before ++ after, c.builds)
    (run : env.calledAll (.ofClient client) (before ++ .withSchema schema :: after) = .ok r)
    (quotes : ((Query.ofClient client).scope env).Quotes)
    (source : r.statement.table = some (.str table)) (inner : SingleName table)
    (joined : ∀ j ∈ r.statement.joins, j.raw = false ∧ ∃ name, j.table = .str name ∧ SingleName name) :
    (∀ {p p' : Progress} {c : Compiled Value}, r.compile env p = .ok c p' → ∃ (sql : Sql) (parts : List Sql),
      c.sql = sql.text ∧ Sql.word "from " ++ (r.scope env).nameIn schema table <:+: sql ∧
      Sql.joined " " parts <:+: sql ∧ parts.length = r.statement.joins.length ∧
      ∀ (i : Nat) (j : Join Value), r.statement.joins[i]? = some j → ∃ name conditions, j.table = .str name ∧
        parts[i]? = some (Sql.word (j.kind ++ " join ") ++
          (r.scope env).tableSql (if i < Chain.joinCount before then none else some schema) name ++ conditions)) ∧
    ∀ before' after', before' ++ after' = before ++ after → ∃ r',
      env.calledAll (.ofClient client) (before' ++ .withSchema schema :: after') = .ok r' ∧
      (r' = r ↔ Chain.joinCount before' = Chain.joinCount before) ∧
      (Chain.joinCount before' = Chain.joinCount before →
        env.compiledAfter (.ofClient client) (before' ++ .withSchema schema :: after') =
          env.compiledAfter (.ofClient client) (before ++ .withSchema schema :: after)) := by
  have position (calls : Chain) : (Query.ofClient client).statement.joins.length + Chain.joinCount calls =
      Chain.joinCount calls := Nat.zero_add _
  obtain ⟨q, without, rfl⟩ := (calledAll_withSchema builds).mp run
  rw [position] at run source joined ⊢
  have bare := calledAll_bare builds without
  refine ⟨fun compiled => ?_, fun before' after' parts => ?_⟩
  · have own : ∀ schema_ ∈ some schema, SingleName schema_ ∧ schema_ ≠ "" := by
      rintro _ ⟨⟩
      exact ⟨outer, filled⟩
    have others : ∀ i, ∀ schema_ ∈ (if i < Chain.joinCount before then none else some schema),
        SingleName schema_ ∧ schema_ ≠ "" := by
      intro i schema_ mem
      split at mem
      · cases mem
      · exact own schema_ mem
    have selects : (q.relocate (some (.str schema)) (Chain.joinCount before)).Selects := bare.selects
    have quotes_ : ((q.relocate (some (.str schema)) (Chain.joinCount before)).scope env).Quotes :=
      ⟨(congrArg Client.wrapIdentifier bare.client).trans quotes.unhooked,
        (congrArg (·.dialect.capabilities.quoting.areTexts) bare.client).trans quotes.textual⟩
    refine Query.compile_tables selects quotes_ compiled own others rfl source inner fun i j at_ => ?_
    obtain ⟨named, name, is, single⟩ := joined j (List.mem_of_getElem? at_)
    refine ⟨name, ⟨is, ?_, named⟩, single⟩
    rw [bare.schema_relocate at_ named]
    split <;> rfl
  · have moved : env.calledAll (.ofClient client) (before' ++ .withSchema schema :: after') =
        .ok (q.relocate (some (.str schema)) (Chain.joinCount before')) := by
      refine (calledAll_withSchema (parts ▸ builds)).mpr ⟨q, parts ▸ without, ?_⟩
      rw [position]
    have count {front back : Chain} (h : front ++ back = before ++ after) :
        Chain.joinCount front ≤ Chain.joinCount (before ++ after) := by
      rw [← h, Chain.joinCount, Chain.joinCount, List.countP_append]
      omega
    refine ⟨_, moved, bare.relocate_inj (count rfl) (count parts) fun j mem => (joined j mem).1, fun same => ?_⟩
    rw [compiledAfter, compiledAfter, moved, run, same]

/-- A schema between two joins, of which the first one is found without it. -/
theorem schema_positions_between :
    let client : Client Value := { dialect := .postgres }
    let env : Environment := { client }
    let text (s : String) : Term := .scalar (.str s)
    let before : Chain := [⟨"from_", [text "a"], []⟩, ⟨"left_join", [text "b", text "a.x", text "b.x"], []⟩]
    let after : Chain := [⟨"where", [text "a.n", .scalar (.int 1)], []⟩,
      ⟨"join", [text "c", .callback [[⟨"on", [text "a.y", text "c.y"], []⟩]]], []⟩]
    let late : Join Value := { table := .str "c", schema := some (.str "s") }
    let r := ((((Query.ofClient client).from_ (.str "a")).addJoin
      { table := .str "b", kind := "left", conditions := [{ test := .compareColumns (.str "a.x") (.str "=") (.str "b.x") }] }
      |>.withSchema (.str "s")).addCondition .where_ .and false (.compare (.str "a.n") (.str "=") (.int 1))).addJoin
      (late.record [{ test := .compareColumns (.str "a.y") (.str "=") (.str "c.y") }])
    (SingleName "s" ∧ "s" ≠ "" ∧ ∀ c ∈ before ++ after, c.builds) ∧
      env.calledAll (.ofClient client) (before ++ .withSchema "s" :: after) = .ok r ∧
      ((Query.ofClient client).scope env).Quotes ∧ r.statement.table = some (.str "a") ∧ SingleName "a" ∧
      (∀ j ∈ r.statement.joins, j.raw = false ∧ ∃ name, j.table = .str name ∧ SingleName name) ∧
      (∀ {p p' : Progress} {c : Compiled Value}, r.compile env p = .ok c p' → ∃ (sql : Sql) (parts : List Sql),
        c.sql = sql.text ∧ Sql.word "from " ++ (r.scope env).nameIn "s" "a" <:+: sql ∧
        Sql.joined " " parts <:+: sql ∧ parts.length = r.statement.joins.length ∧
        ∀ (i : Nat) (j : Join Value), r.statement.joins[i]? = some j → ∃ name conditions, j.table = .str name ∧
          parts[i]? = some (Sql.word (j.kind ++ " join ") ++
            (r.scope env).tableSql (if i < Chain.joinCount before then none else some "s") name ++ conditions)) ∧
      (env.compiledAfter (.ofClient client) (before ++ .withSchema "s" :: after)).toOption.map Compiled.sql =
        some ("select * from \"s\".\"a\" left join \"b\" on \"a\".\"x\" = \"b\".\"x\" " ++
          "inner join \"s\".\"c\" on \"a\".\"y\" = \"c\".\"y\" where \"a\".\"n\" = ?") := by
  intro client env text before after late r
  have outer : SingleName "s" := by decide
  have builds : ∀ c ∈ before ++ after, c.builds := by decide +kernel
  have source (q : Query Value) : env.called q ⟨"from_", [text "a"], []⟩ = .ok (q.from_ (.str "a")) :=
    called_stay (a := { positional := [.str "a"] }) rfl rfl
  have first (q : Query Value) : env.called q ⟨"left_join", [text "b", text "a.x", text "b.x"], []⟩ =
      .ok (q.addJoin ((q.joinOf "left" (.str "b")).record
        [{ test := .compareColumns (.str "a.x") (.str "=") (.str "b.x") }])) :=
    called_stay (a := { positional := [.str "b", .str "a.x", .str "b.x"] }) rfl rfl
  have condition (q : Query Value) : env.called q ⟨"where", [text "a.n", .scalar (.int 1)], []⟩ =
      .ok (q.addCondition .where_ .and false (.compare (.str "a.n") (.str "=") (.int 1))) :=
    called_stay (a := { positional := [.str "a.n", .int 1] }) rfl rfl
  have second (q : Query Value) : env.called q
      ⟨"join", [text "c", .callback [[⟨"on", [text "a.y", text "c.y"], []⟩]]], []⟩ =
      .ok (q.addJoin ((q.joinOf "inner" (.str "c")).record
        [{ test := .compareColumns (.str "a.y") (.str "=") (.str "c.y") }])) :=
    called_ok.mpr ⟨{ positional := [.str "c", .callback [[⟨"on", [text "a.y", text "c.y"], []⟩]]] }, [],
      QueryCursor.start (q.addJoin _) [], rfl, rfl, rfl⟩
  have run : env.calledAll (.ofClient client) (before ++ .withSchema "s" :: after) = .ok r := by
    unfold calledAll
    simp only [before, after, List.cons_append, List.nil_append, List.foldlM_cons, source, first, condition, second,
      called_withSchema]
    rfl
  have quotes : ((Query.ofClient client).scope env).Quotes := ⟨rfl, rfl⟩
  have inner : SingleName "a" := by decide
  have joined : ∀ j ∈ r.statement.joins, j.raw = false ∧ ∃ name, j.table = .str name ∧ SingleName name :=
    List.forall_mem_cons.mpr ⟨⟨rfl, "b", rfl, by decide⟩, List.forall_mem_singleton.mpr ⟨rfl, "c", rfl, by decide⟩⟩
  have positions := schema_positions outer (by decide) builds run quotes rfl inner joined
  exact ⟨⟨outer, by decide, builds⟩, run, quotes, rfl, inner, joined, positions.1, by decide +kernel⟩

/-- The same table and join, with the schema set before the join and behind it. -/
theorem schema_late :
    let client : Client Value := { dialect := .postgres }
    let env : Environment := { client }
    let text (s : String) : Term := .scalar (.str s)
    let table : Call Term := ⟨"from_", [text "a"], []⟩
    let join : Call Term := ⟨"join", [text "b", text "a.x", text "b.x"], []⟩
    let sql (calls : Chain) := (env.compiledAfter (.ofClient client) calls).toOption.map Compiled.sql
    sql [table, .withSchema "s", join] =
        some "select * from \"s\".\"a\" inner join \"s\".\"b\" on \"a\".\"x\" = \"b\".\"x\"" ∧
      sql [table, join, .withSchema "s"] =
        some "select * from \"s\".\"a\" inner join \"b\" on \"a\".\"x\" = \"b\".\"x\"" := by
  decide +kernel

end Environment

end SqlBuilder
