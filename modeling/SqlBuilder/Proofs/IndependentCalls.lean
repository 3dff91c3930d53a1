import SqlBuilder.Proofs.RegisterCalls

/-!
# Independent calls

Calls that write different registers may be made in any order, and clearing a register undoes the calls that
wrote it: what a query compiles to depends, for each register, on the calls that write it alone.

* `Environment.called`, `Environment.calledAll`: a query after calls on it, made one at a time.
* `Environment.called_confined`: a call puts the same entries into its register on any query that is alike.
* `Environment.compiledAfter`: what the query compiles to after the calls.
* `Environment.calls_independent`: the calls on different registers do not disturb each other.
-/

namespace SqlBuilder

/-! ## Calls that write a register -/

namespace Query

variable {name : String} {g : Register}

/-- The methods of a register are methods of queries. -/
theorem methods_sublist (g : Register) : g.methods.Sublist (calls.flatMap (·.1)) := by
  rw [← List.isSublist_iff_sublist]
  cases g <;> decide +kernel

theorem mem_methods (of : Register.ofMethod? name = some g) : name ∈ g.methods := by
  simpa using List.find?_some of

/-- Every call by the name of a method that writes a register puts entries into that register. -/
theorem call_confined (of : Register.ofMethod? name = some g) (a : Arguments) :
    g.Confines g.Ends (Query.call name a) := by
  obtain ⟨c, member, named⟩ := List.mem_flatMap.mp ((methods_sublist g).subset (mem_methods of))
  unfold Query.call
  cases found : calls.find? fun call => call.1.contains name with
  | none => exact absurd (List.find?_eq_none.mp found c member) (by simpa using named)
  | some c' =>
    have named : name ∈ c'.1 := by simpa using List.find?_some found
    exact calls_confined c' (List.mem_of_find?_eq_some found) name named g of a

end Query

namespace QueryCursor

/-- A query on which a chain of calls starts. -/
def start (q : Query Value) (events : List LogEvent) : Making QueryCursor :=
  { object := { origin := q }, events }

/-- Lets a callback put something together, which is then added to the query. -/
def complete {α : Type} (made : Logged α) (add : Query Value → α → Query Value) : Make QueryCursor Unit := do
  let x ← Make.ofLogged made
  Make.edit fun c => c.replace (add c.current x)

variable {q : Query Value} {events : List LogEvent} {m : Making QueryCursor} {α : Type}

theorem onCurrent_ok {step : Build (Query Value) α} {a : α} :
    Make.ofBuild (onCurrent step) (start q events) = .ok a m ↔
      ∃ q', step q = .ok a q' ∧ m = start q' events := by
  unfold Make.ofBuild onCurrent current start
  simp only [Option.getD_none]
  cases step q with
  | ok a q' => exact ⟨by rintro ⟨⟩; exact ⟨q', rfl, rfl⟩, by rintro ⟨_, ⟨⟩, rfl⟩; rfl⟩
  | error e q' => simp

theorem ofLogged_ok {made : Logged α} {a : α} :
    Make.ofLogged made (start q events) = .ok a m ↔ ∃ events', made events = .ok a events' ∧ m = start q events' := by
  unfold Make.ofLogged start
  simp only
  cases made events with
  | ok a events' => exact ⟨by rintro ⟨⟩; exact ⟨_, rfl, rfl⟩, by rintro ⟨_, ⟨⟩, rfl⟩; rfl⟩
  | error e events' => simp

/-- What a callback puts together is the same for every query, and becomes an entry of it. -/
theorem complete_ok {made : Logged α} {add : Query Value → α → Query Value} (entry : α → Entry)
    (run : complete made add (start q events) = .ok () m) (puts : ∀ q x, add q x = q.put [entry x]) :
    ∃ x, ∀ q₂ : Query Value, complete made add (start q₂ events) = .ok () (start (q₂.put [entry x]) m.events) := by
  obtain ⟨x, m₁, first, ⟨⟩⟩ := Build.bind_ok.mp run
  obtain ⟨events', ran, rfl⟩ := ofLogged_ok.mp first
  refine ⟨x, fun q₂ => Build.bind_ok.mpr ⟨x, _, ofLogged_ok.mpr ⟨events', ran, rfl⟩, ?_⟩⟩
  rw [← puts]
  rfl

section Call

variable (callbacks : Callbacks) (outputs : Outputs) (extension : Option (Arguments → Make QueryCursor Unit))
  (name : String) (a : Arguments)

/-- A call on a query is the call of the method, and what is still to be done after it. -/
theorem call_start : ∃ next : QueryStep → Make QueryCursor Unit,
    (∀ q events, QueryCursor.call callbacks outputs extension name a (start q events) =
      (Make.ofBuild (onCurrent (Query.call name a)) >>= next) (start q events)) ∧
    next .stay = pure () ∧
    (∀ chains j, next (.join chains j) = complete (callbacks.join chains j) Query.addJoin) ∧
    ∀ chains w, next (.window chains w) = complete (callbacks.window chains w) Query.addWindow :=
  ⟨_, fun _ _ => rfl, rfl, fun _ _ => rfl, fun _ _ => rfl⟩

variable {callbacks outputs extension name a}

/-- A call after which nothing is still to be done. -/
theorem call_stay {q' : Query Value} (run : Query.call name a q = .ok .stay q') :
    QueryCursor.call callbacks outputs extension name a (start q events) = .ok () (start q' events) := by
  obtain ⟨next, same, stay, -⟩ := call_start callbacks outputs extension name a
  rw [same]
  exact Build.bind_ok.mpr ⟨_, _, onCurrent_ok.mpr ⟨q', run, rfl⟩, by rw [stay]; rfl⟩

/-- A call by the name of a method that writes a register puts the same entries into it on every query that calls on
it do not tell apart. -/
theorem call_confined {g : Register} (of : Register.ofMethod? name = some g)
    (run : QueryCursor.call callbacks outputs extension name a (start q events) = .ok () m) :
    ∃ es, (∀ e ∈ es, e.register = g) ∧ ∀ q₂, g.Alike q q₂ →
      QueryCursor.call callbacks outputs extension name a (start q₂ events) = .ok () (start (q₂.put es) m.events) := by
  obtain ⟨next, same, stay, join, window⟩ := call_start callbacks outputs extension name a
  rw [same] at run
  obtain ⟨r, m₁, called, rest⟩ := Build.bind_ok.mp run
  obtain ⟨q₁, done, rfl⟩ := onCurrent_ok.mp called
  obtain ⟨ends, es, own, puts⟩ := Query.call_confined of a q r q₁ done
  have again {q₂ : Query Value} {m₂ : Making QueryCursor} (alike : g.Alike q q₂)
      (rest : next r (start (q₂.put es) events) = .ok () m₂) :
      QueryCursor.call callbacks outputs extension name a (start q₂ events) = .ok () m₂ :=
    (same q₂ events).trans (Build.bind_ok.mpr ⟨r, _, onCurrent_ok.mpr ⟨_, puts q₂ alike, rfl⟩, rest⟩)
  -- what a callback puts together is one more entry, after those of the method
  have completed {α : Type} {made : Logged α} {add : Query Value → α → Query Value} (is : next r = complete made add)
      (entry : α → Entry) (of : ∀ x, (entry x).register = g) (adds : ∀ q x, add q x = q.put [entry x]) :
      ∃ es, (∀ e ∈ es, e.register = g) ∧ ∀ q₂, g.Alike q q₂ →
        QueryCursor.call callbacks outputs extension name a (start q₂ events) =
          .ok () (start (q₂.put es) m.events) := by
    rw [is] at rest again
    obtain ⟨x, entered⟩ := complete_ok entry rest adds
    refine ⟨es ++ [entry x], ?_, fun q₂ alike => again alike ?_⟩
    · simpa [or_imp, forall_and, of] using own
    · rw [Query.put_append]
      exact entered (q₂.put es)
  cases r with
  | stay =>
    rw [stay] at rest again
    cases rest
    exact ⟨es, own, fun q₂ alike => again alike rfl⟩
  | join chains j => exact completed (join chains j) .join (fun _ => ends.symm) fun _ _ => rfl
  | window chains w =>
    exact completed (window chains w) (fun x => .projection (.window x)) (fun _ => ends.symm) fun _ _ => rfl
  | _ => exact ends.elim

end Call

end QueryCursor

/-! ## Calls made one at a time -/

/-- A call that writes the register. -/
def Register.receives (g : Register) (c : Call Term) : Bool :=
  ofMethod? c.name = some g

namespace Environment

variable (env : Environment)

/-- A query after a call on it. -/
def called (q : Query Value) (c : Call Term) : Except Error (Query Value) :=
  (env.evaluator.runQuery q [c]).outcome.map QueryCursor.current

/-- A query after calls on it, made one at a time. -/
def calledAll (q : Query Value) (calls : Chain) : Except Error (Query Value) :=
  calls.foldlM env.called q

/-- What a query compiles to after calls on it. -/
def compiledAfter (q : Query Value) (calls : Chain) : Except Error (Compiled Value) := do
  ((← env.calledAll q calls).compile env).outcome.1

variable {env} {q r : Query Value} {c : Call Term} {calls : Chain} {g : Register}

/-- A call has its arguments evaluated, and is then made on the query. -/
theorem called_ok : env.called q c = .ok r ↔ ∃ a events m,
    env.evaluator.arguments c [] = .ok a events ∧
      env.evaluator.call c.name a (QueryCursor.start q events) = .ok () m ∧ m.object.current = r := by
  have chain : env.called q c = .ok r ↔ ∃ m, env.evaluator.chain [c] (QueryCursor.start q []) = .ok () m ∧
      m.object.current = r := by
    unfold called Evaluator.runQuery Logged.outcome Make.finish QueryCursor.start
    cases env.evaluator.chain [c] { object := { origin := q }, events := [] } <;> simp [Except.map]
  rw [chain]
  constructor
  · rintro ⟨m, run, rfl⟩
    obtain ⟨a, m₁, evaluated, run⟩ := Build.bind_ok.mp run
    obtain ⟨events, given, rfl⟩ := QueryCursor.ofLogged_ok.mp evaluated
    obtain ⟨_, m₂, made, ⟨⟩⟩ := Build.bind_ok.mp run
    exact ⟨a, events, _, given, made, rfl⟩
  · rintro ⟨a, events, m, given, made, rfl⟩
    refine ⟨m, Build.bind_ok.mpr ⟨a, _, QueryCursor.ofLogged_ok.mpr ⟨events, given, rfl⟩, ?_⟩, rfl⟩
    exact Build.bind_ok.mpr ⟨(), m, made, rfl⟩

/-- A call that writes a register puts the same entries into it on every query that calls on it do not tell
apart. -/
theorem called_confined (of : Register.ofMethod? c.name = some g) (run : env.called q c = .ok r) :
    ∃ es, (∀ e ∈ es, e.register = g) ∧ ∀ q₂, g.Alike q q₂ → env.called q₂ c = .ok (q₂.put es) := by
  obtain ⟨a, events, m, given, run, -⟩ := called_ok.mp run
  obtain ⟨es, own, puts⟩ := QueryCursor.call_confined of run
  exact ⟨es, own, fun q₂ alike => called_ok.mpr ⟨a, events, _, given, puts q₂ alike, rfl⟩⟩

/-! ### Sequences of calls -/

/-- The entries that calls put into their registers, on any query with the client and the schema of the first. -/
def Puts (env : Environment) (q : Query Value) (calls : Chain) (entries : Call Term → List Entry) : Prop :=
  ∀ c ∈ calls, (∀ e ∈ entries c, Register.ofMethod? c.name = some e.register) ∧
    ∀ q₂, q.Alike q₂ → env.called q₂ c = .ok (q₂.put (entries c))

/-- Calls that write registers and succeed one after another put entries that each call decides by itself. -/
theorem exists_puts (registered : ∀ c ∈ calls, (Register.ofMethod? c.name).isSome)
    (ran : env.calledAll q calls = .ok r) : ∃ entries, env.Puts q calls entries := by
  have each : ∀ c ∈ calls, ∃ es : List Entry, (∀ e ∈ es, Register.ofMethod? c.name = some e.register) ∧
      ∀ q₂, q.Alike q₂ → env.called q₂ c = .ok (q₂.put es) := by
    induction calls generalizing q with
    | nil => exact nofun
    | cons c calls ih =>
      obtain ⟨g, of⟩ := Option.isSome_iff_exists.mp (registered c (.head _))
      unfold calledAll at ran
      rw [List.foldlM_cons] at ran
      cases run : env.called q c with
      | error e =>
        rw [run] at ran
        cases ran
      | ok q₁ =>
        obtain ⟨es, own, puts⟩ := called_confined of run
        obtain rfl : q₁ = q.put es := Except.ok.inj (run.symm.trans (puts q (Query.Alike.refl.on g)))
        rw [run] at ran
        rintro d (_ | ⟨_, member⟩)
        · exact ⟨es, fun e mem => by rw [of, own e mem], fun q₂ alike => puts q₂ (alike.on g)⟩
        · obtain ⟨es', own', puts'⟩ := ih (fun c mem => registered c (.tail _ mem)) ran d member
          exact ⟨es', own', fun q₂ alike => puts' q₂ ((q.alike_put es).symm.trans alike)⟩
  have total : ∀ c, ∃ es : List Entry, c ∈ calls → (∀ e ∈ es, Register.ofMethod? c.name = some e.register) ∧
      ∀ q₂, q.Alike q₂ → env.called q₂ c = .ok (q₂.put es) := fun c => by
    by_cases member : c ∈ calls
    · obtain ⟨es, puts⟩ := each c member
      exact ⟨es, fun _ => puts⟩
    · exact ⟨[], fun mem => absurd mem member⟩
  exact Classical.skolem.mp total

/-- Entries are chosen as the calls that put them are. -/
theorem filter_entries {entries : Call Term → List Entry} {p : Entry → Bool} {p' : Call Term → Bool}
    (same : ∀ c ∈ calls, ∀ e ∈ entries c, p e = p' c) :
    (calls.flatMap entries).filter p = (calls.filter p').flatMap entries := by
  induction calls with
  | nil => rfl
  | cons c calls ih =>
    rw [List.flatMap_cons, List.filter_append, ih fun d member => same d (.tail _ member)]
    have own := same c (.head _)
    cases chosen : p' c with
    | true => rw [List.filter_cons_of_pos chosen, List.flatMap_cons,
        List.filter_eq_self.mpr fun e mem => (own e mem).trans chosen]
    | false => rw [List.filter_cons_of_neg (by simp [chosen]),
        List.filter_eq_nil_iff.mpr fun e mem => by simp [own e mem, chosen], List.nil_append]

namespace Puts

variable {entries : Call Term → List Entry} (puts : env.Puts q calls entries)

include puts

theorem subset {some_ : Chain} (sub : some_ ⊆ calls) : env.Puts q some_ entries :=
  fun c member => puts c (sub member)

/-- Such calls put their entries one after another. -/
theorem calledAll : env.calledAll q calls = .ok (q.put (calls.flatMap entries)) := by
  have run (q₂ : Query Value) (alike : q.Alike q₂) :
      calls.foldlM env.called q₂ = .ok (q₂.put (calls.flatMap entries)) := by
    induction calls generalizing q₂ with
    | nil => rfl
    | cons c calls ih =>
      rw [List.foldlM_cons, (puts c (.head _)).2 q₂ alike, List.flatMap_cons, Query.put_append]
      exact ih (fun d member => puts d (.tail _ member)) _ (alike.trans (q₂.alike_put _))
  exact run q .refl

theorem receives_eq (member : c ∈ calls) {e : Entry} (mem : e ∈ entries c) :
    decide (e.register = g) = g.receives c := by
  rw [Register.receives, (puts c member).1 e mem]
  simp

/-- Calls that are made in another order, which is the same for the calls on each register, put the same. -/
theorem shuffled {calls' : Chain} (perm : calls'.Perm calls)
    (order : ∀ g : Register, calls'.filter g.receives = calls.filter g.receives) :
    env.calledAll q calls' = env.calledAll q calls := by
  have puts' : env.Puts q calls' entries := puts.subset perm.subset
  rw [puts.calledAll, puts'.calledAll]
  refine congrArg Except.ok (Query.put_eq_of_filter fun g => ?_)
  rw [filter_entries fun _ member _ mem => puts'.receives_eq member mem, order g,
    filter_entries fun _ member _ mem => puts.receives_eq member mem]

/-- A register that is emptied is left as if the calls that wrote it had not been made. -/
theorem emptied (g : Register) : (q.put (calls.flatMap entries)).edit g.emptied =
    (q.edit g.emptied).put ((calls.filter fun c => !g.receives c).flatMap entries) := by
  have others {c : Call Term} (member : c ∈ calls) {e : Entry} (mem : e ∈ entries c) :
      decide (e.register ≠ g) = !g.receives c := by
    rw [← puts.receives_eq member mem, decide_not]
  rw [Query.put_emptied, filter_entries fun _ member _ mem => others member mem]

end Puts

end Environment

/-! ## Clearing a register -/

/-- The call that clears a clause by its name. -/
def Register.clear (clause : String) : Call Term :=
  { name := "clear", arguments := [.scalar (.str clause)] }

/-- The calls that clear a register. -/
def Register.clearings : Register → List (Call Term)
  | projection => [clear "select", clear "columns", { name := "clear_select" }]
  | joins => [clear "join"]
  | wheres => [clear "where", { name := "clear_where" }]
  | groups => [clear "group", { name := "clear_group" }]
  | havings => [clear "having", { name := "clear_having" }]
  | orders => [clear "order", { name := "clear_order" }]
  | unions => [clear "union"]
  | commonTables => [clear "with"]
  | limit => [clear "limit"]
  | offset => [clear "offset"]

namespace Environment

variable {env : Environment} {q q' : Query Value} {c : Call Term}

/-- A call whose arguments are evaluated without events, and after which nothing is still to be done. -/
theorem called_stay {a : Arguments} (given : env.evaluator.arguments c [] = .ok a [])
    (run : Query.call c.name a q = .ok .stay q') : env.called q c = .ok q' :=
  called_ok.mpr ⟨a, [], QueryCursor.start q' [], given, QueryCursor.call_stay run, rfl⟩

theorem called_clear {clause : String} (cleared : q.clear (.str clause) = .ok q') :
    env.called q (Register.clear clause) = .ok q' := by
  refine called_stay (a := { positional := [.str clause] }) rfl ?_
  change QueryCall.attempt (fun q => q.clear (.str clause)) q = _
  rw [QueryCall.attempt_eq, cleared]

/-- A call that clears a register leaves it empty and nothing else changed. -/
theorem called_clearing {g : Register} (clearing : c ∈ g.clearings) : env.called q c = .ok (q.edit g.emptied) := by
  have short {clause : String} {q' : Query Value} (cleared : q.clear (.str clause) = .ok q') :
      QueryCall.clear {} clause q = .ok .stay q' := by
    change QueryCall.attempt (fun q => q.clear (.str clause)) q = _
    rw [QueryCall.attempt_eq, cleared]
  cases g <;> simp only [Register.clearings, List.mem_cons, List.not_mem_nil, or_false] at clearing
  case joins | unions | commonTables | limit | offset =>
    obtain rfl := clearing
    exact called_clear rfl
  case wheres | groups | havings | orders =>
    obtain rfl | rfl := clearing
    · exact called_clear rfl
    · exact called_stay (a := {}) rfl (short rfl)
  case projection =>
    obtain rfl | rfl | rfl := clearing
    · exact called_clear rfl
    · exact called_clear rfl
    · exact called_stay (a := {}) rfl (short rfl)

/-! ## Independence -/

/-- Calls that write registers, made one at a time on a query: if they succeed, they succeed in every order in
which the calls on each register keep theirs, and the query compiles to the same statement. A call that clears a
register which was empty at the start leaves the query, and so what it compiles to, as if the calls on that
register had not been made. -/
theorem calls_independent {calls : Chain} {r : Query Value}
    (registered : ∀ c ∈ calls, (Register.ofMethod? c.name).isSome) (ran : env.calledAll q calls = .ok r) :
    (∀ calls' : Chain, calls'.Perm calls →
      (∀ g : Register, calls'.filter g.receives = calls.filter g.receives) →
        env.calledAll q calls' = .ok r ∧ env.compiledAfter q calls' = env.compiledAfter q calls) ∧
    ∀ g : Register, g.emptied q.statement = q.statement → ∀ c ∈ g.clearings,
      (∃ cleared, env.calledAll q (calls ++ [c]) = .ok cleared ∧
        env.calledAll q (calls.filter fun c => !g.receives c) = .ok cleared) ∧
      env.compiledAfter q (calls ++ [c]) = env.compiledAfter q (calls.filter fun c => !g.receives c) := by
  obtain ⟨entries, puts⟩ := exists_puts registered ran
  refine ⟨fun calls' perm order => ?_, fun g empty c clearing => ?_⟩
  · have same := puts.shuffled perm order
    exact ⟨same.trans ran, by rw [compiledAfter, same, compiledAfter]⟩
  · have rest : env.calledAll q (calls.filter fun c => !g.receives c) =
        .ok (q.put ((calls.filter fun c => !g.receives c).flatMap entries)) :=
      (puts.subset List.filter_sublist.subset).calledAll
    have cleared : env.calledAll q (calls ++ [c]) =
        .ok (q.put ((calls.filter fun c => !g.receives c).flatMap entries)) := by
      have bare : q.edit g.emptied = q := by rw [Query.edit, empty]
      have all := puts.calledAll
      unfold calledAll at all ⊢
      rw [List.foldlM_append, all]
      change env.called _ c >>= pure = _
      rw [called_clearing clearing, puts.emptied, bare]
      rfl
    exact ⟨⟨_, cleared, rest⟩, by rw [compiledAfter, compiledAfter, cleared, rest]⟩

/-- A query whose limit, join and order may be called for in another order, and whose limit may be cleared. -/
theorem calls_independent_paged :
    let env : Environment := { client := { dialect := .mssql } }
    let q := ((Query.ofClient env.client).from_ (.str "users")).withSchema (.str "app")
    let text (s : String) : Term := .scalar (.str s)
    let join : Call Term :=
      { name := "join"
        arguments := [text "orders", .callback [[{ name := "on", arguments := [text "a", text "=", text "b"] }]]] }
    let order : Call Term := { name := "order_by", arguments := [text "name"] }
    let limit (n : Int) : Call Term := { name := "limit", arguments := [.scalar (.int n)] }
    let calls := [limit 2, join, limit 5, order]
    let shuffled := [order, limit 2, limit 5, join]
    let sql (calls : Chain) := (env.compiledAfter q calls).toOption.map Compiled.sql
    (∃ r, env.calledAll q calls = .ok r ∧ env.calledAll q shuffled = .ok r) ∧
      sql calls = some ("select top (?) * from [app].[users] " ++
        "inner join [app].[orders] on [a] = [b] order by [name] asc") ∧
      env.compiledAfter q shuffled = env.compiledAfter q calls ∧
      env.compiledAfter q (calls ++ [Register.clear "limit"]) = env.compiledAfter q [join, order] := by
  intro env q text join order limit calls shuffled sql
  have registered : ∀ c ∈ calls, (Register.ofMethod? c.name).isSome := by decide +kernel
  have succeeds : (env.calledAll q calls).isOk := by decide +kernel
  obtain ⟨r, ran⟩ : ∃ r, env.calledAll q calls = .ok r := by
    cases run : env.calledAll q calls with
    | ok r => exact ⟨r, rfl⟩
    | error e =>
      rw [run] at succeeds
      cases succeeds
  have independent := calls_independent registered ran
  have perm : shuffled.Perm calls := by
    refine .trans (@List.perm_append_comm _ [order] _) ?_
    exact .cons _ (.swap _ _ _)
  have again := independent.1 shuffled perm fun g => by cases g <;> rfl
  exact ⟨⟨r, ran, again.1⟩, by decide +kernel, again.2, (independent.2 .limit rfl _ (.head _)).2⟩

end Environment

end SqlBuilder
