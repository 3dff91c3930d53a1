import SqlBuilder.Proofs.StoredRows
import SqlBuilder.Proofs.Transactions

/-!
# Batches

A batch inserts its rows by statements of at most a given number of rows each. The rows that are read back
from the statements are those of the batch, in their order, and a run of the batch executes the statements in
one transaction.

* `flatten_chunksOf`, `length_chunksOf`: the pieces of a list.
* `Batch.Describes`: statements that describe the rows of a batch.
* `Run.Yields`: a step of a run succeeds and adds calls to the trace.
* `Runner.Works`: a runner whose collaborators never fail.
* `Batch.loses_nothing`: the statements of a batch, and a run of it.
-/

namespace SqlBuilder

open List (Forall₂)

/-! ## Pieces of lists -/

section Pieces

variable {α β : Type} {n : Nat}

theorem chunksOf_map (f : α → β) (as : List α) : chunksOf n (as.map f) = (chunksOf n as).map (List.map f) := by
  induction as using chunksOf.induct n with
  | case1 => simp [chunksOf]
  | case2 a as ih => simp only [List.map_cons, chunksOf, ← List.map_take, ← List.map_drop, ih]

/-- The pieces of a list are all of it, in order. -/
theorem flatten_chunksOf (as : List α) : (chunksOf n as).flatten = as := by
  induction as using chunksOf.induct n with
  | case1 => simp [chunksOf]
  | case2 a as ih => rw [chunksOf, List.flatten_cons, ih, List.cons_append, List.take_append_drop]

theorem length_of_mem_chunksOf {as piece : List α} (h : piece ∈ chunksOf n as) :
    1 ≤ piece.length ∧ piece.length ≤ n + 1 := by
  induction as using chunksOf.induct n with
  | case1 => simp [chunksOf] at h
  | case2 a as ih =>
    rw [chunksOf] at h
    rcases List.mem_cons.mp h with rfl | h
    · simp only [List.length_cons, List.length_take]
      omega
    · exact ih h

/-- There are as many pieces as needed. -/
theorem length_chunksOf (as : List α) : (chunksOf n as).length = (as.length + n) / (n + 1) := by
  induction as using chunksOf.induct n with
  | case1 => simp [chunksOf, Nat.div_eq_of_lt]
  | case2 a as ih =>
    rw [chunksOf, List.length_cons, ih, List.length_drop, List.length_cons]
    by_cases short : as.length ≤ n
    · rw [Nat.sub_eq_zero_of_le short, Nat.zero_add, Nat.div_eq_of_lt (Nat.lt_succ_self n)]
      refine (Nat.div_eq_of_lt_le ?_ ?_).symm <;> omega
    · have whole : as.length + 1 + n = as.length - n + n + (n + 1) := by omega
      rw [whole, Nat.add_div_right _ (Nat.succ_pos n)]

end Pieces

/-! ## Statements -/

/-- Statements describe rows: there are as many as needed for at most `k` rows each, and the rows that are read
back from them are the given ones, in order. -/
def Batch.Describes (q : Quotes) (k : Nat) (statements : List (Compiled Value)) (rows : List DataRow) : Prop :=
  statements.length = (rows.length + k - 1) / k ∧ ∃ records,
    Forall₂ (fun c read => c.records? q = some read ∧ 1 ≤ read.length ∧ read.length ≤ k) statements records ∧
      Forall₂ Record.Describes records.flatten rows

/-- A statement that a runner can send: it is a text without a time limit, and its response is returned as it
is. -/
structure Compiled.Sendable (c : Compiled Value) : Prop where
  text : c.object = none
  unlimited : c.timeout = none
  plain : c.output = none

/-- The batch of some rows of data. -/
def Batch.ofRows (client : Client Value) (table : String) (rows : List DataRow) (k : Int) : Batch :=
  { client, table := .str table, rows := rows.map DataRow.toValue, chunkSize := k }

theorem Batch.ofValues_rows (client : Client Value) (table : String) (rows : List DataRow) {k : Int}
    (positive : 1 ≤ k) :
    Batch.ofValues client (.str table) (.list (rows.map DataRow.toValue)) (.int k) = .ok (.ofRows client table rows k) := by
  have mappings : (rows.map DataRow.toValue).all (·.entries?.isSome) = true := by
    simp [DataRow.toValue, Value.entries?]
  have read : Batch.rowsOf (.list (rows.map DataRow.toValue)) = .ok (rows.map DataRow.toValue) := if_pos mappings
  simp only [Batch.ofValues, read, if_neg (Int.not_lt.mpr positive)]
  rfl

theorem Batch.queries_rows (client : Client Value) (table : String) (rows : List DataRow) (k : Int) :
    (Batch.ofRows client table rows k).queries = (chunksOf (k.toNat - 1) rows).map (insertQuery client table) := by
  simp only [Batch.queries, Batch.chunks, Batch.ofRows, chunksOf_map, List.map_map]
  rfl

/-- A statement that can be sent and describes some rows, at most so many. -/
def Compiled.Inserts (q : Quotes) (k : Nat) (rows : List DataRow) (c : Compiled Value) : Prop :=
  c.Sendable ∧ ∃ read, (c.records? q = some read ∧ 1 ≤ read.length ∧ read.length ≤ k) ∧
    Forall₂ Record.Describes read rows

/-- Statements that describe the pieces of a list of rows. -/
theorem Batch.read_pieces {q : Quotes} {k : Nat} {pieces : List (List DataRow)} {statements : List (Compiled Value)}
    (each : Forall₂ (Compiled.Inserts q k) pieces statements) : (∀ c ∈ statements, c.Sendable) ∧ ∃ records,
      Forall₂ (fun c read => c.records? q = some read ∧ 1 ≤ read.length ∧ read.length ≤ k) statements records ∧
        Forall₂ Record.Describes records.flatten pieces.flatten := by
  induction each with
  | nil => exact ⟨by simp, [], .nil, .nil⟩
  | cons first _ ih =>
    obtain ⟨sendable, read, fits, describes⟩ := first
    obtain ⟨others, records, fit, described⟩ := ih
    exact ⟨List.forall_mem_cons.mpr ⟨sendable, others⟩, read :: records, .cons fits fit,
      List.rel_append describes described⟩

/-- The statements of a batch describe its rows. -/
theorem Batch.compile_describes (env : Environment) {client : Client Value} (builtin : client.dialect ∈ Dialect.builtin)
    (unhooked : client.wrapIdentifier = none) {table : String} (dotted : DottedName table) (rows : List DataRow)
    {k : Int} (positive : 1 ≤ k) : ∃ statements values,
      ((Batch.ofRows client table rows k).compile env).Gives statements values ∧
        Batch.Describes client.capabilities.quotes k.toNat statements rows ∧ ∀ c ∈ statements, c.Sendable := by
  have whole : k.toNat - 1 + 1 = k.toNat := by omega
  have each : ∀ piece ∈ chunksOf (k.toNat - 1) rows, ∃ c values,
      ((insertQuery client table piece).compile env).Gives c values ∧
        Compiled.Inserts client.capabilities.quotes k.toNat piece c := by
    intro piece hp
    have size := length_of_mem_chunksOf hp
    rw [whole] at size
    obtain ⟨sql, read, values, compiled, records, describes⟩ :=
      insertQuery_describes env builtin unhooked dotted (List.length_pos_iff.mp size.1)
    rw [← describes.length_eq] at size
    exact ⟨_, values, compiled, ⟨rfl, rfl, rfl⟩, read, ⟨records, size⟩, describes⟩
  obtain ⟨statements, values, compiled, fits⟩ := Compile.Gives.exists_mapM each
  obtain ⟨sendable, records, read, described⟩ := Batch.read_pieces fits
  rw [flatten_chunksOf] at described
  have count : statements.length = (rows.length + k.toNat - 1) / k.toNat := by
    rw [← fits.length_eq, length_chunksOf, whole, Nat.add_sub_assoc (by omega)]
  refine ⟨statements, values, ?_, ⟨count, records, read, described⟩, sendable⟩
  rw [Batch.compile, Batch.queries_rows, List.mapM_map]
  exact compiled

/-! ## Runs that succeed -/

namespace Run

variable {σ κ α β : Type}

/-- From a world of the collaborators on, a step succeeds with a result, adds calls to the trace and leaves a
world. -/
def Yields (m : Run σ κ α) (w : σ) (a : α) (t : Trace κ) (w' : σ) : Prop :=
  ∀ s, s.world = w → ∃ s', m s = .ok a s' ∧ s'.trace = s.trace ++ t ∧ s'.world = w'

namespace Yields

variable {m : Run σ κ α} {f : α → Run σ κ β} {a : α} {b : β} {w w₁ w₂ : σ} {t t' : Trace κ}

protected theorem pure (a : α) (w : σ) : (pure a : Run σ κ α).Yields w a [] w :=
  fun s same => ⟨s, rfl, (List.append_nil _).symm, same⟩

protected theorem bind (h : m.Yields w a t w₁) (h' : (f a).Yields w₁ b t' w₂) : (m >>= f).Yields w b (t ++ t') w₂ := by
  intro s same
  obtain ⟨s₁, first, trace, world⟩ := h s same
  obtain ⟨s₂, second, trace', world'⟩ := h' s₁ world
  refine ⟨s₂, ?_, by rw [trace', trace, List.append_assoc], world'⟩
  change EStateM.bind m f s = _
  simp only [EStateM.bind, first, second]

/-- A step without calls before others. -/
theorem bind_silent (h : m.Yields w a [] w₁) (h' : (f a).Yields w₁ b t w₂) : (m >>= f).Yields w b t w₂ :=
  h.bind h'

/-- A step without calls after others. -/
theorem then_silent (h : m.Yields w a t w₁) (h' : (f a).Yields w₁ b [] w₂) : (m >>= f).Yields w b t w₂ := by
  have whole := h.bind h'
  rwa [List.append_nil] at whole

theorem report (event : LogEvent) (w : σ) : (Run.report event : Run σ κ Unit).Yields w () [] w :=
  fun _ same => ⟨_, rfl, (List.append_nil _).symm, same⟩

theorem compile {c : Compile α} {values : List Value} (h : c.Gives a values) (w : σ) :
    (Run.compile c : Run σ κ α).Yields w a [] w := by
  intro s same
  obtain ⟨p, run, -⟩ := h {}
  refine ⟨{ s with events := s.events ++ p.events }, ?_, (List.append_nil _).symm, same⟩
  rw [Run.compile, run]

theorem perform {effect : Effect σ α} {answer : Except Failure α} (h : effect w = (answer, w₁))
    (action : Except Failure α → Action κ) :
    (Run.perform effect action).Yields w answer [⟨action answer, answer.toOption.isSome⟩] w₁ := by
  rintro s rfl
  exact ⟨_, by rw [Run.perform, h], rfl, rfl⟩

theorem require {effect : Effect σ α} (h : effect w = (.ok a, w₁)) (action : Action κ) :
    (Run.require effect action).Yields w a [⟨action, true⟩] w₁ :=
  (perform h fun _ => action).then_silent (.pure a w₁)

theorem ensuring {body : Run σ κ α} {last : Run σ κ Unit} (h : body.Yields w a t w₁)
    (h' : last.Yields w₁ () t' w₂) : (Run.ensuring body last).Yields w a (t ++ t') w₂ := by
  intro s same
  obtain ⟨s₁, first, trace, world⟩ := h s same
  obtain ⟨s₂, second, trace', world'⟩ := h' s₁ world
  refine ⟨s₂, ?_, by rw [trace', trace, List.append_assoc], world'⟩
  simp only [Run.ensuring, first, second]

theorem onFailure {body : Run σ κ α} (h : body.Yields w a t w₁) (step : Run σ κ Unit) :
    (Run.onFailure body step).Yields w a t w₁ := by
  intro s same
  obtain ⟨s₁, first, rest⟩ := h s same
  refine ⟨s₁, ?_, rest⟩
  simp only [Run.onFailure, first]

end Yields

end Run

namespace Runner

variable {σ κ : Type} (r : Runner σ κ) (c : κ)

/-- The collaborators of a runner never fail, there is time to wait for a connection, and every connection can
be used. -/
structure Works : Prop where
  patient : Patience.ofTime r.acquireTimeout = .enough
  acquires : ∀ w, ∃ c w', r.pool.acquire w = (.ok c, w')
  valid : ∀ c w, ∃ w', r.pool.validate c w = (.ok true, w')
  releases : ∀ c w, ∃ w', r.pool.release c w = (.ok (), w')
  executes : ∀ c native w, ∃ response w', r.driver.execute c native w = (.ok response, w')
  controls : ∀ k call, r.controlCall k = some call → ∀ c w, ∃ w', call c w = (.ok (), w')

/-- The responses of the driver to statements one after another, from a world on. -/
inductive Served : σ → List (Compiled Value) → List Response → σ → Prop
  | done {w : σ} : Served w [] [] w
  | next {w w₁ w₂ : σ} {q : Compiled Value} {qs : List (Compiled Value)} {response : Response}
      {responses : List Response} (answer : r.driver.execute c (r.form q) w = (.ok response, w₁))
      (rest : Served w₁ qs responses w₂) : Served w (q :: qs) (response :: responses) w₂

/-- The calls that send statements to the driver one after another, with success. -/
def sending (qs : List (Compiled Value)) : Trace κ :=
  qs.map fun q => ⟨.execute c (r.form q), true⟩

/-- Statements are answered in one transaction, from a world on: a connection is taken, the transaction begins,
the driver answers the statements in their order, the transaction is committed, and the connection is given
back. -/
inductive Committed (statements : List (Compiled Value)) (responses : List Response) (w : σ) : Trace κ → σ → Prop
  | intro {c : κ} {w₁ w₂ w₃ w₄ w₅ : σ} {begun ended : Trace κ}
      (acquired : r.acquire.Yields w c [⟨.acquire (some c), true⟩, ⟨.validate c, true⟩] w₁)
      (opens : (r.control c .begin_).Yields w₁ () begun w₂) (opened : r.Attempted c .begin_ true begun)
      (served : r.Served c w₂ statements responses w₃)
      (closes : (r.control c .commit).Yields w₃ () ended w₄) (closed : r.Attempted c .commit true ended)
      (released : r.pool.release c w₄ = (.ok (), w₅)) :
    Committed statements responses w ([⟨.acquire (some c), true⟩, ⟨.validate c, true⟩] ++
      (begun ++ (r.sending c statements ++ ended) ++ [⟨.release c, true⟩])) w₅

variable {r}

theorem native_yields {q : Compiled Value} (text : q.object = none) :
    (r.env.client.native q).Gives (r.form q) [] := by
  intro p
  unfold Client.native
  rw [text]
  cases r.env.client.debug <;> exact ⟨_, rfl, (List.append_nil _).symm, rfl⟩

/-- A statement that the driver answers. -/
theorem query_yields {q : Compiled Value} (sendable : q.Sendable) {w w₁ : σ} {response : Response}
    (answer : r.driver.execute c (r.form q) w = (.ok response, w₁)) :
    (r.query c q).Yields w response [⟨.execute c (r.form q), true⟩] w₁ := by
  have sent : (r.attempt c q (r.form q)).Yields w (.ok response) [⟨.execute c (r.form q), true⟩] w₁ := by
    unfold attempt
    rw [sendable.unlimited]
    exact .perform answer _
  unfold query
  refine (Run.Yields.compile (native_yields sendable.text) w).bind_silent <| (Run.Yields.report _ w).bind_silent <|
    sent.then_silent ?_
  exact (Run.Yields.report _ _).bind_silent (.pure _ _)

/-- A statement in a transaction, whose response is returned as it is. -/
theorem execute_yields (unprocessed : r.env.client.postProcessResponse = none) {q : Compiled Value}
    (sendable : q.Sendable) (context : Option Value) (inTransaction : Bool) {w w₁ : σ} {response : Response}
    (answer : r.driver.execute c (r.form q) w = (.ok response, w₁)) :
    (r.execute c context inTransaction q).Yields w response [⟨.execute c (r.form q), true⟩] w₁ := by
  unfold execute
  refine (query_yields c sendable answer).then_silent ?_
  rw [sendable.plain, unprocessed]
  exact (Run.Yields.pure _ _).bind_silent (.pure _ _)

variable (works : r.Works)

include works

theorem control_yields (k : Control) (w : σ) :
    ∃ t w₁, r.Attempted c k true t ∧ (r.control c k).Yields w () t w₁ := by
  unfold control Attempted controlAction
  cases called : r.controlCall k with
  | some call =>
    obtain ⟨w₁, done⟩ := works.controls k call called c w
    exact ⟨_, w₁, rfl, .require done _⟩
  | none =>
    cases r.controlStatement k with
    | none => exact ⟨[], w, ⟨rfl, rfl⟩, .pure () w⟩
    | some sql =>
      obtain ⟨response, w₁, answer⟩ := works.executes c (r.form (r.controlled sql)) w
      exact ⟨_, w₁, rfl, (query_yields c ⟨rfl, rfl, rfl⟩ answer).then_silent (.pure () w₁)⟩

theorem acquire_yields (w : σ) :
    ∃ c w₁, r.acquire.Yields w c [⟨.acquire (some c), true⟩, ⟨.validate c, true⟩] w₁ := by
  obtain ⟨c, w₁, acquired⟩ := works.acquires w
  obtain ⟨w₂, valid⟩ := works.valid c w₁
  have requested : r.request.Yields w c [⟨.acquire (some c), true⟩] w₁ := by
    unfold request
    rw [works.patient]
    exact (Run.Yields.perform acquired _).then_silent (.pure c w₁)
  refine ⟨c, w₂, ?_⟩
  unfold acquire
  exact requested.bind ((Run.Yields.require valid _).then_silent (.pure c w₂))

/-- Statements one after another are answered one after another. -/
theorem body_yields (unprocessed : r.env.client.postProcessResponse = none) {statements : List (Compiled Value)}
    (sendable : ∀ q ∈ statements, q.Sendable) (w : σ) : ∃ responses w₁, r.Served c w statements responses w₁ ∧
      (r.body (statements.map fun q => .run (.compiled q) none) c).Yields w responses (r.sending c statements) w₁ := by
  induction statements generalizing w with
  | nil => exact ⟨[], w, .done, .pure [] w⟩
  | cons q statements ih =>
    obtain ⟨response, w₁, answer⟩ := works.executes c (r.form q) w
    obtain ⟨responses, w₂, served, others⟩ := ih (fun q hq => sendable q (.tail _ hq)) w₁
    refine ⟨response :: responses, w₂, .next answer served, ?_⟩
    have first : (r.runWithin c (.compiled q) none).Yields w response [⟨.execute c (r.form q), true⟩] w₁ := by
      have one := execute_yields c unprocessed (sendable q (.head _)) (r.env.context (.compiled q)) true answer
      have listed : ((Statements.one q).toList.mapM (r.execute c (r.env.context (.compiled q)) true)).Yields w
          [response] [⟨.execute c (r.form q), true⟩] w₁ := one.then_silent (.pure [response] w₁)
      unfold runWithin
      exact (Run.Yields.compile (.pure (Statements.one q, none)) w).bind_silent
        (listed.then_silent (.pure response w₁))
    exact first.bind (others.then_silent (.pure _ w₂))

/-- A batch is inserted in one transaction, and its result has the rows of all responses. -/
theorem runBatch_yields (unprocessed : r.env.client.postProcessResponse = none) {b : Batch}
    {statements : List (Compiled Value)} {values : List Value} (compiled : (b.compile r.env).Gives statements values)
    (some_ : statements ≠ []) (sendable : ∀ q ∈ statements, q.Sendable) (w : σ) : ∃ responses t w',
      r.Committed statements responses w t w' ∧ (r.runBatch b).Yields w (responses.flatMap Response.parts) t w' := by
  obtain ⟨c, w₁, acquired⟩ := acquire_yields works w
  obtain ⟨begun, w₂, opened, opens⟩ := control_yields c works .begin_ w₁
  obtain ⟨responses, w₃, served, answered⟩ := body_yields c works unprocessed sendable w₂
  obtain ⟨ended, w₄, closed, closes⟩ := control_yields c works .commit w₃
  obtain ⟨w₅, released⟩ := works.releases c w₄
  refine ⟨responses, _, w₅, .intro acquired opens opened served closes closed released, ?_⟩
  have inside : (r.atomic c (r.body (statements.map fun q => .run (.compiled q) none) c)).Yields w₁ responses
      (begun ++ (r.sending c statements ++ ended)) w₄ :=
    opens.bind ((answered.onFailure _).bind (closes.then_silent (.pure responses w₄)))
  have nonempty : statements.isEmpty = false := by simpa using some_
  unfold runBatch
  refine (Run.Yields.compile compiled w).bind_silent ?_
  rw [nonempty]
  refine (Run.Yields.report _ w).bind_silent ?_
  exact (acquired.bind (inside.ensuring (.require released _))).then_silent (.pure _ w₅)

end Runner

/-! ## Batches of rows -/

/-- A batch loses no row, and neither repeats nor moves one. Its statements describe its rows, at most `k` each,
and a run whose collaborators do not fail executes these statements in one transaction and returns the rows of
the responses. Without rows it does nothing at all. -/
theorem Batch.loses_nothing {client : Client Value} (builtin : client.dialect ∈ Dialect.builtin)
    (unhooked : client.wrapIdentifier = none) {table : String} (dotted : DottedName table) (rows : List DataRow)
    {k : Int} (positive : 1 ≤ k) :
    ∃ b, Batch.ofValues client (.str table) (.list (rows.map DataRow.toValue)) (.int k) = .ok b ∧
      (∀ env, ∃ statements, (b.compile env).outcome.1 = .ok statements ∧
        Batch.Describes client.capabilities.quotes k.toNat statements rows) ∧
      (∀ {σ κ : Type} (r : Runner σ κ) (s : RunState σ κ), r.Works → r.env.client.postProcessResponse = none →
        rows ≠ [] → ∃ statements responses t s', (b.compile r.env).outcome.1 = .ok statements ∧
          r.runBatch b s = .ok (responses.flatMap Response.parts) s' ∧ s'.trace = s.trace ++ t ∧
          r.Committed statements responses s.world t s'.world) ∧
      (rows = [] → ∀ {σ κ : Type} (r : Runner σ κ) (s : RunState σ κ), r.runBatch b s = .ok [] s) := by
  refine ⟨.ofRows client table rows k, Batch.ofValues_rows client table rows positive, fun env => ?_,
    fun r s works unprocessed filled => ?_, ?_⟩
  · obtain ⟨statements, values, compiled, describes, -⟩ :=
      Batch.compile_describes env builtin unhooked dotted rows positive
    exact ⟨statements, compiled.outcome, describes⟩
  · obtain ⟨statements, values, compiled, ⟨count, -⟩, sendable⟩ :=
      Batch.compile_describes r.env builtin unhooked dotted rows positive
    have some_ : statements ≠ [] := by
      have pieces : 0 < statements.length := by
        rw [count]
        have length : 0 < rows.length := List.length_pos_iff.mpr filled
        exact Nat.div_pos (by omega) (by omega)
      exact List.length_pos_iff.mp pieces
    obtain ⟨responses, t, w', committed, yields⟩ :=
      Runner.runBatch_yields works unprocessed compiled some_ sendable s.world
    obtain ⟨s', run, trace, rfl⟩ := yields s rfl
    exact ⟨statements, responses, t, s', compiled.outcome, run, trace, committed⟩
  · rintro rfl σ κ r s
    have nothing : (Batch.ofRows client table [] k).compile r.env = pure [] := by
      rw [Batch.compile, Batch.queries_rows]
      simp [chunksOf]
    unfold Runner.runBatch
    rw [nothing]
    change EStateM.Result.ok [] { s with events := s.events ++ [] } = _
    rw [List.append_nil]

/-- Three rows with different columns, one of them with a list, in statements of two rows, run on a driver that
counts its calls. -/
theorem Batch.loses_nothing_columns :
    let client : Client Value := { dialect := .sqlite, acquireTimeout := some .null }
    let rows : List DataRow :=
      [⟨[("a", .int 1)], by decide, by decide, by decide +kernel, by decide⟩,
        ⟨[("b", .list [.int 2, .null])], by decide, by decide, by decide +kernel, by decide⟩,
        ⟨[("b", .str "x"), ("a", .int 3)], by decide, by decide, by decide +kernel, by decide⟩]
    let r : Runner Nat Nat :=
      { env := { client }
        pool :=
          { acquire := fun n => (.ok n, n + 1)
            validate := fun _ n => (.ok true, n)
            release := fun _ n => (.ok (), n)
            destroy := fun n => (.ok (), n) }
        driver := { execute := fun _ _ n => (.ok (.rows [.int n] 1), n + 1) } }
    client.dialect ∈ Dialect.builtin ∧ DottedName "t" ∧ r.Works ∧
      ∃ b, Batch.ofValues client (.str "t") (.list (rows.map DataRow.toValue)) (.int 2) = .ok b ∧
        (∃ statements, (b.compile r.env).outcome.1 = .ok statements ∧
          Batch.Describes client.capabilities.quotes 2 statements rows) ∧
        ∃ statements responses t s', (b.compile r.env).outcome.1 = .ok statements ∧
          r.runBatch b { world := 0 } = .ok (responses.flatMap Response.parts) s' ∧ s'.trace = [] ++ t ∧
          r.Committed statements responses 0 t s'.world := by
  intro client rows r
  have builtin : client.dialect ∈ Dialect.builtin := by simp [client, Dialect.builtin]
  have dotted : DottedName "t" := PlainName.dotted (by decide +kernel)
  have works : r.Works :=
    { patient := rfl
      acquires := fun w => ⟨w, w + 1, rfl⟩
      valid := fun _ w => ⟨w, rfl⟩
      releases := fun _ w => ⟨w, rfl⟩
      executes := fun _ _ w => ⟨_, w + 1, rfl⟩
      controls := fun k _ called => by cases k <;> cases called }
  obtain ⟨b, made, compiled, ran, -⟩ := Batch.loses_nothing builtin rfl dotted rows (by decide : (1 : Int) ≤ 2)
  exact ⟨builtin, dotted, works, b, made, compiled r.env, ran r { world := 0 } works rfl (by simp [rows])⟩

end SqlBuilder
