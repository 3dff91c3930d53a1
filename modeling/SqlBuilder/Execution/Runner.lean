import SqlBuilder.Batch
import SqlBuilder.Execution.Collaborator
import SqlBuilder.Execution.Runnable
import SqlBuilder.Rebuild.Plan

/-!
# Running statements

A runner takes a connection from a pool, executes statements on it through a driver, and gives it back.
It adds the driver's form of the statements, what becomes of their responses, transactions, and errors
that name the statement that failed. Every call on a collaborator is traced.

* `Runner.query`: one statement on a connection.
* `Runner.execute`: one statement, and what becomes of its response.
* `Runner.atomic`: a body between begin and commit, or begin and rollback.
* `Runner.run`, `Runner.transaction`, `Runner.runBatch`: the three ways to run something.
-/

namespace SqlBuilder

/-! ## Traces -/

/-- The calls that drive a transaction. -/
inductive Control
  | begin_ | commit | rollback
  deriving DecidableEq, Inhabited

/-- The name of a call that drives a transaction. -/
def Control.name : Control → String
  | begin_ => "begin"
  | commit => "commit"
  | rollback => "rollback"

/-- A call on a collaborator. -/
inductive Action (κ : Type)
  /-- with the connection that was handed out, if one was -/
  | acquire (connection : Option κ)
  | validate (connection : κ)
  | release (connection : κ)
  | execute (connection : κ) (native : Native)
  | control (connection : κ) (control : Control)
  | cancel (connection : κ)
  | destroy

/-- A call on a collaborator, and whether it succeeded. -/
structure TraceEntry (κ : Type) where
  action : Action κ
  succeeded : Bool

/-- The world of the collaborators, the calls on them so far, and the reported events. -/
structure RunState (σ κ : Type) where
  world : σ
  trace : List (TraceEntry κ) := []
  events : List LogEvent := []

/-- A step of a run. -/
abbrev Run (σ κ α : Type) := EStateM Error (RunState σ κ) α

namespace Run

variable {σ κ α : Type}

/-- Makes a call on a collaborator. -/
def perform (effect : Effect σ α) (action : Except Failure α → Action κ) :
    Run σ κ (Except Failure α) := fun s =>
  let (outcome, world) := effect s.world
  .ok outcome
    { s with world, trace := s.trace ++ [⟨action outcome, outcome.toOption.isSome⟩] }

/-- The result of a call on a collaborator, if it succeeded. -/
def demand : Except Failure α → Run σ κ α
  | .ok a => pure a
  | .error f => throw f.error

/-- Makes a call on a collaborator that has to succeed. -/
def require (effect : Effect σ α) (action : Action κ) : Run σ κ α := do
  demand (← perform effect fun _ => action)

/-- Reports an event. -/
def report (event : LogEvent) : Run σ κ Unit :=
  modify fun s => { s with events := s.events ++ [event] }

/-- Makes a compilation a step of a run. -/
def compile (c : Compile α) : Run σ κ α := fun s =>
  match c {} with
  | .ok a p => .ok a { s with events := s.events ++ p.events }
  | .error e p => .error e { s with events := s.events ++ p.events }

/-- A body with a last step that is made however the body ends. -/
def ensuring (body : Run σ κ α) (last : Run σ κ Unit) : Run σ κ α := fun s =>
  match body s with
  | .ok a s =>
    match last s with
    | .ok _ s => .ok a s
    | .error e s => .error e s
  | .error e s =>
    match last s with
    | .ok _ s => .error e s
    | .error e' s => .error e' s

/-- A body with a step that is made if the body fails. -/
def onFailure (body : Run σ κ α) (step : Run σ κ Unit) : Run σ κ α := fun s =>
  match body s with
  | .ok a s => .ok a s
  | .error e s =>
    match step s with
    | .ok _ s => .error e s
    | .error e' s => .error e' s

end Run

/-! ## Responses -/

namespace Response

/-- What an output reads of a response: its rows, or the value that it is. -/
def content : Response → Value
  | rows all _ => .list all
  | value v => v
  | list _ => .null

/-- How many rows a statement touched, if the response says so. -/
def count : Response → Value
  | rows _ count => .int count
  | _ => .null

/-- The responses or the rows that a response consists of. -/
def parts : Response → List Response
  | rows all _ => all.map .value
  | value (.list items) => items.map .value
  | list items => items
  | r => [r]

/-- What a hook makes of a response and the context of the query. -/
def processed (hook : Option ResponseHook) (context : Option Value) (r : Response) :
    Except Error Response :=
  let context := Response.value (context.getD .null)
  match hook with
  | none => .ok r
  | some .rows =>
    match r with
    | rows all _ => .ok (.value (.list all))
    | r => .ok r
  | some .pair => .ok (.list [r, context])
  | some .context => .ok context
  | some .broken => .error wrongType

end Response

/-! ## Waiting -/

/-- How long a call may take. -/
inductive Patience
  /-- as long as it needs -/
  | enough
  /-- it is over before it starts -/
  | nothing
  /-- the given time is none, by a failure and its wording -/
  | impossible (fault : Fault) (text : String)

namespace Patience

/-- The kind of a value in the wording of a failed division. -/
def kindText : Value → String
  | .scalar (.day _) => "datetime.date"
  | .scalar (.moment _) => "datetime.datetime"
  | v => v.kind

/-- The bound of the whole numbers of milliseconds that make a double of seconds. -/
def secondsBound : Int :=
  Int.ofNat (1000 * (Nat.pow 2 1024 - Nat.pow 2 970))

/-- Whether the text of a number has a minus sign. -/
def isBelowZero (text : String) : Bool :=
  text.toList.head? == some '-'

/-- The patience of a time in milliseconds; without one it has no end. -/
def ofTime : Value → Patience
  | .bool _ => .enough
  | .int n =>
    if n ≥ secondsBound || -n ≥ secondsBound then
      .impossible .overflow "integer division result too large for a float"
    else if n < 0 then .nothing else .enough
  | .scalar (.float x) =>
    if isBelowZero x.text && (Value.scalar (.float x)).isTruthy then .nothing else .enough
  | .scalar (.decimal d) =>
    if !(Value.scalar (.decimal d)).isTruthy then .enough
    else if isBelowZero d.text then .nothing
    else .impossible .wrongType "unsupported operand type(s) for +: 'float' and 'decimal.Decimal'"
  | v =>
    if v.isTruthy then
      .impossible .wrongType
        ("unsupported operand type(s) for /: " ++ Text.quoted (kindText v) ++ " and 'int'")
    else .enough

end Patience

/-! ## Runners -/

/-- What executes statements for a client, through a pool and a driver. -/
structure Runner (σ κ : Type) where
  env : Environment
  pool : Pool σ κ
  driver : Driver σ κ

/-- A step of the body of a transaction. -/
inductive BodyStep
  | run (what : Value) (context : Option Value)
  /-- a failure of the caller's own -/
  | fail (e : Error)

namespace Runner

variable {σ κ α : Type}

/-- The dialect as a field of an event. -/
def dialectField (r : Runner σ κ) : String × Value :=
  ("dialect", .str r.env.client.dialectName)

/-! ### Connections -/

/-- Gives a connection back. -/
def release (r : Runner σ κ) (c : κ) : Run σ κ Unit :=
  Run.require (r.pool.release c) (.release c)

/-- The wording of a wait for a connection that took too long. -/
def acquireTimeoutText : String :=
  "Timeout acquiring a connection. The pool is probably full. " ++
    "Are you missing a .transacting(trx) call?"

/-- The time that a connection may be waited for, in milliseconds. -/
def acquireTimeout (r : Runner σ κ) : Value :=
  r.env.client.acquireTimeout.getD (.int 60000)

/-- The failure to get a connection in time. -/
def acquireLate (r : Runner σ κ) : Run σ κ α := do
  Run.report
    { event := "pool.acquire.timeout"
      level := .error
      fields := [r.dialectField, ("timeout_ms", r.acquireTimeout)] }
  throw (.timedOut acquireTimeoutText none [])

/-- Waits for a connection. The pool is asked before the time to wait is looked at, unless it only asks
when somebody waits. -/
def request (r : Runner σ κ) : Run σ κ κ := do
  let patience := Patience.ofTime r.acquireTimeout
  let ask : Run σ κ κ := do
    match ← Run.perform r.pool.acquire fun outcome => .acquire outcome.toOption with
    | .error .timeout => r.acquireLate
    | .error f => throw f.error
    | .ok c => return c
  match patience with
  | .enough => ask
  | .nothing =>
    if !r.pool.asksLate then let _ ← ask
    r.acquireLate
  | .impossible fault _ =>
    if !r.pool.asksLate then let _ ← ask
    throw (.fault fault)

/-- Takes a connection that can be used. -/
def acquire (r : Runner σ κ) : Run σ κ κ := do
  let c ← r.request
  let valid ← Run.require (r.pool.validate c) (.validate c)
  if valid then return c
  r.release c
  throw (.execution "Acquired connection failed validation" none [])

/-! ### Statements -/

/-- Cancels the running statement. -/
def cancel (r : Runner σ κ) (c : κ) : Run σ κ Unit := do
  if !r.env.client.capabilities.canCancelQuery then
    throw (.cannotCancel r.env.client.dialectName)
  match r.driver.cancel with
  | none => throw (.execution "The driver does not implement cancel(connection)" none [])
  | some cancel => Run.require (cancel c) (.cancel c)

/-- The wording of a statement that took too long. -/
def timeoutText (timeout : Value) : String :=
  "Defined query timeout of " ++ timeout.text ++ "ms exceeded when running query."

/-- Lets the driver execute a statement, as long as there is patience. -/
def attempt (r : Runner σ κ) (c : κ) (q : Compiled Value) (native : Native) :
    Run σ κ (Except Failure Response) := do
  match Patience.ofTime (q.timeout.getD .null) with
  | .enough => Run.perform (r.driver.execute c native) fun _ => .execute c native
  | .nothing => return .error .timeout
  | .impossible _ text => return .error (.broken text)

/-- Executes one statement. A failure of the driver is an error that names the statement. -/
def query (r : Runner σ κ) (c : κ) (q : Compiled Value) : Run σ κ Response := do
  let native ← Run.compile (r.env.client.native q)
  let event (name : String) (level : LogLevel) (fields : List (String × Value)) : LogEvent :=
    { event := name, level, fields := r.dialectField :: ("method", .str q.method) :: fields }
  let sql := ("sql", Value.str native.sql)
  Run.report (event "query.executing" .debug [sql, ("bindings", .list native.bindings)])
  match ← r.attempt c q native with
  | .ok response =>
    Run.report (event "query.completed" .debug [("row_count", response.count)])
    return response
  | .error .timeout =>
    let timeout := q.timeout.getD .null
    if q.cancelOnTimeout.any Value.isTruthy then r.cancel c
    Run.report
      (event "query.failed" .error [sql, ("reason", .str "timeout"), ("timeout_ms", timeout)])
    throw (.timedOut (timeoutText timeout) (some native.sql) native.bindings)
  | .error (.refused e) => throw e
  | .error (.broken text) =>
    let shown ← Run.compile (r.env.formatQuery r.env.client q.sql (.list q.bindings))
    Run.report (event "query.failed" .error [sql, ("error", .str text)])
    throw (.execution (shown ++ " - " ++ text) (some native.sql) native.bindings)

/-! ### Transactions -/

/-- The call of the driver for a step of a transaction, if there is one. -/
def controlCall (r : Runner σ κ) : Control → Option (κ → Effect σ Unit)
  | .begin_ => r.driver.begin_
  | .commit => r.driver.commit
  | .rollback => r.driver.rollback

/-- The statement for a step of a transaction, if one is needed. -/
def controlStatement (r : Runner σ κ) : Control → Option String
  | .begin_ => r.env.client.capabilities.beginTransaction
  | control => some control.name

/-- Makes a step of a transaction: by a call of the driver, or else by a statement. -/
def control (r : Runner σ κ) (c : κ) (control : Control) : Run σ κ Unit := do
  match r.controlCall control with
  | some call => Run.require (call c) (.control c control)
  | none =>
    match r.controlStatement control with
    | none => pure ()
    | some sql =>
      let _ ← r.query c { sql, method := "raw", dialect := some r.env.client.dialectName }

/-- A body between begin and commit; if the body fails, it is rolled back. -/
def atomic (r : Runner σ κ) (c : κ) (body : Run σ κ α) : Run σ κ α := do
  r.control c .begin_
  let a ← Run.onFailure body do
    Run.report { event := "transaction.rollback", level := .warning, fields := [r.dialectField] }
    r.control c .rollback
  r.control c .commit
  return a

/-! ### Responses -/

/-- Executes one statement and makes of its response what the statement asks for. The statements that
build a table again run in a transaction, unless one is open. -/
def execute (r : Runner σ κ) (c : κ) (context : Option Value) (inTransaction : Bool)
    (q : Compiled Value) : Run σ κ Response := do
  let response ← r.query c q
  let response ← match q.output with
    | none => pure response
    | some output =>
      match output.interpret response.content with
      | .error e => throw e
      | .ok (.truth b) => pure (.value (.bool b))
      | .ok (.statements list) =>
        let all := list.mapM (r.query c)
        pure (.list (← if inTransaction then all else r.atomic c all))
  match response.processed r.env.client.postProcessResponse context with
  | .ok response => return response
  | .error e => throw e

/-- Executes statements one after another; what is no statement among them is an error. -/
def executeAll (r : Runner σ κ) (c : κ) (context : Option Value) (inTransaction : Bool)
    (statements : Statements) (misplaced : Option Error) : Run σ κ Response := do
  let responses ← statements.toList.mapM (r.execute c context inTransaction)
  match misplaced, statements, responses with
  | some e, _, _ => throw e
  | none, .one _, [response] => return response
  | none, _, responses => return .list responses

/-! ### Runs -/

/-- Runs something on a connection of its own. -/
def run (r : Runner σ κ) (what : Value) (context : Option Value := none) : Run σ κ Response := do
  let (statements, misplaced) ← Run.compile (r.env.statements what)
  let c ← r.acquire
  let context := context.or (r.env.context what)
  Run.ensuring (r.executeAll c context false statements misplaced) (r.release c)

/-- Runs several things in turn, each on a connection of its own. -/
def runAll (r : Runner σ κ) (list : List Value) : Run σ κ (List Response) :=
  list.mapM fun what => r.run what

/-- Runs a body on one connection, between begin and commit or rollback. -/
def transaction (r : Runner σ κ) (body : κ → Run σ κ α) : Run σ κ α := do
  let c ← r.acquire
  Run.ensuring (r.atomic c (body c)) (r.release c)

/-- Runs something on the connection of a transaction. -/
def runWithin (r : Runner σ κ) (c : κ) (what : Value) (context : Option Value := none) :
    Run σ κ Response := do
  let (statements, misplaced) ← Run.compile (r.env.statements what)
  r.executeAll c (context.or (r.env.context what)) true statements misplaced

/-- The body of a transaction that makes steps one after another. -/
def body (r : Runner σ κ) (steps : List BodyStep) (c : κ) : Run σ κ (List Response) := do
  match steps with
  | [] => return []
  | .run what context :: rest =>
    let response ← r.runWithin c what context
    return response :: (← r.body rest c)
  | .fail e :: _ => throw e

/-- Inserts the rows of a batch in one transaction; the result has the rows of all responses. -/
def runBatch (r : Runner σ κ) (b : Batch) : Run σ κ (List Response) := do
  let statements ← Run.compile (b.compile r.env)
  if statements.isEmpty then return []
  Run.report
    { event := "batch.insert"
      level := .debug
      fields :=
        [("table", b.table), ("rows", .int b.rows.length), ("chunks", .int statements.length),
         ("chunk_size", .int b.chunkSize)] }
  let responses ← r.transaction (r.body (statements.map fun q => .run (Value.compiled q) none))
  return responses.flatMap Response.parts

/-- Ends the pool. -/
def destroy (r : Runner σ κ) : Run σ κ Unit :=
  Run.require r.pool.destroy .destroy

end Runner

end SqlBuilder
