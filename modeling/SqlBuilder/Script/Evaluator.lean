import SqlBuilder.Config
import SqlBuilder.Script.Cursor

/-!
# Running scripts

The evaluation of terms, and the running of chains of calls. Callbacks, extensions and nested builders
run one level down; the number of levels is limited, since an extension may call itself. Evaluation
may report events, where the script asks what a builder compiles to.

* `Environment`: what terms may refer to.
* `evaluator`: evaluates terms and runs chains, up to a number of levels.
-/

namespace SqlBuilder

/-! ## Environments -/

/-- An object that several statements share. -/
inductive SharedState
  | query (q : Query Value)
  | raw (r : Raw Value)

/-- What terms may refer to: the registered dialects, the client at hand, the shared objects and
their names, and the extensions of queries. -/
structure Environment where
  registry : Registry := .builtin
  client : Client Value
  names : List (String × Value) := []
  objects : List SharedState := []
  extensions : List (String × Chain) := []

namespace Environment

/-- The value of a name. -/
def lookup (env : Environment) (name : String) : Except Error Value :=
  match env.names.lookup name with
  | some v => .ok v
  | none => .error (.fault .missingKey)

/-- The shared object of a reference. -/
def object? (env : Environment) (o : SharedObject) : Option SharedState :=
  env.objects[o.id]?

/-- The query that a value is, if it is one. -/
def query? (env : Environment) : Value → Option (Query Value)
  | .query q => some q
  | .shared o =>
    match env.object? o with
    | some (.query q) => some q
    | _ => none
  | _ => none

/-- The raw expression that a value is, if it is one. -/
def raw? (env : Environment) : Value → Option (Raw Value)
  | .raw r => some r
  | .shared o =>
    match env.object? o with
    | some (.raw r) => some r
    | _ => none
  | _ => none

end Environment

/-! ## Evaluation -/

/-- How many levels builders, callbacks and extensions may be nested. -/
def nestingLimit : Nat := 400

/-- What evaluates terms and makes calls on queries under construction. -/
structure Evaluator where
  term : Term → Logged Value
  call : String → Arguments → Make QueryCursor Unit

namespace Evaluator

/-- An evaluator for which everything is nested too deep. -/
def exhausted : Evaluator where
  term _ := throw (.fault .nestingTooDeep)
  call _ _ := throw (.fault .nestingTooDeep)

/-- The arguments of a call. -/
def arguments (ev : Evaluator) (c : Call Term) : Logged Arguments := do
  let positional ← c.arguments.mapM ev.term
  let keywords ← c.keywords.mapM fun (name, t) => do return (name, ← ev.term t)
  return { positional, keywords }

/-- Makes calls one after another, each by `step`. -/
def calls {σ : Type} (ev : Evaluator) (step : String → Arguments → Make σ Unit) :
    Chain → Make σ Unit
  | [] => pure ()
  | c :: rest => do
    step c.name (← Make.ofLogged (ev.arguments c))
    ev.calls step rest

/-- Makes the calls of a chain on a query under construction. -/
def chain (ev : Evaluator) (calls : Chain) : Make QueryCursor Unit :=
  ev.calls ev.call calls

/-- Runs the chain of an extension, which takes arguments by position only; they come after those of
its first call. -/
def extension (ev : Evaluator) (calls : Chain) (a : Arguments) : Make QueryCursor Unit := do
  unless a.keywords.isEmpty do throw wrongType
  match calls with
  | [] => pure ()
  | c :: rest =>
    let own ← Make.ofLogged (ev.arguments c)
    ev.call c.name { own with positional := own.positional ++ a.positional }
    ev.chain rest

/-- Runs a chain on a builder whose methods may report events. -/
def onBuilder {σ : Type} (ev : Evaluator) (call : σ → String → Arguments → Logged σ)
    (chain : Chain) (builder : σ) : Logged σ :=
  Make.finish (ev.calls (fun name a => Make.change fun builder => call builder name a) chain) builder

/-- Runs each chain of a callback on an object whose methods change it. -/
def onObject {σ : Type} (ev : Evaluator) (call : σ → String → Arguments → Except Error σ)
    (chains : List Chain) (object : σ) : Logged σ :=
  chains.foldlM
    (fun object chain => ev.onBuilder (fun object name a => liftExcept (call object name a)) chain object)
    object

/-- How callbacks of an evaluator run. -/
def callbacks (ev : Evaluator) : Callbacks where
  join := ev.onObject Join.call
  window := ev.onObject Window.call

/-- Runs each chain of a callback on a query, every time from the query itself. -/
def onQuery (ev : Evaluator) (chains : List Chain) (q : Query Value) : Logged (Query Value) :=
  chains.foldlM
    (fun q chain => do return (← Make.finish (ev.chain chain) { origin := q }).origin)
    q

/-- Runs a chain on a query. -/
def runQuery (ev : Evaluator) (q : Query Value) (chain : Chain) : Logged QueryCursor :=
  Make.finish (ev.chain chain) { origin := q }

/-- Makes calls one after another; a failure comes with the number of calls made before it. -/
def countedCalls {σ : Type} (ev : Evaluator) (step : String → Arguments → Make σ Unit) :
    Nat → Chain → σ → EStateM (Nat × Error) (List LogEvent) σ
  | _, [], object => pure object
  | n, c :: rest, object => fun events =>
    match Make.finish (ev.calls step [c]) object events with
    | .ok object events => ev.countedCalls step (n + 1) rest object events
    | .error e events => .error (n, e) events

/-- The client that a source describes. -/
def config (ev : Evaluator) (env : Environment) : ClientSource Term → Logged Config
  | .source settings => do
    let config ← liftExcept (Config.ofValue (← ev.term settings))
    let _ ← liftExcept (config.client env.registry)
    return config
  | .withConfig base changes => do
    let base ← ev.config env base
    let _ ← liftExcept (base.client env.registry)
    let changes ← changes.mapM fun (name, t) => do return (name, ← ev.term t)
    return changes.foldl Config.change base
  | .withoutProcessing base => do return (← ev.config env base).withoutProcessing

/-- The client that a source describes, or the one at hand. -/
def client (ev : Evaluator) (env : Environment) :
    Option (ClientSource Term) → Logged (Client Value)
  | none => pure env.client
  | some source => do liftExcept ((← ev.config env source).client env.registry)

end Evaluator

/-- The raw expression of the current time, to a number of fractional digits if one is given. -/
def currentTime (client : Client Value) (precision : Value) : Raw Value :=
  Raw.ofText client (match precision with
    | .int n => "CURRENT_TIMESTAMP(" ++ toString n ++ ")"
    | _ => "CURRENT_TIMESTAMP")

/-- Evaluates a term, with its parts evaluated by `lower`. -/
def evaluateWith (env : Environment) (outputs : Outputs) (lower : Evaluator) :
    Term → Logged Value
  | .scalar s => pure (.scalar s)
  | .list items => do return .list (← items.mapM lower.term)
  | .tuple items => do return .tuple (← items.mapM lower.term)
  | .set items => do
    let items ← items.mapM lower.term
    if items.all Value.isKey then return .set (Value.distinct items) else throw wrongType
  | .map entries => do
    let entries ← entries.mapM fun (k, v) => do return (← lower.term k, ← lower.term v)
    if entries.all fun (k, _) => k.isKey then return .map (Value.mapping entries)
    else throw wrongType
  | .callback chains => pure (.callback chains)
  | .query source table calls => do
    let q := Query.ofClient (← lower.client env source)
    let q ← match table with
      | none => pure q
      | some table => pure (q.from_ (← lower.term table))
    return (← lower.runQuery q calls).result
  | .raw sql bindings detached calls => do
    let sql ← lower.term sql
    let bindings ← match bindings with
      | none => pure .null
      | some bindings => lower.term bindings
    let raw := Raw.ofValue env.client sql bindings
    let raw := if detached then { raw with client := none } else raw
    return (← lower.onBuilder (RawCursor.call outputs) calls { raw }).result
  | .reference name calls => do
    let raw := Raw.ofReference env.client (← lower.term name)
    return (← lower.onBuilder (RawCursor.call outputs) calls { raw }).result
  | .now precision => do return .raw (currentTime env.client (← lower.term precision))
  | .schema calls => do
    let c ← lower.onBuilder (SchemaCursor.call outputs) calls { schema := { client := env.client } }
    return c.value.getD (.schema c.schema)
  | .compiled sql bindings timeout cancelOnTimeout => do
    let sql ← lower.term sql
    let bindings ← bindings.mapM lower.term
    let timeout ← timeout.mapM lower.term
    let cancelOnTimeout ← cancelOnTimeout.mapM lower.term
    return .compiled {
      sql := sql.str?.getD ""
      object := if sql.str?.isSome then none else some sql
      bindings
      timeout := timeout.bind Value.present?
      cancelOnTimeout }
  | .variable_ name => liftExcept (env.lookup name)

/-- Makes a call on a query under construction; callbacks run on `lower`, and so do extensions. -/
def queryCallWith (env : Environment) (outputs : Outputs) (lower : Evaluator) (name : String)
    (a : Arguments) : Make QueryCursor Unit :=
  QueryCursor.call lower.callbacks outputs ((env.extensions.lookup name).map lower.extension) name a

/-- The evaluator that goes down the given number of levels. -/
def evaluator (env : Environment) (outputs : Outputs) : Nat → Evaluator
  | 0 => .exhausted
  | n + 1 =>
    let lower := evaluator env outputs n
    { term := evaluateWith env outputs lower
      call := queryCallWith env outputs lower }

end SqlBuilder
