import SqlBuilder.Memory.Mutations
import SqlBuilder.Render.Compile

/-!
# Sessions

A session keeps objects under names, so that several statements can share them: a call on a shared
object is seen by every statement that refers to it. The queries among them are put together from
containers in a memory, and a call changes containers there. Sessions also register extensions of queries.

* `Session`: a memory, the stored objects, their names and the extensions.
* `Session.env`: what terms may refer to, with every stored query as it reads at the moment.
* `StoredCursor.call`: a call on a query in the memory.
* `Session.chain`: a chain of calls on a query in the memory.
* `Step`: a step of a session.
* `Session.run`: the outcome of a step, and what it leaves.
* `Session.state?`: the compiled form of a stored object.
-/

namespace SqlBuilder

/-! ## Sessions -/

/-- A stored object. -/
inductive StoredObject
  | query (b : Ref .query)
  | raw (r : Raw Value)

/-- What a name stands for. -/
inductive Named
  | value (v : Value)
  /-- the choice of what a query does about conflicts over some columns -/
  | handle (b : Ref .query) (columns : List Value)

/-- The stored objects of a session and their names, with the memory of the queries among them, and the
extensions of queries. -/
structure Session where
  registry : Registry := .builtin
  client : Client Value
  memory : Memory
  objects : List StoredObject := []
  names : List (String × Named) := []
  extensions : List (String × Chain) := []

namespace Session

/-- A session in which nothing is stored. -/
def start (registry : Registry) (client : Client Value) : Session where
  registry
  client
  memory := .empty client

/-- The state of a stored object. -/
def stateOf (s : Session) : StoredObject → SharedState
  | .query b => .query (s.memory.query b)
  | .raw r => .raw r

/-- What terms see of a name. Of an open choice about conflicts they see no more than its columns. -/
def valueOf (s : Session) : Named → Value
  | .value v => v
  | .handle _ columns => .conflict (Query.ofClient s.client) columns

/-- What terms may refer to. -/
def env (s : Session) : Environment where
  registry := s.registry
  client := s.client
  names := s.names.map fun (name, v) => (name, s.valueOf v)
  objects := s.objects.map s.stateOf
  extensions := s.extensions

end Session

/-! ## Calls on queries -/

/-- What a call writes. -/
def QueryStage.mutations (stage : QueryStage) (name : String) (a : Arguments) : List Mutation :=
  match stage with
  | .builder => Mutation.ofMethod name a
  | .conflict _ => [.assign .conflict]
  | .value _ => []

/-- The place where a chain of calls on a stored query stands: the memory, the query that the next call is
made on, and what the last call left. -/
structure StoredCursor where
  memory : Memory
  query : Ref .query
  stage : QueryStage := .builder

namespace StoredCursor

/-- The cursor as calls see it. -/
def read (c : StoredCursor) : QueryCursor :=
  { origin := c.memory.query c.query, stage := c.stage }

/-- Writes what a call made of the query, and moves on to another query if the call did: to a copy of this one,
or to a query that it was given. -/
def write (c : StoredCursor) (name : String) (mutations : List Mutation) (made : QueryCursor) : StoredCursor :=
  let memory := c.memory.writeAll c.query made.origin mutations
  match made.copy with
  | none => { memory, query := c.query, stage := made.stage }
  | some q =>
    let moved := if name = "clone" then memory.clone c.query else memory.ofQuery q
    { memory := moved.2, query := moved.1, stage := made.stage }

/-- A call by name; what it did in place before it failed is kept. -/
def call (callbacks : Callbacks) (outputs : Outputs) (name : String) (a : Arguments) :
    Make StoredCursor Unit := fun m =>
  let c := m.object
  match QueryCursor.call callbacks outputs none name a { m with object := c.read } with
  | .ok _ made => .ok () { made with object := c.write name (c.stage.mutations name a) made.object }
  | .error e made =>
    .error e { made with object := c.write name ((c.stage.mutations name a).filter Mutation.inPlace) made.object }

/-- Makes the calls of a chain, where `arguments` evaluates the arguments of each call as the memory is then. -/
def calls (arguments : Memory → Call Term → Logged Arguments)
    (call : String → Arguments → Make StoredCursor Unit) : Chain → Make StoredCursor Unit
  | [] => pure ()
  | c :: rest => do
    call c.name (← Make.ofLogged (arguments (← get).object.memory c))
    calls arguments call rest

/-- Runs the chain of an extension, which takes arguments by position only; they come after those of
its first call. -/
def extension (arguments : Memory → Call Term → Logged Arguments)
    (call : String → Arguments → Make StoredCursor Unit) (chain : Chain) (a : Arguments) :
    Make StoredCursor Unit := do
  unless a.keywords.isEmpty do throw wrongType
  match chain with
  | [] => pure ()
  | c :: rest =>
    let own ← Make.ofLogged (arguments (← get).object.memory c)
    call c.name { own with positional := own.positional ++ a.positional }
    calls arguments call rest

end StoredCursor

namespace Session

/-- The evaluator of what terms may refer to, up to a number of levels. -/
def evaluator (s : Session) (n : Nat) (m : Memory) : Evaluator :=
  let env := { s with memory := m }.env
  SqlBuilder.evaluator env (env.nested.outputsOn env) n

/-- A call by name on a stored query; callbacks and extensions run one level down. -/
def call (s : Session) : Nat → String → Arguments → Make StoredCursor Unit
  | 0, _, _ => throw (.fault .nestingTooDeep)
  | n + 1, name, a => do
    let c := (← get).object
    match c.stage, Query.call name a (c.memory.query c.query), s.extensions.lookup name with
    | .builder, .ok .unknown _, some chain =>
      StoredCursor.extension (fun m => (s.evaluator n m).arguments) (s.call n) chain a
    | _, _, _ =>
      let env := { s with memory := c.memory }.env
      StoredCursor.call (s.evaluator n c.memory).callbacks (env.nested.outputsOn env) name a

/-- The calls of a chain on a stored query. -/
def chain (s : Session) : Chain → Make StoredCursor Unit :=
  StoredCursor.calls (fun m => (s.evaluator nestingLimit m).arguments) (s.call nestingLimit)

/-- Makes calls on a stored query, and the place where they end; what they did before one failed is kept. -/
def callQuery (s : Session) (b : Ref .query) (stage : QueryStage) (calls : Chain) :
    Except Error Unit × StoredCursor :=
  match s.chain calls { object := { memory := s.memory, query := b, stage } } with
  | .ok _ m => (.ok (), m.object)
  | .error e m => (.error e, m.object)

/-! ## Storing -/

/-- Puts a value under a name. -/
def bindName (s : Session) (name : String) (v : Named) : Session :=
  { s with names := (name, v) :: s.names.filter fun entry => entry.1 != name }

/-- Stores an object that may be shared. -/
def share (s : Session) (object : StoredObject) : Session :=
  { s with objects := s.objects ++ [object] }

/-- Stores an object under a name. -/
def shareAs (s : Session) (name : String) (kind : SharedKind) (object : StoredObject) : Session :=
  (s.share object).bindName name (.value (.shared ⟨s.objects.length, kind⟩))

/-- Stores a value under a name; queries and raw expressions become shared objects. -/
def store (s : Session) (name : String) (v : Value) : Session :=
  match v with
  | .query q =>
    let new := s.memory.ofQuery q
    { s with memory := new.2 }.shareAs name .query (.query new.1)
  | .raw r => s.shareAs name (if r.reference.isSome then .reference else .raw) (.raw r)
  | .conflict q columns =>
    let new := s.memory.ofQuery q
    { s with memory := new.2 }.bindName name (.handle new.1 columns)
  | v => s.bindName name (.value v)

/-- The stored query of a name. -/
def storedQuery (s : Session) (name : String) : Except Error (Ref .query) := do
  match s.names.lookup name with
  | none => throw (.fault .missingKey)
  | some (.value (.shared o)) =>
    match s.objects[o.id]? with
    | some (.query b) => return b
    | _ => throw noSuchMember
  | some _ => throw noSuchMember

/-- Stores a copy of a query. -/
def clone (s : Session) (b : Ref .query) : Session :=
  let copy := s.memory.clone b
  { s with memory := copy.2 }.share (.query copy.1)

/-! ## Calls on other objects -/

/-- Makes calls on an object, and the object that they leave; what they did before one failed is
kept. -/
def callObject {σ : Type} (s : Session) (call : σ → String → Arguments → Logged σ) (object : σ)
    (calls : Chain) : Except Error Unit × σ :=
  let step (name : String) (a : Arguments) : Make σ Unit :=
    Make.change fun object => call object name a
  match s.env.evaluator.calls step calls { object } with
  | .ok _ m => (.ok (), m.object)
  | .error e m => (.error e, m.object)

/-- Makes calls on a stored raw expression. -/
def callRaw (s : Session) (o : SharedObject) (r : Raw Value) (calls : Chain) :
    Except Error Unit × Session :=
  (s.callObject (RawCursor.call (s.env.nested.outputsOn s.env)) { raw := r } calls).map id fun c =>
    { s with objects := s.objects.set o.id (.raw c.raw) }

/-- Makes calls on a stored schema change. -/
def callSchema (s : Session) (name : String) (change : Schema Value) (calls : Chain) :
    Except Error Unit × Session :=
  (s.callObject (SchemaCursor.call (s.env.nested.outputsOn s.env)) { schema := change } calls).map id
    fun c => s.bindName name (.value (.schema c.schema))

/-- Makes calls on a stored value that calls do not change. -/
def callValue (s : Session) (v : Value) (calls : Chain) : Except Error Unit :=
  (s.callObject (fun v name a => liftExcept (Value.call v name a)) v calls).1

end Session

/-! ## Steps -/

/-- A query from the start of its chain of calls. -/
def Environment.start (env : Environment) (table : Option Term) : Logged (Query Value) := do
  let q := Query.ofClient env.client
  match table with
  | none => return q
  | some table => return q.from_ (← env.evaluator.term table)

/-- A step of a session. -/
inductive Step
  /-- makes a query by a chain of calls -/
  | new (name : String) (table : Option Term) (calls : Chain)
  /-- makes a chain of calls on a stored object -/
  | call (name : String) (calls : Chain)
  /-- stores a copy of a query -/
  | clone (name source : String)
  /-- stores a value -/
  | set (name : String) (value : Term)
  /-- registers a chain of calls as a method of queries -/
  | extend (method : String) (calls : Chain)
  | unregister (method : String)
  /-- asks for the context of a query -/
  | context (name : String)

/-- The name that a step stores a value under or looks one up by. -/
def Step.name? : Step → Option String
  | .new name _ _ | .call name _ | .clone name _ | .set name _ | .context name => some name
  | .extend _ _ | .unregister _ => none

namespace Session

/-- Registers a chain of calls as a method of queries. -/
def extend (s : Session) (method : String) (calls : Chain) : Except Error Session :=
  if Query.memberNames.contains method then .error (.invalid (.extensionTaken method))
  else if (s.extensions.lookup method).isSome then .error (.invalid (.extensionTwice method))
  else .ok { s with extensions := s.extensions ++ [(method, calls)] }

/-- Makes calls on what a name stands for. -/
def callNamed (s : Session) (name : String) (calls : Chain) : Except Error Unit × Session :=
  let onQuery (b : Ref .query) (stage : QueryStage) : Except Error Unit × Session :=
    (s.callQuery b stage calls).map id fun c => { s with memory := c.memory }
  match s.names.lookup name with
  | none => (.error (.fault .missingKey), s)
  | some (.handle b columns) => onQuery b (.conflict columns)
  | some (.value (.shared o)) =>
    match s.objects[o.id]? with
    | some (.query b) => onQuery b .builder
    | some (.raw r) => s.callRaw o r calls
    | none => (.error noSuchMember, s)
  | some (.value (.schema change)) => s.callSchema name change calls
  | some (.value v) => (s.callValue v calls, s)

/-- What a step leaves: another session, or the same one if it fails. -/
def changed (s : Session) (next : Except Error Session) : Except Error (Option Value) × Session :=
  match next with
  | .ok s => (.ok none, s)
  | .error e => (.error e, s)

/-- The outcome of a step, which is a value only if the step asks for one, and what it leaves. -/
def run (s : Session) (step : Step) : Except Error (Option Value) × Session :=
  match step with
  | .new name table calls => s.changed <| Logged.outcome do
    let cursor ← s.env.evaluator.runQuery (← s.env.start table) calls
    return s.store name cursor.result
  | .call name calls => (s.callNamed name calls).map (Except.map fun _ => none) id
  | .clone name source => s.changed do
    let b ← s.storedQuery source
    return (s.clone b).bindName name (.value (.shared ⟨s.objects.length, .query⟩))
  | .set name value => s.changed <| Logged.outcome do
    return s.store name (← s.env.evaluator.term value)
  | .extend method calls => s.changed (s.extend method calls)
  | .unregister method =>
    (.ok none, { s with extensions := s.extensions.filter fun entry => entry.1 != method })
  | .context name =>
    match s.storedQuery name with
    | .ok b => (.ok (some ((s.memory.query b).context.getD .null)), s)
    | .error e => (.error e, s)

/-- The compiled form of a value, if it is a query or a raw expression. -/
def compiled? (s : Session) (v : Value) : Option (Compile (Compiled Value)) :=
  match s.env.query? v, s.env.raw? v with
  | some q, _ => some (q.compile s.env)
  | none, some r => some (r.compile s.env)
  | none, none => none

/-- The compiled form of the stored object of a name, if it has one. -/
def state? (s : Session) (name : String) : Option (Compile (Compiled Value)) :=
  (s.env.names.lookup name).bind s.compiled?

end Session

end SqlBuilder
