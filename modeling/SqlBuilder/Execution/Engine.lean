import SqlBuilder.Execution.Collaborator

/-!
# Engines

An engine hands out connections that open a transaction by themselves when a statement is executed on
them, and that may be closed or become invalid. A pool and a driver stand over such an engine: a
connection that is given back commits what is still open.

* `Engine`: the calls on an engine and its connections.
* `Engine.pool`, `Engine.driver`: the collaborators over an engine.
* `Engine.traced`: the same engine with a trace of the calls.
-/

namespace SqlBuilder

/-- What comes back from a statement on an engine's connection; not every statement returns rows. -/
structure EngineResult where
  rows : Option (List Value)
  count : Int
  deriving Inhabited

/-- The calls on an engine and its connections. -/
structure Engine (σ κ : Type) where
  connect : Effect σ κ
  dispose : Effect σ Unit
  isClosed : κ → Effect σ Bool
  isInvalidated : κ → Effect σ Bool
  inTransaction : κ → Effect σ Bool
  execute : κ → Native → Effect σ EngineResult
  begin_ : κ → Effect σ Unit
  commit : κ → Effect σ Unit
  rollback : κ → Effect σ Unit
  close : κ → Effect σ Unit

namespace Engine

variable {σ κ : Type}

/-! ## The collaborators -/

/-- Commits what is open on a connection. -/
def commitOpen (e : Engine σ κ) (c : κ) : Effect σ Unit := do
  if ← e.inTransaction c then e.commit c

/-- Whether a connection can be used. -/
def isUsable (e : Engine σ κ) (c : κ) : Effect σ Bool := do
  if ← e.isClosed c then return false
  return !(← e.isInvalidated c)

/-- The pool over an engine. -/
def pool (e : Engine σ κ) : Pool σ κ where
  acquire := e.connect
  validate := e.isUsable
  release c := do
    e.commitOpen c
    e.close c
  destroy := e.dispose

/-- The driver over an engine. -/
def driver (e : Engine σ κ) : Driver σ κ where
  execute c native := do
    let result ← e.execute c native
    return .rows (result.rows.getD []) result.count
  begin_ := some fun c => do
    e.commitOpen c
    e.begin_ c
  commit := some e.commit
  rollback := some e.rollback

/-! ## Traces -/

/-- A call that changes an engine or one of its connections. -/
inductive Call (κ : Type)
  | connect
  | execute (connection : κ) (native : Native)
  | begin_ (connection : κ)
  | commit (connection : κ)
  | rollback (connection : κ)
  | close (connection : κ)
  | dispose

/-- A call that is noted before it is made. -/
def noting {α : Type} (call : Call κ) (effect : Effect σ α) : Effect (σ × List (Call κ)) α :=
  fun (world, calls) =>
    let (outcome, world) := effect world
    (outcome, (world, calls ++ [call]))

/-- A question to a connection, which is not noted. -/
def asking {α : Type} (effect : Effect σ α) : Effect (σ × List (Call κ)) α :=
  fun (world, calls) =>
    let (outcome, world) := effect world
    (outcome, (world, calls))

/-- The engine with a trace of the calls that change something. -/
def traced (e : Engine σ κ) : Engine (σ × List (Call κ)) κ where
  connect := noting .connect e.connect
  dispose := noting .dispose e.dispose
  isClosed c := asking (e.isClosed c)
  isInvalidated c := asking (e.isInvalidated c)
  inTransaction c := asking (e.inTransaction c)
  execute c native := noting (.execute c native) (e.execute c native)
  begin_ c := noting (.begin_ c) (e.begin_ c)
  commit c := noting (.commit c) (e.commit c)
  rollback c := noting (.rollback c) (e.rollback c)
  close c := noting (.close c) (e.close c)

end Engine

end SqlBuilder
