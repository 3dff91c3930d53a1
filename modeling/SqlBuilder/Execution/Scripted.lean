import SqlBuilder.Execution.Engine
import SqlBuilder.Execution.Runner

/-!
# Scripted collaborators

Collaborators whose answers follow rules, for trying out what a runner does. The first rule that fits a
statement decides how it ends; a statement that none fits returns no rows.

* `ScriptRule`, `ScriptRule.outcome`: the rules.
* `ScriptedPool.pool`, `ScriptedDriver.driver`: a pool and a driver.
* `ScriptedEngine.engine`: an engine with one connection.
-/

namespace SqlBuilder

/-! ## Rules -/

mutual

/-- Whether two values are equal: scalars by what they denote, sequences of one kind item by item. -/
def Value.same : Value → Value → Bool
  | .scalar s, .scalar t => s.same t
  | .list items, .list others => sameItems items others
  | .tuple items, .tuple others => sameItems items others
  | _, _ => false

/-- Whether the items of two sequences are equal. -/
def sameItems : List Value → List Value → Bool
  | [], [] => true
  | v :: vs, w :: ws => Value.same v w && sameItems vs ws
  | _, _ => false

end

/-- How a statement ends. -/
inductive ScriptAnswer
  | failure (f : Failure)
  | value (v : Value)
  | rows (rows : List Value)
  deriving Inhabited

/-- A rule for the statements that begin with a text and have a value among their bindings. -/
structure ScriptRule where
  start : String := ""
  binding : Option Value := none
  answer : ScriptAnswer

namespace ScriptRule

/-- Whether a rule fits a statement. -/
def fits (rule : ScriptRule) (native : Native) : Bool :=
  Text.startsWith native.sql rule.start &&
    rule.binding.all fun v => native.bindings.any (Value.same v)

/-- How a statement ends by a list of rules. -/
def outcome (rules : List ScriptRule) (native : Native) : ScriptAnswer :=
  ((rules.find? fun rule => rule.fits native).map ScriptRule.answer).getD (.rows [])

end ScriptRule

/-! ## Pools and drivers -/

/-- How the wait for a connection ends. -/
inductive Acquisition
  | ready | timeout | failure
  deriving DecidableEq, Inhabited

/-- A pool whose connections are numbered from one. -/
structure ScriptedPool where
  acquisition : Acquisition := .ready
  valid : Bool := true
  asksLate : Bool := false

/-- The collaborator that a script of a pool describes; its world counts the connections. -/
def ScriptedPool.pool (p : ScriptedPool) : Pool Nat Nat where
  acquire := do
    match p.acquisition with
    | .ready =>
      modify (· + 1)
      get
    | .timeout => throw .timeout
    | .failure => throw (.broken "")
  validate _ := pure p.valid
  asksLate := p.asksLate
  release _ := pure ()
  destroy := pure ()

/-- A driver that follows rules and has some of the calls that a driver may have. -/
structure ScriptedDriver where
  rules : List ScriptRule := []
  begins : Bool := false
  commits : Bool := false
  rollsBack : Bool := false
  cancels : Bool := false

/-- The collaborator that a script of a driver describes. -/
def ScriptedDriver.driver (d : ScriptedDriver) : Driver Nat Nat where
  execute _ native :=
    match ScriptRule.outcome d.rules native with
    | .failure f => throw f
    | .value v => pure (.value v)
    | .rows rows => pure (.rows rows rows.length)
  begin_ := if d.begins then some fun _ => pure () else none
  commit := if d.commits then some fun _ => pure () else none
  rollback := if d.rollsBack then some fun _ => pure () else none
  cancel := if d.cancels then some fun _ => pure () else none

/-! ## Engines -/

/-- An engine with one connection, which follows rules. -/
structure ScriptedEngine where
  rules : List ScriptRule := []
  closed : Bool := false
  invalidated : Bool := false

/-- The engine that a script describes. Its world says whether a transaction is open; only statements
that begin with `select` return rows. -/
def ScriptedEngine.engine (e : ScriptedEngine) : Engine Bool Unit where
  connect := pure ()
  dispose := pure ()
  isClosed _ := pure e.closed
  isInvalidated _ := pure e.invalidated
  inTransaction _ := get
  execute _ native := do
    let rows ← match ScriptRule.outcome e.rules native with
      | .failure f => throw f
      | .value _ => pure []
      | .rows rows => pure rows
    set true
    let returned := if Text.startsWith native.sql "select" then some rows else none
    return { rows := returned, count := rows.length }
  begin_ _ := set true
  commit _ := set false
  rollback _ := set false
  close _ := pure ()

end SqlBuilder
