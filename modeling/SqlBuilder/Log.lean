import SqlBuilder.Error

/-!
# Log events

What compiling and running statements reports, apart from its results. Events survive a failure that
comes after them.
-/

namespace SqlBuilder

/-- How much an event matters. -/
inductive LogLevel
  | debug | warning | error
  deriving DecidableEq, Inhabited

/-- The name of a level. -/
def LogLevel.name : LogLevel → String
  | .debug => "debug"
  | .warning => "warning"
  | .error => "error"

/-- A reported event with its fields. -/
structure LogEvent where
  event : String
  level : LogLevel
  fields : List (String × Value)
  deriving Inhabited

/-- A step that may report events. -/
abbrev Logged (α : Type) := EStateM Error (List LogEvent) α

/-- The outcome of a step that may report events, without those. -/
def Logged.outcome {α : Type} (step : Logged α) : Except Error α :=
  match step [] with
  | .ok a _ => .ok a
  | .error e _ => .error e

/-- What compiling a statement keeps track of besides its text: the columns whose values are
undefined, the values bound so far, which a failure does not undo, and the events. -/
structure Progress where
  undefinedColumns : List Value := []
  bound : List Value := []
  events : List LogEvent := []
  deriving Inhabited

/-- A step of a compilation. -/
abbrev Compile (α : Type) := EStateM Error Progress α

/-- Reports an event. -/
def report (event : LogEvent) : Compile Unit :=
  modify fun p => { p with events := p.events ++ [event] }

/-- Marks a column whose value is undefined. -/
def markUndefined (column : Value) : Compile Unit :=
  modify fun p => { p with undefinedColumns := p.undefinedColumns ++ [column] }

/-- Adds to the values bound so far. -/
def bindAll (values : List Value) : Compile Unit :=
  modify fun p => { p with bound := p.bound ++ values }

/-- Runs a compilation that keeps the values it binds to itself. -/
def ownBindings {α : Type} (c : Compile α) : Compile α := fun p =>
  match c { p with bound := [] } with
  | .ok a p' => .ok a { p' with bound := p.bound }
  | .error e p' => .error e { p' with bound := p.bound }

/-- Runs a compilation with undefined columns of its own. -/
def ownColumns {α : Type} (c : Compile α) : Compile α := fun p =>
  match c { p with undefinedColumns := [] } with
  | .ok a p' => .ok a { p' with undefinedColumns := p.undefinedColumns }
  | .error e p' => .error e { p' with undefinedColumns := p.undefinedColumns }

/-- The outcome of a compilation and the events on the way to it. -/
def Compile.outcome {α : Type} (c : Compile α) : Except Error α × List LogEvent :=
  match c {} with
  | .ok a p => (.ok a, p.events)
  | .error e p => (.error e, p.events)

/-- A compilation by itself, of which only the events remain. -/
def Compile.logged {α : Type} (c : Compile α) : Logged α := fun events =>
  match c { events } with
  | .ok a p => .ok a p.events
  | .error e p => .error e p.events

/-- A step that may report events, as a step of a compilation. -/
def Compile.ofLogged {α : Type} (step : Logged α) : Compile α := fun p =>
  match step p.events with
  | .ok a events => .ok a { p with events }
  | .error e events => .error e { p with events }

/-- The severity number that a text or a number names; unknown names mean the usual one. -/
def severity : Value → Except Error Value
  | .null => .ok (.int 20)
  | .int n => .ok (.int n)
  | .bool b => .ok (.bool b)
  | .str s =>
    .ok (.int (match Text.upper (Text.strip s) with
      | "CRITICAL" => 50
      | "ERROR" => 40
      | "WARNING" => 30
      | "DEBUG" => 10
      | _ => 20))
  | .scalar (.bytes _) => .ok (.int 20)
  | v => .error (v.missing "strip")

end SqlBuilder
