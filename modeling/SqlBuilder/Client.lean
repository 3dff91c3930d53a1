import SqlBuilder.Dialect.Registry

/-!
# Clients

A client binds a dialect to the settings under which statements are compiled for it: the hooks on
identifiers and responses, the placeholder style of the driver, and a few switches. Settings that are
only handed on may be any operand, of a type `α`.
-/

namespace SqlBuilder

/-- What stands in for the quoting of identifier segments. -/
inductive IdentifierHook
  /-- quote the segment in upper case -/
  | upper
  /-- quote the segment after `p_`, except for `*` -/
  | prefixed
  /-- leave the segment bare -/
  | bare
  /-- quote the segment after the query context and a dollar sign -/
  | context
  /-- a setting that is no hook; using it fails -/
  | broken
  deriving DecidableEq, Inhabited

/-- What becomes of a driver's response. -/
inductive ResponseHook
  /-- its rows, if it has some -/
  | rows
  /-- the response together with the query context -/
  | pair
  /-- the query context -/
  | context
  /-- a setting that is no hook; using it fails -/
  | broken
  deriving DecidableEq, Inhabited

/-- A dialect with the settings under which statements are compiled for it. -/
structure Client (α : Type) where
  dialect : Dialect
  /-- The placeholder style in place of the dialect's own. -/
  paramstyle : Option Paramstyle := none
  /-- The schemas that catalog queries look into; the first one counts. -/
  searchPath : Option α := none
  /-- Keys missing from a row are bound as null. -/
  useNullAsDefault : Bool := false
  wrapIdentifier : Option IdentifierHook := none
  postProcessResponse : Option ResponseHook := none
  /-- How long to wait for a connection, in milliseconds; none is the usual minute. -/
  acquireTimeout : Option α := none
  /-- Statements are logged in the driver's form. -/
  debug : Bool := false
  deriving Inhabited

namespace Client

variable {α : Type}

/-- What the dialect can do. -/
def capabilities (c : Client α) : Capabilities :=
  c.dialect.capabilities

/-- The name of the dialect. -/
def dialectName (c : Client α) : String :=
  c.dialect.name

/-- The placeholder style in use. -/
def style (c : Client α) : Paramstyle :=
  c.paramstyle.getD c.capabilities.paramstyle

/-- A statement with the placeholders of the driver. -/
def positionBindings (c : Client α) (sql : String) : String :=
  SqlBuilder.positionBindings c.style sql

end Client

end SqlBuilder
