import SqlBuilder.Dialect.Builtin

/-!
# The dialect registry

The names under which dialects can be asked for. A later registration of a name replaces the earlier
one.
-/

namespace SqlBuilder

/-- The registered names, each with its dialect. -/
structure Registry where
  entries : List (String × Dialect)
  deriving Inhabited

namespace Registry

/-- Registers a dialect under a name. -/
def insert (r : Registry) (name : String) (d : Dialect) : Registry :=
  ⟨(r.entries.filter fun entry => entry.1 != name) ++ [(name, d)]⟩

/-- Registers a dialect under several names. -/
def insertAll (r : Registry) (names : List String) (d : Dialect) : Registry :=
  names.foldl (fun r name => r.insert name d) r

/-- The dialect of a name. -/
def find? (r : Registry) (name : String) : Option Dialect :=
  r.entries.lookup name

/-- The registered names in ascending order. -/
def names (r : Registry) : List String :=
  (r.entries.map (·.1)).mergeSort fun a b => a ≤ b

/-- The built-in dialects under their names; MySQL has two. -/
def builtin : Registry :=
  ⟨Dialect.builtin.map (fun d => (d.name, d)) ++ [("mysql2", Dialect.mysql)]⟩

end Registry

/-- Other names of dialects that configurations may use. -/
def dialectAliases : List (String × String) :=
  [("pg", "postgres"), ("postgresql", "postgres"), ("pgnative", "postgres"), ("sqlite", "sqlite3"),
   ("better-sqlite3", "sqlite3"), ("mariadb", "mysql"), ("oracle", "oracledb"), ("tedious", "mssql")]

end SqlBuilder
