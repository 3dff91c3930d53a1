import SqlBuilder.Render.Compile

/-!
# Batches of rows

A batch inserts any number of rows into a table, by statements that insert at most a given number of
rows each.

* `Batch.ofValues`: a batch from what a caller gave.
* `Batch.chunks`: the rows of each statement.
* `Batch.compile`: the statements.
-/

namespace SqlBuilder

/-- A list cut into pieces of at most `n + 1` items. -/
def chunksOf {α : Type} (n : Nat) : List α → List (List α)
  | [] => []
  | a :: as => (a :: as.take n) :: chunksOf n (as.drop n)
termination_by as => as.length
decreasing_by simp only [List.length_drop, List.length_cons]; omega

/-- Rows that are inserted into a table, at most so many by one statement. -/
structure Batch where
  client : Client Value
  table : Value
  rows : List Value
  chunkSize : Int := 1000
  returning : List Value := []

namespace Batch

/-- Whether a value is a sequence of rows. -/
def rowsOf (rows : Value) : Except Error (List Value) :=
  match rows.sequence? with
  | none => .error (.invalid (.batchRows rows.kind))
  | some rows => if rows.all (·.entries?.isSome) then .ok rows else .error (.invalid .batchRow)

/-- A batch from a table, rows and a number of rows by statement. -/
def ofValues (client : Client Value) (table rows chunkSize : Value) : Except Error Batch := do
  match chunkSize with
  | .int n =>
    if n < 1 then throw (.invalid (.chunkSize chunkSize.text))
    return { client, table, rows := ← rowsOf rows, chunkSize := n }
  | _ => throw (.invalid (.chunkSize chunkSize.text))

/-- The outcome of a call on a batch. -/
def call (b : Batch) (name : String) (a : Arguments) : Except Error Batch := do
  match name with
  | "returning" => return { b with returning := (← a.variadic []).1 }
  | _ => throw noSuchMember

/-- The rows of each statement. -/
def chunks (b : Batch) : List (List Value) :=
  chunksOf (b.chunkSize.toNat - 1) b.rows

/-- The queries that insert the rows. -/
def queries (b : Batch) : List (Query Value) :=
  b.chunks.map fun rows =>
    let q := ((Query.ofClient b.client).from_ b.table).insert (.list rows) .null
    if b.returning.isEmpty then q else q.returning b.returning

/-- The statements that insert the rows. -/
def compile (env : Environment) (b : Batch) : Compile (List (Compiled Value)) :=
  b.queries.mapM fun q => q.compile env

end Batch

end SqlBuilder
