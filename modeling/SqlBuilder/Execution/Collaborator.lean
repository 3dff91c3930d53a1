import SqlBuilder.Native

/-!
# Collaborators of a runner

A runner owns no connections. A pool hands them out and a driver executes statements on them; both are
given as functions on a world `σ` that they change, with connections of a type `κ`.

* `Response`: what comes back from a statement.
* `Failure`: how a collaborator fails.
* `Pool`, `Driver`: the collaborators.
-/

namespace SqlBuilder

/-- What comes back from a statement. -/
inductive Response
  /-- rows, and how many rows the statement touched -/
  | rows (rows : List Value) (count : Int)
  | value (v : Value)
  /-- the responses of several statements, or a response with its context -/
  | list (items : List Response)

instance : Inhabited Response := ⟨.value .null⟩

/-- How a collaborator fails. -/
inductive Failure
  /-- it took too long -/
  | timeout
  /-- it refused a request for a cause that the library knows -/
  | refused (e : Error)
  /-- it failed in words of its own -/
  | broken (text : String)
  deriving Inhabited

/-- The error that a failure is where nothing is made of it. -/
def Failure.error : Failure → Error
  | timeout => .fault .timeout
  | refused e => e
  | broken _ => .fault .runtime

/-- A call on a collaborator, which may fail and changes the world. -/
abbrev Effect (σ α : Type) := ExceptT Failure (StateM σ) α

/-- What hands out connections. -/
structure Pool (σ κ : Type) where
  acquire : Effect σ κ
  /-- whether asking for a connection only starts when somebody waits for it -/
  asksLate : Bool := false
  /-- whether a connection can be used -/
  validate : κ → Effect σ Bool
  release : κ → Effect σ Unit
  destroy : Effect σ Unit

/-- What executes statements on connections. Transactions are driven by statements where there are no
calls for them. -/
structure Driver (σ κ : Type) where
  execute : κ → Native → Effect σ Response
  begin_ : Option (κ → Effect σ Unit) := none
  commit : Option (κ → Effect σ Unit) := none
  rollback : Option (κ → Effect σ Unit) := none
  cancel : Option (κ → Effect σ Unit) := none

end SqlBuilder
