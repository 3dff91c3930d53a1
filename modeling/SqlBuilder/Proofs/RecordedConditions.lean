import SqlBuilder.Proofs.Refusals
import SqlBuilder.Proofs.Successes

/-!
# What the calls on a join record

A call on a join records one condition after those that the join has already. Which one it is depends on the name of the
call and on its arguments only, and the name alone says how the condition joins the others and whether it is negated.
So a callback that puts a join together records as many conditions as it makes calls, in the order of these.

* `Join.Records`: the condition that a call records.
* `Join.call_records`: a call on a join.
* `Evaluator.onObject_records`: all calls of a callback.
-/

namespace SqlBuilder

open List (Forall₂)

namespace Join

/-! ## One call -/

/-- A join with more conditions. -/
def record (j : Join Value) (cs : List (Condition Value)) : Join Value :=
  { j with conditions := j.conditions ++ cs }

theorem record_nil (j : Join Value) : j.record [] = j := by
  simp [record]

theorem record_record (j : Join Value) (cs more : List (Condition Value)) :
    (j.record cs).record more = j.record (cs ++ more) := by
  simp [record]

/-- How the condition that a call records joins those before it, by the name of the call. -/
def connectiveOf (name : String) : Connective :=
  if ["or_on", "or_on_val", "or_on_in", "or_on_null"].contains name then .or else .and

/-- Whether the condition that a call records is negated, by the name of the call. -/
def negatedBy (name : String) : Bool :=
  ["on_not_in", "on_not_null", "on_not_between", "on_not_exists"].contains name

/-- A call records a condition, whatever the join holds already. -/
structure Records (name : String) (a : Arguments) (c : Condition Value) : Prop where
  adds : ∀ j : Join Value, j.call name a = .ok (j.record [c])
  connective : c.connective = connectiveOf name
  negated : c.negated = negatedBy name

/-- What a change of a join comes to is a condition that it records, or a failure. -/
def Recording (f : Join Value → Except Error (Join Value)) (connective : Connective) (negated : Bool) : Prop :=
  (∃ e, ∀ j, f j = .error e) ∨
    ∃ c : Condition Value, c.connective = connective ∧ c.negated = negated ∧ ∀ j, f j = .ok (j.record [c])

theorem Recording.addCondition (connective : Connective) (negated : Bool) (test : Test Value) (word : Option Value) :
    Recording (fun j => .ok (j.addCondition connective negated test word)) connective negated :=
  .inr ⟨⟨connective, word, negated, test⟩, rfl, rfl, fun _ => rfl⟩

/-- Arguments that are taken before anything is recorded. -/
theorem Recording.of_outcome {α : Type} (x : Except Error α) {f : Join Value → α → Except Error (Join Value)}
    {connective : Connective} {negated : Bool} (h : ∀ a, Recording (fun j => f j a) connective negated) :
    Recording (fun j => x >>= f j) connective negated := by
  cases x with
  | error e => exact .inl ⟨e, fun _ => rfl⟩
  | ok a => exact h a

theorem recording_on (connective : Connective) (word : Option Value) (first : Value) (operator second : Option Value) :
    Recording (fun j => .ok (j.on connective word first operator second)) connective false := by
  unfold on
  split
  · exact .addCondition ..
  · exact .addCondition ..
  · split
    · exact .addCondition ..
    · split
      · exact .addCondition ..
      · exact .addCondition ..

theorem recording_columns (a : Arguments) (usual : Connective) (keywords : List String) :
    Recording (fun j => JoinCall.columns j a usual keywords) usual false :=
  .of_outcome _ fun _ => recording_on ..

theorem recording_value (a : Arguments) (usual : Connective) (keywords : List String) :
    Recording (fun j => JoinCall.value j a usual keywords) usual false :=
  .of_outcome _ fun _ => .addCondition ..

/-- A call by any name records a condition, or fails whatever the join holds. -/
theorem recording_call (name : String) (a : Arguments) :
    Recording (fun j => j.call name a) (connectiveOf name) (negatedBy name) := by
  unfold call
  dsimp only
  split
  · exact recording_columns ..
  · exact recording_columns ..
  · exact recording_columns ..
  · exact recording_value ..
  · exact recording_value ..
  · exact recording_value ..
  · exact .of_outcome _ fun _ => .addCondition ..
  · exact .of_outcome _ fun _ => .addCondition ..
  · exact .of_outcome _ fun _ => .addCondition ..
  · exact .of_outcome _ fun _ => .addCondition ..
  · exact .of_outcome _ fun _ => .addCondition ..
  · exact .of_outcome _ fun _ => .addCondition ..
  · exact .of_outcome _ fun _ => .of_outcome _ fun _ => .addCondition ..
  · exact .of_outcome _ fun _ => .of_outcome _ fun _ => .addCondition ..
  · exact .of_outcome _ fun _ => .addCondition ..
  · exact .of_outcome _ fun _ => .addCondition ..
  · exact .of_outcome _ fun _ => .addCondition ..
  · exact .inl ⟨_, fun _ => rfl⟩
  · exact .inl ⟨_, fun _ => rfl⟩
  · exact .inl ⟨_, fun _ => rfl⟩
  · exact .inl ⟨_, fun _ => rfl⟩
  · exact .inl ⟨_, fun _ => rfl⟩

/-- A call that succeeds has recorded one condition. -/
theorem call_records {j j' : Join Value} {name : String} {a : Arguments} (run : j.call name a = .ok j') :
    ∃ c, Records name a c ∧ j' = j.record [c] := by
  obtain ⟨e, failed⟩ | ⟨c, connective, negated, adds⟩ := recording_call name a
  · cases run.symm.trans (failed j)
  · cases run.symm.trans (adds j)
    exact ⟨c, ⟨adds, connective, negated⟩, rfl⟩

end Join

/-! ## All calls of a callback -/

/-- A change of an object that reports nothing. -/
theorem Make.change_eq {σ : Type} (f : σ → Except Error σ) (m : Making σ) :
    Make.change (fun object => liftExcept (f object)) m =
      match f m.object with
      | .ok object => .ok () { m with object }
      | .error e => .error e m := by
  unfold Make.change
  change (Make.ofLogged (liftExcept (f m.object)) >>= fun object => Make.edit fun _ => object) m = _
  cases f m.object with
  | ok object => rfl
  | error e => rfl

namespace Evaluator

/-- A call of a script records a condition: with the arguments to which its terms may be evaluated. -/
def Records (ev : Evaluator) (call : Call Term) (c : Condition Value) : Prop :=
  ∃ a events events', ev.arguments call events = .ok a events' ∧ Join.Records call.name a c

/-- The step that a call makes on a join. -/
def joinStep (name : String) (a : Arguments) : Make (Join Value) Unit :=
  Make.change fun j => liftExcept (j.call name a)

variable {ev : Evaluator}

theorem joinStep_eq (name : String) (a : Arguments) (m : Making (Join Value)) : joinStep name a m =
    match m.object.call name a with
    | .ok j => .ok () { m with object := j }
    | .error e => .error e m := by
  rw [joinStep, Make.change_eq fun j : Join Value => j.call name a]
  cases m.object.call name a <;> rfl

theorem joinStep_ok {name : String} {a : Arguments} {m m' : Making (Join Value)} (run : joinStep name a m = .ok () m') :
    ∃ c, Join.Records name a c ∧ m' = { m with object := m.object.record [c] } := by
  rw [joinStep_eq] at run
  split at run
  next called =>
    obtain ⟨c, records, rfl⟩ := Join.call_records called
    cases run
    exact ⟨c, records, rfl⟩
  · cases run

/-- Calls one after another record a condition each. -/
theorem calls_records {chain : Chain} {m m' : Making (Join Value)} (run : ev.calls joinStep chain m = .ok () m') :
    ∃ cs, Forall₂ ev.Records chain cs ∧ m'.object = m.object.record cs := by
  induction chain generalizing m with
  | nil =>
    cases run
    exact ⟨[], .nil, (Join.record_nil _).symm⟩
  | cons call chain ih =>
    rw [Evaluator.calls] at run
    obtain ⟨a, m₁, evaluated, run⟩ := Build.bind_ok.mp run
    obtain ⟨⟨⟩, m₂, step, run⟩ := Build.bind_ok.mp run
    unfold Make.ofLogged at evaluated
    split at evaluated
    next arguments =>
      cases evaluated
      obtain ⟨c, records, rfl⟩ := joinStep_ok step
      obtain ⟨cs, others, whole⟩ := ih run
      refine ⟨c :: cs, .cons ⟨a, _, _, arguments, records⟩ others, ?_⟩
      rw [whole]
      exact Join.record_record _ [c] cs
    · cases evaluated

/-- A callback that puts a join together records a condition for every call that it makes, in their order. -/
theorem onObject_records {chains : List Chain} {j j' : Join Value} {events events' : List LogEvent}
    (run : ev.onObject Join.call chains j events = .ok j' events') :
    ∃ cs, Forall₂ ev.Records chains.flatten cs ∧ j' = j.record cs := by
  induction chains generalizing j events with
  | nil =>
    cases run
    exact ⟨[], .nil, (Join.record_nil _).symm⟩
  | cons chain chains ih =>
    rw [onObject, List.foldlM_cons] at run
    obtain ⟨j₁, events₁, first, run⟩ := Build.bind_ok.mp run
    unfold onBuilder Make.finish at first
    split at first
    next made =>
      cases first
      obtain ⟨cs, records, whole⟩ := calls_records made
      obtain ⟨more, others, rfl⟩ := ih run
      refine ⟨cs ++ more, List.rel_append records others, ?_⟩
      rw [whole]
      exact Join.record_record _ cs more
    · cases first

end Evaluator

end SqlBuilder
