import SqlBuilder.Execution.Scripted
import SqlBuilder.Proofs.Transactions

/-!
# Rollbacks on engines

A connection that is given back to an engine commits what is still open on it. A transaction that fails is
rolled back before that, so that nothing is open any more, unless the rollback fails as well: then the
transaction that failed is committed.

* `Engine.runner`: a runner over an engine.
* `Runner.Inside`: what the body of a transaction can do.
* `Run.Executes`: steps that make no other calls than to execute statements on a connection.
* `Engine.Settles`: a rollback that succeeds ends the transaction.
* `Engine.transaction_uncommitted`: when a transaction that fails is committed.
-/

namespace SqlBuilder

variable {σ κ α β : Type}

/-! ## Bodies -/

/-- What the body of a transaction can do: something of its own that leaves the collaborators alone, a run on
the connection, and other such steps after that, also if it failed. -/
inductive Runner.Inside (r : Runner σ κ) (c : κ) : {α : Type} → Run σ κ α → Prop
  | own {α : Type} {m : Run σ κ α} (h : ∀ s, (m.after s).world = s.world) : Inside r c m
  | run {what : Value} {context : Option Value} : Inside r c (r.runWithin c what context)
  | bind {α β : Type} {m : Run σ κ α} {f : α → Run σ κ β} (first : Inside r c m)
      (next : ∀ a, Inside r c (f a)) : Inside r c (m >>= f)
  | handle {α : Type} {m : Run σ κ α} {f : Error → Run σ κ α} (first : Inside r c m)
      (next : ∀ e, Inside r c (f e)) : Inside r c (tryCatch m f)

/-- The steps of a body are inside the transaction. -/
theorem Runner.inside_body (r : Runner σ κ) (c : κ) (steps : List BodyStep) :
    r.Inside c (r.body steps c) := by
  induction steps with
  | nil => exact .own fun _ => rfl
  | cons step rest ih =>
    cases step with
    | fail e => exact .own fun _ => rfl
    | run what context => exact .bind .run fun _ => .bind ih fun _ => .own fun _ => rfl

/-! ## Statements and nothing else -/

/-- The world of a traced engine: its own world, and the calls so far. -/
abbrev Engine.World (σ κ : Type) := σ × List (Engine.Call κ)

/-- From one world of a traced engine to another, only statements on a connection were executed. -/
def Engine.Executed (c : κ) (w w' : Engine.World σ κ) : Prop :=
  ∃ t, w'.2 = w.2 ++ t ∧ ∀ call ∈ t, ∃ native, call = .execute c native

theorem Engine.Executed.refl {c : κ} (w : Engine.World σ κ) : Engine.Executed c w w :=
  ⟨[], (List.append_nil _).symm, nofun⟩

theorem Engine.Executed.trans {c : κ} {w w' w'' : Engine.World σ κ}
    (h : Engine.Executed c w w') (h' : Engine.Executed c w' w'') : Engine.Executed c w w'' := by
  obtain ⟨t, added, executes⟩ := h
  obtain ⟨t', added', executes'⟩ := h'
  refine ⟨t ++ t', by rw [added', added, List.append_assoc], fun call member => ?_⟩
  exact (List.mem_append.mp member).elim (executes call) (executes' call)

namespace Run

/-- A step that makes no other calls than to execute statements on a connection. -/
def Executes (c : κ) (m : Run (Engine.World σ κ) κ α) : Prop :=
  ∀ s, Engine.Executed c s.world (m.after s).world

section Rules

variable {c : κ} {m : Run (Engine.World σ κ) κ α} {f : α → Run (Engine.World σ κ) κ β}

namespace Executes

theorem own (h : ∀ s, (m.after s).world = s.world) : Executes c m :=
  fun s => h s ▸ .refl _

protected theorem pure (a : α) : Executes c (pure a : Run (Engine.World σ κ) κ α) :=
  own fun _ => rfl

protected theorem throw (e : Error) : Executes c (throw e : Run (Engine.World σ κ) κ α) :=
  own fun _ => rfl

theorem report (event : LogEvent) : Executes c (report event : Run (Engine.World σ κ) κ Unit) :=
  own fun _ => rfl

theorem compile (x : Compile α) : Executes c (compile x : Run (Engine.World σ κ) κ α) := by
  refine own fun s => ?_
  unfold after Run.compile
  cases x {} <;> rfl

protected theorem bind (h : Executes c m) (next : ∀ a, Executes c (f a)) : Executes c (m >>= f) := by
  intro s
  have first := h s
  change Engine.Executed c s.world (Run.after (EStateM.bind m f) s).world
  unfold after at first ⊢
  unfold EStateM.bind
  cases ran : m s with
  | error e s' =>
    rw [ran] at first
    exact first
  | ok a s' =>
    rw [ran] at first
    exact first.trans (next a s')

theorem handle {f : Error → Run (Engine.World σ κ) κ α} (h : Executes c m)
    (next : ∀ e, Executes c (f e)) : Executes c (tryCatch m f) := by
  intro s
  have first := h s
  change Engine.Executed c s.world (Run.after (EStateM.tryCatch m f) s).world
  unfold after at first ⊢
  unfold EStateM.tryCatch
  cases ran : m s with
  | ok a s' =>
    rw [ran] at first
    exact first
  | error e s' =>
    rw [ran] at first
    exact first.trans (next e s')

protected theorem ite {p : Prop} [Decidable p] {m' : Run (Engine.World σ κ) κ α}
    (yes : Executes c m) (no : Executes c m') : Executes c (if p then m else m') := by
  split
  · exact yes
  · exact no

protected theorem mapM {step : β → Run (Engine.World σ κ) κ α} (h : ∀ b, Executes c (step b))
    (bs : List β) : Executes c (bs.mapM step) := by
  induction bs with
  | nil => exact .pure []
  | cons b bs ih =>
    rw [List.mapM_cons]
    exact (h b).bind fun a => ih.bind fun as => .pure (a :: as)

end Executes

end Rules

/-- A call that has to succeed leaves the world in which the call ended. -/
theorem world_require (effect : Effect σ α) (action : Action κ) (s : RunState σ κ) :
    ((require effect action).after s).world = (effect s.world).2 := by
  change (Run.after (EStateM.bind (perform effect fun _ => action) demand) s).world = _
  unfold after EStateM.bind perform
  rcases ran : effect s.world with ⟨_ | _, w⟩ <;> rfl

section After

variable {m : Run σ κ α} {f : α → Run σ κ β} {step : Run σ κ Unit} {s s' : RunState σ κ} {a : α}

/-- A step that does not succeed ends with an error. -/
theorem exists_error (h : m.succeeds s = false) : ∃ e, m s = .error e (m.after s) := by
  unfold succeeds outcome at h
  unfold after
  cases ran : m s with
  | error e s' => exact ⟨e, rfl⟩
  | ok a s' =>
    rw [ran] at h
    cases h

theorem after_bind (h : m s = .ok a s') : (m >>= f).after s = (f a).after s' := by
  change Run.after (EStateM.bind m f) s = _
  rw [after, EStateM.bind, h]
  rfl

theorem after_bind_failed (h : m.succeeds s = false) : (m >>= f).after s = m.after s := by
  obtain ⟨e, ran⟩ := exists_error h
  change Run.after (EStateM.bind m f) s = _
  rw [after, EStateM.bind, ran]

theorem after_ensuring : (ensuring m step).after s = step.after (m.after s) := by
  unfold after ensuring
  cases m s with
  | ok a s' | error e s' =>
    simp only
    cases step s' <;> rfl

theorem after_onFailure (h : m.succeeds s = false) : (onFailure m step).after s = step.after (m.after s) := by
  obtain ⟨e, ran⟩ := exists_error h
  rw [after, onFailure, ran]
  unfold after
  simp only
  cases step _ <;> rfl

theorem onFailure_failed (h : m.succeeds s = false) : (onFailure m step).succeeds s = false := by
  obtain ⟨e, ran⟩ := exists_error h
  rw [succeeds, outcome, onFailure, ran]
  simp only
  cases step _ <;> rfl

end After

theorem require_ok {effect : Effect σ α} {action : Action κ} {s s' : RunState σ κ} {a : α}
    (h : require effect action s = .ok a s') : (effect s.world).1 = .ok a ∧ s'.world = (effect s.world).2 := by
  change EStateM.bind (perform effect fun _ => action) demand s = _ at h
  unfold EStateM.bind perform at h
  rcases ran : effect s.world with ⟨_ | _, w⟩
  · rw [ran] at h
    cases h
  · rw [ran] at h
    cases h
    exact ⟨rfl, rfl⟩

end Run

/-! ## Runners over engines -/

namespace Engine

variable (e : Engine σ κ) (env : Environment) (c : κ)

/-- The runner over an engine, with a trace of the calls on the engine. -/
def runner : Runner (World σ κ) κ where
  env := env
  pool := e.traced.pool
  driver := e.traced.driver

/-- A connection says that it is in a transaction. -/
def IsOpen (w : σ) : Prop :=
  (e.inTransaction c w).1 = .ok true

/-- A rollback that succeeds ends the transaction. -/
def Settles : Prop :=
  ∀ c w, (e.rollback c w).1 = .ok () → ¬ e.IsOpen c (e.rollback c w).2

/-! ### Calls -/

/-- A call and what follows if it succeeds. -/
theorem effect_bind (m : Effect σ α) (f : α → Effect σ β) (w : σ) :
    (m >>= f) w = match (m w).1 with
      | .ok a => f a (m w).2
      | .error failure => (.error failure, (m w).2) := by
  change ExceptT.bindCont f (m w).1 (m w).2 = _
  cases (m w).1 <;> rfl

theorem noting_apply (call : Call κ) (effect : Effect σ α) (w : World σ κ) :
    noting call effect w = ((effect w.1).1, (effect w.1).2, w.2 ++ [call]) := rfl

theorem asking_apply (effect : Effect σ α) (w : World σ κ) :
    asking effect w = ((effect w.1).1, (effect w.1).2, w.2) := rfl

/-- The driver executes a statement by one call. -/
theorem traced_execute (native : Native) (w : World σ κ) :
    (e.traced.driver.execute c native w).2.2 = w.2 ++ [.execute c native] := by
  simp only [driver, traced, effect_bind, noting_apply]
  cases (e.execute c native w.1).1 <;> rfl

/-- What is open on a connection is committed, and nothing else. -/
theorem traced_commitOpen (w : World σ κ) :
    ∃ made, (e.traced.commitOpen c w).2.2 = w.2 ++ made ∧ (Call.commit c ∈ made ↔ e.IsOpen c w.1) := by
  simp only [commitOpen, traced, effect_bind, asking_apply, IsOpen]
  rcases (e.inTransaction c w.1).1 with _ | _ | _
  · exact ⟨[], (List.append_nil _).symm, by simp⟩
  · exact ⟨[], (List.append_nil _).symm, by simp⟩
  · exact ⟨[.commit c], rfl, by simp⟩

/-- What is open on a connection is committed before a transaction begins. -/
theorem traced_begin {s s' : RunState (World σ κ) κ}
    (begun : (e.runner env).control c .begin_ s = .ok () s') :
    ∃ made, s'.world.2 = s.world.2 ++ made ++ [.begin_ c] ∧
      (Call.commit c ∈ made ↔ e.IsOpen c s.world.1) := by
  obtain ⟨made, added, commits⟩ := e.traced_commitOpen c s.world
  refine ⟨made, ?_, commits⟩
  obtain ⟨succeeds, ends⟩ := Run.require_ok begun
  simp only [effect_bind] at succeeds ends
  rw [ends, ← added]
  cases opened : (e.traced.commitOpen c s.world).1 with
  | error failure =>
    rw [opened] at succeeds
    cases succeeds
  | ok _ => rfl

/-- What is open on a connection that is given back is committed. -/
theorem traced_release (w : World σ κ) :
    ∃ made, (e.traced.pool.release c w).2.2 = w.2 ++ made ∧ (Call.commit c ∈ made ↔ e.IsOpen c w.1) := by
  obtain ⟨made, added, commits⟩ := e.traced_commitOpen c w
  simp only [pool, effect_bind]
  cases (e.traced.commitOpen c w).1 with
  | error failure => exact ⟨made, added, commits⟩
  | ok _ =>
    refine ⟨made ++ [.close c], ?_, by simp [commits]⟩
    rw [← List.append_assoc, ← added]
    rfl

/-! ### Bodies -/

/-- A statement is executed by one call, if there is time for it. -/
theorem executes_attempt (q : Compiled Value) (native : Native) :
    Run.Executes c ((e.runner env).attempt c q native) := by
  unfold Runner.attempt
  split
  · exact fun s => ⟨[.execute c native], e.traced_execute c native s.world, by simp⟩
  · exact .pure _
  · exact .pure _

/-- There is no call that cancels a statement. -/
theorem executes_cancel : Run.Executes c ((e.runner env).cancel c) := by
  unfold Runner.cancel
  extract_lets asks
  have asked (u : Unit) : Run.Executes c (asks u) := .throw _
  exact .ite (.bind (.throw _) asked) (asked ())

theorem executes_query (q : Compiled Value) : Run.Executes c ((e.runner env).query c q) := by
  unfold Runner.query
  refine .bind (.compile _) fun native => .bind (.report _) fun _ => ?_
  refine .bind (e.executes_attempt env c q native) fun answer => ?_
  split
  · exact .bind (.report _) fun _ => .pure _
  · exact .ite (.bind (e.executes_cancel env c) fun _ => .bind (.report _) fun _ => .throw _)
      (.bind (.report _) fun _ => .throw _)
  · exact .throw _
  · exact .bind (.compile _) fun _ => .bind (.report _) fun _ => .throw _

theorem executes_execute (context : Option Value) (q : Compiled Value) :
    Run.Executes c ((e.runner env).execute c context true q) := by
  unfold Runner.execute
  refine .bind (e.executes_query env c q) fun response => ?_
  extract_lets finish
  have finishes (response : Response) : Run.Executes c (finish response) := by
    unfold finish
    split
    · exact .pure _
    · exact .throw _
  split
  · exact .bind (.pure _) finishes
  · split
    · exact .bind (.throw _) finishes
    · exact .bind (.pure _) finishes
    · exact .bind (.mapM (e.executes_query env c) _) fun _ => .bind (.pure _) finishes

theorem executes_runWithin (what : Value) (context : Option Value) :
    Run.Executes c ((e.runner env).runWithin c what context) := by
  unfold Runner.runWithin Runner.executeAll
  refine .bind (.compile _) fun (statements, misplaced) => ?_
  refine .bind (.mapM (e.executes_execute env c _) _) fun responses => ?_
  split
  · exact .throw _
  · exact .pure _
  · exact .pure _

/-- A body makes no other calls than to execute statements. -/
theorem executes_inside {m : Run (World σ κ) κ α} (inside : (e.runner env).Inside c m) :
    Run.Executes c m := by
  induction inside with
  | own h => exact .own h
  | run => exact e.executes_runWithin env c _ _
  | bind _ _ first next => exact first.bind next
  | handle _ _ first next => exact first.handle next

/-! ### Transactions -/

/-- A transaction that fails is rolled back, and its connection is given back. -/
theorem world_failed {body : κ → Run (World σ κ) κ α} {s s₁ s₂ : RunState (World σ κ) κ}
    (acquired : (e.runner env).acquire s = .ok c s₁) (begun : (e.runner env).control c .begin_ s₁ = .ok () s₂)
    (fails : (body c).succeeds s₂ = false) :
    (((e.runner env).transaction body).after s).world =
      (e.traced.pool.release c (e.traced.rollback c ((body c).after s₂).world).2).2 := by
  unfold Runner.transaction Runner.atomic
  rw [Run.after_bind acquired, Run.after_ensuring, Runner.release, Run.world_require, Run.after_bind begun,
    Run.after_bind_failed (Run.onFailure_failed fails), Run.after_onFailure fails,
    Run.after_bind (show Run.report _ _ = .ok () _ from rfl)]
  exact congrArg (fun w => (e.traced.pool.release c w).2) (Run.world_require _ _ _)

/-- When a transaction that fails is committed: if the connection says, after the rollback, that it is still
in a transaction. It does not say so if the rollback succeeded. Before the transaction begins, what was open
on the connection before is committed. -/
theorem transaction_uncommitted (settles : e.Settles) {body : κ → Run (World σ κ) κ α}
    {s s₁ s₂ : RunState (World σ κ) κ} (inside : (e.runner env).Inside c (body c))
    (acquired : (e.runner env).acquire s = .ok c s₁) (begun : (e.runner env).control c .begin_ s₁ = .ok () s₂)
    (fails : (body c).succeeds s₂ = false) :
    let rolled := e.rollback c ((body c).after s₂).world.1
    ∃ before made last,
      (((e.runner env).transaction body).after s).world.2 =
        s₁.world.2 ++ before ++ [.begin_ c] ++ made ++ [.rollback c] ++ last ∧
      (Call.commit c ∈ before ↔ e.IsOpen c s₁.world.1) ∧
      (∀ call ∈ made, ∃ native, call = .execute c native) ∧
      (Call.commit c ∈ last ↔ e.IsOpen c rolled.2) ∧ (rolled.1 = .ok () → Call.commit c ∉ last) := by
  obtain ⟨before, begins, opened⟩ := e.traced_begin env c begun
  obtain ⟨made, executed, executes⟩ := e.executes_inside env c inside s₂
  obtain ⟨last, ended, commits⟩ :=
    e.traced_release c (e.traced.rollback c ((body c).after s₂).world).2
  refine ⟨before, made, last, ?_, opened, executes, commits, fun succeeds committed => ?_⟩
  · rw [e.world_failed env c acquired begun fails, ended, ← begins, ← executed]
    rfl
  · exact settles c _ succeeds (commits.mp committed)

/-- A transaction that runs a statement and then fails. -/
theorem transaction_uncommitted_select :
    let e := ScriptedEngine.engine {}
    let r := e.runner { client := { dialect := .postgres, acquireTimeout := some .null } }
    let body := r.body [.run (.compiled { sql := "select 1" }) none, .fail wrongType]
    let s : RunState (Bool × List (Call Unit)) Unit := { world := (false, []) }
    e.Settles ∧ r.Inside () (body ()) ∧ ∃ s₁ s₂, r.acquire s = .ok () s₁ ∧ r.control () .begin_ s₁ = .ok () s₂ ∧
      (body ()).succeeds s₂ = false ∧
      let rolled := e.rollback () ((body ()).after s₂).world.1
      ∃ before made last,
        ((r.transaction body).after s).world.2 =
          s₁.world.2 ++ before ++ [.begin_ ()] ++ made ++ [.rollback ()] ++ last ∧
        (Call.commit () ∈ before ↔ e.IsOpen () s₁.world.1) ∧
        (∀ call ∈ made, ∃ native, call = .execute () native) ∧
        (Call.commit () ∈ last ↔ e.IsOpen () rolled.2) ∧ (rolled.1 = .ok () → Call.commit () ∉ last) := by
  intro e r body s
  have settles : e.Settles := fun _ _ _ asked => by cases asked
  have inside : r.Inside () (body ()) := r.inside_body () _
  obtain ⟨s₁, acquired⟩ : ∃ s₁, r.acquire s = .ok () s₁ := ⟨_, rfl⟩
  obtain ⟨s₂, begun⟩ : ∃ s₂, r.control () .begin_ s₁ = .ok () s₂ := by
    cases acquired
    exact ⟨_, rfl⟩
  have fails : (body ()).succeeds s₂ = false := by
    cases acquired
    cases begun
    rfl
  exact ⟨settles, inside, s₁, s₂, acquired, begun, fails,
    e.transaction_uncommitted _ () settles inside acquired begun fails⟩

/-- A transaction that fails is committed when its connection is given back, if its rollback fails. -/
theorem transaction_committed :
    let e : Engine Bool Unit := { ScriptedEngine.engine {} with rollback := fun _ => throw (.broken "lost") }
    let r := e.runner { client := { dialect := .postgres, acquireTimeout := some .null } }
    let body := r.body [.fail wrongType]
    let s : RunState (Bool × List (Call Unit)) Unit := { world := (false, []) }
    e.Settles ∧ ∃ s₁ s₂, r.acquire s = .ok () s₁ ∧ r.control () .begin_ s₁ = .ok () s₂ ∧
      s₂.world.2 = [.connect, .begin_ ()] ∧ (body ()).succeeds s₂ = false ∧
      ((r.transaction body).after s).world.2 =
        [.connect, .begin_ (), .rollback (), .commit (), .close ()] := by
  intro e r body s
  have settles : e.Settles := fun _ _ rolled => by cases rolled
  exact ⟨settles, _, _, rfl, rfl, rfl, rfl, rfl⟩

end Engine

end SqlBuilder
