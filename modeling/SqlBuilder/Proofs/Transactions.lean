import SqlBuilder.Execution.Scripted
import SqlBuilder.Proofs.Traces

/-!
# Transactions

A transaction begins, makes the calls of its body, and ends with a commit if the body succeeded and with a
rollback if it failed; its connection is given back last. The same holds for the statements that build a
table again outside of a transaction.

* `Runner.Attempted`: the calls of a step that drives a transaction.
* `Runner.Executed`, `Runner.Stepped`: the calls of a statement, and of a step of the body, in a transaction.
* `Runner.Bracketed`: the calls of a body between begin and commit, or begin and rollback.
* `Runner.transaction_bracketed`: transactions, and the statements that build a table again, are bracketed.
-/

namespace SqlBuilder.Runner

variable {σ κ α : Type} (r : Runner σ κ) (c : κ)

/-! ## Begin, commit and rollback -/

/-- The statement that drives a transaction. -/
def controlled (sql : String) : Compiled Value :=
  { sql, method := "raw", dialect := some r.env.client.dialectName }

/-- The call that drives a transaction, if one is needed: a call of the driver, or else a statement. -/
def controlAction (k : Control) : Option (Action κ) :=
  match r.controlCall k with
  | some _ => some (.control c k)
  | none => (r.controlStatement k).map fun sql => .execute c (r.form (r.controlled sql))

/-- The calls of a step that drives a transaction, and whether it succeeds: one attempt, unless none is
needed. -/
def Attempted (k : Control) (ok : Bool) (t : Trace κ) : Prop :=
  match r.controlAction c k with
  | some action => t = [⟨action, ok⟩]
  | none => ok = true ∧ t = []

/-- A statement that drives a transaction is sent, and never cancelled. -/
theorem sent_controlled {sql : String} {ok : Bool} {t : Trace κ} (h : r.Sent c (r.controlled sql) ok t) :
    t = [⟨.execute c (r.form (r.controlled sql)), ok⟩] := by
  have never {late : Trace κ} (cancels : Cancels c (r.controlled sql) late) : late = [] := by
    obtain rfl | ⟨⟨⟩, -⟩ := cancels
    rfl
  cases h with
  | answered _ => rfl
  | failed _ cancels => rw [never cancels]
  | unsent reaches _ => exact absurd ⟨rfl, rfl⟩ reaches

theorem control_adds (k : Control) : (r.control c k).Adds fun o t => r.Attempted c k o.isOk t := by
  unfold control Attempted controlAction
  cases r.controlCall k with
  | some call => exact Run.require_adds _ _
  | none =>
    cases r.controlStatement k with
    | none => exact .pure ⟨rfl, rfl⟩
    | some sql =>
      refine (r.query_adds c _).bind (fun e t sent => r.sent_controlled c sent) fun _ t sent => .pure ?_
      rw [List.append_nil]
      exact r.sent_controlled c sent

/-! ## Bodies -/

/-- The calls of a body between begin and commit, or begin and rollback, and whether all succeeds. -/
inductive Bracketed (body : Run σ κ α) (calls : RunState σ κ → Bool → Trace κ → Prop) (s : RunState σ κ) :
    Bool → Trace κ → Prop
  /-- the body is not entered -/
  | unopened {t : Trace κ} (fails : (r.control c .begin_).succeeds s = false)
      (begun : r.Attempted c .begin_ false t) : Bracketed body calls s false t
  | committed {t made last : Trace κ} {ok : Bool} (opens : (r.control c .begin_).succeeds s = true)
      (begun : r.Attempted c .begin_ true t)
      (succeeds : body.succeeds ((r.control c .begin_).after s) = true)
      (inside : calls ((r.control c .begin_).after s) true made)
      (ended : r.Attempted c .commit ok last) : Bracketed body calls s ok (t ++ made ++ last)
  | rolledBack {t made last : Trace κ} {ok : Bool} (opens : (r.control c .begin_).succeeds s = true)
      (begun : r.Attempted c .begin_ true t)
      (fails : body.succeeds ((r.control c .begin_).after s) = false)
      (inside : calls ((r.control c .begin_).after s) false made)
      (ended : r.Attempted c .rollback ok last) : Bracketed body calls s false (t ++ made ++ last)

/-- A body is rolled back if it fails, and only then. -/
theorem rollback_adds {body : Run σ κ α} {calls : RunState σ κ → Bool → Trace κ → Prop} {s : RunState σ κ}
    (h : body.AddsFrom s fun o t => calls s o.isOk t) (event : LogEvent) :
    (Run.onFailure body do
      Run.report event
      r.control c .rollback).AddsFrom s fun o t =>
        match o with
        | .ok _ => body.succeeds s = true ∧ calls s true t
        | .error _ => ∃ made last ok, t = made ++ last ∧ body.succeeds s = false ∧ calls s false made ∧
            r.Attempted c .rollback ok last := by
  refine h.onFailure (fun a made ran inside => ?_) fun e made fails inside => ?_
  · exact ⟨by rw [Run.succeeds, Run.outcome, ran]; rfl, inside⟩
  · have failed : body.succeeds s = false := by
      rw [Run.succeeds, fails]
      rfl
    refine (Run.Adds.report (r.control_adds c .rollback) _).mono fun last ended => ?_
    cases (Run.outcome _ _ : Except Error Unit) <;> exact ⟨made, last, _, rfl, failed, inside, ended⟩

/-- A body that is run between begin and commit or rollback is bracketed. -/
theorem atomic_adds {body : Run σ κ α} {calls : RunState σ κ → Bool → Trace κ → Prop}
    (h : ∀ s, body.AddsFrom s fun o t => calls s o.isOk t) (s : RunState σ κ) :
    (r.atomic c body).AddsFrom s fun o t => r.Bracketed c body calls s o.isOk t := by
  unfold atomic
  refine (r.control_adds c .begin_ s).bind (fun e t fails begun => ?_) fun _ t begins begun => ?_
  · exact .unopened (by rw [Run.succeeds, fails]; rfl) begun
  have opens : (r.control c .begin_).succeeds s = true := by
    rw [Run.succeeds, Run.outcome, begins]
    rfl
  refine (r.rollback_adds c (h _) _).bind ?_ ?_
  · rintro e _ - ⟨made, last, ok, rfl, fails, inside, ended⟩
    rw [← List.append_assoc]
    exact .rolledBack opens begun fails inside ended
  rintro a made - ⟨succeeds, inside⟩
  refine (r.control_adds c .commit _).bind (fun e last _ ended => ?_) fun _ last _ ended => ?_
  · rw [← List.append_assoc]
    exact .committed opens begun succeeds inside ended
  · refine Run.Adds.pure ?_ _
    rw [List.append_nil, ← List.append_assoc]
    exact .committed opens begun succeeds inside ended

/-! ## Statements in a transaction -/

/-- The statements that come of a response, where a statement asks for some. -/
def Rebuilds (q : Compiled Value) (response : Response) (list : List (Compiled Value)) : Prop :=
  ∃ output, q.output = some output ∧ output.interpret response.content = .ok (.statements list)

/-- The calls of statements one after another. -/
def SentAll (list : List (Compiled Value)) (s : RunState σ κ) (ok : Bool) (t : Trace κ) : Prop :=
  Run.Sequence (r.query c) (fun q _ => r.Sent c q) s list ok t

/-- The calls of a statement in a transaction, and whether all succeeds. Statements that build a table
again follow it without a begin of their own. -/
inductive Executed (q : Compiled Value) (s : RunState σ κ) : Bool → Trace κ → Prop
  | refused {t : Trace κ} (fails : (r.query c q).succeeds s = false) (sent : r.Sent c q false t) :
    Executed q s false t
  /-- what is made of the response may fail -/
  | answered {response : Response} {s' : RunState σ κ} {ok : Bool} {t : Trace κ}
      (answer : r.query c q s = .ok response s') (sent : r.Sent c q true t)
      (single : ∀ list, ¬ Rebuilds q response list) : Executed q s ok t
  | rebuilt {response : Response} {s' : RunState σ κ} {list : List (Compiled Value)} {ok built : Bool}
      {t t' : Trace κ} (answer : r.query c q s = .ok response s') (sent : r.Sent c q true t)
      (rebuilds : Rebuilds q response list) (rest : r.SentAll c list s' built t')
      (needed : ok = true → built = true) : Executed q s ok (t ++ t')

theorem sentAll_adds (list : List (Compiled Value)) (s : RunState σ κ) :
    (list.mapM (r.query c)).AddsFrom s fun o t => r.SentAll c list s o.isOk t :=
  Run.AddsFrom.mapM (fun q => r.query_adds c q) list s

/-- What a hook makes of a response makes no calls. -/
theorem processed_silent (response : Response) (context : Option Value) :
    (match response.processed r.env.client.postProcessResponse context with
      | .ok response => return response
      | .error e => throw e : Run σ κ Response).Silent := by
  split
  · exact .pure rfl
  · exact .throw rfl

/-- A statement makes its calls, and those of the statements that its response gives. What is made of a
response may fail. -/
theorem execute_adds {P : Bool → Trace κ → Prop} (context : Option Value) (inTransaction : Bool)
    (q : Compiled Value) (s : RunState σ κ)
    (refused : ∀ t, (r.query c q).succeeds s = false → r.Sent c q false t → P false t)
    (answered : ∀ response s' t ok, r.query c q s = .ok response s' → r.Sent c q true t →
      (∀ list, ¬ Rebuilds q response list) → P ok t)
    (rebuilt : ∀ response s' t list, r.query c q s = .ok response s' → r.Sent c q true t →
      Rebuilds q response list →
      (if inTransaction then list.mapM (r.query c) else r.atomic c (list.mapM (r.query c))).AddsFrom s'
        fun o t' => ∀ ok, (ok = true → o.isOk = true) → P ok (t ++ t')) :
    (r.execute c context inTransaction q).AddsFrom s fun o t => P o.isOk t := by
  unfold execute
  refine (r.query_adds c q s).bind (fun e t fails sent => ?_) fun response t answer sent => ?_
  · exact refused t (by rw [Run.succeeds, fails]; rfl) sent
  extract_lets finish
  have quiet (response : Response) : (finish response).Silent := r.processed_silent response context
  have alone (made : Response) (single : ∀ list, ¬ Rebuilds q response list) :
      ((pure made : Run σ κ Response) >>= finish).AddsFrom ((r.query c q).after s)
        fun o t' => P o.isOk (t ++ t') := by
    refine (quiet made _).mono fun t' none_ => ?_
    rw [none_, List.append_nil]
    exact answered response _ t _ answer sent single
  cases output : q.output with
  | none =>
    refine alone _ fun list => ?_
    rintro ⟨_, asked, -⟩
    cases output.symm.trans asked
  | some o =>
    have single (h : ∀ list, o.interpret response.content ≠ .ok (.statements list)) (list : List (Compiled Value)) :
        ¬ Rebuilds q response list := by
      rintro ⟨_, asked, gives⟩
      cases output.symm.trans asked
      exact h list gives
    simp only
    cases interpreted : o.interpret response.content with
    | error e =>
      have fails (ok : Bool) : P ok t :=
        answered response _ t ok answer sent (single fun list gives => by cases interpreted.symm.trans gives)
      refine Run.Adds.bind_silent (Run.silent_throw e) (fun e' => ?_) (fun made => ?_) _
      · rw [List.append_nil]
        exact fails _
      · refine (quiet made).mono fun o t' none_ => ?_
        rw [none_, List.append_nil]
        exact fails _
    | ok made =>
      cases made with
      | truth b => exact alone _ (single fun list gives => by cases interpreted.symm.trans gives)
      | statements list =>
        have follows := rebuilt response _ t list answer sent ⟨o, output, interpreted⟩
        cases inTransaction <;>
          exact follows.bind_silent (fun e t' made => made _ id) (fun all => quiet _)
            fun all o t' made => made _ fun _ => rfl

theorem executed_adds (context : Option Value) (q : Compiled Value) (s : RunState σ κ) :
    (r.execute c context true q).AddsFrom s fun o t => r.Executed c q s o.isOk t := by
  refine r.execute_adds c context true q s (fun t => .refused) (fun response s' t ok => .answered) ?_
  intro response s' t list answer sent rebuilds
  refine (r.sentAll_adds c list s').mono fun t' rest ok needed => ?_
  exact .rebuilt answer sent rebuilds rest needed

/-- Statements that are executed one after another make their calls up to the first that fails. What is no
statement among them makes the whole fail. -/
theorem executeAll_adds {context : Option Value} {inTransaction : Bool}
    {calls : Compiled Value → RunState σ κ → Bool → Trace κ → Prop}
    (h : ∀ q s, (r.execute c context inTransaction q).AddsFrom s fun o t => calls q s o.isOk t)
    (statements : Statements) (misplaced : Option Error) (s : RunState σ κ) :
    (r.executeAll c context inTransaction statements misplaced).AddsFrom s fun o t =>
      ∃ done, Run.Sequence (r.execute c context inTransaction) calls s statements.toList done t ∧
        o.isOk = (done && misplaced.isNone) := by
  unfold executeAll
  refine (Run.AddsFrom.mapM h statements.toList s).bind
    (fun e t _ made => ⟨false, made, rfl⟩) fun responses t _ made => ?_
  have quiet {o : Except Error Response} (ok : o.isOk = misplaced.isNone) :
      ∃ done, Run.Sequence (r.execute c context inTransaction) calls s statements.toList done (t ++ []) ∧
        o.isOk = (done && misplaced.isNone) := by
    rw [List.append_nil]
    exact ⟨true, made, by rw [ok, Bool.true_and]⟩
  split
  · exact Run.Adds.throw (quiet rfl) _
  · exact Run.Adds.pure (quiet rfl) _
  · exact Run.Adds.pure (quiet rfl) _

/-! ## Bodies of steps -/

/-- A step of the body of a transaction. -/
def bodyStep : BodyStep → Run σ κ Response
  | .run what context => r.runWithin c what context
  | .fail e => throw e

theorem body_eq (steps : List BodyStep) : r.body steps c = steps.mapM (r.bodyStep c) := by
  induction steps with
  | nil => rfl
  | cons step rest ih =>
    rw [List.mapM_cons, ← ih]
    cases step with
    | run what context => rfl
    | fail e => rfl

/-- The calls of a step of the body, and whether it succeeds: those of its statements, if it has some. -/
inductive Stepped : BodyStep → RunState σ κ → Bool → Trace κ → Prop
  | fail {e : Error} {s : RunState σ κ} : Stepped (.fail e) s false []
  | uncompiled {what : Value} {context : Option Value} {s : RunState σ κ}
      (fails : (Run.compile (r.env.statements what) : Run σ κ _).succeeds s = false) :
      Stepped (.run what context) s false []
  | run {what : Value} {context : Option Value} {s s' : RunState σ κ} {statements : Statements}
      {misplaced : Option Error} {done : Bool} {t : Trace κ}
      (compiled : Run.compile (r.env.statements what) s = .ok (statements, misplaced) s')
      (made : Run.Sequence (r.execute c (context.or (r.env.context what)) true) (r.Executed c) s'
        statements.toList done t) : Stepped (.run what context) s (done && misplaced.isNone) t

theorem bodyStep_adds (step : BodyStep) (s : RunState σ κ) :
    (r.bodyStep c step).AddsFrom s fun o t => r.Stepped c step s o.isOk t := by
  cases step with
  | fail e => exact Run.Adds.throw .fail s
  | run what context =>
    unfold bodyStep runWithin
    refine (Run.silent_compile _ s).bind (fun e t fails none_ => ?_) fun (statements, misplaced) t compiled none_ => ?_
    · rw [none_]
      exact .uncompiled (by rw [Run.succeeds, fails]; rfl)
    · rw [none_]
      refine (r.executeAll_adds c (r.executed_adds c _) statements misplaced _).mono ?_
      rintro t ⟨done, made, ok⟩
      rw [ok]
      exact .run compiled made

theorem body_adds (steps : List BodyStep) (s : RunState σ κ) :
    (r.body steps c).AddsFrom s fun o t =>
      Run.Sequence (r.bodyStep c) (r.Stepped c) s steps o.isOk t := by
  rw [body_eq]
  exact Run.AddsFrom.mapM (r.bodyStep_adds c) steps s

/-! ## Transactions -/

/-- A body that is run in a transaction is bracketed on the connection that was taken, and the connection
is given back last. -/
theorem transaction_adds {body : κ → Run σ κ α} {calls : RunState σ κ → Bool → Trace κ → Prop}
    (h : ∀ s, (body c).AddsFrom s fun o t => calls s o.isOk t) {s s₁ : RunState σ κ}
    (acquired : r.acquire s = .ok c s₁) :
    (r.transaction body).AddsFrom s fun o t => ∃ ok released made,
      t = [⟨.acquire (some c), true⟩, ⟨.validate c, true⟩] ++ made ++ [⟨.release c, released⟩] ∧
        r.Bracketed c (body c) calls s₁ ok made ∧ o.isOk = (ok && released) := by
  have outcome : r.acquire.outcome s = .ok c := by rw [Run.outcome, acquired]
  have after : r.acquire.after s = s₁ := by rw [Run.after, acquired]
  unfold transaction
  refine (r.acquire_adds s).bind (fun e t failed => by cases outcome.symm.trans failed) ?_
  rintro c' t taken rfl
  cases acquired.symm.trans taken
  refine (r.atomic_adds c h _).ensuring fun made bracketed => ?_
  refine (Run.require_adds _ _ _).mono fun last released => ?_
  rw [released]
  refine ⟨_, _, made, (List.append_assoc ..).symm, bracketed, ?_⟩
  generalize (Run.outcome _ _ : Except Error Unit) = o
  generalize (Run.outcome _ _ : Except Error α) = o'
  cases o <;> cases o' <;> rfl

/-- A statement outside of a transaction whose response gives statements that build a table again has
these bracketed. -/
theorem rebuild_adds (context : Option Value) {q : Compiled Value} {s s₁ : RunState σ κ}
    {response : Response} {list : List (Compiled Value)} (answer : r.query c q s = .ok response s₁)
    (rebuilds : Rebuilds q response list) :
    (r.execute c context false q).AddsFrom s fun o t => ∃ ok sent made, t = sent ++ made ∧
      r.Sent c q true sent ∧ r.Bracketed c (list.mapM (r.query c)) (r.SentAll c list) s₁ ok made ∧
        (o.isOk = true → ok = true) := by
  refine r.execute_adds c context false q s ?_ ?_ ?_ (P := fun finished t => ∃ ok sent made, t = sent ++ made ∧
    r.Sent c q true sent ∧ r.Bracketed c (list.mapM (r.query c)) (r.SentAll c list) s₁ ok made ∧
      (finished = true → ok = true))
  · intro t fails
    rw [Run.succeeds, Run.outcome, answer] at fails
    cases fails
  · intro response' s' t ok answer' _ single
    cases answer.symm.trans answer'
    exact absurd rebuilds (single list)
  · rintro response' s' t list' answer' sent ⟨output, asked, gives⟩
    cases answer.symm.trans answer'
    obtain ⟨output', asked', gives'⟩ := rebuilds
    cases asked.symm.trans asked'
    cases gives.symm.trans gives'
    refine (r.atomic_adds c (r.sentAll_adds c list) s₁).mono fun made bracketed ok needed => ?_
    exact ⟨_, t, made, rfl, sent, bracketed, needed⟩

/-- Transactions are bracketed, whatever the collaborators answer: after the connection was taken come the
calls of begin, of the steps of the body up to the first that fails, and of commit if the body succeeded or
of rollback if it failed; last the connection is given back. The same brackets stand around statements that
build a table again outside of a transaction. -/
theorem transaction_bracketed :
    (∀ steps s s₁, r.acquire s = .ok c s₁ → ∃ ok released t,
      ((r.transaction (r.body steps)).after s).trace = s.trace ++
        ([⟨.acquire (some c), true⟩, ⟨.validate c, true⟩] ++ t ++ [⟨.release c, released⟩]) ∧
      r.Bracketed c (r.body steps c) (Run.Sequence (r.bodyStep c) (r.Stepped c) · steps) s₁ ok t ∧
      (r.transaction (r.body steps)).succeeds s = (ok && released)) ∧
    ∀ context q s response s₁ list, r.query c q s = .ok response s₁ → Rebuilds q response list →
      ∃ ok sent t, ((r.execute c context false q).after s).trace = s.trace ++ (sent ++ t) ∧
        r.Sent c q true sent ∧ r.Bracketed c (list.mapM (r.query c)) (r.SentAll c list) s₁ ok t ∧
        ((r.execute c context false q).succeeds s = true → ok = true) := by
  refine ⟨fun steps s s₁ acquired => ?_, fun context q s response s₁ list answer rebuilds => ?_⟩
  · obtain ⟨t, trace, ok, released, made, rfl, bracketed, ends⟩ :=
      r.transaction_adds c (r.body_adds c steps) acquired
    exact ⟨ok, released, made, trace, bracketed, ends⟩
  · obtain ⟨t, trace, ok, sent, made, rfl, was, bracketed, ends⟩ := r.rebuild_adds c context answer rebuilds
    exact ⟨ok, sent, made, trace, was, bracketed, ends⟩

/-- A transaction whose body builds a table again and then fails, and the same statement by itself. -/
theorem transaction_bracketed_rebuild :
    let stored : Value := .list [.str "table", .str "create table t (a integer)"]
    let r : Runner Nat Nat :=
      { env := { client := { dialect := .sqlite, acquireTimeout := some .null } }
        pool := ScriptedPool.pool {}
        driver := ScriptedDriver.driver { rules := [⟨"select type", none, .rows [stored]⟩] } }
    let q : Compiled Value :=
      { sql := "select type", output := some (.rebuild ⟨"t", {}, .addConstraint "check (a > 0)"⟩) }
    let steps : List BodyStep := [.run (.compiled q) none, .fail wrongType]
    (∃ s₁, r.acquire { world := 0 } = .ok 1 s₁ ∧ ∃ ok released t,
      ((r.transaction (r.body steps)).after { world := 0 }).trace =
        [] ++ ([⟨.acquire (some 1), true⟩, ⟨.validate 1, true⟩] ++ t ++ [⟨.release 1, released⟩]) ∧
      r.Bracketed 1 (r.body steps 1) (Run.Sequence (r.bodyStep 1) (r.Stepped 1) · steps) s₁ ok t ∧
      (r.transaction (r.body steps)).succeeds { world := 0 } = (ok && released)) ∧
    ∃ response s₁ list, r.query 1 q { world := 1 } = .ok response s₁ ∧ Rebuilds q response list ∧
      ∃ ok sent t, ((r.execute 1 none false q).after { world := 1 }).trace = [] ++ (sent ++ t) ∧
        r.Sent 1 q true sent ∧ r.Bracketed 1 (list.mapM (r.query 1)) (r.SentAll 1 list) s₁ ok t ∧
        ((r.execute 1 none false q).succeeds { world := 1 } = true → ok = true) := by
  intro stored r q steps
  have acquired : ∃ s₁, r.acquire { world := 0 } = .ok 1 s₁ := ⟨_, rfl⟩
  have answer : ∃ s₁, r.query 1 q { world := 1 } = .ok (.rows [stored] 1) s₁ := by
    subst r q stored
    exact ⟨_, rfl⟩
  have rebuilds : ∃ list, Rebuilds q (.rows [stored] 1) list := ⟨_, _, rfl, rfl⟩
  obtain ⟨s₁, acquired⟩ := acquired
  obtain ⟨s₂, answer⟩ := answer
  obtain ⟨list, rebuilds⟩ := rebuilds
  exact ⟨⟨s₁, acquired, (r.transaction_bracketed 1).1 steps _ s₁ acquired⟩,
    _, s₂, list, answer, rebuilds, (r.transaction_bracketed 1).2 none q _ _ s₂ list answer rebuilds⟩

end SqlBuilder.Runner
