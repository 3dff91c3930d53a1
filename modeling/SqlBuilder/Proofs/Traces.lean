import SqlBuilder.Execution.Runner
import SqlBuilder.Proofs.Positions

/-!
# Traces of runs

What the steps of a run add to the trace of the calls on the collaborators, whatever the collaborators
answer. A step that fails has made its calls as well, so that a rule speaks of both ends.

* `Run.Adds`: a step adds calls to the trace that fit its outcome.
* `Run.Adds.bind`, `Run.Adds.ensuring` and their like: one rule for each way of putting steps together.
* `Sequence`: steps one after another, up to the first that fails.
* `Runner.Sent`, `Runner.Attempted`: the calls of a statement, and of a step that drives a transaction.
-/

namespace SqlBuilder

/-- Calls on collaborators, in the order in which they were made. -/
abbrev Trace (κ : Type) := List (TraceEntry κ)

namespace Run

variable {σ κ α β : Type}

/-- How a step of a run ends. -/
def outcome (m : Run σ κ α) (s : RunState σ κ) : Except Error α :=
  match m s with
  | .ok a _ => .ok a
  | .error e _ => .error e

/-- The state in which a step of a run ends. -/
def after (m : Run σ κ α) (s : RunState σ κ) : RunState σ κ :=
  match m s with
  | .ok _ s' => s'
  | .error _ s' => s'

/-- Whether a step of a run succeeds. -/
def succeeds (m : Run σ κ α) (s : RunState σ κ) : Bool :=
  (m.outcome s).isOk

/-- A step adds calls to the trace from a state on, and they fit its outcome. -/
def AddsFrom (m : Run σ κ α) (s : RunState σ κ) (P : Except Error α → Trace κ → Prop) : Prop :=
  ∃ t, (m.after s).trace = s.trace ++ t ∧ P (m.outcome s) t

/-- A step adds calls to the trace that fit its outcome, from any state on. -/
def Adds (m : Run σ κ α) (P : Except Error α → Trace κ → Prop) : Prop :=
  ∀ s, m.AddsFrom s P

/-- A step makes no calls. -/
def Silent (m : Run σ κ α) : Prop :=
  m.Adds fun _ t => t = []

/-- Steps one after another, up to the first that fails; each step has the calls that a relation gives it
for the state in which it starts. -/
inductive Sequence (step : β → Run σ κ α) (calls : β → RunState σ κ → Bool → Trace κ → Prop) :
    RunState σ κ → List β → Bool → Trace κ → Prop
  | done {s : RunState σ κ} : Sequence step calls s [] true []
  | failed {s : RunState σ κ} {b : β} {bs : List β} {t : Trace κ} (fails : (step b).succeeds s = false)
      (made : calls b s false t) : Sequence step calls s (b :: bs) false t
  | next {s : RunState σ κ} {b : β} {bs : List β} {t t' : Trace κ} {ok : Bool}
      (succeeds : (step b).succeeds s = true) (made : calls b s true t)
      (rest : Sequence step calls ((step b).after s) bs ok t') : Sequence step calls s (b :: bs) ok (t ++ t')

section Rules

variable {m : Run σ κ α} {f : α → Run σ κ β} {s : RunState σ κ} {P P' : Except Error α → Trace κ → Prop}
  {R : Except Error β → Trace κ → Prop}

theorem AddsFrom.mono (h : m.AddsFrom s P) (weaker : ∀ t, P (m.outcome s) t → P' (m.outcome s) t) :
    m.AddsFrom s P' := by
  obtain ⟨t, trace, fits⟩ := h
  exact ⟨t, trace, weaker t fits⟩

theorem Adds.mono (h : m.Adds P) (weaker : ∀ o t, P o t → P' o t) : m.Adds P' :=
  fun s => (h s).mono (weaker _)

/-- A step and what follows if it succeeds. -/
protected theorem AddsFrom.bind (h : m.AddsFrom s P)
    (stops : ∀ e t, m.outcome s = .error e → P (.error e) t → R (.error e) t)
    (goes : ∀ a t, m s = .ok a (m.after s) → P (.ok a) t →
      (f a).AddsFrom (m.after s) fun o t' => R o (t ++ t')) : (m >>= f).AddsFrom s R := by
  obtain ⟨t, trace, fits⟩ := h
  change ∃ t, (Run.after (EStateM.bind m f) s).trace = _ ∧ R (Run.outcome (EStateM.bind m f) s) t
  simp only [after, outcome] at trace fits stops goes
  simp only [after, outcome, EStateM.bind]
  cases first : m s with
  | error e s' =>
    rw [first] at trace fits stops
    exact ⟨t, trace, stops e t rfl fits⟩
  | ok a s' =>
    rw [first] at trace fits goes
    obtain ⟨t', trace', fits'⟩ := goes a t rfl fits
    have whole : ((f a).after s').trace = s.trace ++ (t ++ t') := by
      rw [trace', show s'.trace = s.trace ++ t from trace, List.append_assoc]
    exact ⟨t ++ t', whole, fits'⟩

/-- A step and others without calls after it. -/
theorem AddsFrom.bind_silent (h : m.AddsFrom s P) (stops : ∀ e t, P (.error e) t → R (.error e) t)
    (quiet : ∀ a, (f a).Silent) (goes : ∀ a o t, P (.ok a) t → R o t) : (m >>= f).AddsFrom s R := by
  refine h.bind (fun e t _ => stops e t) fun a t _ fits => (quiet a _).mono fun t' none_ => ?_
  rw [none_, List.append_nil]
  exact goes a _ t fits

/-- A body with a last step. -/
theorem AddsFrom.ensuring {body : Run σ κ α} {last : Run σ κ Unit} (h : body.AddsFrom s P)
    (ends : ∀ t, P (body.outcome s) t →
      last.AddsFrom (body.after s) fun o t' => P' (o >>= fun _ => body.outcome s) (t ++ t')) :
    (Run.ensuring body last).AddsFrom s P' := by
  obtain ⟨t, trace, fits⟩ := h
  simp only [after, outcome] at trace fits ends
  simp only [AddsFrom, after, outcome, Run.ensuring]
  -- the last step is made after either end of the body
  cases ran : body s with
  | ok a s' | error e s' =>
    rw [ran] at trace fits ends
    obtain ⟨t', trace', fits'⟩ := ends t fits
    have whole : (last.after s').trace = s.trace ++ (t ++ t') := by
      rw [trace', show s'.trace = s.trace ++ t from trace, List.append_assoc]
    refine ⟨t ++ t', ?_⟩
    simp only [after, outcome] at whole fits'
    simp only
    generalize last s' = r at whole fits' ⊢
    cases r <;> exact ⟨whole, fits'⟩

/-- A body with a step that is made if the body fails. -/
theorem AddsFrom.onFailure {body : Run σ κ α} {step : Run σ κ Unit} (h : body.AddsFrom s P)
    (succeeds : ∀ a t, body s = .ok a (body.after s) → P (.ok a) t → P' (.ok a) t)
    (fails : ∀ e t, body.outcome s = .error e → P (.error e) t →
      step.AddsFrom (body.after s) fun o t' => P' (o >>= fun _ => .error e) (t ++ t')) :
    (Run.onFailure body step).AddsFrom s P' := by
  obtain ⟨t, trace, fits⟩ := h
  simp only [after, outcome] at trace fits succeeds fails
  simp only [AddsFrom, after, outcome, Run.onFailure]
  cases ran : body s with
  | ok a s' =>
    rw [ran] at trace fits succeeds
    exact ⟨t, trace, succeeds a t rfl fits⟩
  | error e s' =>
    rw [ran] at trace fits fails
    obtain ⟨t', trace', fits'⟩ := fails e t rfl fits
    have whole : (step.after s').trace = s.trace ++ (t ++ t') := by
      rw [trace', show s'.trace = s.trace ++ t from trace, List.append_assoc]
    refine ⟨t ++ t', ?_⟩
    simp only [after, outcome] at whole fits'
    simp only
    generalize step s' = r at whole fits' ⊢
    cases r <;> exact ⟨whole, fits'⟩

namespace Adds

protected theorem pure {a : α} (h : P (.ok a) []) : (pure a : Run σ κ α).Adds P :=
  fun s => ⟨[], (List.append_nil s.trace).symm, h⟩

protected theorem throw {e : Error} (h : P (.error e) []) : (throw e : Run σ κ α).Adds P :=
  fun s => ⟨[], (List.append_nil s.trace).symm, h⟩

protected theorem bind (h : m.Adds P) (stops : ∀ e t, P (.error e) t → R (.error e) t)
    (goes : ∀ a t, P (.ok a) t → (f a).Adds fun o t' => R o (t ++ t')) : (m >>= f).Adds R :=
  fun s => (h s).bind (fun e t _ => stops e t) fun a t _ fits => goes a t fits _

/-- A step without calls before others. -/
theorem bind_silent (h : m.Silent) (stops : ∀ e, R (.error e) []) (goes : ∀ a, (f a).Adds R) :
    (m >>= f).Adds R := by
  refine h.bind (fun e t none_ => ?_) fun a t none_ => ?_
  · rw [none_]
    exact stops e
  · rw [none_]
    exact goes a

protected theorem ite {c : Prop} [Decidable c] {m' : Run σ κ α} (yes : c → m.Adds P)
    (no : ¬ c → m'.Adds P) : (if c then m else m').Adds P := by
  split
  · exact yes ‹_›
  · exact no ‹_›

end Adds

/-- Steps one after another are a sequence up to the first that fails. -/
theorem AddsFrom.mapM {step : α → Run σ κ β} {calls : α → RunState σ κ → Bool → Trace κ → Prop}
    (h : ∀ a s, (step a).AddsFrom s fun o t => calls a s o.isOk t) (as : List α) (s : RunState σ κ) :
    (as.mapM step).AddsFrom s fun o t => Sequence step calls s as o.isOk t := by
  induction as generalizing s with
  | nil => exact Adds.pure .done s
  | cons a as ih =>
    rw [List.mapM_cons]
    refine (h a s).bind (fun e t fails made => ?_) fun b t first made => ?_
    · exact .failed (by rw [succeeds, fails]; rfl) made
    have went : (step a).succeeds s = true := by
      rw [succeeds, outcome, first]
      rfl
    refine (ih _).bind (fun e t' _ rest => .next went made rest) fun bs t' _ rest => ?_
    refine Adds.pure ?_ _
    rw [List.append_nil]
    exact .next went made rest

end Rules

/-! ## Calls -/

/-- An event is reported without calls, and that does not fail. -/
theorem Adds.report {event : LogEvent} {f : Unit → Run σ κ β} {R : Except Error β → Trace κ → Prop}
    (h : (f ()).Adds R) : (report event >>= f).Adds R := by
  have noted : (Run.report event : Run σ κ Unit).Adds fun o t => o = .ok () ∧ t = [] :=
    fun s => ⟨[], (List.append_nil s.trace).symm, rfl, rfl⟩
  refine noted.bind ?_ ?_
  · rintro e t ⟨⟨⟩, -⟩
  · rintro _ t ⟨-, rfl⟩
    exact h

theorem silent_compile (c : Compile α) : (compile c : Run σ κ α).Silent := by
  intro s
  unfold AddsFrom after outcome compile
  cases c {} <;> exact ⟨[], (List.append_nil s.trace).symm, rfl⟩

theorem silent_throw (e : Error) : (throw e : Run σ κ α).Silent :=
  .throw rfl

/-- A compilation that is a step of a run ends as it does by itself. -/
theorem compile_adds (c : Compile α) :
    (compile c : Run σ κ α).Adds fun o t => t = [] ∧ (∀ a, o = .ok a → ∃ p, c {} = .ok a p) ∧
      ∀ e, o = .error e → ∃ p, c {} = .error e p := by
  intro s
  refine ⟨[], ?_⟩
  unfold after outcome compile
  cases c {} <;> simp

/-- A call is noted, whether or not it succeeds. -/
theorem perform_adds (effect : Effect σ α) (action : Except Failure α → Action κ) :
    (perform effect action).Adds fun o t =>
      ∃ answer, o = .ok answer ∧ t = [⟨action answer, answer.isOk⟩] := by
  intro s
  refine ⟨_, rfl, (effect s.world).1, rfl, ?_⟩
  generalize (effect s.world).1 = answer
  cases answer <;> rfl

/-- A call that has to succeed is noted, and fails where the call does. -/
theorem require_adds (effect : Effect σ α) (action : Action κ) :
    (require effect action).Adds fun o t => t = [⟨action, o.isOk⟩] := by
  refine (perform_adds effect fun _ => action).bind (by rintro e t ⟨answer, ⟨⟩, -⟩) ?_
  rintro answer t ⟨_, ⟨⟩, rfl⟩
  cases answer with
  | ok a => exact .pure rfl
  | error f => exact .throw rfl

end Run

namespace Runner

variable {σ κ : Type} (r : Runner σ κ) (c : κ)

/-! ## Connections -/

/-- The wait for a connection can end with one: there is time for it, or the pool is not asked before the
time is looked at. -/
def Waits : Prop :=
  r.pool.asksLate = true ∨ Patience.ofTime r.acquireTimeout = .enough

/-- The calls of a wait for a connection that ends without one. -/
inductive Unmet : Trace κ → Prop
  | unasked : Unmet []
  | missed : Unmet [⟨.acquire none, false⟩]
  /-- the connection comes, but the wait was over before it started -/
  | late {c : κ} (h : ¬ r.Waits) : Unmet [⟨.acquire (some c), true⟩]

/-- The calls of a try to take a connection that fails. -/
inductive Refused : Trace κ → Prop
  | unmet {t : Trace κ} (h : r.Unmet t) : Refused t
  /-- whether the connection can be used is not found out -/
  | unknown {c : κ} : Refused [⟨.acquire (some c), true⟩, ⟨.validate c, false⟩]
  | unusable {c : κ} {ok : Bool} :
    Refused [⟨.acquire (some c), true⟩, ⟨.validate c, true⟩, ⟨.release c, ok⟩]

/-- The calls of a wait for a connection, and how it ends. -/
def Requested : Except Error κ → Trace κ → Prop
  | .ok c, t => t = [⟨.acquire (some c), true⟩]
  | .error _, t => r.Unmet t

/-- The calls of a try to take a connection, and how it ends. -/
def Acquired : Except Error κ → Trace κ → Prop
  | .ok c, t => t = [⟨.acquire (some c), true⟩, ⟨.validate c, true⟩]
  | .error _, t => r.Refused t

theorem unmet_adds {m : Run σ κ κ} (fails : m.Adds fun o t => o.isOk = false ∧ t = []) {t : Trace κ}
    (h : r.Unmet t) : m.Adds fun o t' => r.Requested o (t ++ t') := by
  refine fails.mono fun o t' ⟨failed, none_⟩ => ?_
  rw [none_, List.append_nil]
  cases o with
  | ok c => cases failed
  | error e => exact h

/-- A wait that is over before it starts ends without a connection. -/
theorem late_adds {ask : Run σ κ κ} (last : Unit → Run σ κ κ) (asked : ask.Adds r.Requested)
    (ended : Patience.ofTime r.acquireTimeout ≠ .enough)
    (fails : (last ()).Adds fun o t => o.isOk = false ∧ t = []) :
    (if !r.pool.asksLate then ask >>= fun _ => last () else last ()).Adds r.Requested := by
  refine .ite (fun early => ?_) fun _ => r.unmet_adds fails .unasked
  refine asked.bind (fun e t unmet => unmet) ?_
  rintro c t rfl
  exact r.unmet_adds fails (.late (by simpa [Waits, ended] using early))

/-- The calls of a wait for a connection. -/
theorem request_adds : r.request.Adds r.Requested := by
  have late {α : Type} : (r.acquireLate : Run σ κ α).Adds fun o t => o.isOk = false ∧ t = [] :=
    .report (.throw ⟨rfl, rfl⟩)
  unfold request
  extract_lets patience ask finish
  have asked : ask.Adds r.Requested := by
    refine (Run.perform_adds _ _).bind (by rintro e t ⟨answer, ⟨⟩, -⟩) ?_
    rintro _ t ⟨answer, ⟨⟩, rfl⟩
    split
    · exact r.unmet_adds late .missed
    · exact .throw .missed
    · exact .pure rfl
  clear_value ask
  revert finish
  unfold patience
  cases time : Patience.ofTime r.acquireTimeout with
  | enough => exact asked
  | nothing => exact r.late_adds (fun _ => r.acquireLate) asked (by simp [time]) late
  | impossible fault text =>
    exact r.late_adds (fun _ => throw (.fault fault)) asked (by simp [time]) (.throw ⟨rfl, rfl⟩)

/-- The calls of taking a connection. -/
theorem acquire_adds : r.acquire.Adds r.Acquired := by
  unfold acquire
  refine r.request_adds.bind (fun e t unmet => .unmet unmet) ?_
  rintro c t rfl
  refine (Run.require_adds _ _).bind ?_ ?_
  · rintro e t rfl
    exact .unknown
  rintro valid t rfl
  cases valid with
  | true => exact .pure rfl
  | false =>
    refine (Run.require_adds _ _).bind ?_ ?_
    · rintro e t rfl
      exact .unusable
    · rintro _ t rfl
      exact .throw .unusable

/-! ## Statements -/

/-- A statement as the driver gets it. -/
def form (q : Compiled Value) : Native :=
  ⟨r.env.client.positionBindings q.sql, r.env.client.prepare q.bindings⟩

/-- A statement can reach the driver: it is a text, and there is time for it. -/
def Reaches (q : Compiled Value) : Prop :=
  q.object = none ∧ Patience.ofTime (q.timeout.getD .null) = .enough

/-- At most one call that cancels a statement, which has to ask for that. -/
def Cancels (q : Compiled Value) (late : Trace κ) : Prop :=
  late = [] ∨ q.cancelOnTimeout.any Value.isTruthy = true ∧ ∃ ok, late = [⟨.cancel c, ok⟩]

/-- The calls of one statement on a connection, and whether it succeeds: the driver gets it once, if it can
get it at all, and may be asked to cancel it when it fails. -/
inductive Sent (q : Compiled Value) : Bool → Trace κ → Prop
  | answered (h : Reaches q) : Sent q true [⟨.execute c (r.form q), true⟩]
  | failed (h : Reaches q) {late : Trace κ} (cancels : Cancels c q late) :
    Sent q false (⟨.execute c (r.form q), false⟩ :: late)
  | unsent (h : ¬ Reaches q) {late : Trace κ} (cancels : Cancels c q late) : Sent q false late

/-- The form of a statement for the driver, if the statement is a text. -/
theorem native_form (q : Compiled Value) (p : Progress) :
    (∀ native p', r.env.client.native q p = .ok native p' → q.object = none ∧ native = r.form q) ∧
      ∀ e p', r.env.client.native q p = .error e p' → q.object ≠ none := by
  cases object : q.object with
  | some v =>
    unfold Client.native
    rw [object]
    exact ⟨nofun, fun _ _ _ => nofun⟩
  | none =>
    obtain ⟨p₁, made⟩ := r.env.client.native_ok object p
    rw [made]
    refine ⟨?_, nofun⟩
    rintro native p' ⟨⟩
    exact ⟨rfl, rfl⟩

/-- The driver gets a statement if there is time for it. -/
theorem attempt_adds (q : Compiled Value) (native : Native) :
    (r.attempt c q native).Adds fun o t => ∃ answer, o = .ok answer ∧
      (Patience.ofTime (q.timeout.getD .null) = .enough ∧ t = [⟨.execute c native, answer.isOk⟩] ∨
        Patience.ofTime (q.timeout.getD .null) ≠ .enough ∧ t = [] ∧ answer.isOk = false) := by
  unfold attempt
  cases Patience.ofTime (q.timeout.getD .null) with
  | enough =>
    refine (Run.perform_adds _ _).mono ?_
    rintro o t ⟨answer, rfl, rfl⟩
    exact ⟨answer, rfl, .inl ⟨rfl, rfl⟩⟩
  | nothing => exact .pure ⟨_, rfl, .inr ⟨nofun, rfl, rfl⟩⟩
  | impossible fault text => exact .pure ⟨_, rfl, .inr ⟨nofun, rfl, rfl⟩⟩

/-- Cancelling makes at most one call. -/
theorem cancel_adds : (r.cancel c).Adds fun _ t => t = [] ∨ ∃ ok, t = [⟨.cancel c, ok⟩] := by
  unfold cancel
  extract_lets asks
  have asked (u : Unit) : (asks u).Adds fun _ t => t = [] ∨ ∃ ok, t = [⟨.cancel c, ok⟩] := by
    unfold asks
    split
    · exact .throw (.inl rfl)
    · exact (Run.require_adds _ _).mono fun o t added => .inr ⟨o.isOk, added⟩
  refine .ite (fun _ => ?_) fun _ => asked ()
  exact Run.Adds.bind_silent (Run.silent_throw _) (fun _ => .inl rfl) asked

/-- The calls of a statement. -/
theorem query_adds (q : Compiled Value) : (r.query c q).Adds fun o t => r.Sent c q o.isOk t := by
  unfold query
  refine (Run.compile_adds _).bind ?_ ?_
  · rintro e t ⟨rfl, -, fails⟩
    obtain ⟨p, failed⟩ := fails e rfl
    exact .unsent (fun reaches => (r.native_form q {}).2 e p failed reaches.1) (.inl rfl)
  rintro native t ⟨rfl, made, -⟩
  obtain ⟨p, made⟩ := made native rfl
  obtain ⟨text, rfl⟩ := (r.native_form q {}).1 native p made
  refine .report ((r.attempt_adds c q _).bind ?_ ?_)
  · rintro e t ⟨_, ⟨⟩, -⟩
  rintro answer t ⟨_, ⟨⟩, sent⟩
  -- what fails was sent once or not at all, and may be cancelled
  have failed {late : Trace κ} (fails : answer.isOk = false) (cancels : Cancels c q late) :
      r.Sent c q false (t ++ late) := by
    rcases sent with ⟨time, rfl⟩ | ⟨late_, rfl, -⟩
    · rw [fails]
      exact .failed ⟨text, time⟩ cancels
    · exact .unsent (fun reaches => late_ reaches.2) cancels
  split
  next response =>
    refine .report (.pure ?_)
    obtain ⟨time, rfl⟩ | ⟨-, -, ⟨⟩⟩ := sent
    exact .answered ⟨text, time⟩
  · refine .ite (fun asked => ?_) fun _ => .report (.throw (failed rfl (.inl rfl)))
    have late {t' : Trace κ} (calls : t' = [] ∨ ∃ ok, t' = [⟨.cancel c, ok⟩]) : r.Sent c q false (t ++ t') :=
      failed rfl (calls.imp_right fun called => ⟨asked, called⟩)
    refine (r.cancel_adds c).bind (fun e t' calls => late calls) fun _ t' calls => .report (.throw ?_)
    rw [List.append_nil]
    exact late calls
  · exact .throw (failed rfl (.inl rfl))
  next text =>
    refine Run.Adds.bind_silent (Run.silent_compile _) (fun _ => failed rfl (.inl rfl)) fun _ => ?_
    exact .report (.throw (failed rfl (.inl rfl)))

end Runner

end SqlBuilder
