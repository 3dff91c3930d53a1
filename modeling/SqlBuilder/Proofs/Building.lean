import SqlBuilder.Render.Compile

/-!
# Chains that only build

A chain of calls may ask what the builders in it compile to, and compiling depends on where the chain
runs: what is nested too deep has no rendering, and rendering may report events. A chain that succeeds
although every such request is refused does the same wherever it runs, and reports nothing.

* `Logged.Foretells`, `Make.Foretells`: the success of one step tells what another one does.
* `Environment.built`: the query that a chain puts together when requests are refused.
* `Environment.built_runQuery`: the chain puts that query together under any outputs.
-/

namespace SqlBuilder

/-- Outputs that refuse every request. -/
def Outputs.refused : Outputs where
  statement _ _ := throw noSuchMember
  schema _ _ := throw noSuchMember

/-! ## Steps without objects -/

/-- When one step succeeds, the other does so as well, from any events, with the same result; and neither
reports anything. -/
def Logged.Foretells {α : Type} (c c' : Logged α) : Prop :=
  ∀ events a events', c events = .ok a events' →
    events' = events ∧ ∀ events, c' events = .ok a events

namespace Logged.Foretells

variable {α β : Type}

protected theorem pure (a : α) : Foretells (pure a) (pure a) := by
  rintro events _ _ ⟨⟩
  exact ⟨rfl, fun _ => rfl⟩

protected theorem throw (e : Error) (c' : Logged α) : Foretells (throw e) c' := by
  rintro events _ _ ⟨⟩

protected theorem bind {c c' : Logged α} {f f' : α → Logged β} (hc : Foretells c c')
    (hf : ∀ a, Foretells (f a) (f' a)) : Foretells (c >>= f) (c' >>= f') := by
  intro events b events' run
  change EStateM.bind c f events = _ at run
  unfold EStateM.bind at run
  split at run
  next a _ first =>
    obtain ⟨rfl, same⟩ := hc _ _ _ first
    obtain ⟨rfl, same'⟩ := hf a _ _ _ run
    refine ⟨rfl, fun events => ?_⟩
    change EStateM.bind c' f' events = _
    unfold EStateM.bind
    rw [same events]
    exact same' events
  · cases run

theorem liftExcept (x : Except Error α) :
    Foretells (SqlBuilder.liftExcept x) (SqlBuilder.liftExcept x) := by
  cases x with
  | ok a => exact .pure a
  | error e => exact .throw e _

theorem mapM {f f' : α → Logged β} (h : ∀ a, Foretells (f a) (f' a)) (as : List α) :
    Foretells (as.mapM f) (as.mapM f') := by
  induction as with
  | nil => exact .pure []
  | cons a as ih =>
    rw [List.mapM_cons, List.mapM_cons]
    exact (h a).bind fun b => ih.bind fun bs => .pure _

theorem foldlM {f f' : β → α → Logged β} (h : ∀ b a, Foretells (f b a) (f' b a)) (as : List α)
    (b : β) : Foretells (as.foldlM f b) (as.foldlM f' b) := by
  induction as generalizing b with
  | nil => exact .pure b
  | cons a as ih =>
    rw [List.foldlM_cons, List.foldlM_cons]
    exact (h b a).bind fun b => ih b

end Logged.Foretells

/-! ## Steps on objects -/

/-- When one step on an object succeeds, the other does so as well, from any events, with the same result
and the same object; and neither reports anything. -/
def Make.Foretells {σ α : Type} (c c' : Make σ α) : Prop :=
  ∀ object events a m, c ⟨object, events⟩ = .ok a m →
    m.events = events ∧ ∀ events, c' ⟨object, events⟩ = .ok a ⟨m.object, events⟩

namespace Make.Foretells

variable {σ α β : Type}

protected theorem pure (a : α) : Foretells (σ := σ) (pure a) (pure a) := by
  rintro object events _ _ ⟨⟩
  exact ⟨rfl, fun _ => rfl⟩

protected theorem throw (e : Error) (c' : Make σ α) : Foretells (throw e) c' := by
  rintro object events _ _ ⟨⟩

protected theorem bind {c c' : Make σ α} {f f' : α → Make σ β} (hc : Foretells c c')
    (hf : ∀ a, Foretells (f a) (f' a)) : Foretells (c >>= f) (c' >>= f') := by
  intro object events b m run
  change EStateM.bind c f _ = _ at run
  unfold EStateM.bind at run
  split at run
  next a m' first =>
    obtain ⟨object', events'⟩ := m'
    obtain ⟨rfl, same⟩ := hc _ _ _ _ first
    obtain ⟨rfl, same'⟩ := hf a _ _ _ _ run
    refine ⟨rfl, fun events => ?_⟩
    change EStateM.bind c' f' _ = _
    unfold EStateM.bind
    rw [same events]
    exact same' events
  · cases run

/-- A step that looks at the object first. -/
theorem get_bind {f f' : Making σ → Make σ α}
    (h : ∀ object events events', Foretells (f ⟨object, events⟩) (f' ⟨object, events'⟩)) :
    Foretells (get >>= f) (get >>= f') := by
  intro object events a m run
  change f ⟨object, events⟩ ⟨object, events⟩ = _ at run
  exact ⟨(h object events [] object events a m run).1,
    fun events' => (h object events events' object events a m run).2 events'⟩

theorem liftExcept (x : Except Error α) :
    Foretells (σ := σ) (SqlBuilder.liftExcept x) (SqlBuilder.liftExcept x) := by
  cases x with
  | ok a => exact .pure a
  | error e => exact .throw e _

theorem edit (f : σ → σ) : Foretells (Make.edit f) (Make.edit f) := by
  rintro object events _ _ ⟨⟩
  exact ⟨rfl, fun _ => rfl⟩

theorem ofBuild (step : Build σ α) : Foretells (Make.ofBuild step) (Make.ofBuild step) := by
  intro object events a m run
  unfold Make.ofBuild at run ⊢
  simp only at run ⊢
  split at run
  next first =>
    cases run
    exact ⟨rfl, fun _ => rfl⟩
  · cases run

theorem ofLogged {c c' : Logged α} (h : Logged.Foretells c c') :
    Foretells (σ := σ) (Make.ofLogged c) (Make.ofLogged c') := by
  intro object events a m run
  unfold Make.ofLogged at run ⊢
  simp only at run ⊢
  split at run
  next first =>
    cases run
    obtain ⟨rfl, same⟩ := h _ _ _ first
    exact ⟨rfl, fun _ => by rw [same]⟩
  · cases run

theorem change {f f' : σ → Logged σ} (h : ∀ object, Logged.Foretells (f object) (f' object)) :
    Foretells (Make.change f) (Make.change f') :=
  .get_bind fun object _ _ => (ofLogged (h object)).bind fun _ => edit _

theorem finish {c c' : Make σ Unit} (h : Foretells c c') (object : σ) :
    Logged.Foretells (Make.finish c object) (Make.finish c' object) := by
  intro events a events' run
  unfold Make.finish at run ⊢
  split at run
  next first =>
    cases run
    obtain ⟨same, ends⟩ := h _ _ _ _ first
    exact ⟨same, fun _ => by rw [ends]⟩
  · cases run

end Make.Foretells

/-! ## Evaluation -/

/-- The success of evaluations and of calls tells what they do under another evaluator. -/
structure Evaluator.Foretells (ev ev' : Evaluator) : Prop where
  term : ∀ t, Logged.Foretells (ev.term t) (ev'.term t)
  call : ∀ name a, Make.Foretells (ev.call name a) (ev'.call name a)

namespace Evaluator.Foretells

variable {ev ev' : Evaluator} (h : Foretells ev ev')

include h

theorem keywords (entries : List (String × Term)) :
    Logged.Foretells (entries.mapM fun (name, t) => do return (name, ← ev.term t))
      (entries.mapM fun (name, t) => do return (name, ← ev'.term t)) :=
  .mapM (fun (_, t) => (h.term t).bind fun _ => .pure _) _

theorem arguments (c : Call Term) : Logged.Foretells (ev.arguments c) (ev'.arguments c) :=
  (Logged.Foretells.mapM h.term _).bind fun _ => (h.keywords _).bind fun _ => .pure _

theorem calls {σ : Type} {step step' : String → Arguments → Make σ Unit}
    (hs : ∀ name a, Make.Foretells (step name a) (step' name a)) (chain : Chain) :
    Make.Foretells (ev.calls step chain) (ev'.calls step' chain) := by
  induction chain with
  | nil => exact .pure ()
  | cons c rest ih => exact (Make.Foretells.ofLogged (h.arguments c)).bind fun a => (hs c.name a).bind fun _ => ih

theorem chain (calls : Chain) : Make.Foretells (ev.chain calls) (ev'.chain calls) :=
  h.calls h.call calls

theorem extension (calls : Chain) (a : Arguments) :
    Make.Foretells (ev.extension calls a) (ev'.extension calls a) := by
  unfold Evaluator.extension
  cases a.keywords.isEmpty with
  | false => rintro object events _ _ ⟨⟩
  | true =>
    cases calls with
    | nil => exact .pure ()
    | cons c rest =>
      exact (Make.Foretells.ofLogged (h.arguments c)).bind fun own =>
        (h.call c.name _).bind fun _ => h.chain rest

theorem onBuilder {σ : Type} {call call' : σ → String → Arguments → Logged σ}
    (hc : ∀ object name a, Logged.Foretells (call object name a) (call' object name a)) (chain : Chain)
    (builder : σ) : Logged.Foretells (ev.onBuilder call chain builder) (ev'.onBuilder call' chain builder) :=
  (h.calls (fun name a => .change fun object => hc object name a) chain).finish builder

theorem onObject {σ : Type} (call : σ → String → Arguments → Except Error σ) (chains : List Chain)
    (object : σ) : Logged.Foretells (ev.onObject call chains object) (ev'.onObject call chains object) :=
  .foldlM (fun object chain => h.onBuilder (fun _ _ _ => .liftExcept _) chain object) chains object

theorem runQuery (q : Query Value) (chain : Chain) :
    Logged.Foretells (ev.runQuery q chain) (ev'.runQuery q chain) :=
  (h.chain chain).finish { origin := q }

theorem config (env : Environment) (source : ClientSource Term) :
    Logged.Foretells (ev.config env source) (ev'.config env source) := by
  induction source with
  | source settings =>
    exact (h.term settings).bind fun _ =>
      (Logged.Foretells.liftExcept _).bind fun config =>
        (Logged.Foretells.liftExcept (config.client env.registry)).bind fun _ => .pure _
  | withConfig base changes ih =>
    exact ih.bind fun base =>
      (Logged.Foretells.liftExcept (base.client env.registry)).bind fun _ =>
        (h.keywords changes).bind fun _ => .pure _
  | withoutProcessing base ih => exact ih.bind fun _ => .pure _

theorem client (env : Environment) (source : Option (ClientSource Term)) :
    Logged.Foretells (ev.client env source) (ev'.client env source) := by
  cases source with
  | none => exact .pure _
  | some source => exact (h.config env source).bind fun _ => .liftExcept _

end Evaluator.Foretells

/-! ## Requests -/

theorem RawCursor.call_foretells (outputs : Outputs) (c : RawCursor) (name : String) (a : Arguments) :
    Logged.Foretells (c.call .refused name a) (c.call outputs name a) := by
  unfold RawCursor.call
  split
  · exact (Logged.Foretells.liftExcept _).bind fun _ => .pure _
  · exact (Logged.Foretells.liftExcept _).bind fun _ => (Logged.Foretells.throw _ _).bind fun _ => .pure _
  · exact (Logged.Foretells.liftExcept _).bind fun _ => (Logged.Foretells.throw _ _).bind fun _ => .pure _
  · exact (Logged.Foretells.liftExcept _).bind fun _ => .pure _

theorem SchemaCursor.call_foretells (outputs : Outputs) (c : SchemaCursor) (name : String)
    (a : Arguments) : Logged.Foretells (c.call .refused name a) (c.call outputs name a) := by
  unfold SchemaCursor.call
  split
  · exact (Logged.Foretells.liftExcept _).bind fun _ => .pure _
  · exact (Logged.Foretells.liftExcept _).bind fun _ => (Logged.Foretells.throw _ _).bind fun _ => .pure _
  · exact (Logged.Foretells.liftExcept _).bind fun _ => (Logged.Foretells.throw _ _).bind fun _ => .pure _
  · exact (Logged.Foretells.liftExcept _).bind fun _ => .pure _

theorem QueryCursor.conflictCall_foretells (columns : List Value) (name : String) (a : Arguments) :
    Make.Foretells (QueryCursor.conflictCall columns name a) (QueryCursor.conflictCall columns name a) := by
  unfold QueryCursor.conflictCall
  split
  · exact (Make.Foretells.liftExcept _).bind fun _ => .edit _
  · exact (Make.Foretells.liftExcept _).bind fun _ => .edit _
  · exact .throw _ _

namespace Evaluator.Foretells

variable {ev ev' : Evaluator} (h : Foretells ev ev')

include h

/-- A call on a query, when requests are refused, tells what it does under any outputs. -/
theorem queryCall (env : Environment) (outputs : Outputs) (name : String) (a : Arguments) :
    Make.Foretells (queryCallWith env .refused ev name a) (queryCallWith env outputs ev' name a) := by
  unfold queryCallWith QueryCursor.call
  refine .get_bind fun c _ _ => ?_
  simp only
  split
  · exact (Make.Foretells.liftExcept _).bind fun _ => .edit _
  · exact QueryCursor.conflictCall_foretells _ name a
  · refine (Make.Foretells.ofBuild _).bind fun step => ?_
    cases step with
    | stay => exact .pure ()
    | copy => exact .edit _
    | conflict columns => exact .edit _
    | value v => exact .edit _
    | join chains j => exact (Make.Foretells.ofLogged (h.onObject _ chains j)).bind fun _ => .edit _
    | window chains w => exact (Make.Foretells.ofLogged (h.onObject _ chains w)).bind fun _ => .edit _
    | output form =>
      exact .get_bind fun _ _ _ => (Make.Foretells.ofLogged (.throw _ _)).bind fun _ => .edit _
    | unknown =>
      cases env.extensions.lookup name with
      | none => exact .throw _ _
      | some calls => exact h.extension calls a

/-- The evaluation of a term, when requests are refused, tells what it does under any outputs. -/
theorem evaluate (env : Environment) (outputs : Outputs) (t : Term) :
    Logged.Foretells (evaluateWith env .refused ev t) (evaluateWith env outputs ev' t) := by
  have terms := Logged.Foretells.mapM h.term
  cases t with
  | scalar s => exact .pure _
  | list items => exact (terms items).bind fun _ => .pure _
  | tuple items => exact (terms items).bind fun _ => .pure _
  | map entries =>
    have entry : ∀ e : Term × Term, Logged.Foretells
        (do return (← ev.term e.1, ← ev.term e.2)) (do return (← ev'.term e.1, ← ev'.term e.2)) :=
      fun (k, v) => (h.term k).bind fun _ => (h.term v).bind fun _ => .pure _
    refine (Logged.Foretells.mapM entry entries).bind fun entries => ?_
    split
    · exact .pure _
    · exact .throw _ _
  | set items =>
    refine (terms items).bind fun items => ?_
    split
    · exact .pure _
    · exact .throw _ _
  | callback chains => exact .pure _
  | query source table calls =>
    refine (h.client env source).bind fun client => ?_
    cases table with
    | none => exact (h.runQuery _ calls).bind fun _ => .pure _
    | some table => exact (h.term table).bind fun _ => (h.runQuery _ calls).bind fun _ => .pure _
  | raw sql bindings detached calls =>
    have calls := h.onBuilder (RawCursor.call_foretells outputs) calls
    refine (h.term sql).bind fun sql => ?_
    cases bindings with
    | none => exact (calls _).bind fun _ => .pure _
    | some bindings => exact (h.term bindings).bind fun _ => (calls _).bind fun _ => .pure _
  | reference name calls =>
    exact (h.term name).bind fun _ =>
      (h.onBuilder (RawCursor.call_foretells outputs) calls _).bind fun _ => .pure _
  | now precision => exact (h.term precision).bind fun _ => .pure _
  | schema calls =>
    exact (h.onBuilder (SchemaCursor.call_foretells outputs) calls _).bind fun _ => .pure _
  | compiled sql bindings timeout cancel =>
    have option (o : Option Term) : Logged.Foretells (o.mapM ev.term) (o.mapM ev'.term) := by
      cases o with
      | none => exact .pure _
      | some t => exact (h.term t).bind fun _ => .pure _
    exact (h.term sql).bind fun _ =>
      (terms bindings).bind fun _ => (option timeout).bind fun _ => (option cancel).bind fun _ => .pure _
  | variable_ name => exact .liftExcept _

end Evaluator.Foretells

/-- What an evaluator does when requests are refused it does under any outputs. -/
theorem evaluator_foretells (env : Environment) (outputs : Outputs) (n : Nat) :
    Evaluator.Foretells (evaluator env .refused n) (evaluator env outputs n) := by
  induction n with
  | zero => exact ⟨fun _ => .throw _ _, fun _ _ => .throw _ _⟩
  | succ n ih => exact ⟨ih.evaluate env outputs, ih.queryCall env outputs⟩

/-! ## Building -/

/-- Where a chain of calls on a fresh query stands in the end, when requests for what a builder compiles to
are refused. -/
def Environment.built (env : Environment) (client : Client Value) (chain : Chain) :
    Except Error QueryCursor :=
  ((SqlBuilder.evaluator env .refused nestingLimit).runQuery (Query.ofClient client) chain).outcome

/-- A chain that only builds does so under any outputs, and reports nothing. -/
theorem Environment.built_runQuery {env : Environment} {client : Client Value} {chain : Chain}
    {c : QueryCursor} (h : env.built client chain = .ok c) (outputs : Outputs) (events : List LogEvent) :
    (SqlBuilder.evaluator env outputs nestingLimit).runQuery (Query.ofClient client) chain events = .ok c events := by
  have foretold := (evaluator_foretells env outputs nestingLimit).runQuery (Query.ofClient client) chain
  unfold built Logged.outcome at h
  split at h
  next run =>
    cases h
    exact (foretold _ _ _ run).2 events
  · cases h

end SqlBuilder
