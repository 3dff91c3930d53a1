import SqlBuilder.Proofs.ConfinedCalls

/-!
# Scripts that are confined to a region

The evaluation of a term, or the run of a chain of calls, that refers to a closed region only. In two stores
that agree in the region it does the same, and what it leaves refers to nothing outside of the region.

* `Region.Agrees`: two stores that agree in a region.
* `Region.cursor`: a query under construction lies in a region.
* `Region.Evaluators`: evaluations and calls that do the same in both stores.
* `Evaluators.onObject`, `Evaluators.onQuery`: callbacks.
* `Region.evaluators`: the evaluators of both stores, to any number of levels.
-/

namespace SqlBuilder

namespace Region

variable (R : Region)

/-- Two stores agree in a region, and in what is no part of it. -/
structure Agrees (env env' : Environment) : Prop where
  registry : env'.registry = env.registry
  client : env'.client = env.client
  object : ∀ id, R.object id → env'.objects[id]? = env.objects[id]?
  name : ∀ name, R.name name → env'.names.lookup name = env.names.lookup name
  method : ∀ name, R.method name → env'.extensions.lookup name = env.extensions.lookup name

/-- What the last call of a chain left lies in a region. -/
def stage : QueryStage → Prop
  | .builder => True
  | .conflict columns => ∀ v ∈ columns, R.value v
  | .value v => R.value v

/-- A query under construction lies in a region. -/
structure cursor (c : QueryCursor) : Prop where
  origin : R.query c.origin
  copy : ∀ q ∈ c.copy, R.query q
  stage : R.stage c.stage

/-- A raw expression under construction lies in a region. -/
structure rawCursor (c : RawCursor) : Prop where
  raw : R.raw c.raw
  value : ∀ v ∈ c.value, R.value v

/-- Two steps on an object that may report events do the same and keep a property of the object. -/
abbrev Makes {σ α : Type} (I : σ → Prop) (c c' : Make σ α) (P : α → Prop) : Prop :=
  R.Confined (fun m : Making σ => I m.object) c c' P

/-- What builders compile to while a script runs is the same in both stores. -/
def Outputs (outputs outputs' : Outputs) : Prop :=
  ∀ form v, R.value v → R.Reports (outputs.statement form v) (outputs'.statement form v) R.value

/-- Evaluations and calls that refer to a region do the same in both stores. -/
structure Evaluators (ev ev' : Evaluator) : Prop where
  term : ∀ t, R.term t → R.Reports (ev.term t) (ev'.term t) R.value
  call : ∀ name a, R.method name → R.arguments a →
    R.Makes R.cursor (ev.call name a) (ev'.call name a) fun _ => True

variable {R}

/-! ## Steps on objects -/

namespace Makes

variable {σ α : Type} {I : σ → Prop} {P : α → Prop}

theorem ofBuild {step : Build σ α} (h : R.Confined I step step P) :
    R.Makes I (Make.ofBuild step) (Make.ofBuild step) P := by
  intro m hm
  refine ⟨rfl, ?_⟩
  obtain ⟨-, ends⟩ := h m.object hm
  unfold Make.ofBuild
  generalize step m.object = r at ends
  cases ends with
  | ok result state => exact .ok result state
  | error error state => exact .error error state

theorem ofLogged {c c' : Logged α} (h : R.Reports c c' P) :
    R.Makes I (Make.ofLogged c) (Make.ofLogged c') P := by
  intro m hm
  obtain ⟨same, ends⟩ := h m.events trivial
  simp only [Make.ofLogged]
  rw [same]
  generalize c m.events = r at ends
  cases ends with
  | ok result _ => exact ⟨rfl, .ok result hm⟩
  | error error _ => exact ⟨rfl, .error error hm⟩

theorem edit {f : σ → σ} (h : ∀ s, I s → I (f s)) : R.Makes I (Make.edit f) (Make.edit f) fun _ => True :=
  .modify fun _ hm => h _ hm

theorem change {f f' : σ → Logged σ} (h : ∀ s, I s → R.Reports (f s) (f' s) I) :
    R.Makes I (Make.change f) (Make.change f') fun _ => True :=
  .get_bind fun m hm => (ofLogged (h m.object hm)).bind fun _ hs => edit fun _ _ => hs

theorem finish {c c' : Make σ Unit} (h : R.Makes I c c' fun _ => True) {object : σ} (ho : I object) :
    R.Reports (Make.finish c object) (Make.finish c' object) I := by
  intro events _
  obtain ⟨same, ends⟩ := h ⟨object, events⟩ ho
  simp only [Make.finish]
  rw [same]
  generalize c ⟨object, events⟩ = r at ends
  cases ends with
  | ok _ state => exact ⟨rfl, .ok state trivial⟩
  | error error _ => exact ⟨rfl, .error error trivial⟩

end Makes

/-! ## Queries under construction -/

section

variable {c : QueryCursor} {q : Query Value} {v : Value}

theorem cursor.current (h : R.cursor c) : R.query c.current := by
  unfold QueryCursor.current
  cases copied : c.copy with
  | none => exact h.origin
  | some q => exact h.copy q copied

theorem cursor.replace (h : R.cursor c) (hq : R.query q) : R.cursor (c.replace q) := by
  unfold QueryCursor.replace
  split
  · exact { h with copy := by rintro _ ⟨⟩; exact hq }
  · exact { h with origin := hq }

theorem cursor.moveTo (h : R.cursor c) (hv : R.value v) : R.cursor (c.moveTo v) := by
  unfold QueryCursor.moveTo
  split
  · exact { h with copy := by rintro _ ⟨⟩; exact value_query.mp hv, stage := trivial }
  · exact { h with stage := hv }

theorem cursor.result (h : R.cursor c) : R.value c.result := by
  have stage := h.stage
  unfold QueryCursor.result
  split
  · exact value_query.mpr h.current
  · exact value_conflict _ _
  next v given =>
    rw [given] at stage
    exact stage

theorem cursor_origin (h : R.query q) : R.cursor { origin := q } where
  origin := h
  copy _ none_ := nomatch none_
  stage := trivial

theorem query_ofClient (client : Client Value) : R.query (Query.ofClient client) where
  statement :=
    { commonTables := nofun, projection := nofun, joins := nofun, wheres := nofun, unions := nofun
      groups := nofun, orders := nofun, havings := nofun, table := nofun, schema := nofun, asName := nofun
      lockTables := nofun, insert := nofun, update := nofun, upsert := nofun, counters := nofun
      returning := nofun, conflict := nofun, comments := nofun }
  context := nofun

theorem raw_ofReference {client : Client Value} (hv : R.value v) : R.raw (Raw.ofReference client v) where
  sql := value_scalar _
  bindings := nofun
  before := nofun
  after := nofun
  reference := by rintro _ ⟨⟩; exact hv
  schema := nofun
  asName := nofun

/-- A raw expression, with or without its client. -/
theorem raw_detached {client : Client Value} (detached : Bool) {sql bindings : Value} (hs : R.value sql)
    (hb : R.value bindings) : R.raw (if detached then { Raw.ofValue client sql bindings with client := none }
      else Raw.ofValue client sql bindings) := by
  have made := value_raw.mp (value_ofValue client hs hb)
  split
  · exact { made with }
  · exact made

theorem makes_onCurrent {α : Type} {step : Build (Query Value) α} {P : α → Prop}
    (h : R.Confined R.query step step P) :
    R.Confined R.cursor (QueryCursor.onCurrent step) (QueryCursor.onCurrent step) P := by
  intro c hc
  refine ⟨rfl, ?_⟩
  obtain ⟨-, ends⟩ := h c.current hc.current
  unfold QueryCursor.onCurrent
  generalize step c.current = r at ends
  cases ends with
  | ok result state => exact .ok result (hc.replace state)
  | error error state => exact .error error (hc.replace state)

theorem makes_conflictCall {columns : List Value} (hv : ∀ v ∈ columns, R.value v) (name : String)
    {a : Arguments} (ha : R.arguments a) :
    R.Makes R.cursor (QueryCursor.conflictCall columns name a) (QueryCursor.conflictCall columns name a)
      fun _ => True := by
  have finished {merge : Option Value} (hm : ∀ v ∈ merge, R.value v) (c : QueryCursor) (h : R.cursor c) :
      R.cursor (QueryCursor.finishConflict columns merge c) :=
    { h.replace (query_onConflict h.current hv hm) with stage := trivial }
  unfold QueryCursor.conflictCall
  split
  · exact (Confined.liftExcept (outcome_none ha)).bind fun _ _ => Makes.edit (finished nofun)
  · refine (Confined.liftExcept (outcome_bind ha _ _)).bind fun b hb => Makes.edit (finished ?_)
    rintro _ ⟨⟩
    exact value_get hb _
  · exact .throw error_noSuchMember

/-- A call on a plain value leaves a number or a text. -/
theorem outcome_valueCall (v : Value) (name : String) {a : Arguments} (ha : R.arguments a) :
    R.Outcome R.value (v.call name a) := by
  have only : R.Outcome R.value a.only := by
    unfold Arguments.only
    split
    next given _ => exact ha.positional _ (by rw [given]; exact .head _)
    · exact error_wrongType
  have text (v : Value) : R.Outcome (fun _ => True) v.asText := by
    unfold Value.asText
    split
    · trivial
    · exact error_wrongType
  unfold Value.call
  split
  · exact only.bind fun v _ => (text v).bind fun _ _ => .pure (value_scalar _)
  · exact only.bind fun v hv => (View.outcome_items hv).bind fun _ _ =>
      (Outcome.mapM (Q := fun _ => True) fun v _ => text v).bind fun _ _ => .pure (value_scalar _)
  · split
    · exact error_wrongType
    · exact error_noSuchMember
  · exact error_missing _ _

end

/-! ## Evaluation -/

namespace Evaluators

variable {ev ev' : Evaluator} (h : R.Evaluators ev ev')

include h

theorem keywords {entries : List (String × Term)} (he : ∀ e ∈ entries, R.term e.2) :
    R.Reports (entries.mapM fun (name, t) => do return (name, ← ev.term t))
      (entries.mapM fun (name, t) => do return (name, ← ev'.term t)) fun es => ∀ e ∈ es, R.value e.2 :=
  Confined.mapM fun e hm => (h.term e.2 (he e hm)).bind fun _ hv => .pure hv

theorem arguments {c : Call Term} (positional : ∀ t ∈ c.arguments, R.term t)
    (named : ∀ e ∈ c.keywords, R.term e.2) : R.Reports (ev.arguments c) (ev'.arguments c) R.arguments :=
  (Confined.mapM fun t ht => h.term t (positional t ht)).bind fun _ hp =>
    (h.keywords named).bind fun _ hk => .pure ⟨hp, hk⟩

theorem calls {σ : Type} {I : σ → Prop} {step step' : String → Arguments → Make σ Unit}
    (hs : ∀ name a, R.method name → R.arguments a → R.Makes I (step name a) (step' name a) fun _ => True)
    {chain : Chain} (hc : R.chain chain) : R.Makes I (ev.calls step chain) (ev'.calls step' chain) fun _ => True := by
  induction chain with
  | nil => exact .pure trivial
  | cons c rest ih =>
    obtain ⟨method, positional, named⟩ := hc c (.head _)
    exact (Makes.ofLogged (h.arguments positional named)).bind fun a ha =>
      (hs c.name a method ha).bind fun _ _ => ih fun c hm => hc c (.tail _ hm)

theorem chain {calls : Chain} (hc : R.chain calls) :
    R.Makes R.cursor (ev.chain calls) (ev'.chain calls) fun _ => True :=
  h.calls h.call hc

theorem extension {calls : Chain} (hc : R.chain calls) {a : Arguments} (ha : R.arguments a) :
    R.Makes R.cursor (ev.extension calls a) (ev'.extension calls a) fun _ => True := by
  unfold Evaluator.extension
  cases a.keywords.isEmpty with
  | false => exact fun _ hs => ⟨rfl, .error error_wrongType hs⟩
  | true =>
    cases calls with
    | nil => exact .pure trivial
    | cons c rest =>
      obtain ⟨method, positional, named⟩ := hc c (.head _)
      refine (Makes.ofLogged (h.arguments positional named)).bind fun own ho => ?_
      have given : R.arguments { own with positional := own.positional ++ a.positional } :=
        { ho with positional := List.forall_mem_append.mpr ⟨ho.positional, ha.positional⟩ }
      exact (h.call c.name _ method given).bind fun _ _ => h.chain fun c hm => hc c (.tail _ hm)

theorem onBuilder {σ : Type} {I : σ → Prop} {call call' : σ → String → Arguments → Logged σ}
    (hs : ∀ s name a, I s → R.method name → R.arguments a → R.Reports (call s name a) (call' s name a) I)
    {chain : Chain} (hc : R.chain chain) {builder : σ} (hb : I builder) :
    R.Reports (ev.onBuilder call chain builder) (ev'.onBuilder call' chain builder) I :=
  Makes.finish (h.calls (fun name a hm ha => Makes.change fun s hI => hs s name a hI hm ha) hc) hb

theorem onObject {σ : Type} {I : σ → Prop} {call : σ → String → Arguments → Except Error σ}
    (hs : ∀ s name a, I s → R.arguments a → R.Outcome I (call s name a)) {chains : List Chain}
    (hc : ∀ calls ∈ chains, R.chain calls) {object : σ} (ho : I object) :
    R.Reports (ev.onObject call chains object) (ev'.onObject call chains object) I :=
  Confined.foldlM
    (fun _ hb _ hm => h.onBuilder (fun s name a hI _ ha => .liftExcept (hs s name a hI ha)) (hc _ hm) hb) ho

theorem onJoin {chains : List Chain} (hc : ∀ calls ∈ chains, R.chain calls) {j : Join Value}
    (hj : j.Of (.operands R.value)) :
    R.Reports (ev.onObject Join.call chains j) (ev'.onObject Join.call chains j) (Join.Of (.operands R.value)) :=
  h.onObject (fun _ name _ hj ha => outcome_joinCall hj ha name) hc hj

theorem onQuery {chains : List Chain} (hc : ∀ calls ∈ chains, R.chain calls) {q : Query Value} (hq : R.query q) :
    R.Reports (ev.onQuery chains q) (ev'.onQuery chains q) R.query :=
  Confined.foldlM (Q := R.query)
    (fun _ hq _ hm => (Makes.finish (h.chain (hc _ hm)) (cursor_origin hq)).bind fun _ hd => .pure hd.origin) hq

omit h in
theorem outcome_config (v : Value) : R.Outcome (fun _ => True) (Config.ofValue v) := by
  have entries (es : List (Value × Value)) : R.Outcome (fun _ => True) (Config.ofEntries es) := by
    unfold Config.ofEntries
    extract_lets dialect version connection path useNull style wrap process timeout debug unknown rejected
    clear_value rejected unknown debug timeout process wrap style useNull path connection version dialect
    split
    · split
      · trivial
      · exact error_of_ne nofun
    · exact error_of_ne nofun
  have address (text : String) : R.Outcome (fun _ => True) (Config.ofAddress text) := by
    unfold Config.ofAddress
    dsimp only
    split
    · trivial
    · exact error_fault _
  unfold Config.ofValue
  split
  · exact error_of_ne nofun
  · split
    · exact address _
    · trivial
  · split
    · exact entries _
    · exact error_of_ne nofun
  · exact error_missing _ _

omit h in
theorem outcome_client (config : Config) (registry : Registry) :
    R.Outcome (fun _ => True) (config.client registry) := by
  have dialect : R.Outcome (fun _ => True) (config.findDialect registry) := by
    unfold Config.findDialect
    split
    · exact error_wrongType
    · split
      · trivial
      · exact error_of_ne nofun
  exact dialect.bind fun _ _ => .pure trivial

variable {env env' : Environment}

theorem config (registry : env'.registry = env.registry) {source : ClientSource Term} (hs : source.Of R.term) :
    R.Reports (ev.config env source) (ev'.config env' source) fun _ => True := by
  induction source with
  | source settings =>
    unfold Evaluator.config
    rw [registry]
    exact (h.term settings hs).bind fun v _ => (Confined.liftExcept (outcome_config v)).bind fun config _ =>
      (Confined.liftExcept (outcome_client config env.registry)).bind fun _ _ => .pure trivial
  | withConfig base changes ih =>
    unfold Evaluator.config
    rw [registry]
    exact (ih hs.1).bind fun base _ =>
      (Confined.liftExcept (outcome_client base env.registry)).bind fun _ _ =>
        (h.keywords hs.2).bind fun _ _ => .pure trivial
  | withoutProcessing base ih => exact (ih hs).bind fun _ _ => .pure trivial

theorem client (agrees : R.Agrees env env') {source : Option (ClientSource Term)}
    (hs : ∀ s ∈ source, s.Of R.term) :
    R.Reports (ev.client env source) (ev'.client env' source) fun _ => True := by
  cases source with
  | none =>
    unfold Evaluator.client
    rw [agrees.client]
    exact .pure trivial
  | some source =>
    unfold Evaluator.client
    rw [agrees.registry]
    exact (h.config agrees.registry (hs source rfl)).bind fun config _ =>
      .liftExcept (outcome_client config env.registry)

theorem runQuery {q : Query Value} (hq : R.query q) {calls : Chain} (hc : R.chain calls) :
    R.Reports (ev.runQuery q calls) (ev'.runQuery q calls) R.cursor :=
  Makes.finish (h.chain hc) (cursor_origin hq)

end Evaluators

/-! ## Calls while a script runs -/

section

variable {outputs outputs' : SqlBuilder.Outputs} (same : R.Outputs outputs outputs')

include same

theorem reports_rawCall {c : RawCursor} (h : R.rawCursor c) (name : String) {a : Arguments} (ha : R.arguments a) :
    R.Reports (c.call outputs name a) (c.call outputs' name a) R.rawCursor := by
  have output (form : OutputForm) : R.Reports
      (do return { c with value := some (← outputs.statement form (.raw c.raw)) })
      (do return { c with value := some (← outputs'.statement form (.raw c.raw)) }) R.rawCursor :=
    (same form _ (value_raw.mpr h.raw)).bind fun _ hv => .pure { h with value := by rintro _ ⟨⟩; exact hv }
  unfold RawCursor.call
  dsimp only
  split
  · refine (Confined.liftExcept (outcome_valueCall _ _ ha)).bind fun w hw => .pure ⟨h.raw, ?_⟩
    rintro _ ⟨⟩
    exact hw
  · exact (Confined.liftExcept (outcome_bind ha _ _)).bind fun _ _ => output _
  · exact (Confined.liftExcept (outcome_none ha)).bind fun _ _ => output _
  · exact (Confined.liftExcept (outcome_rawCall h.raw ha _)).bind fun _ hr => .pure ⟨hr, h.value⟩

namespace Evaluators

variable {ev ev' : Evaluator} (h : R.Evaluators ev ev') {env env' : Environment} (closed : R.Closed env)
  (agrees : R.Agrees env env')

include h closed agrees

/-- A call on a query whose arguments refer to a region only. -/
theorem queryCall (name : String) (hm : R.method name) {a : Arguments} (ha : R.arguments a) :
    R.Makes R.cursor (queryCallWith env outputs ev name a) (queryCallWith env' outputs' ev' name a)
      fun _ => True := by
  unfold queryCallWith QueryCursor.call
  refine .get_bind fun m hc => ?_
  have stage := hc.stage
  split
  · exact (Confined.liftExcept (outcome_valueCall _ name ha)).bind fun _ hv =>
      Makes.edit fun _ hc => hc.moveTo hv
  next columns given =>
    rw [given] at stage
    exact makes_conflictCall stage name ha
  · refine (Makes.ofBuild (makes_onCurrent (builds_call name ha))).bind fun step hs => ?_
    cases step with
    | stay => exact .pure trivial
    | copy => exact Makes.edit fun c hc => { hc with copy := by rintro _ ⟨⟩; exact hc.current }
    | conflict columns => exact Makes.edit fun c hc => { hc with stage := hs }
    | value v => exact Makes.edit fun c hc => hc.moveTo hs
    | join chains j =>
      exact (Makes.ofLogged (h.onJoin hs.1 hs.2)).bind fun _ hj =>
        Makes.edit fun c hc => hc.replace (query_addJoin hc.current hj)
    | window chains w =>
      have window := h.onObject (fun _ name _ hw ha => outcome_windowCall hw ha name) hs.1 hs.2
      exact (Makes.ofLogged window).bind fun _ hw =>
        Makes.edit fun c hc => hc.replace (query_addWindow hc.current hw)
    | output form =>
      exact .get_bind fun m hc => (Makes.ofLogged (same form _ (value_query.mpr hc.current))).bind fun _ hv =>
        Makes.edit fun c hc => hc.moveTo hv
    | unknown =>
      dsimp only
      rw [agrees.method name hm]
      cases found : env.extensions.lookup name with
      | none => exact .throw (error_of_ne nofun)
      | some calls => exact h.extension (closed.method name calls found hm) ha

/-- The evaluation of a term that refers to a region only. -/
theorem evaluate {t : Term} (ht : R.term t) :
    R.Reports (evaluateWith env outputs ev t) (evaluateWith env' outputs' ev' t) R.value := by
  have parts := holds_iff.mp ht
  have terms {ts : List Term} (hs : ∀ t ∈ ts, R.term t) :
      R.Reports (ts.mapM ev.term) (ts.mapM ev'.term) fun vs => ∀ v ∈ vs, R.value v :=
    Confined.mapM fun t hm => h.term t (hs t hm)
  have raw {r : Raw Value} (hr : R.raw r) {calls : Chain} (hc : R.chain calls) : R.Reports
      (do return (← ev.onBuilder (RawCursor.call outputs) calls { raw := r }).result)
      (do return (← ev'.onBuilder (RawCursor.call outputs') calls { raw := r }).result) R.value :=
    have start : R.rawCursor { raw := r } := ⟨hr, by simp⟩
    (h.onBuilder (fun _ name _ hI _ ha => reports_rawCall same hI name ha) hc start).bind fun _ hd =>
      .pure (value_getD hd.value (value_raw.mpr hd.raw))
  cases t with
  | scalar s => exact .pure (value_scalar s)
  | list items => exact (terms parts).bind fun _ hv => .pure (value_list.mpr hv)
  | tuple items => exact (terms parts).bind fun _ hv => .pure (value_tuple.mpr hv)
  | set items =>
    exact (terms parts).bind fun _ hv =>
      .ite (fun _ => .pure (value_set.mpr (value_distinct hv))) fun _ => .throw error_wrongType
  | map entries =>
    have each : R.Reports (entries.mapM fun e => do return (← ev.term e.1, ← ev.term e.2))
        (entries.mapM fun e => do return (← ev'.term e.1, ← ev'.term e.2))
        fun es => ∀ e ∈ es, R.value e.1 ∧ R.value e.2 :=
      Confined.mapM fun e hm => (h.term e.1 (parts e hm).1).bind fun _ hk =>
        (h.term e.2 (parts e hm).2).bind fun _ hv => .pure ⟨hk, hv⟩
    exact each.bind fun _ he =>
      .ite (fun _ => .pure (value_map.mpr (value_mapping he))) fun _ => .throw error_wrongType
  | callback chains => exact .pure (value_callback.mpr parts)
  | query source table calls =>
    refine (h.client agrees parts.1).bind fun client _ => ?_
    have fresh : R.query (Query.ofClient client) := query_ofClient client
    cases table with
    | none => exact (h.runQuery fresh parts.2.2).bind fun _ hd => .pure hd.result
    | some table =>
      exact (h.term table (parts.2.1 table rfl)).bind fun _ hv =>
        (h.runQuery (query_from fresh hv) parts.2.2).bind fun _ hd => .pure hd.result
  | raw sql bindings detached calls =>
    unfold evaluateWith
    rw [agrees.client]
    refine (h.term sql parts.1).bind fun sql hs => ?_
    have ends {bindings : Value} (hb : R.value bindings) := raw (r := if detached then
        { Raw.ofValue env.client sql bindings with client := none } else Raw.ofValue env.client sql bindings)
      (raw_detached detached hs hb) parts.2.2
    cases bindings with
    | none => exact ends (value_scalar .null)
    | some bindings => exact (h.term bindings (parts.2.1 bindings rfl)).bind fun _ hb => ends hb
  | reference name calls =>
    unfold evaluateWith
    rw [agrees.client]
    exact (h.term name parts.1).bind fun _ hv => raw (raw_ofReference hv) parts.2
  | now precision =>
    unfold evaluateWith
    rw [agrees.client]
    exact (h.term precision parts).bind fun _ _ => .pure (value_ofValue _ (value_scalar _) (value_scalar _))
  | schema calls => exact parts.elim
  | compiled sql bindings timeout cancel =>
    exact (h.term sql parts.1).bind fun _ _ => (terms parts.2.1).bind fun _ _ =>
      (Confined.optionMapM fun t hm => h.term t (parts.2.2.1 t hm)).bind fun _ _ =>
        (Confined.optionMapM fun t hm => h.term t (parts.2.2.2 t hm)).bind fun _ _ => .pure (value_compiled _)
  | variable_ name =>
    change R.Reports (liftExcept (env.lookup name)) (liftExcept (env'.lookup name)) R.value
    unfold Environment.lookup
    rw [agrees.name name parts]
    refine Confined.liftExcept ?_
    split
    next found => exact closed.name name _ found parts
    · exact error_fault _

end Evaluators

/-- The evaluators of two stores that agree in a closed region do the same there. -/
theorem evaluators {env env' : Environment} (closed : R.Closed env) (agrees : R.Agrees env env') (n : Nat) :
    R.Evaluators (evaluator env outputs n) (evaluator env' outputs' n) := by
  induction n with
  | zero => exact ⟨fun _ _ => .throw (error_fault _), fun _ _ _ _ => .throw (error_fault _)⟩
  | succ n ih =>
    exact ⟨fun _ ht => ih.evaluate same closed agrees ht,
      fun name _ hm ha => ih.queryCall same closed agrees name hm ha⟩

end

end Region

end SqlBuilder
