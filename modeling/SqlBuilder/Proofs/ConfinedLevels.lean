import SqlBuilder.Proofs.ConfinedScripts

/-!
# Compilations that are confined to a region

What refers to a closed region only is rendered alike in two stores that agree in the region, however deep it is
nested, by induction on the number of levels. So the compiled form of a query depends on nothing but what the
query can reach.

* `Region.Literals`: texts of values that are the same in both stores.
* `Region.Levels`: renderings of what is nested that are the same in both stores.
* `Region.View.of`: the scope of a rendering, a level above.
* `Region.levels`: the renderings of both stores, to any number of levels.
* `Query.compile_eq`: a query compiles alike in stores that agree in a region that it does not leave.
-/

namespace SqlBuilder

namespace Region

variable (R : Region)

/-- The texts of values, and the SQL that builders stand for, are the same in both stores. -/
structure Literals (printers printers' : Literal.Printers) : Prop where
  sql : ∀ v, R.value v → R.Renders (printers.sql v) (printers'.sql v) R.value
  display : R.Prints printers.display printers'.display

/-- What is nested one level down is rendered alike in both stores. -/
structure Levels (nested nested' : Nested) : Prop where
  query : ∀ client context method q, (∀ v ∈ context, R.value v) → R.query q →
    R.Renders (nested.query client context method q) (nested'.query client context method q) R.rendered
  raw : ∀ client context r, (∀ v ∈ context, R.value v) → R.raw r →
    R.Renders (nested.raw client context r) (nested'.raw client context r) R.operand
  conditions : ∀ client context clause cs, (∀ v ∈ context, R.value v) →
    (∀ c ∈ cs, Condition.Of (.operands R.value) c) →
      R.Renders (nested.conditions client context clause cs) (nested'.conditions client context clause cs) R.sql
  printers : R.Literals nested.printers nested'.printers
  outputs : R.Outputs nested.outputs nested'.outputs

variable {R}

/-! ## Literals -/

namespace Literals

variable {printers printers' : Literal.Printers}

theorem nested (h : R.Literals printers printers') {v : Value} (hv : R.value v) :
    R.Renders (Literal.nested printers v) (Literal.nested printers' v) fun _ => True := by
  refine (h.sql v hv).bind fun w _ => ?_
  split
  · exact .pure trivial
  · exact .throw error_wrongType

theorem object (h : R.Literals printers printers') (style : LiteralStyle) {v : Value} (hv : R.value v) :
    R.Renders (Literal.object style printers v) (Literal.object style printers' v) fun _ => True := by
  unfold Literal.object
  split
  · exact .pure trivial
  · exact .ite (fun _ => h.nested hv) fun _ =>
      (Value.json_confined h.display v hv).bind fun _ _ => .pure trivial

mutual

theorem braceItem (h : R.Literals printers printers') : ∀ v : Value, R.value v →
    R.Renders (Literal.braceItem printers v) (Literal.braceItem printers' v) fun _ => True
  | .scalar s, _ => by
    unfold Literal.braceItem
    exact .pure trivial
  | .list items, hv | .tuple items, hv => by
    unfold Literal.braceItem
    exact (braceItems h items (holds_iff.mp hv)).bind fun _ _ => .pure trivial
  | .map _, hv | .set _, hv | .callback _, hv | .query _, hv | .raw _, hv | .shared _, hv | .schema _, hv
  | .compiled _, hv | .conflict _ _, hv | .other _ _, hv => by
    unfold Literal.braceItem
    exact (h.display _ hv).bind fun _ _ => .pure trivial

theorem braceItems (h : R.Literals printers printers') : ∀ items : List Value, (∀ v ∈ items, R.value v) →
    R.Renders (Literal.braceItems printers items) (Literal.braceItems printers' items) fun _ => True
  | [], _ => by
    unfold Literal.braceItems
    exact .pure trivial
  | v :: vs, hv => by
    unfold Literal.braceItems
    exact (braceItem h v (hv v (.head _))).bind fun _ _ =>
      (braceItems h vs fun w hw => hv w (.tail _ hw)).bind fun _ _ => .pure trivial

end

theorem sequence (style : ArrayStyle) {a a' b b' c c' : Compile (List String)}
    (ha : R.Renders a a' fun _ => True) (hb : R.Renders b b' fun _ => True) (hc : R.Renders c c' fun _ => True) :
    R.Renders (Literal.sequence style a b c) (Literal.sequence style a' b' c') fun _ => True := by
  cases style with
  | items => exact ha.bind fun _ _ => .pure trivial
  | braces => exact hb.bind fun _ _ => .pure trivial
  | brackets => exact hc.bind fun _ _ => .pure trivial

theorem outcome_momentText (style : DateStyle) (zone : String) (m : Moment) :
    R.Outcome (fun _ => True) (Literal.momentText style zone m) := by
  unfold Literal.momentText Literal.clockReading
  split
  · split
    · trivial
    · dsimp only
      split
      · trivial
      · exact error_fault _
  · trivial

theorem scalar (style : LiteralStyle) (zone : String) (s : Scalar) :
    R.Renders (Literal.scalar style zone s) (Literal.scalar style zone s) fun _ => True := by
  cases s with
  | moment m =>
    have outcome := outcome_momentText (R := R) style.dates zone m
    unfold Literal.scalar
    dsimp only
    split
    · exact .pure trivial
    next e failed =>
      rw [failed] at outcome
      exact .throw outcome
  | _ => exact .pure trivial

mutual

theorem render (h : R.Literals printers printers') (style : LiteralStyle) (zone : String) :
    ∀ v : Value, R.value v →
      R.Renders (Literal.render style printers zone v) (Literal.render style printers' zone v) fun _ => True
  | .scalar s, _ => by
    unfold Literal.render
    exact scalar style zone s
  | .list items, hv | .tuple items, hv => by
    have held := holds_iff.mp hv
    unfold Literal.render
    exact sequence _ (listItems h style zone items held) (h.braceItems items held)
      (bracketItems h style zone items held)
  | .map _, hv | .set _, hv | .callback _, hv | .query _, hv | .raw _, hv | .shared _, hv | .schema _, hv
  | .compiled _, hv | .conflict _ _, hv | .other _ _, hv => by
    unfold Literal.render
    exact h.object style hv

theorem listItems (h : R.Literals printers printers') (style : LiteralStyle) (zone : String) :
    ∀ items : List Value, (∀ v ∈ items, R.value v) →
      R.Renders (Literal.listItems style printers zone items) (Literal.listItems style printers' zone items)
        fun _ => True
  | [], _ => by
    unfold Literal.listItems
    exact .pure trivial
  | .list items :: vs, hv | .tuple items :: vs, hv => by
    unfold Literal.listItems
    exact (listItems h style zone items (holds_iff.mp (hv _ (.head _)))).bind fun _ _ =>
      (listItems h style zone vs fun w hw => hv w (.tail _ hw)).bind fun _ _ => .pure trivial
  | .scalar _ :: vs, hv | .map _ :: vs, hv | .set _ :: vs, hv | .callback _ :: vs, hv | .query _ :: vs, hv
  | .raw _ :: vs, hv | .shared _ :: vs, hv | .schema _ :: vs, hv | .compiled _ :: vs, hv
  | .conflict _ _ :: vs, hv | .other _ _ :: vs, hv => by
    unfold Literal.listItems
    exact (render h style zone _ (hv _ (.head _))).bind fun _ _ =>
      (listItems h style zone vs fun w hw => hv w (.tail _ hw)).bind fun _ _ => .pure trivial

theorem bracketItems (h : R.Literals printers printers') (style : LiteralStyle) (zone : String) :
    ∀ items : List Value, (∀ v ∈ items, R.value v) →
      R.Renders (Literal.bracketItems style printers zone items) (Literal.bracketItems style printers' zone items)
        fun _ => True
  | [], _ => by
    unfold Literal.bracketItems
    exact .pure trivial
  | v :: vs, hv => by
    unfold Literal.bracketItems
    exact (render h style zone v (hv v (.head _))).bind fun _ _ =>
      (bracketItems h style zone vs fun w hw => hv w (.tail _ hw)).bind fun _ _ => .pure trivial

end

variable (h : R.Literals printers printers')

include h

theorem result (style : LiteralStyle) (zone : String) {v : Value} (hv : R.value v) :
    R.Renders (Literal.result style printers zone v) (Literal.result style printers' zone v) R.value := by
  unfold Literal.result
  exact .ite (fun _ => h.sql v hv) fun _ => (h.render style zone v hv).bind fun _ _ => .pure (value_scalar _)

theorem forSlot (style : LiteralStyle) (zone : String) {v : Value} (hv : R.value v) :
    R.Renders (Literal.forSlot style printers zone v) (Literal.forSlot style printers' zone v) fun _ => True := by
  refine (h.result style zone hv).bind fun w _ => ?_
  split
  · exact .pure trivial
  · exact .pure trivial
  · exact .throw error_wrongType

theorem forSlots (style : LiteralStyle) (zone : String) (slots : Nat) {values : List Value}
    (hv : ∀ v ∈ values, R.value v) :
    R.Renders (Literal.forSlots style printers zone slots values)
      (Literal.forSlots style printers' zone slots values) fun _ => True := by
  induction slots generalizing values with
  | zero => exact .pure trivial
  | succ slots ih =>
    cases values with
    | nil => exact .pure trivial
    | cons v vs =>
      exact (h.forSlot style zone (hv v (.head _))).bind fun _ _ =>
        (ih fun w hw => hv w (.tail _ hw)).bind fun _ _ => .pure trivial

/-- A statement is written out alike. -/
theorem inline (style : LiteralStyle) (zone sql : String) {bindings : List Value}
    (hb : ∀ v ∈ bindings, R.value v) :
    R.Renders (Literal.inline style printers zone sql bindings) (Literal.inline style printers' zone sql bindings)
      fun _ => True :=
  (h.forSlots style zone _ hb).bind fun _ _ => .pure trivial

end Literals

/-! ## Levels -/

/-- The driver's form of a compiled statement has nothing to do with a store. -/
theorem native (client : Client Value) (c : Compiled Value) :
    R.Renders (client.native c) (client.native c) fun _ => True := by
  have ends (n : Native) : R.Renders (do
      if client.debug then
        report
          { event := "query.native"
            level := .debug
            fields :=
              [("dialect", .str client.dialectName), ("method", .str c.method), ("sql", .str n.sql),
               ("bindings", .list n.bindings)] }
      return n) _ fun _ => True :=
    .ite (fun _ => (Renders.report _).bind fun _ _ => .pure trivial) fun _ => .pure trivial
  have fault (v : Value) : R.error (client.nativeFault v) := by
    unfold Client.nativeFault
    split
    · exact error_wrongType
    · exact error_wrongType
    · exact error_wrongType
    · exact error_missing _ _
    · exact error_wrongType
  unfold Client.native
  cases c.object with
  | none => exact ends _
  | some v => exact (Confined.throw (P := fun _ => True) (fault v)).bind fun _ _ => ends _

theorem value_toValue {operand : Operand} (h : R.operand operand) : R.value operand.toValue := by
  cases operand with
  | sql sql => exact value_scalar _
  | object v => exact h

section

variable {env env' : Environment} {nested nested' : Nested} (h : R.Levels nested nested')

include h

theorem Levels.inlined (client : Client Value) (sql : String) {bindings : List Value}
    (hb : ∀ v ∈ bindings, R.value v) :
    R.Renders (nested.inlined client sql bindings) (nested'.inlined client sql bindings) fun _ => True :=
  h.printers.inline _ _ _ hb

theorem Levels.compiledQuery {q : Query Value} (hq : R.query q) :
    R.Renders (nested.compiledQuery q) (nested'.compiledQuery q) fun _ => True :=
  (h.query q.client none none q nofun hq).bind fun _ _ => .pure trivial

theorem Levels.compiledRaw {r : Raw Value} (hr : R.raw r) :
    R.Renders (nested.compiledRaw r) (nested'.compiledRaw r) fun _ => True := by
  unfold Nested.compiledRaw
  split
  · exact .throw (error_of_ne nofun)
  next client _ =>
    refine (h.raw client none r nofun hr).bind fun operand _ => ?_
    cases operand with
    | sql sql => exact .pure trivial
    | object v => exact .pure trivial

variable (closed : R.Closed env) (agrees : R.Agrees env env')

include closed agrees

theorem Levels.standing {v : Value} (hv : R.value v) :
    R.Renders (nested.standing env v) (nested'.standing env' v) fun r => R.operand r.2 := by
  obtain ⟨query, queries⟩ := closed.query? agrees.object hv
  obtain ⟨raw, raws⟩ := closed.raw? agrees.object hv
  unfold Nested.standing
  rw [query, raw]
  split
  next q found => exact (h.query q.client none none q nofun (queries q found)).bind fun _ hr => .pure hr.sql
  next r none_ found =>
    split
    next client _ => exact (h.raw client none r nofun (raws r found)).bind fun _ ho => .pure ho
    · exact .throw (error_of_ne nofun)
  · exact .throw error_noSuchMember

theorem Levels.display {v : Value} (hv : R.value v) :
    R.Renders (nested.display env v) (nested'.display env' v) fun _ => True := by
  unfold Nested.display
  split
  · exact (value_schema hv).elim
  · refine .ite (fun _ => (Renders.own ?_).ownColumns) fun _ => .pure trivial
    refine (h.standing closed agrees hv).bind fun r hr => ?_
    refine (View.textual hr).bind fun sql hs => h.inlined _ _ hs

theorem Levels.literals : R.Literals (nested.printersOn env) (nested'.printersOn env') where
  sql v hv := by
    refine Renders.own ?_
    split
    · exact (value_schema hv).elim
    · exact (h.standing closed agrees hv).bind fun _ hr => .pure (value_toValue hr)
  display v hv := h.display closed agrees hv

theorem Levels.onOutputs : R.Outputs (nested.outputsOn env) (nested'.outputsOn env') := by
  intro form v hv
  obtain ⟨query, queries⟩ := closed.query? agrees.object hv
  obtain ⟨raw, raws⟩ := closed.raw? agrees.object hv
  refine Renders.logged ?_
  cases form with
  | compiled =>
    dsimp only
    unfold Nested.compiledValue
    rw [query, raw]
    split
    next q found => exact (h.compiledQuery (queries q found)).bind fun _ _ => .pure (value_compiled _)
    next r none_ found => exact (h.compiledRaw (raws r found)).bind fun _ _ => .pure (value_compiled _)
    · exact .throw (error_missing _ _)
  | native =>
    dsimp only
    unfold Nested.nativeValue
    rw [query]
    refine Confined.bind (P := fun _ => True) ?_ fun _ _ => .pure (value_other _ _)
    split
    next q found => exact (h.compiledQuery (queries q found)).bind fun c _ => native q.client c
    · exact .throw (error_missing _ _)
  | text => exact (h.display closed agrees hv).bind fun _ _ => .pure (value_scalar _)

end

/-- A rendering one level above what is nested. -/
def View.of {env env' : Environment} {nested nested' : Nested} (closed : R.Closed env) (agrees : R.Agrees env env')
    (h : R.Levels nested nested') (client : Client Value) (context : Option Value)
    (hc : ∀ v ∈ context, R.value v) : R.View where
  scope := { env, client, context, nested }
  env := env'
  nested := nested'
  closed := closed
  object := agrees.object
  context := hc
  query := h.query
  raw := h.raw
  conditions := h.conditions
  display := h.printers.display
  callback _ hs := (evaluators h.outputs closed agrees _).onQuery hs (query_ofClient client)
  join _ hs := (evaluators h.outputs closed agrees _).onJoin hs
    { word := fun _ => trivial, table := value_scalar .null, schema := nofun, conditions := nofun }

/-- Renderings to any number of levels are the same in stores that agree in a closed region. -/
theorem levels {env env' : Environment} (closed : R.Closed env) (agrees : R.Agrees env env') (n : Nat) :
    R.Levels (.ofDepth env n) (.ofDepth env' n) := by
  induction n with
  | zero =>
    have deep : R.error (.fault .nestingTooDeep) := error_fault _
    exact ⟨fun _ _ _ _ _ _ => .throw deep, fun _ _ _ _ _ => .throw deep, fun _ _ _ _ _ _ => .throw deep,
      ⟨fun _ _ => .throw deep, fun _ _ => .throw deep⟩, fun _ _ _ => .throw deep⟩
  | succ n ih =>
    refine ⟨fun client context method q hc hq => ?_, fun client context r hc hr => ?_,
      fun client context clause cs hc hcs => ?_, ih.literals closed agrees, ih.onOutputs closed agrees⟩
    · have within : ∀ v ∈ context.or q.context, R.value v := by
        cases context with
        | none => exact hq.context
        | some context => exact hc
      exact (View.of closed agrees ih client _ within).statement _ hq.statement
    · exact (View.of closed agrees ih client context hc).rawExpression hr
    · exact (View.of closed agrees ih client context hc).allConditions clause hcs

end Region

/-- A query that does not leave a closed region compiles alike in stores that agree there. -/
theorem Query.compile_eq {R : Region} {env env' : Environment} {q : Query Value} (closed : R.Closed env)
    (agrees : R.Agrees env env') (held : R.query q) : q.compile env' = q.compile env := by
  have levels := Region.levels closed agrees nestingLimit
  refine (levels.compiledQuery held).tryCatch fun e inside => ?_
  unfold Environment.fail
  split
  next column =>
    have display := levels.display closed agrees (inside column rfl)
    unfold Environment.display Environment.nested
    rw [display.eq]
  · rfl

end SqlBuilder
