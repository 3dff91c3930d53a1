import SqlBuilder.Proofs.Confined

/-!
# Operands that are confined to a region

The rendering of names and operands in two stores that agree in a region. What an operand refers to lies in the
region, so it is found in both stores; and the values that its rendering binds lie in the region again.

* `Region.View`: the scope of a rendering in one store, with its counterpart in the other.
* `View.wrapString`, `View.aliasName`: names and aliases.
* `View.unwrap`, `View.subquery`: nested queries and raw expressions.
* `View.wrapOperand`, `View.argument`, `View.values`: operands in the place of identifiers and of values.
* `View.operator`, `View.direction`: words.
-/

namespace SqlBuilder

/-- The texts of values are the same in both stores. -/
abbrev Region.Prints (R : Region) (texts texts' : Value → Compile String) : Prop :=
  ∀ v, R.value v → R.Renders (texts v) (texts' v) fun _ => True

/-- The scope of a rendering in one store, beside its counterpart in another one: the stores agree in the
region, and so do the renderings of what is nested one level down, where it lies in the region. -/
structure Region.View (R : Region) where
  scope : Scope
  /-- the other store -/
  env : Environment
  /-- the renderings of what is nested, in the other store -/
  nested : Nested
  closed : R.Closed scope.env
  object : ∀ id, R.object id → env.objects[id]? = scope.env.objects[id]?
  context : ∀ v ∈ scope.context, R.value v
  query : ∀ client context method q, (∀ v ∈ context, R.value v) → R.query q →
    R.Renders (scope.nested.query client context method q) (nested.query client context method q) R.rendered
  raw : ∀ client context r, (∀ v ∈ context, R.value v) → R.raw r →
    R.Renders (scope.nested.raw client context r) (nested.raw client context r) R.operand
  conditions : ∀ client context clause cs, (∀ v ∈ context, R.value v) →
    (∀ c ∈ cs, Condition.Of (.operands R.value) c) →
      R.Renders (scope.nested.conditions client context clause cs) (nested.conditions client context clause cs) R.sql
  display : R.Prints scope.nested.printers.display nested.printers.display
  callback : ∀ chains : List Chain, (∀ calls ∈ chains, R.chain calls) →
    R.Reports (scope.evaluator.onQuery chains (Query.ofClient scope.client))
      (({ scope with env, nested } : Scope).evaluator.onQuery chains (Query.ofClient scope.client)) R.query
  join : ∀ chains : List Chain, (∀ calls ∈ chains, R.chain calls) →
    R.Reports (scope.evaluator.onObject Join.call chains { table := .null })
      (({ scope with env, nested } : Scope).evaluator.onObject Join.call chains { table := .null })
      (Join.Of (.operands R.value))

namespace Region.View

variable {R : Region} (V : R.View)

/-- The scope of the rendering in the other store. -/
def other : Scope :=
  { V.scope with env := V.env, nested := V.nested }

/-! ## Names -/

theorem displayed {v : Value} (h : R.value v) :
    R.Renders (V.scope.display v) (V.other.display v) fun _ => True := by
  unfold Scope.display
  exact .ite (fun _ => V.display v h) fun _ => .pure trivial

theorem spell {operand : Operand} (h : R.operand operand) :
    R.Renders (V.scope.spell operand) (V.other.spell operand) R.sql := by
  cases operand with
  | sql sql => exact .pure h
  | object v => exact (V.displayed h).bind fun _ _ => .pure (sql_raw _)

theorem delimited (segment : String) :
    R.Renders (V.scope.delimited segment) (V.other.delimited segment) R.sql := by
  unfold Scope.delimited
  exact .ite (fun _ => .pure (sql_name _ _)) fun _ => .throw error_wrongType

theorem identifier (segment : String) :
    R.Renders (V.scope.identifier segment) (V.other.identifier segment) R.sql := by
  have client : V.other.client = V.scope.client := rfl
  have context : V.other.context = V.scope.context := rfl
  unfold Scope.identifier
  rw [client, context]
  split
  · exact V.delimited _
  · exact V.delimited _
  · exact .ite (fun _ => .pure (sql_raw _)) fun _ => V.delimited _
  · exact .pure (sql_raw _)
  · split
    · exact V.delimited _
    next context given => exact (V.displayed (V.context context given)).bind fun _ _ => V.delimited _
  · exact .throw error_wrongType

theorem segment (cs : List Char) : R.Renders (V.scope.segment cs) (V.other.segment cs) R.sql :=
  V.identifier _

theorem segmentOf (v : Value) : R.Renders (V.scope.segmentOf v) (V.other.segmentOf v) R.operand := by
  have client : V.other.client = V.scope.client := rfl
  unfold Scope.segmentOf
  rw [client]
  split
  · exact (V.segment _).bind fun _ h => .pure h
  · refine .ite (fun _ => (V.segment _).bind fun _ h => .pure h) fun _ => ?_
    exact .ite (fun _ => .pure (value_scalar _)) fun _ => .throw error_wrongType
  · exact .ite (fun _ => .throw (error_missing _ _)) fun _ => (V.segment _).bind fun _ h => .pure h

theorem aliasName (v : Value) : R.Renders (V.scope.aliasName v) (V.other.aliasName v) R.sql :=
  (V.segmentOf v).bind fun _ => V.spell

theorem nameText (v : Value) : R.Renders (Scope.nameText v) (Scope.nameText v) fun _ => True := by
  unfold Scope.nameText
  split
  · exact .pure trivial
  · exact .throw error_wrongType
  · exact .throw (error_missing _ _)

theorem sql_aliased {expression asName : Sql} :
    R.sql (V.scope.aliased expression asName) ↔ R.sql expression ∧ R.sql asName := by
  simp [Scope.aliased]

theorem wrapFrom (fuel : Nat) (cs : List Char) :
    R.Renders (V.scope.wrapFrom fuel cs) (V.other.wrapFrom fuel cs) R.sql := by
  induction fuel generalizing cs with
  | zero => exact .throw (error_fault _)
  | succ fuel ih =>
    unfold Scope.wrapFrom
    split
    · refine (ih _).bind fun expression hx => (V.segment _).bind fun asName ha => .pure ?_
      exact V.sql_aliased.mpr ⟨hx, ha⟩
    · split
      · refine (ih _).bind fun head hh => (Confined.mapM fun cs _ => V.segment cs).bind fun rest hr => .pure ?_
        simpa using ⟨hh, hr⟩
      · exact (Confined.mapM fun cs _ => V.segment cs).bind fun parts hp => .pure ((sql_joined _ _).mpr hp)

theorem wrapString (name : String) :
    R.Renders (V.scope.wrapString name) (V.other.wrapString name) R.sql :=
  V.wrapFrom _ _

theorem inSchema {schema : Option Value} (h : ∀ v ∈ schema, R.value v) (name : String) :
    R.Renders (V.scope.inSchema schema name) (V.other.inSchema schema name) fun _ => True := by
  unfold Scope.inSchema
  split
  next schema =>
    exact .ite (fun _ => (V.displayed (h schema rfl)).bind fun _ _ => .pure trivial) fun _ => .pure trivial
  · exact .pure trivial

/-! ## Nested queries -/

theorem bound {v : Value} (h : R.value v) : R.Renders (Scope.bind v) (Scope.bind v) R.sql :=
  (Renders.bindAll _).bind fun _ _ => .pure (by simpa [sql, Sql.bindings, Piece.binding?] using h)

theorem nestedQuery {q : Query Value} (h : R.query q) :
    R.Renders (V.scope.nestedQuery q) (V.other.nestedQuery q) R.rendered :=
  (Renders.own (V.query _ none none q nofun h)).bind fun _ hr => (Renders.bindAll _).bind fun _ _ => .pure hr

theorem nestedRaw {r : Raw Value} (h : R.raw r) :
    R.Renders (V.scope.nestedRaw r) (V.other.nestedRaw r) R.operand := by
  refine (Renders.own (V.raw _ _ r V.context h)).bind fun operand ho => ?_
  cases operand with
  | sql sql => exact (Renders.bindAll _).bind fun _ _ => .pure ho
  | object v => exact .pure ho

theorem outputQuery {r : Rendered} (h : R.rendered r) (isParameter : Bool) (asName : Option Value) :
    R.Renders (V.scope.outputQuery r isParameter asName) (V.other.outputQuery r isParameter asName) R.sql := by
  unfold Scope.outputQuery
  refine .ite (fun _ => ?_) fun _ => .pure h.sql
  split
  · exact .pure (sql_parens.mpr h.sql)
  · exact (nameText _).bind fun _ _ => (V.wrapString _).bind fun _ ha =>
      .pure (V.sql_aliased.mpr ⟨sql_parens.mpr h.sql, ha⟩)

theorem callbackQuery {chains : List Chain} (h : ∀ calls ∈ chains, R.chain calls) :
    R.Renders (V.scope.callbackQuery chains) (V.other.callbackQuery chains) R.query :=
  Renders.ofLogged (V.callback chains h)

theorem compileCallback {chains : List Chain} (h : ∀ calls ∈ chains, R.chain calls) :
    R.Renders (V.scope.compileCallback chains) (V.other.compileCallback chains) R.rendered :=
  (V.callbackQuery h).bind fun _ => V.query _ _ _ _ V.context

theorem query?_eq {v : Value} (h : R.value v) :
    V.other.env.query? v = V.scope.env.query? v ∧ ∀ q, V.scope.env.query? v = some q → R.query q :=
  V.closed.query? V.object h

theorem raw?_eq {v : Value} (h : R.value v) :
    V.other.env.raw? v = V.scope.env.raw? v ∧ ∀ r, V.scope.env.raw? v = some r → R.raw r :=
  V.closed.raw? V.object h

theorem unwrap {v : Value} (h : R.value v) (isParameter : Bool) :
    R.Renders (V.scope.unwrap v isParameter) (V.other.unwrap v isParameter) fun o => ∀ x ∈ o, R.operand x := by
  obtain ⟨query, queries⟩ := V.query?_eq h
  obtain ⟨raw, raws⟩ := V.raw?_eq h
  unfold Scope.unwrap
  rw [query, raw]
  split
  next q found =>
    refine (V.nestedQuery (queries q found)).bind fun _ hr => (V.outputQuery hr _ _).bind fun _ ha => .pure ?_
    simpa using ha
  · split
    next r found => exact (V.nestedRaw (raws r found)).bind fun _ ho => .pure (by simpa using ho)
    · exact .pure (by simp)

theorem unwrapPresent {v : Value} (h : R.value v) :
    R.Renders (V.scope.unwrapPresent v) (V.other.unwrapPresent v) fun o => ∀ x ∈ o, R.operand x := by
  refine (V.unwrap h false).bind fun operand ho => ?_
  split
  · exact .pure nofun
  · exact .pure ho

theorem operand_orNothing {operand : Operand} (h : R.operand operand) : R.operand operand.orNothing := by
  cases operand with
  | sql sql => exact h
  | object v =>
    unfold Operand.orNothing
    dsimp only
    split
    · exact h
    · exact sql_nil

theorem unwrapOrNothing {v : Value} (h : R.value v) :
    R.Renders (V.scope.unwrapOrNothing v) (V.other.unwrapOrNothing v) R.operand := by
  refine (V.unwrap h false).bind fun operand ho => .pure (operand_orNothing ?_)
  cases operand with
  | none => exact sql_nil
  | some operand => exact ho operand rfl

theorem rawOrCallback {v : Value} (h : R.value v) :
    R.Renders (V.scope.rawOrCallback v) (V.other.rawOrCallback v) R.operand := by
  unfold Scope.rawOrCallback
  split
  · exact (V.compileCallback (value_callback.mp h)).bind fun _ hr => (V.outputQuery hr _ _).bind fun _ ha => .pure ha
  · exact V.unwrapOrNothing h

theorem subquery {v : Value} (h : R.value v) : R.Renders (V.scope.subquery v) (V.other.subquery v) R.sql :=
  (V.rawOrCallback h).bind fun _ => V.spell

/-! ## Identifiers -/

theorem wrapOther {v : Value} (callback : v.isCallback = false) (map : v.entries? = none)
    (scalar : v.scalar? = none) (h : R.value v) :
    R.Renders (V.scope.wrapOperand v) (V.other.wrapOperand v) R.operand := by
  rw [Scope.wrapOperand_eq _ callback map scalar, Scope.wrapOperand_eq _ callback map scalar]
  refine (V.unwrapPresent h).bind fun operand ho => ?_
  cases operand with
  | some operand => exact .pure (ho operand rfl)
  | none => exact (V.displayed h).bind fun _ _ => (V.wrapString _).bind fun _ ha => .pure ha

/-- What precedes the operands of a mapping, and what follows. -/
theorem sql_entry {atStart : Bool} {a b : Sql} (ha : R.sql a) (hb : R.sql b) :
    R.sql ((if atStart then [] else Sql.word ", ") ++ a ++ b) := by
  cases atStart <;> simp [ha, hb]

/-- An entry of a mapping from aliases that is neither a callback nor a mapping. -/
theorem entry {asName target : Value} {entries : List (Value × Value)} (callback : target.isCallback = false)
    (map : target.entries? = none) (h : R.value target)
    (own : R.Renders (V.scope.wrapOperand target) (V.other.wrapOperand target) R.operand)
    (rest : R.Renders (V.scope.wrapEntries false entries) (V.other.wrapEntries false entries) R.sql)
    (atStart : Bool) :
    R.Renders (V.scope.wrapEntries atStart ((asName, target) :: entries))
      (V.other.wrapEntries atStart ((asName, target) :: entries)) R.sql := by
  obtain ⟨same, queries⟩ := V.query?_eq h
  cases query : V.scope.env.query? target with
  | some q =>
    rw [Scope.wrapEntries_query _ callback map query, Scope.wrapEntries_query _ callback map (same.trans query)]
    refine (V.nestedQuery (queries q query)).bind fun _ hr => (V.outputQuery hr _ _).bind fun _ ha => ?_
    exact rest.bind fun _ hb => .pure (sql_entry ha hb)
  | none =>
    rw [Scope.wrapEntries_eq _ callback map query, Scope.wrapEntries_eq _ callback map (same.trans query)]
    refine (own.bind fun _ => V.spell).bind fun _ ha => (V.aliasName asName).bind fun _ hn => ?_
    exact (Confined.pure (V.sql_aliased.mpr ⟨ha, hn⟩)).bind fun _ ha =>
      rest.bind fun _ hb => .pure (sql_entry ha hb)

mutual

theorem wrapOperand : ∀ v : Value, R.value v → R.Renders (V.scope.wrapOperand v) (V.other.wrapOperand v) R.operand
  | .callback chains, h => by
    simp only [Scope.wrapOperand]
    exact (V.compileCallback (value_callback.mp h)).bind fun _ hr => (V.outputQuery hr _ _).bind fun _ ha => .pure ha
  | .map entries, h => by
    simp only [Scope.wrapOperand]
    exact (wrapEntries true entries (value_map.mp h)).bind fun _ ha => .pure ha
  | .scalar t, _ => by
    unfold Scope.wrapOperand
    split
    · exact .pure (sql_number _)
    · exact .pure (sql_number _)
    · exact (V.wrapString _).bind fun _ ha => .pure ha
  | .list _, h | .tuple _, h | .set _, h | .query _, h | .raw _, h | .shared _, h | .schema _, h | .compiled _, h
  | .conflict _ _, h | .other _ _, h => V.wrapOther rfl rfl rfl h

theorem wrapEntries (atStart : Bool) : ∀ entries : List (Value × Value),
    (∀ e ∈ entries, R.value e.1 ∧ R.value e.2) →
      R.Renders (V.scope.wrapEntries atStart entries) (V.other.wrapEntries atStart entries) R.sql
  | [], _ => by
    simp only [Scope.wrapEntries]
    exact .pure sql_nil
  | (asName, .callback chains) :: entries, h => by
    have own := value_callback.mp (h _ (.head _)).2
    have rest := wrapEntries false entries fun e he => h e (.tail _ he)
    simp only [Scope.wrapEntries]
    refine (V.compileCallback own).bind fun _ hr => (V.outputQuery hr _ _).bind fun _ ha => ?_
    exact rest.bind fun _ hb => .pure (sql_entry ha hb)
  | (asName, .map inner) :: entries, h => by
    have own := wrapEntries true inner (value_map.mp (h _ (.head _)).2)
    have rest := wrapEntries false entries fun e he => h e (.tail _ he)
    simp only [Scope.wrapEntries]
    refine own.bind fun _ ha => (V.aliasName asName).bind fun _ hn => ?_
    refine (Confined.pure (V.sql_aliased.mpr ⟨ha, hn⟩)).bind fun _ ha => ?_
    exact rest.bind fun _ hb => .pure (sql_entry ha hb)
  | (asName, .scalar s) :: entries, h =>
    V.entry rfl rfl (h _ (.head _)).2 (wrapOperand (.scalar s) (h _ (.head _)).2)
      (wrapEntries false entries fun e he => h e (.tail _ he)) atStart
  | (asName, .list _) :: entries, h | (asName, .tuple _) :: entries, h | (asName, .set _) :: entries, h
  | (asName, .query _) :: entries, h | (asName, .raw _) :: entries, h | (asName, .shared _) :: entries, h
  | (asName, .schema _) :: entries, h | (asName, .compiled _) :: entries, h | (asName, .conflict _ _) :: entries, h
  | (asName, .other _ _) :: entries, h =>
    V.entry rfl rfl (h _ (.head _)).2 (V.wrapOther rfl rfl rfl (h _ (.head _)).2)
      (wrapEntries false entries fun e he => h e (.tail _ he)) atStart

end

theorem wrap {v : Value} (h : R.value v) : R.Renders (V.scope.wrap v) (V.other.wrap v) R.sql :=
  (V.wrapOperand v h).bind fun _ => V.spell

theorem textual {operand : Operand} (h : R.operand operand) : R.Renders operand.textual operand.textual R.sql := by
  cases operand with
  | sql sql => exact .pure h
  | object v => exact .throw error_wrongType

/-- Operands that have to be texts. -/
theorem textuals {operands : List Operand} (h : ∀ o ∈ operands, R.operand o) :
    R.Renders (operands.mapM Operand.textual) (operands.mapM Operand.textual) fun parts => ∀ p ∈ parts, R.sql p :=
  Confined.mapM fun o ho => textual (h o ho)

theorem columnizeAll {columns : List Value} (h : ∀ v ∈ columns, R.value v) :
    R.Renders (V.scope.columnizeAll columns) (V.other.columnizeAll columns) R.sql :=
  (Confined.mapM fun v hv => V.wrapOperand v (h v hv)).bind fun _ ho =>
    (textuals ho).bind fun _ hp => .pure ((sql_commas _).mpr hp)

theorem value_columnList {v : Value} (h : R.value v) : ∀ w ∈ v.columnList, R.value w := by
  cases v with
  | list items => exact value_list.mp h
  | tuple items => exact value_tuple.mp h
  | _ =>
    intro w hw
    cases List.mem_singleton.mp hw
    exact h

theorem columnize {columns : Value} (h : R.value columns) :
    R.Renders (V.scope.columnize columns) (V.other.columnize columns) R.sql :=
  V.columnizeAll (value_columnList h)

/-! ## Values -/

theorem argument {v : Value} (h : R.value v) : R.Renders (V.scope.argument v) (V.other.argument v) R.operand := by
  cases callback : v.isCallback with
  | true =>
    cases v with
    | callback chains =>
      exact (V.compileCallback (value_callback.mp h)).bind fun _ hr => (V.outputQuery hr _ _).bind fun _ ha => .pure ha
    | _ => cases callback
  | false =>
    rw [Scope.argument_eq _ callback, Scope.argument_eq _ callback]
    refine (V.unwrap h true).bind fun operand ho => ?_
    unfold Scope.argumentOf
    split
    · exact .pure (sql_word _)
    · exact .pure (ho _ rfl)
    · exact (bound h).bind fun _ ha => .pure ha

theorem parameter {v : Value} (h : R.value v) : R.Renders (V.scope.parameter v) (V.other.parameter v) R.sql :=
  (V.argument h).bind fun _ => V.spell

end Region.View

/-! ## Documents -/

namespace Value

variable {R : Region} {texts texts' : Value → Compile String}

mutual

/-- The document of a value is the same in both stores if the texts are of what JSON has no form for. -/
theorem json_confined (h : R.Prints texts texts') :
    ∀ v : Value, R.value v → R.Renders (v.json texts) (v.json texts') fun _ => True
  | .scalar s, hv => by
    unfold Value.json
    split
    · exact .pure trivial
    · exact (h _ hv).bind fun _ _ => .pure trivial
  | .list items, hv | .tuple items, hv => by
    unfold Value.json
    exact (jsonAll_confined h items (Region.holds_iff.mp hv)).bind fun _ _ => .pure trivial
  | .map entries, hv => by
    unfold Value.json
    exact (jsonEntries_confined h entries (Region.value_map.mp hv)).bind fun _ _ => .pure trivial
  | .set _, hv | .callback _, hv | .query _, hv | .raw _, hv | .shared _, hv | .schema _, hv | .compiled _, hv
  | .conflict _ _, hv | .other _ _, hv => by
    unfold Value.json
    exact (h _ hv).bind fun _ _ => .pure trivial

theorem jsonAll_confined (h : R.Prints texts texts') : ∀ items : List Value, (∀ v ∈ items, R.value v) →
    R.Renders (jsonAll texts items) (jsonAll texts' items) fun _ => True
  | [], _ => .pure trivial
  | v :: vs, hv => by
    unfold Value.jsonAll
    exact (json_confined h v (hv v (.head _))).bind fun _ _ =>
      (jsonAll_confined h vs fun w hw => hv w (.tail _ hw)).bind fun _ _ => .pure trivial

theorem jsonEntries_confined (h : R.Prints texts texts') :
    ∀ entries : List (Value × Value), (∀ e ∈ entries, R.value e.1 ∧ R.value e.2) →
      R.Renders (jsonEntries texts entries) (jsonEntries texts' entries) fun _ => True
  | [], _ => .pure trivial
  | (k, v) :: entries, hv => by
    unfold Value.jsonEntries
    split
    · exact .throw Region.error_wrongType
    · exact (json_confined h v (hv _ (.head _)).2).bind fun _ _ =>
        (jsonEntries_confined h entries fun e he => hv e (.tail _ he)).bind fun _ _ => .pure trivial

end

end Value

namespace Region.View

variable {R : Region} (V : R.View)

theorem storable {v : Value} (h : R.value v) : R.Renders (V.scope.storable v) (V.other.storable v) R.value := by
  have text : R.Renders (do return .str (← v.json V.scope.nested.printers.display))
      (do return .str (← v.json V.other.nested.printers.display)) R.value :=
    (Value.json_confined V.display v h).bind fun _ _ => .pure (value_scalar _)
  unfold Scope.storable
  split
  · exact .ite (fun _ => .pure h) fun _ => text
  · exact .ite (fun _ => .pure h) fun _ => text
  · exact .ite (fun _ => .pure h) fun _ => text
  · exact .pure h

theorem stored {v : Value} (h : R.value v) : R.Renders (V.scope.stored v) (V.other.stored v) R.operand :=
  (V.storable h).bind fun _ => V.argument

theorem parameterizeAll {values : List Value} (h : ∀ v ∈ values, R.value v) :
    R.Renders (V.scope.parameterizeAll values) (V.other.parameterizeAll values) R.sql :=
  (Confined.mapM fun v hv => V.stored (h v hv)).bind fun _ ho =>
    (textuals ho).bind fun _ hp => .pure ((sql_commas _).mpr hp)

theorem outcome_items {v : Value} (h : R.value v) : R.Outcome (fun items => ∀ w ∈ items, R.value w) v.items := by
  cases v with
  | list items => exact value_list.mp h
  | tuple items => exact value_tuple.mp h
  | set items => exact value_set.mp h
  | map entries =>
    intro w hw
    obtain ⟨e, he, rfl⟩ := List.mem_map.mp hw
    exact (value_map.mp h e he).1
  | scalar s =>
    cases s with
    | str s =>
      intro w hw
      obtain ⟨c, -, rfl⟩ := List.mem_map.mp hw
      exact value_scalar _
    | bytes bs =>
      intro w hw
      obtain ⟨b, -, rfl⟩ := List.mem_map.mp hw
      exact value_scalar _
    | _ => exact error_wrongType
  | _ => exact error_wrongType

theorem row {v : Value} (h : R.value v) : R.Renders (V.scope.row v) (V.other.row v) R.sql :=
  (Renders.liftCompile (outcome_items h)).bind fun _ hi =>
    (V.parameterizeAll hi).bind fun _ ha => .pure (sql_parens.mpr ha)

theorem value_sequence {v : Value} {items : List Value} (h : R.value v) (sequence : v.sequence? = some items) :
    ∀ w ∈ items, R.value w := by
  cases v with
  | list items => cases sequence; exact value_list.mp h
  | tuple items => cases sequence; exact value_tuple.mp h
  | _ => cases sequence

theorem values {v : Value} (h : R.value v) : R.Renders (V.scope.values v) (V.other.values v) R.sql := by
  unfold Scope.values
  split
  next first rest sequence =>
    have items := value_sequence h sequence
    refine .ite (fun _ => ?_) fun _ => (V.parameterizeAll items).bind fun _ ha => .pure (sql_parens.mpr ha)
    exact (Confined.mapM fun w hw => V.row (items w hw)).bind fun _ hp =>
      .pure (sql_parens.mpr ((sql_commas _).mpr hp))
  · exact .pure (sql_parens.mpr sql_nil)
  · exact .ite (fun _ => (V.parameter h).bind fun _ ha => .pure (sql_parens.mpr ha)) fun _ => V.parameter h

/-! ## Words -/

theorem wordText {v : Value} (h : R.value v) :
    R.Renders (V.scope.wordText v) (V.other.wordText v) fun _ => True := by
  unfold Scope.wordText
  exact .ite (fun _ => (V.displayed h).bind fun _ _ => .pure trivial) fun _ => .pure trivial

theorem operator {v : Value} (h : R.value v) : R.Renders (V.scope.operator v) (V.other.operator v) R.sql := by
  refine Confined.bind (P := R.operand) ((V.unwrapPresent h).bind fun operand ho => ?_) fun _ => V.spell
  cases operand with
  | some operand => exact .pure (ho operand rfl)
  | none =>
    refine (V.wordText h).bind fun token _ => .ite (fun _ => .pure (sql_word _)) fun _ => ?_
    exact (V.displayed h).bind fun _ _ => .throw (error_invalid _)

theorem direction {v : Value} (h : R.value v) : R.Renders (V.scope.direction v) (V.other.direction v) R.sql := by
  refine Confined.bind (P := R.operand) ((V.unwrapPresent h).bind fun operand ho => ?_) fun _ => V.spell
  cases operand with
  | some operand => exact .pure (ho operand rfl)
  | none => exact (V.wordText h).bind fun _ _ => .pure (sql_word _)

end Region.View

end SqlBuilder
