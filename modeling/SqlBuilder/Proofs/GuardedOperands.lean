import SqlBuilder.Proofs.Guarded
import SqlBuilder.Proofs.Operands
import SqlBuilder.Proofs.Unguarded

/-!
# Guarded operands

Names and operands beside the same ones without guards. Names are quiet; a nested query or raw expression
binds the values of its rendering; and an operand in the place of a value that contains an undefined one
binds it.

* `Guard`: a scope, and the renderings of what is nested one level down without guards.
* `Guard.free`: the scope without guards.
* `Guard.wrap`, `Guard.argument`: operands in the places of identifiers and of values.
-/

namespace SqlBuilder

/-! ## Names -/

namespace Scope

variable {s : Scope} (texts : ∀ v, Quiet (s.nested.printers.display v))

include texts

theorem display_quiet (v : Value) : Quiet (s.display v) := by
  unfold display
  split
  · exact texts v
  · exact .pure _

omit texts in
theorem delimited_quiet (segment : String) : Quiet (s.delimited segment) := by
  unfold delimited
  simp only
  split
  · exact .pure _
  · exact .throw _

theorem identifier_quiet (segment : String) : Quiet (s.identifier segment) := by
  unfold identifier
  split
  · exact delimited_quiet _
  · exact delimited_quiet _
  · split
    · exact .pure _
    · exact delimited_quiet _
  · exact .pure _
  · split
    · exact delimited_quiet _
    · exact (display_quiet texts _).bind fun _ => delimited_quiet _
  · exact .throw _

theorem segment_quiet (cs : List Char) : Quiet (s.segment cs) :=
  identifier_quiet texts _

theorem segmentOf_quiet (v : Value) : Quiet (s.segmentOf v) := by
  unfold segmentOf
  split
  · exact (segment_quiet texts _).bind fun _ => .pure _
  · split
    · exact (segment_quiet texts _).bind fun _ => .pure _
    · split
      · exact .pure _
      · exact .throw _
  · split
    · exact .throw _
    · exact (segment_quiet texts _).bind fun _ => .pure _

omit texts in
theorem nameText_quiet (v : Value) : Quiet (nameText v) := by
  unfold nameText
  split
  · exact .pure _
  · exact .throw _
  · exact .throw _

theorem wrapFrom_quiet (fuel : Nat) (cs : List Char) : Quiet (s.wrapFrom fuel cs) := by
  induction fuel generalizing cs with
  | zero => exact .throw _
  | succ fuel ih =>
    unfold wrapFrom
    split
    · exact (ih _).bind fun _ => (segment_quiet texts _).bind fun _ => .pure _
    · split
      · exact (ih _).bind fun _ => (Quiet.mapM fun _ _ => segment_quiet texts _).bind fun _ => .pure _
      · exact (Quiet.mapM fun _ _ => segment_quiet texts _).bind fun _ => .pure _

theorem wrapString_quiet (name : String) : Quiet (s.wrapString name) :=
  wrapFrom_quiet texts _ _

theorem inSchema_quiet (schema : Option Value) (name : String) : Quiet (s.inSchema schema name) := by
  unfold inSchema
  split
  · split
    · exact (display_quiet texts _).bind fun _ => .pure _
    · exact .pure _
  · exact .pure _

end Scope

/-! ## Documents -/

namespace Value

variable {texts : Value → Compile String}

mutual

theorem json_quiet (quiet : ∀ v, Quiet (texts v)) : ∀ v : Value, Quiet (v.json texts)
  | .scalar s => by
    unfold Value.json
    split
    · exact .pure _
    · exact (quiet _).bind fun _ => .pure _
  | .list items | .tuple items => by
    unfold Value.json
    exact (jsonAll_quiet quiet items).bind fun _ => .pure _
  | .map entries => by
    unfold Value.json
    exact (jsonEntries_quiet quiet entries).bind fun _ => .pure _
  | .set _ | .callback _ | .query _ | .raw _ | .shared _ | .schema _ | .compiled _ | .conflict _ _
  | .other _ _ => by
    unfold Value.json
    exact (quiet _).bind fun _ => .pure _

theorem jsonAll_quiet (quiet : ∀ v, Quiet (texts v)) : ∀ vs : List Value, Quiet (Value.jsonAll texts vs)
  | [] => .pure _
  | v :: vs => by
    unfold Value.jsonAll
    exact (json_quiet quiet v).bind fun _ => (jsonAll_quiet quiet vs).bind fun _ => .pure _

theorem jsonEntries_quiet (quiet : ∀ v, Quiet (texts v)) :
    ∀ entries : List (Value × Value), Quiet (Value.jsonEntries texts entries)
  | [] => .pure _
  | (k, v) :: entries => by
    unfold Value.jsonEntries
    split
    · exact .throw _
    · exact (json_quiet quiet v).bind fun _ => (jsonEntries_quiet quiet entries).bind fun _ => .pure _

end

end Value

/-! ## Steps on both sides -/

theorem Guarded.bound (v : Value) : Guarded (v.containsUndefined = true) (Scope.bind v) (Scope.bind v) :=
  ((Guarded.bindAll [v]).mono Undefined.single.mpr).bind_first fun _ => .pure _

theorem Guarded.textual (operand : Operand) : Guarded False operand.textual operand.textual := by
  cases operand with
  | sql sql => exact .pure _
  | object v => exact .throw_right _

theorem Guarded.textuals (operands : List Operand) :
    Guarded False (operands.mapM Operand.textual) (operands.mapM Operand.textual) :=
  .mapM_free fun operand _ => .textual operand

/-! ## Scopes -/

/-- A scope, and the renderings of what is nested one level down without guards. -/
structure Guard where
  scope : Scope
  freeQuery : Client Value → Option Value → Option Method → Query Value → Compile Rendered
  freeRaw : Client Value → Option Value → Raw Value → Compile Operand
  freeConditions : Client Value → Option Value → ConditionClause → List (Condition Value) → Compile Sql
  texts : ∀ v, Quiet (scope.nested.printers.display v)
  query_guarded : ∀ client context q,
    Guarded False (scope.nested.query client context none q) (freeQuery client context none q)
  query_yields : ∀ {client context q p r p'}, freeQuery client context none q p = .ok r p' →
    p'.bound = p.bound ++ r.sql.bindings
  raw_guarded : ∀ client context r, Guarded False (scope.nested.raw client context r) (freeRaw client context r)
  raw_yields : ∀ {client context r p operand p'}, freeRaw client context r p = .ok operand p' →
    p'.bound = p.bound ++ operand.bindings
  conditions_guarded : ∀ client context clause cs,
    Guarded False (scope.nested.conditions client context clause cs) (freeConditions client context clause cs)

namespace Guard

/-- The scope without guards. -/
def free (G : Guard) : Scope :=
  { G.scope with
    nested := { G.scope.nested with query := G.freeQuery, raw := G.freeRaw, conditions := G.freeConditions } }

variable (G : Guard)

theorem display (v : Value) : Guarded False (G.scope.display v) (G.free.display v) :=
  .same (Scope.display_quiet G.texts v)

theorem spell (operand : Operand) : Guarded False (G.scope.spell operand) (G.free.spell operand) := by
  cases operand with
  | sql sql => exact .pure _
  | object v => exact (G.display v).bind fun _ => .pure _

theorem segmentOf (v : Value) : Guarded False (G.scope.segmentOf v) (G.free.segmentOf v) :=
  .same (Scope.segmentOf_quiet G.texts v)

theorem aliasName (v : Value) : Guarded False (G.scope.aliasName v) (G.free.aliasName v) :=
  (G.segmentOf v).bind G.spell

theorem free_wrapFrom (fuel : Nat) (cs : List Char) : G.free.wrapFrom fuel cs = G.scope.wrapFrom fuel cs := by
  induction fuel generalizing cs with
  | zero => rfl
  | succ fuel ih =>
    simp only [Scope.wrapFrom, ih]
    rfl

theorem wrapString (name : String) : Guarded False (G.scope.wrapString name) (G.free.wrapString name) := by
  have same : G.free.wrapString name = G.scope.wrapString name := G.free_wrapFrom _ _
  rw [same]
  exact .same (Scope.wrapString_quiet G.texts name)

theorem inSchema (schema : Option Value) (name : String) :
    Guarded False (G.scope.inSchema schema name) (G.free.inSchema schema name) :=
  .same (Scope.inSchema_quiet G.texts schema name)

/-! ## Nested queries -/

theorem nestedQuery (q : Query Value) : Guarded False (G.scope.nestedQuery q) (G.free.nestedQuery q) :=
  .own (G.query_guarded _ _ q) (fun _ _ _ run => G.query_yields run) fun _ =>
    (Guarded.bindAll _).bind_first fun _ => .pure _

theorem nestedRaw (r : Raw Value) : Guarded False (G.scope.nestedRaw r) (G.free.nestedRaw r) := by
  refine .own (G.raw_guarded _ _ r) (fun _ _ _ run => G.raw_yields run) fun operand => ?_
  cases operand with
  | sql sql => exact (Guarded.bindAll _).bind_first fun _ => .pure _
  | object v => exact .of_not Undefined.not_nil (.pure _)

theorem outputQuery (r : Rendered) (isParameter : Bool) (asName : Option Value) :
    Guarded False (G.scope.outputQuery r isParameter asName) (G.free.outputQuery r isParameter asName) := by
  unfold Scope.outputQuery
  refine .ite (fun _ => ?_) fun _ => .pure _
  split
  · exact .pure _
  · exact (Guarded.same (Scope.nameText_quiet _)).bind fun _ => (G.wrapString _).bind fun _ => .pure _

theorem callbackQuery (chains : List Chain) :
    Guarded False (G.scope.callbackQuery chains) (G.free.callbackQuery chains) :=
  .same (.ofLogged _)

theorem compileCallback (chains : List Chain) :
    Guarded False (G.scope.compileCallback chains) (G.free.compileCallback chains) :=
  (G.callbackQuery chains).bind fun _ => G.query_guarded _ _ _

theorem unwrap (v : Value) (isParameter : Bool) :
    Guarded False (G.scope.unwrap v isParameter) (G.free.unwrap v isParameter) := by
  have env : G.free.env = G.scope.env := rfl
  unfold Scope.unwrap
  rw [env]
  cases G.scope.env.query? v with
  | some q => exact (G.nestedQuery q).bind fun _ => (G.outputQuery _ _ _).bind fun _ => .pure _
  | none =>
    cases G.scope.env.raw? v with
    | some r => exact (G.nestedRaw r).bind fun _ => .pure _
    | none => exact .pure _

theorem unwrapPresent (v : Value) : Guarded False (G.scope.unwrapPresent v) (G.free.unwrapPresent v) := by
  refine (G.unwrap v false).bind fun operand => ?_
  split <;> exact .pure _

theorem unwrapOrNothing (v : Value) : Guarded False (G.scope.unwrapOrNothing v) (G.free.unwrapOrNothing v) :=
  (G.unwrap v false).bind fun _ => .pure _

theorem rawOrCallback (v : Value) : Guarded False (G.scope.rawOrCallback v) (G.free.rawOrCallback v) := by
  unfold Scope.rawOrCallback
  split
  · exact (G.compileCallback _).bind fun _ => (G.outputQuery _ _ _).bind fun _ => .pure _
  · exact G.unwrapOrNothing _

theorem subquery (v : Value) : Guarded False (G.scope.subquery v) (G.free.subquery v) :=
  (G.rawOrCallback v).bind G.spell

/-! ## Identifiers -/

theorem wrapOther {v : Value} (callback : v.isCallback = false) (map : v.entries? = none)
    (scalar : v.scalar? = none) : Guarded False (G.scope.wrapOperand v) (G.free.wrapOperand v) := by
  rw [Scope.wrapOperand_eq _ callback map scalar, Scope.wrapOperand_eq _ callback map scalar]
  refine (G.unwrapPresent v).bind fun operand => ?_
  cases operand with
  | some operand => exact .pure _
  | none => exact (G.display v).bind fun _ => (G.wrapString _).bind fun _ => .pure _

/-- An entry of a mapping from aliases that is neither a callback nor a mapping. -/
theorem entry {asName target : Value} {entries : List (Value × Value)} (callback : target.isCallback = false)
    (map : target.entries? = none) (own : Guarded False (G.scope.wrapOperand target) (G.free.wrapOperand target))
    (rest : Guarded False (G.scope.wrapEntries false entries) (G.free.wrapEntries false entries)) (atStart : Bool) :
    Guarded False (G.scope.wrapEntries atStart ((asName, target) :: entries))
      (G.free.wrapEntries atStart ((asName, target) :: entries)) := by
  cases query : G.scope.env.query? target with
  | some q =>
    have query' : G.free.env.query? target = some q := query
    rw [Scope.wrapEntries_query _ callback map query, Scope.wrapEntries_query _ callback map query']
    exact (G.nestedQuery q).bind fun _ => (G.outputQuery _ _ _).bind fun _ => rest.bind fun _ => .pure _
  | none =>
    have query' : G.free.env.query? target = none := query
    rw [Scope.wrapEntries_eq _ callback map query, Scope.wrapEntries_eq _ callback map query']
    refine (own.bind G.spell).bind fun _ => (G.aliasName asName).bind fun _ => ?_
    exact (Guarded.pure _).bind fun _ => rest.bind fun _ => .pure _

mutual

theorem wrapOperand : ∀ v : Value, Guarded False (G.scope.wrapOperand v) (G.free.wrapOperand v)
  | .callback chains => by
    simp only [Scope.wrapOperand]
    exact (G.compileCallback chains).bind fun _ => (G.outputQuery _ _ _).bind fun _ => .pure _
  | .map entries => by
    simp only [Scope.wrapOperand]
    exact (wrapEntries true entries).bind fun _ => .pure _
  | .scalar t => by
    unfold Scope.wrapOperand
    split
    · exact .pure _
    · exact .pure _
    · exact (G.wrapString _).bind fun _ => .pure _
  | .list _ | .tuple _ | .set _ | .query _ | .raw _ | .shared _ | .schema _ | .compiled _ | .conflict _ _
  | .other _ _ => G.wrapOther rfl rfl rfl

theorem wrapEntries (atStart : Bool) : ∀ entries : List (Value × Value),
    Guarded False (G.scope.wrapEntries atStart entries) (G.free.wrapEntries atStart entries)
  | [] => by
    simp only [Scope.wrapEntries]
    exact .pure _
  | (asName, .callback chains) :: entries => by
    have rest := wrapEntries false entries
    simp only [Scope.wrapEntries]
    exact (G.compileCallback chains).bind fun _ => (G.outputQuery _ _ _).bind fun _ => rest.bind fun _ => .pure _
  | (asName, .map inner) :: entries => by
    have own := wrapEntries true inner
    have rest := wrapEntries false entries
    simp only [Scope.wrapEntries]
    exact own.bind fun _ => (G.aliasName asName).bind fun _ => rest.bind fun _ => .pure _
  | (asName, .scalar s) :: entries => G.entry rfl rfl (wrapOperand (.scalar s)) (wrapEntries false entries) atStart
  | (asName, .list _) :: entries | (asName, .tuple _) :: entries | (asName, .set _) :: entries
  | (asName, .query _) :: entries | (asName, .raw _) :: entries | (asName, .shared _) :: entries
  | (asName, .schema _) :: entries | (asName, .compiled _) :: entries | (asName, .conflict _ _) :: entries
  | (asName, .other _ _) :: entries =>
    G.entry rfl rfl (G.wrapOther rfl rfl rfl) (wrapEntries false entries) atStart

end

theorem wrap (v : Value) : Guarded False (G.scope.wrap v) (G.free.wrap v) :=
  (G.wrapOperand v).bind G.spell

theorem columnizeAll (columns : List Value) :
    Guarded False (G.scope.columnizeAll columns) (G.free.columnizeAll columns) :=
  (Guarded.mapM_free fun v _ => G.wrapOperand v).bind fun _ => (Guarded.textuals _).bind fun _ => .pure _

theorem columnize (columns : Value) : Guarded False (G.scope.columnize columns) (G.free.columnize columns) :=
  G.columnizeAll _

/-! ## Values -/

/-- Neither a query nor a raw expression contains an undefined value. -/
theorem unwrap_undefined {s : Scope} {v : Value} (undefined : v.containsUndefined = true) (isParameter : Bool) :
    s.unwrap v isParameter = pure none := by
  cases v <;> first | rfl | cases undefined

/-- An operand in the place of a value that contains an undefined one binds it. -/
theorem argument (v : Value) :
    Guarded (v.containsUndefined = true) (G.scope.argument v) (G.free.argument v) := by
  by_cases callback : ∃ chains, v = .callback chains
  · obtain ⟨chains, rfl⟩ := callback
    refine .of_not nofun ?_
    unfold Scope.argument
    exact (G.compileCallback chains).bind fun _ => (G.outputQuery _ _ _).bind fun _ => .pure _
  · have plain : v.isCallback = false := by
      cases v with
      | callback chains => exact absurd ⟨chains, rfl⟩ callback
      | _ => rfl
    rw [Scope.argument_eq _ plain, Scope.argument_eq _ plain]
    by_cases undefined : v.containsUndefined = true
    · rw [unwrap_undefined undefined, unwrap_undefined undefined]
      exact (Guarded.bound v).bind_first fun _ => .pure _
    · refine .of_not undefined ((G.unwrap v true).bind fun operand => ?_)
      unfold Scope.argumentOf
      split
      · exact .pure _
      · exact .pure _
      · exact ((Guarded.bound v).mono False.elim).bind fun _ => .pure _

theorem parameter (v : Value) :
    Guarded (v.containsUndefined = true) (G.scope.parameter v) (G.free.parameter v) :=
  (G.argument v).bind_first G.spell

/-- A value that contains an undefined one is stored as it is. -/
theorem storable_undefined {s : Scope} {v : Value} (undefined : v.containsUndefined = true) :
    s.storable v = pure v := by
  unfold Scope.storable
  split
  · rw [if_pos undefined]
  · rw [if_pos undefined]
  · rw [if_pos undefined]
  · rfl

theorem storable (v : Value) : Guarded False (G.scope.storable v) (G.free.storable v) := by
  refine .same ?_
  unfold Scope.storable
  split
  all_goals first | exact .pure _ | split
  all_goals first | exact .pure _ | exact (Value.json_quiet G.texts _).bind fun _ => .pure _

theorem stored (v : Value) : Guarded (v.containsUndefined = true) (G.scope.stored v) (G.free.stored v) := by
  unfold Scope.stored
  by_cases undefined : v.containsUndefined = true
  · rw [storable_undefined undefined, storable_undefined undefined, pure_bind, pure_bind]
    exact G.argument v
  · exact .of_not undefined ((G.storable v).bind fun w => (G.argument w).mono False.elim)

theorem parameterizeAll (values : List Value) :
    Guarded (Undefined values) (G.scope.parameterizeAll values) (G.free.parameterizeAll values) := by
  refine ((Guarded.mapM fun v _ => G.stored v).mono ?_).bind_first fun _ => (Guarded.textuals _).bind fun _ => .pure _
  exact fun some_ => List.any_eq_true.mp some_

/-- The items of a value that contains an undefined one, other than a mapping, contain it. -/
theorem items_undefined {v : Value} {items : List Value} (undefined : v.containsUndefined = true)
    (plain : v.entries? = none) (ok : v.items = .ok items) : Undefined items := by
  cases v with
  | list vs | tuple vs =>
    cases ok
    rwa [Value.containsUndefined, Value.anyUndefined_eq_any] at undefined
  | map entries => cases plain
  | scalar s =>
    cases s with
    | undefined => cases ok
    | _ => cases undefined
  | _ => cases undefined

/-- One row of a list of rows. A row that is a mapping has its keys bound. -/
theorem row (v : Value) :
    Guarded (v.entries? = none ∧ v.containsUndefined = true) (G.scope.row v) (G.free.row v) := by
  unfold Scope.row
  cases ok : v.items with
  | error e => exact .throw_right _
  | ok items =>
    simp only [liftCompile, pure_bind]
    refine ((G.parameterizeAll items).mono ?_).bind_first fun _ => .pure _
    rintro ⟨plain, undefined⟩
    exact items_undefined undefined plain ok

/-- What a membership test looks into. -/
theorem values (v : Value) :
    Guarded (v.containsUndefined = true ∧ v.hasPlainRows = true) (G.scope.values v) (G.free.values v) := by
  unfold Scope.values
  cases sequence : v.sequence? with
  | none =>
    refine .ite (fun _ => ?_) fun _ => (G.parameter v).mono And.left
    exact ((G.parameter v).mono And.left).bind_first fun _ => .pure _
  | some items =>
    have undefined (h : v.containsUndefined = true) : Undefined items := by
      cases v <;> cases sequence <;> rwa [Value.containsUndefined, Value.anyUndefined_eq_any] at h
    cases items with
    | nil => exact .of_not (fun h => Undefined.not_nil (undefined h.1)) (.pure _)
    | cons first rest =>
      simp only
      refine .ite (fun nested => ?_) fun _ => ?_
      · refine ((Guarded.mapM fun row _ => G.row row).mono ?_).bind_first fun _ => .pure _
        rintro ⟨some_, plain⟩
        obtain ⟨row, hr, holds⟩ := List.any_eq_true.mp (undefined some_)
        refine ⟨row, hr, ?_, holds⟩
        rcases List.mem_cons.mp hr with rfl | hr
        · cases row <;> first | rfl | cases nested
        · simp only [Value.hasPlainRows, sequence, Bool.or_eq_true, List.all_eq_true,
            Option.isNone_iff_eq_none] at plain
          rcases plain with flat | plain
          · simp [flat] at nested
          · simpa [holds] using plain row hr
      · exact ((G.parameterizeAll _).mono fun h => undefined h.1).bind_first fun _ => .pure _

/-! ## Words -/

theorem wordText (v : Value) : Guarded False (G.scope.wordText v) (G.free.wordText v) := by
  unfold Scope.wordText
  exact .ite (fun _ => (G.display v).bind fun _ => .pure _) fun _ => .pure _

theorem operator (v : Value) : Guarded False (G.scope.operator v) (G.free.operator v) := by
  refine Guarded.bind ((G.unwrapPresent v).bind fun operand => ?_) G.spell
  cases operand with
  | some operand => exact .pure _
  | none =>
    refine (G.wordText v).bind fun token => .ite (fun _ => .pure _) fun _ => ?_
    exact (G.display v).bind fun _ => .throw_right _

theorem direction (v : Value) : Guarded False (G.scope.direction v) (G.free.direction v) := by
  refine Guarded.bind ((G.unwrapPresent v).bind fun operand => ?_) G.spell
  cases operand with
  | some operand => exact .pure _
  | none => exact (G.wordText v).bind fun _ => .pure _

end Guard

end SqlBuilder
