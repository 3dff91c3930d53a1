import SqlBuilder.Proofs.BoundValues
import SqlBuilder.Proofs.GuardedStatements

/-!
# Undefined values

A query that would bind an undefined value does not compile, and any other that renders does. What it would
bind is what it binds without guards: the values of every clause, of every nested query and raw expression,
and the undefined ones among the bindings of a raw expression that have no slot.

The conditions that look at more than they bind are an exception: a range with more than two bounds, and a
membership test in rows that are mappings. There a query can be refused although it would bind no undefined
value.

* `Nested.unguarded_sound`: without guards, what is rendered holds the values that are bound.
* `Guard.ofDepth`: at every level, the guards refuse where an undefined value is bound, and pass elsewhere.
* `Query.compile_undefined`: so they do in a compiled query.
-/

namespace SqlBuilder

open List (Forall₂)

/-! ## Rendering without guards -/

namespace Likeness

/-- A comparison of what is nested one level down, in which everything stands for itself only. -/
def Level.diagonal (outputs : Outputs) : Level :=
  ⟨outputs, Eq, Eq, Eq⟩

theorem Level.diagonal_refl (outputs : Outputs) : (Level.diagonal outputs).Refl :=
  ⟨fun _ => rfl, fun _ => rfl, fun _ => rfl⟩

namespace Setting

variable {D : Likeness} {L : Level} (X : D.Setting L)

theorem assertExact (X : D.Setting L) (cs : List (Condition Value)) :
    Tandem D.error (Scope.assertExact cs) (Scope.assertExact cs) (Silently Eq) :=
  .ite Iff.rfl (fun _ => .pure ⟨rfl, rfl, rfl⟩) fun _ => X.throw_self _

theorem unguardedStatement {method : Method} {st : Statement Value} (h : D.BodyLike L method st st)
    (kept : D.Lax ∨ X.left.KeepsBody method st) (fits : ∀ comment ∈ st.comments, D.piece (.comment comment))
    (aliasFits : ∀ v ∈ st.asName, D.Alias v) :
    Tandem D.error (X.left.unguardedStatement method st) (X.right.unguardedStatement method st)
      (Yields D.RenderedLike fun r => r.sql.bindings) := by
  have body : D.RendersSql (X.left.unguardedBody method st) (X.right.unguardedBody method st) := by
    refine (X.assertExact _).bind_silent fun _ _ _ => (X.body h kept).bind_yields fun a a' ha => ?_
    refine Tandem.get.bind_silent ?_
    rintro p p' agrees
    rw [← agrees.columns]
    refine (X.columnTexts p.undefinedColumns).bind_silent fun _ _ _ => ?_
    exact .pure ⟨X.commented fits ha, by simp, by simp⟩
  refine (Tandem.ownColumns body).bind_yields fun a a' ha => ?_
  exact .pure ⟨⟨ha, rfl, rfl, aliasFits⟩, by simp, by simp⟩

/-- What a raw expression renders to, with the undefined ones among its values. -/
theorem withUndefined (liberal : D.liberal) {r : Raw Value} {o o' : Operand} (h : D.RawResult r r o o')
    (values : List Value) :
    Tandem D.error (X.left.withUndefined values o) (X.right.withUndefined values o')
      (Extends (D.RawResult r r) Operand.bindings o.bindings o'.bindings) := by
  unfold Scope.withUndefined
  generalize values.filter Value.containsUndefined = undefined
  have free := X.law.unspaced liberal
  have like : Forall₂ (Piece.Like D.value) (undefined.map .stray) (undefined.map .stray) := by
    refine List.forall₂_same.mpr fun piece hp => ?_
    obtain ⟨v, -, rfl⟩ := List.mem_map.mp hp
    exact .stray (X.law.value_refl v)
  have strays : D.Frag (undefined.map .stray) (undefined.map .stray) :=
    ⟨like, fun piece _ => X.law.anyPiece liberal piece, fun spaced => absurd spaced free⟩
  refine .ite Iff.rfl (fun _ => .pure ⟨h, by simp, by simp⟩) fun _ => (X.spellRaw h).bind ?_
  rintro a a' _ _ ⟨ha, holds, holds'⟩
  refine (Tandem.bindAll _ _).bind ?_
  rintro _ _ _ _ ⟨rfl, rfl⟩
  refine .pure ⟨ha.append strays fun spaced => absurd spaced free, ?_, ?_⟩
  · simp [Operand.bindings, ← holds]
  · simp [Operand.bindings, ← holds']

theorem unguardedRaw (liberal : D.liberal) {r : Raw Value} (h : D.RawLike L r r) :
    RendersRaw D r r (X.left.unguardedRaw r) (X.right.unguardedRaw r) := by
  have finish (text : r.reference = none)
      (surrounded : RendersRaw D r r (X.left.surrounded r) (X.right.surrounded r)) :
      RendersRaw D r r (X.left.unguardedRaw r) (X.right.unguardedRaw r) := by
    unfold Scope.unguardedRaw
    rw [text]
    exact surrounded.bind_extends fun o o' ho => X.withUndefined liberal ho _
  cases h with
  | object allowed text object => exact finish text (X.rawObject allowed object)
  | reference reference _ _ _ columns shown schemaShown aliasShown =>
    unfold Scope.unguardedRaw
    rw [reference]
    refine (X.referenceTarget columns shown schemaShown aliasShown).bind_silent ?_
    rintro target _ ⟨rfl, columns⟩
    refine (X.columnize columns).bind_extends fun a a' ha => ?_
    have result : D.RawResult r r (.sql a) (.sql a') := ha
    exact X.withUndefined liberal result _
  | text text _ same same' before beforeFits after afterFits bindings =>
    exact finish text (X.rawText same same' before beforeFits after afterFits bindings)

end Setting

/-- Without guards, what is rendered at every level holds the values that are bound. -/
theorem unguarded_sound {D : Likeness} (law : D.Liberal) (n : Nat) :
    D.Sound (.diagonal (Nested.ofDepth D.env n).outputs) (Nested.unguarded D.env n) := by
  induction n with
  | zero => exact sound_exhausted law.toFair rfl
  | succ n ih =>
    have below := Level.diagonal_refl (Nested.ofDepth D.env n).outputs
    refine ⟨rfl, ?_, ?_, ?_, ?_⟩
    · rintro q _ context context' rfl same
      have h := law.query below q
      let X : D.Setting (.diagonal (Nested.ofDepth D.env n).outputs) :=
        ⟨_, context.or q.context, context'.or q.context, law.toFair, ih, same.or (.inr rfl)⟩
      exact X.unguardedStatement h.body (.inl law.toLax) h.commentsFit h.fits
    · rintro r _ context context' rfl same
      let X : D.Setting (.diagonal (Nested.ofDepth D.env n).outputs) :=
        ⟨_, context, context', law.toFair, ih, same⟩
      exact X.unguardedRaw law.liberal (law.raw below r)
    · rintro cs _ context context' rfl same clause
      let X : D.Setting (.diagonal (Nested.ofDepth D.env n).outputs) :=
        ⟨_, context, context', law.toFair, ih, same⟩
      refine (X.assertExact cs).bind_silent fun _ _ _ => X.conditions clause ?_
      exact (law.stands below).conditions fun c _ => c.of_any
    · exact display_self law.toFair _

end Likeness

/-- Two runs of one compilation in tandem bind what its result holds. -/
theorem Tandem.yields {α : Type} {E : Error → Error → Prop} {c : Compile α} {R : α → α → Prop}
    {held : α → List Value} (h : Tandem E c c (Yields R held)) {p q : Progress} {a : α} (run : c p = .ok a q) :
    q.bound = p.bound ++ held a := by
  have both := h p p ⟨rfl, rfl⟩
  rw [run] at both
  obtain ⟨-, bound, -, -, holds, -⟩ := both
  rw [bound, holds]

/-! ## Guards at every level -/

namespace Nested

/-- The text of a value takes no part in a statement. -/
theorem display_quiet (env : Environment) (n : Nat) (v : Value) :
    Quiet ((Nested.ofDepth env n).printers.display v) := by
  cases n with
  | zero => exact .throw _
  | succ n =>
    change Quiet ((Nested.ofDepth env n).display env v)
    unfold Nested.display
    split
    · exact .own _
    · split
      · exact .own _
      · exact .pure _

/-- What is nested up to a number of levels deep refuses where an undefined value is bound without guards, and
passes elsewhere. -/
structure GuardedAt (env : Environment) (n : Nat) : Prop where
  query : ∀ client context q, Guarded False ((Nested.ofDepth env n).query client context none q)
    ((Nested.unguarded env n).query client context none q)
  raw : ∀ client context r, Guarded False ((Nested.ofDepth env n).raw client context r)
    ((Nested.unguarded env n).raw client context r)
  conditions : ∀ client context clause cs,
    Guarded False ((Nested.ofDepth env n).conditions client context clause cs)
      ((Nested.unguarded env n).conditions client context clause cs)

end Nested

/-- A scope whose nested queries, raw expressions and conditions are one level down. -/
def Guard.ofDepth {env : Environment} {n : Nat} (below : Nested.GuardedAt env n) (client : Client Value)
    (context : Option Value) : Guard where
  scope := { env, client, context, nested := Nested.ofDepth env n }
  freeQuery := (Nested.unguarded env n).query
  freeRaw := (Nested.unguarded env n).raw
  freeConditions := (Nested.unguarded env n).conditions
  texts := Nested.display_quiet env n
  query_guarded := below.query
  query_yields {client _ _ _ _ _} run :=
    have law : (Likeness.varying env client).Liberal := Likeness.varying_liberal
    ((Likeness.unguarded_sound law n).query rfl (.inr rfl)).yields run
  raw_guarded := below.raw
  raw_yields {client _ _ _ _ _} run :=
    have law : (Likeness.varying env client).Liberal := Likeness.varying_liberal
    ((Likeness.unguarded_sound law n).raw rfl (.inr rfl)).yields run
  conditions_guarded := below.conditions

namespace Guard

variable {env : Environment} {n : Nat} (below : Nested.GuardedAt env n) (client : Client Value)
  (context : Option Value)

theorem ofDepth_free :
    (Guard.ofDepth below client context).free = { env, client, context, nested := Nested.unguarded env n } := by
  cases n <;> rfl

/-- Without guards, the body of a query holds the values that are bound. -/
theorem ofDepth_yields (q : Query Value) {p p' : Progress} {sql : Sql}
    (run : (Guard.ofDepth below client context).free.body q.statement.method q.statement p = .ok sql p') :
    p'.bound = p.bound ++ sql.bindings := by
  have law : (Likeness.varying env client).Liberal := Likeness.varying_liberal
  let X : (Likeness.varying env client).Setting (.diagonal (Nested.ofDepth env n).outputs) :=
    ⟨_, context, context, law.toFair, Likeness.unguarded_sound law n, .inr rfl⟩
  rw [ofDepth_free] at run
  exact (X.body (law.query (Likeness.Level.diagonal_refl _) q).body (.inl law.toLax)).yields run

end Guard

/-- At every level, the guards refuse where an undefined value is bound, and pass elsewhere. -/
theorem Nested.guarded (env : Environment) (n : Nat) : Nested.GuardedAt env n := by
  induction n with
  | zero => exact ⟨fun _ _ _ => .throw_right _, fun _ _ _ => .throw_right _, fun _ _ _ _ => .throw_right _⟩
  | succ n below =>
    refine ⟨fun client context q => ?_, fun client context r => ?_, fun client context clause cs => ?_⟩
    · have whole := (Guard.ofDepth below client (context.or q.context)).statement q.statement.method q.statement
        (Guard.ofDepth_yields below client _ q)
      rwa [Guard.ofDepth_free] at whole
    · have whole := (Guard.ofDepth below client context).rawExpression r
      rwa [Guard.ofDepth_free] at whole
    · have whole (exact_ : ∀ c ∈ cs, c.isExact = true) :=
        (Guard.ofDepth below client context).conditions clause exact_
      rw [Guard.ofDepth_free] at whole
      change Guarded False (Scope.conditions _ clause cs) (do Scope.assertExact cs; Scope.conditions _ clause cs)
      unfold Scope.assertExact
      split
      next all => exact whole (List.all_eq_true.mp all)
      next => exact nofun

/-! ## Compiled queries -/

namespace Query

variable {env : Environment} {q : Query Value} {p p' : Progress}

/-- A query whose statement is rendered compiles to it. -/
theorem compile_rendered {r : Rendered} (rendered : env.nested.query q.client none none q p = .ok r p') :
    ∃ c, q.compile env p = .ok c p' ∧ c.sql = r.sql.text ∧ c.bindings = r.sql.bindings := by
  unfold compile Environment.settled Nested.compiledQuery
  change ∃ c, EStateM.tryCatch (EStateM.bind _ _) _ p = _ ∧ _
  unfold EStateM.tryCatch EStateM.bind
  simp only [rendered]
  exact ⟨_, rfl, rfl, rfl⟩

/-- A query whose statement is refused for its undefined values does not compile. -/
theorem compile_refused {e : Error} (kind : e.isUndefined = true)
    (refused : env.nested.query q.client none none q p = .error e p') : q.compile env p = .error e p' := by
  have complete : (env.fail e : Compile (Compiled Value)) = throw e := by
    cases e <;> first | rfl | cases kind
  unfold compile Environment.settled Nested.compiledQuery
  change EStateM.tryCatch (EStateM.bind _ _) _ p = _
  unfold EStateM.tryCatch EStateM.bind
  simp only [refused, complete]
  rfl

/-- The values of a compiled query contain no undefined one. -/
theorem compile_defined {c : Compiled Value} (run : q.compile env p = .ok c p') : ¬ Undefined c.bindings := by
  obtain ⟨r, rendered, -, bindings⟩ := Query.compile_ok run
  have defined := Nested.query_defined env nestingLimit q.client none none q p r p' rendered
  rw [Undefined, bindings, defined]
  exact Bool.false_ne_true

/-- A query refuses with a binding error exactly if it would bind an undefined value, and compiles to its text
and values otherwise. So no compiled query binds one, and none becomes part of a JSON document on the way. -/
theorem compile_undefined (env : Environment) (q : Query Value) (p : Progress) :
    (∀ r p', q.unguarded env p = .ok r p' →
      ((∃ e p'', q.compile env p = .error e p'' ∧ e.className = "BindingError") ↔ Undefined r.sql.bindings) ∧
        (¬ Undefined r.sql.bindings →
          ∃ c, q.compile env p = .ok c p' ∧ c.sql = r.sql.text ∧ c.bindings = r.sql.bindings)) ∧
      (∀ c p', q.compile env p = .ok c p' → ¬ Undefined c.bindings) ∧
        ∀ (s : Scope) (v : Value), v.containsUndefined = true → s.storable v = pure v := by
  refine ⟨fun r p' run => ?_, fun _ _ => compile_defined, fun s v => Guard.storable_undefined⟩
  have law : (Likeness.varying env q.client).Liberal := Likeness.varying_liberal
  have yields := ((Likeness.unguarded_sound law nestingLimit).query rfl (.inr rfl)).yields run
  obtain ⟨vs, bound, outcome⟩ := (Nested.guarded env nestingLimit).query q.client none q p r p' run
  obtain rfl : vs = r.sql.bindings := List.append_cancel_left (bound.symm.trans yields)
  generalize rendered : (Nested.ofDepth env nestingLimit).query q.client none none q p = result at outcome
  cases outcome with
  | @refuses e _ undefined kind =>
    have binding : e.className = "BindingError" := by
      cases e <;> first | rfl | cases kind
    refine ⟨⟨fun _ => undefined, fun _ => ?_⟩, fun none_ => absurd undefined none_⟩
    exact ⟨e, _, compile_refused kind rendered, binding⟩
  | passes _ =>
    obtain ⟨c, compiled, sql, bindings⟩ := compile_rendered rendered
    refine ⟨⟨?_, fun undefined => ?_⟩, fun _ => ⟨c, compiled, sql, bindings⟩⟩
    · rintro ⟨e, p'', failed, -⟩
      rw [compiled] at failed
      cases failed
    · exact absurd (bindings ▸ undefined) (compile_defined compiled)

/-- A comparison with a query that compares with a list in which there is an undefined value. -/
theorem compile_undefined_nested :
    let client : Client Value := { dialect := .postgres }
    let env : Environment := { client }
    let equal (q : Query Value) (v : Value) := q.addCondition .where_ .and false (.compare (.str "a") (.str "=") v)
    let inner := equal ((ofClient client).from_ (.str "u")) (.list [.int 1, .undefined])
    let q := equal ((ofClient client).from_ (.str "t")) (.query inner)
    ∃ r p', q.unguarded env {} = .ok r p' ∧ Undefined r.sql.bindings ∧
      ∃ e p'', q.compile env {} = .error e p'' ∧ e.className = "BindingError" := by
  intro client env equal inner q
  have binds : (match q.unguarded env {} with
      | .ok r _ => r.sql.bindings.any Value.containsUndefined
      | .error _ _ => false) = true := by decide +kernel
  cases run : q.unguarded env {} with
  | error e p' =>
    rw [run] at binds
    cases binds
  | ok r p' =>
    rw [run] at binds
    exact ⟨r, p', rfl, binds, ((compile_undefined env q {}).1 r p' run).1.mpr binds⟩

/-- Only two bounds of a range are bound, but undefined values are looked for in all that a join was given. -/
theorem compile_undefined_bound :
    let client : Client Value := { dialect := .postgres }
    let env : Environment := { client }
    let join (bounds : List Value) := Join.onBetween { table := .str "b" } false (.str "x") bounds
    let q := ((ofClient client).from_ (.str "t")).addJoin (join [.int 1, .int 2, .undefined])
    (∃ sql p, (env.scope client).body .select q.statement {} = .ok sql p ∧ ¬ Undefined sql.bindings) ∧
      ∃ e p, q.compile env {} = .error e p ∧ e.className = "BindingError" := by
  intro client env join q
  have binds : (match (env.scope client).body .select q.statement {} with
      | .ok sql _ => !sql.bindings.any Value.containsUndefined
      | .error _ _ => false) = true := by decide +kernel
  have refuses : (match q.compile env {} with
      | .ok _ _ => false
      | .error e _ => e.className == "BindingError") = true := by decide +kernel
  constructor
  · cases rendered : (env.scope client).body .select q.statement {} with
    | error e p =>
      rw [rendered] at binds
      cases binds
    | ok sql p =>
      rw [rendered] at binds
      exact ⟨sql, p, rfl, by simpa [Undefined] using binds⟩
  · cases compiled : q.compile env {} with
    | ok c p =>
      rw [compiled] at refuses
      cases refuses
    | error e p =>
      rw [compiled] at refuses
      exact ⟨e, p, rfl, eq_of_beq refuses⟩

end Query

end SqlBuilder
