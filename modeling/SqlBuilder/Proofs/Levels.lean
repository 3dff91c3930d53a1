import SqlBuilder.Proofs.Expressions
import SqlBuilder.Proofs.Statements

/-!
# Levels in tandem

What stands for each other is rendered alike however deep it is nested, by induction on the number of
levels: what is nested one level down is rendered by the same functions, a level deeper.

* `Likeness.sound_of`, `Likeness.sound`: at every level, in any comparison that is made level by level and in
  the one of a likeness.
* `Likeness.Like.compile`: two queries that stand for each other compile alike, from any progresses that
  agree, and bind the values of their statements.
-/

namespace SqlBuilder

open List (Forall₂)

/-- A rendered query has no undefined values. -/
theorem Nested.query_defined (env : Environment) (n : Nat) (client : Client Value)
    (context : Option Value) (method : Option Method) (q : Query Value) :
    ((Nested.ofDepth env n).query client context method q).Returns
      fun r => r.sql.bindings.any Value.containsUndefined = false := by
  cases n with
  | zero => exact .throw _
  | succ n =>
    unfold Nested.ofDepth Scope.statement
    have defined (s : Scope) (method : Method) (st : Statement Value) :
        (s.checked method st).Returns fun sql => sql.bindings.any Value.containsUndefined = false := by
      unfold Scope.checked
      refine .bind fun sql => .bind fun progress => ?_
      simp only
      split
      · exact .bind fun _ => .bind_of (Q := fun _ => False) (.throw _) fun _ h => h.elim
      next settled =>
        refine .pure ?_
        simp only [Bool.or_eq_true, not_or] at settled
        simpa using settled.2
    exact (defined _ _ _).ownColumns.bind_of fun sql h => .pure h

/-- A query shows what it binds where it is rendered on a client, with what is nested in it up to a number of
levels deep. -/
def Query.Keeps (env : Environment) (client : Client Value) (n : Nat) (q : Query Value) : Prop :=
  ∀ context, Scope.KeepsBody { env, client, context, nested := Nested.ofDepth env n } q.statement.method q.statement

namespace Likeness

variable {D : Likeness}

/-- The text of a value is the same on both sides, since it keeps what it binds to itself. -/
theorem display_self (law : D.Fair) (nested : Nested) (v : Value) :
    Tandem D.error (nested.display D.env v) (nested.display D.env v) (Silently Eq) := by
  unfold Nested.display
  split
  · exact .ownColumns (.own_self law.error_refl _)
  · exact .ite Iff.rfl (fun _ => .ownColumns (.own_self law.error_refl _)) fun _ => .pure ⟨rfl, rfl, rfl⟩

/-- Contexts inside others are the same where hooks see them. -/
theorem SameContext.or {a a' b b' : Option Value} (ha : D.SameContext a a') (hb : D.SameContext b b') :
    D.SameContext (a.or b) (a'.or b') := by
  rcases ha with none | rfl
  · exact .inl none
  · rcases hb with none | rfl
    · exact .inl none
    · exact .inr rfl

/-- Nothing is rendered where nothing may be nested any deeper. -/
theorem sound_exhausted (law : D.Fair) {L : Level} (outputs : L.outputs = Nested.exhausted.outputs) :
    D.Sound L Nested.exhausted where
  outputs := outputs.symm
  query _ _ := .throw (law.error_refl _)
  raw _ _ := .throw (law.error_refl _)
  conditions _ _ _ := .throw (law.error_refl _)
  display _ := .throw (law.error_refl _)

/-- What stands for each other in a comparison is rendered alike at every level, if the comparison is made of
those one level down and the queries may drop values or show what they bind. -/
theorem sound_of (law : D.Fair) (level : Nat → Level)
    (outputs : ∀ n, (level n).outputs = (Nested.ofDepth D.env n).outputs)
    (query : ∀ {n q q'}, (level (n + 1)).query q q' →
      D.QueryLike (level n) q q' ∧ (D.Lax ∨ q.Keeps D.env D.client n))
    (raw : ∀ {n r r'}, (level (n + 1)).raw r r' → D.RawLike (level n) r r')
    (conditions : ∀ {n cs cs'}, (level (n + 1)).conditions cs cs' → D.ConditionsLike (level n) cs cs') (n : Nat) :
    D.Sound (level n) (Nested.ofDepth D.env n) := by
  induction n with
  | zero => exact sound_exhausted law (outputs 0)
  | succ n ih =>
    -- what is rendered at this level uses the level below it
    refine ⟨(outputs _).symm, ?_, ?_, ?_, ?_⟩
    · intro q q' context context' like same
      obtain ⟨h, kept⟩ := query like
      let X : D.Setting (level n) :=
        ⟨_, context.or q.context, context'.or q'.context, law, ih, same.or h.context⟩
      change Tandem D.error (X.left.statement q.statement.method q.statement)
        (X.right.statement q'.statement.method q'.statement) _
      rw [← h.method]
      exact X.statement h.body (kept.imp_right (· _)) h.comments h.commentsFit h.asName h.fits
    · intro r r' context context' like same
      let X : D.Setting (level n) := ⟨_, context, context', law, ih, same⟩
      exact X.rawExpression (raw like)
    · intro cs cs' context context' like same clause
      let X : D.Setting (level n) := ⟨_, context, context', law, ih, same⟩
      exact X.conditions clause (conditions like)
    · exact display_self law _

/-- What stands for each other is rendered alike at every level. -/
theorem sound (law : D.Lawful) (n : Nat) : D.Sound (D.level n) (Nested.ofDepth D.env n) :=
  sound_of law.toFair D.level (fun n => by cases n <;> rfl) (fun h => ⟨h, .inl law.toLax⟩) id id n

/-- Two compiled queries are the texts and the values of alike fragments. -/
def CompiledLike (D : Likeness) (c c' : Compiled Value) : Prop :=
  ∃ a a' : Sql, D.Frag a a' ∧ c.sql = a.text ∧ c'.sql = a'.text ∧ c.bindings = a.bindings ∧
    c'.bindings = a'.bindings

/-- Errors stay alike when their texts are completed. -/
theorem fail (law : D.Fair) {α : Type} {Q : α → α → List Value → List Value → Prop} {e e' : Error}
    (h : D.error e e') : Tandem D.error (D.env.fail e) (D.env.fail e') Q := by
  have complete {e : Error} (h : ¬ ∃ column, e = .boundsNeeded column) :
      (D.env.fail e : Compile α) = throw e := by
    unfold Environment.fail
    split
    next column => exact absurd ⟨column, rfl⟩ h
    next => rfl
  by_cases open_ : ∃ column, e = .boundsNeeded column
  · obtain ⟨column, rfl⟩ := open_
    obtain rfl := (law.error_bounds h).mp rfl
    unfold Environment.fail Environment.display
    refine (display_self law D.env.nested column).bind_silent ?_
    rintro text _ rfl
    exact .throw (law.error_refl _)
  · have open' : ¬ ∃ column, e' = .boundsNeeded column := by
      rintro ⟨column, rfl⟩
      exact open_ ⟨column, (law.error_bounds h).mpr rfl⟩
    rw [complete open_, complete open']
    exact .throw h

/-- Two queries that stand for each other compile alike, from any progresses that agree, and each binds
the values of its statement. -/
theorem Like.compile (law : D.Lawful) {q q' : Query Value} (client : q.client = D.client)
    (client' : q'.client = D.client) (h : D.Like q q') :
    Tandem D.error (q.compile D.env) (q'.compile D.env) (Yields (CompiledLike D) Compiled.bindings) := by
  have rendered := (sound law nestingLimit).query h (.inr (Eq.refl (none : Option Value)))
  have compiled : Tandem D.error (D.env.nested.compiledQuery q) (D.env.nested.compiledQuery q')
      (Yields (CompiledLike D) Compiled.bindings) := by
    unfold Nested.compiledQuery
    rw [client, client']
    refine rendered.bind_yields fun r r' hr => ?_
    exact .pure ⟨⟨r.sql, r'.sql, hr.sql, rfl, rfl, rfl, rfl⟩, by simp, by simp⟩
  exact compiled.tryCatch fun _ _ h => fail law.toFair h

end Likeness

/-- Completing the text of an error is an error. -/
theorem Environment.fail_returns {α : Type} (env : Environment) (e : Error) :
    (env.fail e : Compile α).Returns fun _ => False := by
  unfold Environment.fail
  split
  · exact .bind fun _ => .throw _
  · exact .throw _

/-- A compilation that succeeds takes the same steps before the texts of its errors are completed. -/
theorem Environment.settled_ok {α : Type} {env : Environment} {c : Compile α} {a : α} {p p' : Progress}
    (run : env.settled c p = .ok a p') : c p = .ok a p' := by
  change EStateM.tryCatch c env.fail p = _ at run
  unfold EStateM.tryCatch at run
  simp only at run
  split at run
  · exact (env.fail_returns _ _ _ _ run).elim
  · exact run

/-- A compiled query is the text and the values of its rendering, which takes the same steps. -/
theorem Query.compile_ok {env : Environment} {q : Query Value} {p p' : Progress} {c : Compiled Value}
    (run : q.compile env p = .ok c p') :
    ∃ r, env.nested.query q.client none none q p = .ok r p' ∧ c.sql = r.sql.text ∧
      c.bindings = r.sql.bindings := by
  have compiled := Environment.settled_ok run
  change EStateM.bind (env.nested.query q.client none none q) _ p = _ at compiled
  unfold EStateM.bind at compiled
  split at compiled
  next r q' first =>
    cases compiled
    exact ⟨r, first, rfl, rfl⟩
  · cases compiled

namespace Likeness

variable {D : Likeness} {q : Query Value} {p p' : Progress} {c : Compiled Value}

/-- What a comparison says about a query that compiles: the pieces of its rendering are proper, none of its
values is undefined, and the values are those that it binds. -/
theorem Sound.rendered {L : Level} (sound : D.Sound L (Nested.ofDepth D.env nestingLimit))
    (client : q.client = D.client) (h : L.query q q) (run : q.compile D.env p = .ok c p') :
    ∃ r, D.env.nested.query q.client none none q p = .ok r p' ∧ c.sql = r.sql.text ∧
      c.bindings = r.sql.bindings ∧ D.Frag r.sql r.sql ∧
        r.sql.bindings.any Value.containsUndefined = false ∧ p'.bound = p.bound ++ c.bindings := by
  obtain ⟨r, rendered, sql, bindings⟩ := Query.compile_ok run
  have defined := Nested.query_defined D.env nestingLimit q.client none none q p r p' rendered
  have tandem := sound.query h (.inr (Eq.refl (none : Option Value))) p p ⟨rfl, rfl⟩
  have same : (Nested.ofDepth D.env nestingLimit).query D.client none none q p = .ok r p' := client ▸ rendered
  rw [same] at tandem
  obtain ⟨-, bound, -, like, holds, -⟩ := tandem
  exact ⟨r, rendered, sql, bindings, like.sql, defined, by rw [bound, holds, bindings]⟩

/-- What a likeness says about a query that compiles. -/
theorem Like.rendered (law : D.Lawful) (client : q.client = D.client) (h : D.Like q q)
    (run : q.compile D.env p = .ok c p') :
    ∃ r, D.env.nested.query q.client none none q p = .ok r p' ∧ c.sql = r.sql.text ∧
      c.bindings = r.sql.bindings ∧ D.Frag r.sql r.sql ∧
        r.sql.bindings.any Value.containsUndefined = false ∧ p'.bound = p.bound ++ c.bindings :=
  (sound law nestingLimit).rendered client h run

end Likeness

end SqlBuilder
