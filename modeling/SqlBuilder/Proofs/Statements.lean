import SqlBuilder.Proofs.Writes

/-!
# Statements in tandem

Statements that stand for each other are rendered alike, with the comments before them. One of them has
undefined values if and only if the other has, and the errors that name their columns are the same.

* `Setting.select`: a select.
* `Setting.statement`: any statement.
-/

namespace SqlBuilder.Likeness

open List (Forall₂)

namespace Setting

variable {D : Likeness} {L : Level} (X : D.Setting L)

theorem fromClause {st st' : Statement Value} (h : D.FromLike L st st') (lock : st.lock = st'.lock)
    (wait : st.wait = st'.wait) : D.RendersSql (X.left.fromClause st) (X.right.fromClause st') := by
  have from_ : D.Opening "from " := X.law.opening (by simp [vocabulary]) rfl
  have given : st.table.isNone = st'.table.isNone := by
    have table := h.table
    revert table
    generalize st.table = t, st'.table = t'
    rintro (_ | _) <;> rfl
  unfold Scope.fromClause
  rw [← given, ← lock, ← wait]
  refine .ite Iff.rfl (fun _ => .pure ⟨.nil, rfl, rfl⟩) fun _ => ?_
  refine (X.table h).bind_yields fun a a' ha => (X.tableHint st.lock st.wait).bind_yields fun b b' hb => ?_
  exact .pure ⟨(ha.after_word from_).append_tail hb, by simp, by simp⟩

theorem select {st st' : Statement Value} (h : D.SelectLike L st st')
    (kept : D.Lax ∨ ∀ e ∈ st.orders, X.left.KeepsEntry e) :
    D.RendersSql (X.left.select st) (X.right.select st') := by
  have where_ : D.Opening ("where" ++ " ") := X.law.opening (by decide) rfl
  have having_ : D.Opening ("having" ++ " ") := X.law.opening (by decide) rfl
  unfold Scope.select
  rw [← h.limit, ← h.offset]
  refine (X.withClause h.commonTables).bind_yields fun a a' ha => ?_
  refine (X.projection h.projection st.limit st.offset).bind_yields fun b b' hb => ?_
  refine (X.fromClause h.toFromLike h.lock h.wait).bind_yields fun c c' hc => ?_
  refine (X.joinClause h.joins).bind_yields fun d d' hd => ?_
  refine (X.conditionClause .where_ where_ h.wheres).bind_yields fun e e' he => ?_
  refine (X.groupClause h.groups).bind_yields fun f f' hf => ?_
  refine (X.conditionClause .having having_ h.havings).bind_yields fun g g' hg => ?_
  refine (X.orderClause h.orders kept).bind_yields fun i i' hi => ?_
  refine (X.paging h.limit h.offset (isEmpty_eq h.orders)).bind_yields fun p p' hp => ?_
  refine (X.unionClause h.unions).bind_yields fun u u' hu => ?_
  refine (X.lockClause h.lock h.wait h.lockTables).bind_yields fun l l' hl => .pure ⟨?_, by simp, by simp⟩
  have clauses : Forall₂ D.Frag [a, b, c, d, e, f, g, i] [a', b', c', d', e', f', g', i'] := by
    simp [ha, hb, hc, hd, he, hf, hg, hi]
  exact (((Frag.separated X.blank clauses).append_tail hp).append_tail hu).append_tail hl

/-- Statements whose values may go without their text, or that show what they bind. -/
theorem body {method : Method} {st st' : Statement Value} (h : D.BodyLike L method st st')
    (kept : D.Lax ∨ X.left.KeepsBody method st) :
    D.RendersSql (X.left.body method st) (X.right.body method st') := by
  cases method with
  | select => exact X.select h kept
  | first => exact X.select h kept
  | insert => exact X.insert h (kept.imp_left (·.stray h.allowed))
  | update => exact X.update h
  | delete => exact X.delete h
  | upsert => exact X.upsert h (kept.imp_left (·.stray h.allowed))
  | truncate => exact X.truncate h

theorem commented (X : D.Setting L) {comments : List String}
    (fits : ∀ comment ∈ comments, D.piece (.comment comment)) {a a' : Sql} (ha : D.Frag a a') :
    D.Frag (Scope.commented comments a) (Scope.commented comments a') := by
  unfold Scope.commented
  induction comments with
  | nil => exact ha
  | cons comment comments ih =>
    have rest := ih fun comment hc => fits comment (.tail _ hc)
    exact (Frag.piece (fits comment (.head _)) rfl).append_tail (rest.tail_after X.blank)

@[simp] theorem bindings_commented (comments : List String) (a : Sql) :
    Sql.bindings (Scope.commented comments a) = a.bindings := by
  unfold Scope.commented
  induction comments with
  | nil => rfl
  | cons comment comments ih => simpa [Sql.bindings_cons, Piece.binding?] using ih

/-- Values that go together are undefined on both sides or on neither. -/
theorem anyUndefined (X : D.Setting L) {vs vs' : List Value} (h : Forall₂ D.value vs vs') :
    vs.any Value.containsUndefined = vs'.any Value.containsUndefined :=
  any_eq h fun _ _ hv => X.law.value_undefined hv

theorem columnTexts (X : D.Setting L) (columns : List Value) :
    Tandem D.error (Scope.columnTexts columns) (Scope.columnTexts columns) (Silently Eq) := by
  have all : Tandem D.error (Scope.columnTexts columns) (Scope.columnTexts columns)
      (Yields (Forall₂ Eq) (List.flatMap fun _ => [])) := by
    refine .mapM_self fun column _ => ?_
    split
    · exact .pure ⟨rfl, rfl, rfl⟩
    · exact X.throw_self _
  refine all.mono ?_
  rintro texts texts' _ _ ⟨same, rfl, rfl⟩
  exact ⟨List.forall₂_eq_eq_eq ▸ same, by simp, by simp⟩

theorem checked {method : Method} {st st' : Statement Value} (h : D.BodyLike L method st st')
    (kept : D.Lax ∨ X.left.KeepsBody method st) (comments : st.comments = st'.comments)
    (fits : ∀ comment ∈ st.comments, D.piece (.comment comment)) :
    D.RendersSql (X.left.checked method st) (X.right.checked method st') := by
  unfold Scope.checked
  rw [← comments]
  refine (X.body h kept).bind_yields fun a a' ha => ?_
  have whole := X.commented fits ha
  refine Tandem.get.bind_silent ?_
  rintro p p' agrees
  rw [← agrees.columns, ← whole.text]
  refine .ite (by rw [X.anyUndefined whole.bindings]) (fun _ => ?_) fun _ => .pure ⟨whole, by simp, by simp⟩
  refine (X.columnTexts p.undefinedColumns).bind_silent ?_
  rintro columns _ rfl
  exact X.throw_bind _

/-- Statements that stand for each other are rendered alike. -/
theorem statement {method : Method} {st st' : Statement Value} (h : D.BodyLike L method st st')
    (kept : D.Lax ∨ X.left.KeepsBody method st) (comments : st.comments = st'.comments)
    (fits : ∀ comment ∈ st.comments, D.piece (.comment comment))
    (asName : st.asName = st'.asName) (aliasFits : ∀ v ∈ st.asName, D.Alias v) :
    Tandem D.error (X.left.statement method st) (X.right.statement method st')
      (Yields D.RenderedLike fun r => r.sql.bindings) := by
  unfold Scope.statement
  refine (Tandem.ownColumns (X.checked h kept comments fits)).bind_yields fun a a' ha => ?_
  exact .pure ⟨⟨ha, rfl, asName, aliasFits⟩, by simp, by simp⟩

end Setting

end SqlBuilder.Likeness
