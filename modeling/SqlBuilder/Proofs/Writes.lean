import SqlBuilder.Proofs.Clauses

/-!
# Writes in tandem

Writes that stand for each other are rendered alike. The values that an insert from a query binds are in
the order of their rendering, which is not that of their places.

* `Scope.KeepsBody`: a statement binds its values in the order in which it shows them.
* `Setting.insertRows`: an insert of rows.
* `Setting.insertStatement`: an insert from rows or from a query.
* `Setting.update`, `Setting.delete`, `Setting.truncate`: the other writes.
-/

namespace SqlBuilder

open List (Forall₂)

/-! ## Writes that show what they bind -/

namespace Scope

/-- An insert shows what it binds, in the order in which it is bound: without rows nothing is bound before
them, and before a query that it takes its rows from, the returned columns bind nothing. -/
structure Keeps (s : Scope) (st : Statement Value) (values : Value) : Prop where
  none : isSource values = false → rowsOf values = .ok [] →
    (s.withClause st.commonTables).Silent ∧ (s.table st).Silent
  output : isSource values = true → (s.outputClause "inserted" st.returning).Silent

/-- A statement of a kind shows what it binds, in the order in which it is bound, and binds what it shows. -/
def KeepsBody (s : Scope) (method : Method) (st : Statement Value) : Prop :=
  match method with
  | .select | .first => ∀ e ∈ st.orders, s.KeepsEntry e
  | .insert => s.Keeps st (st.insert.getD .null)
  | .upsert => s.Keeps st (st.upsert.getD .null)
  | .update | .delete | .truncate => True

/-- The columns of some rows, and one more if it is not among them. -/
def withColumn (columns : List RowColumn) (c : RowColumn) : List RowColumn :=
  if columns.any fun d => d.same c then columns else columns ++ [c]

theorem bindings_sourced (o a : Sql) : (sourced o a).bindings = a.bindings ++ o.bindings := by
  unfold sourced
  simp only
  split
  next none => simp [List.isEmpty_iff.mp none]
  next => exact Sql.bindings_refill (by simp [Nat.add_comm])

theorem texts_sourced (o a : Sql) : (sourced o a).texts = (o ++ Sql.word " " ++ a).texts := by
  unfold sourced
  simp only
  split
  · rfl
  · exact Sql.texts_refill _ _

/-- A fragment that begins with a keyword has text. -/
theorem not_blank (keyword : String) {sql : Sql} {P : Prop} (blank : sql.isBlank = true)
    (first : Piece.word (keyword ++ " ") ∈ sql) : P := by
  have empty := List.all_eq_true.mp blank _ first
  simp [Piece.text] at empty

/-- An insert of rows without text has none. -/
theorem insertRows_blank {s : Scope} {keyword : String} {table : Sql} {st : Statement Value} {rows : List Row} :
    (s.insertRows keyword table st rows).Returns fun sql => sql.isBlank = true → rows = [] := by
  unfold insertRows
  split
  · exact .pure fun _ => rfl
  · exact .bind fun _ => .pure fun blank => not_blank keyword blank (by simp [Sql.word])
  · refine .bind fun _ => .bind fun _ => .bind fun _ => .bind fun _ => .bind fun _ => ?_
    split
    · exact .bind fun _ => .bind fun _ => .pure fun blank => not_blank keyword blank (by simp [Sql.word])
    · exact .bind fun _ => .bind fun _ => .pure fun blank => not_blank keyword blank (by simp [Sql.word])

/-- The statement of an insert without text has no rows. -/
theorem insertStatement_blank {s : Scope} {keyword : String} {st : Statement Value} {values : Value} :
    (s.insertStatement keyword st values).Returns fun sql =>
      sql.isBlank = true → isSource values = false ∧ rowsOf values = .ok [] := by
  unfold insertStatement
  refine .bind fun table => ?_
  split
  · exact .bind fun _ => .bind fun _ => .pure fun blank => not_blank keyword blank (by simp [Sql.word])
  next rows =>
    cases ok : rowsOf values with
    | error e => exact .bind_of (Q := fun _ => False) (.throw e) fun _ h => h.elim
    | ok rows' =>
      simp only [liftCompile, pure_bind]
      exact fun p sql p' run blank => ⟨by simpa using rows, by rw [insertRows_blank p sql p' run blank]⟩

end Scope

namespace Likeness

namespace Setting

variable {D : Likeness} {L : Level} (X : D.Setting L)

/-- A statement without text drops the values of its common tables. -/
theorem afterWith (X : D.Setting L) {t t' a a' : Sql} (kept : D.Drops ∨ (a.isBlank = true → t.bindings = []))
    (ht : D.Frag t t') (ha : D.Frag a a') : D.Frag (Scope.afterWith t a) (Scope.afterWith t' a') := by
  unfold Scope.afterWith
  rw [← ha.isBlank]
  split
  next blank =>
    exact (ht.strayed (kept.imp_right (· blank))).toFrag.append ha fun _ => .inr (partsBefore_blank blank)
  next => exact .separated X.blank (.cons ht (.cons ha .nil))

@[simp] theorem bindings_afterWith (t a : Sql) :
    Sql.bindings (Scope.afterWith t a) = t.bindings ++ a.bindings := by
  unfold Scope.afterWith
  split <;> simp

/-! ## Returned columns -/

theorem outputClause {source : String} (h : D.Opening (source ++ ".")) {vs vs' : List Value}
    (hvs : Forall₂ (D.Column L) vs vs') :
    D.RendersTail (X.left.outputClause source vs) (X.right.outputClause source vs') := by
  have output : D.Joint " output " := X.law.joint (by simp [vocabulary]) rfl rfl
  unfold Scope.outputClause
  rw [left_capabilities, right_capabilities]
  cases hvs with
  | nil => exact nothing
  | cons first rest =>
    cases D.capabilities.returning with
    | suffix => exact nothing
    | unsupported => exact X.unsupported _ _
    | output =>
      refine (fragments (.cons first rest) fun v v' hv => ?_).bind_yields fun as bs hs =>
        .pure ⟨(X.law.commas hs).tail_after output, by simp, by simp⟩
      exact (X.wrap hv).bind_yields fun a a' ha => .pure ⟨ha.after_word h, by simp, by simp⟩

theorem returningClause {vs vs' : List Value} (hvs : Forall₂ (D.Column L) vs vs') :
    D.RendersTail (X.left.returningClause vs) (X.right.returningClause vs') := by
  have returning : D.Joint " returning " := X.law.joint (by simp [vocabulary]) rfl rfl
  unfold Scope.returningClause
  rw [left_capabilities, right_capabilities]
  cases hvs with
  | nil => cases D.capabilities.returning <;> exact nothing
  | cons first rest =>
    cases D.capabilities.returning with
    | suffix =>
      exact (X.columnizeAll (.cons first rest)).bind_yields fun a a' ha =>
        .pure ⟨ha.tail_after returning, by simp, by simp⟩
    | _ => exact nothing

/-! ## Assignments -/

theorem assignment {e e' : Value × Value} (h : D.AssignmentLike L e e') :
    D.RendersSql (X.left.assignment e) (X.right.assignment e') := by
  have becomes : D.Joint " = " := X.law.joint (by simp [vocabulary]) rfl rfl
  obtain ⟨column, tracked, stored⟩ := h
  unfold Scope.assignment
  refine (X.trackUndefined tracked).bind_silent fun _ _ _ => ?_
  refine (X.storable stored).bind_silent fun v v' hv => ?_
  refine (X.wrap column).bind_yields fun a a' ha => (X.parameter hv).bind_yields fun b b' hb => ?_
  exact .pure ⟨ha.between becomes hb, by simp, by simp⟩

theorem assignments {es es' : List (Value × Value)} (h : Forall₂ (D.AssignmentLike L) es es') :
    D.RendersSql (X.left.assignments es) (X.right.assignments es') :=
  (fragments h fun _ _ h => X.assignment h).bind_yields fun as bs hs =>
    .pure ⟨X.law.commas hs, by simp, by simp⟩

theorem counter {c c' : Counter Value} (h : D.CounterLike L c c') :
    D.RendersSql (X.left.counter c) (X.right.counter c') := by
  have becomes : D.Joint " = " := X.law.joint (by simp [vocabulary]) rfl rfl
  have moves : D.Joint (" " ++ c.sign.operator ++ " ") := by
    cases c.sign <;> exact X.law.joint (by decide) rfl rfl
  obtain ⟨column, spelled, sign, step⟩ := h
  unfold Scope.counter
  rw [← column, ← sign]
  refine (X.wrapString spelled).bind_yields fun a a' ha => (X.parameter step).bind_yields fun b b' hb => ?_
  have both := (ha.toFrag.between becomes ha.toFrag).between moves hb
  exact .pure ⟨both, by simp [ha.silent], by simp [ha.silent']⟩

theorem counters {cs cs' : List (Counter Value)} (h : Forall₂ (D.CounterLike L) cs cs') :
    D.RendersSql (X.left.counters cs) (X.right.counters cs') :=
  (fragments h fun _ _ h => X.counter h).bind_yields fun as bs hs =>
    .pure ⟨X.law.commas hs, by simp, by simp⟩

/-! ## Conflicts -/

theorem mergeClause {before after : String} (joint : D.Joint before)
    (closing : (!after.isEmpty) = true → D.Closing after) {columns columns' : List Value}
    (hc : Forall₂ (D.Column L) columns columns') {v v' : Value} (h : D.MergeLike L v v') :
    D.RendersSql (X.left.mergeClause before after columns v)
      (X.right.mergeClause before after columns' v') := by
  cases h with
  | assignments h => exact X.assignments h
  | columns map items =>
    have other (s : Scope) (columns : List Value) : s.mergeClause before after columns v = do
        let columns ← if v.isTruthy then liftCompile v.items else pure columns
        return Sql.commas (← columns.mapM fun column => do
          let target ← s.wrap column
          return target ++ Sql.word before ++ (← s.wrap column) ++
            Sql.when (!after.isEmpty) (Sql.word after)) := by
      cases v <;> first | rfl | cases map
    have each {c c' : List Value} (hc : Forall₂ (D.Column L) c c') : D.RendersSql
        (do
          return Sql.commas (← c.mapM fun column => do
            let target ← X.left.wrap column
            return target ++ Sql.word before ++ (← X.left.wrap column) ++
              Sql.when (!after.isEmpty) (Sql.word after)))
        (do
          return Sql.commas (← c'.mapM fun column => do
            let target ← X.right.wrap column
            return target ++ Sql.word before ++ (← X.right.wrap column) ++
              Sql.when (!after.isEmpty) (Sql.word after))) := by
      refine (fragments hc fun c c' h => ?_).bind_yields fun as bs hs => .pure ⟨X.law.commas hs, by simp, by simp⟩
      refine (X.wrap h).bind_yields fun a a' ha => (X.wrap h).bind_yields fun b b' hb => .pure ⟨?_, by simp, by simp⟩
      exact (ha.between joint hb).append_tail (Frag.when_tail _ closing)
    rw [other, other]
    refine .ite Iff.rfl (fun _ => ?_) fun _ => ?_
    · refine (Tandem.liftCompile_self X.law.error_refl v.items).bind_silent ?_
      rintro c _ ⟨rfl, ok⟩
      exact each (items c ok)
    · simpa only [pure_bind] using each hc

theorem conflictClause {columns columns' : List Value} (hc : Forall₂ (D.Column L) columns columns')
    {c c' : Conflict Value} (h : D.ConflictLike L c c') :
    D.RendersTail (X.left.conflictClause columns c) (X.right.conflictClause columns' c') := by
  have onConflict : D.Closing " on conflict" := X.law.closing (by simp [vocabulary]) rfl
  obtain ⟨targets, merge⟩ := h
  unfold Scope.conflictClause
  rw [left_capabilities, right_capabilities, ← isEmpty_eq targets]
  revert merge
  generalize c.merge = m, c'.merge = m'
  intro merge
  cases D.capabilities.conflict with
  | unsupported => cases merge <;> exact X.unsupported _ _
  | onDuplicateKey =>
    cases merge with
    | none => exact nothing
    | some h =>
      have update : D.Joint " on duplicate key update " := X.law.joint (by simp [vocabulary]) rfl rfl
      have values : D.Joint " = values(" := X.law.joint (by simp [vocabulary]) rfl rfl
      have closed : D.Closing ")" := X.law.closing (by simp [vocabulary]) rfl
      exact (X.mergeClause values (fun _ => closed) hc h).bind_yields fun a a' ha =>
        .pure ⟨ha.tail_after update, by simp, by simp⟩
  | onConflict =>
    have target {a a' : Sql} (ha : D.Frag a a') : D.Tail (Sql.word " " ++ a.parens) (Sql.word " " ++ a'.parens) :=
      (X.law.parens ha).tail_after X.blank
    cases merge with
    | none =>
      have ignored {t t' : Sql} (ht : D.Tail t t') :=
        (onConflict.tail.append ht).append
          (X.law.closing (w := " do nothing") (by simp [vocabulary]) rfl).tail
      refine .ite Iff.rfl (fun _ => .pure ⟨ignored .nil, by simp, by simp⟩) fun _ => ?_
      exact (X.columnizeAll targets).bind_yields fun a a' ha => .pure ⟨ignored (target ha), by simp, by simp⟩
    | some h =>
      have set : D.Joint " do update set " := X.law.joint (by simp [vocabulary]) rfl rfl
      have none : (!"".isEmpty) = true → D.Closing "" := by simp
      have excluded : D.Joint " = excluded." := X.law.joint (by simp [vocabulary]) rfl rfl
      have merged := X.mergeClause excluded none hc h
      have updated {t t' a a' : Sql} (ht : D.Tail t t') (ha : D.Frag a a') :
          D.Tail (Sql.word " on conflict" ++ t ++ Sql.word " do update set " ++ a)
            (Sql.word " on conflict" ++ t' ++ Sql.word " do update set " ++ a') := by
        simpa only [List.append_assoc] using (onConflict.tail.append ht).append (ha.tail_after set)
      refine .ite Iff.rfl (fun _ => ?_) fun _ => ?_
      · exact merged.bind_yields fun a a' ha => .pure ⟨updated .nil ha, by simp, by simp⟩
      · refine (X.columnizeAll targets).bind_yields fun t t' ht => merged.bind_yields fun a a' ha => ?_
        exact .pure ⟨updated (target ht) ha, by simp, by simp⟩

theorem insertKeyword {c c' : Option (Conflict Value)} (h : Option.Rel (D.ConflictLike L) c c') :
    Tandem D.error (X.left.insertKeyword c) (X.right.insertKeyword c')
      (Silently fun a b => a = b ∧ D.Opening (a ++ " ")) := by
  have plain : D.Opening ("insert into" ++ " ") := X.law.opening (by decide) rfl
  have ignoring : D.Opening ("insert ignore into" ++ " ") := X.law.opening (by decide) rfl
  unfold Scope.insertKeyword
  rw [left_capabilities, right_capabilities]
  cases h with
  | none => cases D.capabilities.conflict <;> exact .pure ⟨⟨rfl, plain⟩, rfl, rfl⟩
  | @some c c' h =>
    obtain ⟨columns, merge⟩ := c
    obtain ⟨columns', merge'⟩ := c'
    obtain ⟨-, merge⟩ := h
    cases D.capabilities.conflict with
    | unsupported => exact X.unsupported _ _
    | onConflict => exact .pure ⟨⟨rfl, plain⟩, rfl, rfl⟩
    | onDuplicateKey =>
      cases merge with
      | none => exact .pure ⟨⟨rfl, ignoring⟩, rfl, rfl⟩
      | some _ => exact .pure ⟨⟨rfl, plain⟩, rfl, rfl⟩

/-! ## Rows -/

/-- Rows that stand for each other have the same columns, which may be rendered. -/
theorem rowColumns {rows rows' : List Scope.Row} (h : Forall₂ (Forall₂ (D.CellLike L)) rows rows') :
    Scope.rowColumns rows = Scope.rowColumns rows' ∧
      ∀ c ∈ Scope.rowColumns rows, D.Column L c.name c.name := by
  have cells := List.rel_flatten h
  unfold Scope.rowColumns
  generalize rows.flatten = row, rows'.flatten = row' at cells
  suffices H : ∀ columns : List Scope.RowColumn, (∀ c ∈ columns, D.Column L c.name c.name) →
      row.foldl (fun columns cell => Scope.withColumn columns cell.1) columns =
        row'.foldl (fun columns cell => Scope.withColumn columns cell.1) columns ∧
      ∀ c ∈ row.foldl (fun columns cell => Scope.withColumn columns cell.1) columns, D.Column L c.name c.name
      from H [] (by simp)
  induction cells with
  | nil => exact fun columns hc => ⟨rfl, hc⟩
  | @cons cell cell' _ _ first _ ih =>
    intro columns hc
    simp only [List.foldl_cons, ← first.column]
    refine ih _ ?_
    unfold Scope.withColumn
    split
    · exact hc
    · intro c hmem
      rcases List.mem_append.mp hmem with hmem | hmem
      · exact hc c hmem
      · obtain rfl : c = cell.1 := by simpa using hmem
        exact first.name

/-- What two rows that stand for each other have under a column. -/
theorem cell {row row' : Scope.Row} (h : Forall₂ (D.CellLike L) row row') (column : Scope.RowColumn) :
    Option.Rel (fun v v' => v.containsUndefined = v'.containsUndefined ∧ D.Stored L v v')
      (Scope.cell? row column) (Scope.cell? row' column) := by
  unfold Scope.cell?
  induction h with
  | nil => exact .none
  | @cons cell cell' _ _ first _ ih =>
    simp only [List.find?_cons, ← first.column]
    cases cell.1.same column with
    | true => exact .some ⟨first.undefined, first.stored⟩
    | false => exact ih

theorem missing {rows rows' : List Scope.Row} (h : Forall₂ (Forall₂ (D.CellLike L)) rows rows')
    (columns : List Scope.RowColumn) :
    Tandem D.error (X.left.missing rows columns) (X.right.missing rows' columns) (Silently Eq) := by
  have absent : (columns.any fun c => rows.any fun row => (Scope.cell? row c).isNone) =
      columns.any fun c => rows'.any fun row => (Scope.cell? row c).isNone := by
    congr 1
    funext c
    refine any_eq h fun row row' hr => ?_
    have each := cell hr c
    revert each
    generalize Scope.cell? row c = v, Scope.cell? row' c = v'
    rintro (_ | _) <;> rfl
  have done {m : Scope.Missing} : Tandem D.error (pure m) (pure m) (Silently Eq) := .pure ⟨rfl, rfl, rfl⟩
  unfold Scope.missing
  rw [left_client, right_client, left_capabilities, right_capabilities, absent]
  refine .ite Iff.rfl (fun _ => done) fun _ => .ite Iff.rfl (fun _ => done) fun _ =>
    .ite Iff.rfl (fun _ => ?_) fun _ => done
  exact (Tandem.report _).bind_silent fun _ _ _ => done

theorem rowCell (missing : Scope.Missing) {row row' : Scope.Row} (h : Forall₂ (D.CellLike L) row row')
    (column : Scope.RowColumn) :
    D.RendersOperand (X.left.rowCell missing row column) (X.right.rowCell missing row' column) := by
  unfold Scope.rowCell
  have each := cell h column
  revert each
  generalize Scope.cell? row column = c, Scope.cell? row' column = c'
  rintro (⟨-, stored⟩ | _)
  · exact X.stored stored
  · cases missing with
    | default_ => exact .pure ⟨.word (X.law.words _ (by simp [vocabulary])), rfl, rfl⟩
    | null => exact asOperand (X.bind (X.law.value_refl .null))

theorem rowValues (columns : List Scope.RowColumn) (missing : Scope.Missing) {row row' : Scope.Row}
    (h : Forall₂ (D.CellLike L) row row') :
    D.RendersSql (X.left.rowValues columns missing row) (X.right.rowValues columns missing row') := by
  unfold Scope.rowValues
  refine (Tandem.mapM_self fun c _ => X.rowCell missing h c).bind_yields fun os os' hos => ?_
  refine (X.textuals hos).bind_silent ?_
  rintro as bs ⟨hs, has, hbs⟩
  exact .pure ⟨X.law.parens (X.law.commas hs), by simp [has], by simp [hbs]⟩

theorem trackRows {rows rows' : List Scope.Row}
    (h : Forall₂ (Forall₂ (D.CellLike L)) rows rows') (columns : List Scope.RowColumn) :
    Tandem D.error (Scope.trackRows rows columns) (Scope.trackRows rows' columns) (Silently Eq) := by
  unfold Scope.trackRows
  refine .forM (P := Eq) (List.forall₂_same.mpr fun _ _ => rfl) ?_
  rintro c _ rfl
  refine .ite ?_ (fun _ => .markUndefined _) fun _ => .pure ⟨rfl, rfl, rfl⟩
  rw [any_eq h fun row row' hr => ?_]
  have each := cell hr c
  revert each
  generalize Scope.cell? row c = v, Scope.cell? row' c = v'
  rintro (⟨same, -⟩ | _)
  · exact same
  · rfl

theorem insertRows {keyword : String} (word : D.Opening (keyword ++ " ")) {t t' : Sql} (ht : D.Frag t t')
    {st st' : Statement Value} (returning : Forall₂ (D.Column L) st.returning st'.returning)
    (conflict : Option.Rel (D.ConflictLike L) st.conflict st'.conflict) {rows rows' : List Scope.Row}
    (h : Forall₂ (Forall₂ (D.CellLike L)) rows rows') (kept : D.Drops ∨ (rows = [] → t.bindings = [])) :
    Tandem D.error (X.left.insertRows keyword t st rows) (X.right.insertRows keyword t' st' rows')
      (Extends D.Frag Sql.bindings t.bindings t'.bindings) := by
  obtain ⟨same, named⟩ := rowColumns h
  have inserted : D.Opening ("inserted" ++ ".") := X.law.opening (by decide) rfl
  have values : D.Joint " values " := X.law.joint (by simp [vocabulary]) rfl rfl
  have output := X.outputClause inserted returning
  unfold Scope.insertRows
  rw [← same]
  revert named
  generalize Scope.rowColumns rows = columns
  intro named
  cases h with
  | nil => exact .pure ⟨(ht.strayed (kept.imp_right (· rfl))).toFrag, by simp, by simp⟩
  | cons first rest =>
    cases columns with
    | nil =>
      have target := ht.after_word word
      have closed : D.Closing (" " ++ D.capabilities.emptyInsert) :=
        ⟨X.law.emptyInsert, fun _ => partsBefore_append rfl⟩
      refine output.bind_yields fun a a' ha => .pure ⟨?_, by simp, by simp⟩
      exact (target.append_tail ha).before_word closed
    | cons column columns =>
      have names : Forall₂ (D.Column L) ((column :: columns).map (·.name))
          ((column :: columns).map (·.name)) := by
        rw [List.forall₂_map_left_iff, List.forall₂_map_right_iff]
        exact List.forall₂_same.mpr named
      simp only
      refine (trackRows (.cons first rest) _).bind_silent fun _ _ _ => ?_
      refine (X.columnizeAll names).bind_yields fun n n' hn => ?_
      refine output.bind_yields fun o o' ho => ?_
      refine (X.missing (.cons first rest) _).bind_silent ?_
      rintro missing _ rfl
      refine (fragments (.cons first rest) fun _ _ h => X.rowValues _ missing h).bind_yields fun vs vs' hvs => ?_
      have head : D.Frag
          (Sql.word (keyword ++ " ") ++ t ++ Sql.word " " ++ n.parens ++ o ++ Sql.word " values " ++ Sql.commas vs)
          (Sql.word (keyword ++ " ") ++ t' ++ Sql.word " " ++ n'.parens ++ o' ++ Sql.word " values " ++
            Sql.commas vs') :=
        (((ht.after_word word).between X.blank (X.law.parens hn)).append_tail ho).between values
          (X.law.commas hvs)
      revert conflict
      generalize st.conflict = c, st'.conflict = c'
      rintro (h | _)
      · refine (X.conflictClause names h).bind_yields fun c c' hc => ?_
        refine (X.returningClause returning).bind_yields fun r r' hr => .pure ⟨?_, by simp, by simp⟩
        exact (head.append_tail hc).append_tail hr
      · refine (X.returningClause returning).bind_yields fun r r' hr => .pure ⟨?_, by simp, by simp⟩
        exact (head.append_tail .nil).append_tail hr

/-- A query after the returned columns of an insert. -/
theorem sourced (X : D.Setting L) {o o' a a' : Sql} (kept : D.Drops ∨ o.bindings = []) (ho : D.Tail o o')
    (ha : D.Frag a a') : D.Tail (Scope.sourced o a) (Scope.sourced o' a') := by
  have whole : D.Tail (o ++ Sql.word " " ++ a) (o' ++ Sql.word " " ++ a') := by
    simpa only [List.append_assoc] using ho.append (ha.tail_after X.blank)
  unfold Scope.sourced
  simp only
  rw [← isEmpty_eq ho.bindings]
  split
  next => exact whole
  next some_ =>
    have drops := kept.resolve_right fun none => by simp [none] at some_
    refine ⟨X.law.refill drops (List.rel_append ha.bindings ho.bindings) whole.toFrag, fun spaced => ?_⟩
    unfold Sql.PartsBefore
    rw [Sql.texts_refill]
    exact whole.parts spaced

theorem insertStatement {keyword : String} (word : D.Opening (keyword ++ " ")) {st st' : Statement Value}
    (h : D.WriteLike L st st') (conflict : Option.Rel (D.ConflictLike L) st.conflict st'.conflict)
    {v v' : Value} (hv : D.SourceLike L v v') (kept : D.Drops ∨ X.left.Keeps st v) :
    D.RendersSql (X.left.insertStatement keyword st v) (X.right.insertStatement keyword st' v') := by
  have inserted : D.Opening ("inserted" ++ ".") := X.law.opening (by decide) rfl
  have table : (X.left.table st).Returns fun t =>
      D.Drops ∨ (Scope.isSource v = false → Scope.rowsOf v = .ok [] → t.bindings = []) :=
    fun _ _ _ run => kept.imp_right fun keeps rows none => (keeps.none rows none).2 _ _ _ run
  have output : Scope.isSource v = true → (X.left.outputClause "inserted" st.returning).Returns fun o =>
      D.Drops ∨ o.bindings = [] :=
    fun source _ _ _ run => kept.imp_right fun keeps => keeps.output source _ _ _ run
  unfold Scope.insertStatement
  refine ((X.table h.toFromLike).returns table).bind_extends fun t t' ⟨ht, shown⟩ => ?_
  cases hv with
  | query source source' hq =>
    rw [if_pos source, if_pos source']
    refine (X.subquery hq).bind_yields fun a a' ha => ?_
    refine ((X.outputClause inserted h.returning).returns (output source)).bind_yields fun o o' ⟨ho, silent⟩ =>
      .pure ⟨(ht.after_word word).append_tail (X.sourced silent ho ha), ?_, ?_⟩
    · simp [Scope.bindings_sourced]
    · simp [Scope.bindings_sourced]
  | @rows rows _ source source' ok ok' hr =>
    rw [if_neg (by simp [source]), if_neg (by simp [source']), ok, ok']
    have shown' : D.Drops ∨ (rows = [] → t.bindings = []) :=
      shown.imp_right fun shown none => shown source (none ▸ ok)
    simpa only [liftCompile, pure_bind] using X.insertRows word ht h.returning conflict hr shown'
  | none source source' error error' he =>
    rw [if_neg (by simp [source]), if_neg (by simp [source']), error, error']
    exact .throw he

/-! ## Statements -/

/-- An insert after its common tables. -/
theorem written {keyword : String} (word : D.Opening (keyword ++ " ")) {st st' : Statement Value}
    (h : D.WriteLike L st st') (conflict : Option.Rel (D.ConflictLike L) st.conflict st'.conflict)
    {v v' : Value} (hv : D.SourceLike L v v') (kept : D.Drops ∨ X.left.Keeps st v) {t t' : Sql}
    (ht : D.Frag t t')
    (shown : D.Drops ∨ (Scope.isSource v = false → Scope.rowsOf v = .ok [] → t.bindings = [])) :
    Tandem D.error (do return Scope.afterWith t (← X.left.insertStatement keyword st v))
      (do return Scope.afterWith t' (← X.right.insertStatement keyword st' v'))
      (Extends D.Frag Sql.bindings t.bindings t'.bindings) := by
  refine ((X.insertStatement word h conflict hv kept).returns Scope.insertStatement_blank).bind_yields
    fun a a' ⟨ha, blank⟩ => .pure ⟨X.afterWith (shown.imp_right fun shown none => ?_) ht ha, by simp, by simp⟩
  exact shown (blank none).1 (blank none).2

/-- The common tables of an insert bind nothing if it has no rows. -/
theorem tables (X : D.Setting L) {st : Statement Value} {v : Value} (kept : D.Drops ∨ X.left.Keeps st v) :
    (X.left.withClause st.commonTables).Returns fun t =>
      D.Drops ∨ (Scope.isSource v = false → Scope.rowsOf v = .ok [] → t.bindings = []) :=
  fun _ _ _ run => kept.imp_right fun keeps rows none => (keeps.none rows none).1 _ _ _ run

theorem insert {st st' : Statement Value} (h : D.InsertLike L st st')
    (kept : D.Drops ∨ X.left.Keeps st (st.insert.getD .null)) :
    D.RendersSql (X.left.insert st) (X.right.insert st') := by
  unfold Scope.insert
  refine ((X.withClause h.commonTables).returns (X.tables kept)).bind_extends fun t t' ⟨ht, shown⟩ => ?_
  refine (X.insertKeyword h.conflict).bind_silent ?_
  rintro keyword _ ⟨rfl, word⟩
  exact X.written word h.toWriteLike h.conflict h.source kept ht shown

theorem upsert {st st' : Statement Value} (h : D.UpsertLike L st st')
    (kept : D.Drops ∨ X.left.Keeps st (st.upsert.getD .null)) :
    D.RendersSql (X.left.upsert st) (X.right.upsert st') := by
  have word : D.Opening ("upsert into" ++ " ") := X.law.opening (by decide) rfl
  have given : st.conflict.isSome = st'.conflict.isSome := by
    have conflict := h.conflict
    revert conflict
    generalize st.conflict = c, st'.conflict = c'
    rintro (_ | _) <;> rfl
  unfold Scope.upsert
  rw [left_capabilities, right_capabilities, ← given]
  refine .ite Iff.rfl (fun _ => X.unsupported_bind _ _) fun _ => ?_
  refine ((X.withClause h.commonTables).returns (X.tables kept)).bind_extends fun t t' ⟨ht, shown⟩ => ?_
  cases D.capabilities.upsert with
  | unsupported => exact X.unsupported _ _
  | into => exact X.written word h.toWriteLike h.conflict h.source kept ht shown

theorem filtered {source : String} (word : D.Opening (source ++ ".")) {st st' : Statement Value}
    (h : D.DeleteLike L st st') :
    D.RendersTail (X.left.filtered source st) (X.right.filtered source st') := by
  have where_ : D.Joint (" where" ++ " ") := X.law.joint (by decide) rfl rfl
  unfold Scope.filtered
  refine (X.outputClause word h.returning).bind_yields fun o o' ho => ?_
  refine (X.conditionTail .where_ where_ h.wheres).bind_yields fun a a' ha => ?_
  refine (X.returningClause h.returning).bind_yields fun r r' hr => .pure ⟨?_, by simp, by simp⟩
  exact (ho.append ha).append hr

theorem delete {st st' : Statement Value} (h : D.DeleteLike L st st') :
    D.RendersSql (X.left.delete st) (X.right.delete st') := by
  have word : D.Opening "delete from " := X.law.opening (by simp [vocabulary]) rfl
  have deleted : D.Opening ("deleted" ++ ".") := X.law.opening (by decide) rfl
  unfold Scope.delete
  refine (X.withClause h.commonTables).bind_yields fun w w' hw => ?_
  refine (X.table h.toFromLike).bind_yields fun t t' ht => ?_
  refine (X.filtered deleted h).bind_yields fun a a' ha => .pure ⟨?_, by simp, by simp⟩
  have text : D.Drops ∨ ((Sql.word "delete from " ++ t ++ a).isBlank = true → w.bindings = []) :=
    .inr fun blank => by simp [Sql.isBlank, Sql.word, Piece.text] at blank
  exact X.afterWith text hw ((ht.after_word word).append_tail ha)

theorem update {st st' : Statement Value} (h : D.UpdateLike L st st') :
    D.RendersSql (X.left.update st) (X.right.update st') := by
  have word : D.Opening "update " := X.law.opening (by simp [vocabulary]) rfl
  have inserted : D.Opening ("inserted" ++ ".") := X.law.opening (by decide) rfl
  have set : D.Joint " set " := X.law.joint (by simp [vocabulary]) rfl rfl
  unfold Scope.update
  rw [← h.lock, ← h.wait, ← isEmpty_eq h.values, ← isEmpty_eq h.counters]
  refine (X.withClause h.commonTables).bind_yields fun w w' hw => ?_
  refine (X.table h.toFromLike).bind_yields fun t t' ht => ?_
  refine (X.tableHint st.lock st.wait).bind_yields fun l l' hl => ?_
  have changed {c c' : List Sql} (hc : Forall₂ D.Frag c c') : Tandem D.error
      (if c.isEmpty = true then do
        throw .emptyUpdate
        let rest ← X.left.filtered "inserted" st
        pure (Scope.afterWith w (Sql.word "update " ++ t ++ l ++ Sql.word " set " ++ Sql.commas c ++ rest))
      else do
        let rest ← X.left.filtered "inserted" st
        pure (Scope.afterWith w (Sql.word "update " ++ t ++ l ++ Sql.word " set " ++ Sql.commas c ++ rest)))
      (if c'.isEmpty = true then do
        throw .emptyUpdate
        let rest ← X.right.filtered "inserted" st'
        pure (Scope.afterWith w' (Sql.word "update " ++ t' ++ l' ++ Sql.word " set " ++ Sql.commas c' ++ rest))
      else do
        let rest ← X.right.filtered "inserted" st'
        pure (Scope.afterWith w' (Sql.word "update " ++ t' ++ l' ++ Sql.word " set " ++ Sql.commas c' ++ rest)))
      fun x y ws ws' => Yields D.Frag Sql.bindings x y
        (w.bindings ++ (t.bindings ++ (l.bindings ++ (c.flatMap Sql.bindings ++ ws))))
        (w'.bindings ++ (t'.bindings ++ (l'.bindings ++ (c'.flatMap Sql.bindings ++ ws')))) := by
    refine .ite (by rw [isEmpty_eq hc]) (fun _ => X.throw_bind _) fun _ => ?_
    have head := ((ht.after_word word).append_tail hl).between set (X.law.commas hc)
    refine (X.filtered inserted h.toDeleteLike).bind_yields fun a a' ha => .pure ⟨?_, by simp, by simp⟩
    refine X.afterWith (.inr fun blank => ?_) hw (head.append_tail ha)
    simp [Sql.isBlank, Sql.word, Piece.text] at blank
  simp only [pure_bind]
  refine .ite Iff.rfl (fun _ => .ite Iff.rfl (fun _ => changed .nil) fun _ => ?_) fun _ => ?_
  · exact (X.counters h.counters).bind_yields fun c c' hc => by simpa using changed (.cons hc .nil)
  · refine (X.assignments h.values).bind_yields fun a a' ha => .ite Iff.rfl (fun _ => ?_) fun _ => ?_
    · simpa using changed (.cons ha .nil)
    · exact (X.counters h.counters).bind_yields fun c c' hc => by simpa using changed (.cons ha (.cons hc .nil))

/-! ## Truncations -/

/-- A template without slots is its text. -/
theorem spelled_plain (text : String) (cs : List Char) :
    Sql.spelled text (cs.map .plain) = Sql.word (String.ofList cs) := by
  unfold Sql.spelled
  congr 1
  apply String.toList_injective
  rw [String.toList_ofList, String.toList_join]
  induction cs with
  | nil => rfl
  | cons c cs ih => simpa using ih

/-- A template with one slot that is filled. -/
theorem filled_slot (before after : List Char) (a : Sql) :
    Sql.filled a (before.map .plain ++ .token () :: after.map .plain) =
      Sql.word (String.ofList before) ++ a ++ Sql.word (String.ofList after) := by
  have head (p : Text.Lexeme Unit → Bool) (plain : ∀ c, p (.plain c) = true) (slot : p (.token ()) = false) :
      List.takeWhile p (before.map .plain ++ .token () :: after.map .plain) = before.map .plain := by
    rw [List.takeWhile_append_of_pos (by simpa using fun c _ => plain c),
      List.takeWhile_cons_of_neg (by simp [slot]), List.append_nil]
  simp only [Sql.filled]
  rw [head _ (fun _ => rfl) rfl, List.drop_left, spelled_plain]
  simp only [spelled_plain]

theorem filled (X : D.Setting L) {parts : List (Text.Lexeme Unit)}
    (h : D.Slotted parts) {a a' : Sql} (ha : D.Frag a a') :
    D.Frag (Sql.filled a parts) (Sql.filled a' parts) := by
  rcases h with liberal | ⟨before, after, rfl, opening, word, closing⟩
  · have spelled (text : String) (parts : List (Text.Lexeme Unit)) :
        D.Frag (Sql.spelled text parts) (Sql.spelled text parts) := .word (X.law.anyPiece liberal _)
    have apart {P : Prop} (spaced : D.spaced) : P := absurd spaced (X.law.unspaced liberal)
    simp only [Sql.filled, ← ha.text]
    split
    next => exact (spelled _ _).append_tail (ha.strayed (.inl fun v => X.law.anyPiece liberal (.stray v)))
    next => exact ((spelled _ _).append ha apart).append (spelled _ _) apart
  · rw [filled_slot, filled_slot]
    refine (ha.after_word opening).append (.word word) fun spaced => .inr ?_
    by_cases last : after = []
    · simp [last, Sql.PartsBefore, Sql.texts, Sql.word, Piece.text]
    · simpa using Sql.partsBefore_word (closing spaced last) []

theorem truncate {st st' : Statement Value} (h : D.TruncateLike L st st') :
    D.RendersSql (X.left.truncate st) (X.right.truncate st') := by
  unfold Scope.truncate
  rw [left_capabilities, right_capabilities]
  cases known : D.capabilities.truncate with
  | container => exact X.throw_self _
  | object => exact X.throw_self _
  | text template =>
    simp only [templateOf, pure_bind]
    refine (X.table h.toFromLike).bind_yields fun t t' ht => ?_
    unfold slotted
    cases braced : Template.braced "table" template with
    | error fault => exact X.throw_self _
    | ok parts =>
      exact .pure ⟨X.filled (X.law.truncate h.allowed template parts known braced) ht, by simp, by simp⟩

end Setting

end Likeness

end SqlBuilder
