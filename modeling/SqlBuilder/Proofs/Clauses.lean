import SqlBuilder.Proofs.Conditions

/-!
# Clauses in tandem

Clauses that stand for each other are rendered alike, from the common tables before a select to the row
locks at its end. Those that follow the statement without a word between may stand after anything.

* `Scope.KeepsEntry`: an order that does not bind twice.
* `Setting.withClause`, `Setting.projection`: what comes before the tables.
* `Setting.tableIn`, `Setting.joinClause`: the tables.
* `Setting.groupClause`, `Setting.orderClause`: groups and orders.
* `Setting.paging`, `Setting.unionClause`, `Setting.lockClause`: what comes at the end.
-/

namespace SqlBuilder

open List (Forall₂)

namespace Scope

/-- Whether an order by a column has it written twice, since the dialect cannot say where the nulls go. -/
def emulatesNulls (s : Scope) (nulls : Option NullsOrder) : Bool :=
  nulls.isSome && !s.capabilities.nativeNullsOrdering

/-- A column that is written twice in the order list binds nothing. -/
def KeepsEntry (s : Scope) : OrderEntry Value → Prop
  | .by_ column _ nulls => s.emulatesNulls nulls = true → (s.wrap column).Silent
  | .raw _ => True

/-- A row lock of a mode on some tables, with what it does about rows that are locked. -/
def lockRows (s : Scope) (waits : List WaitMode) (mode : LockMode) (wait : Option WaitMode) (tables : Sql) :
    Compile Sql := do
  let wait ← match wait with
    | none => pure []
    | some wait => do
      if !waits.contains wait then s.unsupported wait.name
      pure (Sql.word (waitWords wait))
  return Sql.word (lockWords mode) ++ tables ++ wait

end Scope

namespace Likeness.Setting

variable {D : Likeness} {L : Level} (X : D.Setting L)

theorem isEmpty_eq {α β : Type} {P : α → β → Prop} {xs : List α} {ys : List β} (h : Forall₂ P xs ys) :
    xs.isEmpty = ys.isEmpty := by
  cases h <;> rfl

theorem aliasedIf {a a' : Sql} (ha : D.Frag a a') {asName : Value} (fits : D.Alias asName) :
    Tandem D.error (X.left.aliasedIf a asName) (X.right.aliasedIf a' asName)
      (Extends D.Frag Sql.bindings a.bindings a'.bindings) := by
  unfold Scope.aliasedIf
  refine .ite Iff.rfl (fun _ => ?_) fun _ => .pure ⟨ha, by simp, by simp⟩
  exact (X.aliasName fits).bind_yields fun b b' hb => .pure ⟨X.aliased ha hb, by simp, by simp⟩

/-! ## Common tables -/

theorem commonTable {t t' : CommonTable Value} (h : D.TableLike L t t') :
    D.RendersSql (X.left.commonTable t) (X.right.commonTable t') := by
  obtain ⟨name, spelled, query, columns, -, materialized⟩ := h
  unfold Scope.commonTable
  rw [← name, ← materialized]
  refine (rendersName (X.wrapString spelled)).bind_extends fun a a' ha => ?_
  extract_lets storage left right
  have stored : D.Frag storage storage ∧ storage.bindings = [] := by
    unfold storage
    rcases t.materialized with _ | _ | _
    · exact ⟨.nil, rfl⟩
    · exact ⟨.word (X.law.words _ (by simp [vocabulary])), rfl⟩
    · exact ⟨.word (X.law.words _ (by simp [vocabulary])), rfl⟩
  have rest {b b' : Sql} (hb : D.Tail b b') : Tandem D.error (left b) (right b')
      (Extends D.Frag Sql.bindings (a.bindings ++ b.bindings) (a'.bindings ++ b'.bindings)) := by
    have as_ : D.Joint " as " := X.law.joint (by simp [vocabulary]) rfl rfl
    refine (X.subquery query).extend fun c c' hc => .pure ⟨?_, by simp [stored.2], by simp [stored.2]⟩
    exact ((ha.append_tail hb).between as_ stored.1).append_tail (X.law.parens_tail hc)
  clear_value left right
  revert columns
  generalize t.columns.filter Value.isTruthy = o, t'.columns.filter Value.isTruthy = o'
  rintro (h | _)
  · refine (X.columnize h).extend fun b b' hb => ?_
    simpa using rest (X.law.parens_tail hb)
  · simpa using rest .nil

theorem withClause {ts ts' : List (CommonTable Value)} (h : Forall₂ (D.TableLike L) ts ts') :
    D.RendersSql (X.left.withClause ts) (X.right.withClause ts') := by
  have same : ts.isEmpty = ts'.isEmpty ∧ ts.any (·.recursive) = ts'.any (·.recursive) := by
    refine ⟨isEmpty_eq h, ?_⟩
    induction h with
    | nil => rfl
    | cons first _ ih => simp [first.recursive, ih]
  unfold Scope.withClause
  rw [← same.1, ← same.2]
  refine .ite Iff.rfl (fun _ => .pure ⟨.nil, rfl, rfl⟩) fun _ => ?_
  refine (fragments h fun _ _ h => X.commonTable h).bind_yields fun as bs hs => .pure ⟨?_, by simp, by simp⟩
  refine (X.law.commas hs).after_word ?_
  split <;> exact X.law.opening (by simp [vocabulary]) rfl

/-! ## The projection -/

/-- A text and its parts at the keyword of an alias have the same characters. -/
theorem spelled_splitAlias {text target asName : String}
    (h : Scope.splitAlias? text = some (target, asName)) (spelled : D.Spelled text) :
    D.Spelled target ∧ D.Spelled asName := by
  unfold Scope.splitAlias? at h
  obtain ⟨i, -, parts⟩ := Option.map_eq_some_iff.mp h
  obtain ⟨rfl, rfl⟩ := Prod.mk.inj parts
  constructor
  · intro c hc
    rw [String.toList_ofList] at hc
    exact spelled c (List.mem_of_mem_take hc)
  · intro c hc
    rw [String.toList_ofList] at hc
    exact spelled c (List.mem_of_mem_drop hc)

theorem Column.text_left {text : String} {v' : Value} (h : D.Column L (.str text) v') :
    v' = .str text ∧ D.Spelled text := by
  cases h with
  | name _ h => exact ⟨rfl, h⟩
  | builder h => cases h
  | other _ _ _ scalar _ => cases scalar

theorem Column.text_right {text : String} {v : Value} (h : D.Column L v (.str text)) : v = .str text := by
  cases h with
  | name _ _ => rfl
  | builder h => cases h
  | other _ _ _ scalar _ => cases scalar

/-- The operands of two aggregates are alike with their aliases split off, and the aliases are one. -/
theorem aggregateOperand {v v' asName : Value} (h : D.Columns L v v') (fits : D.Alias asName) :
    D.Columns L (Scope.aggregateOperand v asName).1 (Scope.aggregateOperand v' asName).1 ∧
      (Scope.aggregateOperand v asName).2 = (Scope.aggregateOperand v' asName).2 ∧
        D.Alias (Scope.aggregateOperand v asName).2 := by
  have plain {w : Value} (hw : ¬ ∃ text, w = .str text ∧ asName = .null) :
      Scope.aggregateOperand w asName = (w, asName) := by
    unfold Scope.aggregateOperand
    split
    next text => exact absurd ⟨text, rfl, rfl⟩ hw
    next => rfl
  have column : v.sequence? = none → v'.sequence? = none → D.Column L v v' := by
    intro single single'
    rcases Columns.cases h with ⟨cs, cs', sequence, -⟩ | ⟨-, -, h⟩
    · exact absurd (single ▸ sequence) (by simp)
    · exact h
  by_cases ht : ∃ text, v = .str text ∧ asName = .null
  · obtain ⟨text, rfl, rfl⟩ := ht
    have single : v'.sequence? = none := 
      Option.not_isSome_iff_eq_none.mp (h.sequence ▸ Bool.false_ne_true)
    obtain ⟨rfl, spelled⟩ := Column.text_left (column rfl single)
    simp only [Scope.aggregateOperand]
    cases split : Scope.splitAlias? text with
    | none => exact ⟨h, trivial, fits⟩
    | some parts =>
      obtain ⟨target, name⟩ := parts
      obtain ⟨ht, hn⟩ := spelled_splitAlias split spelled
      refine ⟨⟨rfl, .cons (.name rfl ht) .nil⟩, trivial, ?_⟩
      rintro _ ⟨⟩
      exact hn
  · have ht' : ¬ ∃ text, v' = .str text ∧ asName = .null := by
      rintro ⟨text, rfl, rfl⟩
      have single : v.sequence? = none :=
        Option.not_isSome_iff_eq_none.mp (h.sequence ▸ Bool.false_ne_true)
      exact ht ⟨text, Column.text_right (column single rfl), rfl⟩
    rw [plain ht, plain ht']
    exact ⟨h, rfl, fits⟩

theorem aggregate {function : String} {v v' asName : Value} (distinct : Bool)
    (plain : D.piece (.word (function ++ "("))) (word : D.piece (.word (function ++ "(distinct ")))
    (fits : D.Alias asName) (h : D.Columns L v v') :
    D.RendersSql (X.left.aggregate function v distinct asName)
      (X.right.aggregate function v' distinct asName) := by
  obtain ⟨columns, same, named⟩ := aggregateOperand h fits
  unfold Scope.aggregate
  revert columns same named
  generalize Scope.aggregateOperand v asName = o, Scope.aggregateOperand v' asName = o'
  obtain ⟨w, name⟩ := o
  obtain ⟨w', name'⟩ := o'
  rintro columns rfl named
  have opening : D.Opening (function ++ if distinct then "(distinct " else "(") := by
    cases distinct
    · exact ⟨plain, fun _ => partsAfter_append (by decide)⟩
    · exact ⟨word, fun _ => partsAfter_append (by decide)⟩
  have rest {a a' : Sql} (ha : D.Frag a a') := X.aliasedIf
    ((ha.after_word opening).before_word (X.law.closing (w := ")") (by simp [vocabulary]) rfl)) named
  simp only [Sql.bindings_append, Sql.bindings_word, List.nil_append, List.append_nil] at rest
  rcases Columns.cases columns with ⟨cs, cs', sequence, sequence', h⟩ | ⟨sequence, sequence', h⟩
  · simp only [sequence, sequence']
    exact (X.columnizeAll h).bind_extends fun _ _ ha => rest ha
  · simp only [sequence, sequence']
    exact (X.wrap h).bind_extends fun _ _ ha => rest ha

theorem windowTerms {ts ts' : List (Value × Value)} (h : Forall₂ (D.TermLike L) ts ts') :
    D.RendersSql (X.left.windowTerms ts) (X.right.windowTerms ts') := by
  unfold Scope.windowTerms
  refine (fragments h ?_).bind_yields fun as bs hs => .pure ⟨X.law.commas hs, by simp, by simp⟩
  rintro ⟨column, direction⟩ ⟨column', direction'⟩ ⟨columns, given, word⟩
  refine (X.wrapOperand columns).bind_yields fun o o' ho => (X.textual ho).bind_silent ?_
  rintro a a' ⟨ha, holds, holds'⟩
  refine .ite (by rw [given]) (fun _ => ?_) fun _ => .pure ⟨ha, by simp [holds], by simp [holds']⟩
  refine (X.direction word).bind_yields fun b b' hb => .pure ⟨ha.between X.blank hb, ?_, ?_⟩
  · simp [holds]
  · simp [holds']

theorem window {w w' : Window Value} (h : D.WindowLike L w w') :
    D.RendersSql (X.left.window w) (X.right.window w') := by
  obtain ⟨function, word, asName, fits, raw, order, partitions⟩ := h
  have opens : D.Opening (w.function ++ "() over (") := ⟨word, fun _ => partsAfter_append (by decide)⟩
  have rest {a a' : Sql} (ha : D.Frag a a') := X.aliasedIf
    ((ha.after_word opens).before_word (X.law.closing (w := ")") (by simp [vocabulary]) rfl)) fits
  simp only [Sql.bindings_append, Sql.bindings_word, List.nil_append, List.append_nil] at rest
  have by_ : D.Opening "partition by " := X.law.opening (by simp [vocabulary]) rfl
  have orderBy : D.Opening "order by " := X.law.opening (by simp [vocabulary]) rfl
  have same : w.partitions.isEmpty = w'.partitions.isEmpty :=
    isEmpty_eq partitions
  unfold Scope.window
  rw [← function, ← asName, ← same]
  simp only [pure_bind]
  revert raw
  generalize w.raw = r, w'.raw = r'
  rintro (h | _)
  · refine (X.unwrapOrNothing h).bind_yields fun o o' ho => (X.spell ho).bind ?_
    rintro a a' vs vs' ⟨ha, holds, holds'⟩
    refine (rest ha).mono ?_
    rintro b b' ws ws' ⟨hb, more, more'⟩
    exact ⟨hb, by simp [← more, ← holds], by simp [← more', ← holds']⟩
  · have ordered {p p' : Sql} (hp : D.Head p p') {a a' : Sql} (ha : D.Frag a a') :=
      rest ((hp.append orderBy.head).append_frag ha)
    refine .ite Iff.rfl (fun _ => ?_) fun _ => ?_
    · refine (X.windowTerms order).bind_extends fun a a' ha => ?_
      simpa using ordered .nil ha
    · refine (X.windowTerms partitions).bind_extends fun p p' hp => (X.windowTerms order).extend fun a a' ha => ?_
      simpa using ordered ((hp.after_word by_).head_before X.blank) ha

theorem projectionEntry {e e' : Projection Value} (h : D.ProjectionLike L e e') :
    Tandem D.error (X.left.projectionEntry e) (X.right.projectionEntry e')
      (Yields (Forall₂ D.OperandLike) (List.flatMap Operand.bindings)) := by
  have single {c c' : Compile Sql} (h : D.RendersSql c c') : Tandem D.error
      (do return [Operand.sql (← c)]) (do return [Operand.sql (← c')])
      (Yields (Forall₂ D.OperandLike) (List.flatMap Operand.bindings)) :=
    h.bind_yields fun a a' ha => .pure ⟨.cons ha .nil, by simp, by simp⟩
  unfold Scope.projectionEntry
  cases h with
  | @columns values values' role h =>
    cases role with
    | distinctOn => exact .pure ⟨.nil, rfl, rfl⟩
    | _ => exact .mapM h fun _ _ h => X.wrapOperand h
  | aggregate plain word fits h => exact single (X.aggregate _ plain word fits h)
  | window h => exact single (X.window h)
  | jsonExtract h place fits =>
    simpa only [bind_assoc] using
      single ((X.jsonExtract h place).bind_extends fun a a' ha => X.aliasedIf ha fits)

theorem distinctOnColumns {es es' : List (Projection Value)} (h : Forall₂ (D.ProjectionLike L) es es') :
    Forall₂ (D.Column L) (Scope.distinctOnColumns es) (Scope.distinctOnColumns es') := by
  unfold Scope.distinctOnColumns
  induction h with
  | nil => exact .nil
  | cons first _ ih =>
    rw [List.flatMap_cons, List.flatMap_cons]
    refine List.rel_append ?_ ih
    cases first with
    | @columns _ _ role h => cases role <;> first | exact h | exact .nil
    | _ => exact .nil

theorem any_eq {α β : Type} {P : α → β → Prop} {f : α → Bool} {g : β → Bool} {xs : List α} {ys : List β}
    (h : Forall₂ P xs ys) (same : ∀ x y, P x y → f x = g y) : xs.any f = ys.any g := by
  induction h with
  | nil => rfl
  | cons first _ ih => rw [List.any_cons, List.any_cons, same _ _ first, ih]

theorem distinctClause {es es' : List (Projection Value)} (h : Forall₂ (D.ProjectionLike L) es es') :
    D.RendersHead (X.left.distinctClause es) (X.right.distinctClause es') := by
  have on : es.any Scope.asksDistinctOn = es'.any Scope.asksDistinctOn :=
    any_eq h fun _ _ h => by
      cases h with
      | @columns _ _ role _ => cases role <;> rfl
      | _ => rfl
  have plain : es.any Scope.asksDistinct = es'.any Scope.asksDistinct :=
    any_eq h fun _ _ h => by
      cases h with
      | @columns _ _ role _ => cases role <;> rfl
      | _ => rfl
  unfold Scope.distinctClause
  rw [← on, ← plain]
  refine .ite Iff.rfl (fun _ => ?_) fun _ => .pure ⟨?_, by simp, by simp⟩
  · refine .ite Iff.rfl (fun _ => X.unsupported_bind _ _) fun _ => ?_
    refine (X.columnizeAll (distinctOnColumns h)).bind_yields fun a a' ha => .pure ⟨?_, by simp, by simp⟩
    exact ((X.law.parens ha).after_word (X.law.opening (by simp [vocabulary]) rfl)).head_before X.blank
  · exact Frag.when_head _ (X.law.opening (by simp [vocabulary]) rfl)

/-- A row count that follows the statement. -/
theorem rowCount (X : D.Setting L) {before after : String} (joint : D.Joint before)
    (closing : (!after.isEmpty) = true → D.Closing after) (n : Nat) :
    D.RendersTail (Scope.rowCount before n after) (Scope.rowCount before n after) := by
  unfold Scope.rowCount
  refine (X.bind (X.law.value_refl (.int n))).bind_yields fun a a' ha => .pure ⟨?_, by simp, by simp⟩
  exact (ha.tail_after joint).append (Frag.when_tail _ closing)

theorem topClause (limit offset : Option Nat) :
    D.RendersHead (X.left.topClause limit offset) (X.right.topClause limit offset) := by
  unfold Scope.topClause
  rw [left_capabilities, right_capabilities]
  split
  next n _ =>
    unfold Scope.rowCount
    refine (X.bind (X.law.value_refl (.int n))).bind_yields fun a a' ha => .pure ⟨?_, by simp, by simp⟩
    exact (ha.after_word (X.law.opening (by simp [vocabulary]) rfl)).head_before
      (X.law.joint (by simp [vocabulary]) rfl rfl)
  next => exact .pure ⟨.nil, rfl, rfl⟩

/-- Operands of several entries that have to be texts. -/
theorem entryTexts (X : D.Setting L) {α β : Type} {P : α → β → Prop} {xs : List α} {ys : List β}
    {f : α → Compile (List Operand)} {f' : β → Compile (List Operand)} (h : Forall₂ P xs ys)
    (each : ∀ x y, P x y → Tandem D.error (f x) (f' y)
      (Yields (Forall₂ D.OperandLike) (List.flatMap Operand.bindings))) :
    Tandem D.error
      (do
        let operands ← xs.mapM f
        operands.flatten.mapM Operand.textual)
      (do
        let operands ← ys.mapM f'
        operands.flatten.mapM Operand.textual)
      (Yields (Forall₂ D.Frag) (List.flatMap Sql.bindings)) := by
  have flat (oss : List (List Operand)) :
      oss.flatten.flatMap Operand.bindings = oss.flatMap (List.flatMap Operand.bindings) := by
    induction oss with
    | nil => rfl
    | cons os _ ih => simp [ih]
  refine (Tandem.mapM h each).bind_yields fun oss oss' hoss => ?_
  refine (X.textuals (List.rel_flatten hoss)).mono ?_
  rintro as bs _ _ ⟨⟨hs, has, hbs⟩, rfl, rfl⟩
  exact ⟨hs, by simp [has, flat], by simp [hbs, flat]⟩

theorem projection {es es' : List (Projection Value)} (h : Forall₂ (D.ProjectionLike L) es es')
    (limit offset : Option Nat) :
    D.RendersSql (X.left.projection es limit offset) (X.right.projection es' limit offset) := by
  have select : D.Head (Sql.word "select ") (Sql.word "select ") :=
    (X.law.opening (by simp [vocabulary]) rfl).head
  have whole {c c' : Sql} (hc : D.Frag c c') : D.Frag
      (if c.isBlank then c ++ Sql.word "*" else c) (if c'.isBlank then c' ++ Sql.word "*" else c') := by
    rw [← hc.isBlank]
    split
    next blank =>
      exact hc.append (.word (X.law.words _ (by simp [vocabulary]))) fun _ => .inl (partsAfter_blank blank)
    next => exact hc
  have holds (c : Sql) : Sql.bindings (if c.isBlank then c ++ Sql.word "*" else c) = c.bindings := by
    split <;> simp
  unfold Scope.projection
  refine (X.distinctClause h).bind_yields fun d d' hd => (X.topClause limit offset).bind_yields fun t t' ht => ?_
  have columns := (X.entryTexts h fun _ _ h => X.projectionEntry h).bind_yields
    (R := fun x y ws ws' =>
      Yields D.Frag Sql.bindings x y (d.bindings ++ (t.bindings ++ ws)) (d'.bindings ++ (t'.bindings ++ ws')))
    fun as bs hs => .pure
      ⟨((select.append hd).append ht).append_frag (whole (X.law.commas hs)), by simp [holds], by simp [holds]⟩
  simpa only [bind_assoc] using columns

/-! ## Tables -/

theorem tableIn {schema : Option Value} (shown : D.SchemaShown schema) {table table' : Value}
    (h : D.Column L table table') :
    D.RendersSql (X.left.tableIn schema table) (X.right.tableIn schema table') := by
  by_cases ht : ∃ name, table = .str name
  · obtain ⟨name, rfl⟩ := ht
    obtain ⟨rfl, spelled⟩ := Column.text_left h
    exact (X.inSchema shown spelled).bind_silent fun a b ⟨same, hab⟩ => same ▸ rendersName (X.wrapString hab)
  · have ht' : ¬ ∃ name, table' = .str name := by
      rintro ⟨name, rfl⟩
      exact ht ⟨name, Column.text_right h⟩
    have other (s : Scope) {table : Value} (ht : ¬ ∃ name, table = .str name) :
        s.tableIn schema table = s.wrap table := by
      unfold Scope.tableIn
      split
      next name => exact absurd ⟨name, rfl⟩ ht
      next => rfl
    rw [other _ ht, other _ ht']
    exact X.wrap h

theorem table {st st' : Statement Value} (h : D.FromLike L st st') :
    D.RendersSql (X.left.table st) (X.right.table st') := by
  obtain ⟨schema, shown, table⟩ := h
  unfold Scope.table
  rw [← schema]
  revert table
  generalize st.table = t, st'.table = t'
  rintro (h | _)
  · exact X.tableIn shown h
  · exact X.throw_self _

theorem tableHint (lock : Option LockMode) (wait : Option WaitMode) :
    D.RendersTail (X.left.tableHint lock wait) (X.right.tableHint lock wait) := by
  have hint {hint : String} (known : " with (" ++
      Text.joinWith ", " ([hint, "ROWLOCK"] ++ (wait.map Scope.waitHint).toList) ++ ")" ∈ vocabulary) :
      D.RendersTail
        (pure (Sql.word (" with (" ++
          Text.joinWith ", " ([hint, "ROWLOCK"] ++ (wait.map Scope.waitHint).toList) ++ ")")))
        (pure (Sql.word (" with (" ++
          Text.joinWith ", " ([hint, "ROWLOCK"] ++ (wait.map Scope.waitHint).toList) ++ ")"))) := by
    refine .pure ⟨(X.law.closing known ?_).tail, by simp, by simp⟩
    exact partsBefore_append (partsBefore_append rfl)
  unfold Scope.tableHint
  rw [left_capabilities, right_capabilities]
  split
  next mode _ =>
    cases mode with
    | forUpdate =>
      refine hint ?_
      rcases wait with _ | _ | _ <;> decide
    | forShare =>
      refine hint ?_
      rcases wait with _ | _ | _ <;> decide
    | _ => exact X.unsupported_bind _ _
  next => exact .pure ⟨.nil, rfl, rfl⟩

theorem join {j j' : Join Value} (h : D.JoinLike L j j') :
    D.RendersOperand (X.left.join j) (X.right.join j') := by
  unfold Scope.join
  rw [← h.raw, ← h.kind, ← h.schema]
  refine .ite Iff.rfl (fun raw => X.unwrapOrNothing (h.expression raw)) fun named => ?_
  have named : j.raw = false := by simpa using named
  have word : D.Opening (j.kind ++ " join ") := ⟨h.word named, fun _ => partsAfter_append (by decide)⟩
  refine (X.tableIn (h.schemaShown named) (h.table named)).bind_yields fun a a' ha => ?_
  refine (X.joinConditions (h.conditions named)).bind_yields fun b b' hb => .pure ⟨?_, by simp, by simp⟩
  exact (ha.after_word word).append_tail hb

theorem joinClause {js js' : List (Join Value)} (h : Forall₂ (D.JoinLike L) js js') :
    D.RendersSql (X.left.joinClause js) (X.right.joinClause js') := by
  unfold Scope.joinClause
  refine (Tandem.mapM h fun _ _ h => X.join h).bind_yields fun os os' hos => (X.textuals hos).bind_silent ?_
  rintro as bs ⟨hs, has, hbs⟩
  exact .pure ⟨.joined X.blank hs, by simp [has], by simp [hbs]⟩

/-! ## Groups and orders -/

theorem groupEntry {g g' : GroupEntry Value} (h : D.GroupLike L g g') :
    Tandem D.error (X.left.groupEntry g) (X.right.groupEntry g')
      (Yields (Forall₂ D.OperandLike) (List.flatMap Operand.bindings)) := by
  unfold Scope.groupEntry
  rw [← h.raw]
  refine .ite Iff.rfl (fun raw => .mapM (h.expressions raw) fun _ _ h => X.unwrapOrNothing h) fun named => ?_
  refine (X.columnizeAll (h.columns (by simpa using named))).bind_yields fun a a' ha => ?_
  exact .pure ⟨.cons ha .nil, by simp, by simp⟩

theorem groupClause {gs gs' : List (GroupEntry Value)} (h : Forall₂ (D.GroupLike L) gs gs') :
    D.RendersSql (X.left.groupClause gs) (X.right.groupClause gs') := by
  unfold Scope.groupClause
  rw [← isEmpty_eq h]
  refine .ite Iff.rfl (fun _ => .pure ⟨.nil, rfl, rfl⟩) fun _ => ?_
  have groups := (X.entryTexts h fun _ _ h => X.groupEntry h).bind_yields (R := Yields D.Frag Sql.bindings)
    fun as bs hs => .pure
      ⟨(X.law.commas hs).after_word (X.law.opening (w := "group by ") (by simp [vocabulary]) rfl),
        by simp, by simp⟩
  simpa only [bind_assoc] using groups

theorem orderBy {column column' direction direction' : Value} {nulls : Option NullsOrder}
    (left : D.Column L column column') (word : D.Word L direction direction')
    (native : nulls.isSome = true → D.capabilities.nativeNullsOrdering = true ∨ D.freezes)
    (kept : D.Lax ∨ (X.left.emulatesNulls nulls = true → (X.left.wrap column).Silent)) :
    D.RendersSql (X.left.orderBy column direction nulls) (X.right.orderBy column' direction' nulls) := by
  have bound : (X.left.wrap column).Returns fun a =>
      D.Lax ∨ (X.left.emulatesNulls nulls = true → a.bindings = []) :=
    fun _ _ _ run => kept.imp_right fun silent emulates => silent emulates _ _ _ run
  unfold Scope.orderBy
  refine ((X.wrap left).returns bound).bind_yields fun a a' ⟨ha, once⟩ => ?_
  refine (X.direction word).bind_yields fun b b' hb => ?_
  have plain : D.Frag (a ++ Sql.word " " ++ b) (a' ++ Sql.word " " ++ b') := ha.between X.blank hb
  cases nulls with
  | none => exact .pure ⟨plain, by simp, by simp⟩
  | some nulls =>
    refine .ite Iff.rfl (fun _ => .pure ⟨plain.before_word ?_, by simp, by simp⟩) fun foreign => ?_
    · cases nulls <;> exact X.law.closing (by simp [vocabulary, NullsOrder.word]) rfl
    · have emulates : X.left.emulatesNulls (some nulls) = true := by
        simpa [Scope.emulatesNulls] using foreign
      have again := ha.frozen (once.imp (·.mark ((native rfl).resolve_left foreign)) (· emulates))
      have tested {w : String} (test : D.Closing w) :=
        ((X.law.parens (ha.before_word test)).between X.comma again).between X.blank hb
      refine .pure ⟨?_, by simp, by simp⟩
      cases nulls <;> exact tested (X.law.closing (by simp [vocabulary]) rfl)

theorem orderEntry {e e' : OrderEntry Value} (h : D.OrderLike L e e') (kept : D.Lax ∨ X.left.KeepsEntry e) :
    D.RendersOperand (X.left.orderEntry e) (X.right.orderEntry e') := by
  unfold Scope.orderEntry
  cases h with
  | by_ left word native =>
    exact (X.orderBy left word native kept).bind_yields fun a a' ha => .pure ⟨ha, by simp, by simp⟩
  | raw h => exact X.unwrapOrNothing h

theorem orderClause {es es' : List (OrderEntry Value)} (h : Forall₂ (D.OrderLike L) es es')
    (kept : D.Lax ∨ ∀ e ∈ es, X.left.KeepsEntry e) :
    D.RendersSql (X.left.orderClause es) (X.right.orderClause es') := by
  have each : Forall₂ (fun e e' => (D.Lax ∨ X.left.KeepsEntry e) ∧ D.OrderLike L e e') es es' :=
    (List.forall₂_and_left es es').mpr ⟨fun e he => kept.imp_right (· e he), h⟩
  unfold Scope.orderClause
  rw [← isEmpty_eq h]
  refine .ite Iff.rfl (fun _ => .pure ⟨.nil, rfl, rfl⟩) fun _ => ?_
  have orderBy : D.Opening "order by " := X.law.opening (by simp [vocabulary]) rfl
  refine (Tandem.mapM each fun _ _ h => X.orderEntry h.2 h.1).bind_yields fun os os' hos =>
    (X.textuals hos).bind_silent ?_
  rintro as bs ⟨hs, has, hbs⟩
  exact .pure ⟨(X.law.commas hs).after_word orderBy, by simp [has], by simp [hbs]⟩

/-! ## The end of a select -/

/-- Nothing after the statement. -/
theorem nothing {D : Likeness} : D.RendersTail (pure []) (pure []) :=
  .pure ⟨.nil, rfl, rfl⟩

/-- What may follow the statement, before a row count that does if there is one. -/
theorem counted (X : D.Setting L) {before after : String} (joint : D.Joint before)
    (closing : (!after.isEmpty) = true → D.Closing after) (count : Option Nat) {a a' : Sql}
    (ha : D.Tail a a') :
    Tandem D.error
      (match count with
        | some n => do return a ++ (← Scope.rowCount before n after)
        | none => pure a)
      (match count with
        | some n => do return a' ++ (← Scope.rowCount before n after)
        | none => pure a') (Extends D.Tail Sql.bindings a.bindings a'.bindings) := by
  cases count with
  | none => exact .pure ⟨ha, by simp, by simp⟩
  | some n =>
    refine (X.rowCount joint closing n).bind_yields fun b b' hb => .pure ⟨ha.append hb, by simp, by simp⟩

theorem paging {st st' : Statement Value} (limit : st.limit = st'.limit) (offset : st.offset = st'.offset)
    (orders : st.orders.isEmpty = st'.orders.isEmpty) :
    D.RendersTail (X.left.paging st) (X.right.paging st') := by
  have limit_ : D.Joint " limit " := X.law.joint (by simp [vocabulary]) rfl rfl
  have offset_ : D.Joint " offset " := X.law.joint (by simp [vocabulary]) rfl rfl
  have fetch : D.Joint " fetch next " := X.law.joint (by simp [vocabulary]) rfl rfl
  have rows : D.Closing " rows" := X.law.closing (by simp [vocabulary]) rfl
  have rowsOnly : D.Closing " rows only" := X.law.closing (by simp [vocabulary]) rfl
  unfold Scope.paging
  rw [left_capabilities, right_capabilities, ← limit, ← offset, ← orders]
  generalize st.limit = limit, st.offset = offset, st.orders.isEmpty = unordered
  cases known : D.capabilities.paging with
  | limitOffset stand =>
    have none : (!"".isEmpty) = true → D.Closing "" := by simp
    have rest {a a' : Sql} (ha : D.Tail a a') := X.counted offset_ none offset ha
    simp only [pure_bind]
    split
    next n => exact (X.rowCount limit_ none n).bind_extends fun a a' ha => rest ha
    next _ stand =>
      have word : D.Closing (" limit " ++ stand) :=
        ⟨X.law.limit stand known, fun _ => partsBefore_append rfl⟩
      exact rest word.tail
    next => exact rest .nil
  | offsetFetch useTop order =>
    refine .ite Iff.rfl (fun _ => .pure ⟨.nil, rfl, rfl⟩) fun _ => ?_
    extract_lets stand rest
    have ordered : D.Tail stand stand ∧ stand.bindings = [] := by
      unfold stand
      split
      next order found =>
        obtain ⟨rfl, -⟩ := Option.filter_eq_some_iff.mp found
        exact ⟨Frag.when_tail _ fun _ =>
          ⟨X.law.order useTop order known, fun _ => partsBefore_append rfl⟩, by simp⟩
      next => exact ⟨.nil, rfl⟩
    have whole {a a' : Sql} (ha : D.Tail a a') : Tandem D.error (rest a) (rest a')
        (Extends D.Tail Sql.bindings a.bindings a'.bindings) := by
      have counted := X.counted fetch (fun _ => rowsOnly) limit (ordered.1.append ha)
      simp only [Sql.bindings_append, ordered.2, List.nil_append] at counted
      exact counted
    clear_value rest
    simp only [pure_bind]
    split
    next n _ => exact (X.rowCount offset_ (fun _ => rows) n).bind_extends fun a a' ha => whole ha
    next => exact whole (X.law.closing (w := " offset 0 rows") (by simp [vocabulary]) rfl).tail
    next => exact whole .nil

theorem unionClause {os os' : List (SetOperation Value)} (h : Forall₂ (D.OperationLike L) os os') :
    D.RendersTail (X.left.unionClause os) (X.right.unionClause os') := by
  have each {o o' : SetOperation Value} (h : D.OperationLike L o o') : D.RendersTail
      (do
        let body ← X.left.subquery o.query
        return Sql.word (" " ++ o.kind ++ " ") ++ (if o.wrap then body.parens else body))
      (do
        let body ← X.right.subquery o'.query
        return Sql.word (" " ++ o'.kind ++ " ") ++ (if o'.wrap then body.parens else body)) := by
    obtain ⟨query, kind, word, wrap⟩ := h
    rw [← kind, ← wrap]
    have joint : D.Joint (" " ++ o.kind ++ " ") :=
      ⟨⟨word, fun _ => partsAfter_append rfl⟩, ⟨word, fun _ => partsBefore_append (partsBefore_append rfl)⟩⟩
    refine (X.subquery query).bind_yields fun a a' ha => ?_
    cases o.wrap with
    | true => exact .pure ⟨Frag.tail_after joint (X.law.parens ha), by simp, by simp⟩
    | false => exact .pure ⟨Frag.tail_after joint ha, by simp, by simp⟩
  have flat {as as' : List Sql} (hs : Forall₂ D.Tail as as') : D.Tail as.flatten as'.flatten := by
    induction hs with
    | nil => exact .nil
    | cons first _ ih => exact first.append ih
  unfold Scope.unionClause
  exact (Tandem.mapM h fun _ _ h => each h).bind_yields fun as bs hs => .pure ⟨flat hs, by simp, by simp⟩

theorem lockClause {st st' : Statement Value} (lock : st.lock = st'.lock) (wait : st.wait = st'.wait)
    (tables : Forall₂ (D.Column L) st.lockTables st'.lockTables) :
    D.RendersTail (X.left.lockClause st) (X.right.lockClause st') := by
  unfold Scope.lockClause
  rw [left_capabilities, right_capabilities, ← lock, ← wait, ← isEmpty_eq tables]
  generalize st.lock = lock, st.wait = wait
  split
  next => exact nothing
  next => exact X.unsupported _ _
  next =>
    cases wait with
    | none => exact nothing
    | some wait => exact X.unsupported _ _
  next => exact nothing
  next modes waits ofTables mode _ =>
    refine .ite Iff.rfl (fun _ => X.unsupported_bind _ _) fun _ => ?_
    have locked {a a' : Sql} (ha : D.Tail a a') : Tandem D.error (X.left.lockRows waits mode wait a)
        (X.right.lockRows waits mode wait a') (Extends D.Tail Sql.bindings a.bindings a'.bindings) := by
      have words : D.Closing (Scope.lockWords mode) := by
        cases mode <;> exact X.law.closing (by simp [vocabulary, Scope.lockWords]) rfl
      have both := words.tail.append ha
      cases wait with
      | none => exact .pure ⟨both.append .nil, by simp, by simp⟩
      | some wait =>
        refine .ite Iff.rfl (fun _ => X.unsupported_bind _ _) fun _ => .pure ⟨both.append ?_, by simp, by simp⟩
        cases wait <;> exact (X.law.closing (by simp [vocabulary, Scope.waitWords]) rfl).tail
    refine .ite Iff.rfl (fun _ => locked .nil) fun _ => .ite Iff.rfl (fun _ => X.unsupported_bind _ _) fun _ => ?_
    have of_ : D.Joint " of " := X.law.joint (by simp [vocabulary]) rfl rfl
    refine (X.columnizeAll tables).bind_extends fun a a' ha => ?_
    have whole := locked (ha.tail_after of_)
    simp only [Sql.bindings_append, Sql.bindings_word, List.nil_append] at whole
    exact whole

end Likeness.Setting

end SqlBuilder
