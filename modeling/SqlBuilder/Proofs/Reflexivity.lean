import SqlBuilder.Proofs.Counterpart
import SqlBuilder.Proofs.Material

/-!
# Reflexivity

What is made of a material that stands for itself stands for itself: operands, clauses and statements. In a
likeness that admits operands of any kind this is so for everything, at every level; what it relates besides
is then a matter of single places.

* `Allows`: what every result of an outcome has.
* `Likeness.Stands`: the operands of a material stand for themselves, one level down.
* `Stands.query`: so do the queries made of it.
* `Likeness.Liberal`: a likeness that admits operands of any kind.
* `Liberal.level_refl`: everything stands for itself, at every level.
-/

namespace SqlBuilder

/-! ## Outcomes -/

/-- Every result of an outcome has a property. -/
def Allows {α : Type} (P : α → Prop) (x : Except Error α) : Prop :=
  ∀ a, x = .ok a → P a

namespace Allows

variable {α β : Type} {P : α → Prop} {Q : β → Prop}

protected theorem ok {a : α} (h : P a) : Allows P (.ok a) := by
  rintro _ ⟨⟩
  exact h

protected theorem error (e : Error) : Allows P (.error e) := by
  rintro _ ⟨⟩

protected theorem bind {x : Except Error β} {f : β → Except Error α} (hx : Allows Q x)
    (hf : ∀ b, Q b → Allows P (f b)) : Allows P (x >>= f) := by
  cases x with
  | ok b => exact hf b (hx b rfl)
  | error e => exact .error e

theorem mapM {f : β → Except Error α} {bs : List β} (h : ∀ b ∈ bs, Allows P (f b)) :
    Allows (fun as => ∀ a ∈ as, P a) (bs.mapM f) := by
  induction bs with
  | nil => exact .ok (by simp)
  | cons b bs ih =>
    rw [List.mapM_cons]
    refine (h b (.head _)).bind fun a ha => ?_
    refine (ih fun b hb => h b (.tail _ hb)).bind fun as has => .ok ?_
    simpa using ⟨ha, has⟩

end Allows

/-- The entries of one row of an insert. -/
def Scope.entriesOf : Value → Except Error (List (Value × Value))
  | .map entries => .ok entries
  | _ => .error (.invalid .insertValues)

namespace Likeness

open List (Forall₂)

/-! ## Materials that stand for themselves -/

/-- What is made of a material may occur in a likeness, and what is nested in its operands stands for
itself. -/
structure Stands (D : Likeness) (L : Level) (M : Material) : Prop extends D.Lawful where
  allowed : D.writes
  freezes : D.freezes
  anyName : ∀ c, D.char c
  word : ∀ {w}, M.word w → D.piece (.word w)
  comment : ∀ {text}, M.comment text → D.piece (.comment text)
  connective : ∀ {w}, M.connective w → D.Conjunction w
  null : M.operand .null
  float : ∀ {x}, M.operand (.scalar (.float x)) → D.piece (.number x.text)
  items : ∀ {v items}, M.operand v → v.items = .ok items → ∀ w ∈ items, M.operand w
  entries : ∀ {entries}, M.operand (.map entries) → ∀ e ∈ entries, M.operand e.1 ∧ M.operand e.2
  builder : ∀ {v}, M.operand v → D.Builder L v v ∨ D.Inert v
  callback : ∀ {chains}, M.operand (.callback chains) → D.Callback L chains chains
  conditionCallback : ∀ {chains}, M.operand (.callback chains) →
    ∀ clause, D.ConditionCallback L clause chains chains
  joinCallback : ∀ {chains}, M.operand (.callback chains) → D.JoinCallback L chains chains

namespace Stands

variable {D : Likeness} {L : Level} {M : Material} (law : D.Stands L M)

include law

theorem spelled (text : String) : D.Spelled text :=
  fun c _ => law.anyName c

theorem asName (v : Value) : D.Alias v :=
  fun name _ => law.spelled name

theorem shown (v : Value) : D.Shown v :=
  .inl law.anyName

theorem schemaShown (v : Option Value) : D.SchemaShown v :=
  fun v _ _ => law.shown v

theorem sequence {v : Value} (h : M.operand v) {items : List Value} (sequence : v.sequence? = some items) :
    ∀ w ∈ items, M.operand w := by
  refine law.items h ?_
  cases v <;> cases sequence <;> rfl

/-! ## Operands -/

omit law in
mutual

theorem column (law : D.Stands L M) : ∀ v : Value, M.operand v → D.Column L v v
  | .scalar (.int n), _ => .integer n
  | .scalar (.float _), h => .float (law.float h)
  | .scalar .null, _ | .scalar (.bool _), _ | .scalar (.decimal _), _ | .scalar (.str _), _
  | .scalar (.bytes _), _ | .scalar (.day _), _ | .scalar (.moment _), _ | .scalar .undefined, _ =>
    .name rfl (law.spelled _)
  | .callback _, h => .callback (law.callback h)
  | .map items, h => .map (columnEntries law items (law.entries h))
  | .query _, h => (law.builder h).elim .builder fun inert => nomatch inert.1
  | .raw _, h => (law.builder h).elim .builder fun inert => nomatch inert.2
  | .shared _, h =>
    (law.builder h).elim .builder fun inert => .other inert rfl rfl rfl (law.shown _)
  | .list _, _ | .tuple _, _ | .set _, _ | .schema _, _ | .compiled _, _ | .conflict _ _, _ | .other _ _, _ =>
    .other ⟨rfl, rfl⟩ rfl rfl rfl (law.shown _)

theorem columnEntries (law : D.Stands L M) : ∀ items : List (Value × Value),
    (∀ e ∈ items, M.operand e.1 ∧ M.operand e.2) → D.Entries L items items
  | [], _ => .nil
  | (asName, target) :: items, h =>
    .cons (law.asName asName) (column law target (h _ (.head _)).2)
      (columnEntries law items fun e he => h e (.tail _ he))

end

theorem columnList {vs : List Value} (h : ∀ v ∈ vs, M.operand v) : Forall₂ (D.Column L) vs vs :=
  List.forall₂_same.mpr fun v hv => law.column v (h v hv)

theorem columns {v : Value} (h : M.operand v) : D.Columns L v v := by
  refine ⟨rfl, law.columnList ?_⟩
  unfold Value.columnList
  split
  · exact law.sequence h rfl
  · exact law.sequence h rfl
  · simpa using h

theorem wordOf {v : Value} (h : M.operand v) : D.Word L v v :=
  (law.builder h).elim .builder .word

theorem argument {v : Value} (h : M.operand v) : D.Argument L v v := by
  rcases law.builder h with builder | inert
  · exact .builder builder
  · cases callback : v.isCallback with
    | true =>
      cases v with
      | callback chains => exact .callback (law.callback h)
      | _ => cases callback
    | false => exact .bound inert inert callback callback (law.value_refl v)

theorem stored {v : Value} (h : M.operand v) : D.Stored L v v := by
  cases container : isContainer v with
  | true => exact .container container
  | false => exact .operand container container (law.argument h)

theorem rowItems {v : Value} (h : M.operand v) : D.RowItems L v v := by
  cases items : v.items with
  | ok ws => exact .items items items (List.forall₂_same.mpr fun w hw => law.stored (law.items h items w hw))
  | error e => exact .none items items (law.error_refl e)

theorem members {v : Value} (h : M.operand v) : D.Members L v v := by
  cases sequence : v.sequence? with
  | none => exact .operand sequence sequence rfl (law.argument h)
  | some items =>
    have parts := law.sequence h sequence
    cases items with
    | nil => exact .empty sequence sequence
    | cons first rest =>
      cases nested : first.sequence? with
      | none =>
        exact .values sequence sequence nested nested
          (List.forall₂_same.mpr fun v hv => law.stored (parts v hv))
      | some items =>
        exact .rows sequence sequence (by simp [nested]) (by simp [nested])
          (List.forall₂_same.mpr fun v hv => law.rowItems (parts v hv))

theorem expression {v : Value} (h : M.operand v) : D.Expression L v v :=
  (law.builder h).elim .builder fun inert => .nothing inert inert

theorem subquery {v : Value} (h : M.operand v) : D.Subquery L v v := by
  cases callback : v.isCallback with
  | true =>
    cases v with
    | callback chains => exact .callback (law.callback h)
    | _ => cases callback
  | false => exact .expression callback callback (law.expression h)

omit law in
theorem tracked (column v : Value) : Tracked column column v v :=
  ⟨rfl, fun _ => rfl⟩

theorem path {v : Value} (h : M.operand v) : D.Path L v v :=
  ⟨rfl, law.argument h⟩

/-! ## Conditions -/

theorem pair {e : Value × Value} (h : M.operand e.1 ∧ M.operand e.2) : D.PairLike L e e := by
  obtain ⟨column, v⟩ := e
  have left := law.column column h.1
  by_cases null : v = .null
  · subst null
    exact .null left
  · exact .value null null left (tracked column v) (law.argument h.2)

omit law in
theorem entry_operands {entries : List (Value × Value)}
    (h : ∀ v ∈ entries.flatMap fun e => [e.1, e.2], M.operand v) {e : Value × Value} (he : e ∈ entries) :
    M.operand e.1 ∧ M.operand e.2 :=
  ⟨h _ (List.mem_flatMap.mpr ⟨e, he, by simp⟩), h _ (List.mem_flatMap.mpr ⟨e, he, by simp⟩)⟩

theorem test {t : Test Value} (h : ∀ v ∈ t.operands, M.operand v) : D.TestLike L t t := by
  cases t with
  | compare c operator v =>
    exact .compare (law.column c (h _ (by simp [Test.operands]))) (law.wordOf (h _ (by simp [Test.operands])))
      (tracked c v) (law.argument (h _ (by simp [Test.operands])))
  | compareColumns c operator other =>
    exact .compareColumns (law.column c (h _ (by simp [Test.operands])))
      (law.wordOf (h _ (by simp [Test.operands]))) (law.column other (h _ (by simp [Test.operands])))
  | isIn c v =>
    exact .isIn (law.columns (h _ (by simp [Test.operands]))) (tracked c v)
      (law.members (h _ (by simp [Test.operands])))
  | isNull c => exact .isNull (law.column c (h _ (by simp [Test.operands])))
  | between c bounds =>
    exact .between (law.column c (h _ (.head _))) (tracked c _)
      (List.forall₂_same.mpr fun v hv => law.argument (h v (.tail _ hv)))
  | exists_ v => exact .exists_ (law.subquery (h _ (.head _)))
  | group v =>
    cases callback : v.isCallback with
    | true =>
      cases v with
      | callback chains => exact .group (law.conditionCallback (h _ (.head _)))
      | _ => cases callback
    | false => exact .noGroup callback callback
  | pairs items => exact .pairs (List.forall₂_same.mpr fun e he => law.pair (entry_operands h he))
  | raw v => exact .raw (law.expression (h _ (.head _)))
  | like c v ignoreCase =>
    exact .like (law.column c (h _ (by simp [Test.operands]))) (tracked c v)
      (law.argument (h _ (by simp [Test.operands])))
  | jsonPath c place operator v =>
    exact .jsonPath (law.columns (h _ (by simp [Test.operands]))) (law.path (h _ (by simp [Test.operands])))
      (law.wordOf (h _ (by simp [Test.operands]))) (tracked c v) (fun _ => rfl)
      (law.argument (h _ (by simp [Test.operands])))
  | joinGroup v =>
    cases callback : v.isCallback with
    | true =>
      cases v with
      | callback chains => exact .joinGroup (law.joinCallback (h _ (.head _)))
      | _ => cases callback
    | false => exact .noJoinGroup callback callback
  | joinPairs items =>
    refine .joinPairs (List.forall₂_same.mpr fun e he => ?_)
    obtain ⟨left, right⟩ := entry_operands h he
    exact ⟨law.column e.1 left, law.column e.2 right⟩
  | «using» columns => exact .sharing (law.columnList h)

theorem condition {c : Condition Value} (h : c.Of M) : D.ConditionLike L c c :=
  ⟨rfl, rfl, fun w hw => law.connective (h.word w hw), rfl, law.test h.test⟩

theorem conditions {cs : List (Condition Value)} (h : ∀ c ∈ cs, c.Of M) : D.ConditionsLike L cs cs :=
  List.forall₂_same.mpr fun c hc => law.condition (h c hc)

/-! ## Clauses -/

theorem terms {ts : List (Value × Value)} (h : ∀ t ∈ ts, M.operand t.1 ∧ M.operand t.2) :
    Forall₂ (D.TermLike L) ts ts :=
  List.forall₂_same.mpr fun t ht => ⟨law.column t.1 (h t ht).1, rfl, law.wordOf (h t ht).2⟩

omit law in
theorem option {α : Type} {R : α → α → Prop} (o : Option α) (h : ∀ a ∈ o, R a a) : Option.Rel R o o := by
  cases o with
  | none => exact .none
  | some a => exact .some (h a rfl)

theorem window {w : Window Value} (h : w.Of M) : D.WindowLike L w w where
  function := rfl
  word := law.word h.word
  asName := rfl
  fits := law.asName _
  raw := option _ fun v hv => law.expression (h.raw v hv)
  order := law.terms h.order
  partitions := law.terms h.partitions

theorem projection {e : Projection Value} (h : e.Of M) : D.ProjectionLike L e e := by
  cases e with
  | columns values role => exact .columns (law.columnList h)
  | aggregate function v distinct asName =>
    obtain ⟨⟨plain, distinct⟩, operand, -⟩ := h
    exact .aggregate (law.word plain) (law.word distinct) (law.asName _) (law.columns operand)
  | window w => exact .window (law.window h)
  | jsonExtract c place asName =>
    obtain ⟨column, path, -⟩ := h
    exact .jsonExtract (law.columns column) (law.path path) (law.asName _)

theorem join {j : Join Value} (h : j.Of M) : D.JoinLike L j j where
  raw := rfl
  expression _ := law.expression h.table
  kind := rfl
  word given := law.word (h.word given)
  schema := rfl
  schemaShown _ := law.schemaShown _
  table _ := law.column _ h.table
  conditions _ := law.conditions h.conditions

theorem group {g : GroupEntry Value} (h : ∀ v ∈ g.values, M.operand v) : D.GroupLike L g g where
  raw := rfl
  expressions _ := List.forall₂_same.mpr fun v hv => law.expression (h v hv)
  columns _ := law.columnList h

theorem orderEntry {e : OrderEntry Value} (h : ∀ v ∈ e.operands, M.operand v) : D.OrderLike L e e := by
  cases e with
  | by_ c direction nulls =>
    exact .by_ (law.column c (h _ (.head _))) (law.wordOf (h _ (.tail _ (.head _)))) fun _ => .inr law.freezes
  | raw v => exact .raw (law.expression (h _ (.head _)))

theorem operation {o : SetOperation Value} (h : o.Of M) : D.OperationLike L o o :=
  ⟨law.subquery h.query, rfl, law.word h.word, rfl⟩

theorem commonTable {t : CommonTable Value} (h : t.Of M) : D.TableLike L t t where
  name := rfl
  spelled := law.spelled _
  query := law.subquery h.query
  columns := option _ fun v hv => law.columns (h.columns v (Option.mem_filter_iff.mp hv).1)
  recursive := rfl
  materialized := rfl

/-! ## Writes -/

theorem assignment {e : Value × Value} (h : M.operand e.1 ∧ M.operand e.2) : D.AssignmentLike L e e :=
  ⟨law.column e.1 h.1, tracked e.1 e.2, law.stored h.2⟩

theorem counter {c : Counter Value} (h : M.operand c.step) : D.CounterLike L c c :=
  ⟨rfl, law.spelled _, rfl, law.argument h⟩

theorem merge {v : Value} (h : M.operand v) : D.MergeLike L v v := by
  cases map : v.entries? with
  | none => exact .columns map fun items ok => law.columnList (law.items h ok)
  | some items =>
    cases v with
    | map items =>
      exact .assignments (List.forall₂_same.mpr fun e he => law.assignment (law.entries h e he))
    | _ => cases map

theorem conflict {c : Conflict Value} (h : c.Of M) : D.ConflictLike L c c :=
  ⟨law.columnList h.columns, option _ fun v hv => law.merge (h.merge v hv)⟩

/-- The rows of an insert are made of what its operand is. -/
theorem cells {v : Value} (h : M.operand v) : Allows
    (fun rows => ∀ row ∈ rows, ∀ cell ∈ row, M.operand cell.1.name ∧ M.operand cell.2) (Scope.rowsOf v) := by
  let Given (entries : List (Value × Value)) : Prop := ∀ e ∈ entries, M.operand e.1 ∧ M.operand e.2
  have numbered {given : List (List (Value × Value))} (h : ∀ entries ∈ given, Given entries) :
      ∀ row ∈ given.mapIdx Scope.rowOf, ∀ cell ∈ row, M.operand cell.1.name ∧ M.operand cell.2 := by
    intro row hrow cell hcell
    obtain ⟨i, hi, rfl⟩ := List.mem_mapIdx.mp hrow
    obtain ⟨k, hk, rfl⟩ := List.mem_mapIdx.mp hcell
    exact h _ (List.getElem_mem hi) _ (List.getElem_mem hk)
  have row {v : Value} (hv : M.operand v) : Allows Given (Scope.entriesOf v) := by
    cases v with
    | map entries => exact .ok (law.entries hv)
    | _ => exact .error _
  cases v with
  | map entries => exact .ok (numbered (List.forall_mem_singleton.mpr (law.entries h)))
  | list items =>
    exact (Allows.mapM fun w hw => row (law.sequence h rfl w hw)).bind fun given hg => .ok (numbered hg)
  | tuple items =>
    exact (Allows.mapM fun w hw => row (law.sequence h rfl w hw)).bind fun given hg => .ok (numbered hg)
  | _ => exact .error _

theorem source {v : Value} (h : M.operand v) : D.SourceLike L v v := by
  cases source : Scope.isSource v with
  | true => exact .query source source (law.subquery h)
  | false =>
    cases rows : Scope.rowsOf v with
    | error e => exact .none source source rows rows (law.error_refl e)
    | ok rows' =>
      refine .rows source source rows rows (List.forall₂_same.mpr fun row hrow => ?_)
      refine List.forall₂_same.mpr fun c hc => ?_
      obtain ⟨name, operand⟩ := law.cells h _ rows row hrow c hc
      exact ⟨rfl, law.column _ name, rfl, law.stored operand⟩

/-! ## Statements -/

theorem from_ {st : Statement Value} (h : st.Of M) : D.FromLike L st st :=
  ⟨rfl, law.schemaShown _, option _ fun v hv => law.column v (h.table v hv)⟩

theorem commonTables {st : Statement Value} (h : st.Of M) :
    Forall₂ (D.TableLike L) st.commonTables st.commonTables :=
  List.forall₂_same.mpr fun t ht => law.commonTable (h.commonTables t ht)

theorem select {st : Statement Value} (h : st.Of M) : D.SelectLike L st st where
  toFromLike := law.from_ h
  commonTables := law.commonTables h
  projection := List.forall₂_same.mpr fun e he => law.projection (h.projection e he)
  joins := List.forall₂_same.mpr fun j hj => law.join (h.joins j hj)
  wheres := law.conditions h.wheres
  groups := List.forall₂_same.mpr fun g hg => law.group (h.groups g hg)
  havings := law.conditions h.havings
  orders := List.forall₂_same.mpr fun e he => law.orderEntry (h.orders e he)
  limit := rfl
  offset := rfl
  unions := List.forall₂_same.mpr fun o ho => law.operation (h.unions o ho)
  lock := rfl
  lockTables := law.columnList h.lockTables
  wait := rfl

theorem write {st : Statement Value} (h : st.Of M) : D.WriteLike L st st where
  toFromLike := law.from_ h
  allowed := law.allowed
  commonTables := law.commonTables h
  returning := law.columnList h.returning

theorem updates {st : Statement Value} (h : st.Of M) : Forall₂ (D.AssignmentLike L) st.update st.update :=
  List.forall₂_same.mpr fun e he => law.assignment (h.update e he)

theorem counters {st : Statement Value} (h : st.Of M) : Forall₂ (D.CounterLike L) st.counters st.counters :=
  List.forall₂_same.mpr fun c hc => law.counter (h.counters c hc)

/-- What is put in, if anything is. -/
theorem inserted {v : Option Value} (h : ∀ w ∈ v, M.operand w) :
    D.SourceLike L (v.getD .null) (v.getD .null) := by
  cases v with
  | none => exact law.source law.null
  | some v => exact law.source (h v rfl)

theorem conflicts {st : Statement Value} (h : st.Of M) :
    Option.Rel (D.ConflictLike L) st.conflict st.conflict :=
  option _ fun c hc => law.conflict (h.conflict c hc)

theorem body (method : Method) {st : Statement Value} (h : st.Of M) : D.BodyLike L method st st := by
  have write := law.write h
  have wheres := law.conditions h.wheres
  cases method with
  | select => exact law.select h
  | first => exact law.select h
  | insert => exact { write with source := law.inserted h.insert, conflict := law.conflicts h }
  | upsert => exact { write with source := law.inserted h.upsert, conflict := law.conflicts h }
  | delete => exact { write with wheres }
  | update =>
    exact { write with wheres, lock := rfl, wait := rfl, values := law.updates h, counters := law.counters h }
  | truncate => exact { law.from_ h with allowed := law.allowed }

/-- A query made of the material stands for itself. -/
theorem query {q : Query Value} (h : q.Of M) : D.QueryLike L q q where
  context := .inr rfl
  method := rfl
  body := law.body _ h.statement
  comments := rfl
  commentsFit text ht := law.comment (h.statement.comments text ht)
  asName := rfl
  fits _ _ := law.asName _

end Stands

/-! ## Anything -/

/-- A likeness that admits operands of any kind. -/
structure Liberal (D : Likeness) : Prop extends D.Lawful where
  liberal : D.liberal
  allowed : D.writes
  freezes : D.freezes

/-- Everything that is nested one level down stands for itself. -/
structure Level.Refl (L : Level) : Prop where
  query : ∀ q, L.query q q
  raw : ∀ r, L.raw r r
  conditions : ∀ cs, L.conditions cs cs

namespace Liberal

variable {D : Likeness} {L : Level} (law : D.Liberal) (below : L.Refl)

include law

theorem proper (piece : Piece) : D.piece piece :=
  law.anyPiece law.liberal piece

theorem free : ¬ D.spaced :=
  law.unspaced law.liberal

include below

omit law in
/-- An operand is a query or a raw expression, which stands for itself, or neither. -/
theorem builder_or_inert (v : Value) : D.Builder L v v ∨ D.Inert v := by
  cases v with
  | query q => exact .inl (.query (below.query q))
  | raw r => exact .inl (.raw (below.raw r))
  | shared o =>
    cases query : D.env.query? (.shared o) with
    | some q => exact .inl (.sharedQuery query (below.query q))
    | none =>
      cases raw : D.env.raw? (.shared o) with
      | some r => exact .inl (.sharedRaw query raw (below.raw r))
      | none => exact .inr ⟨query, raw⟩
  | _ => exact .inr ⟨rfl, rfl⟩

/-- Whatever a statement is made of stands for itself. -/
theorem stands : D.Stands L .any where
  toLawful := law.toLawful
  allowed := law.allowed
  freezes := law.freezes
  anyName := law.anyChar law.liberal
  word _ := law.proper _
  comment _ := law.proper _
  connective _ := .inl law.liberal
  null := trivial
  float _ := law.proper _
  items _ _ _ _ := trivial
  entries _ _ _ := ⟨trivial, trivial⟩
  builder _ := builder_or_inert below _
  callback _ _ := .refl law.error_refl below.query _
  conditionCallback _ _ _ := .refl law.error_refl (fun _ => ⟨below.conditions _, .inr rfl⟩) _
  joinCallback _ _ :=
    .refl (R := fun (j j' : Join Value) => L.conditions j.conditions j'.conditions) law.error_refl
      (fun _ => below.conditions _) _

/-! ## Raw expressions -/

theorem slots (parts : List Template.Part) (values : List Value) : D.SlotsLike L parts values values := by
  have any := law.stands below
  induction parts generalizing values with
  | nil => exact .nil
  | cons part parts ih =>
    cases part with
    | text cs => exact .text (law.proper _) (ih values)
    | value cs =>
      cases values with
      | nil => exact .openValue (law.proper _) (ih [])
      | cons v vs => exact .value (any.argument trivial) (ih vs)
    | identifier cs =>
      cases values with
      | nil => exact .openIdentifier (law.proper _) (ih [])
      | cons v vs => exact .identifier (any.columns trivial) (ih vs)

omit below in
theorem namedSlot (slot : List Char) {R : Value → Value → Prop} (h : ∀ v, R v v) (v : Option Value) :
    D.NamedLike slot R v v := by
  cases v with
  | none => exact .missing (law.proper _)
  | some v =>
    by_cases undefined : v = .undefined
    · exact undefined ▸ .undefined (law.proper _)
    · exact .value undefined undefined (h v)

theorem bindings (sql : String) (b : RawBindings Value) : D.BindingsLike L sql b b := by
  have any := law.stands below
  cases b with
  | positional values =>
    cases values with
    | nil => exact .none (law.proper _)
    | cons v vs =>
      exact .positional law.free (by simp) (List.forall₂_same.mpr fun _ _ => rfl) (law.slots below _ _)
  | named items =>
    refine .named law.free (List.forall₂_same.mpr fun _ _ => ⟨rfl, rfl⟩) fun part _ => ?_
    cases part with
    | text cs => exact law.proper _
    | value key => exact law.namedSlot _ (fun _ => any.argument trivial) _
    | identifier key => exact law.namedSlot _ (fun _ => any.columns trivial) _

omit below in
theorem around (v : Option Value) : D.Around v :=
  fun _ _ => ⟨law.free, law.proper _⟩

theorem raw (r : Raw Value) : D.RawLike L r r := by
  have any := law.stands below
  cases reference : r.reference with
  | some name =>
    exact .reference reference reference rfl rfl (any.columns trivial) (any.shown name)
      (any.schemaShown _) (any.schemaShown _)
  | none =>
    cases text : r.sql.str? with
    | none => exact .object law.liberal reference text
    | some sql =>
      have same : r.sql = .str sql := by
        revert text
        generalize r.sql = v
        intro text
        unfold Value.str? at text
        split at text <;> cases text
        rfl
      exact .text reference reference same same rfl (law.around _) rfl (law.around _) (law.bindings below _ _)

/-! ## Levels -/

theorem query (q : Query Value) : D.QueryLike L q q :=
  (law.stands below).query ⟨q.statement.of_any, fun _ _ => trivial⟩

omit below

/-- At every level, everything stands for itself. -/
theorem level_refl (n : Nat) : (D.level n).Refl := by
  induction n with
  | zero => exact ⟨fun _ => trivial, fun _ => trivial, fun _ => trivial⟩
  | succ n ih =>
    exact ⟨law.query ih, law.raw ih, fun cs => (law.stands ih).conditions fun c _ => c.of_any⟩

end Liberal

end Likeness

end SqlBuilder
