import SqlBuilder.Proofs.NameRecursion
import SqlBuilder.Proofs.Refusals

/-!
# Conditions that fail

A condition that fails does so where one of the values in it fails by itself, in the role that the condition has for
it: as a name, as a value, as an operator. Names that are texts and plain values never fail; of an operator that is a
text, the only failure is that it is not permitted.

* `Compile.Fails`: a compilation can fail with an error.
* `Role.Fails`: a value fails by itself.
* `Test.uses`: the values in a test, with their roles.
* `Scope.test_fails`: a test fails where one of its values does.
* `Role.Plain`, `Role.Plain.fails`: plain values, of which only an operator can fail, as one that is not permitted.
-/

namespace SqlBuilder

/-! ## Compilations that fail -/

namespace Compile

variable {α β : Type}

/-- A compilation that can fail with an error. -/
def Fails (c : Compile α) (e : Error) : Prop :=
  ∃ p p', c p = .error e p'

namespace Fails

variable {e e' : Error}

theorem of_bind {c : Compile α} {f : α → Compile β} (h : (c >>= f).Fails e) :
    c.Fails e ∨ ∃ a, c.Renders a ∧ (f a).Fails e := by
  obtain ⟨p, p', run⟩ := h
  obtain failed | ⟨a, q, first, failed⟩ := Build.bind_error.mp run
  · exact .inl ⟨p, p', failed⟩
  · exact .inr ⟨a, ⟨p, q, first⟩, q, p', failed⟩

theorem not_pure {a : α} : ¬ (pure a : Compile α).Fails e :=
  nofun

theorem of_throw (h : (throw e' : Compile α).Fails e) : e = e' := by
  obtain ⟨p, p', run⟩ := h
  cases run
  rfl

/-- The steps before a result that something is made of. -/
theorem of_map {c : Compile α} {f : α → β} (h : (do return f (← c) : Compile β).Fails e) : c.Fails e := by
  obtain own | ⟨a, -, result⟩ := h.of_bind
  · exact own
  · exact absurd result not_pure

end Fails

/-- Of steps one after another, one fails. -/
theorem Fails.of_mapM {f : α → Compile β} {as : List α} {e : Error} (h : (as.mapM f).Fails e) :
    ∃ a ∈ as, (f a).Fails e := by
  induction as with
  | nil => exact absurd h Fails.not_pure
  | cons a as ih =>
    rw [List.mapM_cons] at h
    obtain first | ⟨b, -, rest⟩ := h.of_bind
    · exact ⟨a, .head _, first⟩
    · obtain ⟨a', mem, failed⟩ := ih rest.of_map
      exact ⟨a', .tail _ mem, failed⟩

/-- What gives a result never fails. -/
theorem Gives.not_fails {c : Compile α} {a : α} {bound : List Value} (h : c.Gives a bound) {e : Error} :
    ¬ c.Fails e := by
  rintro ⟨p, p', run⟩
  obtain ⟨q, gives, -⟩ := h p
  cases run.symm.trans gives

end Compile

/-! ## Values in a condition -/

/-- What a condition does with a value that it was given. -/
inductive Role
  | name | columns | value | values | operator | query | expression | callback | path
  /-- it is shown in an error -/
  | shown

/-- A value fails by itself, in a role. -/
def Role.Fails (s : Scope) (v : Value) (e : Error) : Role → Prop
  | .name => (s.wrap v).Fails e
  | .columns => (s.columnize v).Fails e
  | .value => (s.parameter v).Fails e
  | .values => (s.values v).Fails e
  | .operator => (s.operator v).Fails e
  | .query => (s.subquery v).Fails e
  | .expression => (s.unwrapOrNothing v).Fails e ∨
    ∃ operand, (s.unwrapOrNothing v).Renders operand ∧ (s.spell operand).Fails e
  | .callback => (s.callbackConditions .where_ v).Fails e
  | .path => (s.jsonPath v).Fails e
  | .shown => (s.display v).Fails e

/-- The values in a test, with their roles. The callback of a join is no value of its own. -/
def Test.uses : Test Value → List (Role × Value)
  | .compare column operator value => [(.name, column), (.shown, column), (.operator, operator), (.value, value)]
  | .compareColumns column operator other => [(.name, column), (.operator, operator), (.name, other)]
  | .isIn column values => [(.name, column), (.columns, column), (.shown, column), (.values, values)]
  | .isNull column => [(.name, column)]
  | .between column bounds => (.name, column) :: (.shown, column) :: bounds.map fun bound => (.value, bound)
  | .exists_ query => [(.query, query)]
  | .group callback => [(.callback, callback)]
  | .pairs entries => entries.flatMap fun (column, value) =>
      [(.name, column), (.shown, column), (.operator, .str "="), (.value, value)]
  | .raw expression => [(.expression, expression)]
  | .like column pattern _ => [(.name, column), (.shown, column), (.value, pattern)]
  | .jsonPath column path operator value =>
    [(.shown, column), (.columns, column), (.path, path), (.operator, operator), (.value, value)]
  | .joinPairs entries => entries.flatMap fun (column, other) =>
      [(.name, column), (.operator, .str "="), (.name, other)]
  | .using columns => [(.columns, .list columns)]
  | .joinGroup _ => []

/-- A test that does not depend on what else a join holds: no group, no range and no columns that both sides share. -/
def Test.IsPlain {α : Type} : Test α → Prop
  | .joinGroup _ | .between _ _ | .using _ => False
  | _ => True

namespace Scope

variable {s : Scope} {e : Error}

theorem trackUndefined_fails {column value : Value} (h : (s.trackUndefined column value).Fails e) :
    Role.shown.Fails s column e := by
  unfold trackUndefined at h
  split at h
  · obtain shown | ⟨text, -, marked⟩ := h.of_bind
    · exact shown
    · exact absurd marked nofun
  · exact absurd h Compile.Fails.not_pure

theorem compare_fails {column operator value : Value} (h : (s.compare column operator value).Fails e) :
    ∃ use ∈ (Test.compare column operator value).uses, use.1.Fails s use.2 e := by
  obtain name | ⟨_, -, h⟩ := h.of_bind
  · exact ⟨_, .head _, name⟩
  obtain tracked | ⟨_, -, h⟩ := h.of_bind
  · exact ⟨_, .tail _ (.head _), trackUndefined_fails tracked⟩
  obtain word | ⟨_, -, h⟩ := h.of_bind
  · exact ⟨_, .tail _ (.tail _ (.head _)), word⟩
  · exact ⟨_, .tail _ (.tail _ (.tail _ (.head _))), h.of_map⟩

theorem compareColumns_fails {column operator other : Value} (h : (s.compareColumns column operator other).Fails e) :
    ∃ use ∈ (Test.compareColumns column operator other).uses, use.1.Fails s use.2 e := by
  obtain name | ⟨_, -, h⟩ := h.of_bind
  · exact ⟨_, .head _, name⟩
  obtain word | ⟨_, -, h⟩ := h.of_bind
  · exact ⟨_, .tail _ (.head _), word⟩
  · exact ⟨_, .tail _ (.tail _ (.head _)), h.of_map⟩

theorem columnize_of_sequence {column : Value} {columns : List Value} (listed : column.sequence? = some columns) :
    s.columnize column = s.columnizeAll columns := by
  unfold Value.sequence? at listed
  split at listed <;> cases listed <;> rfl

theorem membership_fails {negated : Bool} {column values : Value} (h : (s.membership negated column values).Fails e) :
    ∃ use ∈ (Test.isIn column values).uses, use.1.Fails s use.2 e := by
  have rest {target : Sql} (h : (do
      s.trackUndefined column values
      return target ++ Sql.word (if negated then " not in " else " in ") ++ (← s.values values) :
        Compile Sql).Fails e) : ∃ use ∈ (Test.isIn column values).uses, use.1.Fails s use.2 e := by
    obtain tracked | ⟨_, -, h⟩ := h.of_bind
    · exact ⟨_, .tail _ (.tail _ (.head _)), trackUndefined_fails tracked⟩
    · exact ⟨_, .tail _ (.tail _ (.tail _ (.head _))), h.of_map⟩
  unfold membership at h
  split at h
  · exact absurd h Compile.Fails.not_pure
  dsimp only at h
  cases listed : column.sequence? with
  | some columns =>
    rw [listed] at h
    obtain names | ⟨_, -, h⟩ := h.of_bind
    · refine ⟨_, .tail _ (.head _), ?_⟩
      unfold Role.Fails
      dsimp only
      rw [columnize_of_sequence listed]
      exact names
    · exact rest h
  | none =>
    rw [listed] at h
    obtain name | ⟨_, -, h⟩ := h.of_bind
    · exact ⟨_, .head _, name⟩
    · exact rest h

theorem jsonCompare_fails {column path operator value : Value}
    (h : (s.jsonCompare column path operator value).Fails e) :
    ∃ use ∈ (Test.jsonPath column path operator value).uses, use.1.Fails s use.2 e := by
  obtain tracked | ⟨_, -, h⟩ := h.of_bind
  · exact ⟨_, .head _, trackUndefined_fails tracked⟩
  obtain extracted | ⟨_, -, h⟩ := h.of_bind
  · obtain name | ⟨_, -, h⟩ := extracted.of_bind
    · exact ⟨_, .tail _ (.head _), name⟩
    · exact ⟨_, .tail _ (.tail _ (.head _)), h.of_map⟩
  obtain word | ⟨_, -, h⟩ := h.of_bind
  · exact ⟨_, .tail _ (.tail _ (.tail _ (.head _))), word⟩
  · exact ⟨_, .tail _ (.tail _ (.tail _ (.tail _ (.head _)))), h.of_map⟩

theorem pairTests_fails {entries : List (Value × Value)} (h : (s.pairTests entries).Fails e) :
    ∃ use ∈ (Test.pairs entries).uses, use.1.Fails s use.2 e := by
  obtain ⟨⟨column, value⟩, mem, failed⟩ := h.of_map.of_mapM
  have within {use : Role × Value} (own : use ∈ (Test.compare column (.str "=") value).uses) :
      use ∈ (Test.pairs entries).uses := List.mem_flatMap.mpr ⟨_, mem, own⟩
  dsimp only at failed
  split at failed
  · exact ⟨_, within (.head _), failed.of_map⟩
  · obtain ⟨use, own, fails⟩ := compare_fails failed
    exact ⟨use, within own, fails⟩

theorem pairColumns_fails {entries : List (Value × Value)} (h : (s.pairColumns entries).Fails e) :
    ∃ use ∈ (Test.joinPairs entries).uses, use.1.Fails s use.2 e := by
  obtain ⟨⟨column, other⟩, mem, failed⟩ := h.of_map.of_mapM
  obtain ⟨use, own, fails⟩ := compareColumns_fails failed
  exact ⟨use, List.mem_flatMap.mpr ⟨_, mem, own⟩, fails⟩

/-- A test fails where one of the values in it fails by itself. -/
theorem test_fails {negated : Bool} {t : Test Value} (plain : t.IsPlain) (h : (s.test .where_ negated t).Fails e) :
    ∃ use ∈ t.uses, use.1.Fails s use.2 e := by
  cases t with
  | compare column operator value => exact compare_fails h.of_map
  | compareColumns column operator other => exact compareColumns_fails h.of_map
  | isIn column values => exact membership_fails h
  | isNull column => exact ⟨_, .head _, h.of_map⟩
  | exists_ query => exact ⟨_, .head _, h.of_map⟩
  | group callback => exact ⟨_, .head _, h.of_map⟩
  | pairs entries => exact pairTests_fails h.of_map
  | raw expression =>
    obtain own | ⟨operand, rendered, h⟩ := h.of_bind
    · exact ⟨_, .head _, .inl own⟩
    · exact ⟨_, .head _, .inr ⟨operand, rendered, h.of_map⟩⟩
  | like column pattern ignoreCase =>
    obtain name | ⟨_, -, h⟩ := h.of_bind
    · exact ⟨_, .head _, name⟩
    obtain tracked | ⟨_, -, h⟩ := h.of_bind
    · exact ⟨_, .tail _ (.head _), trackUndefined_fails tracked⟩
    · exact ⟨_, .tail _ (.tail _ (.head _)), h.of_map⟩
  | jsonPath column path operator value => exact jsonCompare_fails h.of_map
  | joinPairs entries => exact pairColumns_fails h.of_map
  | _ => exact plain.elim

/-- A condition fails where one of the values in it fails by itself. -/
theorem condition_fails {c : Condition Value} (plain : c.test.IsPlain) (h : (s.condition .where_ c).Fails e) :
    ∃ use ∈ c.test.uses, use.1.Fails s use.2 e := by
  unfold condition at h
  split at h
  next expression test _ =>
    rw [test]
    exact ⟨_, .head _, .inl h⟩
  · exact test_fails plain h.of_map

end Scope

/-! ## Plain values -/

/-- A text whose rendering as a name ends. -/
def Value.IsName (v : Value) : Prop :=
  ∃ name, v = .str name ∧ Text.overshoot name.toList < 4

/-- A plain value in a role: a name, a value or an operator, and no builder or callback. -/
def Role.Plain (v : Value) : Role → Prop
  | .name => v.IsName
  | .columns => ∀ column ∈ v.columnList, column.IsName
  | .value => ∃ t, v = .scalar t
  | .values => ∃ items, v.sequence? = some items ∧ ∀ item ∈ items, ∃ t, item = .scalar t
  | .operator | .path => ∃ text, v = .str text
  | .shown => v.isBuilder = false
  | .query | .expression | .callback => False

/-- The error for an operator that the dialect of a client does not permit. -/
def Client.Refuses (client : Client Value) (e : Error) : Prop :=
  ∃ token, client.capabilities.operators.contains (Text.lower token) = false ∧ e = .invalid (.operator token)

namespace Scope

variable {s : Scope} {e : Error}

theorem wrapOperand_of_name (writes : s.WritesSegments) {v : Value} (h : v.IsName) :
    ∃ sql, (s.wrapOperand v).Gives (.sql sql) [] := by
  obtain ⟨name, rfl, short⟩ := h
  obtain ⟨sql, written⟩ := wrapFrom_gives writes short (Nat.lt_succ_self _)
  have text : s.wrapOperand (.str name) = do return .sql (← s.wrapString name) := by simp [wrapOperand, Scalar.text]
  rw [text]
  exact ⟨sql, written.map⟩

theorem wrap_of_name (writes : s.WritesSegments) {v : Value} (h : v.IsName) : ∃ sql, (s.wrap v).Gives sql [] := by
  obtain ⟨sql, written⟩ := wrapOperand_of_name writes h
  exact ⟨sql, written.bind_silent (.pure sql)⟩

/-- Operands that are texts, with commas between them. -/
theorem commas_gives {f : Value → Compile Operand} {g : Value → Sql} {b : Value → List Value} {vs : List Value}
    (each : ∀ v ∈ vs, (f v).Gives (.sql (g v)) (b v)) : (do
      let operands ← vs.mapM f
      return Sql.commas (← operands.mapM Operand.textual) : Compile Sql).Gives
        (Sql.commas (vs.map g)) (vs.flatMap b) := by
  refine (Compile.Gives.mapM each).then_silent ?_
  rw [List.mapM_map]
  exact (Compile.Gives.mapM_silent fun _ _ => .pure _).map

theorem columnizeAll_of_names (writes : s.WritesSegments) {columns : List Value} (h : ∀ v ∈ columns, v.IsName) :
    ∃ sql values, (s.columnizeAll columns).Gives sql values := by
  choose! sql written using fun v hv => wrapOperand_of_name writes (h v hv)
  exact ⟨_, _, commas_gives written⟩

theorem parameterizeAll_scalars {items : List Value} (h : ∀ v ∈ items, ∃ t, v = .scalar t) :
    ∃ sql values, (s.parameterizeAll items).Gives sql values := by
  have each : ∀ v ∈ items, (s.stored v).Gives (.sql [.param v]) [v] := by
    intro v hv
    obtain ⟨t, rfl⟩ := h v hv
    exact (Compile.Gives.pure _).bind_silent (argument_scalar t)
  exact ⟨_, _, commas_gives each⟩

theorem values_scalars {v : Value} {items : List Value} (listed : v.sequence? = some items)
    (h : ∀ item ∈ items, ∃ t, item = .scalar t) : ∃ sql values, (s.values v).Gives sql values := by
  unfold values
  rw [listed]
  cases items with
  | nil => exact ⟨_, _, .pure _⟩
  | cons first rest =>
    obtain ⟨t, rfl⟩ := h first (.head _)
    obtain ⟨sql, values, written⟩ := parameterizeAll_scalars (s := s) h
    exact ⟨_, _, written.map⟩

theorem jsonPath_str (path : String) : ∃ sql values, (s.jsonPath (.str path)).Gives sql values := by
  unfold jsonPath
  split
  · exact ⟨_, _, (Compile.Gives.mapM fun key _ => bind_gives (.str key)).map⟩
  · exact ⟨_, _, parameter_scalar _⟩

theorem display_plain {v : Value} (plain : v.isBuilder = false) : s.display v = pure v.text := by
  simp [display, plain]

end Scope

/-- A plain value fails by itself only as an operator that is not permitted. -/
theorem Role.Plain.fails {s : Scope} {v : Value} {role : Role} {e : Error} (writes : s.WritesSegments)
    (plain : role.Plain v) (h : role.Fails s v e) : s.client.Refuses e := by
  cases role with
  | name =>
    obtain ⟨sql, written⟩ := Scope.wrap_of_name writes plain
    exact absurd h written.not_fails
  | columns =>
    obtain ⟨sql, values, written⟩ := Scope.columnizeAll_of_names writes plain
    exact absurd h written.not_fails
  | value =>
    obtain ⟨t, rfl⟩ := plain
    exact absurd h (Scope.parameter_scalar t).not_fails
  | values =>
    obtain ⟨items, listed, scalars⟩ := plain
    obtain ⟨sql, values, written⟩ := Scope.values_scalars (s := s) listed scalars
    exact absurd h written.not_fails
  | operator =>
    obtain ⟨token, rfl⟩ := plain
    change (s.operator (.str token)).Fails e at h
    rw [Scope.operator_str] at h
    split at h
    · exact absurd h Compile.Fails.not_pure
    next unknown => exact ⟨token, eq_false_of_ne_true unknown, h.of_throw⟩
  | path =>
    obtain ⟨path, rfl⟩ := plain
    obtain ⟨sql, values, written⟩ := Scope.jsonPath_str (s := s) path
    exact absurd h written.not_fails
  | shown =>
    change (s.display v).Fails e at h
    rw [Scope.display_plain plain] at h
    exact absurd h Compile.Fails.not_pure
  | query | expression | callback => exact plain.elim

end SqlBuilder
