import SqlBuilder.Proofs.GuardedOperands

/-!
# Guarded conditions

Conditions beside the same ones without guards. A condition marks the column that it compares with an
undefined value, and then binds that value.

* `Guard.tracked`: a value that is looked at before it is bound.
* `Guard.test`, `Guard.condition`: a condition that binds what it looks at.
* `Guard.conditions`, `Guard.joinConditions`: the conditions of a clause and of a join.
-/

namespace SqlBuilder.Guard

variable (G : Guard)

/-! ## Comparisons -/

/-- A value that is looked at for undefined ones, before it is bound. -/
theorem tracked {α : Type} {owed : Prop} (column : Value) {value : Value}
    (owes : value.containsUndefined = true → owed) {c c' : Unit → Compile α} (rest : Guarded owed (c ()) (c' ())) :
    Guarded False (G.scope.trackUndefined column value >>= c) (G.free.trackUndefined column value >>= c') := by
  refine .marks (fun p q run => ?_) rest
  unfold Scope.trackUndefined at run
  split at run
  next undefined =>
    refine ⟨?_, fun _ => owes undefined⟩
    change EStateM.bind (G.scope.display column) _ p = _ at run
    unfold EStateM.bind at run
    split at run
    next shown =>
      cases run
      exact (Scope.display_quiet G.texts column _ _ _ shown).1
    · cases run
  · cases run
    exact ⟨rfl, fun changed => absurd rfl changed⟩

theorem compare (column operator value : Value) :
    Guarded False (G.scope.compare column operator value) (G.free.compare column operator value) := by
  refine (G.wrap column).bind fun _ => G.tracked column id ?_
  exact (G.operator operator).bind fun _ => (G.parameter value).bind_first fun _ => .pure _

theorem compareColumns (column operator other : Value) :
    Guarded False (G.scope.compareColumns column operator other) (G.free.compareColumns column operator other) :=
  (G.wrap column).bind fun _ => (G.operator operator).bind fun _ => (G.wrap other).bind fun _ => .pure _

theorem membership (negated : Bool) (column : Value) {values : Value} (plain : values.hasPlainRows = true) :
    Guarded False (G.scope.membership negated column values) (G.free.membership negated column values) := by
  unfold Scope.membership
  split
  · exact .pure _
  · have rest (target : Sql) : Guarded False
        (do
          G.scope.trackUndefined column values
          return target ++ Sql.word (if negated then " not in " else " in ") ++ (← G.scope.values values))
        (do
          G.free.trackUndefined column values
          return target ++ Sql.word (if negated then " not in " else " in ") ++ (← G.free.values values)) :=
      G.tracked column (fun undefined => ⟨undefined, plain⟩) ((G.values values).bind_first fun _ => .pure _)
    cases column.sequence? with
    | some columns => exact (G.columnizeAll _).bind fun _ => (Guarded.pure _).bind fun _ => rest _
    | none => exact (G.wrap column).bind fun _ => rest _

/-- A range binds its first two bounds. -/
theorem range (negated : Bool) (column : Value) {bounds : List Value}
    (paired : ((bounds.drop 2).all fun v => !v.containsUndefined) = true) :
    Guarded False (G.scope.range negated column bounds) (G.free.range negated column bounds) := by
  refine (G.wrap column).bind fun _ => ?_
  match bounds, paired with
  | [], _ => exact G.tracked column (fun _ => trivial) (Guarded.throw_right _)
  | [first], _ =>
    exact G.tracked column (fun _ => trivial) (((G.parameter first).mono False.elim).bind fun _ => .throw_right _)
  | first :: second :: rest, paired =>
    have owes (undefined : (Value.list (first :: second :: rest)).containsUndefined = true) :
        first.containsUndefined = true ∨ second.containsUndefined = true := by
      simp only [Value.containsUndefined, Value.anyUndefined_eq_any, List.any_cons, Bool.or_eq_true,
        List.any_eq_true] at undefined
      simp only [List.drop_succ_cons, List.drop_zero, List.all_eq_true, Bool.not_eq_true'] at paired
      rcases undefined with first | second | ⟨v, hv, undefined⟩
      · exact .inl first
      · exact .inr second
      · simp [paired v hv] at undefined
    refine G.tracked column owes ?_
    exact (G.parameter first).bind_both fun _ => (G.parameter second).bind_first fun _ => .pure _

/-! ## JSON paths -/

theorem jsonPath (path : Value) : Guarded False (G.scope.jsonPath path) (G.free.jsonPath path) := by
  have same : G.free.capabilities = G.scope.capabilities := rfl
  unfold Scope.jsonPath
  rw [same]
  refine .ite (fun _ => ?_) fun _ => (G.parameter path).mono False.elim
  split
  · exact (Guarded.mapM_free fun _ _ => (Guarded.bound _).mono False.elim).bind fun _ => .pure _
  · exact .throw_right _
  · exact .throw_right _

theorem jsonExtract (column path : Value) :
    Guarded False (G.scope.jsonExtract column path) (G.free.jsonExtract column path) :=
  (G.columnize column).bind fun _ => (G.jsonPath path).bind fun _ => .pure _

theorem jsonCompare (column path operator value : Value) :
    Guarded False (G.scope.jsonCompare column path operator value)
      (G.free.jsonCompare column path operator value) := by
  refine G.tracked column id ?_
  refine (G.jsonExtract column path).bind fun _ => (G.operator operator).bind fun _ => ?_
  exact (G.parameter value).bind_first fun _ => .pure _

/-! ## Conditions -/

theorem pairTests (entries : List (Value × Value)) :
    Guarded False (G.scope.pairTests entries) (G.free.pairTests entries) := by
  refine (Guarded.mapM_free fun e _ => ?_).bind fun _ => .pure _
  obtain ⟨column, value⟩ := e
  cases value with
  | scalar t =>
    cases t with
    | null => exact (G.wrap column).bind fun _ => .pure _
    | _ => exact G.compare _ _ _
  | _ => exact G.compare _ _ _

theorem pairColumns (entries : List (Value × Value)) :
    Guarded False (G.scope.pairColumns entries) (G.free.pairColumns entries) :=
  (Guarded.mapM_free fun _ _ => G.compareColumns _ _ _).bind fun _ => .pure _

theorem callbackConditions (clause : ConditionClause) (callback : Value) :
    Guarded False (G.scope.callbackConditions clause callback) (G.free.callbackConditions clause callback) := by
  unfold Scope.callbackConditions
  split
  · exact (G.callbackQuery _).bind fun _ => G.conditions_guarded _ _ _ _
  · exact .throw_right _

theorem callbackJoin (callback : Value) :
    Guarded False (G.scope.callbackJoin callback) (G.free.callbackJoin callback) := by
  unfold Scope.callbackJoin
  split
  · exact (Guarded.same (.ofLogged _)).bind fun _ => G.conditions_guarded _ _ _ _
  · exact .throw_right _

theorem test (clause : ConditionClause) {c : Condition Value} (exact_ : c.isExact = true) :
    Guarded False (G.scope.test clause c.negated c.test) (G.free.test clause c.negated c.test) := by
  unfold Condition.isExact at exact_
  cases test : c.test with
  | compare column operator value => exact (G.compare _ _ _).bind fun _ => .pure _
  | compareColumns column operator other => exact (G.compareColumns _ _ _).bind fun _ => .pure _
  | isIn column values =>
    simp only [test] at exact_
    exact G.membership _ _ exact_
  | isNull column => exact (G.wrap _).bind fun _ => .pure _
  | between column bounds =>
    simp only [test] at exact_
    exact G.range _ _ exact_
  | exists_ query => exact (G.subquery _).bind fun _ => .pure _
  | group callback => exact (G.callbackConditions _ _).bind fun _ => .pure _
  | pairs entries => exact (G.pairTests _).bind fun _ => .pure _
  | raw expression => exact (G.unwrapOrNothing _).bind fun _ => (G.spell _).bind fun _ => .pure _
  | like column pattern ignoreCase =>
    refine (G.wrap _).bind fun _ => G.tracked column id ?_
    exact (G.parameter pattern).bind_first fun _ => .pure _
  | jsonPath column path operator value => exact (G.jsonCompare _ _ _ _).bind fun _ => .pure _
  | joinGroup callback => exact (G.callbackJoin _).bind fun _ => .pure _
  | joinPairs entries => exact (G.pairColumns _).bind fun _ => .pure _
  | «using» columns => exact .throw_right _

theorem condition (clause : ConditionClause) {c : Condition Value} (exact_ : c.isExact = true) :
    Guarded False (G.scope.condition clause c) (G.free.condition clause c) := by
  have test := G.test clause exact_
  unfold Scope.condition
  revert test
  generalize c.test = test, c.negated = negated
  intro test
  split
  · exact G.unwrapOrNothing _
  · exact test.bind fun _ => .pure _

theorem conjunction (c : Condition Value) : Guarded False (G.scope.conjunction c) (G.free.conjunction c) := by
  unfold Scope.conjunction
  split
  · exact (G.display _).bind fun _ => .pure _
  · exact .pure _

theorem conjoin (done : Sql) (c : Condition Value) (operand : Operand) :
    Guarded False (G.scope.conjoin done c operand) (G.free.conjoin done c operand) := by
  unfold Scope.conjoin
  refine .ite (fun _ => (G.spell _).bind fun _ => .pure _) fun _ => ?_
  refine .ite (fun _ => (Guarded.textual _).bind fun _ => .pure _) fun _ => ?_
  exact (G.conjunction c).bind fun _ => (G.spell _).bind fun _ => .pure _

theorem conditions (clause : ConditionClause) {cs : List (Condition Value)} (h : ∀ c ∈ cs, c.isExact = true) :
    Guarded False (G.scope.conditions clause cs) (G.free.conditions clause cs) :=
  .foldlM (fun _ c hc => (G.condition clause (h c hc)).bind fun _ => G.conjoin _ _ _) _

theorem conditionClause (clause : ConditionClause) (keyword : String) {cs : List (Condition Value)}
    (h : ∀ c ∈ cs, c.isExact = true) :
    Guarded False (G.scope.conditionClause clause keyword cs) (G.free.conditionClause clause keyword cs) :=
  (G.conditions clause h).bind fun _ => .pure _

theorem joinConditions {cs : List (Condition Value)} (h : ∀ c ∈ cs, c.isExact = true) :
    Guarded False (G.scope.joinConditions cs) (G.free.joinConditions cs) := by
  unfold Scope.joinConditions
  split
  · exact (G.columnizeAll _).bind fun _ => .pure _
  · exact (G.conditions _ h).bind fun _ => .pure _

end SqlBuilder.Guard
