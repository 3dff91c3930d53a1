import SqlBuilder.Proofs.Places

/-!
# Bound values and texts

The text of a statement depends on the kinds of the values that are bound in it, and on which of them are
nulls or truth values, but not on their contents: two statements that differ in nothing else compile to
one text with equally many values, or fail with errors of one kind.

The texts of columns whose values are undefined are an exception, since the error says which they are and
values are written out in them. So these have to be the same in both statements.

* `Scalar.Akin`: two scalars are of one kind, and one truth value if they are truth values.
* `Likeness.varying`: the values of two statements may differ in their contents.
* `Query.compile_varying`: such statements compile to one text, or fail alike.
-/

namespace SqlBuilder

open List (Forall₂)

/-! ## Kinds -/

/-- Two scalars are of one kind; truth values are one. -/
inductive Scalar.Akin : Scalar → Scalar → Prop
  | null : Akin .null .null
  | bool (b : Bool) : Akin (.bool b) (.bool b)
  | int (m n : Int) : Akin (.int m) (.int n)
  | float (x y : FloatText) : Akin (.float x) (.float y)
  | decimal (x y : Decimal) : Akin (.decimal x) (.decimal y)
  | str (s t : String) : Akin (.str s) (.str t)
  | bytes (s t : List UInt8) : Akin (.bytes s) (.bytes t)
  | day (d e : Day) : Akin (.day d) (.day e)
  | moment (m n : Moment) : Akin (.moment m) (.moment n)
  | undefined : Akin .undefined .undefined

/-- A value akin to an undefined one is undefined. -/
theorem Scalar.Akin.containsUndefined {s t : Scalar} (h : s.Akin t) :
    (Value.scalar s).containsUndefined = (Value.scalar t).containsUndefined := by
  cases h <;> rfl

/-- The exception class of a fault. -/
def Fault.className : Fault → String
  | .wrongType => "TypeError"
  | .missingKey => "KeyError"
  | .outOfRange => "IndexError"
  | .badValue => "ValueError"
  | .lookup => "LookupError"
  | .runtime => "RuntimeError"
  | .timeout => "TimeoutError"
  | .noSuchMember => "AttributeError"
  | .overflow => "OverflowError"
  | .nestingTooDeep => "RecursionError"

/-- The exception class of an error. -/
def Error.className : Error → String
  | .fault f => f.className
  | .unknownMethod _ => "AttributeError"
  | .clientMissing | .unknownDialect _ _ | .clientNeeded => "ConfigurationError"
  | .rejectedSettings _ => "ConfigFieldError"
  | .invalid (.operator _) => "InvalidOperatorError"
  | .invalid _ | .boundsNeeded _ => "ValidationError"
  | .unsupported _ _ _ | .cannotCancel _ | .notDeferrable _ | .noCheckOption _
  | .noViewColumnRename _ | .noViewColumnDefault _ => "CapabilityError"
  | .undefinedInRaw _ _ | .undefinedInQuery _ _ _ => "BindingError"
  | .unknownStatement _ | .emptyUpdate | .tableMissing | .bindingCount _ _ | .definitionNotFound _
  | .definitionUnbalanced _ | .rebuildTableMissing _ | .rebuildColumnMissing _ => "CompilationError"
  | .execution _ _ _ => "ExecutionError"
  | .timedOut _ _ _ => "QuarryTimeoutError"

namespace Likeness

/-- Two values are the same, or scalars that are akin. -/
def AkinValues (v w : Value) : Prop :=
  v = w ∨ ∃ s t : Scalar, v = .scalar s ∧ w = .scalar t ∧ s.Akin t

/-- Two errors are of one class, and those that have no text yet are about one column. -/
structure AkinErrors (e e' : Error) : Prop where
  className : e.className = e'.className
  bounds : ∀ column, e = .boundsNeeded column ↔ e' = .boundsNeeded column

/-- Two statements that are the same but for the contents of the scalars that they bind. -/
def varying (env : Environment) (client : Client Value) : Likeness where
  env
  client
  value := AkinValues
  error := AkinErrors
  piece _ := True
  char _ := True
  spaced := False
  writes := True
  freezes := True
  liberal := True
  exchanges := False

variable {env : Environment} {client : Client Value}

theorem varying_liberal : (varying env client).Liberal where
  toSpeaks :=
    speaks_of_words _ (fun _ _ => trivial) False.elim False.elim fun _ _ _ _ _ => .inl trivial
  value_refl _ := .inl rfl
  value_undefined h := by
    rcases h with rfl | ⟨s, t, rfl, rfl, akin⟩
    · rfl
    · exact akin.containsUndefined
  error_refl _ := ⟨rfl, fun _ => Iff.rfl⟩
  error_bounds h := h.bounds _
  words _ _ := trivial
  name _ := trivial
  integer _ := trivial
  param _ := trivial
  undefined := trivial
  stray _ _ := trivial
  mark _ := trivial
  markChars _ _ := trivial
  hook := .inl trivial
  unhooked := False.elim
  anyPiece _ _ := trivial
  anyChar _ _ := trivial
  unspaced _ := id
  liberal := trivial
  allowed := trivial
  freezes := trivial

/-! ## Values that may differ -/

variable {L : Level} {s t : Scalar}

/-- Akin scalars stand for each other in the place of a value. -/
theorem varying_argument (h : s.Akin t) : (varying env client).Argument L (.scalar s) (.scalar t) :=
  .bound ⟨rfl, rfl⟩ ⟨rfl, rfl⟩ rfl rfl (.inr ⟨s, t, rfl, rfl, h⟩)

/-- Akin scalars stand for each other in the place of a value that is stored. -/
theorem varying_stored (h : s.Akin t) : (varying env client).Stored L (.scalar s) (.scalar t) :=
  .operand rfl rfl (varying_argument h)

/-- Akin scalars go with one column. -/
theorem varying_tracked (h : s.Akin t) (column : Value) : Tracked column column (.scalar s) (.scalar t) :=
  ⟨h.containsUndefined, fun _ => rfl⟩

/-- Lists of akin scalars stand for each other in a membership test. -/
theorem varying_members {ss ts : List Scalar} (h : Forall₂ Scalar.Akin ss ts) :
    (varying env client).Members L (.list (ss.map .scalar)) (.list (ts.map .scalar)) := by
  cases h with
  | nil => exact .empty rfl rfl
  | cons first rest =>
    refine .values rfl rfl rfl rfl (.cons (varying_stored first) ?_)
    exact List.rel_map (fun _ _ h => varying_stored h) rest

end Likeness

/-- Queries that are the same but for the contents of the scalars that they bind compile to one text with
equally many values, or fail with errors of one class. -/
theorem Query.compile_varying {env : Environment} {q q' : Query Value} (client : q'.client = q.client)
    (h : (Likeness.varying env q.client).Like q q') :
    ((q.compile env).outcome.1.map fun c => (c.sql, c.bindings.length)).mapError Error.className =
      ((q'.compile env).outcome.1.map fun c => (c.sql, c.bindings.length)).mapError Error.className := by
  have law : (Likeness.varying env q.client).Liberal := Likeness.varying_liberal
  have tandem := h.compile law.toLawful rfl client {} {} ⟨rfl, rfl⟩
  simp only [Compile.outcome]
  change EndsAlike _ _ _ _ (q.compile env {}) (q'.compile env {}) at tandem
  generalize q.compile env {} = r, q'.compile env {} = r' at tandem ⊢
  cases tandem with
  | ok agrees _ _ result =>
    obtain ⟨⟨a, a', frag, sql, sql', bindings, bindings'⟩, -, -⟩ := result
    simp only [Except.map, Except.mapError]
    rw [sql, sql', bindings, bindings', frag.text, frag.length_bindings]
  | error agrees error => simp only [Except.map, Except.mapError, error.className]

/-- A comparison with a number before a membership test in a list of texts. -/
theorem Query.compile_varying_comparison :
    let client : Client Value := { dialect := .postgres }
    let env : Environment := { client }
    let query (n : Int) (names : List Scalar) :=
      (((Query.ofClient client).from_ (.str "users")).addCondition .where_ .and false
        (.compare (.str "age") (.str ">") (.int n))).addIn .where_ .or true (.str "name")
          (.list (names.map .scalar))
    let q := query 5 [.str "ann", .str "bob"]
    let q' := query (-7) [.str "x' or 1 = 1 --", .str ""]
    q'.client = q.client ∧ (Likeness.varying env q.client).Like q q' ∧
      ((q.compile env).outcome.1.map fun c => (c.sql, c.bindings.length)).mapError Error.className =
        ((q'.compile env).outcome.1.map fun c => (c.sql, c.bindings.length)).mapError Error.className := by
  intro client env query q q'
  have law : (Likeness.varying env client).Liberal := Likeness.varying_liberal
  have like : (Likeness.varying env client).Like q q' := by
    let with_ (wheres : List (Condition Value)) (st : Statement Value) : Statement Value := { st with wheres }
    change ((Likeness.varying env client).level nestingLimit).query
      (((Query.ofClient client).from_ (.str "users")).edit (with_ q.statement.wheres))
      (((Query.ofClient client).from_ (.str "users")).edit (with_ q'.statement.wheres))
    refine law.edited_level _ (fun n any same => ?_) nestingLimit
    have compared := Likeness.varying_tracked (.int 5 (-7)) (.str "age")
    have listed : Forall₂ Scalar.Akin [.str "ann", .str "bob"] [.str "x' or 1 = 1 --", .str ""] :=
      .cons (.str _ _) (.cons (.str _ _) .nil)
    refine { same with wheres := .cons ⟨rfl, rfl, nofun, rfl, ?_⟩ (.cons ⟨rfl, rfl, nofun, rfl, ?_⟩ .nil) }
    · exact .compare (any.column _ trivial) (any.wordOf trivial) compared (Likeness.varying_argument (.int _ _))
    · exact .isIn (any.columns trivial) ⟨rfl, fun _ => rfl⟩ (Likeness.varying_members listed)
  exact ⟨rfl, like, Query.compile_varying rfl like⟩

/-- A column that is compared with an undefined value is shown with its own values written out, which
fails for a moment that no clock can show: with another moment the failure is of another class. -/
theorem Query.compile_undefined_overflow :
    let client : Client Value := { dialect := .postgres }
    let env : Environment := { client }
    let query (year : Nat) : Query Value :=
      let last : Moment := { date := ⟨year, 12, 31⟩, hour := 23, offset := some (-18000) }
      let column := Value.raw (Raw.ofValue client (.str "?") (.list [.scalar (.moment last)]))
      ((Query.ofClient client).from_ (.str "t")).addCondition .where_ .and false
        (.compare column (.str "=") .undefined)
    let failure (year : Nat) := ((query year).compile env).outcome.1.mapError Error.className
    (∃ e, failure 2024 = .error e ∧ e = "BindingError") ∧
      ∃ e, failure 9999 = .error e ∧ e = "OverflowError" := by
  intro client env query failure
  exact ⟨⟨_, rfl, by decide +kernel⟩, _, rfl, by decide +kernel⟩

end SqlBuilder
