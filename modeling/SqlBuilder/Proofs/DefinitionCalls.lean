import SqlBuilder.Proofs.RecordedConditions
import SqlBuilder.Schema.Operation

/-!
# What the calls of a definition leave as it is

A callback puts a table or a view together by calls on it. No call changes which table or view that is, nor what
happens to it.

* `Table.target`, `View.target`: what a definition is about, and what happens to it.
* `TableCursor.call_target`, `ViewCursor.call_target`: a call leaves that as it is.
* `Scope.builtTable_target`, `Scope.builtView_target`: what a callback puts together.
-/

namespace SqlBuilder

/-! ## Outcomes -/

/-- An outcome that is no failure has a property. -/
def Ensures {α : Type} (x : Except Error α) (P : α → Prop) : Prop :=
  ∀ a, x = .ok a → P a

namespace Ensures

variable {α β : Type} {P : α → Prop} {Q : β → Prop}

theorem ok {a : α} (h : P a) : Ensures (.ok a) P := by
  rintro _ ⟨⟩
  exact h

theorem error (e : Error) : Ensures (.error e) P := by
  rintro _ ⟨⟩

/-- A property of what is made of an outcome, from one of the outcome. -/
theorem bind_of {x : Except Error β} {f : β → Except Error α} (hx : Ensures x Q)
    (h : ∀ b, Q b → Ensures (f b) P) : Ensures (x >>= f) P := by
  cases x with
  | ok b => exact h b (hx b rfl)
  | error e => exact error e

protected theorem bind {x : Except Error β} {f : β → Except Error α} (h : ∀ b, Ensures (f b) P) :
    Ensures (x >>= f) P :=
  bind_of (Q := fun _ => True) (fun _ _ => trivial) fun b _ => h b

end Ensures

/-! ## Chains -/

/-- A step leaves the objects with a property among themselves. -/
def Make.Keeps {σ α : Type} (I : σ → Prop) (step : Make σ α) : Prop :=
  ∀ m a m', I m.object → step m = .ok a m' → I m'.object

namespace Make.Keeps

variable {σ α β : Type} {I : σ → Prop}

protected theorem pure (a : α) : Keeps I (pure a) := by
  rintro m _ _ holds ⟨⟩
  exact holds

protected theorem bind {step : Make σ β} {f : β → Make σ α} (h : Keeps I step) (h' : ∀ b, Keeps I (f b)) :
    Keeps I (step >>= f) := by
  intro m a m' holds run
  obtain ⟨b, m₁, first, rest⟩ := Build.bind_ok.mp run
  exact h' b m₁ a m' (h m b m₁ holds first) rest

theorem ofLogged (step : Logged α) : Keeps I (Make.ofLogged step) := by
  intro m a m' holds run
  unfold Make.ofLogged at run
  split at run
  · cases run
    exact holds
  · cases run

theorem change {f : σ → Except Error σ} (h : ∀ object, I object → Ensures (f object) I) :
    Keeps I (Make.change fun object => liftExcept (f object)) := by
  intro m a m' holds run
  rw [Make.change_eq] at run
  split at run
  next object made =>
    cases run
    exact h m.object holds object made
  · cases run

end Make.Keeps

/-- What each step keeps, steps one after another keep. -/
theorem Logged.foldlM_keeps {α β : Type} {I : β → Prop} {f : β → α → Logged β} {as : List α}
    (h : ∀ b a events b' events', I b → f b a events = .ok b' events' → I b') {b b' : β} (holds : I b)
    {events events' : List LogEvent} (run : as.foldlM f b events = .ok b' events') : I b' := by
  induction as generalizing b events with
  | nil =>
    cases run
    exact holds
  | cons a as ih =>
    rw [List.foldlM_cons] at run
    obtain ⟨b₁, events₁, first, rest⟩ := Build.bind_ok.mp run
    exact ih (h b a events b₁ events₁ holds first) rest

namespace Evaluator

variable {ev : Evaluator} {σ : Type} {I : σ → Prop} {call : σ → String → Arguments → Except Error σ}

/-- What each call of a chain keeps, the chain keeps. -/
theorem calls_keeps (kept : ∀ object name a, I object → Ensures (call object name a) I) (chain : Chain) :
    Make.Keeps I (ev.calls (fun name a => Make.change fun object => liftExcept (call object name a)) chain) := by
  induction chain with
  | nil => exact .pure ()
  | cons c chain ih =>
    exact .bind (.ofLogged _) fun a => .bind (.change fun object holds => kept object c.name a holds) fun _ => ih

/-- What each call keeps, a callback keeps. -/
theorem onObject_keeps (kept : ∀ object name a, I object → Ensures (call object name a) I) {chains : List Chain}
    {object object' : σ} (holds : I object) {events events' : List LogEvent}
    (run : ev.onObject call chains object events = .ok object' events') : I object' := by
  refine Logged.foldlM_keeps (fun object chain events object' events' holds run => ?_) holds run
  unfold onBuilder Make.finish at run
  split at run
  next made =>
    cases run
    exact calls_keeps kept chain _ _ _ holds made
  · cases run

end Evaluator

/-! ## Tables -/

/-- What a definition is about: the table with its schema, and what happens to it. -/
def Table.target {α : Type} (t : Table α) : TableMethod × String × Option α :=
  (t.method, t.name, t.schema)

namespace Table

variable (t : Table Value)

@[simp] theorem target_addColumn (name : Value) (type : ColumnType Value) : (t.addColumn name type).target = t.target :=
  rfl

@[simp] theorem target_editColumn (i : Nat) (f : Column Value → Column Value) :
    (t.editColumn i f).target = t.target :=
  rfl

@[simp] theorem target_addStatement (s : TableStatement Value) : (t.addStatement s).target = t.target :=
  rfl

@[simp] theorem target_addTimestamps (timestamps defaultToNow camelCase : Bool) :
    (t.addTimestamps timestamps defaultToNow camelCase).target = t.target :=
  rfl

@[simp] theorem target_addCheck (c : CheckConstraint Value) : (t.addCheck c).target = t.target := by
  unfold addCheck
  split <;> rfl

@[simp] theorem target_unlessIncrements (c : Column Value) (s : TableStatement Value) :
    (TableCall.unlessIncrements t c s).target = t.target := by
  unfold TableCall.unlessIncrements
  split <;> rfl

theorem alterStatement_target (operation : String) (s : TableStatement Value) :
    Ensures (t.alterStatement operation s) (·.target = t.target) := by
  unfold alterStatement
  split
  · exact .ok rfl
  · exact .error _

theorem editForeign_target (i : Nat) (f : ForeignKey Value → Except Error (ForeignKey Value)) :
    Ensures (t.editForeign i f) (·.target = t.target) := by
  unfold editForeign
  split
  · exact .bind fun _ => .ok rfl
  · exact .error _

theorem setComment_target (v : Value) : Ensures (t.setComment v) (·.target = t.target) := by
  unfold setComment
  split
  · exact .ok rfl
  · exact .error _

end Table

namespace TableCall

variable (t : Table Value) (name : String) (a : Arguments)

/-- A call on a table that adds no column leaves the table the same one. -/
theorem onTable_target : Ensures (onTable t name a) (·.table.target = t.target) := by
  unfold onTable
  extract_lets stay keyed option altering
  have hstay {t' : Table Value} (h : t'.target = t.target) : Ensures (stay t') (·.table.target = t.target) := .ok h
  have hkeyed (parameter : String) (s : List Value → Option Value → TableStatement Value) :
      Ensures (keyed parameter s) (·.table.target = t.target) := .bind fun _ => hstay rfl
  have hoption (dialect : String) (set : Value → Table Value) (h : ∀ v, (set v).target = t.target) :
      Ensures (option dialect set) (·.table.target = t.target) := .bind fun v => .bind fun _ => hstay (h v)
  have added {x : Except Error (Table Value)} (h : Ensures x (·.target = t.target)) :
      Ensures (x >>= stay) (·.table.target = t.target) := .bind_of h fun _ => hstay
  have haltering (s : Value → TableStatement Value) : Ensures (altering s) (·.table.target = t.target) :=
    .bind fun _ => added (t.alterStatement_target _ _)
  split
  -- keys and indexes
  case h_1 | h_2 => exact .bind fun _ => hstay rfl
  case h_3 | h_5 | h_6 | h_8 => exact hkeyed _ _
  case h_4 => exact .bind fun _ => .ok rfl
  case h_7 => exact .bind fun _ => hstay rfl
  -- checks, the comment and the options
  case h_9 => exact .bind fun _ => hstay (t.target_addCheck _)
  case h_10 => exact .bind fun _ => added (t.setComment_target _)
  case h_11 | h_12 | h_13 | h_14 => exact hoption _ _ fun _ => rfl
  -- what only an existing table can have
  case h_15 | h_16 | h_17 | h_18 | h_21 => exact .bind fun _ => added (t.alterStatement_target _ _)
  case h_19 | h_20 => exact haltering _
  case h_22 => exact .bind fun _ => .ok rfl
  case h_23 =>
    refine .bind fun b => ?_
    split
    · exact .ok rfl
    · exact hstay rfl
  all_goals first | exact .bind fun _ => .error _ | exact .error _

/-- A call on a column leaves the table the same one. -/
theorem onColumn_target (i : Nat) (c : Column Value) : Ensures (onColumn t i c name a) (·.target = t.target) := by
  unfold onColumn
  extract_lets columns
  split
  case h_1 | h_2 => exact .bind fun _ => .ok (t.target_unlessIncrements c _)
  case h_3 =>
    refine .bind fun b => .ok ?_
    rw [Table.target_unlessIncrements]
    change (ite _ _ t : Table Value).target = t.target
    split <;> rfl
  case h_4 => exact .bind fun _ => .ok rfl
  case h_11 =>
    refine .bind fun changed => ?_
    split
    · exact .ok rfl
    · refine .bind fun altered => ?_
      split
      · exact .ok rfl
      · exact .error _
  all_goals
    split
    · exact .bind fun _ => .error _
    · exact t.editForeign_target _ _

end TableCall

/-- A call leaves the table the same one. -/
theorem TableCursor.call_target (c : TableCursor) (name : String) (a : Arguments) :
    Ensures (c.call name a) (·.table.target = c.table.target) := by
  unfold call
  extract_lets t
  split
  · refine .bind fun column => ?_
    split
    · exact .ok rfl
    · exact TableCall.onTable_target t name a
  · split
    · exact .bind_of (TableCall.onColumn_target t name a _ _) fun _ h => .ok h
    · exact .error _
  · exact .bind_of (t.editForeign_target _ _) fun _ h => .ok h
  · exact .error _

/-! ## Views -/

/-- What a definition is about: the view with its schema, and what happens to it. -/
def View.target {α : Type} (v : View α) : ViewMethod × α × Option α :=
  (v.method, v.name, v.schema)

theorem View.checking_target (v : View Value) (option : CheckOption) :
    Ensures (v.checking option) (·.target = v.target) := by
  unfold checking
  split
  · exact .ok rfl
  · exact .error _

/-- A call leaves the view the same one. -/
theorem ViewCursor.call_target (c : ViewCursor) (name : String) (a : Arguments) :
    Ensures (c.call name a) (·.view.target = c.view.target) := by
  unfold call
  extract_lets v
  have checked (option : CheckOption) :
      Ensures (do return { c with view := ← v.checking option }) (·.view.target = v.target) :=
    .bind_of (v.checking_target option) fun _ h => .ok h
  split
  case h_1 | h_2 => exact .bind fun _ => .ok rfl
  case h_3 => exact .bind fun _ => .bind fun _ => .ok rfl
  case h_4 => exact .bind fun _ => .ok rfl
  case h_5 | h_6 | h_7 => exact .bind fun _ => checked _
  case h_8 =>
    refine .bind fun column => ?_
    split
    · exact .ok rfl
    · exact .error _
  all_goals first | exact .bind fun _ => .error _ | exact .error _

/-! ## Callbacks -/

namespace Evaluator

variable {ev : Evaluator} {chains : List Chain} {events events' : List LogEvent}

/-- A callback leaves the table the same one. -/
theorem onTable_target {t t' : Table Value} (run : ev.onTable chains t events = .ok t' events') :
    t'.target = t.target := by
  refine Logged.foldlM_keeps (I := (·.target = t.target)) (fun t₁ chain events₁ t₂ events₂ same step => ?_) rfl run
  obtain ⟨c, _, called, rest⟩ := Build.bind_ok.mp step
  cases rest
  refine onObject_keeps (I := (·.table.target = t.target)) (fun c name a holds c' run => ?_) same called
  exact (c.call_target name a c' run).trans holds

/-- A callback leaves the view the same one. -/
theorem onView_target {v v' : View Value} (run : ev.onView chains v events = .ok v' events') :
    v'.target = v.target := by
  refine Logged.foldlM_keeps (I := (·.target = v.target)) (fun v₁ chain events₁ v₂ events₂ same step => ?_) rfl run
  obtain ⟨c, _, called, rest⟩ := Build.bind_ok.mp step
  cases rest
  refine onObject_keeps (I := (·.view.target = v.target)) (fun c name a holds c' run => ?_) same called
  exact (c.call_target name a c' run).trans holds

end Evaluator

/-- What a callback puts together for a compilation. -/
theorem Compile.ofLogged_ok {α : Type} {step : Logged α} {a : α} {p p' : Progress}
    (run : Compile.ofLogged step p = .ok a p') : ∃ events events', step events = .ok a events' := by
  unfold Compile.ofLogged at run
  split at run
  next made =>
    cases run
    exact ⟨_, _, made⟩
  · cases run

namespace Scope

variable {s : Scope} {schema : Option Value} {name : String} {callback : Value}

/-- A callback puts the table together that the operation is about. -/
theorem builtTable_target {method : TableMethod} {like : Option Value} :
    (s.builtTable schema method (.str name) like callback).Returns (·.target = (method, name, schema)) := by
  intro p t p' run
  unfold builtTable at run
  simp only at run
  split at run
  · split at run
    · cases run
    · cases run
      rfl
  · obtain ⟨_, _, made⟩ := Compile.ofLogged_ok run
    exact Evaluator.onTable_target made
  · cases run

/-- A callback puts the view together that the operation is about. -/
theorem builtView_target {method : ViewMethod} {name : Value} :
    (s.builtView schema method name callback).Returns (·.target = (method, name, schema)) := by
  intro p v p' run
  unfold builtView at run
  split at run
  · obtain ⟨_, _, made⟩ := Compile.ofLogged_ok run
    exact Evaluator.onView_target made
  · cases run

end Scope

end SqlBuilder
