import SqlBuilder.Proofs.Regions
import SqlBuilder.Proofs.Statements

/-!
# Steps that are confined to a region

Two stores that agree in a region are looked into side by side. A step that is confined to the region does the
same in both, and what it returns refers to nothing outside of the region, so that the next step is confined as
well.

* `Region.Outcome`: a result, or an error, that refers to a region only.
* `Region.Confined`: the judgement on steps, with what holds of their states.
* `Confined.bind`, `Confined.mapM` and their like: confined steps in sequence.
* `Region.Renders`: the judgement on steps of a compilation.
* `Region.sql`, `Region.operand`: the values of a rendered fragment lie in a region.
-/

namespace SqlBuilder

namespace Region

variable (R : Region)

/-- An error whose text is still to be completed is about a column that lies in a region. -/
def error (e : Error) : Prop :=
  ∀ column, e = .boundsNeeded column → R.value column

/-! ## Outcomes without effects -/

/-- A result has a property, or an error lies in a region. -/
def Outcome {α : Type} (P : α → Prop) : Except Error α → Prop
  | .ok a => P a
  | .error e => R.error e

variable {R} {α β σ : Type} {P : α → Prop} {Q : β → Prop}

theorem error_of_ne {e : Error} (h : ∀ column, e ≠ .boundsNeeded column) : R.error e :=
  fun column same => absurd same (h column)

@[simp] theorem error_fault (f : Fault) : R.error (.fault f) := error_of_ne nofun

@[simp] theorem error_wrongType : R.error wrongType := error_fault _

@[simp] theorem error_noSuchMember : R.error noSuchMember := error_fault _

@[simp] theorem error_invalid (i : Invalid) : R.error (.invalid i) := error_of_ne nofun

@[simp] theorem error_missing (v : Value) (member : String) : R.error (v.missing member) := by
  unfold Value.missing
  split
  · exact error_of_ne nofun
  · exact error_noSuchMember

namespace Outcome

protected theorem pure {a : α} (h : P a) : R.Outcome P (pure a) := h

protected theorem bind {x : Except Error α} {f : α → Except Error β} (hx : R.Outcome P x)
    (hf : ∀ a, P a → R.Outcome Q (f a)) : R.Outcome Q (x >>= f) := by
  cases x with
  | ok a => exact hf a hx
  | error e => exact hx

theorem mapM {f : α → Except Error β} {as : List α} (h : ∀ a ∈ as, R.Outcome Q (f a)) :
    R.Outcome (fun bs => ∀ b ∈ bs, Q b) (as.mapM f) := by
  induction as with
  | nil => exact .pure nofun
  | cons a as ih =>
    rw [List.mapM_cons]
    refine (h a (.head _)).bind fun b hb => (ih fun a ha => h a (.tail _ ha)).bind fun bs hbs => .pure ?_
    simpa using ⟨hb, hbs⟩

end Outcome

/-! ## Steps -/

variable (R)

/-- The outcome of a step: a result with a property, or an error that lies in a region; and a property of the
state that the step leaves. -/
inductive Ends (I : σ → Prop) (P : α → Prop) : EStateM.Result Error σ α → Prop
  | ok {a : α} {s : σ} (result : P a) (state : I s) : Ends I P (.ok a s)
  | error {e : Error} {s : σ} (error : R.error e) (state : I s) : Ends I P (.error e s)

/-- Two steps do the same from every state that has a property, keep that property of the state, and return
what lies in a region. -/
def Confined (I : σ → Prop) (c c' : EStateM Error σ α) (P : α → Prop) : Prop :=
  ∀ s, I s → c' s = c s ∧ R.Ends I P (c s)

/-- Two steps of a compilation do the same and return what lies in a region. -/
abbrev Renders (c c' : Compile α) (P : α → Prop) : Prop :=
  R.Confined (fun _ => True) c c' P

/-- Two steps that may report events do the same and return what lies in a region. -/
abbrev Reports (c c' : Logged α) (P : α → Prop) : Prop :=
  R.Confined (fun _ => True) c c' P

variable {R} {I : σ → Prop}

namespace Confined

theorem mono {c c' : EStateM Error σ α} {P' : α → Prop} (h : R.Confined I c c' P) (weaker : ∀ a, P a → P' a) :
    R.Confined I c c' P' := by
  intro s hs
  obtain ⟨same, ends⟩ := h s hs
  refine ⟨same, ?_⟩
  generalize c s = r at ends
  cases ends with
  | ok result state => exact .ok (weaker _ result) state
  | error error state => exact .error error state

protected theorem pure {a : α} (h : P a) : R.Confined I (pure a) (pure a) P :=
  fun _ hs => ⟨rfl, .ok h hs⟩

protected theorem throw {e : Error} (h : R.error e) : R.Confined I (throw e) (throw e) P :=
  fun _ hs => ⟨rfl, .error h hs⟩

protected theorem bind {c c' : EStateM Error σ α} {f f' : α → EStateM Error σ β} (hc : R.Confined I c c' P)
    (hf : ∀ a, P a → R.Confined I (f a) (f' a) Q) : R.Confined I (c >>= f) (c' >>= f') Q := by
  intro s hs
  obtain ⟨same, ends⟩ := hc s hs
  change EStateM.bind c' f' s = EStateM.bind c f s ∧ R.Ends I Q (EStateM.bind c f s)
  unfold EStateM.bind
  rw [same]
  generalize c s = r at ends
  cases ends with
  | ok result state => exact hf _ result _ state
  | error error state => exact ⟨rfl, .error error state⟩

/-- A step that looks at the state first. -/
theorem get_bind {f f' : σ → EStateM Error σ α} (h : ∀ s, I s → R.Confined I (f s) (f' s) P) :
    R.Confined I (get >>= f) (get >>= f') P :=
  fun s hs => h s hs s hs

protected theorem modify {f : σ → σ} (h : ∀ s, I s → I (f s)) :
    R.Confined I (modify f) (modify f) fun _ => True :=
  fun s hs => ⟨rfl, .ok trivial (h s hs)⟩

protected theorem ite {p : Prop} [Decidable p] {c c' d d' : EStateM Error σ α} (yes : p → R.Confined I c c' P)
    (no : ¬ p → R.Confined I d d' P) : R.Confined I (if p then c else d) (if p then c' else d') P := by
  split
  next h => exact yes h
  next h => exact no h

theorem liftExcept {x : Except Error α} (h : R.Outcome P x) :
    R.Confined I (SqlBuilder.liftExcept x) (SqlBuilder.liftExcept x) P := by
  cases x with
  | ok a => exact .pure h
  | error e => exact .throw h

/-- A change that is refused or leaves an object in its place. -/
theorem change {f : σ → Except Error σ} (h : ∀ s, I s → R.Outcome I (f s)) :
    R.Confined I (SqlBuilder.change f) (SqlBuilder.change f) fun _ => True := by
  refine .get_bind fun s hs => (liftExcept (h s hs)).bind fun s' hs' => ?_
  exact fun _ _ => ⟨rfl, .ok trivial hs'⟩

theorem mapM {f f' : α → EStateM Error σ β} {as : List α} (h : ∀ a ∈ as, R.Confined I (f a) (f' a) Q) :
    R.Confined I (as.mapM f) (as.mapM f') fun bs => ∀ b ∈ bs, Q b := by
  induction as with
  | nil => exact .pure nofun
  | cons a as ih =>
    rw [List.mapM_cons, List.mapM_cons]
    refine (h a (.head _)).bind fun b hb => (ih fun a ha => h a (.tail _ ha)).bind fun bs hbs => .pure ?_
    simpa using ⟨hb, hbs⟩

theorem foldlM {f f' : β → α → EStateM Error σ β} {as : List α}
    (h : ∀ b, Q b → ∀ a ∈ as, R.Confined I (f b a) (f' b a) Q) {b : β} (hb : Q b) :
    R.Confined I (as.foldlM f b) (as.foldlM f' b) Q := by
  induction as generalizing b with
  | nil => exact .pure hb
  | cons a as ih =>
    rw [List.foldlM_cons, List.foldlM_cons]
    exact (h b hb a (.head _)).bind fun b' hb' => ih (fun b hb a ha => h b hb a (.tail _ ha)) hb'

theorem optionMapM {f f' : α → EStateM Error σ β} {o : Option α} (h : ∀ a ∈ o, R.Confined I (f a) (f' a) Q) :
    R.Confined I (o.mapM f) (o.mapM f') fun b => ∀ v ∈ b, Q v := by
  cases o with
  | none => exact .pure nofun
  | some a => exact (h a rfl).bind fun b hb => .pure (by simpa using hb)

/-- Steps from states of which nothing is known are the same. -/
theorem eq {c c' : EStateM Error σ α} (h : R.Confined (fun _ => True) c c' P) : c' = c :=
  funext fun s => (h s trivial).1

end Confined

/-! ## Steps of a compilation -/

namespace Renders

theorem liftCompile {x : Except Error α} (h : R.Outcome P x) :
    R.Renders (SqlBuilder.liftCompile x) (SqlBuilder.liftCompile x) P := by
  cases x with
  | ok a => exact .pure h
  | error e => exact .throw h

protected theorem bindAll (vs : List Value) : R.Renders (bindAll vs) (bindAll vs) fun _ => True :=
  .modify fun _ _ => trivial

protected theorem markUndefined (column : Value) :
    R.Renders (markUndefined column) (markUndefined column) fun _ => True :=
  .modify fun _ _ => trivial

protected theorem report (event : LogEvent) : R.Renders (report event) (report event) fun _ => True :=
  .modify fun _ _ => trivial

theorem own {c c' : Compile α} (h : R.Renders c c' P) : R.Renders (ownBindings c) (ownBindings c') P := by
  intro p _
  obtain ⟨same, ends⟩ := h { p with bound := [] } trivial
  simp only [ownBindings]
  rw [same]
  generalize c { p with bound := [] } = r at ends
  cases ends with
  | ok result _ => exact ⟨rfl, .ok result trivial⟩
  | error error _ => exact ⟨rfl, .error error trivial⟩

theorem ownColumns {c c' : Compile α} (h : R.Renders c c' P) :
    R.Renders (SqlBuilder.ownColumns c) (SqlBuilder.ownColumns c') P := by
  intro p _
  obtain ⟨same, ends⟩ := h { p with undefinedColumns := [] } trivial
  simp only [SqlBuilder.ownColumns]
  rw [same]
  generalize c { p with undefinedColumns := [] } = r at ends
  cases ends with
  | ok result _ => exact ⟨rfl, .ok result trivial⟩
  | error error _ => exact ⟨rfl, .error error trivial⟩

theorem ofLogged {step step' : Logged α} (h : R.Reports step step' P) :
    R.Renders (Compile.ofLogged step) (Compile.ofLogged step') P := by
  intro p _
  obtain ⟨same, ends⟩ := h p.events trivial
  simp only [Compile.ofLogged]
  rw [same]
  generalize step p.events = r at ends
  cases ends with
  | ok result _ => exact ⟨rfl, .ok result trivial⟩
  | error error _ => exact ⟨rfl, .error error trivial⟩

theorem logged {c c' : Compile α} (h : R.Renders c c' P) : R.Reports c.logged c'.logged P := by
  intro events _
  obtain ⟨same, ends⟩ := h { events } trivial
  simp only [Compile.logged]
  rw [same]
  generalize c { events } = r at ends
  cases ends with
  | ok result _ => exact ⟨rfl, .ok result trivial⟩
  | error error _ => exact ⟨rfl, .error error trivial⟩

/-- Compilations whose errors are completed alike. -/
theorem tryCatch {c c' : Compile α} {f f' : Error → Compile α} (h : R.Renders c c' P)
    (failing : ∀ e, R.error e → f' e = f e) : tryCatch c' f' = tryCatch c f := by
  funext p
  obtain ⟨same, ends⟩ := h p trivial
  change EStateM.tryCatch c' f' p = EStateM.tryCatch c f p
  unfold EStateM.tryCatch
  rw [same]
  generalize c p = r at ends
  cases ends with
  | ok => rfl
  | error error => simp only [failing _ error]

end Renders

/-! ## Fragments -/

variable (R)

/-- The values of a fragment lie in a region. -/
def sql (a : Sql) : Prop :=
  ∀ v ∈ a.bindings, R.value v

/-- What an operand renders to lies in a region. -/
def operand : Operand → Prop
  | .sql a => R.sql a
  | .object v => R.value v

/-- A rendered query lies in a region. -/
structure rendered (r : Rendered) : Prop where
  sql : R.sql r.sql
  asName : ∀ v ∈ r.asName, R.value v

variable {R} {a b : Sql}

@[simp] theorem sql_nil : R.sql [] := nofun

@[simp] theorem sql_word (w : String) : R.sql (Sql.word w) := nofun

@[simp] theorem sql_raw (text : String) : R.sql (Sql.raw text) := nofun

@[simp] theorem sql_name (quoting : Quoting) (segment : String) : R.sql [.name quoting segment] := nofun

@[simp] theorem sql_number (text : String) : R.sql [.number text] := nofun

@[simp] theorem sql_append : R.sql (a ++ b) ↔ R.sql a ∧ R.sql b := by
  simp [sql, or_imp, forall_and]

@[simp] theorem sql_parens : R.sql a.parens ↔ R.sql a := by simp [sql]

@[simp] theorem sql_after (keyword : String) : R.sql (a.after keyword) ↔ R.sql a := by simp [sql]

@[simp] theorem sql_frozen : R.sql a.frozen := by simp [sql]

@[simp] theorem sql_strayed : R.sql a.strayed ↔ R.sql a := by simp [sql]

theorem sql_when (c : Bool) (h : R.sql a) : R.sql (Sql.when c a) := by
  cases c with
  | false => exact sql_nil
  | true => exact h

@[simp] theorem sql_joined (separator : String) (parts : List Sql) :
    R.sql (Sql.joined separator parts) ↔ ∀ p ∈ parts, R.sql p := by
  simp only [sql, Sql.bindings_joined, List.mem_flatMap]
  exact ⟨fun h p hp v hv => h v ⟨p, hp, hv⟩, fun h v ⟨p, hp, hv⟩ => h p hp v hv⟩

@[simp] theorem sql_commas (parts : List Sql) : R.sql (Sql.commas parts) ↔ ∀ p ∈ parts, R.sql p :=
  sql_joined _ _

@[simp] theorem sql_separated (separator : String) (parts : List Sql) :
    R.sql (Sql.separated separator parts) ↔ ∀ p ∈ parts, R.sql p := by
  simp only [sql, Sql.bindings_separated, List.mem_flatMap]
  exact ⟨fun h p hp v hv => h v ⟨p, hp, hv⟩, fun h v ⟨p, hp, hv⟩ => h p hp v hv⟩

@[simp] theorem sql_flatten (parts : List Sql) : R.sql parts.flatten ↔ ∀ p ∈ parts, R.sql p := by
  simp only [sql, Sql.bindings_flatten, List.mem_flatMap]
  exact ⟨fun h p hp v hv => h v ⟨p, hp, hv⟩, fun h v ⟨p, hp, hv⟩ => h p hp v hv⟩

@[simp] theorem operand_sql : R.operand (.sql a) ↔ R.sql a := Iff.rfl

@[simp] theorem operand_object {v : Value} : R.operand (.object v) ↔ R.value v := Iff.rfl

end Region

end SqlBuilder
