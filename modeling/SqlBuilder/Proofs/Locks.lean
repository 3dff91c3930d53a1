import SqlBuilder.Proofs.Inserts
import SqlBuilder.Proofs.Results

/-!
# Row locks of selects

A select may ask for row locks, in some of its tables, and say what becomes of rows that are locked already. A
dialect writes the lock at the end of the select, or as a hint after the table, or has none. In the first case
the text says everything that was asked for. A hint says the mode and what becomes of locked rows; it cannot
name tables, and a select without a table has no place for it.

* `Scope.lockSql`, `Scope.hintSql`: the texts of row locks.
* `Scope.ShowsLock`: what a text shows of a row lock.
* `Compile.OrUnsupported`: a compilation has a result where another one has, or the dialect lacks a feature.
* `Query.compile_locked`: what a compiled select shows of its lock, and when it is not compiled.
-/

namespace SqlBuilder

/-! ## Parts of texts -/

namespace Sql

/-- Each of some fragments is a part of them together. -/
theorem infix_separated (separator : String) {part : Sql} {parts : List Sql} (h : part ∈ parts) :
    part <:+: separated separator parts := by
  let step (done sql : Sql) : Sql :=
    if done.isBlank || sql.isBlank then done ++ sql else done ++ word separator ++ sql
  have before (done sql : Sql) : done <:+: step done sql := by
    unfold step
    split
    · exact (List.prefix_append ..).isInfix
    · rw [List.append_assoc]
      exact (List.prefix_append ..).isInfix
  have after (done sql : Sql) : sql <:+: step done sql := by
    unfold step
    split <;> exact (List.suffix_append ..).isInfix
  have all (done : Sql) : done <:+: parts.foldl step done ∧ ∀ part ∈ parts, part <:+: parts.foldl step done := by
    clear h
    induction parts generalizing done with
    | nil => exact ⟨List.infix_rfl, by simp⟩
    | cons first rest ih =>
      obtain ⟨kept, others⟩ := ih (step done first)
      exact ⟨(before done first).trans kept, List.forall_mem_cons.mpr ⟨(after done first).trans kept, others⟩⟩
  exact (all []).2 part h

/-- A text ends in a fragment. -/
def Ends (part : Sql) (text : String) : Prop :=
  part.text.toList <:+ text.toList

/-- The pieces of a fragment stand at the end of another one. -/
theorem Ends.of_texts {part sql : Sql} (h : part.texts <:+ sql.texts) : part.Ends sql.text := by
  obtain ⟨before, same⟩ := h
  refine ⟨(String.join before).toList, ?_⟩
  rw [← join_texts part, ← join_texts sql, ← same]
  simp [String.join_append]

end Sql

namespace Scope

variable {s : Scope} {st : Statement Value} {mode : LockMode} {sql : Sql}

/-! ## Texts of locks -/

/-- The row lock at the end of a select. -/
def lockSql (mode : LockMode) (tables : List Sql) (wait : Option WaitMode) : Sql :=
  Sql.word (lockWords mode) ++ Sql.when (!tables.isEmpty) (Sql.word " of " ++ Sql.commas tables) ++
    wait.elim [] fun wait => Sql.word (waitWords wait)

/-- The word for a lock mode in a hint, for the modes that have one. -/
def lockHint? : LockMode → Option String
  | .forUpdate => some "UPDLOCK"
  | .forShare => some "HOLDLOCK"
  | _ => none

/-- The row lock after a table. -/
def hintSql (hint : String) (wait : Option WaitMode) : Sql :=
  Sql.word (" with (" ++ Text.joinWith ", " ([hint, "ROWLOCK"] ++ (wait.map waitHint).toList) ++ ")")

/-- Fails unless the dialect has a feature. -/
def need (s : Scope) (has : Bool) (feature : String) : Compile Unit :=
  if has then pure () else s.unsupported feature

/-- The tables of a lock at the end of a select. -/
def lockedTables (s : Scope) (ofTables : Bool) (tables : List Value) : Compile Sql :=
  if tables.isEmpty then pure []
  else do
    s.need ofTables "lock tables"
    return Sql.word " of " ++ (← s.columnizeAll tables)

/-- The wait mode of a lock at the end of a select. -/
def lockedWait (s : Scope) (waits : List WaitMode) (wait : Option WaitMode) : Compile Sql :=
  match wait with
  | none => pure []
  | some wait => do
    s.need (waits.contains wait) wait.name
    return Sql.word (waitWords wait)

theorem need_ok {has : Bool} {feature : String} (h : (s.need has feature).Renders ()) : has = true := by
  cases has with
  | true => rfl
  | false => exact absurd h Compile.Renders.not_throw

theorem lockedTables_ok {ofTables : Bool} {tables : List Value} (h : (s.lockedTables ofTables tables).Renders sql) :
    (tables ≠ [] → ofTables = true) ∧ ∃ parts, s.Columns tables parts ∧
      sql = Sql.when (!parts.isEmpty) (Sql.word " of " ++ Sql.commas parts) := by
  cases tables with
  | nil => exact ⟨fun some_ => absurd rfl some_, [], .nil, h.of_pure⟩
  | cons table tables =>
    obtain ⟨⟨⟩, selective, h⟩ := h.of_bind
    obtain ⟨columns, rendered, h⟩ := h.of_bind
    obtain rfl := h.of_pure
    obtain ⟨parts, each, rfl⟩ := columnizeAll_ok rendered
    cases each with
    | cons first rest => exact ⟨fun _ => need_ok selective, _, .cons first rest, rfl⟩

theorem lockedWait_ok {waits : List WaitMode} {wait : Option WaitMode} (h : (s.lockedWait waits wait).Renders sql) :
    (∀ w ∈ wait, w ∈ waits) ∧ sql = wait.elim [] fun wait => Sql.word (waitWords wait) := by
  cases wait with
  | none => exact ⟨by simp, h.of_pure⟩
  | some wait =>
    obtain ⟨⟨⟩, supported, h⟩ := h.of_bind
    exact ⟨by simpa using need_ok supported, h.of_pure⟩

section Clause

variable {modes : List LockMode} {waits : List WaitMode} {ofTables : Bool}
  (known : s.capabilities.locking = .forClause modes waits ofTables) (locked : st.lock = some mode)

include known locked

/-- A lock at the end of a select is its mode, its tables and its wait mode. -/
theorem lockClause_eq : s.lockClause st = do
    s.need (modes.contains mode) mode.name
    let tables ← s.lockedTables ofTables st.lockTables
    let wait ← s.lockedWait waits st.wait
    return Sql.word (lockWords mode) ++ tables ++ wait := by
  have refused {α β : Type} (feature : String) (f : α → Compile β) :
      (s.unsupported feature >>= f) = s.unsupported feature := rfl
  simp only [lockClause, known, locked, lockedTables, lockedWait, need]
  generalize modes.contains mode = supported, st.lockTables.isEmpty = whole
  cases st.wait with
  | none => cases supported <;> cases whole <;> cases ofTables <;> simp [refused]
  | some wait =>
    simp only
    generalize waits.contains wait = waiting
    cases supported <;> cases whole <;> cases ofTables <;> cases waiting <;> simp [refused]

/-- A lock at the end of a select says everything that was asked for. -/
theorem lockClause_ok (h : (s.lockClause st).Renders sql) :
    mode ∈ modes ∧ (∀ wait ∈ st.wait, wait ∈ waits) ∧ (st.lockTables ≠ [] → ofTables = true) ∧
      ∃ tables, s.Columns st.lockTables tables ∧ sql = lockSql mode tables st.wait := by
  rw [lockClause_eq known locked] at h
  obtain ⟨⟨⟩, supported, h⟩ := h.of_bind
  obtain ⟨tables, named, h⟩ := h.of_bind
  obtain ⟨wait, waiting, h⟩ := h.of_bind
  obtain rfl := h.of_pure
  obtain ⟨waitable, rfl⟩ := lockedWait_ok waiting
  obtain ⟨selective, parts, each, rfl⟩ := lockedTables_ok named
  exact ⟨by simpa using need_ok supported, waitable, selective, parts, each, rfl⟩

end Clause

/-- A hint after a table says the mode of the lock and what becomes of locked rows. -/
theorem tableHint_ok {wait : Option WaitMode} (known : s.capabilities.locking = .tableHint)
    (h : (s.tableHint (some mode) wait).Renders sql) : ∃ hint, lockHint? mode = some hint ∧ sql = hintSql hint wait := by
  simp only [tableHint, known] at h
  cases mode with
  | forUpdate | forShare => exact ⟨_, rfl, h.of_pure⟩
  | forNoKeyUpdate | forKeyShare =>
    obtain ⟨_, refused, _⟩ := h.of_bind
    exact absurd refused Compile.Renders.not_throw

/-- A dialect without row locks has no lock clause. -/
theorem lockClause_unsupported (known : s.capabilities.locking = .unsupported) (locked : st.lock = some mode) :
    ¬ (s.lockClause st).Renders sql := by
  simp only [lockClause, known, locked]
  exact Compile.Renders.not_throw

/-- The table of a select, with a hint. -/
theorem fromClause_some (given : st.table ≠ none) :
    s.fromClause st = do return Sql.word "from " ++ (← s.table st) ++ (← s.tableHint st.lock st.wait) := by
  obtain ⟨name, given⟩ := Option.ne_none_iff_exists'.mp given
  simp [fromClause, given]

/-- A select shows its table and its joins, and its lock at the end. -/
theorem select_ok (h : (s.select st).Renders sql) : ∃ source joins lock, (s.fromClause st).Renders source ∧
    (s.joinClause st.joins).Renders joins ∧ (s.lockClause st).Renders lock ∧ source <:+: sql ∧ joins <:+: sql ∧
    lock <:+ sql := by
  obtain ⟨tables, -, h⟩ := h.of_bind
  obtain ⟨projection, -, h⟩ := h.of_bind
  obtain ⟨source, rendered, h⟩ := h.of_bind
  obtain ⟨joins, joined, h⟩ := h.of_bind
  obtain ⟨wheres, -, h⟩ := h.of_bind
  obtain ⟨groups, -, h⟩ := h.of_bind
  obtain ⟨havings, -, h⟩ := h.of_bind
  obtain ⟨orders, -, h⟩ := h.of_bind
  obtain ⟨paging, -, h⟩ := h.of_bind
  obtain ⟨unions, -, h⟩ := h.of_bind
  obtain ⟨lock, locked, h⟩ := h.of_bind
  obtain rfl := h.of_pure
  refine ⟨source, joins, lock, rendered, joined, locked, ?_, ?_, List.suffix_append ..⟩
  · simp only [List.append_assoc]
    exact (Sql.infix_separated " " (by simp)).trans (List.prefix_append ..).isInfix
  · simp only [List.append_assoc]
    exact (Sql.infix_separated " " (by simp)).trans (List.prefix_append ..).isInfix

/-- What a text shows of the row lock of a select: at its end the mode, the tables and what becomes of locked
rows; or after the table a hint with the mode and what becomes of locked rows. -/
inductive ShowsLock (s : Scope) (st : Statement Value) (mode : LockMode) (text : String) : Prop
  | clause {modes : List LockMode} {waits : List WaitMode} {ofTables : Bool} {tables : List Sql}
      (known : s.capabilities.locking = .forClause modes waits ofTables) (supported : mode ∈ modes)
      (waits : ∀ wait ∈ st.wait, wait ∈ waits) (selective : st.lockTables ≠ [] → ofTables = true)
      (named : s.Columns st.lockTables tables) (ends : (lockSql mode tables st.wait).Ends text)
  | hint {table : Sql} {hint : String} (known : s.capabilities.locking = .tableHint)
      (supported : lockHint? mode = some hint) (named : (s.table st).Renders table)
      (shown : (Sql.word "from " ++ table ++ hintSql hint st.wait).Shown text)

/-- A select with a lock shows it, unless the lock is a hint and there is no table. -/
theorem select_shows (locked : st.lock = some mode)
    (source : s.capabilities.locking = .tableHint → st.table ≠ none) {text : String} (h : (s.select st).Renders sql)
    (whole : ∀ {part : Sql}, part.texts <:+ sql.texts → part.Ends text)
    (inside : ∀ {part : Sql}, part.texts <:+: sql.texts → part.Shown text) : s.ShowsLock st mode text := by
  obtain ⟨table, -, lock, from_, -, rendered, first, -, last⟩ := select_ok h
  cases known : s.capabilities.locking with
  | forClause modes waits ofTables =>
    obtain ⟨supported, waiting, selective, tables, named, rfl⟩ := lockClause_ok known locked rendered
    exact .clause known supported waiting selective named (whole (Sql.texts_suffix last))
  | tableHint =>
    rw [fromClause_some (source known), locked] at from_
    obtain ⟨target, named, from_⟩ := from_.of_bind
    obtain ⟨hint, hinted, from_⟩ := from_.of_bind
    obtain rfl := from_.of_pure
    obtain ⟨word, supported, rfl⟩ := tableHint_ok known hinted
    exact .hint known supported named (inside (Sql.texts_infix first))
  | unsupported => exact absurd rendered (lockClause_unsupported known locked)

end Scope

/-! ## Refused locks -/

/-- A run succeeds, with a result and a progress that have a property, or fails because a dialect lacks a feature. -/
inductive Compile.Ends {α : Type} (dialect : String) (P : α → Progress → Prop) : EStateM.Result Error Progress α → Prop
  | ok {a : α} {p : Progress} (result : P a p) : Ends dialect P (.ok a p)
  | unsupported {feature : String} {p : Progress} : Ends dialect P (.error (.unsupported dialect feature "") p)

/-- Wherever one compilation has a result, another one has a related result, or a dialect lacks a feature. -/
def Compile.OrUnsupported {α β : Type} (dialect : String) (Q : α → β → Progress → Progress → Prop) (c : Compile α)
    (c' : Compile β) : Prop :=
  ∀ p a p', c p = .ok a p' → Compile.Ends dialect (fun b q => Q a b p' q) (c' p)

namespace Compile.OrUnsupported

variable {α β γ δ : Type} {dialect : String} {S : α → β → Progress → Progress → Prop}
  {R : γ → δ → Progress → Progress → Prop}

/-- Compilations in sequence, the later ones each from its own progress. -/
theorem bind_from {c : Compile α} {c' : Compile β} {f : α → Compile γ} {f' : β → Compile δ}
    (h : OrUnsupported dialect S c c')
    (hf : ∀ a b p q x p', S a b p q → f a p = .ok x p' → Compile.Ends dialect (fun y q' => R x y p' q') (f' b q)) :
    OrUnsupported dialect R (c >>= f) (c' >>= f') := by
  intro p x p' run
  obtain ⟨a, p₁, first, run⟩ := Compile.bind_ok.mp run
  change Compile.Ends dialect _ (EStateM.bind c' f' p)
  have ends := h p a p₁ first
  unfold EStateM.bind
  generalize c' p = r at ends
  cases ends with
  | ok related => exact hf a _ p₁ _ x p' related run
  | unsupported => exact .unsupported

/-- Results are related, after the same progress. -/
abbrev Kept (Q : α → β → Prop) (a : α) (b : β) (p q : Progress) : Prop :=
  p = q ∧ Q a b

protected theorem refl (c : Compile α) : OrUnsupported dialect (Kept Eq) c c := by
  intro p a p' run
  rw [run]
  exact .ok ⟨rfl, rfl⟩

protected theorem pure {Q : α → β → Prop} {a : α} {b : β} (h : Q a b) :
    OrUnsupported dialect (Kept Q) (pure a) (pure b) := by
  rintro p _ _ ⟨⟩
  exact .ok ⟨rfl, h⟩

protected theorem bind {Q : α → β → Prop} {c : Compile α} {c' : Compile β} {f : α → Compile γ} {f' : β → Compile δ}
    (h : OrUnsupported dialect (Kept Q) c c') (hf : ∀ a b, Q a b → OrUnsupported dialect R (f a) (f' b)) :
    OrUnsupported dialect R (c >>= f) (c' >>= f') := by
  refine h.bind_from ?_
  rintro a b p _ x p' ⟨rfl, related⟩ run
  exact hf a b related p x p' run

/-- The same step before others. -/
theorem same (c : Compile α) {f : α → Compile γ} {f' : α → Compile δ} (hf : ∀ a, OrUnsupported dialect R (f a) (f' a)) :
    OrUnsupported dialect R (c >>= f) (c >>= f') :=
  (OrUnsupported.refl c).bind fun a _ same => same ▸ hf a

/-- A result that something is made of, of which nothing is said. -/
theorem map {c : Compile α} {c' : Compile β} {f : α → γ} {f' : β → δ} (h : OrUnsupported dialect (fun _ _ _ _ => True) c c') :
    OrUnsupported dialect (fun _ _ _ _ => True) (do return f (← c)) (do return f' (← c')) :=
  h.bind_from fun _ _ _ _ _ _ _ _ => .ok trivial

theorem refused (s : Scope) (feature : String) {c : Compile γ} :
    OrUnsupported s.client.dialectName R c (s.unsupported feature) :=
  fun _ _ _ _ => .unsupported

/-- A feature that is needed before others. -/
theorem need (s : Scope) (has : Bool) (feature : String) {c : Compile γ} {c' : Compile δ}
    (h : OrUnsupported s.client.dialectName R c c') :
    OrUnsupported s.client.dialectName R c (do s.need has feature; c') := by
  cases has with
  | true => exact h
  | false => exact fun _ _ _ _ => .unsupported

theorem ownColumns {c : Compile α} {c' : Compile β} (h : OrUnsupported dialect (fun _ _ _ _ => True) c c') :
    OrUnsupported dialect (fun _ _ _ _ => True) (SqlBuilder.ownColumns c) (SqlBuilder.ownColumns c') := by
  intro p a p' run
  unfold SqlBuilder.ownColumns at run ⊢
  split at run
  next first =>
    have ends := h _ _ _ first
    generalize c' { p with undefinedColumns := [] } = r at ends
    cases ends with
    | ok _ => exact .ok trivial
    | unsupported => exact .unsupported
  · cases run

theorem settled (env : Environment) {c : Compile γ} {c' : Compile δ} (h : OrUnsupported dialect R c c') :
    OrUnsupported dialect R (env.settled c) (env.settled c') := by
  intro p a p' run
  have ends := h p a p' (Environment.settled_ok run)
  change Compile.Ends dialect _ (EStateM.tryCatch c' env.fail p)
  unfold EStateM.tryCatch
  generalize c' p = r at ends
  cases ends with
  | ok related => exact .ok related
  | unsupported => exact .unsupported

/-! ### Fragments without values -/

/-- A result without values, in place of none, after which as many columns are undefined. -/
abbrev Silent (_ : Unit) (b : Sql) (p q : Progress) : Prop :=
  b.bindings = [] ∧ q.undefinedColumns = p.undefinedColumns

/-- The values of two results are the same, after which as many columns are undefined. -/
abbrev Bound (a b : Sql) (p q : Progress) : Prop :=
  a.bindings = b.bindings ∧ p.undefinedColumns = q.undefinedColumns

theorem silent_pure {b : Sql} (h : b.bindings = []) : OrUnsupported dialect Silent (pure ()) (pure b) := by
  rintro p _ _ ⟨⟩
  exact .ok ⟨h, rfl⟩

theorem silent_gives {c : Compile Sql} {b : Sql} {values : List Value} (h : c.Gives b values) (none_ : b.bindings = []) :
    OrUnsupported dialect Silent (pure ()) c := by
  rintro p _ _ ⟨⟩
  obtain ⟨q, run, -, marked⟩ := h p
  rw [run]
  exact .ok ⟨none_, marked⟩

theorem silent_bind {c : Compile Sql} {f : Sql → Compile Sql} (h : OrUnsupported dialect Silent (pure ()) c)
    (hf : ∀ b, b.bindings = [] → OrUnsupported dialect Silent (pure ()) (f b)) :
    OrUnsupported dialect Silent (pure ()) (c >>= f) := by
  change OrUnsupported dialect Silent (pure () >>= fun _ => pure ()) _
  refine h.bind_from ?_
  rintro _ b p q _ _ ⟨none_, marked⟩ ⟨⟩
  have ends := hf b none_ q () q rfl
  generalize f b q = r at ends
  cases ends with
  | ok related => exact .ok ⟨related.1, related.2.trans marked⟩
  | unsupported => exact .unsupported

theorem then_silent {c : Compile Sql} (h : OrUnsupported dialect Silent (pure ()) c) {before before' : Sql}
    (same : before.bindings = before'.bindings) :
    OrUnsupported dialect Bound (do return before ++ (← pure [])) (do return before' ++ (← c)) := by
  change OrUnsupported dialect Bound (pure () >>= fun _ => pure (before ++ [])) _
  refine h.bind_from ?_
  rintro _ b p q _ _ ⟨none_, marked⟩ ⟨⟩
  exact .ok ⟨by simp [same, none_], marked.symm⟩

end Compile.OrUnsupported

namespace Scope

open Compile (OrUnsupported)

variable {s : Scope} {st : Statement Value}

theorem tableHint_orUnsupported (lock : Option LockMode) (wait : Option WaitMode) :
    OrUnsupported s.client.dialectName (OrUnsupported.Kept fun a b : Sql => a.bindings = b.bindings)
      (pure ([] : Sql)) (s.tableHint lock wait) := by
  unfold tableHint
  split
  next mode _ =>
    cases mode with
    | forUpdate | forShare => exact .pure rfl
    | forNoKeyUpdate | forKeyShare => exact .refused s _
  · exact .pure rfl

/-- The row lock of a select binds nothing, or the dialect lacks a feature. -/
theorem lockClause_orUnsupported (quotes : s.Quotes)
    (named : ∀ v ∈ st.lockTables, ∃ name, v = .str name ∧ DottedName name) :
    OrUnsupported s.client.dialectName OrUnsupported.Silent (pure ()) (s.lockClause st) := by
  cases known : s.capabilities.locking with
  | tableHint =>
    simp only [lockClause, known]
    exact .silent_pure rfl
  | unsupported =>
    cases locked : st.lock with
    | some mode =>
      simp only [lockClause, known, locked]
      exact .refused s _
    | none =>
      simp only [lockClause, known, locked]
      cases st.wait with
      | some wait => exact .refused s _
      | none => exact .silent_pure rfl
  | forClause modes waits ofTables =>
    cases locked : st.lock with
    | none =>
      simp only [lockClause, known, locked]
      exact .silent_pure rfl
    | some mode =>
      rw [lockClause_eq known locked]
      have tables : OrUnsupported s.client.dialectName OrUnsupported.Silent (pure ())
          (s.lockedTables ofTables st.lockTables) := by
        obtain ⟨sql, values, rendered, silent⟩ := quotes.columnizeAll_dotted named
        unfold lockedTables
        split
        · exact .silent_pure rfl
        · exact .need s _ _ (.silent_gives rendered.map (by simp [silent]))
      have waiting : OrUnsupported s.client.dialectName OrUnsupported.Silent (pure ()) (s.lockedWait waits st.wait) := by
        unfold lockedWait
        split
        · exact .silent_pure rfl
        · exact .need s _ _ (.silent_pure rfl)
      refine .need s _ _ (tables.silent_bind fun tables none_ => waiting.silent_bind fun wait none_' => .silent_pure ?_)
      simp [none_, none_']

/-- A statement without its row lock. -/
def unlocked (st : Statement Value) : Statement Value :=
  { st with lock := none, lockTables := [], wait := none }

theorem lockClause_unlocked : s.lockClause (unlocked st) = pure [] := by
  unfold lockClause unlocked
  cases s.capabilities.locking <;> rfl

theorem tableHint_none (wait : Option WaitMode) : s.tableHint none wait = pure [] := by
  unfold tableHint
  cases s.capabilities.locking <;> rfl

/-- The table of a select has a hint, or the dialect lacks a feature. -/
theorem fromClause_orUnsupported :
    OrUnsupported s.client.dialectName (OrUnsupported.Kept fun a b : Sql => a.bindings = b.bindings)
      (s.fromClause (unlocked st)) (s.fromClause st) := by
  by_cases given : st.table = none
  · have none_ : (unlocked st).table = none := given
    simp only [fromClause, given, none_]
    exact .pure rfl
  · have hint := tableHint_orUnsupported (s := s) st.lock st.wait
    rw [← tableHint_none none] at hint
    have step (name : Sql) : OrUnsupported s.client.dialectName (OrUnsupported.Kept fun a b : Sql => a.bindings = b.bindings)
        (do return Sql.word "from " ++ name ++ (← s.tableHint none none))
        (do return Sql.word "from " ++ name ++ (← s.tableHint st.lock st.wait)) :=
      hint.bind fun a b same => .pure (by rw [Sql.bindings_append, Sql.bindings_append _ b, same])
    have bare : (unlocked st).table ≠ none := given
    rw [fromClause_some given, fromClause_some bare]
    exact .same (s.table st) step

/-- A select with its row lock binds what it binds without, or the dialect lacks a feature. -/
theorem select_orUnsupported (quotes : s.Quotes)
    (named : ∀ v ∈ st.lockTables, ∃ name, v = .str name ∧ DottedName name) :
    OrUnsupported s.client.dialectName OrUnsupported.Bound (s.select (unlocked st)) (s.select st) := by
  unfold select
  refine .same (s.withClause st.commonTables) fun tables =>
    .same (s.projection st.projection st.limit st.offset) fun projection =>
    fromClause_orUnsupported.bind fun source source' same =>
    .same (s.joinClause st.joins) fun joins => .same (s.conditionClause .where_ "where" st.wheres) fun wheres =>
    .same (s.groupClause st.groups) fun groups => .same (s.conditionClause .having "having" st.havings) fun havings =>
    .same (s.orderClause st.orders) fun orders => .same (s.paging st) fun paging =>
    .same (s.unionClause st.unions) fun unions => ?_
  rw [lockClause_unlocked]
  exact (lockClause_orUnsupported quotes named).then_silent (by simp [same])

/-- What holds of a select holds of its check for undefined values. -/
theorem checked_orUnsupported {method : Method} {dialect : String}
    (h : OrUnsupported dialect OrUnsupported.Bound (s.body method (unlocked st)) (s.body method st)) :
    OrUnsupported dialect (fun _ _ _ _ => True) (s.checked method (unlocked st)) (s.checked method st) := by
  refine h.bind_from ?_
  rintro body body' p q a p' ⟨values, marked⟩ run
  obtain ⟨_, _, ⟨⟩, run⟩ := Compile.bind_ok.mp run
  have same : (commented (unlocked st).comments body).bindings = (commented st.comments body').bindings := by
    rw [Likeness.Setting.bindings_commented, Likeness.Setting.bindings_commented, values]
  change Compile.Ends dialect _ ((if (!q.undefinedColumns.isEmpty ||
    (commented st.comments body').bindings.any Value.containsUndefined) = true then _ else _ : Compile Sql) q)
  rw [marked, same] at run
  split at run
  · obtain ⟨_, _, -, run⟩ := Compile.bind_ok.mp run
    obtain ⟨_, _, thrown, -⟩ := Compile.bind_ok.mp run
    exact absurd thrown Compile.throw_ok
  next defined =>
    rw [if_neg defined]
    exact .ok trivial

end Scope

/-- A query without its row lock. -/
def Query.unlocked (q : Query Value) : Query Value :=
  q.edit Scope.unlocked

theorem Query.compile_orUnsupported (env : Environment) {q : Query Value}
    (select : q.statement.method = .select ∨ q.statement.method = .first) (quotes : (q.scope env).Quotes)
    (named : ∀ v ∈ q.statement.lockTables, ∃ name, v = .str name ∧ DottedName name) :
    Compile.OrUnsupported q.client.dialectName (fun _ _ _ _ => True) (q.unlocked.compile env) (q.compile env) := by
  have body : Compile.OrUnsupported q.client.dialectName Compile.OrUnsupported.Bound
      ((q.scope env).body q.statement.method (Scope.unlocked q.statement))
      ((q.scope env).body q.statement.method q.statement) := by
    rcases select with method | method <;> rw [method] <;> exact Scope.select_orUnsupported quotes named
  refine .settled env (.map ?_)
  exact .map (.ownColumns (Scope.checked_orUnsupported body))

/-- A compiled select shows its row lock, but for the tables of a lock that is a hint after the table of the
select. A select that is compiled without its lock is compiled with it as well, or the dialect lacks a feature. -/
theorem Query.compile_locked {env : Environment} {q : Query Value} {mode : LockMode}
    (select : q.statement.method = .select ∨ q.statement.method = .first) (locked : q.statement.lock = some mode)
    (source : q.client.capabilities.locking = .tableHint → q.statement.table ≠ none) :
    (∀ c, (q.compile env).outcome.1 = .ok c → (q.scope env).ShowsLock q.statement mode c.sql) ∧
      ((q.scope env).Quotes → (∀ v ∈ q.statement.lockTables, ∃ name, v = .str name ∧ DottedName name) →
        ∀ c, (q.unlocked.compile env).outcome.1 = .ok c → (∃ c, (q.compile env).outcome.1 = .ok c) ∨
          ∃ feature, (q.compile env).outcome.1 = .error (.unsupported q.client.dialectName feature "")) := by
  refine ⟨fun c compiled => ?_, fun quotes named c compiled => ?_⟩
  · obtain ⟨p', run⟩ := Compile.outcome_ok.mp compiled
    obtain ⟨body, rendered, sql, -⟩ := Query.compile_body run
    have select : ((q.scope env).select q.statement).Renders body := by
      rcases select with method | method <;> rw [method] at rendered <;> exact rendered
    have last := Sql.texts_suffix (Sql.suffix_commented q.statement.comments body)
    rw [sql]
    exact Scope.select_shows (s := q.scope env) locked source select (fun part => .of_texts (part.trans last))
      fun part => .of_texts (part.trans last.isInfix)
  · obtain ⟨p', run⟩ := Compile.outcome_ok.mp compiled
    have ends := Query.compile_orUnsupported env select quotes named {} c p' run
    unfold Compile.outcome
    generalize q.compile env {} = r at ends
    cases ends with
    | ok _ => exact .inl ⟨_, rfl⟩
    | unsupported => exact .inr ⟨_, rfl⟩

/-- A select that shares its locks of one table, and skips the rows that are locked. -/
theorem Query.compile_locked_share :
    let client : Client Value := { dialect := .postgres }
    let env : Environment := { client }
    let table := (Query.ofClient client).from_ (.str "t")
    let q := (table.lock .forShare [.str "t"]).edit fun st => { st with wait := some .skipLocked }
    (q.statement.method = .select ∨ q.statement.method = .first) ∧ q.statement.lock = some .forShare ∧
      (q.client.capabilities.locking = .tableHint → q.statement.table ≠ none) ∧ (q.scope env).Quotes ∧
      (∀ v ∈ q.statement.lockTables, ∃ name, v = .str name ∧ DottedName name) ∧
      ∃ c c₀, (q.unlocked.compile env).outcome.1 = .ok c₀ ∧ (q.compile env).outcome.1 = .ok c ∧
        (q.scope env).ShowsLock q.statement .forShare c.sql := by
  intro client env table q
  have source : q.client.capabilities.locking = .tableHint → q.statement.table ≠ none := nofun
  have quotes : (q.scope env).Quotes := Scope.quotes_of_builtin (by simp [Query.scope, q, table, client,
    Query.lock, Query.edit, Query.from_, Query.ofClient, Dialect.builtin]) rfl
  have named : ∀ v ∈ q.statement.lockTables, ∃ name, v = .str name ∧ DottedName name := by
    intro v hv
    obtain rfl := List.mem_singleton.mp hv
    exact ⟨"t", rfl, PlainName.dotted (by decide +kernel)⟩
  obtain ⟨shows, compiles⟩ := @Query.compile_locked env q _ (.inl rfl) rfl source
  obtain ⟨c₀, bare⟩ : ∃ c, (q.unlocked.compile env).outcome.1 = .ok c := by
    have succeeds : (q.unlocked.compile env).outcome.1.isOk = true := by decide +kernel
    generalize (q.unlocked.compile env).outcome.1 = outcome at succeeds
    cases outcome with
    | ok c => exact ⟨c, rfl⟩
    | error e => cases succeeds
  have supported : (q.compile env).outcome.1.isOk = true := by decide +kernel
  rcases compiles quotes named c₀ bare with ⟨c, compiled⟩ | ⟨feature, refused⟩
  · exact ⟨.inl rfl, rfl, source, quotes, named, c, c₀, bare, compiled, shows c compiled⟩
  · rw [refused] at supported
    cases supported

/-- A hint drops the tables of a lock, and a select without a table drops a lock that is to be a hint. -/
theorem Query.compile_lock_dropped :
    let client : Client Value := { dialect := .mssql }
    let env : Environment := { client }
    let sql (q : Query Value) := (q.compile env).outcome.1.toOption.map Compiled.sql
    let q := (Query.ofClient client).select [.str "a"]
    sql ((q.from_ (.str "t")).lock .forUpdate [.str "t"]) = some "select [a] from [t] with (UPDLOCK, ROWLOCK)" ∧
      sql (q.lock .forUpdate []) = some "select [a]" ∧ sql q = some "select [a]" := by
  decide +kernel

end SqlBuilder
