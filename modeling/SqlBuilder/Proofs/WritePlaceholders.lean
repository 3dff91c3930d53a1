import SqlBuilder.Proofs.Injection
import SqlBuilder.Proofs.Placeholders
import SqlBuilder.Proofs.Successes

/-!
# Placeholders of writes

A compiled write has as many placeholders as values, in the order of the values, if it shows what it binds, in
the order in which it is bound, and binds what it shows. That is so but for three cases. An insert without rows
has no text, not even that of the common tables before it; in an insert from a query, its values are bound
before those of the returned columns, which some dialects write first; and where a dialect cannot say where the
nulls go, an order by a column has it written twice and bound once.

* `Likeness.markedWrites`: what a write may contain so that its placeholders can be told from other text.
* `Likeness.keptLevel`: statements that show what they bind, at every level.
* `Query.compile_write_placeholders`: the placeholders and the values of a compiled write.
-/

namespace SqlBuilder

namespace Likeness

/-! ## Statements that show what they bind -/

/-- The comparison of what is nested up to a number of levels deep, where every query shows what it binds. -/
def keptLevel (D : Likeness) : Nat → Level
  | 0 => D.level 0
  | n + 1 =>
    { outputs := (Nested.ofDepth D.env (n + 1)).outputs
      query := fun q q' => D.QueryLike (keptLevel D n) q q' ∧ q.Keeps D.env D.client n
      raw := D.RawLike (keptLevel D n)
      conditions := D.ConditionsLike (keptLevel D n) }

/-- Two queries stand for each other and show what they bind, with everything that is nested in them. -/
def KeptLike (D : Likeness) (q q' : Query Value) : Prop :=
  (D.keptLevel nestingLimit).query q q'

/-- Statements that show what they bind are rendered alike at every level. -/
theorem sound_kept {D : Likeness} (law : D.Fair) (n : Nat) : D.Sound (D.keptLevel n) (Nested.ofDepth D.env n) :=
  sound_of law D.keptLevel (fun n => by cases n <;> rfl) (fun h => ⟨h.1, .inr h.2⟩) id id n

/-! ## Placeholders -/

/-- Statements of any kind in which nothing but placeholders reads like one: names, aliases, comments and the
texts of raw expressions have neither question marks nor backslashes, and every slot of a raw expression has
its binding. -/
def markedWrites (env : Environment) (client : Client Value) : Likeness :=
  { marked env client with writes := True, freezes := True }

/-- Every built-in dialect can write such statements. -/
theorem markedWrites_fair {env : Environment} {client : Client Value} (builtin : client.dialect ∈ Dialect.builtin)
    (unhooked : client.wrapIdentifier = none) : (markedWrites env client).Fair :=
  have law : (marked env client).Lawful := marked_lawful builtin unhooked
  have words : ∀ w ∈ truncationWords, markless w.toList = true := by decide
  { law.toFair with truncate := fun _ _ _ => slotted_truncation builtin words }

/-- The pieces of a statement with defined values are placeholders, or have none and bind nothing. -/
theorem legible {env : Environment} {client : Client Value} {sql : Sql}
    (proper : ∀ piece ∈ sql, (markedWrites env client).piece piece)
    (defined : sql.bindings.any Value.containsUndefined = false) : ∀ piece ∈ sql, Sql.Legible piece := by
  intro piece hp
  have proper := proper piece hp
  cases piece with
  | param v => exact .inl ⟨v, rfl⟩
  | stray v => exact absurd proper (List.any_eq_false.mp defined v (List.mem_filterMap.mpr ⟨_, hp, rfl⟩))
  | _ => exact .inr ⟨rfl, proper⟩

end Likeness

/-- A compiled statement that shows what it binds has as many placeholders as values, which come in the order
in which they are bound; and the placeholders replaced by the texts of the values are the statement with each
value written in its place. -/
theorem Query.compile_write_placeholders {env : Environment} {q : Query Value}
    (builtin : q.client.dialect ∈ Dialect.builtin) (unhooked : q.client.wrapIdentifier = none)
    (h : (Likeness.markedWrites env q.client).KeptLike q q) {p p' : Progress} {c : Compiled Value}
    (run : q.compile env p = .ok c p') :
    inlineSlots c.sql.toList = c.bindings.length ∧ p'.bound = p.bound ++ c.bindings ∧
      ∀ write, ∃ text, q.written env write p = .ok text p' ∧
        replaceMarks (c.bindings.map write) c.sql.toList = text.toList := by
  have law : (Likeness.markedWrites env q.client).Fair := Likeness.markedWrites_fair builtin unhooked
  obtain ⟨r, rendered, sql, bindings, frag, defined, bound⟩ :=
    (Likeness.sound_kept law nestingLimit).rendered rfl h run
  have legible := Likeness.legible frag.proper defined
  have written (write : Value → String) : q.written env write p = .ok (r.sql.written write) p' :=
    Compile.bind_ok.mpr ⟨r, p', rendered, rfl⟩
  rw [sql, bindings]
  exact ⟨Sql.inlineSlots_text legible, bindings ▸ bound, fun write =>
    ⟨_, written write, Sql.replaceMarks_text legible write⟩⟩

/-- An insert from a query that binds a value. -/
theorem Query.compile_write_placeholders_source :
    let client : Client Value := { dialect := .postgres }
    let env : Environment := { client }
    let owners := (((Query.ofClient client).select [.str "owner"]).from_ (.str "pets")).addCondition
      .where_ .and false (.compare (.str "kind") (.str "=") (.str "cat?"))
    let q := ((Query.ofClient client).from_ (.str "users")).insert (.query owners) .null
    q.client.dialect ∈ Dialect.builtin ∧ q.client.wrapIdentifier = none ∧
      (Likeness.markedWrites env q.client).KeptLike q q ∧ ∃ c p', q.compile env {} = .ok c p' ∧
        inlineSlots c.sql.toList = c.bindings.length ∧ p'.bound = [] ++ c.bindings ∧
          ∀ write, ∃ text, q.written env write {} = .ok text p' ∧
            replaceMarks (c.bindings.map write) c.sql.toList = text.toList := by
  intro client env owners q
  have name {L} (s : String) (h : s.toList.all fun c => c != '?' && c != '\\') :
      (Likeness.markedWrites env client).Column L (.str s) (.str s) := by
    refine .name rfl fun c hc => ?_
    have plain : (c != '?' && c != '\\') = true := List.all_eq_true.mp h c hc
    simpa [Likeness.markedWrites, Likeness.marked] using plain
  have compared {L} : (Likeness.markedWrites env client).TestLike L
      (.compare (.str "kind") (.str "=") (.str "cat?")) (.compare (.str "kind") (.str "=") (.str "cat?")) :=
    .compare (name _ rfl) (.word ⟨rfl, rfl⟩) ⟨rfl, fun _ => rfl⟩ (.bound ⟨rfl, rfl⟩ ⟨rfl, rfl⟩ rfl rfl rfl)
  have inner : ((Likeness.markedWrites env client).keptLevel 399).query owners owners := by
    have select : (Likeness.markedWrites env client).SelectLike ((Likeness.markedWrites env client).keptLevel 398)
        owners.statement owners.statement := {
      schema := rfl
      schemaShown := by rintro _ ⟨⟩
      table := .some (name "pets" rfl)
      commonTables := .nil
      projection := .cons (.columns (.cons (name "owner" rfl) .nil)) .nil
      joins := .nil
      wheres := .cons ⟨rfl, rfl, by rintro _ ⟨⟩, rfl, compared⟩ .nil
      groups := .nil
      havings := .nil
      orders := .nil
      limit := rfl
      offset := rfl
      unions := .nil
      lock := rfl
      lockTables := .nil
      wait := rfl }
    exact ⟨⟨.inr rfl, rfl, select, rfl, by rintro _ ⟨⟩, rfl, by rintro _ ⟨⟩⟩, fun _ => by rintro _ ⟨⟩⟩
  have outer : (Likeness.markedWrites env client).KeptLike q q := by
    have insert : (Likeness.markedWrites env client).InsertLike ((Likeness.markedWrites env client).keptLevel 399)
        q.statement q.statement := {
      schema := rfl
      schemaShown := by rintro _ ⟨⟩
      table := .some (name "users" rfl)
      allowed := trivial
      commonTables := .nil
      returning := .nil
      source := .query rfl rfl (.expression rfl rfl (.builder (.query inner)))
      conflict := .none }
    -- there are no returned columns before the query
    have keeps : q.Keeps env client 399 := fun context => ⟨by rintro ⟨⟩, fun _ => by rintro p _ _ ⟨⟩; rfl⟩
    exact ⟨⟨.inr rfl, rfl, insert, rfl, by rintro _ ⟨⟩, rfl, by rintro _ ⟨⟩⟩, keeps⟩
  have builtin : q.client.dialect ∈ Dialect.builtin := .head _
  have succeeds : (q.compile env).outcome.1.isOk = true := by decide +kernel
  unfold Compile.outcome at succeeds
  split at succeeds
  next c p' run => exact ⟨builtin, rfl, outer, c, p', run, Query.compile_write_placeholders builtin rfl outer run⟩
  · cases succeeds

/-- An insert without rows binds the value of its common table, and has no text. In an insert from a query, the
value of a returned column stands first and comes last. -/
theorem Query.compile_write_placeholders_dropped :
    let equal (client : Client Value) (column : String) : Query Value :=
      (((Query.ofClient client).select [.str "a"]).from_ (.str "u")).addCondition .where_ .and false
        (.compare (.str column) (.str "=") (.int 1))
    let postgres : Client Value := { dialect := .postgres }
    let empty := (((Query.ofClient postgres).from_ (.str "t")).edit fun st =>
      { st with commonTables := [{ name := "x", query := .query (equal postgres "a") }] }).insert (.list []) .null
    let mssql : Client Value := { dialect := .mssql }
    let raw := Value.raw (Raw.ofValue mssql (.str "coalesce(?, 1)") (.list [.int 2]))
    let returning := (((Query.ofClient mssql).from_ (.str "t")).insert (.query (equal mssql "b")) .null).returning [raw]
    let compiled (q : Query Value) :=
      (q.compile { client := q.client }).outcome.1.toOption.map fun c => (c.sql, c.bindings.map Value.text)
    compiled empty = some ("", ["1"]) ∧ compiled returning =
      some ("insert into [t] output inserted.coalesce(?, 1) select [a] from [u] where [b] = ?", ["1", "2"]) := by
  decide +kernel

end SqlBuilder
