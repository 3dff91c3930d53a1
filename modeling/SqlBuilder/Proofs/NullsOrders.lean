import Mathlib.Algebra.GroupWithZero.Nat
import SqlBuilder.Proofs.BoundValues
import SqlBuilder.Proofs.Inserts
import SqlBuilder.Proofs.Placeholders
import SqlBuilder.Proofs.Results

/-!
# Orders that are written twice

Where a dialect cannot say where the nulls go, an order by a column is written as two: one by whether the column
is null, and one by the column. The column is rendered once for both of them, so that its values are bound once,
while its placeholders stand in the text twice.

* `inlineSlots_between`: the placeholders of two texts with a word between them.
* `Scope.Ordered`: what an entry of the order list renders to.
* `Query.orderClause_placeholders`: the placeholders of an order list and the values that it binds.
-/

namespace SqlBuilder

open List (Forall₂)

/-! ## Placeholders of texts in a row -/

/-- A text that does not begin with a question mark has its own placeholders, whatever stands before it. -/
theorem inlineSlots_append_of_head {b : List Char} (first : b.head? ≠ some '?') (a : List Char) :
    inlineSlots (a ++ b) = inlineSlots a + inlineSlots b := by
  fun_induction inlineSlots a with
  | case1 => simp
  | case2 cs ih => simpa [inlineSlots] using ih
  | case3 cs ih => simp only [List.cons_append, inlineSlots, ih, Nat.add_right_comm]
  | case4 c cs escaped mark ih =>
    rw [List.cons_append, ← ih]
    cases cs with
    | nil =>
      -- a backslash may stand last, before the text
      cases b with
      | nil => simp [inlineSlots]
      | cons d b =>
        have plain : d ≠ '?' := by simpa using first
        conv_lhs => unfold inlineSlots
        split <;> simp_all
    | cons d cs =>
      conv_lhs => unfold inlineSlots
      split <;> simp_all

namespace Sql

/-- The placeholders of a fragment. -/
def slots (sql : Sql) : Nat :=
  inlineSlots sql.text.toList

theorem slots_word_append {w : String} (plain : markless w.toList = true) (a : Sql) : (word w ++ a).slots = a.slots := by
  unfold slots
  rw [text_append, text_word, String.toList_append, inlineSlots_append plain]

/-- Two fragments with a word between them have the placeholders of both. -/
theorem slots_between {w : String} (plain : markless w.toList = true) (filled : w.toList ≠ []) (a b : Sql) :
    (a ++ word w ++ b).slots = a.slots + b.slots := by
  have first : (word w ++ b).text.toList.head? ≠ some '?' := by
    obtain ⟨c, cs, chars⟩ := List.exists_cons_of_ne_nil filled
    rw [text_append, text_word, String.toList_append, chars, List.cons_append, List.head?_cons]
    rintro same
    obtain rfl := Option.some.inj same
    rw [chars] at plain
    cases plain
  rw [List.append_assoc, slots, text_append, String.toList_append, inlineSlots_append_of_head first]
  exact congrArg (_ + ·) (slots_word_append plain b)

@[simp] theorem slots_nil : slots [] = 0 := rfl

theorem slots_joined {separator : String} (plain : markless separator.toList = true) (filled : separator.toList ≠ [])
    (sqls : List Sql) : (joined separator sqls).slots = (sqls.map slots).sum := by
  induction sqls with
  | nil => rfl
  | cons sql rest ih =>
    cases rest with
    | nil => simp [joined]
    | cons next rest =>
      rw [joined, slots_between plain filled, ih]
      · simp
      · simp

@[simp] theorem slots_frozen (sql : Sql) : sql.frozen.slots = sql.slots := by
  rw [slots, text_frozen, slots]

theorem slots_append_word {w : String} (plain : markless w.toList = true) (filled : w.toList ≠ []) (a : Sql) :
    (a ++ word w).slots = a.slots := by
  simpa using slots_between plain filled a []

theorem slots_parens (sql : Sql) : sql.parens.slots = sql.slots := by
  rw [parens, List.append_assoc, slots_word_append rfl, slots_append_word rfl (by decide)]

end Sql

/-! ## Orders -/

namespace Scope

variable {s : Scope}

/-- How often an entry of the order list has its expression written. -/
def writings (s : Scope) : OrderEntry Value → Nat
  | .raw _ => 1
  | .by_ _ _ nulls => if s.emulatesNulls nulls then 2 else 1

/-- What an entry of the order list renders to: its expression, and its direction after that. -/
inductive Ordered (s : Scope) : OrderEntry Value → Sql × Sql → Prop
  | raw {v : Value} {target : Sql} (h : (s.unwrapOrNothing v).Renders (.sql target)) : Ordered s (.raw v) (target, [])
  | by_ {column direction : Value} {nulls : Option NullsOrder} {target way : Sql} (left : (s.wrap column).Renders target)
      (right : (s.direction direction).Renders way) : Ordered s (.by_ column direction nulls) (target, way)

/-- The values of an entry of the order list. -/
def orderValues (part : Sql × Sql) : List Value :=
  part.1.bindings ++ part.2.bindings

/-- The placeholders of an entry of the order list. -/
def orderSlots (s : Scope) (entry : OrderEntry Value) (part : Sql × Sql) : Nat :=
  s.writings entry * part.1.slots + part.2.slots

/-- An order by a column has the placeholders of the column as often as it is written, and its values once. -/
theorem orderBy_ok {column direction : Value} {nulls : Option NullsOrder} {sql : Sql}
    (h : (s.orderBy column direction nulls).Renders sql) :
    ∃ part, s.Ordered (.by_ column direction nulls) part ∧ sql.bindings = orderValues part ∧
      sql.slots = s.orderSlots (.by_ column direction nulls) part := by
  obtain ⟨target, left, h⟩ := h.of_bind
  obtain ⟨way, right, h⟩ := h.of_bind
  refine ⟨(target, way), .by_ left right, ?_⟩
  have spaced (a : Sql) : (a ++ Sql.word " " ++ way).slots = a.slots + way.slots :=
    Sql.slots_between rfl (by decide) a way
  cases nulls with
  | none =>
    obtain rfl := h.of_pure
    have once : s.writings (.by_ column direction none) = 1 := rfl
    exact ⟨by simp [orderValues], by rw [spaced, orderSlots, once, Nat.one_mul]⟩
  | some nulls =>
    dsimp only at h
    split at h
    next native =>
      obtain rfl := h.of_pure
      have once : s.writings (.by_ column direction (some nulls)) = 1 := by
        simp [writings, emulatesNulls, native]
      have last : (target ++ Sql.word " " ++ way ++ Sql.word (" nulls " ++ nulls.word)).slots =
          (target ++ Sql.word " " ++ way).slots := by
        cases nulls <;> exact Sql.slots_append_word rfl (by decide) _
      exact ⟨by simp [orderValues], by rw [last, spaced, orderSlots, once, Nat.one_mul]⟩
    next foreign =>
      obtain rfl := h.of_pure
      refine ⟨by simp [orderValues], ?_⟩
      have tested (w : String) (plain : markless w.toList = true) (filled : w.toList ≠ []) :
          (target ++ Sql.word w).parens.slots = target.slots := by
        rw [Sql.slots_parens, Sql.slots_append_word plain filled]
      have twice : s.writings (.by_ column direction (some nulls)) = 2 := by
        simp [writings, emulatesNulls, foreign]
      rw [spaced, Sql.slots_between rfl (by decide), Sql.slots_frozen, orderSlots, twice, Nat.two_mul]
      cases nulls with
      | first => rw [tested _ rfl (by decide)]
      | last => rw [tested _ rfl (by decide)]

/-- So does any entry of the order list. -/
theorem orderEntry_ok {entry : OrderEntry Value} {sql : Sql} (h : (s.orderEntry entry).Renders (.sql sql)) :
    ∃ part, s.Ordered entry part ∧ sql.bindings = orderValues part ∧ sql.slots = s.orderSlots entry part := by
  cases entry with
  | raw v => exact ⟨(sql, []), .raw h, by simp [orderValues], by simp [orderSlots, writings]⟩
  | by_ column direction nulls =>
    obtain ⟨own, rendered, h⟩ := h.of_bind
    obtain rfl := Operand.sql.inj h.of_pure
    exact orderBy_ok rendered

theorem textual_ok {operand : Operand} {sql : Sql} (h : operand.textual.Renders sql) : operand = .sql sql := by
  cases operand with
  | sql own => rw [h.of_pure]
  | object v => exact absurd h Compile.Renders.not_throw

/-- The parts of entries that are rendered, with their values and their placeholders. -/
theorem orderParts_ok {entries : List (OrderEntry Value)} {operands : List Operand} {sqls : List Sql}
    (rendered : Forall₂ (fun entry operand => (s.orderEntry entry).Renders operand) entries operands)
    (textual : Forall₂ (fun operand sql => operand.textual.Renders sql) operands sqls) :
    ∃ parts, Forall₂ s.Ordered entries parts ∧ sqls.flatMap Sql.bindings = parts.flatMap orderValues ∧
      (sqls.map Sql.slots).sum = (List.zipWith s.orderSlots entries parts).sum := by
  induction rendered generalizing sqls with
  | nil =>
    cases textual
    exact ⟨[], .nil, rfl, rfl⟩
  | cons first _ ih =>
    cases textual with
    | cons text others =>
      obtain rfl := textual_ok text
      obtain ⟨part, ordered, values, slots⟩ := orderEntry_ok first
      obtain ⟨parts, rest, more, others⟩ := ih others
      exact ⟨part :: parts, .cons ordered rest, by simp [values, more], by simp [slots, others]⟩

/-- An order list has the placeholders of its entries, each as often as it is written, and their values once. -/
theorem orderClause_ok {entries : List (OrderEntry Value)} {sql : Sql} (h : (s.orderClause entries).Renders sql) :
    ∃ parts, Forall₂ s.Ordered entries parts ∧ sql.bindings = parts.flatMap orderValues ∧
      sql.slots = (List.zipWith s.orderSlots entries parts).sum := by
  unfold orderClause at h
  split at h
  next none_ =>
    obtain rfl := List.isEmpty_iff.mp none_
    obtain rfl := h.of_pure
    exact ⟨[], .nil, rfl, rfl⟩
  next =>
    obtain ⟨operands, rendered, h⟩ := h.of_bind
    obtain ⟨sqls, textual, h⟩ := h.of_bind
    obtain rfl := h.of_pure
    obtain ⟨parts, ordered, values, slots⟩ := orderParts_ok rendered.of_mapM textual.of_mapM
    refine ⟨parts, ordered, by simp [values], ?_⟩
    rw [Sql.slots_word_append rfl, Sql.commas, Sql.slots_joined rfl (by decide), slots]

/-- A fragment has as many placeholders as values. -/
def Paired (sql : Sql) : Prop :=
  sql.slots = sql.bindings.length

/-- An entry whose expression is written twice binds no value with it. -/
def Unrepeated (s : Scope) (entry : OrderEntry Value) (part : Sql × Sql) : Prop :=
  s.writings entry = 2 → part.1.bindings = []

/-- An entry whose parts have as many placeholders as values has at least as many itself, and no more exactly if
it does not bind what is written twice. -/
theorem orderSlots_paired (entry : OrderEntry Value) {part : Sql × Sql} (left : Paired part.1) (right : Paired part.2) :
    (orderValues part).length ≤ s.orderSlots entry part ∧
      (s.orderSlots entry part = (orderValues part).length ↔ s.Unrepeated entry part) := by
  have written : s.writings entry = 1 ∨ s.writings entry = 2 := by
    unfold writings
    split
    · exact .inl rfl
    · split
      · exact .inr rfl
      · exact .inl rfl
  rw [orderSlots, left, right, orderValues, List.length_append, Unrepeated, ← List.length_eq_zero_iff]
  rcases written with once | twice
  · rw [once]
    omega
  · rw [twice]
    omega

/-- Entries whose parts have as many placeholders as values have at least as many themselves, and no more exactly
if none of them binds what is written twice. -/
theorem sum_orderSlots_paired {entries : List (OrderEntry Value)} {parts : List (Sql × Sql)}
    (ordered : Forall₂ s.Ordered entries parts) (paired : ∀ part ∈ parts, Paired part.1 ∧ Paired part.2) :
    (parts.flatMap orderValues).length ≤ (List.zipWith s.orderSlots entries parts).sum ∧
      ((List.zipWith s.orderSlots entries parts).sum = (parts.flatMap orderValues).length ↔
        Forall₂ s.Unrepeated entries parts) := by
  induction ordered with
  | nil => simp
  | @cons entry part entries parts first _ ih =>
    obtain ⟨left, right⟩ := paired part (.head _)
    obtain ⟨least, same⟩ := orderSlots_paired (s := s) entry left right
    obtain ⟨least', same'⟩ := ih fun part hp => paired part (.tail _ hp)
    rw [List.zipWith_cons_cons, List.sum_cons, List.flatMap_cons, List.length_append, List.forall₂_cons, ← same, ← same']
    omega

end Scope

/-- The values that an order list binds are those that it holds. -/
theorem Query.orderClause_bound {env : Environment} {q : Query Value} {entries : List (OrderEntry Value)}
    {p p' : Progress} {sql : Sql} (run : (q.scope env).orderClause entries p = .ok sql p') :
    p'.bound = p.bound ++ sql.bindings := by
  have law : (Likeness.varying env q.client).Liberal := Likeness.varying_liberal
  have any := law.stands (law.level_refl (nestingLimit - 1))
  let X : (Likeness.varying env q.client).Setting ((Likeness.varying env q.client).level (nestingLimit - 1)) :=
    ⟨_, q.context, q.context, law.toFair, Likeness.sound law.toLawful _, .inr rfl⟩
  have same : Forall₂ ((Likeness.varying env q.client).OrderLike _) entries entries :=
    List.forall₂_same.mpr fun e _ => any.orderEntry fun _ _ => trivial
  have tandem := X.orderClause same (.inl law.toLax) p p ⟨rfl, rfl⟩
  have left : X.left.orderClause entries p = .ok sql p' := run
  rw [left] at tandem
  generalize X.right.orderClause entries p = r' at tandem
  cases tandem with
  | ok _ bound _ result =>
    obtain ⟨-, rfl, -⟩ := result
    exact bound

/-- A rendered order list has the placeholders of each expression as often as that is written, which is twice
where the dialect cannot say where the nulls go, and of each direction. It binds the values of each once. So if
these have as many placeholders as values, the list has as many as it binds values exactly if no expression that
is written twice binds any. -/
theorem Query.orderClause_placeholders {env : Environment} {q : Query Value} {entries : List (OrderEntry Value)}
    {p p' : Progress} {sql : Sql} (run : (q.scope env).orderClause entries p = .ok sql p') :
    ∃ parts, Forall₂ (q.scope env).Ordered entries parts ∧
      p'.bound = p.bound ++ parts.flatMap Scope.orderValues ∧
      inlineSlots sql.text.toList = (List.zipWith (q.scope env).orderSlots entries parts).sum ∧
      ((∀ part ∈ parts, Scope.Paired part.1 ∧ Scope.Paired part.2) →
        (inlineSlots sql.text.toList = (parts.flatMap Scope.orderValues).length ↔
          Forall₂ (q.scope env).Unrepeated entries parts)) := by
  obtain ⟨parts, ordered, values, slots⟩ := Scope.orderClause_ok ⟨p, p', run⟩
  have bound := Query.orderClause_bound run
  rw [values] at bound
  refine ⟨parts, ordered, bound, slots, fun paired => ?_⟩
  rw [← (Scope.sum_orderSlots_paired ordered paired).2, ← slots, Sql.slots]

/-- An order by an expression with a value, with its nulls first, before an order by a name with its nulls last. -/
theorem Query.orderClause_placeholders_coalesce :
    let client : Client Value := { dialect := .mysql }
    let env : Environment := { client }
    let coalesce := Value.raw (Raw.ofValue client (.str "coalesce(a, ?)") (.list [.int 1]))
    let entries : List (OrderEntry Value) := [.by_ coalesce (.str "desc") (some .first), .by_ (.str "b") .null (some .last)]
    let q := Query.ofClient client
    ∃ sql p', (q.scope env).orderClause entries {} = .ok sql p' ∧
      ∃ parts, Forall₂ (q.scope env).Ordered entries parts ∧ p'.bound = [] ++ parts.flatMap Scope.orderValues ∧
        inlineSlots sql.text.toList = (List.zipWith (q.scope env).orderSlots entries parts).sum ∧
        ((∀ part ∈ parts, Scope.Paired part.1 ∧ Scope.Paired part.2) →
          (inlineSlots sql.text.toList = (parts.flatMap Scope.orderValues).length ↔
            Forall₂ (q.scope env).Unrepeated entries parts)) := by
  intro client env coalesce entries q
  have succeeds : ((q.scope env).orderClause entries).outcome.1.isOk = true := by decide +kernel
  unfold Compile.outcome at succeeds
  split at succeeds
  next sql p' run => exact ⟨sql, p', run, Query.orderClause_placeholders run⟩
  · cases succeeds

/-- An expression with one value, and with its nulls first, has two placeholders, and the limit after it a third
one; but two values are bound. -/
theorem Query.orderClause_unpaired :
    let client : Client Value := { dialect := .mysql }
    let env : Environment := { client }
    let coalesce := Value.raw (Raw.ofValue client (.str "coalesce(a, ?)") (.list [.int 1]))
    let q := ((Query.ofClient client).from_ (.str "t")).addOrder coalesce (.str "desc") (some .first)
    let clause := ((q.scope env).orderClause q.statement.orders).outcome.1.toOption
    let limited := q.limit (.int 5) >>= fun q => (q.compile env).outcome.1
    clause.map (fun sql => (inlineSlots sql.text.toList, sql.bindings.map Value.text)) = some (2, ["1"]) ∧
      limited.toOption.map (fun c => (c.sql, c.bindings.map Value.text)) = some
        ("select * from \x60t\x60 order by (coalesce(a, ?) is not null), coalesce(a, ?) desc limit ?", ["1", "5"]) := by
  decide +kernel

end SqlBuilder
