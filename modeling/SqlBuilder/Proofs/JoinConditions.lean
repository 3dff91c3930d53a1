import SqlBuilder.Proofs.FailedConditions
import SqlBuilder.Proofs.Locks
import SqlBuilder.Proofs.NestedIdentifiers
import SqlBuilder.Proofs.RecordedConditions

/-!
# The conditions of a join

A join shows every condition that was recorded in it, in the order of the calls, each behind its own connective; a group
shows those of its callback in the same way, in parentheses. If it fails then it is one of the conditions that fails by
itself, and where all values in them are plain this is with an operator that is not permitted. This holds of joins in
which the columns that both sides share are named alone, and in which every range has its two bounds: of several
conditions the first one alone decides whether columns are named, and bounds are taken as they come.

* `Condition.Shown`, `Condition.AllShown`: conditions as a join shows them.
* `Condition.Fails`: a condition that fails by itself.
* `Condition.Orderly`: conditions that can stand with others.
* `Condition.Plain`: conditions of plain values.
* `Scope.conditions_shown`, `Scope.conditions_fails`: conditions that are rendered together.
* `Query.compile_joined`: the joins of a compiled select.
-/

namespace SqlBuilder

open List (Forall₂)
open Nested (scopeAt)

/-! ## Results of steps -/

namespace Compile

variable {α β : Type}

/-- Every one of some steps has its result among the results. -/
theorem Renders.of_mem_mapM {f : α → Compile β} {as : List α} {bs : List β} (h : (as.mapM f).Renders bs) {a : α}
    (mem : a ∈ as) : ∃ b ∈ bs, (f a).Renders b := by
  have each := h.of_mapM
  clear h
  induction each with
  | nil => cases mem
  | cons first _ ih =>
    rcases List.mem_cons.mp mem with rfl | later
    · exact ⟨_, .head _, first⟩
    · obtain ⟨b, within, rendered⟩ := ih later
      exact ⟨b, .tail _ within, rendered⟩

end Compile

/-! ## Groups -/

namespace Scope

/-- The join that the callback of a group puts together. -/
def joinOf (s : Scope) : Value → Compile (Join Value)
  | .callback chains => Compile.ofLogged (s.evaluator.onObject Join.call chains { table := .null })
  | _ => throw wrongType

theorem callbackJoin_eq (s : Scope) (v : Value) : s.callbackJoin v = (do
    let j ← s.joinOf v
    s.nested.conditions s.client s.context .where_ j.conditions) := by
  cases v <;> rfl

theorem joinOf_records {s : Scope} {v : Value} {j : Join Value} (h : (s.joinOf v).Renders j) :
    ∃ chains, v = .callback chains ∧ Forall₂ s.evaluator.Records chains.flatten j.conditions := by
  unfold joinOf at h
  split at h
  next chains =>
    obtain ⟨p, p', run⟩ := h
    unfold Compile.ofLogged at run
    split at run
    next made =>
      cases run
      obtain ⟨cs, records, rfl⟩ := Evaluator.onObject_records made
      exact ⟨chains, rfl, records⟩
    · cases run
  · exact absurd h Compile.Renders.not_throw

end Scope

/-! ## Conditions that are shown -/

/-- A fragment behind a word, where one is needed. -/
def Sql.behind (part : Sql) (needed : Bool) (word : Sql) : Sql :=
  if needed then Sql.word " " ++ word ++ Sql.word " " ++ part else part

section

variable (env : Environment) (client : Client Value) (context : Option Value)

mutual

/-- What a condition is shown as, with a number of levels below it. A range shows both of its bounds, and a group what
its callback records, in parentheses. -/
inductive Condition.Shown : Nat → Condition Value → Operand → Prop
  | plain {n : Nat} {c : Condition Value} {operand : Operand} (test : c.test.IsPlain)
      (own : ((scopeAt env client context n).condition .where_ c).Renders operand) : Condition.Shown n c operand
  | range {n : Nat} {c : Condition Value} {column low high : Value} {target first last : Sql}
      (test : c.test = .between column [low, high])
      (left : ((scopeAt env client context n).wrap column).Renders target)
      (least : ((scopeAt env client context n).parameter low).Renders first)
      (most : ((scopeAt env client context n).parameter high).Renders last) :
      Condition.Shown n c (.sql (target ++ Sql.word (if c.negated then " not between " else " between ") ++ first ++
        Sql.word " and " ++ last))
  | group {n : Nat} {c : Condition Value} {chains : List Chain} {cs : List (Condition Value)} {inside : Sql}
      (test : c.test = .joinGroup (.callback chains))
      (recorded : Forall₂ (scopeAt env client context (n + 1)).evaluator.Records chains.flatten cs)
      (conditions : Condition.AllShown n false cs inside) :
      Condition.Shown (n + 1) c (.sql (Scope.group c.negated inside))

/-- What conditions are shown as, one after another: each once, and behind its word if it has a text and others stand
before it. -/
inductive Condition.AllShown : Nat → Bool → List (Condition Value) → Sql → Prop
  | nil {n : Nat} {started : Bool} : Condition.AllShown n started [] []
  | cons {n : Nat} {started : Bool} {c : Condition Value} {cs : List (Condition Value)} {operand : Operand}
      {word part others : Sql} (first : Condition.Shown n c operand)
      (spelled : ((scopeAt env client context n).spell operand.orNothing).Renders part)
      (joined : (started && !operand.isBlank) = true → ((scopeAt env client context n).conjunction c).Renders word)
      (rest : Condition.AllShown n (started || !operand.isBlank) cs others) :
      Condition.AllShown n started (c :: cs) (part.behind (started && !operand.isBlank) word ++ others)

end

/-- A condition that can fail with an error: in one of its own values, where it is spelled, in its callback, or in one
of the conditions that its callback records. -/
inductive Condition.Fails : Nat → Condition Value → Error → Prop
  | plain {n : Nat} {c : Condition Value} {e : Error} (test : c.test.IsPlain)
      (own : ((scopeAt env client context n).condition .where_ c).Fails e)
      (value : ∃ use ∈ c.test.uses, use.1.Fails (scopeAt env client context n) use.2 e) : Condition.Fails n c e
  | range {n : Nat} {c : Condition Value} {column low high : Value} {e : Error}
      (test : c.test = .between column [low, high])
      (own : ((scopeAt env client context n).wrap column).Fails e ∨
        ((scopeAt env client context n).trackUndefined column (.list [low, high])).Fails e ∨
        ((scopeAt env client context n).parameter low).Fails e ∨
        ((scopeAt env client context n).parameter high).Fails e) : Condition.Fails n c e
  | spelling {n : Nat} {c : Condition Value} {operand : Operand} {e : Error}
      (shown : Condition.Shown env client context n c operand)
      (own : ((scopeAt env client context n).conjunction c).Fails e ∨
        ((scopeAt env client context n).spell operand).Fails e ∨ operand.textual.Fails e) : Condition.Fails n c e
  | callback {n : Nat} {c : Condition Value} {v : Value} {e : Error} (test : c.test = .joinGroup v)
      (own : ((scopeAt env client context n).joinOf v).Fails e) : Condition.Fails n c e
  | deep {c : Condition Value} {v : Value} (test : c.test = .joinGroup v) :
      Condition.Fails 0 c (.fault .nestingTooDeep)
  | inside {n : Nat} {c c' : Condition Value} {chains : List Chain} {cs : List (Condition Value)} {e : Error}
      (test : c.test = .joinGroup (.callback chains))
      (recorded : Forall₂ (scopeAt env client context (n + 1)).evaluator.Records chains.flatten cs)
      (mem : c' ∈ cs) (own : Condition.Fails n c' e) : Condition.Fails (n + 1) c e

/-- A test that can stand with others: no columns that both sides share, and two bounds for a range. -/
def Test.Stands {α : Type} : Test α → Prop
  | .using _ => False
  | .between _ bounds => bounds.length = 2
  | _ => True

/-- A condition that can stand with others, and so can all that its callback records. -/
def Condition.Orderly : Nat → Condition Value → Prop
  | 0, c => c.test.Stands
  | n + 1, c => c.test.Stands ∧ ∀ chains cs, c.test = .joinGroup (.callback chains) →
      Forall₂ (scopeAt env client context (n + 1)).evaluator.Records chains.flatten cs →
        ∀ c' ∈ cs, Condition.Orderly n c'

end

/-! ## Conditions that are rendered -/

section

variable {env : Environment} {client : Client Value} {context : Option Value} {n : Nat} {c : Condition Value}

theorem Condition.Orderly.stands (h : c.Orderly env client context n) : c.test.Stands := by
  cases n with
  | zero => exact h
  | succ n => exact h.1

theorem Condition.Orderly.inside {chains : List Chain} {cs : List (Condition Value)}
    (h : c.Orderly env client context (n + 1)) (test : c.test = .joinGroup (.callback chains))
    (recorded : Forall₂ (scopeAt env client context (n + 1)).evaluator.Records chains.flatten cs) :
    ∀ c' ∈ cs, c'.Orderly env client context n :=
  h.2 chains cs test recorded

/-- A condition without a callback that can stand with others. -/
theorem Condition.orderly_of_stands (stands : c.test.Stands) (simple : ∀ v, c.test ≠ .joinGroup v) :
    c.Orderly env client context n := by
  cases n with
  | zero => exact stands
  | succ n => exact ⟨stands, fun _ _ test => absurd test (simple _)⟩

/-- What a condition can be that stands with others. -/
theorem Test.Stands.cases {α : Type} {t : Test α} (h : t.Stands) :
    t.IsPlain ∨ (∃ column low high, t = .between column [low, high]) ∨ ∃ v, t = .joinGroup v := by
  match t, h with
  | .between column bounds, h =>
    obtain ⟨low, high, rfl⟩ := List.length_eq_two.mp h
    exact .inr (.inl ⟨column, low, high, rfl⟩)
  | .joinGroup v, _ => exact .inr (.inr ⟨v, rfl⟩)
  | .compare .., _ | .compareColumns .., _ | .isIn .., _ | .isNull _, _ | .exists_ _, _ | .group _, _ | .pairs _, _ |
    .raw _, _ | .like .., _ | .jsonPath .., _ | .joinPairs _, _ => exact .inl trivial

namespace Scope

variable {s : Scope}

theorem condition_between {column : Value} {bounds : List Value} (test : c.test = .between column bounds) :
    s.condition .where_ c = do return .sql (← s.range c.negated column bounds) := by
  obtain ⟨connective, word, negated, test⟩ := c
  subst test
  rfl

theorem condition_joinGroup {v : Value} (test : c.test = .joinGroup v) :
    s.condition .where_ c = do return .sql (← (do return group c.negated (← s.callbackJoin v) : Compile Sql)) := by
  obtain ⟨connective, word, negated, test⟩ := c
  subst test
  rfl

/-- A range with two bounds shows both of them. -/
theorem range_ok {negated : Bool} {column low high : Value} {sql : Sql}
    (h : (s.range negated column [low, high]).Renders sql) : ∃ target first last, (s.wrap column).Renders target ∧
      (s.parameter low).Renders first ∧ (s.parameter high).Renders last ∧
      sql = target ++ Sql.word (if negated then " not between " else " between ") ++ first ++ Sql.word " and " ++
        last := by
  obtain ⟨target, left, h⟩ := h.of_bind
  obtain ⟨-, -, h⟩ := h.of_bind
  obtain ⟨first, least, h⟩ := h.of_bind
  obtain ⟨last, most, h⟩ := h.of_bind
  exact ⟨target, first, last, left, least, most, h.of_pure⟩

/-- A range with two bounds fails in one of its operands. -/
theorem range_fails {negated : Bool} {column low high : Value} {e : Error}
    (h : (s.range negated column [low, high]).Fails e) :
    (s.wrap column).Fails e ∨ (s.trackUndefined column (.list [low, high])).Fails e ∨
      (s.parameter low).Fails e ∨ (s.parameter high).Fails e := by
  obtain left | ⟨_, -, h⟩ := h.of_bind
  · exact .inl left
  obtain tracked | ⟨_, -, h⟩ := h.of_bind
  · exact .inr (.inl tracked)
  obtain least | ⟨_, -, h⟩ := h.of_bind
  · exact .inr (.inr (.inl least))
  · exact .inr (.inr (.inr h.of_map))

theorem isBlank_of_spelled {operand : Operand} {part : Sql} (blank : operand.isBlank = true)
    (h : (s.spell operand.orNothing).Renders part) : part.isBlank = true := by
  cases operand with
  | sql own =>
    obtain rfl := h.of_pure
    exact blank
  | object v =>
    have absent : v.isTruthy = false := by simpa [Operand.isBlank] using blank
    rw [Operand.orNothing, absent] at h
    obtain rfl := h.of_pure
    rfl

/-- A condition after others: behind its word, if it has a text. -/
theorem conjoin_shown {done sql : Sql} {operand : Operand} (h : (s.conjoin done c operand).Renders sql) :
    ∃ word part, (s.spell operand.orNothing).Renders part ∧
      ((!done.isBlank && !operand.isBlank) = true → (s.conjunction c).Renders word) ∧
      sql = done ++ part.behind (!done.isBlank && !operand.isBlank) word ∧
      (!sql.isBlank) = (!done.isBlank || !operand.isBlank) := by
  unfold conjoin at h
  split at h
  next blank =>
    obtain ⟨part, spelled, result⟩ := h.of_bind
    obtain rfl := result.of_pure
    refine ⟨[], part, spelled, ?_, ?_, ?_⟩
    · simp [blank]
    · simp [blank, Sql.behind]
    · simp [blank, Sql.isBlank_append, isBlank_of_spelled blank spelled]
  next present =>
    have filled : operand.isBlank = false := by simpa using present
    rw [orNothing_of_present present]
    split at h
    next first =>
      obtain ⟨part, textual, result⟩ := h.of_bind
      obtain rfl := result.of_pure
      cases operand with
      | object v => exact absurd textual Compile.Renders.not_throw
      | sql own =>
        obtain rfl := Compile.Renders.of_pure textual
        refine ⟨[], part, textual, ?_, ?_, ?_⟩
        · simp [first]
        · simp [first, Sql.behind]
        · rw [Sql.isBlank_append, first, Bool.true_and]
          rfl
    next started =>
      have later : done.isBlank = false := by simpa using started
      obtain ⟨word, joined, rest⟩ := h.of_bind
      obtain ⟨part, spelled, result⟩ := rest.of_bind
      obtain rfl := result.of_pure
      refine ⟨word, part, spelled, fun _ => joined, ?_, ?_⟩
      · simp [Sql.behind, later, filled]
      · simp [Sql.isBlank_append, later]

/-- Where a condition after others fails. -/
theorem conjoin_fails {done : Sql} {operand : Operand} {e : Error} (h : (s.conjoin done c operand).Fails e) :
    (s.conjunction c).Fails e ∨ (s.spell operand).Fails e ∨ operand.textual.Fails e := by
  unfold conjoin at h
  split at h
  next blank =>
    cases operand with
    | sql own => exact absurd h.of_map Compile.Fails.not_pure
    | object v =>
      have absent : v.isTruthy = false := by simpa [Operand.isBlank] using blank
      rw [Operand.orNothing, absent] at h
      exact absurd h.of_map Compile.Fails.not_pure
  · split at h
    · exact .inr (.inr h.of_map)
    · obtain joined | ⟨_, -, rest⟩ := h.of_bind
      · exact .inl joined
      · exact .inr (.inl rest.of_map)

end Scope

/-! ## Conditions together -/

namespace Scope

/-- Conditions are shown one after another, if each is shown where it is rendered. -/
theorem allShown_of_each {cs : List (Condition Value)}
    (each : ∀ c ∈ cs, ∀ operand, ((scopeAt env client context n).condition .where_ c).Renders operand →
      c.Shown env client context n operand) {done sql : Sql}
    (h : (cs.foldlM (fun done c => do
      (scopeAt env client context n).conjoin done c (← (scopeAt env client context n).condition .where_ c)) done :
        Compile Sql).Renders sql) :
    ∃ shown, Condition.AllShown env client context n (!done.isBlank) cs shown ∧ sql = done ++ shown := by
  induction cs generalizing done with
  | nil =>
    obtain rfl := h.of_pure
    exact ⟨[], .nil, (List.append_nil _).symm⟩
  | cons c cs ih =>
    rw [List.foldlM_cons] at h
    obtain ⟨next, step, rest⟩ := h.of_bind
    obtain ⟨operand, rendered, placed⟩ := step.of_bind
    obtain ⟨word, part, spelled, joined, rfl, started⟩ := conjoin_shown placed
    obtain ⟨others, shown, rfl⟩ := ih (fun c' mem => each c' (.tail _ mem)) rest
    rw [started] at shown
    exact ⟨_, .cons (each c (.head _) operand rendered) spelled joined shown, List.append_assoc ..⟩

/-- Conditions together fail in one of them: where it is rendered, or where it is spelled. -/
theorem conditions_fails {s : Scope} {cs : List (Condition Value)} {done : Sql} {e : Error}
    (h : (cs.foldlM (fun done c => do s.conjoin done c (← s.condition .where_ c)) done : Compile Sql).Fails e) :
    ∃ c ∈ cs, (s.condition .where_ c).Fails e ∨ ∃ operand, (s.condition .where_ c).Renders operand ∧
      ((s.conjunction c).Fails e ∨ (s.spell operand).Fails e ∨ operand.textual.Fails e) := by
  induction cs generalizing done with
  | nil => exact absurd h Compile.Fails.not_pure
  | cons c cs ih =>
    rw [List.foldlM_cons] at h
    obtain failed | ⟨next, -, rest⟩ := h.of_bind
    · obtain own | ⟨operand, rendered, placed⟩ := failed.of_bind
      · exact ⟨c, .head _, .inl own⟩
      · exact ⟨c, .head _, .inr ⟨operand, rendered, conjoin_fails placed⟩⟩
    · obtain ⟨c', mem, failed⟩ := ih rest
      exact ⟨c', .tail _ mem, failed⟩

/-- What is rendered of a condition, if this is known of the conditions one level down. -/
theorem condition_shown_of_below {operand : Operand}
    (below : ∀ m, n = m + 1 → ∀ (c' : Condition Value) (operand' : Operand), c'.Orderly env client context m →
      ((scopeAt env client context m).condition .where_ c').Renders operand' → c'.Shown env client context m operand')
    (orderly : c.Orderly env client context n)
    (h : ((scopeAt env client context n).condition .where_ c).Renders operand) :
    c.Shown env client context n operand := by
  obtain plain | ⟨column, low, high, test⟩ | ⟨v, test⟩ := orderly.stands.cases
  · exact .plain plain h
  · rw [condition_between test] at h
    obtain ⟨sql, rendered, result⟩ := h.of_bind
    obtain rfl := result.of_pure
    obtain ⟨target, first, last, left, least, most, rfl⟩ := range_ok rendered
    exact .range test left least most
  · rw [condition_joinGroup test] at h
    obtain ⟨sql, rendered, result⟩ := h.of_bind
    obtain rfl := result.of_pure
    obtain ⟨inside, callback, grouped⟩ := rendered.of_bind
    obtain rfl := grouped.of_pure
    rw [callbackJoin_eq] at callback
    obtain ⟨j, made, conditions⟩ := callback.of_bind
    obtain ⟨chains, rfl, recorded⟩ := joinOf_records made
    cases n with
    | zero => exact absurd conditions Compile.Renders.not_throw
    | succ n =>
      have within := orderly.inside test recorded
      obtain ⟨shown, all, rfl⟩ :=
        allShown_of_each (fun c' mem operand' => below n rfl c' operand' (within c' mem)) conditions
      exact .group test recorded all

/-- A condition that can stand with others is shown where it is rendered. -/
theorem condition_shown {operand : Operand} (orderly : c.Orderly env client context n)
    (h : ((scopeAt env client context n).condition .where_ c).Renders operand) :
    c.Shown env client context n operand := by
  induction n generalizing c operand with
  | zero => exact condition_shown_of_below nofun orderly h
  | succ n ih =>
    refine condition_shown_of_below ?_ orderly h
    rintro m ⟨⟩ c' operand'
    exact ih

/-- The conditions of a join are shown, if each of them can stand with others. -/
theorem conditions_shown {cs : List (Condition Value)} (orderly : ∀ c ∈ cs, c.Orderly env client context n) {sql : Sql}
    (h : ((scopeAt env client context n).conditions .where_ cs).Renders sql) :
    Condition.AllShown env client context n false cs sql := by
  obtain ⟨shown, all, rfl⟩ := allShown_of_each (fun c mem operand => condition_shown (orderly c mem)) h
  exact all

/-- Where conditions fail, if this is known of those one level down. -/
theorem orderly_fails_of_below {cs : List (Condition Value)} {e : Error}
    (below : ∀ m, n = m + 1 → ∀ cs' : List (Condition Value), (∀ c ∈ cs', c.Orderly env client context m) →
      ((scopeAt env client context m).conditions .where_ cs').Fails e → ∃ c ∈ cs', c.Fails env client context m e)
    (orderly : ∀ c ∈ cs, c.Orderly env client context n)
    (h : ((scopeAt env client context n).conditions .where_ cs).Fails e) :
    ∃ c ∈ cs, c.Fails env client context n e := by
  obtain ⟨c, mem, own | ⟨operand, rendered, spelling⟩⟩ := conditions_fails h
  · refine ⟨c, mem, ?_⟩
    obtain plain | ⟨column, low, high, test⟩ | ⟨v, test⟩ := (orderly c mem).stands.cases
    · exact .plain plain own (condition_fails plain own)
    · rw [condition_between test] at own
      exact .range test (range_fails own.of_map)
    · rw [condition_joinGroup test] at own
      have callback := own.of_map.of_map
      rw [callbackJoin_eq] at callback
      obtain refused | ⟨j, made, conditions⟩ := callback.of_bind
      · exact .callback test refused
      · obtain ⟨chains, rfl, recorded⟩ := joinOf_records made
        cases n with
        | zero =>
          obtain rfl := Compile.Fails.of_throw conditions
          exact .deep test
        | succ n =>
          obtain ⟨c', mem', failed⟩ := below n rfl _ ((orderly c mem).inside test recorded) conditions
          exact .inside test recorded mem' failed
  · exact ⟨c, mem, .spelling (condition_shown (orderly c mem) rendered) spelling⟩

/-- Conditions that can stand with others fail where one of them fails by itself. -/
theorem orderly_fails {cs : List (Condition Value)} {e : Error} (orderly : ∀ c ∈ cs, c.Orderly env client context n)
    (h : ((scopeAt env client context n).conditions .where_ cs).Fails e) :
    ∃ c ∈ cs, c.Fails env client context n e := by
  induction n generalizing cs with
  | zero => exact orderly_fails_of_below nofun orderly h
  | succ n ih =>
    refine orderly_fails_of_below ?_ orderly h
    rintro m ⟨⟩ cs' orderly'
    exact ih orderly'

end Scope

end

/-! ## Conditions of plain values -/

/-- A condition without a group, whose values are plain. -/
structure Condition.IsSimple (c : Condition Value) : Prop where
  single : ∀ v, c.test ≠ .joinGroup v
  uses : ∀ use ∈ c.test.uses, use.1.Plain use.2

section

variable (env : Environment) (client : Client Value) (context : Option Value)

/-- A condition whose values are plain, or a group whose callback raises nothing and records such conditions. The word
before it is no builder. -/
def Condition.Plain : Nat → Condition Value → Prop
  | 0, c => (∀ v, c.word = some v → v.isBuilder = false) ∧ c.IsSimple
  | n + 1, c => (∀ v, c.word = some v → v.isBuilder = false) ∧
    (c.IsSimple ∨ ∃ chains, c.test = .joinGroup (.callback chains) ∧
      (∀ e, ¬ ((scopeAt env client context (n + 1)).joinOf (.callback chains)).Fails e) ∧
      ∀ cs, Forall₂ (scopeAt env client context (n + 1)).evaluator.Records chains.flatten cs →
        ∀ c' ∈ cs, Condition.Plain n c')

end

section

variable {env : Environment} {client : Client Value} {context : Option Value} {n : Nat} {c : Condition Value}

theorem Condition.Plain.word (h : c.Plain env client context n) : ∀ v, c.word = some v → v.isBuilder = false := by
  cases n with
  | zero => exact h.1
  | succ n => exact h.1

theorem Condition.Plain.simple (h : c.Plain env client context n) (single : ∀ v, c.test ≠ .joinGroup v) :
    c.IsSimple := by
  cases n with
  | zero => exact h.2
  | succ n =>
    obtain ⟨-, simple | ⟨chains, test, -⟩⟩ := h
    · exact simple
    · exact absurd test (single _)

/-- The callback of a group raises nothing, and what it records is plain. -/
theorem Condition.Plain.group {v : Value} (h : c.Plain env client context (n + 1)) (test : c.test = .joinGroup v) :
    (∀ e, ¬ ((scopeAt env client context (n + 1)).joinOf v).Fails e) ∧ ∀ chains cs, v = .callback chains →
      Forall₂ (scopeAt env client context (n + 1)).evaluator.Records chains.flatten cs →
        ∀ c' ∈ cs, c'.Plain env client context n := by
  obtain ⟨-, simple | ⟨chains, given, succeeds, inside⟩⟩ := h
  · exact absurd test (simple.single v)
  · obtain ⟨⟩ := given.symm.trans test
    refine ⟨succeeds, ?_⟩
    rintro _ cs ⟨⟩
    exact inside cs

theorem Condition.IsSimple.plain (h : c.IsSimple) (unworded : c.word = none) : c.Plain env client context n := by
  have word : ∀ v, c.word = some v → v.isBuilder = false := by simp [unworded]
  cases n with
  | zero => exact ⟨word, h⟩
  | succ n => exact ⟨word, .inl h⟩

/-- Every condition of plain values is shown as a text. -/
theorem Condition.Shown.exists_sql {operand : Operand} (h : c.Shown env client context n operand)
    (plain : c.Plain env client context n) : ∃ sql, operand = .sql sql := by
  cases h with
  | plain test own =>
    have simple := plain.simple fun v same => by simp [same, Test.IsPlain] at test
    unfold Scope.condition at own
    split at own
    next expression raw _ => exact (simple.uses (.expression, expression) (by simp [raw, Test.uses])).elim
    · obtain ⟨sql, -, result⟩ := own.of_bind
      exact ⟨sql, result.of_pure⟩
  | range test left least most => exact ⟨_, rfl⟩
  | group test recorded conditions => exact ⟨_, rfl⟩

/-- A condition of plain values fails only with an operator that is not permitted. -/
theorem Condition.Fails.refused (writes : ∀ n, (scopeAt env client context n).WritesSegments) {e : Error}
    (h : c.Fails env client context n e) (plain : c.Plain env client context n) : client.Refuses e := by
  induction h with
  | plain test own value =>
    have simple := plain.simple fun v same => by simp [same, Test.IsPlain] at test
    obtain ⟨use, given, failed⟩ := value
    exact (simple.uses use given).fails (writes _) failed
  | @range n c column low high e test own =>
    have simple := plain.simple fun v same => by simp [same] at test
    have part {use : Role × Value} (given : use ∈ c.test.uses)
        (failed : use.1.Fails (scopeAt env client context n) use.2 e) : client.Refuses e :=
      (simple.uses use given).fails (writes n) failed
    rw [test] at part
    obtain left | tracked | least | most := own
    · exact part (.head _) left
    · exact part (.tail _ (.head _)) (Scope.trackUndefined_fails tracked)
    · exact part (.tail _ (.tail _ (.head _))) least
    · exact part (.tail _ (.tail _ (.tail _ (.head _)))) most
  | spelling shown own =>
    obtain ⟨sql, rfl⟩ := shown.exists_sql plain
    obtain joined | spelled | textual := own
    · unfold Scope.conjunction at joined
      split at joined
      next word given =>
        rw [Scope.display_plain (plain.word word given)] at joined
        exact absurd joined.of_map Compile.Fails.not_pure
      · exact absurd joined Compile.Fails.not_pure
    · exact absurd spelled Compile.Fails.not_pure
    · exact absurd textual Compile.Fails.not_pure
  | @callback n c v e test own =>
    cases n with
    | zero => exact absurd test (plain.2.single v)
    | succ n => exact absurd own ((plain.group test).1 e)
  | @deep c v test => exact absurd test (plain.2.single v)
  | inside test recorded mem own ih => exact ih ((plain.group test).2 _ _ rfl recorded _ mem)

end

/-! ## Joins -/

/-- Each of some fragments is a part of them joined. -/
theorem Sql.infix_joined (separator : String) {part : Sql} {parts : List Sql} (h : part ∈ parts) :
    part <:+: joined separator parts := by
  induction parts with
  | nil => cases h
  | cons first rest ih =>
    cases rest with
    | nil =>
      obtain rfl := List.mem_singleton.mp h
      exact List.infix_rfl
    | cons second rest =>
      rcases List.mem_cons.mp h with rfl | later
      · rw [joined, List.append_assoc]
        · exact (List.prefix_append ..).isInfix
        · intro none
          cases none
      · exact (ih later).trans (List.suffix_append ..).isInfix

namespace Join

section

variable (env : Environment) (client : Client Value) (context : Option Value)

/-- What the conditions of a join are shown as: the columns that both sides share, or all conditions after their
keyword. Text that names shared columns itself needs no keyword. -/
inductive Shown : Nat → List (Condition Value) → Sql → Prop
  | using {n : Nat} {c : Condition Value} {columns : List Value} {names : Sql} (test : c.test = .using columns)
      (named : ((scopeAt env client context n).columnizeAll columns).Renders names) :
      Shown n [c] (Sql.word " using " ++ names.parens)
  | on {n : Nat} {cs : List (Condition Value)} {sql : Sql}
      (conditions : Condition.AllShown env client context n false cs sql) :
      Shown n cs (if Text.startsWith sql.text " using" then sql else sql.after " on ")

/-- The conditions of a join can fail with an error: in the columns that both sides share, or in one condition. -/
inductive Fails : Nat → List (Condition Value) → Error → Prop
  | using {n : Nat} {c : Condition Value} {columns : List Value} {e : Error} (test : c.test = .using columns)
      (own : ((scopeAt env client context n).columnizeAll columns).Fails e) : Fails n [c] e
  | on {n : Nat} {cs : List (Condition Value)} {c : Condition Value} {e : Error} (mem : c ∈ cs)
      (own : c.Fails env client context n e) : Fails n cs e

/-- The columns that both sides share are named alone, or all conditions can stand with others. -/
def Orderly (n : Nat) (cs : List (Condition Value)) : Prop :=
  (∃ c columns, cs = [c] ∧ c.test = .using columns) ∨ ∀ c ∈ cs, c.Orderly env client context n

end

end Join

namespace Scope

section

variable {env : Environment} {client : Client Value} {context : Option Value} {n : Nat} {cs : List (Condition Value)}

theorem joinConditions_using (s : Scope) {c : Condition Value} {columns : List Value} (test : c.test = .using columns)
    (rest : List (Condition Value)) :
    s.joinConditions (c :: rest) = do return Sql.word " using " ++ (← s.columnizeAll columns).parens := by
  obtain ⟨connective, word, negated, test⟩ := c
  subst test
  rfl

theorem joinConditions_on (s : Scope) (stand : ∀ c ∈ cs, c.test.Stands) : s.joinConditions cs = do
    let sql ← s.conditions .where_ cs
    return if Text.startsWith sql.text " using" then sql else sql.after " on " := by
  unfold joinConditions
  split
  next columns rest => exact (stand _ (.head _)).elim
  next => rfl

/-- An orderly join shows its conditions. -/
theorem joinConditions_shown (orderly : Join.Orderly env client context n cs) {sql : Sql}
    (h : ((scopeAt env client context n).joinConditions cs).Renders sql) : Join.Shown env client context n cs sql := by
  obtain ⟨c, columns, rfl, test⟩ | orderly := orderly
  · rw [joinConditions_using _ test] at h
    obtain ⟨names, named, result⟩ := h.of_bind
    obtain rfl := result.of_pure
    exact .using test named
  · rw [joinConditions_on _ fun c mem => (orderly c mem).stands] at h
    obtain ⟨conditions, rendered, result⟩ := h.of_bind
    obtain rfl := result.of_pure
    exact .on (conditions_shown orderly rendered)

/-- An orderly join fails in one of its conditions. -/
theorem joinConditions_fails (orderly : Join.Orderly env client context n cs) {e : Error}
    (h : ((scopeAt env client context n).joinConditions cs).Fails e) : Join.Fails env client context n cs e := by
  obtain ⟨c, columns, rfl, test⟩ | orderly := orderly
  · rw [joinConditions_using _ test] at h
    exact .using test h.of_map
  · rw [joinConditions_on _ fun c mem => (orderly c mem).stands] at h
    obtain ⟨c, mem, failed⟩ := orderly_fails orderly h.of_map
    exact .on mem failed

/-- A join of plain values fails only with an operator that is not permitted. -/
theorem joinFails_refused {e : Error} (writes : ∀ n, (scopeAt env client context n).WritesSegments)
    (plain : ∀ c ∈ cs, c.Plain env client context n) (h : Join.Fails env client context n cs e) :
    client.Refuses e := by
  rcases h with ⟨test, own⟩ | ⟨mem, own⟩
  next c columns =>
    have simple := (plain c (.head _)).simple fun v same => by simp [same] at test
    have named : Role.columns.Plain (.list columns) :=
      simple.uses (.columns, .list columns) (by simp [test, Test.uses])
    exact named.fails (writes n) own
  · exact own.refused writes (plain _ mem)

end

/-- A join is its table and its conditions. -/
theorem join_ok {s : Scope} {j : Join Value} {operand : Operand} (named : j.raw = false)
    (h : (s.join j).Renders operand) : ∃ table part, (s.tableIn j.schema j.table).Renders table ∧
      (s.joinConditions j.conditions).Renders part ∧
      operand = .sql (Sql.word (j.kind ++ " join ") ++ table ++ part) := by
  simp only [join, named, Bool.false_eq_true, if_false] at h
  obtain ⟨table, source, h⟩ := h.of_bind
  obtain ⟨part, conditions, h⟩ := h.of_bind
  exact ⟨table, part, source, conditions, h.of_pure⟩

/-- Each of some joins is a part of the joins of a statement. -/
theorem joinClause_ok {s : Scope} {joins : List (Join Value)} {sql : Sql} (h : (s.joinClause joins).Renders sql)
    {j : Join Value} (mem : j ∈ joins) :
    ∃ operand part, (s.join j).Renders operand ∧ operand.textual.Renders part ∧ part <:+: sql := by
  obtain ⟨operands, rendered, h⟩ := h.of_bind
  obtain ⟨parts, texts, h⟩ := h.of_bind
  obtain rfl := h.of_pure
  obtain ⟨operand, within, shown⟩ := rendered.of_mem_mapM mem
  obtain ⟨part, among, text⟩ := texts.of_mem_mapM within
  exact ⟨operand, part, shown, text, Sql.infix_joined " " among⟩

end Scope

/-- A callback that puts a join together records a condition for every call. A compiled select shows all of them, in
their order, if the join is orderly. Rendering them fails only where one of them fails by itself; if their values are
plain then this is only with an operator that is not permitted. -/
theorem Query.compile_joined {env : Environment} {q : Query Value} (select : q.Selects) {ev : Evaluator}
    {chains : List Chain} {start j : Join Value} {events events' : List LogEvent} (fresh : start.conditions = [])
    (named : start.raw = false) (built : ev.onObject Join.call chains start events = .ok j events')
    (mem : j ∈ q.statement.joins)
    (orderly : Join.Orderly env q.client q.context (nestingLimit - 1) j.conditions) :
    Forall₂ ev.Records chains.flatten j.conditions ∧
    (∀ e, ((q.scope env).joinConditions j.conditions).Fails e →
      Join.Fails env q.client q.context (nestingLimit - 1) j.conditions e ∧
        ((∀ n, (scopeAt env q.client q.context n).WritesSegments) →
          (∀ c ∈ j.conditions, c.Plain env q.client q.context (nestingLimit - 1)) → q.client.Refuses e)) ∧
    ∀ {p p' : Progress} {c : Compiled Value}, q.compile env p = .ok c p' →
      ∃ table part sql : Sql, ((q.scope env).tableIn start.schema start.table).Renders table ∧
        Join.Shown env q.client q.context (nestingLimit - 1) j.conditions part ∧
        Sql.word (start.kind ++ " join ") ++ table ++ part <:+: sql ∧ c.sql = sql.text ∧ c.bindings = sql.bindings := by
  obtain ⟨cs, records, rfl⟩ := Evaluator.onObject_records built
  refine ⟨?_, fun e failed => ?_, fun run => ?_⟩
  · simpa [Join.record, fresh] using records
  · have own := Scope.joinConditions_fails orderly failed
    exact ⟨own, fun writes plain => Scope.joinFails_refused writes plain own⟩
  · obtain ⟨body, rendered, sql, bindings⟩ := Query.compile_body run
    have selected : ((q.scope env).select q.statement).Renders body := by
      rcases select with method | method <;> (rw [method] at rendered; exact rendered)
    obtain ⟨-, joins, -, -, joined, -, -, within, -⟩ := Scope.select_ok selected
    obtain ⟨operand, part, shown, text, inside⟩ := Scope.joinClause_ok joined mem
    obtain ⟨table, conditions, source, rendered, rfl⟩ := Scope.join_ok (j := start.record cs) named shown
    obtain rfl := Compile.Renders.of_pure text
    refine ⟨table, conditions, Scope.commented q.statement.comments body, source,
      Scope.joinConditions_shown orderly rendered, ?_, sql, ?_⟩
    · exact (inside.trans within).trans (Sql.suffix_commented _ _).isInfix
    · rw [bindings, Likeness.Setting.bindings_commented]

/-- A join with a group inside it, a connective of its own and a range. -/
theorem Query.compile_joined_group :
    let client : Client Value := { dialect := .postgres }
    let env : Environment := { client }
    let text (s : String) : Term := .scalar (.str s)
    let number (n : Int) : Term := .scalar (.int n)
    let group : List Chain := [[⟨"on_null", [text "b.gone"], []⟩]]
    let chain : Chain := [⟨"on", [text "t.id", text "b.id"], []⟩, ⟨"or_on_val", [text "b.kind", number 3], []⟩,
      ⟨"on", [.callback group], []⟩, ⟨"on_not_between", [text "b.n", .list [number 1, number 9]], []⟩]
    let table := (Query.ofClient client).from_ (.str "t")
    let start := table.joinOf "left" (.str "b")
    let j := start.record [{ test := .compareColumns (.str "t.id") (.str "=") (.str "b.id") },
      { connective := .or, test := .compare (.str "b.kind") (.str "=") (.int 3) },
      { test := .joinGroup (.callback group) }, { negated := true, test := .between (.str "b.n") [.int 1, .int 9] }]
    let q := table.addJoin j
    q.Selects ∧ start.conditions = [] ∧ start.raw = false ∧
      env.evaluator.onObject Join.call [chain] start [] = .ok j [] ∧ j ∈ q.statement.joins ∧
      Join.Orderly env q.client q.context (nestingLimit - 1) j.conditions ∧
      Forall₂ env.evaluator.Records [chain].flatten j.conditions ∧
      (∀ e, ((q.scope env).joinConditions j.conditions).Fails e →
        Join.Fails env q.client q.context (nestingLimit - 1) j.conditions e ∧ q.client.Refuses e) ∧
      ∃ c p', q.compile env {} = .ok c p' ∧ ∃ table part sql : Sql,
        ((q.scope env).tableIn start.schema start.table).Renders table ∧
        Join.Shown env q.client q.context (nestingLimit - 1) j.conditions part ∧
        Sql.word (start.kind ++ " join ") ++ table ++ part <:+: sql ∧ c.sql = sql.text ∧ c.bindings = sql.bindings := by
  intro client env text number group chain table start j q
  have built : env.evaluator.onObject Join.call [chain] start [] = .ok j [] := rfl
  have mem : j ∈ q.statement.joins := by simp [q, Query.addJoin, Query.edit]
  -- the group records one condition, whatever was reported before
  have inside : ∀ cs, Forall₂ (scopeAt env q.client q.context (398 + 1)).evaluator.Records group.flatten cs →
      cs = [{ test := .isNull (.str "b.gone") }] := by
    intro cs recorded
    obtain ⟨c, rest, ⟨a, events, events', evaluated, records⟩, none_, rfl⟩ := List.forall₂_cons_left_iff.mp recorded
    obtain rfl := List.forall₂_nil_left_iff.mp none_
    cases evaluated
    cases records.adds {table := .null}
    rfl
  have orderly : Join.Orderly env q.client q.context (nestingLimit - 1) j.conditions := by
    have grouped : Condition.Orderly env q.client q.context 399 { test := .joinGroup (.callback group) } := by
      refine ⟨trivial, ?_⟩
      rintro _ cs ⟨⟩ recorded
      rw [inside cs recorded]
      exact List.forall_mem_singleton.mpr (Condition.orderly_of_stands trivial (by simp))
    refine .inr (List.forall_mem_cons.mpr ⟨?_, List.forall_mem_cons.mpr ⟨?_, List.forall_mem_cons.mpr ⟨grouped,
      List.forall_mem_singleton.mpr ?_⟩⟩⟩)
    · exact Condition.orderly_of_stands trivial (by simp)
    · exact Condition.orderly_of_stands trivial (by simp)
    · exact Condition.orderly_of_stands rfl (by simp)
  have writes (n : Nat) : (scopeAt env q.client q.context n).WritesSegments :=
    (Scope.quotes_of_builtin (.head _) rfl).writesSegments
  have plain : ∀ c ∈ j.conditions, c.Plain env q.client q.context (nestingLimit - 1) := by
    have column {name : String} (short : Text.overshoot name.toList < 4) : (Value.str name).IsName := ⟨name, rfl, short⟩
    have shown (name : String) : (Value.str name).isBuilder = false := rfl
    have gone : (Value.str "b.gone").IsName := column (by decide)
    have grouped : Condition.Plain env q.client q.context 399 { test := .joinGroup (.callback group) } := by
      refine ⟨by simp, .inr ⟨group, rfl, ?_, fun cs recorded => ?_⟩⟩
      · rintro e ⟨p, p', run⟩
        cases run
      · rw [inside cs recorded]
        have simple : Condition.IsSimple { test := .isNull (.str "b.gone") } :=
          ⟨by simp, by simp [Test.uses, Role.Plain, gone]⟩
        exact List.forall_mem_singleton.mpr (simple.plain rfl)
    have left : (Value.str "t.id").IsName := column (by decide)
    have right : (Value.str "b.id").IsName := column (by decide)
    have kind : (Value.str "b.kind").IsName := column (by decide)
    have size : (Value.str "b.n").IsName := column (by decide)
    refine List.forall_mem_cons.mpr ⟨?_, List.forall_mem_cons.mpr ⟨?_, List.forall_mem_cons.mpr ⟨grouped,
      List.forall_mem_singleton.mpr ?_⟩⟩⟩
    · exact Condition.IsSimple.plain ⟨by simp, by simp [Test.uses, Role.Plain, left, right]⟩ rfl
    · exact Condition.IsSimple.plain ⟨by simp, by simp [Test.uses, Role.Plain, shown, kind]⟩ rfl
    · exact Condition.IsSimple.plain ⟨by simp, by simp [Test.uses, Role.Plain, shown, size]⟩ rfl
  obtain ⟨records, fails, shows⟩ := Query.compile_joined (.inl rfl) rfl rfl built mem orderly
  have succeeds : (q.compile env).outcome.1.isOk = true := by decide +kernel
  unfold Compile.outcome at succeeds
  split at succeeds
  next c p' run =>
    exact ⟨.inl rfl, rfl, rfl, built, mem, orderly, records,
      fun e failed => ⟨(fails e failed).1, (fails e failed).2 writes plain⟩, c, p', run, shows run⟩
  · cases succeeds

/-- Of shared columns and a condition, the condition is lost where it comes second, and there is no join where it comes
first or where the columns stand in a group. Nor is there one for a range with one bound, and of three bounds the last
one is lost. -/
theorem Query.compile_joined_lost :
    let client : Client Value := { dialect := .postgres }
    let env : Environment := { client }
    let text (s : String) : Term := .scalar (.str s)
    let number (n : Int) : Term := .scalar (.int n)
    let table := (Query.ofClient client).from_ (.str "t")
    let compiled (chain : Chain) : Except Error (Compiled Value) :=
      match env.evaluator.onObject Join.call [chain] (table.joinOf "inner" (.str "b")) [] with
      | .ok j _ => ((table.addJoin j).compile env).outcome.1
      | .error e _ => .error e
    let sql (chain : Chain) := (compiled chain).toOption.map Compiled.sql
    let fault (chain : Chain) : Option Fault := match compiled chain with
      | .error (.fault f) => some f
      | _ => none
    let shared : Call Term := ⟨"using", [text "id"], []⟩
    let on : Call Term := ⟨"on", [text "t.a", text "b.a"], []⟩
    let range (bounds : List Term) : Call Term := ⟨"on_between", [text "b.n", .list bounds], []⟩
    sql [shared, on] = some "select * from \"t\" inner join \"b\" using (\"id\")" ∧
      fault [on, shared] = some .noSuchMember ∧ fault [⟨"on", [.callback [[shared]]], []⟩] = some .noSuchMember ∧
      fault [range [number 1]] = some .outOfRange ∧
      sql [range [number 1, number 2, number 3]] =
        some "select * from \"t\" inner join \"b\" on \"b\".\"n\" between ? and ?" := by
  decide +kernel

end SqlBuilder
