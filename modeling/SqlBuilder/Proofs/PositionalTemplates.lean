import Mathlib.Data.Set.List
import SqlBuilder.Proofs.Successes

/-!
# Templates with positional slots

A raw expression with a list of bindings compiles if it has as many slots as bindings, and each binding is rendered
in its slot: the text is that of the template with the rendered bindings in the slots, from the left, and the values
are theirs. A backslash makes the question mark behind it text. Before two question marks it does not, where one slot
for a value takes all three characters.

* `Template.pieces`: the parts of a template in which a backslash always makes the question mark behind it text.
* `Template.positional_eq_pieces_iff`: the templates that are read so.
* `Template.weave`: a template with fragments in its slots.
* `Scope.fillSlot`: what a binding renders to in its slot.
* `Raw.compile_positional`: the compiled form of a raw expression with a list of bindings.
-/

namespace SqlBuilder

/-! ## Templates -/

namespace Template

/-- The parts of a template with positional slots. A backslash and the question mark behind it are text, whatever
follows them. -/
def pieces : List Char → List Part
  | [] => []
  | '\\' :: '?' :: cs => .text ['\\', '?'] :: pieces cs
  | '?' :: '?' :: cs => .identifier ['?', '?'] :: pieces cs
  | '?' :: cs => .value ['?'] :: pieces cs
  | c :: cs => .text [c] :: pieces cs

/-- A backslash before two question marks. -/
def doubledMark : List Char := ['\\', '?', '?']

/-- A template is read so exactly if no backslash stands before two question marks. -/
theorem positional_eq_pieces_iff {cs : List Char} : positional cs = pieces cs ↔ ¬ doubledMark <:+: cs := by
  -- The two readings differ in the second case only, where the first one takes three characters for a slot.
  fun_induction positional cs with
  | case1 => simp [pieces, doubledMark]
  | case2 cs ih =>
    have there : doubledMark <:+: '\\' :: '?' :: '?' :: cs := (List.prefix_append doubledMark cs).isInfix
    simp [pieces, there]
  | case3 cs single ih =>
    have first : ¬ doubledMark <+: '\\' :: '?' :: cs := by
      rintro ⟨rest, whole⟩
      exact single rest (by simpa [doubledMark] using whole.symm)
    have second : ¬ doubledMark <+: '?' :: cs := by simp [doubledMark]
    simp [pieces, ih, List.infix_cons_iff, first, second]
  | case4 cs ih =>
    simp [pieces, ih, List.infix_cons_iff, doubledMark]
  | case5 cs single ih =>
    have reading : pieces ('?' :: cs) = .value ['?'] :: pieces cs := by
      rw [pieces]
      exact single
    rw [reading]
    simp [ih, List.infix_cons_iff, doubledMark]
  | case6 c cs escapedTwice escaped doubled marked ih =>
    have reading : pieces (c :: cs) = .text [c] :: pieces cs := by
      rw [pieces]
      · exact escaped
      · exact doubled
      · exact marked
    have first : ¬ doubledMark <+: c :: cs := by
      rintro ⟨rest, whole⟩
      obtain ⟨rfl, rfl⟩ := List.cons.inj whole
      exact escapedTwice rest rfl rfl
    rw [reading]
    simp [ih, List.infix_cons_iff, first]

/-- What a slot is for. -/
inductive Slot
  | value
  | identifier
  deriving DecidableEq

/-- The slot that a part of a template is, if it is one. -/
def Part.slot? : Part → Option Slot
  | .text _ => none
  | .value _ => some .value
  | .identifier _ => some .identifier

/-- The slots of a template, from the left. -/
def slots (parts : List Part) : List Slot :=
  parts.filterMap Part.slot?

@[simp] theorem slots_nil : slots [] = [] :=
  rfl

@[simp] theorem slots_text (cs : List Char) (parts : List Part) : slots (.text cs :: parts) = slots parts :=
  rfl

@[simp] theorem slots_value (cs : List Char) (parts : List Part) :
    slots (.value cs :: parts) = .value :: slots parts :=
  rfl

@[simp] theorem slots_identifier (cs : List Char) (parts : List Part) :
    slots (.identifier cs :: parts) = .identifier :: slots parts :=
  rfl

/-- The parts of a template with something in the slots, from the left. A slot without anything keeps its text. -/
def interleave {α : Type} (text : String → α) : List Part → List α → List α
  | [], _ => []
  | .text cs :: parts, as => text (String.ofList cs) :: interleave text parts as
  | .value _ :: parts, a :: as | .identifier _ :: parts, a :: as => a :: interleave text parts as
  | .value cs :: parts, [] | .identifier cs :: parts, [] => text (String.ofList cs) :: interleave text parts []

/-- What stands in the slots stands in the template, if it has a slot for each. -/
theorem mem_interleave {α : Type} {text : String → α} {parts : List Part} {as : List α} {a : α} (mem : a ∈ as)
    (enough : as.length ≤ (slots parts).length) : a ∈ interleave text parts as := by
  induction parts generalizing as with
  | nil =>
    obtain rfl := List.length_eq_zero_iff.mp (Nat.le_zero.mp enough)
    exact mem
  | cons part parts ih =>
    cases part with
    | text cs => exact List.mem_cons_of_mem _ (ih mem enough)
    | value cs | identifier cs =>
      obtain ⟨first, as, rfl⟩ := List.exists_cons_of_ne_nil (List.ne_nil_of_mem mem)
      cases List.mem_cons.mp mem with
      | inl here => exact List.mem_cons.mpr (.inl here)
      | inr later => exact List.mem_cons_of_mem _ (ih later (Nat.le_of_succ_le_succ enough))

/-- A template whose texts and slots are mapped. -/
theorem map_interleave {α β : Type} (f : α → β) (text : String → α) (parts : List Part) (as : List α) :
    (interleave text parts as).map f = interleave (f ∘ text) parts (as.map f) := by
  induction parts generalizing as with
  | nil => rfl
  | cons part parts ih =>
    cases part with
    | text cs => exact congrArg _ (ih as)
    | value cs | identifier cs =>
      cases as with
      | nil => exact congrArg _ (ih [])
      | cons a as => exact congrArg _ (ih as)

/-- What stands in the slots of a template that is mapped is mapped, if it has a slot for each. -/
theorem mem_range_of_interleave {α β : Type} {f : β → α} {text : String → α} {parts : List Part} {as : List α}
    {bs : List β} (enough : as.length ≤ (slots parts).length) (mapped : interleave text parts as = bs.map f) :
    as ∈ Set.range (List.map f) := by
  rw [Set.range_list_map]
  intro a mem
  have there : a ∈ bs.map f := mapped ▸ mem_interleave mem enough
  obtain ⟨b, -, rfl⟩ := List.mem_map.mp there
  exact ⟨b, rfl⟩

/-- A template with fragments in its slots. -/
def weave (parts : List Part) (sqls : List Sql) : Sql :=
  (interleave Sql.raw parts sqls).flatten

/-- The values of a template are those of the fragments in its slots. -/
theorem bindings_weave {parts : List Part} {sqls : List Sql} (enough : sqls.length = (slots parts).length) :
    (weave parts sqls).bindings = sqls.flatMap Sql.bindings := by
  induction parts generalizing sqls with
  | nil =>
    obtain rfl := List.length_eq_zero_iff.mp enough
    rfl
  | cons part parts ih =>
    cases part with
    | text cs =>
      have rest : (weave parts sqls).bindings = sqls.flatMap Sql.bindings := ih enough
      simpa [weave, interleave] using rest
    | value cs | identifier cs =>
      cases sqls with
      | nil => exact absurd enough (Nat.zero_ne_add_one _)
      | cons sql sqls =>
        have rest : (weave parts sqls).bindings = sqls.flatMap Sql.bindings := ih (Nat.succ.inj enough)
        simpa [weave, interleave] using rest

end Template

/-! ## Rendering -/

namespace Compile

variable {α β : Type} {p p' : Progress}

/-- A step and the same steps for what follows. -/
theorem mapM_cons_ok {f : α → Compile β} {a : α} {as : List α} {bs : List β} :
    (a :: as).mapM f p = .ok bs p' ↔
      ∃ b rest q, bs = b :: rest ∧ f a p = .ok b q ∧ as.mapM f q = .ok rest p' := by
  rw [List.mapM_cons, bind_ok]
  constructor
  · rintro ⟨b, q, first, run⟩
    obtain ⟨rest, q', others, run⟩ := bind_ok.mp run
    obtain ⟨rfl, rfl⟩ := pure_ok.mp run
    exact ⟨b, rest, q, rfl, first, others⟩
  · rintro ⟨b, rest, q, rfl, first, others⟩
    exact ⟨b, q, first, bind_ok.mpr ⟨rest, p', others, rfl⟩⟩

theorem textual_ok {operand : Operand} {sql : Sql} :
    operand.textual p = .ok sql p' ↔ operand = .sql sql ∧ p = p' := by
  cases operand with
  | sql own => simpa [Operand.textual] using pure_ok
  | object v => simpa [Operand.textual] using throw_ok

/-- Operands that are all texts. -/
theorem mapM_textual_ok {operands : List Operand} {sqls : List Sql} :
    operands.mapM Operand.textual p = .ok sqls p' ↔ operands = sqls.map .sql ∧ p = p' := by
  induction operands generalizing sqls p with
  | nil => cases sqls <;> simp [pure_ok]
  | cons operand operands ih =>
    rw [mapM_cons_ok]
    constructor
    · rintro ⟨sql, rest, q, rfl, first, others⟩
      obtain ⟨rfl, rfl⟩ := textual_ok.mp first
      obtain ⟨rfl, rfl⟩ := ih.mp others
      exact ⟨rfl, rfl⟩
    · rintro ⟨same, rfl⟩
      cases sqls with
      | nil => cases same
      | cons sql sqls =>
        obtain ⟨rfl, rest⟩ := List.cons.inj same
        exact ⟨sql, sqls, p, rfl, rfl, ih.mpr ⟨rest, rfl⟩⟩

/-- Steps whose results are texts. -/
theorem mapM_bind_textual_ok {f : α → Compile Operand} {as : List α} {sqls : List Sql} :
    (as.mapM fun a => do (← f a).textual) p = .ok sqls p' ↔ as.mapM f p = .ok (sqls.map .sql) p' := by
  induction as generalizing sqls p with
  | nil => cases sqls <;> simp [pure_ok]
  | cons a as ih =>
    rw [mapM_cons_ok, mapM_cons_ok]
    constructor
    · rintro ⟨sql, rest, q, rfl, first, others⟩
      obtain ⟨operand, q', own, textual⟩ := bind_ok.mp first
      obtain ⟨rfl, rfl⟩ := textual_ok.mp textual
      exact ⟨.sql sql, rest.map .sql, q', rfl, own, ih.mp others⟩
    · rintro ⟨operand, rest, q, same, first, others⟩
      cases sqls with
      | nil => cases same
      | cons sql sqls =>
        obtain ⟨rfl, rfl⟩ := List.cons.inj same
        exact ⟨sql, sqls, q, rfl, bind_ok.mpr ⟨_, q, first, rfl⟩, ih.mpr others⟩

/-- Steps that always have a result. -/
theorem exists_mapM_ok {f : α → Compile β} {as : List α} (each : ∀ a ∈ as, ∀ p, ∃ b p', f a p = .ok b p')
    (p : Progress) : ∃ bs p', as.mapM f p = .ok bs p' := by
  induction as generalizing p with
  | nil => exact ⟨[], p, rfl⟩
  | cons a as ih =>
    rw [List.forall_mem_cons] at each
    obtain ⟨b, q, first⟩ := each.1 p
    obtain ⟨bs, p', others⟩ := ih each.2 q
    exact ⟨b :: bs, p', mapM_cons_ok.mpr ⟨b, bs, q, rfl, first, others⟩⟩

theorem mapM_length {f : α → Compile β} {as : List α} {bs : List β} (run : as.mapM f p = .ok bs p') :
    bs.length = as.length :=
  (mapM_ok run).length_eq.symm

end Compile

namespace Scope

variable {s : Scope} {p p' : Progress}

open Template (Slot slots interleave weave)

/-- What a binding renders to in its slot, which may be an object. -/
def slotOperand (s : Scope) : Slot × Value → Compile Operand
  | (.value, v) => s.argument v
  | (.identifier, v) => do return .sql (← s.columnize v)

/-- The SQL that a binding renders to in its slot: a placeholder or the SQL of a builder for a value, the columns
that it names for an identifier. -/
def fillSlot (s : Scope) (filling : Slot × Value) : Compile Sql := do
  (← s.slotOperand filling).textual

/-- A template is filled by what its bindings render to, from the left. -/
theorem fillPositional_eq (values : List Value) (parts : List Template.Part) : s.fillPositional values parts = do
    let operands ← ((slots parts).zip values).mapM s.slotOperand
    return (interleave (.sql ∘ Sql.raw) parts operands, (slots parts).length) := by
  fun_induction Scope.fillPositional s values parts with
  | case1 => simp [interleave]
  | case2 values cs parts ih => simp [ih, interleave]
  | case3 value values cs parts ih => simp [ih, interleave, slotOperand]
  | case4 value values cs parts ih => simp [ih, interleave, slotOperand]
  | case5 cs parts ih => simp [ih, interleave]
  | case6 cs parts ih => simp [ih, interleave]

/-- A template renders if it has as many slots as bindings and each binding renders in its slot. -/
theorem positional_ok {template : String} {values : List Value} {sql : Sql} :
    s.positional template values p = .ok sql p' ↔
      (slots (Template.positional template.toList)).length = values.length ∧
      ∃ sqls, ((slots (Template.positional template.toList)).zip values).mapM s.fillSlot p = .ok sqls p' ∧
        sql = weave (Template.positional template.toList) sqls := by
  unfold positional
  generalize Template.positional template.toList = parts
  simp only [fillPositional_eq, bind_assoc, pure_bind]
  have fills {sqls : List Sql} : ((slots parts).zip values).mapM s.fillSlot p = .ok sqls p' ↔
      ((slots parts).zip values).mapM s.slotOperand p = .ok (sqls.map .sql) p' := Compile.mapM_bind_textual_ok
  constructor
  · intro run
    obtain ⟨operands, q, rendered, run⟩ := Compile.bind_ok.mp run
    obtain ⟨texts, q', textual, run⟩ := Compile.bind_ok.mp run
    obtain ⟨all, rfl⟩ := Compile.mapM_textual_ok.mp textual
    split at run
    · obtain ⟨_, _, thrown, -⟩ := Compile.bind_ok.mp run
      exact absurd thrown Compile.throw_ok
    -- The bindings are rendered, as far as there are slots for them, before they are counted.
    next counted =>
      have counted : (slots parts).length = values.length := not_not.mp counted
      obtain ⟨rfl, rfl⟩ := Compile.pure_ok.mp run
      have enough : operands.length ≤ (slots parts).length := by
        rw [Compile.mapM_length rendered, List.length_zip]
        exact Nat.min_le_left ..
      obtain ⟨sqls, rfl⟩ := Template.mem_range_of_interleave enough all
      rw [← Template.map_interleave Operand.sql] at all
      obtain rfl := List.map_injective_iff.mpr (fun _ _ => Operand.sql.inj) all
      exact ⟨counted, sqls, fills.mpr rendered, rfl⟩
  · rintro ⟨counted, sqls, rendered, rfl⟩
    have texts : interleave (Operand.sql ∘ Sql.raw) parts (sqls.map Operand.sql) =
        (interleave Sql.raw parts sqls).map Operand.sql :=
      (Template.map_interleave Operand.sql Sql.raw parts sqls).symm
    refine Compile.bind_ok.mpr ⟨sqls.map .sql, p', fills.mp rendered, ?_⟩
    refine Compile.bind_ok.mpr ⟨interleave Sql.raw parts sqls, p', Compile.mapM_textual_ok.mpr ⟨texts, rfl⟩, ?_⟩
    simp [counted, weave, Compile.pure_ok]

/-! ## Raw expressions -/

/-- A raw expression with a list of bindings renders to its template with the bindings in its slots. -/
theorem rawExpression_positional {client : Client Value} {template : String} {values : List Value}
    (filled : values ≠ []) (defined : (Value.list values).containsUndefined = false) :
    s.rawExpression (.ofValue client (.str template) (.list values)) = do
      return .sql (← s.positional template values) := by
  obtain ⟨first, rest, rfl⟩ := List.exists_cons_of_ne_nil filled
  simp only [rawExpression, surrounded, filledTemplate, Raw.ofValue, Value.rawBindings, RawBindings.toValue, defined]
  simp

end Scope

/-- The scope in which a raw expression on a client is rendered. -/
def Raw.scope (env : Environment) (client : Client Value) : Scope where
  env
  client
  nested := .ofDepth env (nestingLimit - 1)

/-- A compilation succeeds if it does before the texts of its errors are completed. -/
theorem Environment.settled_ok_iff {α : Type} {env : Environment} {c : Compile α} {a : α} {p p' : Progress} :
    env.settled c p = .ok a p' ↔ c p = .ok a p' := by
  refine ⟨Environment.settled_ok, fun run => ?_⟩
  change EStateM.tryCatch c env.fail p = _
  simp [EStateM.tryCatch, run]

/-- A raw expression that renders to SQL compiles to its text and its values. -/
theorem Raw.compile_sql_ok {env : Environment} {client : Client Value} {sql bindings : Value}
    {rendering : Compile Sql} {p p' : Progress} {c : Compiled Value}
    (renders : (Raw.scope env client).rawExpression (.ofValue client sql bindings) = do return .sql (← rendering)) :
    (Raw.ofValue client sql bindings).compile env p = .ok c p' ↔
      ∃ sql, rendering p = .ok sql p' ∧
        c = { sql := sql.text, bindings := sql.bindings, method := "raw", dialect := some client.dialectName } := by
  have steps : env.nested.compiledRaw (.ofValue client sql bindings) = do
      let sql ← rendering
      return { sql := sql.text, bindings := sql.bindings, method := "raw", dialect := some client.dialectName } := by
    change (do
      let operand ← (Raw.scope env client).rawExpression (.ofValue client sql bindings)
      _) = _
    rw [renders]
    simp [Raw.ofValue]
  rw [Raw.compile, Environment.settled_ok_iff, steps, Compile.bind_ok]
  constructor
  · rintro ⟨sql, q, run, result⟩
    obtain ⟨rfl, rfl⟩ := Compile.pure_ok.mp result
    exact ⟨sql, run, rfl⟩
  · rintro ⟨sql, run, rfl⟩
    exact ⟨sql, p', run, rfl⟩

namespace Raw

open Template (pieces slots weave doubledMark)

/-- A raw expression with a list of defined bindings, in whose template no backslash stands before two question
marks, compiles if the template has as many slots as there are bindings and each of them renders. It compiles to the
text of the template with what the bindings render to in the slots, from the left, and to their values. If every
binding renders, the number of slots alone decides. -/
theorem compile_positional {env : Environment} {client : Client Value} {template : String} {values : List Value}
    (filled : values ≠ []) (defined : (Value.list values).containsUndefined = false)
    (apart : ¬ doubledMark <:+: template.toList) :
    (∀ (p p' : Progress) (c : Compiled Value),
      (Raw.ofValue client (.str template) (.list values)).compile env p = .ok c p' ↔
        (slots (pieces template.toList)).length = values.length ∧
        ∃ sqls, ((slots (pieces template.toList)).zip values).mapM (Raw.scope env client).fillSlot p = .ok sqls p' ∧
          c = {
            sql := (weave (pieces template.toList) sqls).text
            bindings := sqls.flatMap Sql.bindings
            method := "raw"
            dialect := some client.dialectName }) ∧
    ((∀ filling ∈ (slots (pieces template.toList)).zip values, ∀ p, ∃ sql p',
        (Raw.scope env client).fillSlot filling p = .ok sql p') →
      ∀ p, (∃ c p', (Raw.ofValue client (.str template) (.list values)).compile env p = .ok c p') ↔
        (slots (pieces template.toList)).length = values.length) := by
  have compiles (p p' : Progress) (c : Compiled Value) :
      (Raw.ofValue client (.str template) (.list values)).compile env p = .ok c p' ↔
        (slots (pieces template.toList)).length = values.length ∧
        ∃ sqls, ((slots (pieces template.toList)).zip values).mapM (Raw.scope env client).fillSlot p = .ok sqls p' ∧
          c = {
            sql := (weave (pieces template.toList) sqls).text
            bindings := sqls.flatMap Sql.bindings
            method := "raw"
            dialect := some client.dialectName } := by
    rw [Raw.compile_sql_ok (Scope.rawExpression_positional filled defined)]
    simp only [Scope.positional_ok, Template.positional_eq_pieces_iff.mpr apart]
    constructor
    · rintro ⟨sql, ⟨counted, sqls, rendered, rfl⟩, rfl⟩
      have bound : sqls.length = (slots (pieces template.toList)).length := by
        rw [Compile.mapM_length rendered, List.length_zip, counted, Nat.min_self]
      exact ⟨counted, sqls, rendered, by rw [Template.bindings_weave bound]⟩
    · rintro ⟨counted, sqls, rendered, rfl⟩
      have bound : sqls.length = (slots (pieces template.toList)).length := by
        rw [Compile.mapM_length rendered, List.length_zip, counted, Nat.min_self]
      exact ⟨_, ⟨counted, sqls, rendered, rfl⟩, by rw [Template.bindings_weave bound]⟩
  refine ⟨compiles, fun each p => ⟨?_, fun counted => ?_⟩⟩
  · rintro ⟨c, p', run⟩
    exact ((compiles p p' c).mp run).1
  · obtain ⟨sqls, p', rendered⟩ := Compile.exists_mapM_ok each p
    exact ⟨_, p', (compiles p p' _).mpr ⟨counted, sqls, rendered, rfl⟩⟩

/-- A question mark that is text before a slot for an identifier and a slot for a value. -/
theorem compile_positional_escaped :
    let client : Client Value := { dialect := .postgres }
    let env : Environment := { client }
    let template := "data \\? 'k' and ?? = ?"
    let values := [Value.str "id", .int 5]
    let raw := Raw.ofValue client (.str template) (.list values)
    (∃ c p' sqls, raw.compile env {} = .ok c p' ∧
      ((slots (pieces template.toList)).zip values).mapM (Raw.scope env client).fillSlot {} = .ok sqls p' ∧
      c.sql = (weave (pieces template.toList) sqls).text) ∧
    ∀ p, (∃ c p', raw.compile env p = .ok c p') ↔ (slots (pieces template.toList)).length = values.length := by
  intro client env template values raw
  have apart : ¬ doubledMark <:+: template.toList := by decide +kernel
  obtain ⟨compiles, counts⟩ := @Raw.compile_positional env client template values nofun rfl apart
  have read : slots (pieces template.toList) = [.identifier, .value] := by decide +kernel
  have each : ∀ filling ∈ (slots (pieces template.toList)).zip values, ∀ p, ∃ sql p',
      (Raw.scope env client).fillSlot filling p = .ok sql p' := by
    rw [read]
    simp only [values, List.zip_cons_cons, List.zip_nil_right, List.forall_mem_cons]
    exact ⟨fun p => ⟨_, _, rfl⟩, fun p => ⟨_, _, rfl⟩, by simp⟩
  obtain ⟨c, p', run⟩ := (counts each {}).mpr (by rw [read]; rfl)
  obtain ⟨-, sqls, rendered, rfl⟩ := (compiles _ _ _).mp run
  exact ⟨⟨_, p', sqls, run, rendered, rfl⟩, counts each⟩

/-- A backslash before two question marks is lost with the first of them, which takes a binding. -/
theorem compile_positional_lost :
    let client : Client Value := { dialect := .postgres }
    let env : Environment := { client }
    let template := "data \\?? and id = ?"
    let values := [Value.str "k", .int 1]
    let raw := Raw.ofValue client (.str template) (.list values)
    slots (pieces template.toList) = [.value, .value] ∧
      (weave (pieces template.toList) (values.map fun v => [.param v])).text = "data \\?? and id = ?" ∧
      (raw.compile env).outcome.1.toOption.map (fun c => (c.sql, c.bindings.map Value.text)) = some
        ("data ? and id = ?", ["k", "1"]) := by
  decide +kernel

end Raw

end SqlBuilder
