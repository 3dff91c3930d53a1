import SqlBuilder.Proofs.NamedTemplates

/-!
# Casts in templates

A cast, two colons and the name of a type, is no reference. In a template with named bindings it is copied, and the
templates before it and behind it are filled as without it, if the name is no key of the mapping and no reference
stands directly behind the cast. The second colon of a cast is read as that of a reference: with the name as a key of
the mapping a value stands in its place, and a reference behind it lends it the second colon of an identifier.

* `Template.closes`: whether the colon behind a key belongs to a reference.
* `Template.named_before_cast`: what stands before a cast is read as without it.
* `Scope.shown_cast`: a template with a cast is filled.
* `Raw.compile_cast`: the compiled form of a raw expression with a cast.
-/

namespace SqlBuilder

open Text (isWord)

/-! ## Reading -/

namespace Template

/-- Whether the colon behind a key belongs to the reference, which is one to an identifier then. -/
def closes : List Char → Bool
  | ':' :: ':' :: ':' :: _ => true
  | ':' :: ':' :: _ => false
  | ':' :: _ => true
  | _ => false

theorem closes_append {tail rest : List Char} (colon : rest.head? ≠ some ':') (open_ : tail ≠ [':', ':']) :
    closes (tail ++ ':' :: ':' :: rest) = closes tail := by
  match tail with
  | [] =>
    cases rest with
    | nil => rfl
    | cons c rest => simp_all [closes]
  | [c] =>
    by_cases here : c = ':'
    · subst here
      rfl
    · simp [closes, here]
  | [c, d] =>
    by_cases here : c = ':'
    · subst here
      have next : d ≠ ':' := fun same => open_ (by rw [same])
      simp [closes, next]
    · simp [closes, here]
  | c :: d :: e :: tail =>
    by_cases first : c = ':' <;> by_cases second : d = ':' <;> by_cases third : e = ':' <;>
      simp [closes, first, second, third]

theorem drop_word (cs : List Char) : cs.drop (cs.takeWhile isWord).length = cs.dropWhile isWord := by
  induction cs with
  | nil => rfl
  | cons c cs ih => by_cases word : isWord c = true <;> simp [word, ih]

/-- A slot is a key and the colon behind it, if this one belongs to it. -/
theorem slot?_eq (cs : List Char) :
    slot? cs =
      if cs.takeWhile isWord = [] then none
      else if closes (cs.dropWhile isWord) then some (.identifier (cs.takeWhile isWord), (cs.takeWhile isWord).length + 1)
      else some (.value (cs.takeWhile isWord), (cs.takeWhile isWord).length) := by
  unfold slot?
  simp only [drop_word, List.isEmpty_iff]
  generalize cs.dropWhile isWord = tail
  unfold closes
  split
  · rfl
  · split <;> simp

/-- Words end before a colon. -/
theorem splitWord_colon (cs rest : List Char) :
    (cs ++ ':' :: rest).takeWhile isWord = cs.takeWhile isWord ∧
      (cs ++ ':' :: rest).dropWhile isWord = cs.dropWhile isWord ++ ':' :: rest := by
  have colon : isWord ':' = false := by decide
  induction cs with
  | nil => simp [colon]
  | cons c cs ih => by_cases word : isWord c = true <;> simp [word, ih]

/-- A slot before a cast is the one without it. -/
theorem slot?_append {cs rest : List Char} (colon : rest.head? ≠ some ':') (open_ : ¬ [':', ':'] <:+ cs) :
    slot? (cs ++ ':' :: ':' :: rest) = slot? cs := by
  obtain ⟨key, tail⟩ := splitWord_colon cs (':' :: rest)
  have other : cs.dropWhile isWord ≠ [':', ':'] := fun same => open_ (same ▸ List.dropWhile_suffix isWord)
  rw [slot?_eq, slot?_eq, key, tail, closes_append colon other]

theorem slot?_width {cs : List Char} {part : NamedPart} {width : Nat} (h : slot? cs = some (part, width)) :
    width ≤ cs.length := by
  have parts : (cs.takeWhile isWord).length + (cs.dropWhile isWord).length = cs.length := by
    rw [← List.length_append, List.takeWhile_append_dropWhile]
  rw [slot?_eq] at h
  split_ifs at h with none_ closed
  · obtain ⟨-, rfl⟩ := Prod.mk.inj (Option.some.inj h)
    have behind : cs.dropWhile isWord ≠ [] := fun same => by simp [same, closes] at closed
    have counted : 0 < (cs.dropWhile isWord).length := List.length_pos_of_ne_nil behind
    omega
  · obtain ⟨-, rfl⟩ := Prod.mk.inj (Option.some.inj h)
    omega

/-- Where a text does not end, a part of it is read. -/
theorem exists_namedPart? {cs : List Char} (filled : cs ≠ []) :
    ∃ part width, namedPart? cs = some (part, width) ∧ 0 < width ∧ width ≤ cs.length := by
  unfold namedPart?
  split
  · exact absurd rfl filled
  · split
    next part width read => exact ⟨_, _, rfl, by omega, by simpa using slot?_width read⟩
    next => exact ⟨_, _, rfl, by omega, by simp⟩
  · split
    next part width read => exact ⟨_, _, rfl, by omega, by simpa using slot?_width read⟩
    next => exact ⟨_, _, rfl, by omega, by simp⟩
  · exact ⟨_, _, rfl, by omega, by simp⟩

/-- A part is read and then the rest. -/
theorem named_of_namedPart? {cs : List Char} {part : NamedPart} {width : Nat}
    (read : namedPart? cs = some (part, width)) (forth : 0 < width) (within : width ≤ cs.length) :
    named cs = part :: named (cs.drop width) := by
  have token : (cs.take width).length = width := List.length_take_of_le within
  have filled : cs.take width ≠ [] := List.ne_nil_of_length_pos (by omega)
  have first : namedPart? (cs.take width ++ cs.drop width) = some (part, (cs.take width).length) := by
    rw [List.take_append_drop, read, token]
  have whole := Text.tokens_append_some filled first
  rwa [List.take_append_drop] at whole

/-! ### Before a cast -/

/-- What is read at the beginning of a template before a cast is what is read there without it. -/
theorem namedPart?_append {cs rest : List Char} (filled : cs ≠ []) (colon : rest.head? ≠ some ':')
    (open_ : ¬ [':', ':'] <:+ cs) : namedPart? (cs ++ ':' :: ':' :: rest) = namedPart? cs := by
  obtain ⟨c, cs, rfl⟩ := List.exists_cons_of_ne_nil filled
  have behind : ¬ [':', ':'] <:+ cs := fun last => open_ (last.trans (List.suffix_cons c cs))
  by_cases opens : c = ':'
  · subst opens
    simp only [List.cons_append, namedPart?, slot?_append colon behind]
  by_cases escapes : c = '\\'
  · subst escapes
    cases cs with
    | nil =>
      have none_ : slot? (':' :: rest) = none := by
        rw [slot?_eq, if_pos]
        exact List.takeWhile_cons_of_neg (by decide)
      simp [namedPart?, none_]
    | cons d cs =>
      by_cases opens : d = ':'
      · subst opens
        have behind : ¬ [':', ':'] <:+ cs := fun last => behind (last.trans (List.suffix_cons ':' cs))
        simp only [List.cons_append, namedPart?, slot?_append colon behind]
        cases read : slot? cs with
        | none => rfl
        | some slot =>
          obtain ⟨part, width⟩ := slot
          simp only [List.take_append_of_le_length (slot?_width read)]
      · simp [namedPart?, opens]
  · simp [namedPart?, escapes]

/-- A template before a cast is read as without it, unless it ends with two colons itself. -/
theorem named_before_cast {cs rest : List Char} (colon : rest.head? ≠ some ':') (open_ : ¬ [':', ':'] <:+ cs) :
    named (cs ++ ':' :: ':' :: rest) = named cs ++ named (':' :: ':' :: rest) := by
  by_cases filled : cs = []
  · subst filled
    rfl
  · obtain ⟨part, width, read, forth, within⟩ := exists_namedPart? filled
    have same : namedPart? (cs ++ ':' :: ':' :: rest) = some (part, width) := by
      rw [namedPart?_append filled colon open_, read]
    have fewer : (cs.drop width).length < cs.length := by
      rw [List.length_drop]
      omega
    have others := named_before_cast colon fun last => open_ (last.trans (List.drop_suffix width cs))
    rw [named_of_namedPart? same forth (by rw [List.length_append]; omega), named_of_namedPart? read forth within,
      List.drop_append_of_le_length within, others, List.cons_append]
termination_by cs.length

/-! ### The cast itself -/

/-- A template that begins with a reference. -/
def Refers (cs : List Char) : Prop :=
  ∃ c rest, cs = ':' :: c :: rest ∧ isWord c = true

/-- A colon without a key behind it is text. -/
theorem named_colon {cs : List Char} (keyless : ∀ c ∈ cs.head?, isWord c = false) :
    named (':' :: cs) = .text [':'] :: named cs := by
  have none_ : slot? cs = none := by
    rw [slot?_eq, if_pos]
    cases cs with
    | nil => rfl
    | cons c cs => exact List.takeWhile_cons_of_neg (by simp [keyless c rfl])
  have read : namedPart? (':' :: cs) = some (.text [':'], 1) := by rw [namedPart?, none_]
  exact named_of_namedPart? read (by decide) (by simp)

theorem exists_of_closes {cs : List Char} (h : closes cs = true) : ∃ rest, cs = ':' :: rest := by
  unfold closes at h
  split at h
  · exact ⟨_, rfl⟩
  · cases h
  · exact ⟨_, rfl⟩
  · cases h

/-- The name of a cast is read as the key of a reference, and a colon behind it may be read as the one that closes
the reference. -/
theorem named_cast_name {name cs : List Char} (filled : name ≠ []) (word : ∀ c ∈ name, isWord c = true)
    (ends : ∀ c ∈ cs.head?, isWord c = false) :
    named (':' :: name ++ cs) = .value name :: named cs ∨
      ∃ rest, cs = ':' :: rest ∧ named (':' :: name ++ cs) = .identifier name :: named rest := by
  have key : (name ++ cs).takeWhile isWord = name := takeWhile_key word ends
  have tail : (name ++ cs).dropWhile isWord = cs := by rw [← drop_word, key, List.drop_left]
  have slot := slot?_eq (name ++ cs)
  rw [key, if_neg filled, tail] at slot
  by_cases closed : closes cs = true
  · obtain ⟨rest, rfl⟩ := exists_of_closes closed
    rw [if_pos closed] at slot
    have read : namedPart? (':' :: name ++ ':' :: rest) = some (.identifier name, name.length + 1 + 1) := by
      rw [List.cons_append, namedPart?, slot]
    refine .inr ⟨rest, rfl, ?_⟩
    rw [named_of_namedPart? read (by omega) (by simp)]
    simp
  · rw [if_neg closed] at slot
    have read : namedPart? (':' :: name ++ cs) = some (.value name, name.length + 1) := by
      rw [List.cons_append, namedPart?, slot]
    refine .inl ?_
    rw [named_of_namedPart? read (by omega) (by simp)]
    simp

end Template

/-! ## Filling -/

namespace Scope

open Template (NamedPart)

variable {s : Scope} {entries : List (Value × Value)}

/-- The text and the values of some parts of a template, with the bindings in the slots. -/
def shown (s : Scope) (entries : List (Value × Value)) (parts : List NamedPart) : Compile (String × List Value) := do
  let sqls ← parts.mapM (s.fillNamed entries)
  return (Sql.text sqls.flatten, Sql.bindings sqls.flatten)

/-- A template with the mapping is shown part by part. -/
theorem shown_named (template : String) :
    s.shown entries (Template.named template.toList) = do
      let sql ← s.named template entries
      return (sql.text, sql.bindings) := by
  simp [shown, named]

theorem shown_append (parts others : List NamedPart) :
    s.shown entries (parts ++ others) = do
      let (text, values) ← s.shown entries parts
      let (text', values') ← s.shown entries others
      return (text ++ text', values ++ values') := by
  simp [shown, List.mapM_append, Sql.text_append]

theorem shown_cons (part : NamedPart) (parts : List NamedPart) :
    s.shown entries (part :: parts) = do
      let sql ← s.fillNamed entries part
      let (text, values) ← s.shown entries parts
      return (sql.text ++ text, sql.bindings ++ values) := by
  simp [shown, Sql.text_append]

theorem shown_text (cs : List Char) (parts : List NamedPart) :
    s.shown entries (.text cs :: parts) = do
      let (text, values) ← s.shown entries parts
      return (String.ofList cs ++ text, values) := by
  simp [shown_cons, fillNamed, Sql.text_raw]

/-- A reference to a key that the mapping does not have keeps its text. -/
theorem shown_absent {part : NamedPart} {key : List Char} (refers : part = .value key ∨ part = .identifier key)
    (absent : Value.get? (String.ofList key) entries = none) (parts : List NamedPart) :
    s.shown entries (part :: parts) = s.shown entries (.text part.named :: parts) := by
  rw [shown_cons, shown_cons]
  rcases refers with rfl | rfl <;> simp [fillNamed, absent, NamedPart.named]

/-- A cast whose name is no key of the mapping keeps its text between the templates before it and behind it, if no
reference stands directly behind it. -/
theorem shown_cast {front name back : List Char} (open_ : ¬ [':', ':'] <:+ front) (filled : name ≠ [])
    (word : ∀ c ∈ name, isWord c = true) (ends : ∀ c ∈ back.head?, isWord c = false)
    (absent : Value.get? (String.ofList name) entries = none) (apart : ¬ Template.Refers back) :
    s.shown entries (Template.named (front ++ ':' :: ':' :: (name ++ back))) = do
      let (text, values) ← s.shown entries (Template.named front)
      let (text', values') ← s.shown entries (Template.named back)
      return (text ++ ("::" ++ String.ofList name ++ text'), values ++ values') := by
  have keyless : ∀ c ∈ (':' :: (name ++ back)).head?, isWord c = false := by
    rintro _ ⟨⟩
    decide
  have first : (name ++ back).head? ≠ some ':' := by
    obtain ⟨c, name, rfl⟩ := List.exists_cons_of_ne_nil filled
    have letter := word c List.mem_cons_self
    rintro ⟨⟩
    exact absurd letter (by decide)
  have here : s.shown entries (Template.named (':' :: (name ++ back))) = do
      let (text, values) ← s.shown entries (Template.named back)
      return (":" ++ String.ofList name ++ text, values) := by
    rcases Template.named_cast_name filled word ends with read | ⟨rest, rfl, read⟩
    · rw [List.cons_append] at read
      rw [read, shown_absent (.inl rfl) absent, shown_text]
      simp [NamedPart.named, String.ofList_cons]
    · -- The colon that closes the reference is a text of its own without the cast.
      have alone : Template.named (':' :: rest) = .text [':'] :: Template.named rest := by
        refine Template.named_colon fun c first => ?_
        obtain ⟨rest, rfl⟩ := List.head?_eq_some_iff.mp first
        exact Bool.eq_false_iff.mpr fun letter => apart ⟨c, rest, rfl, letter⟩
      rw [List.cons_append] at read
      rw [read, shown_absent (.inr rfl) absent, alone, shown_text, shown_text]
      simp [NamedPart.named, String.append_assoc]
  have colons (text : String) : ":" ++ (":" ++ text) = "::" ++ text := by
    rw [← String.append_assoc]
    rfl
  rw [Template.named_before_cast first open_, shown_append, Template.named_colon keyless, shown_text, here]
  simp [colons, String.append_assoc]

end Scope

/-! ## Raw expressions -/

namespace Raw

/-- A raw expression with a mapping, and with texts put around it, which has its other settings from another one. -/
def bound (r : Raw Value) (client : Client Value) (template : String) (entries : List (Value × Value))
    (opening closing : Option String) : Raw Value :=
  { r with
    client := some client
    sql := .str template
    bindings := .named entries
    before := opening.map .str
    after := closing.map .str
    reference := none }

variable {env : Environment} {client : Client Value} {entries : List (Value × Value)}

/-- A text beside a raw expression is a fragment; without one, or with an empty one, nothing stands there. -/
theorem exists_margin (margin : Option String) :
    ∃ own : Sql, own.text = margin.getD "" ∧ own.bindings = [] ∧
      ((margin.map Value.str).filter Value.isTruthy = none ∧ own = [] ∨
        ∃ v, (margin.map Value.str).filter Value.isTruthy = some v ∧ Scope.ofValue v = .sql own) := by
  cases margin with
  | none => exact ⟨[], rfl, rfl, .inl ⟨rfl, rfl⟩⟩
  | some text =>
    by_cases empty : text = ""
    · subst empty
      exact ⟨[], rfl, rfl, .inl ⟨rfl, rfl⟩⟩
    · have present : (Value.str text).isTruthy = true := by simpa [Value.isTruthy, Scalar.isTruthy] using empty
      exact ⟨Sql.raw text, Sql.text_raw text, rfl, .inr ⟨.str text, by simp [Option.filter, present], rfl⟩⟩

/-- The texts around a raw expression are a part of its text and bind nothing. -/
theorem surrounded_bound (s : Scope) (client : Client Value) (r : Raw Value) (template : String)
    (entries : List (Value × Value)) (opening closing : Option String) :
    ∃ before after : Sql,
      (∀ sql : Sql, (before ++ sql ++ after).text = opening.getD "" ++ sql.text ++ closing.getD "" ∧
        (before ++ sql ++ after).bindings = sql.bindings) ∧
      s.surrounded (r.bound client template entries opening closing) = do
        return .sql (before ++ (← s.named template entries) ++ after) := by
  obtain ⟨before, first, unbound, given⟩ := exists_margin opening
  obtain ⟨after, last, unbound', given'⟩ := exists_margin closing
  refine ⟨before, after, fun sql => ⟨?_, ?_⟩, ?_⟩
  · rw [Sql.text_append, Sql.text_append, first, last]
  · rw [Sql.bindings_append, Sql.bindings_append, unbound, unbound', List.nil_append, List.append_nil]
  · rcases given with ⟨none_, rfl⟩ | ⟨v, some_, own⟩ <;> rcases given' with ⟨none_', rfl⟩ | ⟨v', some_', own'⟩ <;>
      simp [Scope.surrounded, Scope.filledTemplate, bound, Scope.follow, *]

/-- A raw expression with a mapping compiles to its template, filled and between the texts around it. With an undefined
value in the mapping it is refused. -/
theorem compile_bound (r : Raw Value) (template : String) (opening closing : Option String) :
    (r.bound client template entries opening closing).compile env = env.settled do
      let (text, values) ← (Raw.scope env client).shown entries (Template.named template.toList)
      let sql := opening.getD "" ++ text ++ closing.getD ""
      if (Value.map entries).containsUndefined then
        throw (.undefinedInRaw (Value.map entries).undefinedKeys sql)
      return {
        sql
        bindings := values
        method := "raw"
        options := r.options
        timeout := r.timeout
        cancelOnTimeout := r.cancelOnTimeout
        dialect := some client.dialectName } := by
  obtain ⟨before, after, seen, surrounds⟩ :=
    surrounded_bound (Raw.scope env client) client r template entries opening closing
  have steps : env.nested.compiledRaw (r.bound client template entries opening closing) = do
      let sql ← (Raw.scope env client).named template entries
      if (Value.map entries).containsUndefined then
        throw (.undefinedInRaw (Value.map entries).undefinedKeys (before ++ sql ++ after).text)
      return {
        sql := (before ++ sql ++ after).text
        bindings := (before ++ sql ++ after).bindings
        method := "raw"
        options := r.options
        timeout := r.timeout
        cancelOnTimeout := r.cancelOnTimeout
        dialect := some client.dialectName } := by
    change (do
      let operand ← (Raw.scope env client).rawExpression (r.bound client template entries opening closing)
      _) = _
    unfold Scope.rawExpression
    change (do
      let operand ← (do
        let operand ← (Raw.scope env client).surrounded (r.bound client template entries opening closing)
        _)
      _) = _
    rw [surrounds]
    by_cases undefined : (Value.map entries).containsUndefined = true
    · simp [bound, RawBindings.toValue, undefined, Scope.spell]
    · simp [bound, RawBindings.toValue, undefined]
  rw [compile, steps, Scope.shown_named]
  simp only [fun sql => (seen sql).1, fun sql => (seen sql).2, bind_assoc, pure_bind]

/-- A cast in the template of a raw expression with a mapping is copied and binds nothing, and the templates before it
and behind it are filled as they are alone: if its name is no key of the mapping, and no reference stands directly
behind it. -/
theorem compile_cast {front name back : String} (open_ : ¬ [':', ':'] <:+ front.toList) (filled : name ≠ "")
    (word : ∀ c ∈ name.toList, isWord c = true) (ends : ∀ c ∈ back.toList.head?, isWord c = false)
    (absent : Value.get? name entries = none) (apart : ¬ Template.Refers back.toList) (r : Raw Value)
    (opening closing : Option String) :
    let s := Raw.scope env client
    (r.bound client (front ++ "::" ++ name ++ back) entries opening closing).compile env = env.settled do
      let before ← s.named front entries
      let after ← s.named back entries
      let sql := opening.getD "" ++ (before.text ++ "::" ++ name ++ after.text) ++ closing.getD ""
      if (Value.map entries).containsUndefined then
        throw (.undefinedInRaw (Value.map entries).undefinedKeys sql)
      return {
        sql
        bindings := before.bindings ++ after.bindings
        method := "raw"
        options := r.options
        timeout := r.timeout
        cancelOnTimeout := r.cancelOnTimeout
        dialect := some client.dialectName } := by
  intro s
  have written : (front ++ "::" ++ name ++ back).toList =
      front.toList ++ ':' :: ':' :: (name.toList ++ back.toList) := by simp
  have named : name.toList ≠ [] := by simpa using filled
  have key : Value.get? (String.ofList name.toList) entries = none := by rwa [String.ofList_toList]
  rw [compile_bound, written, Scope.shown_cast open_ named word ends key apart, Scope.shown_named, Scope.shown_named]
  simp only [bind_assoc, pure_bind, String.ofList_toList, String.append_assoc]
  rfl

/-- A cast behind a reference to an identifier, in a template with another cast before it. -/
theorem compile_cast_identifier :
    let client : Client Value := { dialect := .postgres }
    let env : Environment := { client }
    let entries := [(Value.str "val", Value.str "2024-01-02"), (.str "col", .str "id")]
    let front := "select :val::date, :col:"
    let raw := (Raw.ofText client "").bound client (front ++ "::" ++ "text" ++ " from t") entries none none
    ¬ [':', ':'] <:+ front.toList ∧
      raw.compile env = (env.settled do
        let before ← (Raw.scope env client).named front entries
        let after ← (Raw.scope env client).named " from t" entries
        return {
          sql := "" ++ (before.text ++ "::" ++ "text" ++ after.text) ++ ""
          bindings := before.bindings ++ after.bindings
          method := "raw"
          dialect := some "postgres" }) ∧
      (raw.compile env).outcome.1.toOption.map (fun c => (c.sql, c.bindings.map Value.text)) = some
        ("select ?::date, \"id\"::text from t", ["2024-01-02"]) := by
  intro client env entries front raw
  have open_ : ¬ [':', ':'] <:+ front.toList := by decide +kernel
  have apart : ¬ Template.Refers " from t".toList := by
    rintro ⟨c, rest, whole, -⟩
    simp at whole
  have copied := @Raw.compile_cast env client entries front "text" " from t" open_ (by decide) (by decide +kernel)
    (by decide +kernel) (by decide +kernel) apart (Raw.ofText client "") none none
  exact ⟨open_, copied, by decide +kernel⟩

/-- A cast whose name is a key of the mapping is replaced, and one with a reference directly behind it takes the colon
of that. -/
theorem compile_cast_replaced :
    let client : Client Value := { dialect := .postgres }
    let env : Environment := { client }
    let compiled (template : String) (entries : List (Value × Value)) :=
      ((Raw.ofValue client (.str template) (.map entries)).compile env).outcome.1.toOption.map fun c =>
        (c.sql, c.bindings.map Value.text)
    compiled "select :val::date" [(.str "val", .int 1), (.str "date", .int 2)] = some ("select ?:?", ["1", "2"]) ∧
      compiled "select a::text:val" [(.str "val", .int 1)] = some ("select a::text:val", []) := by
  decide +kernel

end Raw

end SqlBuilder
