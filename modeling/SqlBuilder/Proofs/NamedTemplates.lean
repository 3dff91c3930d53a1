import SqlBuilder.Proofs.Guarded
import SqlBuilder.Proofs.NullConstraints
import SqlBuilder.Proofs.PositionalTemplates

/-!
# Named and positional templates

A template with named bindings and a template with positional bindings are two ways to write one sequence of texts
and references. A raw expression with the mapping compiles to what a raw expression with the list of the referenced
values compiles to, if it compiles: the same text, the same values and the same use of the compilation's progress.

* `Template.NamedPart.named`, `Template.NamedPart.marked`: how a part is written in the two kinds of templates.
* `Template.NamedPart.Proper`, `Template.NamedPart.Before`: the sequences that both kinds can express.
* `Template.named_written`, `Template.positional_written`: both templates are read as the sequence.
* `Scope.named_written`: the template with the mapping renders to what its bindings render to in their slots.
* `Raw.compile_named`: the two raw expressions compile to the same.
-/

namespace SqlBuilder

open Text (isWord)

theorem Sql.text_raw (text : String) : (Sql.raw text).text = text :=
  Sql.text_word text

/-! ## The two templates -/

namespace Text

theorem tokens_append_some {κ : Type} {read : List Char → Option (κ × Nat)} {k : κ} {token rest : List Char}
    (filled : token ≠ []) (h : read (token ++ rest) = some (k, token.length)) :
    tokens read (token ++ rest) = k :: tokens read rest := by
  rw [tokens, scan_append_some filled h]
  rfl

/-- A run of characters of a class ends where a character is none of the class. -/
theorem takeWhile_run {p : Char → Bool} {run rest : List Char} (all : ∀ c ∈ run, p c = true)
    (ends : ∀ c ∈ rest.head?, p c = false) : (run ++ rest).takeWhile p = run := by
  rw [List.takeWhile_append_of_pos all]
  cases rest with
  | nil => simp
  | cons c rest => simp [ends c rfl]

end Text

namespace Template

namespace NamedPart

/-- A part as it is written in a template with named bindings. -/
def named : NamedPart → List Char
  | text cs => cs
  | value key => ':' :: key
  | identifier key => ':' :: key ++ [':']

/-- A part as it is written in a template with positional bindings. -/
def marked : NamedPart → List Char
  | text cs => cs
  | value _ => ['?']
  | identifier _ => ['?', '?']

/-- What a template with named bindings reads where a part is written: single characters, or a reference. -/
def read : NamedPart → List NamedPart
  | text cs => cs.map fun c => .text [c]
  | part => [part]

/-- What a template with positional bindings reads where a part is written: single characters, or a slot. -/
def readMarked : NamedPart → List Part
  | text cs => cs.map fun c => .text [c]
  | value _ => [.value ['?']]
  | identifier _ => [.identifier ['?', '?']]

/-- The value that a part refers to in a mapping. -/
def target? (entries : List (Value × Value)) : NamedPart → Option Value
  | text _ => none
  | value key | identifier key => Value.get? (String.ofList key) entries

/-- A text without the characters of slots, or a reference to a key of a mapping, which is a word. -/
def Proper (entries : List (Value × Value)) : NamedPart → Prop
  | text cs => cs ≠ [] ∧ ':' ∉ cs ∧ '?' ∉ cs ∧ '\\' ∉ cs
  | value key | identifier key =>
    key ≠ [] ∧ (∀ c ∈ key, isWord c = true) ∧ (Value.get? (String.ofList key) entries).isSome = true

/-- A part that may stand before another one: behind a reference stands a text, which does not go on with its
key. -/
def Before : NamedPart → NamedPart → Prop
  | text _, _ => True
  | _, text cs => ∀ c ∈ cs.head?, isWord c = false
  | _, _ => False

instance (entries : List (Value × Value)) (part : NamedPart) : Decidable (part.Proper entries) := by
  cases part <;> exact inferInstanceAs (Decidable (_ ∧ _))

instance (part next : NamedPart) : Decidable (part.Before next) := by
  cases part <;> cases next <;> unfold Before <;> infer_instance

end NamedPart

open NamedPart (Before)

variable {entries : List (Value × Value)} {parts : List NamedPart}

/-- Behind a reference a sequence ends or goes on with a text. -/
theorem text_of_before {part next : NamedPart} (reference : ∀ cs, part ≠ .text cs) (h : part.Before next) :
    ∃ cs, next = .text cs ∧ ∀ c ∈ cs.head?, isWord c = false := by
  cases next with
  | text cs =>
    cases part with
    | text ds => exact absurd rfl (reference ds)
    | value key | identifier key => exact ⟨cs, rfl, h⟩
  | value key | identifier key =>
    cases part with
    | text ds => exact absurd rfl (reference ds)
    | value key' | identifier key' => exact h.elim

/-- The character behind a reference neither goes on with its key nor begins or ends a slot. -/
theorem head_of_before {part : NamedPart} (reference : ∀ cs, part ≠ .text cs) (chained : (part :: parts).IsChain Before)
    (proper : ∀ part ∈ parts, part.Proper entries) :
    (∀ c ∈ (parts.flatMap NamedPart.named).head?, isWord c = false ∧ c ≠ ':') ∧
      ∀ c ∈ (parts.flatMap NamedPart.marked).head?, c ≠ '?' := by
  cases parts with
  | nil => simp
  | cons next parts =>
    obtain ⟨cs, rfl, apart⟩ := text_of_before reference (List.isChain_cons_cons.mp chained).1
    obtain ⟨filled, colon, mark, -⟩ := proper (.text cs) List.mem_cons_self
    obtain ⟨c, cs, rfl⟩ := List.exists_cons_of_ne_nil filled
    have first : isWord c = false := apart c rfl
    constructor
    · rintro _ ⟨⟩
      exact ⟨first, fun same => colon (same ▸ List.mem_cons_self)⟩
    · rintro _ ⟨⟩
      exact fun same => mark (same ▸ List.mem_cons_self)

/-! ### Named bindings -/

/-- A text without the characters of slots is read character by character. -/
theorem named_text {cs rest : List Char} (colon : ':' ∉ cs) (escape : '\\' ∉ cs) :
    Template.named (cs ++ rest) = (NamedPart.text cs).read ++ Template.named rest := by
  induction cs with
  | nil => rfl
  | cons c cs ih =>
    rw [List.mem_cons, not_or] at colon escape
    have first : namedPart? ([c] ++ (cs ++ rest)) = some (.text [c], 1) := by
      rw [List.singleton_append, namedPart?]
      · rintro ds same -
        exact escape.1 same.symm
      · exact fun same => colon.1 same.symm
    have rest_ := ih colon.2 escape.2
    rw [Template.named] at rest_ ⊢
    rw [List.cons_append, ← List.singleton_append, Text.tokens_append_some (by simp) first, rest_]
    rfl

/-- The characters of a key end where a character is none of a word. -/
theorem takeWhile_key {key rest : List Char} (word : ∀ c ∈ key, isWord c = true)
    (ends : ∀ c ∈ rest.head?, isWord c = false) : (key ++ rest).takeWhile isWord = key :=
  Text.takeWhile_run word ends

/-- A reference to a value is read as such. -/
theorem named_value {key rest : List Char} (filled : key ≠ []) (word : ∀ c ∈ key, isWord c = true)
    (ends : ∀ c ∈ rest.head?, isWord c = false ∧ c ≠ ':') :
    Template.named (':' :: key ++ rest) = .value key :: Template.named rest := by
  refine Text.tokens_append_some (List.cons_ne_nil _ _) ?_
  have taken : (key ++ rest).takeWhile isWord = key := takeWhile_key word fun c hc => (ends c hc).1
  have here : slot? (key ++ rest) = some (.value key, key.length) := by
    unfold slot?
    simp only [taken, List.isEmpty_iff, filled, if_false, List.drop_left]
    cases rest with
    | nil => rfl
    | cons c rest =>
      have other : c ≠ ':' := (ends c rfl).2
      split
      · simp_all
      · simp_all
      · simp_all
      · rfl
  rw [List.cons_append, namedPart?, here]
  rfl

/-- A reference to an identifier is read as such. -/
theorem named_identifier {key rest : List Char} (filled : key ≠ []) (word : ∀ c ∈ key, isWord c = true)
    (ends : ∀ c ∈ rest.head?, isWord c = false ∧ c ≠ ':') :
    Template.named (':' :: key ++ [':'] ++ rest) = .identifier key :: Template.named rest := by
  refine Text.tokens_append_some (by simp) ?_
  have colon : isWord ':' = false := by decide
  have taken : (key ++ ':' :: rest).takeWhile isWord = key :=
    takeWhile_key word (by rintro _ ⟨⟩; exact colon)
  have here : slot? (key ++ ':' :: rest) = some (.identifier key, key.length + 1) := by
    unfold slot?
    simp only [taken, List.isEmpty_iff, filled, if_false, List.drop_left]
    cases rest with
    | nil => rfl
    | cons c rest =>
      have other : c ≠ ':' := (ends c rfl).2
      split
      · rfl
      · simp_all
      · rfl
      · simp_all
  rw [List.append_assoc, List.singleton_append, List.cons_append, namedPart?, here]
  simp

/-- A template with named bindings is read as the sequence that is written in it. -/
theorem named_written (chained : parts.IsChain Before) (proper : ∀ part ∈ parts, part.Proper entries) :
    Template.named (parts.flatMap NamedPart.named) = parts.flatMap NamedPart.read := by
  induction parts with
  | nil => rfl
  | cons part parts ih =>
    rw [List.forall_mem_cons] at proper
    have others := ih chained.tail proper.2
    rw [List.flatMap_cons, List.flatMap_cons, ← others]
    cases part with
    | text cs =>
      obtain ⟨-, colon, -, escape⟩ := proper.1
      exact named_text colon escape
    | value key =>
      obtain ⟨filled, word, -⟩ := proper.1
      exact named_value filled word (head_of_before (by simp) chained proper.2).1
    | identifier key =>
      obtain ⟨filled, word, -⟩ := proper.1
      exact named_identifier filled word (head_of_before (by simp) chained proper.2).1

/-! ### Positional bindings -/

/-- A text without the characters of slots is read character by character. -/
theorem positional_text {cs rest : List Char} (mark : '?' ∉ cs) (escape : '\\' ∉ cs) :
    positional (cs ++ rest) = (NamedPart.text cs).readMarked ++ positional rest := by
  induction cs with
  | nil => rfl
  | cons c cs ih =>
    rw [List.mem_cons, not_or] at mark escape
    rw [List.cons_append, positional, ih mark.2 escape.2]
    · rfl
    · exact fun _ same _ => escape.1 same.symm
    · exact fun _ same _ => escape.1 same.symm
    · exact fun _ same _ => mark.1 same.symm
    · exact fun same => mark.1 same.symm

/-- A template with positional bindings is read as the sequence that is written in it. -/
theorem positional_written (chained : parts.IsChain Before) (proper : ∀ part ∈ parts, part.Proper entries) :
    positional (parts.flatMap NamedPart.marked) = parts.flatMap NamedPart.readMarked := by
  induction parts with
  | nil => rfl
  | cons part parts ih =>
    rw [List.forall_mem_cons] at proper
    have others := ih chained.tail proper.2
    rw [List.flatMap_cons, List.flatMap_cons, ← others]
    cases part with
    | text cs =>
      obtain ⟨-, -, mark, escape⟩ := proper.1
      exact positional_text mark escape
    | value key =>
      have ends := (head_of_before (by simp) chained proper.2).2
      change positional ('?' :: parts.flatMap NamedPart.marked) = _
      rw [positional]
      · rfl
      · intro cs same
        exact ends '?' (by rw [same]; rfl) rfl
    | identifier key => rfl

/-- Texts have no slots. -/
theorem slots_readMarked_text (cs : List Char) (rest : List Part) :
    slots ((NamedPart.text cs).readMarked ++ rest) = slots rest := by
  induction cs with
  | nil => rfl
  | cons c cs ih => exact ih

/-- A template that begins with a text. -/
theorem weave_readMarked_text (cs : List Char) (rest : List Part) (sqls : List Sql) :
    weave ((NamedPart.text cs).readMarked ++ rest) sqls =
      (cs.map fun c => Sql.raw (String.ofList [c])).flatten ++ weave rest sqls := by
  induction cs with
  | nil => rfl
  | cons c cs ih =>
    rw [List.map_cons, List.flatten_cons, List.append_assoc, ← ih]
    rfl

/-- A sequence has a slot for each value that it refers to. -/
theorem length_slots_readMarked (proper : ∀ part ∈ parts, part.Proper entries) :
    (slots (parts.flatMap NamedPart.readMarked)).length = (parts.filterMap (NamedPart.target? entries)).length := by
  induction parts with
  | nil => rfl
  | cons part parts ih =>
    rw [List.forall_mem_cons] at proper
    have others := ih proper.2
    cases part with
    | text cs =>
      rw [List.flatMap_cons, slots_readMarked_text, List.filterMap_cons_none rfl]
      exact others
    | value key | identifier key =>
      obtain ⟨v, found⟩ := Option.isSome_iff_exists.mp proper.1.2.2
      simp [NamedPart.readMarked, NamedPart.target?, found, others]

/-- A template whose slots have nothing in them keeps its text. -/
theorem text_weave_nil (cs : List Char) : (weave (positional cs) []).text = String.ofList cs := by
  have kept (ds : List Char) (rest : List Part) (part : Part)
      (here : interleave Sql.raw (part :: rest) [] = Sql.raw (String.ofList ds) :: interleave Sql.raw rest []) :
      (weave (part :: rest) []).text = String.ofList ds ++ (weave rest []).text := by
    rw [weave, here, List.flatten_cons, Sql.text_append]
    exact congrArg (· ++ _) (Sql.text_raw _)
  fun_induction positional cs with
  | case1 => rfl
  | case2 cs ih | case4 cs ih => rw [kept _ _ _ rfl, ih, ← String.ofList_append]; rfl
  | case3 cs _ ih | case5 cs _ ih => rw [kept _ _ _ rfl, ih, ← String.ofList_append]; rfl
  | case6 c cs _ _ _ _ ih => rw [kept _ _ _ rfl, ih, ← String.ofList_append]; rfl

end Template

/-! ## Rendering -/

/-- A value of a mapping of defined values is defined. -/
theorem Value.get?_defined {entries : List (Value × Value)} {key : String} {v : Value}
    (defined : (Value.map entries).containsUndefined = false) (found : Value.get? key entries = some v) :
    v.containsUndefined = false := by
  have each : entries.any (fun entry => entry.2.containsUndefined) = false := by
    rw [← Value.entryUndefined_eq_any]
    exact defined
  obtain ⟨entry, first, rfl⟩ := Option.map_eq_some_iff.mp found
  simpa using List.any_eq_false.mp each entry (List.mem_of_find?_eq_some first)

/-- What a part refers to in a mapping of defined values is defined. -/
theorem Template.NamedPart.target?_defined {entries : List (Value × Value)} {part : NamedPart} {v : Value}
    (defined : (Value.map entries).containsUndefined = false) (found : part.target? entries = some v) :
    v.containsUndefined = false := by
  cases part with
  | text cs => cases found
  | value key | identifier key => exact Value.get?_defined defined found

theorem Compile.map_ok {α β : Type} {f : α → β} {c : Compile α} {b : β} {p p' : Progress} :
    (f <$> c) p = .ok b p' ↔ ∃ a, c p = .ok a p' ∧ b = f a := by
  rw [← bind_pure_comp, Compile.bind_ok]
  constructor
  · rintro ⟨a, q, run, result⟩
    obtain ⟨rfl, rfl⟩ := Compile.pure_ok.mp result
    exact ⟨a, run, rfl⟩
  · rintro ⟨a, run, rfl⟩
    exact ⟨a, p', run, rfl⟩

namespace Scope

open Template (NamedPart slots weave)

variable {s : Scope} {entries : List (Value × Value)} {parts : List NamedPart}

/-- A reference to a value of a mapping is filled as a slot for a value. -/
theorem fillNamed_value {key : List Char} {v : Value} (found : Value.get? (String.ofList key) entries = some v)
    (defined : v.containsUndefined = false) : s.fillNamed entries (.value key) = s.fillSlot (.value, v) := by
  unfold fillNamed
  simp only [found]
  split
  · contradiction
  · simp_all [Value.containsUndefined]
  next w other same =>
    obtain rfl := Option.some.inj same
    rfl

/-- A reference to an identifier of a mapping is filled as a slot for an identifier. -/
theorem fillNamed_identifier {key : List Char} {v : Value} (found : Value.get? (String.ofList key) entries = some v)
    (defined : v.containsUndefined = false) : s.fillNamed entries (.identifier key) = s.fillSlot (.identifier, v) := by
  unfold fillNamed
  simp only [found]
  split
  · contradiction
  · simp_all [Value.containsUndefined]
  next w other same =>
    obtain rfl := Option.some.inj same
    simp [fillSlot, slotOperand, Operand.textual]

/-- The characters of a text render to themselves. -/
theorem mapM_fillNamed_text (cs : List Char) : (NamedPart.text cs).read.mapM (s.fillNamed entries) =
    pure (cs.map fun c => Sql.raw (String.ofList [c])) := by
  rw [NamedPart.read, List.mapM_map]
  exact List.mapM_pure

/-- A template with the mapping renders to what its bindings render to in their slots. -/
theorem mapM_fillNamed (proper : ∀ part ∈ parts, part.Proper entries)
    (defined : (Value.map entries).containsUndefined = false) :
    List.flatten <$> (parts.flatMap NamedPart.read).mapM (s.fillNamed entries) =
      weave (parts.flatMap NamedPart.readMarked) <$> ((slots (parts.flatMap NamedPart.readMarked)).zip
        (parts.filterMap (NamedPart.target? entries))).mapM s.fillSlot := by
  induction parts with
  | nil => rfl
  | cons part parts ih =>
    rw [List.forall_mem_cons] at proper
    have others := ih proper.2
    -- What is rendered first stands before what the others render to, which is the same on both sides.
    have goes_on (first : Sql) :
        (fun rest => first ++ rest.flatten) <$> (parts.flatMap NamedPart.read).mapM (s.fillNamed entries) =
          (fun sqls => first ++ weave (parts.flatMap NamedPart.readMarked) sqls) <$>
            ((slots (parts.flatMap NamedPart.readMarked)).zip
              (parts.filterMap (NamedPart.target? entries))).mapM s.fillSlot := by
      simpa using congrArg (fun rendered => (first ++ ·) <$> rendered) others
    rw [List.flatMap_cons, List.flatMap_cons, List.mapM_append]
    cases part with
    | text cs =>
      rw [mapM_fillNamed_text, Template.slots_readMarked_text, List.filterMap_cons_none rfl]
      rw [funext (Template.weave_readMarked_text cs _), ← goes_on]
      simp
    | value key =>
      obtain ⟨v, found⟩ := Option.isSome_iff_exists.mp proper.1.2.2
      have here := fillNamed_value (s := s) found (Value.get?_defined defined found)
      have target : (NamedPart.value key).target? entries = some v := found
      rw [List.filterMap_cons_some target]
      simp only [NamedPart.read, NamedPart.readMarked, List.singleton_append, Template.slots_value, List.zip_cons_cons,
        List.mapM_cons, List.mapM_nil, here, map_bind, bind_assoc, pure_bind, map_pure]
      refine bind_congr fun first => ?_
      simpa [weave, Template.interleave] using goes_on first
    | identifier key =>
      obtain ⟨v, found⟩ := Option.isSome_iff_exists.mp proper.1.2.2
      have here := fillNamed_identifier (s := s) found (Value.get?_defined defined found)
      have target : (NamedPart.identifier key).target? entries = some v := found
      rw [List.filterMap_cons_some target]
      simp only [NamedPart.read, NamedPart.readMarked, List.singleton_append, Template.slots_identifier,
        List.zip_cons_cons, List.mapM_cons, List.mapM_nil, here, map_bind, bind_assoc, pure_bind, map_pure]
      refine bind_congr fun first => ?_
      simpa [weave, Template.interleave] using goes_on first

/-- A template with the mapping, as the sequence that is written in it. -/
theorem named_written (chained : parts.IsChain NamedPart.Before) (proper : ∀ part ∈ parts, part.Proper entries)
    (defined : (Value.map entries).containsUndefined = false) :
    s.named (String.ofList (parts.flatMap NamedPart.named)) entries =
      weave (parts.flatMap NamedPart.readMarked) <$> ((slots (parts.flatMap NamedPart.readMarked)).zip
        (parts.filterMap (NamedPart.target? entries))).mapM s.fillSlot := by
  rw [← mapM_fillNamed proper defined, named, String.toList_ofList, Template.named_written chained proper,
    bind_pure_comp]

/-- A raw expression with a mapping of defined values renders to its template. -/
theorem rawExpression_named {client : Client Value} {template : String}
    (defined : (Value.map entries).containsUndefined = false) :
    s.rawExpression (.ofValue client (.str template) (.map entries)) = do
      return .sql (← s.named template entries) := by
  simp only [rawExpression, surrounded, filledTemplate, Raw.ofValue, Value.rawBindings, RawBindings.toValue, defined]
  simp

/-- A raw expression without bindings renders to its template as it is. -/
theorem rawExpression_unbound {client : Client Value} {template : String} :
    s.rawExpression (.ofValue client (.str template) (.list [])) = do
      return .sql (← pure (Sql.raw template)) := by
  have defined : (Value.list []).containsUndefined = false := rfl
  simp only [rawExpression, surrounded, filledTemplate, Raw.ofValue, Value.rawBindings, RawBindings.toValue, defined]
  simp

end Scope

namespace Raw

open Template (NamedPart slots weave)

/-- A raw expression with a mapping of defined values, in whose template references and texts follow each other,
compiles to what the raw expression with a slot for each reference and the list of the referenced values compiles to,
and it compiles if that does. -/
theorem compile_named {env : Environment} {client : Client Value} {entries : List (Value × Value)}
    {parts : List NamedPart} (chained : parts.IsChain NamedPart.Before) (proper : ∀ part ∈ parts, part.Proper entries)
    (defined : (Value.map entries).containsUndefined = false) (p p' : Progress) (c : Compiled Value) :
    let named := Raw.ofValue client (.str (String.ofList (parts.flatMap NamedPart.named))) (.map entries)
    let positional := Raw.ofValue client (.str (String.ofList (parts.flatMap NamedPart.marked)))
      (.list (parts.filterMap (NamedPart.target? entries)))
    named.compile env p = .ok c p' ↔ positional.compile env p = .ok c p' := by
  intro named positional
  have counted : (slots (parts.flatMap NamedPart.readMarked)).length =
      (parts.filterMap (NamedPart.target? entries)).length := Template.length_slots_readMarked proper
  have read := Template.positional_written chained proper
  rw [Raw.compile_sql_ok (Scope.rawExpression_named defined), Scope.named_written chained proper defined]
  by_cases filled : parts.filterMap (NamedPart.target? entries) = []
  · -- Without a reference the template with positional bindings is not read, and stands as it is.
    have text : (weave (parts.flatMap NamedPart.readMarked) []).text =
        String.ofList (parts.flatMap NamedPart.marked) := by rw [← read, Template.text_weave_nil]
    have bindings : (weave (parts.flatMap NamedPart.readMarked) []).bindings = [] :=
      Template.bindings_weave (by rw [counted, filled]; rfl)
    simp only [positional, filled, Raw.compile_sql_ok Scope.rawExpression_unbound, List.zip_nil_right, List.mapM_nil,
      map_pure, Compile.pure_ok]
    constructor
    · rintro ⟨_, ⟨rfl, rfl⟩, rfl⟩
      exact ⟨_, ⟨rfl, rfl⟩, by rw [text, bindings, Sql.text_raw]; rfl⟩
    · rintro ⟨_, ⟨rfl, rfl⟩, rfl⟩
      exact ⟨_, ⟨rfl, rfl⟩, by rw [text, bindings, Sql.text_raw]; rfl⟩
  · have values : (Value.list (parts.filterMap (NamedPart.target? entries))).containsUndefined = false := by
      rw [Value.containsUndefined, Value.anyUndefined_eq_any, List.any_eq_false]
      intro v mem
      obtain ⟨part, -, found⟩ := List.mem_filterMap.mp mem
      simp [NamedPart.target?_defined defined found]
    rw [Raw.compile_sql_ok (Scope.rawExpression_positional filled values)]
    refine exists_congr fun sql => and_congr_left' ?_
    rw [Scope.positional_ok, String.toList_ofList, read, Compile.map_ok]
    exact ⟨fun rendered => ⟨counted, rendered⟩, And.right⟩

/-- A column and a value that is referred to twice. -/
theorem compile_named_repeated :
    let client : Client Value := { dialect := .postgres }
    let env : Environment := { client }
    let entries := [(Value.str "col", Value.str "id"), (.str "val", .int 5), (.str "unused", .int 6)]
    let named := Raw.ofValue client (.str ":col: > :val or :val < 0") (.map entries)
    let positional := Raw.ofValue client (.str "?? > ? or ? < 0") (.list [.str "id", .int 5, .int 5])
    (∀ p p' c, named.compile env p = .ok c p' ↔ positional.compile env p = .ok c p') ∧
      (named.compile env).outcome.1.toOption.map (fun c => (c.sql, c.bindings.map Value.text)) = some
        ("\"id\" > ? or ? < 0", ["5", "5"]) := by
  intro client env entries named positional
  let parts : List NamedPart :=
    [.identifier "col".toList, .text " > ".toList, .value "val".toList, .text " or ".toList, .value "val".toList,
      .text " < 0".toList]
  have chained : parts.IsChain NamedPart.Before := by decide +kernel
  have proper : ∀ part ∈ parts, part.Proper entries := by decide +kernel
  have written : String.ofList (parts.flatMap NamedPart.named) = ":col: > :val or :val < 0" := by decide +kernel
  have marked : String.ofList (parts.flatMap NamedPart.marked) = "?? > ? or ? < 0" := by decide +kernel
  have targets : parts.filterMap (NamedPart.target? entries) = [.str "id", .int 5, .int 5] := by
    rfl
  have same := @Raw.compile_named env client entries parts chained proper rfl
  rw [written, marked, targets] at same
  exact ⟨same, by decide +kernel⟩

end Raw

end SqlBuilder
