import SqlBuilder.Proofs.StoredRows

/-!
# Texts as literals

A text that is written out is one literal of the dialect. Read by the grammar of the dialect, it has the text as its
content, and it ends where it was written to end, whatever stands behind it but for another quote. A mapping is written
out as its JSON text.

* `TextGrammar`, `TextGrammar.read?`: texts in single quotes, as a dialect reads them.
* `TextGrammar.Denotes`: a text that is one literal, with a content.
* `TextGrammar.denotes_doubled`, `TextGrammar.denotes_backslashed`: the two ways to write a text out.
* `Dialect.literals_denote`: the literals of the built-in dialects.
-/

namespace SqlBuilder

/-! ## Reading -/

/-- How texts in single quotes are read. A quote inside is written twice. -/
structure TextGrammar where
  /-- the characters that a backslash makes of those behind it; none where a backslash is like any other character -/
  escapes : Option (Char → Option Char)

namespace TextGrammar

/-- Doubled quotes and nothing else. -/
def standard : TextGrammar := ⟨none⟩

/-- The characters that a backslash makes of letters and marks. -/
def unescaped? : Char → Option Char
  | '0' => some '\x00'
  | 'b' => some '\x08'
  | 't' => some '\t'
  | 'n' => some '\n'
  | 'r' => some '\r'
  | 'Z' => some '\x1a'
  | '\'' => some '\''
  | '"' => some '"'
  | '\\' => some '\\'
  | _ => none

/-- Doubled quotes, and some letters and marks behind a backslash. -/
def backslashed : TextGrammar := ⟨some unescaped?⟩

/-- The content of a text behind its opening quote, and what stands behind its closing one. -/
def body? (g : TextGrammar) : List Char → Option (List Char × List Char)
  | [] => none
  | '\'' :: '\'' :: cs => (g.body? cs).map (Prod.map ('\'' :: ·) id)
  | '\'' :: cs => some ([], cs)
  | '\\' :: c :: cs =>
    match g.escapes with
    | some escape => (escape c).bind fun d => (g.body? cs).map (Prod.map (d :: ·) id)
    | none => (g.body? (c :: cs)).map (Prod.map ('\\' :: ·) id)
  | c :: cs => (g.body? cs).map (Prod.map (c :: ·) id)

/-- The content of the literal that a text begins with, and what stands behind it. -/
def read? (g : TextGrammar) : List Char → Option (List Char × List Char)
  | '\'' :: cs => g.body? cs
  | _ => none

/-- A text is one literal with a content: whatever stands behind it, the literal ends where it ends, unless a quote
goes on with it. -/
def Denotes (g : TextGrammar) (literal content : String) : Prop :=
  ∀ rest : List Char, rest.head? ≠ some '\'' → g.read? (literal.toList ++ rest) = some (content.toList, rest)

variable {g : TextGrammar}

theorem body?_closing {rest : List Char} (h : rest.head? ≠ some '\'') : g.body? ('\'' :: rest) = some ([], rest) := by
  cases rest with
  | nil => rfl
  | cons c rest =>
    rw [body?]
    rintro cs ⟨⟩
    exact h rfl

/-- A character that is neither a quote nor a backslash is read as itself. -/
theorem body?_plain {c : Char} (quote : c ≠ '\'') (slash : c ≠ '\\') (cs : List Char) :
    g.body? (c :: cs) = (g.body? cs).map (Prod.map (c :: ·) id) := by
  rw [body?]
  all_goals simp [quote, slash]

/-- Characters that are each written so that they are read as themselves, up to the closing quote. -/
theorem body?_flatMap {written : Char → List Char}
    (reads : ∀ c cs, g.body? (written c ++ cs) = (g.body? cs).map (Prod.map (c :: ·) id)) (cs : List Char)
    {rest : List Char} (h : rest.head? ≠ some '\'') :
    g.body? (cs.flatMap written ++ '\'' :: rest) = some (cs, rest) := by
  induction cs with
  | nil => exact body?_closing h
  | cons c cs ih =>
    rw [List.flatMap_cons, List.append_assoc, reads, ih]
    rfl

theorem denotes_of_reads {written : Char → List Char}
    (reads : ∀ c cs, g.body? (written c ++ cs) = (g.body? cs).map (Prod.map (c :: ·) id)) (s : String) :
    g.Denotes (String.ofList ('\'' :: s.toList.flatMap written ++ ['\''])) s := by
  intro rest h
  rw [String.toList_ofList, List.append_assoc, List.cons_append, List.singleton_append, read?]
  exact body?_flatMap reads s.toList h

/-- A text with its quotes doubled. -/
theorem denotes_doubled (s : String) : standard.Denotes (Literal.doubled s) s := by
  refine denotes_of_reads (fun c cs => ?_) s
  by_cases quote : c = '\''
  · subst quote
    rfl
  · rw [Literal.doubledChar, if_neg quote, List.singleton_append]
    by_cases slash : c = '\\'
    · subst slash
      cases cs <;> rfl
    · exact body?_plain quote slash cs

/-- A character stands as itself between backslashes, or behind one as what this makes it of. -/
theorem backslashChar_cases (c : Char) :
    (c ≠ '\'' ∧ c ≠ '\\' ∧ Literal.backslashChar c = [c]) ∨
      ∃ d, Literal.backslashChar c = ['\\', d] ∧ unescaped? d = some c := by
  have code {n : Nat} (h : c.toNat = n) : c = Char.ofNat n := by rw [← h, Char.ofNat_toNat]
  unfold Literal.backslashChar
  split
  case h_10 quote slash =>
    refine .inl ⟨?_, ?_, rfl⟩
    · rintro rfl
      exact quote rfl
    · rintro rfl
      exact slash rfl
  all_goals exact .inr ⟨_, rfl, congrArg some (code ‹_›).symm⟩

/-- A text with backslashes. -/
theorem denotes_backslashed (s : String) : backslashed.Denotes (Literal.backslashed s) s := by
  refine denotes_of_reads (fun c cs => ?_) s
  rcases backslashChar_cases c with ⟨quote, slash, single⟩ | ⟨d, escaped, back⟩
  · rw [single, List.singleton_append, body?_plain quote slash]
  · rw [escaped, List.cons_append, List.singleton_append, body?, backslashed]
    simp only [back, Option.bind_some]

end TextGrammar

/-! ## Dialects -/

/-- How a built-in dialect reads texts in single quotes. -/
def Dialect.textGrammar (d : Dialect) : TextGrammar :=
  if d.name = "mysql" then .backslashed else .standard

/-- A text is written out so that its own dialect reads it. -/
theorem Dialect.denotes_text {d : Dialect} (builtin : d ∈ Dialect.builtin) (s : String) :
    d.textGrammar.Denotes (Literal.text d.capabilities.escape.strings s) s := by
  have styles : ∀ d ∈ Dialect.builtin,
      d.capabilities.escape.strings = if d.name = "mysql" then .backslash else .doubled := by decide
  rw [styles d builtin, Dialect.textGrammar]
  split
  · exact TextGrammar.denotes_backslashed s
  · exact TextGrammar.denotes_doubled s

namespace Literal

variable {style : LiteralStyle} {printers : Printers} {zone : String}

/-- A mapping is written out as its JSON text is. -/
theorem result_map (json : style.objects = .json) (entries : List (Value × Value)) :
    result style printers zone (.map entries) = do
      let content ← (Value.map entries).json printers.display
      return .str (text style.strings content) := by
  have plain : (Value.map entries).isBuilder = false := rfl
  simp [result, standsForSql, render, object, json, plain]

end Literal

/-- Values are written out one level down without their builders. -/
theorem Nested.printersOn_plainly (env : Environment) : Value.Plainly (env.nested.printersOn env).display :=
  Nested.plainly env nestingLimit

/-- Every text is written out as one literal of a built-in dialect, which has the text as its content. A mapping is
written out as its JSON text is, and fails as this does; a mapping of data has one. -/
theorem Dialect.literals_denote {d : Dialect} (builtin : d ∈ Dialect.builtin) (env : Environment) (zone : String) :
    let printers := env.nested.printersOn env
    let escape := Literal.result d.capabilities.escape printers zone
    (∀ s p, ∃ literal, escape (.str s) p = .ok (.str literal) p ∧ d.textGrammar.Denotes literal s) ∧
    (∀ entries p, match (Value.map entries).json printers.display p with
      | .ok json p' => ∃ literal, escape (.map entries) p = .ok (.str literal) p' ∧ d.textGrammar.Denotes literal json
      | .error e p' => escape (.map entries) p = .error e p') ∧
    ∀ entries, (Value.map entries).isData = true →
      ∃ literal, (escape (.map entries)).Gives (.str literal) [] ∧
        d.textGrammar.Denotes literal (Value.map entries).jsonText := by
  intro printers escape
  have objects : d.capabilities.escape.objects = .json := by
    revert d
    decide
  have written (entries : List (Value × Value)) : escape (.map entries) = _ := Literal.result_map objects entries
  refine ⟨fun s p => ⟨_, rfl, Dialect.denotes_text builtin s⟩, fun entries p => ?_, fun entries data => ?_⟩
  · rw [written]
    change match (Value.map entries).json printers.display p with
      | .ok json p' => ∃ literal, EStateM.bind _ _ p = _ ∧ _
      | .error e p' => EStateM.bind _ _ p = _
    unfold EStateM.bind
    cases (Value.map entries).json printers.display p with
    | ok json p' => exact ⟨_, rfl, Dialect.denotes_text builtin json⟩
    | error e p' => rfl
  · rw [written]
    exact ⟨_, (Value.json_gives (Nested.printersOn_plainly env) data).map, Dialect.denotes_text builtin _⟩

/-- A text with a quote, a backslash and a line break for MySQL, and a mapping. -/
theorem Dialect.literals_denote_mysql :
    let env : Environment := { client := { dialect := .mysql } }
    let escape := Literal.result Dialect.mysql.capabilities.escape (env.nested.printersOn env) "local"
    let entries := [(Value.str "a", Value.str "it's")]
    Dialect.mysql ∈ Dialect.builtin ∧ (Value.map entries).isData = true ∧
      (∃ literal, escape (.str "a'b\\\n") {} = .ok (.str literal) {} ∧
        Dialect.mysql.textGrammar.Denotes literal "a'b\\\n") ∧
      (∃ literal, (escape (.map entries)).Gives (.str literal) [] ∧
        Dialect.mysql.textGrammar.Denotes literal "\x7b\"a\": \"it's\"\x7d") ∧
      (escape (.str "a'b\\\n")).outcome.1.toOption.map Value.text = some "'a\\'b\\\\\\n'" ∧
      (escape (.map entries)).outcome.1.toOption.map Value.text = some "'\x7b\\\"a\\\": \\\"it\\'s\\\"\x7d'" := by
  intro env escape entries
  have builtin : Dialect.mysql ∈ Dialect.builtin := by simp [Dialect.builtin]
  obtain ⟨texts, -, mappings⟩ := Dialect.literals_denote builtin env "local"
  have json : (Value.map entries).jsonText = "\x7b\"a\": \"it's\"\x7d" := by decide +kernel
  have data : (Value.map entries).isData = true := by decide +kernel
  exact ⟨builtin, data, texts _ _, json ▸ mappings entries data, by decide +kernel, by decide +kernel⟩

end SqlBuilder
