import SqlBuilder.Proofs.NamedTemplates

/-!
# Paths read as their steps

A path into a JSON document is written as a dollar and its steps: plain keys behind dots, positions and
quoted keys in brackets. It is read as the keys of the steps, and a dialect that takes the keys one by one
binds each of them.

* `JsonPath.Step`: a step, its key and how it is written.
* `JsonPath.tokens_written`: a step is read off the front of a path.
* `JsonPath.keys_ofSteps`: a path is read as the keys of its steps.
* `JsonPath.ofSteps_decodes`: the keys of the steps are the values that an extraction binds.
-/

namespace SqlBuilder

open Text (isDigit)

namespace JsonPath

/-- A step of a path. -/
inductive Step
  /-- a key as it is -/
  | plain (key : String)
  /-- a position in an array -/
  | index (digits : String)
  /-- a key between two quotes -/
  | quoted (quote : Char) (key : String)
  deriving DecidableEq

namespace Step

/-- The key that a step names. -/
def key : Step → String
  | plain key | index key | quoted _ key => key

/-- A step as it is written in a path. -/
def written : Step → List Char
  | plain key => '.' :: key.toList
  | index digits => '[' :: digits.toList ++ [']']
  | quoted quote key => '[' :: quote :: key.toList ++ [quote, ']']

/-- A plain key is no empty text and has no dots and brackets in it, a position is a number, and a quoted key
has no quotes in it. -/
def Proper : Step → Prop
  | plain key => key ≠ "" ∧ ∀ c ∈ key.toList, isKeyChar c = true
  | index digits => digits ≠ "" ∧ ∀ c ∈ digits.toList, isDigit c = true
  | quoted quote key => isQuote quote = true ∧ ∀ c ∈ key.toList, isQuote c = false

instance (step : Step) : Decidable step.Proper := by
  cases step <;> exact inferInstanceAs (Decidable (_ ∧ _))

end Step

/-- A path of steps. -/
def ofSteps (steps : List Step) : String :=
  String.ofList ('$' :: steps.flatMap Step.written)

/-! ## One step -/

/-- A dot or an opening bracket is no character of a plain key. -/
theorem isKeyChar_head_written (steps : List Step) :
    ∀ c ∈ (steps.flatMap Step.written).head?, isKeyChar c = false := by
  cases steps with
  | nil => simp
  | cons step steps => cases step <;> simp [Step.written, isKeyChar]

/-- A position is read up to its closing bracket. -/
theorem step?_index {digits : List Char} (filled : digits ≠ []) (number : ∀ c ∈ digits, isDigit c = true)
    (rest : List Char) :
    step? ('[' :: digits ++ ']' :: rest) = some (digits, digits.length + 2) := by
  have taken : (digits ++ ']' :: rest).takeWhile isDigit = digits :=
    Text.takeWhile_run number (by rintro _ ⟨⟩; decide)
  have found : index? (digits ++ ']' :: rest) = some (digits, digits.length + 2) := by
    unfold index?
    simp [taken, filled]
  rw [List.cons_append, step?, found]
  rfl

/-- A quoted key is no position, and is read up to its closing quote. -/
theorem step?_quoted {quote : Char} {key : List Char} (quotes : isQuote quote = true)
    (bare : ∀ c ∈ key, isQuote c = false) (rest : List Char) :
    step? ('[' :: quote :: key ++ quote :: ']' :: rest) = some (key, key.length + 4) := by
  have taken : (key ++ quote :: ']' :: rest).takeWhile (fun c => !isQuote c) = key :=
    Text.takeWhile_run (fun c hc => by simp [bare c hc]) (by rintro _ ⟨⟩; simp [quotes])
  have found : quoted? (quote :: (key ++ quote :: ']' :: rest)) = some (key, key.length + 4) := by
    unfold quoted?
    simp [quotes, taken]
  have none_ : index? (quote :: (key ++ quote :: ']' :: rest)) = none := by
    have cases_ : quote = '\'' ∨ quote = '"' := by simpa [isQuote] using quotes
    rcases cases_ with rfl | rfl <;> rfl
  rw [List.cons_append, List.cons_append, step?, none_, found]
  rfl

/-- A plain key is read up to the next step. -/
theorem step?_plain {key rest : List Char} (filled : key ≠ []) (bare : ∀ c ∈ key, isKeyChar c = true)
    (ends : ∀ c ∈ rest.head?, isKeyChar c = false) : step? (key ++ rest) = some (key, key.length) := by
  have taken : (key ++ rest).takeWhile isKeyChar = key := Text.takeWhile_run bare ends
  have bracket : ∀ cs, key ++ rest ≠ '[' :: cs := by
    obtain ⟨c, key, rfl⟩ := List.exists_cons_of_ne_nil filled
    rintro cs ⟨⟩
    exact absurd (bare '[' List.mem_cons_self) (by decide)
  rw [step?]
  · simp [taken, filled]
  · exact bracket

/-- A step is read off the front of a path. -/
theorem tokens_written {step : Step} (proper : step.Proper) {rest : List Char}
    (ends : ∀ c ∈ rest.head?, isKeyChar c = false) :
    Text.tokens step? (step.written ++ rest) = step.key.toList :: Text.tokens step? rest := by
  cases step with
  | plain key =>
    obtain ⟨filled, bare⟩ := proper
    have filled : key.toList ≠ [] := by simpa using filled
    -- the dot before the key belongs to no step
    have dot : step? ('.' :: (key.toList ++ rest)) = none := rfl
    have passed : Text.tokens step? ('.' :: (key.toList ++ rest)) = Text.tokens step? (key.toList ++ rest) := by
      rw [Text.tokens, Text.scan_cons_none dot]
      rfl
    exact passed.trans (Text.tokens_append_some filled (step?_plain filled bare ends))
  | index digits =>
    obtain ⟨filled, number⟩ := proper
    have filled : digits.toList ≠ [] := by simpa using filled
    refine Text.tokens_append_some (List.cons_ne_nil _ _) ?_
    simpa [Step.written, Step.key, Nat.add_assoc] using step?_index filled number rest
  | quoted quote key =>
    obtain ⟨quotes, bare⟩ := proper
    refine Text.tokens_append_some (List.cons_ne_nil _ _) ?_
    simpa [Step.written, Step.key, Nat.add_assoc] using step?_quoted quotes bare rest

/-! ## Whole paths -/

/-- The steps of a path are read one after the other. -/
theorem tokens_steps {steps : List Step} (proper : ∀ step ∈ steps, step.Proper) :
    Text.tokens step? (steps.flatMap Step.written) = steps.map fun step => step.key.toList := by
  induction steps with
  | nil => rfl
  | cons step steps ih =>
    rw [List.flatMap_cons, tokens_written (proper step List.mem_cons_self) (isKeyChar_head_written steps),
      ih fun other h => proper other (List.mem_cons_of_mem _ h)]
    rfl

/-- A path is read as the keys of its steps. -/
theorem keys_ofSteps {steps : List Step} (proper : ∀ step ∈ steps, step.Proper) :
    keys (ofSteps steps) = steps.map Step.key := by
  simp [keys, ofSteps, tokens_steps proper]

end JsonPath

/-! ## Extractions -/

/-- Values that are bound one after the other are bound together. -/
theorem Scope.mapM_bind (values : List Value) :
    values.mapM bind = do
      bindAll values
      return values.map fun v => [.param v] := by
  induction values with
  | nil =>
    funext p
    change EStateM.Result.ok [] p = .ok [] { p with bound := p.bound ++ [] }
    rw [List.append_nil]
  | cons v values ih =>
    rw [List.mapM_cons, ih]
    funext p
    change EStateM.Result.ok _ { p with bound := p.bound ++ [v] ++ values } =
      .ok _ { p with bound := p.bound ++ v :: values }
    rw [List.append_assoc]
    rfl

/-- A path is read as the keys of its steps, and a dialect that takes the keys one by one binds them, after
the values of the column and one for each step. -/
theorem JsonPath.ofSteps_decodes {steps : List Step} (proper : ∀ step ∈ steps, step.Proper) :
    keys (ofSteps steps) = steps.map Step.key ∧
      ∀ (s : Scope) (column : Value), s.capabilities.jsonPath.arrayPath = true →
        s.jsonExtract column (.str (ofSteps steps)) = do
          let target ← s.columnize column
          bindAll (steps.map fun step => .str step.key)
          return Sql.word (s.capabilities.jsonPath.function ++ "(") ++ target ++ Sql.word ", " ++
            Sql.commas (steps.map fun step => [.param (.str step.key)]) ++ Sql.word ")" := by
  refine ⟨keys_ofSteps proper, fun s column array => ?_⟩
  have each : ((keys (ofSteps steps)).mapM fun key => Scope.bind (.str key)) =
      (steps.map fun step => Value.str step.key).mapM Scope.bind := by
    rw [keys_ofSteps proper, List.mapM_map, List.mapM_map]
    rfl
  have bound : s.jsonPath (.str (ofSteps steps)) = do
      bindAll (steps.map fun step => .str step.key)
      return Sql.commas (steps.map fun step => [.param (.str step.key)]) := by
    rw [Scope.jsonPath, if_pos array]
    change (do return Sql.commas (← (keys (ofSteps steps)).mapM fun key => Scope.bind (.str key))) = _
    rw [each, Scope.mapM_bind, List.map_map]
    rfl
  rw [Scope.jsonExtract, bound]
  rfl

/-- A key, a position, a quoted key with a dot in it and an empty one. -/
theorem JsonPath.ofSteps_mixed :
    let client : Client Value := { dialect := .postgres }
    let s := (Query.ofClient client).scope { client }
    let steps : List Step := [.plain "a", .index "0", .quoted '\'' "c.d", .quoted '"' ""]
    (∀ step ∈ steps, step.Proper) ∧ s.capabilities.jsonPath.arrayPath = true ∧
      ofSteps steps = "$.a[0]['c.d'][\"\"]" ∧ keys "$.a[0]['c.d'][\"\"]" = ["a", "0", "c.d", ""] ∧
      s.jsonExtract (.str "doc") (.str "$.a[0]['c.d'][\"\"]") = do
        let target ← s.columnize (.str "doc")
        bindAll [.str "a", .str "0", .str "c.d", .str ""]
        return Sql.word "jsonb_extract_path(" ++ target ++ Sql.word ", " ++ Sql.commas
          [[.param (.str "a")], [.param (.str "0")], [.param (.str "c.d")], [.param (.str "")]] ++ Sql.word ")" := by
  intro client s steps
  have proper : ∀ step ∈ steps, step.Proper := by decide
  have written : ofSteps steps = "$.a[0]['c.d'][\"\"]" := by decide
  have decodes := JsonPath.ofSteps_decodes proper
  rw [written] at decodes
  have function : s.capabilities.jsonPath.function ++ "(" = "jsonb_extract_path(" := by decide
  have bound := decodes.2 s (.str "doc") rfl
  rw [function] at bound
  exact ⟨proper, rfl, written, decodes.1, bound⟩

end SqlBuilder
