import SqlBuilder.Proofs.DriverForms
import SqlBuilder.Proofs.WrittenOut
import SqlBuilder.Render.Compile

/-!
# Values in place of placeholders

A statement is shown with its values written out, and run in the form for a driver. Both have the same spans between
their fillings, if no question mark stands behind pairs of backslashes only. Behind such pairs a question mark is a
placeholder in the form for a driver, and takes no value where values are written out.

* `PairFree`: the texts without a question mark behind pairs of backslashes.
* `inlineFrom_spliced`: literals in the spans of a text.
* `inlineSlots_eq_iff`: where each placeholder takes a literal.
* `Environment.formatQuery_spliced`: a statement with its values written out, and its form for a driver.
-/

namespace SqlBuilder

/-! ## Backslashes in pairs -/

/-- No question mark of a text that stands behind another one has backslashes in pairs before it: there are none, or
their number is odd. -/
def PairFree (front cs : List Char) : Prop :=
  ∀ before after, cs = before ++ '?' :: after →
    endSlashes (front ++ before) = 0 ∨ endSlashes (front ++ before) % 2 = 1

section PairFree

variable {front cs : List Char} {c : Char}

theorem PairFree.nil : PairFree front [] := by
  intro before after whole
  simp at whole

theorem pairFree_cons :
    PairFree front (c :: cs) ↔
      (c = '?' → endSlashes front = 0 ∨ endSlashes front % 2 = 1) ∧ PairFree (front ++ [c]) cs := by
  constructor
  · intro free
    refine ⟨fun mark => ?_, fun before after whole => ?_⟩
    · have here := free [] cs (by rw [mark, List.nil_append])
      rwa [List.append_nil] at here
    · have later := free (c :: before) after (by rw [whole, List.cons_append])
      rwa [List.append_cons] at later
  · rintro ⟨here, later⟩ before after whole
    cases before with
    | nil =>
      obtain ⟨mark, -⟩ := List.cons.inj whole
      rw [List.append_nil]
      exact here mark
    | cons d before =>
      obtain ⟨rfl, rest⟩ := List.cons.inj whole
      rw [List.append_cons]
      exact later before after rest

end PairFree

/-! ## Literals in the spans -/

section Inlined

variable {front cs : List Char} {c : Char}

theorem spliced_cons_nil {spans : List (List Char)} (filled : spans ≠ []) (span : List Char) :
    spliced (span :: spans) [] = span ++ '?' :: spliced spans [] := by
  obtain ⟨next, spans, rfl⟩ := List.exists_cons_of_ne_nil filled
  rfl

/-- A character that is no question mark and does not take one is part of a span. -/
theorem spansFrom_plain (unmarked : c ≠ '?') (open_ : c = '\\' → cs.head? ≠ some '?') :
    spansFrom front (c :: cs) = (spansFrom (front ++ [c]) cs).modifyHead (c :: ·) := by
  by_cases slash : c = '\\'
  · subst slash
    exact spansFrom_slash fun escape => open_ rfl escape.1
  · exact spansFrom_other slash unmarked

theorem marksFrom_plain (unmarked : c ≠ '?') :
    marksFrom (endSlashes front) (c :: cs) = marksFrom (endSlashes (front ++ [c])) cs := by
  by_cases slash : c = '\\'
  · subst slash
    rw [marksFrom, if_pos rfl, endSlashes_slash]
  · rw [marksFrom, if_neg slash, if_neg unmarked, endSlashes_other slash]

/-- In a text without pairs of backslashes before question marks, the literals stand in place of the placeholders. -/
theorem inlineFrom_spliced (literals : List String) (front : List Char) {cs : List Char}
    (settled : cs.head? = some '?' → endSlashes front = 0) (free : PairFree front cs) :
    inlineFrom literals cs = spliced (spansFrom front cs) (literals.map String.toList) := by
  -- A backslash before a question mark is read with it, so that a question mark that is read alone has none before it.
  cases cs with
  | nil => rfl
  | cons c cs =>
    by_cases mark : c = '?'
    · subst mark
      have none_ : endSlashes front = 0 := settled rfl
      have later := (pairFree_cons.mp free).2
      rw [spansFrom_mark (by rw [none_])]
      cases literals with
      | nil =>
        have rest : inlineFrom [] cs = spliced (spansFrom (front ++ ['?']) cs) [] :=
          inlineFrom_spliced [] (front ++ ['?']) (fun _ => endSlashes_other (by decide) front) later
        rw [List.map_nil, spliced_cons_nil (spansFrom_ne_nil _ cs), ← rest]
        rfl
      | cons literal literals =>
        have rest := inlineFrom_spliced literals (front ++ ['?']) (fun _ => endSlashes_other (by decide) front) later
        rw [List.map_cons, spliced_cons (spansFrom_ne_nil _ cs), ← rest]
        rfl
    by_cases escape : c = '\\' ∧ cs.head? = some '?'
    · obtain ⟨rfl, head⟩ := escape
      obtain ⟨cs, rfl⟩ := List.head?_eq_some_iff.mp head
      obtain ⟨escaped, later⟩ := pairFree_cons.mp (pairFree_cons.mp free).2
      have odd : (endSlashes front + 1) % 2 = 1 := by
        have parity := escaped rfl
        rw [endSlashes_slash] at parity
        omega
      have rest := inlineFrom_spliced literals (front ++ ['\\'] ++ ['?']) (fun _ => endSlashes_other (by decide) _) later
      rw [spansFrom_escape rfl odd, spansFrom_escaped (by simpa using odd), inlineFrom, rest]
      exact (spliced_modifyHead (spansFrom_ne_nil _ cs) ['?'] _).symm
    · have open_ : c = '\\' → cs.head? ≠ some '?' := fun slash head => escape ⟨slash, head⟩
      have rest := inlineFrom_spliced literals (front ++ [c])
        (fun head => endSlashes_other (fun slash => open_ slash head) front) (pairFree_cons.mp free).2
      rw [inlineFrom_cons mark open_, spansFrom_plain mark open_, rest]
      exact (spliced_modifyHead (spansFrom_ne_nil _ cs) [c] _).symm

/-- Each placeholder of a text takes a literal exactly if no question mark stands behind pairs of backslashes. -/
theorem inlineSlots_eq_iff (front : List Char) {cs : List Char} (settled : cs.head? = some '?' → endSlashes front = 0) :
    inlineSlots cs ≤ marksFrom (endSlashes front) cs ∧
      (inlineSlots cs = marksFrom (endSlashes front) cs ↔ PairFree front cs) := by
  cases cs with
  | nil => exact ⟨Nat.le_refl _, fun _ => .nil, fun _ => rfl⟩
  | cons c cs =>
    by_cases mark : c = '?'
    · subst mark
      have none_ : endSlashes front = 0 := settled rfl
      obtain ⟨few, same⟩ := inlineSlots_eq_iff (front ++ ['?']) (fun _ => endSlashes_other (by decide) front)
      rw [endSlashes_other (by decide)] at few same
      rw [pairFree_cons, ← same, none_]
      simpa [inlineSlots, marksFrom] using few
    by_cases escape : c = '\\' ∧ cs.head? = some '?'
    · obtain ⟨rfl, head⟩ := escape
      obtain ⟨cs, rfl⟩ := List.head?_eq_some_iff.mp head
      obtain ⟨few, same⟩ := inlineSlots_eq_iff (front ++ ['\\'] ++ ['?']) (fun _ => endSlashes_other (by decide) _)
      rw [endSlashes_other (by decide)] at few same
      rw [pairFree_cons, pairFree_cons, ← same, marksFrom_plain mark, endSlashes_slash, marksFrom, if_neg (by decide),
        if_pos rfl, inlineSlots]
      split <;> constructor <;> simp_all <;> omega
    · have open_ : c = '\\' → cs.head? ≠ some '?' := fun slash head => escape ⟨slash, head⟩
      obtain ⟨few, same⟩ := inlineSlots_eq_iff (front ++ [c])
        (fun head => endSlashes_other (fun slash => open_ slash head) front)
      rw [pairFree_cons, ← same, inlineSlots_cons mark open_, marksFrom_plain mark]
      exact ⟨few, by simp [mark]⟩

end Inlined

/-! ## Statements -/

namespace Literal

/-- As many values as there are places for are written out, in their order. -/
theorem forSlots_eq_mapM (style : LiteralStyle) (printers : Printers) (zone : String) (slots : Nat)
    (values : List Value) :
    forSlots style printers zone slots values = (values.take slots).mapM (forSlot style printers zone) := by
  induction slots generalizing values with
  | zero => rfl
  | succ slots ih =>
    cases values with
    | nil => rfl
    | cons v values => rw [forSlots, ih, List.take_succ_cons, List.mapM_cons]

end Literal

namespace Environment

variable (env : Environment) (client : Client Value) (sql : String) (values : List Value) (zone : String)

/-- The values of a statement are written out in their order, each as its literal. -/
theorem formatQuery_list :
    env.formatQuery client sql (.list values) zone = do
      let literals ← (values.take (inlineSlots sql.toList)).mapM
        (Literal.forSlot client.capabilities.escape (env.nested.printersOn env) zone)
      return inlineLiterals literals sql := by
  have given : env.formatQuery client sql (.list values) zone =
      Literal.inline client.capabilities.escape (env.nested.printersOn env) zone sql values := by
    cases values <;> rfl
  rw [given, Literal.inline, Literal.forSlots_eq_mapM]

/-- A statement with its values written out and its form for a driver have the same spans between their fillings,
literals in the one and marks in the other, if no question mark stands behind pairs of backslashes only; and only then
as many values are written out as there are marks. -/
theorem formatQuery_spliced :
    (inlineSlots sql.toList = marksFrom 0 sql.toList ↔ PairFree [] sql.toList) ∧
    (PairFree [] sql.toList →
      (∀ style, (positionBindings style sql).toList =
        spliced (style.literals (spans sql.toList)) (style.marks 0 (marksFrom 0 sql.toList))) ∧
      (spans sql.toList).length = marksFrom 0 sql.toList + 1 ∧
      env.formatQuery client sql (.list values) zone = do
        let literals ← (values.take (marksFrom 0 sql.toList)).mapM
          (Literal.forSlot client.capabilities.escape (env.nested.printersOn env) zone)
        return String.ofList (spliced (spans sql.toList) (literals.map String.toList))) := by
  have settled : sql.toList.head? = some '?' → endSlashes [] = 0 := fun _ => rfl
  have counted := (inlineSlots_eq_iff [] settled).2
  refine ⟨counted, fun free => ⟨fun style => positionBindings_spliced style sql, length_spansFrom [] sql.toList, ?_⟩⟩
  rw [formatQuery_list, counted.mpr free]
  refine bind_congr fun literals => ?_
  rw [inlineLiterals, inlineFrom_spliced literals [] settled free]
  rfl

/-- A literal that has a question mark of its own, and one that is part of the statement. -/
theorem formatQuery_spliced_escaped :
    let client : Client Value := { dialect := .postgres }
    let env : Environment := { client }
    let sql := "data \\? ? and rate = '5%' and id = ?"
    let values := [Value.str "k?", .int 1]
    PairFree [] sql.toList ∧
      (∀ style, (positionBindings style sql).toList =
        spliced (style.literals (spans sql.toList)) (style.marks 0 2)) ∧
      env.formatQuery client sql (.list values) = (do
        let literals ← values.mapM (Literal.forSlot client.capabilities.escape (env.nested.printersOn env) "local")
        return String.ofList (spliced (spans sql.toList) (literals.map String.toList))) ∧
      positionBindings .format sql = "data ? %s and rate = '5%%' and id = %s" ∧
      (env.formatQuery client sql (.list values)).outcome.1.toOption =
        some "data ? 'k?' and rate = '5%' and id = 1" := by
  intro client env sql values
  obtain ⟨counted, agrees⟩ := env.formatQuery_spliced client sql values "local"
  have marks : marksFrom 0 sql.toList = 2 := by decide +kernel
  have free : PairFree [] sql.toList := counted.mp (by decide +kernel)
  obtain ⟨forms, -, written⟩ := agrees free
  rw [marks] at forms written
  exact ⟨free, forms, written, by decide +kernel, by decide +kernel⟩

/-- Behind two backslashes a question mark is a placeholder in the form for a driver, but the value is not written
out. -/
theorem formatQuery_paired :
    let client : Client Value := { dialect := .postgres }
    let env : Environment := { client }
    let sql := "\\\\?"
    positionBindings .dollar sql = "\\\\$1" ∧
      (env.formatQuery client sql (.list [.int 1])).outcome.1.toOption = some "\\?" := by
  decide +kernel

end Environment

end SqlBuilder
