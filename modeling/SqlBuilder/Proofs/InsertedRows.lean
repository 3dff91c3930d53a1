import Mathlib.Data.Option.Basic
import SqlBuilder.Proofs.Injection
import SqlBuilder.Proofs.Results

/-!
# Reading the rows of an insert

An insert names its columns and has a list of cells for each row; a cell is a placeholder or the word for a
default. So its rows can be read back from its text and its values, by a reader that knows nothing of how it
was written.

* `Compiled.records?`: the rows of an insert, read from its tokens and its values.
* `Insertion.lists?_commas`, `Insertion.fillAll?_cells`: the reader on lists of cells.
* `Insertion.records?_of_sql`: an insert of cells under columns is read back as these.
-/

namespace SqlBuilder

/-! ## A reader for inserts -/

/-- A row of an insert: its cells by the names of their columns. A cell without a value has the default of
its column. -/
abbrev Record := List (String × Option Value)

/-- The value of a column. -/
def Record.value? (r : Record) (column : String) : Option Value :=
  (r.lookup column).join

namespace Token

/-- Whether a token is a mark of punctuation. -/
def isMark : Token → Bool
  | mark _ => true
  | _ => false

/-- The name in a delimited identifier. -/
def name? : Token → Option String
  | name cs => some (String.ofList cs)
  | _ => none

end Token

namespace Insertion

/-- The items of a list up to its closing parenthesis, one token each, and the tokens after it. -/
def items? : List Token → Option (List Token × List Token)
  | item :: .mark c :: rest =>
    if item.isMark then none
    else if c = ')' then some ([item], rest)
    else if c = ',' then (items? rest).map fun (items, after) => (item :: items, after)
    else none
  | _ => none

theorem length_of_items? {tokens items rest : List Token} (h : items? tokens = some (items, rest)) :
    rest.length < tokens.length := by
  induction tokens using items?.induct generalizing items with
  | case1 item c tail mark => simp [items?, mark] at h
  | case2 item tail plain =>
    simp only [items?, plain] at h
    cases h
    simp only [List.length_cons]
    omega
  | case3 item tail plain _ ih =>
    simp only [items?, plain] at h
    obtain ⟨⟨others, after⟩, read, same⟩ := Option.map_eq_some_iff.mp h
    obtain ⟨rfl, rfl⟩ := Prod.mk.inj same
    have shorter : after.length < tail.length := ih read
    simp only [List.length_cons]
    omega
  | case4 item c tail plain close comma => simp [items?, plain, close, comma] at h
  | case5 tokens other => simp [items?] at h

/-- Lists in parentheses with commas between them. -/
def lists? (tokens : List Token) : Option (List (List Token)) :=
  match tokens with
  | .mark c :: rest =>
    if c = '(' then
      match _read : items? rest with
      | some (items, []) => some [items]
      | some (items, .mark ',' :: after) => (lists? after).map (items :: ·)
      | _ => none
    else none
  | _ => none
termination_by tokens.length
decreasing_by
  have shorter := length_of_items? _read
  simp only [List.length_cons] at shorter ⊢
  omega

/-- The columns of an insert, in parentheses after its table, and its lists of cells. -/
def ofTokens? (tokens : List Token) : Option (List Token × List (List Token)) :=
  let values := Token.run "values".toList
  match (tokens.takeWhile (· ≠ values)).dropWhile (· ≠ .mark '('), tokens.dropWhile (· ≠ values) with
  | _ :: columns, _ :: rows =>
    match items? columns with
    | some (names, []) => (lists? rows).map (names, ·)
    | _ => none
  | _, _ => none

/-- The cells of a row, of which each placeholder takes a value, and the values that are left. -/
def fill? : List Token → List Value → Option (List (Option Value) × List Value)
  | [], values => some ([], values)
  | .run cs :: tokens, values =>
    if cs = ['?'] then
      match values with
      | [] => none
      | v :: values => (fill? tokens values).map fun (cells, rest) => (some v :: cells, rest)
    else if cs = "DEFAULT".toList then (fill? tokens values).map fun (cells, rest) => (none :: cells, rest)
    else none
  | _, _ => none

/-- The cells of all rows, which take all values. -/
def fillAll? : List (List Token) → List Value → Option (List (List (Option Value)))
  | [], [] => some []
  | [], _ :: _ => none
  | row :: rows, values => do
    let (cells, rest) ← fill? row values
    return cells :: (← fillAll? rows rest)

end Insertion

/-- The rows that an insert says, if it is read as one. -/
def Compiled.records? (q : Quotes) (c : Compiled Value) : Option (List Record) := do
  let (columns, rows) ← Insertion.ofTokens? (← lex q c.sql.toList)
  let names ← columns.mapM Token.name?
  let rows ← Insertion.fillAll? rows c.bindings
  guard (rows.all fun cells => cells.length = names.length)
  return rows.map names.zip

namespace Insertion

/-! ## Lists of tokens -/

/-- Parts with commas between them. -/
def commas : List (List Token) → List Token
  | [] => []
  | [part] => part
  | part :: rest => part ++ .mark ',' :: commas rest

/-- A list in parentheses. -/
def enclosed (items : List Token) : List Token :=
  .mark '(' :: commas (items.map ([·])) ++ [.mark ')']

theorem items?_commas {items : List Token} (filled : items ≠ []) (plain : ∀ t ∈ items, t.isMark = false)
    (rest : List Token) : items? (commas (items.map ([·])) ++ .mark ')' :: rest) = some (items, rest) := by
  induction items with
  | nil => exact absurd rfl filled
  | cons item items ih =>
    have first := plain item (.head _)
    cases items with
    | nil => simp [commas, items?, first]
    | cons next items =>
      have others := ih (by simp) fun t ht => plain t (.tail _ ht)
      simp only [List.map_cons] at others
      simp [commas, items?, first, others]

theorem lists?_commas {lists : List (List Token)} (filled : lists ≠ [])
    (plain : ∀ items ∈ lists, items ≠ [] ∧ ∀ t ∈ items, t.isMark = false) :
    lists? (commas (lists.map enclosed)) = some lists := by
  induction lists with
  | nil => exact absurd rfl filled
  | cons items lists ih =>
    obtain ⟨nonempty, words⟩ := plain items (.head _)
    cases lists with
    | nil =>
      have read := items?_commas nonempty words []
      rw [List.map_singleton, commas, enclosed, List.cons_append, lists?]
      simp only [if_true]
      split
      next items' same => exact congrArg (fun read => read.map fun (items, _) => [items]) (same.symm.trans read)
      next items' after same => cases same.symm.trans read
      next other _ => exact absurd read (other items)
    | cons next lists =>
      have others := ih (by simp) fun items hi => plain items (.tail _ hi)
      have whole : commas ((items :: next :: lists).map enclosed) =
          .mark '(' :: (commas (items.map ([·])) ++ .mark ')' ::
            .mark ',' :: commas ((next :: lists).map enclosed)) := by
        simp [commas, enclosed]
      have read := items?_commas nonempty words (.mark ',' :: commas ((next :: lists).map enclosed))
      rw [whole, lists?]
      simp only [if_true]
      split
      next items' same => cases same.symm.trans read
      next items' after same =>
        cases same.symm.trans read
        rw [others]
        rfl
      next _ other => exact absurd read (other items _)

/-! ## Cells -/

/-- The text of a cell. -/
def cellSql : Option Value → Sql
  | some v => [.param v]
  | none => Sql.word "DEFAULT"

/-- The token of a cell. -/
def cellToken : Option Value → Token
  | some _ => .run ['?']
  | none => .run "DEFAULT".toList

theorem bindings_cellSql (cell : Option Value) : (cellSql cell).bindings = cell.toList := by
  cases cell <;> rfl

theorem isMark_cellToken (cell : Option Value) : (cellToken cell).isMark = false := by
  cases cell <;> rfl

/-- The values of a row. -/
def given (cells : List (Option Value)) : List Value :=
  cells.flatMap Option.toList

/-- The placeholders of a row take its values. -/
theorem fill?_cells (cells : List (Option Value)) (rest : List Value) :
    fill? (cells.map cellToken) (given cells ++ rest) = some (cells, rest) := by
  induction cells with
  | nil => rfl
  | cons cell cells ih =>
    cases cell with
    | none =>
      have word : "DEFAULT".toList ≠ ['?'] := by decide
      change fill? (.run "DEFAULT".toList :: cells.map cellToken) (given cells ++ rest) = _
      unfold fill?
      rw [if_neg word, if_pos rfl, ih]
      rfl
    | some v =>
      change fill? (.run ['?'] :: cells.map cellToken) (v :: (given cells ++ rest)) = _
      unfold fill?
      rw [if_pos rfl]
      simp only [ih]
      rfl

/-- The placeholders of all rows take all values. -/
theorem fillAll?_cells (rows : List (List (Option Value))) :
    fillAll? (rows.map (List.map cellToken)) (rows.flatMap given) = some rows := by
  induction rows with
  | nil => rfl
  | cons cells rows ih =>
    simp only [List.map_cons, List.flatMap_cons, fillAll?, fill?_cells, Option.bind_eq_bind, Option.bind_some, ih]
    rfl

/-! ## Texts -/

/-- The words of an insert, with their tokens. -/
def words : List (String × List Token) :=
  [("insert into ", [.run "insert".toList, .run "into".toList]), (" values ", [.run "values".toList]), (" ", []),
    ("(", [.mark '(']), (")", [.mark ')']), (", ", [.mark ',']), (".", [.mark '.']), ("*", [.run ['*']]),
    ("?", [.run ['?']]), ("DEFAULT", [.run "DEFAULT".toList])]

/-- The text of an insert of cells under columns. -/
def sql (quoting : Quoting) (table : Sql) (names : List String) (rows : List (List (Option Value))) : Sql :=
  Sql.word "insert into " ++ table ++ Sql.word " " ++
    (Sql.commas (names.map fun name => [.name quoting name])).parens ++ Sql.word " values " ++
    Sql.commas (rows.map fun cells => (Sql.commas (cells.map cellSql)).parens)

theorem bindings_sql (quoting : Quoting) {table : Sql} (silent : table.bindings = []) (names : List String)
    (rows : List (List (Option Value))) : (sql quoting table names rows).bindings = rows.flatMap given := by
  have named : names.flatMap (fun name => Sql.bindings [.name quoting name]) = [] := by
    simp [Sql.bindings, Piece.binding?]
  have cells (row : List (Option Value)) : row.flatMap (fun cell => (cellSql cell).bindings) = given row := by
    simp only [bindings_cellSql]
    rfl
  simp [sql, silent, List.flatMap_map, named, cells]

section Reading

variable {d : Dialect} (builtin : d ∈ Dialect.builtin)

include builtin

/-- The tokens of two fragments are those of both, if one parts at the border. -/
theorem reads_append {a b : Sql} {tokens more : List Token} (first : Reads d.capabilities.quotes a.text.toList tokens)
    (second : Reads d.capabilities.quotes b.text.toList more)
    (border : partsAfter a.text = true ∨ partsBefore b.text = true) :
    Reads d.capabilities.quotes (a ++ b).text.toList (tokens ++ more) := by
  rw [Sql.text_append, String.toList_append]
  refine first.append (Dialect.quotes_plain d builtin).1 second (border.imp (fun after c hc => ?_) fun before c hc => ?_)
  · simpa [partsAfter, Option.mem_def.mp hc] using after
  · simpa [partsBefore, Option.mem_def.mp hc] using before

theorem reads_word (w : String) (tokens : List Token) (known : (w, tokens) ∈ words) :
    Reads d.capabilities.quotes (Sql.word w).text.toList tokens := by
  have read : ∀ d ∈ Dialect.builtin, ∀ entry ∈ words,
      lex d.capabilities.quotes (Sql.word entry.1).text.toList = some entry.2 := by
    decide +kernel
  exact .of_lex (read d builtin (w, tokens) known)

/-- The projection of all columns is a word, and any other name a delimited identifier. -/
theorem reads_name (name : String) : Reads d.capabilities.quotes (Sql.text [.name d.capabilities.quoting name]).toList
    [if name = "*" then .run ['*'] else .name name.toList] := by
  rw [Sql.text_name]
  obtain ⟨plain, left, right⟩ := Dialect.quotes_plain d builtin
  split
  next star =>
    rw [star]
    exact reads_word builtin "*" _ (by decide)
  next other =>
    rw [Quoting.toList_quote left right other]
    exact reads_delimited plain _

theorem reads_cell (cell : Option Value) : Reads d.capabilities.quotes (cellSql cell).text.toList [cellToken cell] := by
  cases cell with
  | none => exact reads_word builtin "DEFAULT" _ (by decide)
  | some v => exact reads_word builtin "?" [.run ['?']] (by decide)

theorem reads_commas {α : Type} {f : α → Sql} {g : α → List Token} {xs : List α}
    (each : ∀ x ∈ xs, Reads d.capabilities.quotes (f x).text.toList (g x)) :
    Reads d.capabilities.quotes (Sql.commas (xs.map f)).text.toList (commas (xs.map g)) := by
  induction xs with
  | nil => exact .nil
  | cons x xs ih =>
    have first := each x (.head _)
    cases xs with
    | nil => exact first
    | cons y ys =>
      have others := ih fun x hx => each x (.tail _ hx)
      have comma := reads_word builtin ", " [.mark ','] (by decide)
      have whole := reads_append builtin (reads_append builtin first comma (.inr (by decide))) others
        (.inl (by rw [Sql.text_append]; exact partsAfter_append (by decide)))
      rwa [List.append_assoc (g x)] at whole

theorem reads_parens {inner : Sql} {tokens : List Token} (h : Reads d.capabilities.quotes inner.text.toList tokens) :
    Reads d.capabilities.quotes inner.parens.text.toList (.mark '(' :: tokens ++ [.mark ')']) := by
  have open_ := reads_word builtin "(" [.mark '('] (by decide)
  have close := reads_word builtin ")" [.mark ')'] (by decide)
  exact reads_append builtin (reads_append builtin open_ h (.inl (by decide))) close (.inr (by decide))

/-- A list of fragments of one token each, in parentheses. -/
theorem reads_enclosed {α : Type} {f : α → Sql} {g : α → Token} {xs : List α}
    (each : ∀ x ∈ xs, Reads d.capabilities.quotes (f x).text.toList [g x]) :
    Reads d.capabilities.quotes (Sql.commas (xs.map f)).parens.text.toList (enclosed (xs.map g)) := by
  have inner := reads_commas builtin (g := fun x => [g x]) each
  rw [enclosed, List.map_map]
  exact reads_parens builtin inner

/-- The segments of a table, with dots between them, have no parentheses and no word for values. -/
theorem reads_table (segments : List String) : ∃ tokens,
    Reads d.capabilities.quotes
      (Sql.joined "." (segments.map fun segment => [.name d.capabilities.quoting segment])).text.toList tokens ∧
        ∀ t ∈ tokens, t ≠ .mark '(' ∧ t ≠ .run "values".toList := by
  have name (segment : String) : ∀ t ∈ [if segment = "*" then Token.run ['*'] else .name segment.toList],
      t ≠ .mark '(' ∧ t ≠ .run "values".toList := by
    intro t ht
    obtain rfl := List.mem_singleton.mp ht
    split
    · decide
    · exact ⟨nofun, nofun⟩
  induction segments with
  | nil => exact ⟨[], .nil, by simp⟩
  | cons segment segments ih =>
    have first := reads_name builtin segment
    cases segments with
    | nil => exact ⟨_, first, name segment⟩
    | cons next segments =>
      obtain ⟨tokens, others, plain⟩ := ih
      have dot := reads_word builtin "." [.mark '.'] (by decide)
      have whole := reads_append builtin (reads_append builtin first dot (.inr (by decide))) others
        (.inl (by rw [Sql.text_append]; exact partsAfter_append (by decide)))
      refine ⟨_, whole, fun t ht => ?_⟩
      rcases List.mem_append.mp ht with ht | ht
      · rcases List.mem_append.mp ht with ht | ht
        · exact name segment t ht
        · obtain rfl := List.mem_singleton.mp ht
          exact ⟨by decide, nofun⟩
      · exact plain t ht

/-- The tokens of an insert. -/
theorem reads_sql {table : Sql} {tokens : List Token} (named : Reads d.capabilities.quotes table.text.toList tokens)
    {names : List String} (quoted : "*" ∉ names) (rows : List (List (Option Value))) :
    Reads d.capabilities.quotes (sql d.capabilities.quoting table names rows).text.toList
      ([.run "insert".toList, .run "into".toList] ++ tokens ++ enclosed (names.map fun name => .name name.toList) ++
        .run "values".toList :: commas ((rows.map (List.map cellToken)).map enclosed)) := by
  have name : ∀ name ∈ names, Reads d.capabilities.quotes (Sql.text [.name d.capabilities.quoting name]).toList
      [.name name.toList] := by
    intro name hn
    have other : name ≠ "*" := fun star => quoted (star ▸ hn)
    simpa only [other, if_false] using reads_name builtin name
  have row (cells : List (Option Value)) : Reads d.capabilities.quotes
      (Sql.commas (cells.map cellSql)).parens.text.toList (enclosed (cells.map cellToken)) :=
    reads_enclosed builtin fun cell _ => reads_cell builtin cell
  have insert := reads_word builtin "insert into " [.run "insert".toList, .run "into".toList]
    (by decide)
  have blank := reads_word builtin " " [] (by decide)
  have values := reads_word builtin " values " [.run "values".toList] (by decide)
  have target := reads_append builtin insert named (.inl (by decide))
  have head := reads_append builtin (reads_append builtin target blank (.inr (by decide)))
    (reads_enclosed builtin name) (.inl (by rw [Sql.text_append]; exact partsAfter_append (by decide)))
  have whole := reads_append builtin (reads_append builtin head values (.inr (by decide)))
    (reads_commas builtin fun cells (_ : cells ∈ rows) => row cells)
    (.inl (by rw [Sql.text_append]; exact partsAfter_append (by decide)))
  unfold sql
  simpa only [List.append_nil, List.append_assoc, List.cons_append, List.nil_append, List.map_map,
    Function.comp_def] using whole

end Reading

theorem mem_commas {items : List Token} {t : Token} (h : t ∈ commas (items.map ([·]))) :
    t = .mark ',' ∨ t ∈ items := by
  induction items with
  | nil => cases h
  | cons item items ih =>
    cases items with
    | nil => exact .inr h
    | cons next items =>
      rcases List.mem_cons.mp h with rfl | h
      · exact .inr (.head _)
      · rcases List.mem_cons.mp h with rfl | h
        · exact .inl rfl
        · exact (ih h).imp_right (.tail _)

theorem mem_enclosed {items : List Token} {t : Token} (h : t ∈ enclosed items) :
    t.isMark = true ∨ t ∈ items := by
  rcases List.mem_append.mp h with h | h
  · rcases List.mem_cons.mp h with rfl | h
    · exact .inl rfl
    · refine (mem_commas h).imp_left ?_
      rintro rfl
      rfl
  · exact .inl (List.mem_singleton.mp h ▸ rfl)

/-- The tokens of an insert are read as its columns and its lists of cells. -/
theorem ofTokens?_sql {tokens names : List Token} {lists : List (List Token)}
    (plain : ∀ t ∈ tokens, t ≠ .mark '(' ∧ t ≠ .run "values".toList) (named : names ≠ [])
    (quoted : ∀ t ∈ names, ∃ cs, t = .name cs) (filled : lists ≠ [])
    (listed : ∀ items ∈ lists, items ≠ [] ∧ ∀ t ∈ items, t.isMark = false) :
    ofTokens? (tokens ++ enclosed names ++ .run "values".toList :: commas (lists.map enclosed)) =
      some (names, lists) := by
  have before : ∀ t ∈ tokens, decide (t ≠ .mark '(') = true := fun t ht => decide_eq_true (plain t ht).1
  have others : ∀ t ∈ tokens ++ enclosed names, decide (t ≠ .run "values".toList) = true := by
    intro t ht
    refine decide_eq_true ?_
    rcases List.mem_append.mp ht with ht | ht
    · exact (plain t ht).2
    · rcases mem_enclosed ht with mark | ht
      · rintro rfl
        cases mark
      · obtain ⟨cs, rfl⟩ := quoted t ht
        exact nofun
  have columns : items? (commas (names.map ([·])) ++ [.mark ')']) = some (names, []) :=
    items?_commas named (fun t ht => by obtain ⟨cs, rfl⟩ := quoted t ht; rfl) []
  have head : (tokens ++ enclosed names).dropWhile (· ≠ .mark '(') =
      .mark '(' :: (commas (names.map ([·])) ++ [.mark ')']) := by
    rw [List.dropWhile_append_of_pos before]
    rfl
  have stops (word : Token) (rest : List Token) : (word :: rest).takeWhile (· ≠ word) = [] ∧
      (word :: rest).dropWhile (· ≠ word) = word :: rest := by simp
  unfold ofTokens?
  simp only
  rw [List.takeWhile_append_of_pos others, List.dropWhile_append_of_pos others, (stops _ _).1,
    (stops _ _).2, List.append_nil, head]
  simp only [columns, lists?_commas filled listed, Option.map_some]

/-- An insert of cells under columns is read back as the cells of each row, by the names of their columns. -/
theorem records?_of_sql {d : Dialect} (builtin : d ∈ Dialect.builtin) (segments : List String) {names : List String}
    (named : names ≠ []) (quoted : "*" ∉ names) {rows : List (List (Option Value))} (filled : rows ≠ [])
    (full : ∀ cells ∈ rows, cells.length = names.length) {c : Compiled Value}
    (text : c.sql = (sql d.capabilities.quoting
      (Sql.joined "." (segments.map fun segment => [.name d.capabilities.quoting segment])) names rows).text)
    (values : c.bindings = rows.flatMap given) : c.records? d.capabilities.quotes = some (rows.map names.zip) := by
  obtain ⟨tokens, table, plain⟩ := reads_table builtin segments
  have read := (reads_sql builtin table quoted rows).lex
  have target : ∀ t ∈ [.run "insert".toList, .run "into".toList] ++ tokens,
      t ≠ .mark '(' ∧ t ≠ .run "values".toList := by
    intro t ht
    rcases List.mem_append.mp ht with ht | ht
    · have words : ∀ t ∈ [Token.run "insert".toList, .run "into".toList],
          t ≠ .mark '(' ∧ t ≠ .run "values".toList := by decide
      exact words t ht
    · exact plain t ht
  have listed : ∀ items ∈ rows.map (List.map cellToken), items ≠ [] ∧ ∀ t ∈ items, t.isMark = false := by
    intro items hi
    obtain ⟨cells, hc, rfl⟩ := List.mem_map.mp hi
    refine ⟨?_, fun t ht => ?_⟩
    · rw [ne_eq, List.map_eq_nil_iff, ← List.length_eq_zero_iff, full cells hc, List.length_eq_zero_iff]
      exact named
    · obtain ⟨cell, -, rfl⟩ := List.mem_map.mp ht
      exact isMark_cellToken cell
  have delimited : ∀ t ∈ names.map fun name => Token.name name.toList, ∃ cs, t = .name cs := by simp
  have parsed := ofTokens?_sql target (by simpa using named) delimited (by simpa using filled) listed
  have columns : (names.map fun name => Token.name name.toList).mapM Token.name? = some names := by
    clear * -
    induction names with
    | nil => rfl
    | cons name names ih => simp [Token.name?, ih]
  have fits : rows.all (fun cells => cells.length = names.length) = true := by simpa using full
  unfold Compiled.records?
  rw [text, read, values]
  simp only [Option.bind_eq_bind, Option.bind_some, parsed, columns, fillAll?_cells, fits]
  rfl

end Insertion

end SqlBuilder
