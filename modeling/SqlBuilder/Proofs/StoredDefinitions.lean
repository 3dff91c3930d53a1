import SqlBuilder.Proofs.Injection
import SqlBuilder.Proofs.Results
import SqlBuilder.Rebuild.Plan

/-!
# Reading back table definitions

The stored text of a table is split into its items by a scanner that counts parentheses and looks for closing
quotes. A list of closed texts is split into these, and an item that begins with a quoted name defines the column
of that name.

* `Definition.Closed`: texts that close the quotes and parentheses that they open.
* `Definition.itemsFrom_closed`: what the scanner makes of a closed text.
* `Definition.split_items`: a list of closed texts is split into them.
* `Item.Defines`: an item that begins with the name of a column.
* `DefinitionChange.apply_column`: a change of one column changes its item and no other one.
-/

namespace SqlBuilder

open List (Forall₂)

namespace Text

/-! ## Characters that occur -/

variable (p : Char → Prop) [DecidablePred p]

-- What holds of the characters of a text is decided on these, and not on all that there are.

instance decidableForall (cs : List Char) : Decidable (∀ c ∈ cs, p c) :=
  cs.decidableBAll p

instance decidableForallHead (first : Option Char) : Decidable (∀ c ∈ first, p c) :=
  first.decidableForallMem

instance decidableExistsHead (first : Option Char) : Decidable (∃ c ∈ first, p c) :=
  first.decidableExistsMem

end Text

namespace Definition

/-! ## Closed texts -/

/-- A text closes the quotes and the parentheses that it opens, and no others. Its commas stand inside of these,
if they are not allowed anywhere. -/
inductive Closed : Bool → List Char → Prop
  | nil {commas : Bool} : Closed commas []
  | plain {commas : Bool} {c : Char} {cs : List Char} (opens : closing? c = none) (enters : c ≠ '(') (leaves : c ≠ ')')
      (parts : c = ',' → commas = true) (rest : Closed commas cs) : Closed commas (c :: cs)
  | quoted {commas : Bool} {c q : Char} {body cs : List Char} (opens : closing? c = some q) (inside : q ∉ body)
      (rest : Closed commas cs) : Closed commas (c :: (body ++ q :: cs))
  | parens {commas : Bool} {inner cs : List Char} (inside : Closed true inner) (rest : Closed commas cs) :
      Closed commas ('(' :: (inner ++ ')' :: cs))

/-- Whether a character is no quote, no parenthesis and no comma. -/
def isPlain (c : Char) : Bool :=
  (closing? c).isNone && c != '(' && c != ')' && c != ','

namespace Closed

variable {commas : Bool} {cs ds : List Char}

theorem of_plain (h : cs.all isPlain = true) : Closed commas cs := by
  induction cs with
  | nil => exact .nil
  | cons c cs ih =>
    obtain ⟨first, rest⟩ := Bool.and_eq_true_iff.mp h
    simp only [isPlain, Bool.and_eq_true, Option.isNone_iff_eq_none, bne_iff_ne] at first
    obtain ⟨⟨⟨opens, enters⟩, leaves⟩, comma⟩ := first
    exact .plain opens enters leaves (fun same => absurd same comma) (ih rest)

theorem append (h : Closed commas cs) (h' : Closed commas ds) : Closed commas (cs ++ ds) := by
  induction h with
  | nil => exact h'
  | plain opens enters leaves parts _ ih => exact .plain opens enters leaves parts (ih h')
  | quoted opens inside _ ih =>
    rw [List.cons_append, List.append_assoc]
    exact .quoted opens inside (ih h')
  | parens inside _ _ ih =>
    rw [List.cons_append, List.append_assoc]
    exact .parens inside (ih h')

theorem blank (h : Closed commas cs) : Closed commas (' ' :: cs) :=
  .plain rfl (by decide) (by decide) nofun h

/-- A text in quotes is closed if the quotes in it are doubled. -/
theorem delimited {q : Char} (opens : closing? q = some q) (cs : List Char) :
    Closed commas (q :: (doubled q cs ++ [q])) := by
  -- a doubled quote ends the quoted part that is read, and the next one begins there
  suffices ∀ body, q ∉ body → Closed commas (q :: (body ++ doubled q cs ++ [q])) from this [] nofun
  induction cs with
  | nil =>
    intro body plain
    simpa [doubled] using Closed.quoted opens plain .nil
  | cons c cs ih =>
    intro body plain
    by_cases same : c = q
    · simpa [doubled, same] using Closed.quoted opens plain (ih [] nofun)
    · simpa [doubled, same] using ih (body ++ [c]) (by simp [plain, Ne.symm same])

end Closed

/-! ## The scanner -/

/-- A quoted part is read up to its closing quote. -/
theorem itemsFrom_quote {q : Char} {body : List Char} (inside : q ∉ body) (depth : Nat) (current rest : List Char) :
    itemsFrom (some q) depth current (body ++ q :: rest) =
      itemsFrom none depth (q :: (body.reverse ++ current)) rest := by
  induction body generalizing current with
  | nil => simp [itemsFrom]
  | cons c body ih =>
    obtain ⟨first, others⟩ := not_or.mp (mt List.mem_cons.mpr inside)
    rw [List.cons_append, itemsFrom]
    simp only [if_neg (Ne.symm first)]
    rw [ih others]
    simp

/-- A closed text is read as a part of the item that it stands in. -/
theorem itemsFrom_closed {commas : Bool} {cs : List Char} (h : Closed commas cs) (depth : Nat)
    (allowed : commas = true → 0 < depth) (current rest : List Char) :
    itemsFrom none depth current (cs ++ rest) = itemsFrom none depth (cs.reverse ++ current) rest := by
  induction h generalizing depth current rest with
  | nil => rfl
  | @plain commas c cs opens enters leaves parts _ ih =>
    have kept : ¬ (c = ',' ∧ depth = 0) := fun ⟨comma, out⟩ => (allowed (parts comma)).ne' out
    have step : itemsFrom none depth current (c :: (cs ++ rest)) = itemsFrom none depth (c :: current) (cs ++ rest) := by
      simp [itemsFrom, opens, enters, leaves, kept]
    rw [List.cons_append, step, ih depth allowed]
    simp
  | @quoted commas c q body cs opens inside _ ih =>
    have step : itemsFrom none depth current (c :: (body ++ q :: (cs ++ rest))) =
        itemsFrom (some q) depth (c :: current) (body ++ q :: (cs ++ rest)) := by
      simp [itemsFrom, opens]
    rw [List.cons_append, List.append_assoc, List.cons_append, step, itemsFrom_quote inside, ih depth allowed]
    simp
  | @parens commas inner cs _ _ ihInner ih =>
    have enter : itemsFrom none depth current ('(' :: (inner ++ ')' :: (cs ++ rest))) =
        itemsFrom none (depth + 1) ('(' :: current) (inner ++ ')' :: (cs ++ rest)) := by
      simp [itemsFrom, closing?]
    have leave (current : List Char) : itemsFrom none (depth + 1) current (')' :: (cs ++ rest)) =
        itemsFrom none depth (')' :: current) (cs ++ rest) := by
      simp [itemsFrom, closing?]
    rw [List.cons_append, List.append_assoc, List.cons_append, enter, ihInner _ fun _ => Nat.succ_pos depth, leave,
      ih depth allowed]
    simp

/-- Texts with commas and blanks between them. -/
def listed (texts : List (List Char)) : List Char :=
  [',', ' '].intercalate texts

/-- A comma between items ends the one before it. -/
theorem itemsFrom_comma (current cs : List Char) : itemsFrom none 0 current (',' :: ' ' :: cs) =
    (itemsFrom none 0 [' '] cs).map fun (items, rest) => (Text.stripChars current.reverse :: items, rest) := by
  simp [itemsFrom, closing?]

/-- The scanner reads a text as a part of one item. -/
def Unbroken (text : List Char) : Prop :=
  ∀ current rest, itemsFrom none 0 current (text ++ rest) = itemsFrom none 0 (text.reverse ++ current) rest

theorem Closed.unbroken {text : List Char} (h : Closed false text) : Unbroken text :=
  itemsFrom_closed h 0 nofun

/-- A list of texts that are parts of one item each, up to its closing parenthesis, is read as these. -/
theorem itemsFrom_listed {text : List Char} {texts : List (List Char)} (h : ∀ t ∈ text :: texts, Unbroken t)
    (current tail : List Char) :
    itemsFrom none 0 current (listed (text :: texts) ++ ')' :: tail) =
      some (Text.stripChars (current.reverse ++ text) :: texts.map Text.stripChars, tail) := by
  induction texts generalizing text current with
  | nil =>
    have whole := h text (.head _) current (')' :: tail)
    simp [listed, whole, itemsFrom, closing?]
  | cons next texts ih =>
    have others := ih (fun t ht => h t (.tail _ ht)) [' ']
    have blank : Text.stripChars ([' '].reverse ++ next) = Text.stripChars next := rfl
    have whole : listed (text :: next :: texts) = text ++ ',' :: ' ' :: listed (next :: texts) := by
      simp [listed, List.intercalate]
    rw [blank] at others
    rw [whole, List.append_assoc, h text (.head _), List.cons_append, List.cons_append, itemsFrom_comma, others]
    simp

/-- A definition is split behind its first parenthesis. -/
theorem split_head {head body : List Char} {sql : String} (plainHead : '(' ∉ head)
    (text : sql.toList = head ++ '(' :: body) : split sql =
      match itemsFrom none 0 [] body with
      | some (items, tail) => .ok { head, items := items.filter (!·.isEmpty), tail }
      | none => .error (.definitionUnbalanced sql) := by
  have before : sql.toList.takeWhile (· != '(') = head := by
    have others : ∀ c ∈ head, (c != '(') = true := by
      rintro c hc
      exact bne_iff_ne.mpr (by rintro rfl; exact plainHead hc)
    rw [text, List.takeWhile_append_of_pos others]
    simp
  have after : sql.toList.drop head.length = '(' :: body := by
    rw [text, List.drop_left]
  unfold split
  cases read : itemsFrom none 0 [] body <;> simp only [before, after, read]

/-- A definition is split into the texts that are listed in it, but for the empty ones. -/
theorem split_listed {head tail : List Char} {texts : List (List Char)} {sql : String} (plainHead : '(' ∉ head)
    (unbroken : ∀ t ∈ texts, Unbroken t) (text : sql.toList = head ++ '(' :: (listed texts ++ ')' :: tail)) :
    split sql = .ok { head, items := (texts.map Text.stripChars).filter (!·.isEmpty), tail } := by
  rw [split_head plainHead text]
  cases texts with
  | nil => rfl
  | cons first others =>
    rw [itemsFrom_listed unbroken]
    rfl

end Definition

/-! ## Items that define a column -/

namespace Item

/-- The name of a column as it stands at the start of its definition. -/
def nameText (name : String) : List Char :=
  (Dialect.sqlite.capabilities.quoting.quote name).toList

theorem nameText_star : nameText "*" = ['*'] := by
  rfl

theorem nameText_quoted {name : String} (quoted : name ≠ "*") (plain : '\x60' ∉ name.toList) :
    nameText name = '\x60' :: (name.toList ++ ['\x60']) := by
  have single : doubled '\x60' name.toList = name.toList := by
    have each : ∀ c ∈ name.toList, (if c = '\x60' then [c, c] else [c]) = [c] := by
      rintro c hc
      exact if_neg (by rintro rfl; exact plain hc)
    rw [doubled, List.flatMap_congr each, List.flatMap_singleton']
  have within : Dialect.sqlite ∈ Dialect.builtin := by simp [Dialect.builtin]
  obtain ⟨-, left, right⟩ := Dialect.quotes_plain _ within
  rw [nameText, Quoting.toList_quote left right quoted]
  change '\x60' :: doubled '\x60' name.toList ++ ['\x60'] = _
  rw [single, List.cons_append]

/-- A quoted name begins and ends with characters that are no blanks. -/
theorem nameText_ends (name : String) (plain : '\x60' ∉ name.toList) :
    ∃ c front last, nameText name = c :: front ∧ nameText name = last ++ [c] ∧ Text.isBlank c = false := by
  by_cases star : name = "*"
  · rw [star, nameText_star]
    exact ⟨'*', [], [], rfl, rfl, rfl⟩
  · rw [nameText_quoted star plain]
    exact ⟨'\x60', _, '\x60' :: name.toList, rfl, rfl, rfl⟩

/-- A text is nothing, or it begins with a blank. -/
def Follows (rest : List Char) : Prop :=
  ∀ c ∈ rest.head?, Text.isBlank c = true

instance (rest : List Char) : Decidable (Follows rest) :=
  inferInstanceAs (Decidable (∀ c ∈ rest.head?, _))

theorem Follows.append {cs ds : List Char} (h : Follows cs) (h' : Follows ds) : Follows (cs ++ ds) := by
  cases cs with
  | nil => exact h'
  | cons c cs => exact h

/-- An item begins with the name of a column, which has no quotes in it, and with a blank after the name if
anything follows. -/
structure Defines (name : String) (item : Item) : Prop where
  plain : '\x60' ∉ name.toList
  starts : ∃ rest, item = nameText name ++ rest ∧ Follows rest

/-- The column that an item defines is found by its name. -/
theorem Defines.column? {name : String} {item : Item} (h : Defines name item) :
    item.column? = .ok (some name.toList) := by
  obtain ⟨plain, rest, rfl, follows⟩ := h
  by_cases star : name = "*"
  · have word : firstWord ('*' :: rest) = .ok ['*'] := by
      have none_ : rest.takeWhile (fun c => !Text.isBlank c) = [] := by
        cases rest with
        | nil => rfl
        | cons c cs => simp [follows c rfl]
      have blank : Text.isBlank '*' = false := rfl
      simp [firstWord, Text.firstWord?, blank, none_]
    rw [star, nameText_star, List.singleton_append, Item.column?]
    change (if false = true then _ else (firstWord ('*' :: rest)).map some) = _
    rw [word]
    rfl
  · have others : ∀ c ∈ name.toList, (c != '\x60') = true := by
      rintro c hc
      exact bne_iff_ne.mpr (by rintro rfl; exact plain hc)
    have name_ : (name.toList ++ '\x60' :: rest).takeWhile (· != '\x60') = name.toList := by
      rw [List.takeWhile_append_of_pos others]
      simp
    have shorter : name.toList.length < (name.toList ++ '\x60' :: rest).length := by
      simp only [List.length_append, List.length_cons]
      omega
    rw [nameText_quoted star plain, List.cons_append, List.append_assoc, List.singleton_append, Item.column?]
    change (if false = true then _ else
      if ((name.toList ++ '\x60' :: rest).takeWhile (· != '\x60')).length < _ then _ else _) = _
    rw [name_, if_pos shorter]
    rfl

/-- Trimming a text stops at a character that is no blank. -/
theorem trimmedRight_append (front : List Char) {c : Char} (solid : Text.isBlank c = false) (rest : List Char) :
    Text.trimmedRight Text.isBlank (front ++ c :: rest) = front ++ c :: Text.trimmedRight Text.isBlank rest := by
  have stops (back : List Char) : (back ++ c :: front.reverse).dropWhile Text.isBlank =
      back.dropWhile Text.isBlank ++ c :: front.reverse := by
    induction back with
    | nil => simp [solid]
    | cons d back ih =>
      rw [List.cons_append, List.dropWhile_cons, List.dropWhile_cons]
      split
      · exact ih
      · rfl
  have reversed : (front ++ c :: rest).reverse = rest.reverse ++ c :: front.reverse := by simp
  rw [Text.trimmedRight, reversed, stops]
  simp [Text.trimmedRight]

theorem Follows.trimmedRight {rest : List Char} (h : Follows rest) :
    Follows (Text.trimmedRight Text.isBlank rest) := by
  have start : Text.trimmedRight Text.isBlank rest <+: rest := by
    rw [Text.trimmedRight, ← List.reverse_suffix, List.reverse_reverse]
    exact List.dropWhile_suffix _
  intro c hc
  obtain ⟨cs, begins⟩ := List.head?_eq_some_iff.mp (Option.mem_def.mp hc)
  obtain ⟨after, whole⟩ := start
  rw [begins] at whole
  exact h c (by rw [← whole]; rfl)

/-- Blanks around a definition do not matter. -/
theorem Defines.strip {name : String} {item : Item} (h : Defines name item) : Defines name (Text.stripChars item) := by
  obtain ⟨plain, rest, rfl, follows⟩ := h
  obtain ⟨c, front, last, begins, ends, solid⟩ := nameText_ends name plain
  have kept : (nameText name ++ rest).dropWhile Text.isBlank = nameText name ++ rest := by
    rw [begins, List.cons_append, List.dropWhile_cons, solid]
    rfl
  have trimmed : Text.stripChars (nameText name ++ rest) =
      nameText name ++ Text.trimmedRight Text.isBlank rest := by
    rw [Text.stripChars, Text.trimmed, kept, ends, List.append_assoc, List.singleton_append,
      trimmedRight_append last solid]
    simp
  exact ⟨plain, _, trimmed, follows.trimmedRight⟩

theorem Defines.filled {name : String} {item : Item} (h : Defines name item) : item.isEmpty = false := by
  obtain ⟨plain, rest, rfl, -⟩ := h
  obtain ⟨c, front, -, begins, -⟩ := nameText_ends name plain
  rw [begins]
  rfl

/-- A definition that forbids nulls defines the same column. -/
theorem Defines.withNotNull {name : String} {item : Item} (h : Defines name item) : Defines name item.withNotNull := by
  obtain ⟨plain, rest, rfl, follows⟩ := h
  unfold Item.withNotNull
  split
  · exact ⟨plain, rest ++ " not null".toList, List.append_assoc .., follows.append (by decide)⟩
  · exact ⟨plain, rest, rfl, follows⟩

end Item

/-! ## Splitting, and changing one column -/

theorem exists_of_mem_right {α β : Type} {R : α → β → Prop} {as : List α} {bs : List β} (h : Forall₂ R as bs) {b : β}
    (within : b ∈ bs) : ∃ a ∈ as, R a b := by
  induction h with
  | nil => cases within
  | @cons a b' as bs first _ ih =>
    rcases List.mem_cons.mp within with rfl | within
    · exact ⟨a, .head _, first⟩
    · obtain ⟨a, member, related⟩ := ih within
      exact ⟨a, .tail _ member, related⟩

section Columns

variable {names : List String} {items : List Item}

/-- Each of some definitions is trimmed by itself, and none of them is nothing. -/
theorem Item.Defines.trimmed (h : Forall₂ Item.Defines names items) :
    Forall₂ Item.Defines names (items.map Text.stripChars) ∧
      ∀ item ∈ items.map Text.stripChars, (!item.isEmpty) = true := by
  induction h with
  | nil => exact ⟨.nil, by simp⟩
  | cons first _ ih =>
    obtain ⟨others, filled⟩ := ih
    have defines := first.strip
    exact ⟨.cons defines others, List.forall_mem_cons.mpr ⟨by rw [defines.filled]; rfl, filled⟩⟩

/-- The definitions of columns in parentheses are split into them. -/
theorem Definition.split_items {head : List Char} (plainHead : '(' ∉ head)
    (closed : ∀ item ∈ items, Definition.Closed false item) (defines : Forall₂ Item.Defines names items)
    {tail : List Char} {sql : String}
    (text : sql.toList = head ++ '(' :: (Definition.listed items ++ ')' :: tail)) :
    Definition.split sql = .ok { head, items := items.map Text.stripChars, tail } := by
  obtain ⟨-, filled⟩ := Item.Defines.trimmed defines
  rw [Definition.split_listed plainHead (fun item hi => (closed item hi).unbroken) text, List.filter_eq_self.mpr filled]

/-- The columns that definitions define are found by their names. -/
theorem Rebuild.columns_of_defines (h : Forall₂ Item.Defines names items) :
    Rebuild.columns items = .ok (names.map String.toList) := by
  have each : items.mapM Item.column? = .ok (names.map fun name => some name.toList) := by
    induction h with
    | nil => rfl
    | cons first _ ih =>
      rw [List.mapM_cons, first.column?, ih]
      rfl
  rw [Rebuild.columns, each]
  simp [bind, Except.bind, pure, Except.pure]

/-- The item that stands in the place of one when a column is changed. -/
def DefinitionChange.changedItem (column : String) (change : ColumnChange) (item : Item) : Item :=
  if item.column?.toOption.join = some column.toList then change.apply item else item

/-- A change of a column changes the items that define it. -/
theorem DefinitionChange.apply_column_of_readable (readable : ∀ item ∈ items, ∃ own, item.column? = .ok own)
    {column : String} (within : ∃ item ∈ items, item.column? = .ok (some column.toList)) (change : ColumnChange) :
    (DefinitionChange.column (.text column) change).apply items = .ok (items.map (changedItem column change)) := by
  let mark (item : Item) : Bool × Item :=
    (item.column?.toOption.join == some column.toList, changedItem column change item)
  have each : items.mapM (changeItem (.text column) change) = .ok (items.map mark) := by
    clear within
    induction items with
    | nil => rfl
    | cons item items ih =>
      obtain ⟨⟨own, read⟩, others⟩ := List.forall_mem_cons.mp readable
      have one : changeItem (.text column) change item = .ok (mark item) := by
        have stands : ColumnName.standsFor (.text column) own = (own == some column.toList) := by
          cases own with
          | none => rfl
          | some name => simp [ColumnName.standsFor, Bool.beq_eq_decide_eq, eq_comm]
        unfold changeItem
        rw [read]
        simp only [bind, Except.bind, stands, mark, changedItem, read, Except.toOption, Option.join_some]
        by_cases same : own = some column.toList
        · simp [same, pure, Except.pure]
        · simp [same, pure, Except.pure]
      rw [List.mapM_cons, one, ih others]
      rfl
  have found : (items.map mark).any (·.1) = true := by
    obtain ⟨item, member, read⟩ := within
    refine List.any_eq_true.mpr ⟨mark item, List.mem_map_of_mem member, ?_⟩
    simp [mark, read, Except.toOption]
  have whole : (DefinitionChange.column (.text column) change).apply items =
      if (items.map mark).any (·.1) then pure ((items.map mark).map (·.2))
      else throw (.rebuildColumnMissing (.text column)) :=
    congrArg (fun read => read.bind fun changed =>
      if changed.any (·.1) then pure (changed.map (·.2)) else throw (.rebuildColumnMissing (.text column))) each
  rw [whole, if_pos found, List.map_map]
  rfl

/-- The definition of one column changed, and the others as they are. -/
def changedItems (names : List String) (items : List Item) (column : String) (change : ColumnChange) : List Item :=
  (names.zip items).map fun (name, item) => if name = column then change.apply item else item

/-- A change of a column changes its definition and no other one. -/
theorem DefinitionChange.apply_column (h : Forall₂ Item.Defines names items) {column : String}
    (within : column ∈ names) (change : ColumnChange) :
    (DefinitionChange.column (.text column) change).apply items = .ok (changedItems names items column change) := by
  have readable : ∀ item ∈ items, ∃ own, item.column? = .ok own := fun item member =>
    have ⟨_, _, defines⟩ := exists_of_mem_right h member
    ⟨_, defines.column?⟩
  obtain ⟨item, member, defines⟩ := exists_of_mem_right h.flip within
  have same : items.map (changedItem column change) = changedItems names items column change := by
    clear readable within member defines
    induction h with
    | nil => rfl
    | cons first _ ih => simp [ih, changedItem, changedItems, first.column?, Except.toOption, String.toList_inj]
  rw [apply_column_of_readable readable ⟨item, member, defines.column?⟩, same]

/-- A column that forbids nulls is still the same column. -/
theorem Item.Defines.changed (h : Forall₂ Item.Defines names items) (column : String) :
    Forall₂ Item.Defines names (changedItems names items column .forbidNull) := by
  induction h with
  | nil => exact .nil
  | @cons name item names items first _ ih =>
    refine .cons ?_ ih
    by_cases same : name = column
    · simpa [same] using (same ▸ first).withNotNull
    · simpa [same] using first

/-- The names of columns with commas between them. -/
def columnList (names : List String) : String :=
  Text.joinWith ", " (names.map Dialect.sqlite.capabilities.quoting.quote)

/-- The texts of the statements that build a table again from its items: its copy has the items, all of its
columns are copied under their names, and the copy takes its place. -/
def Rebuild.texts (table : String) (names : List String) (items : List Item) (tail : List Char) : List String :=
  let quote := Dialect.sqlite.capabilities.quoting.quote
  let copy := quote ("_quarry_tmp_" ++ table)
  ["create table " ++ copy ++ " (" ++ Text.joinWith ", " (items.map String.ofList) ++ ")" ++ String.ofList tail,
    "insert into " ++ copy ++ " (" ++ columnList names ++ ") select " ++ columnList names ++ " from " ++ quote table,
    "drop table " ++ quote table,
    "alter table " ++ copy ++ " rename to " ++ quote table]

/-- A row of the catalog for a table, or for one of its indexes, with the text that is stored. -/
def Value.IsRow (table : Bool) (row sql : Value) : Prop :=
  row.field "sql" 1 = .ok sql ∧ ∃ kind, row.field "type" 0 = .ok kind ∧ kind.isScalar (.str "table") = table

/-- The rows of the catalog for a table: one has its definition, and the others have its indexes, in order. -/
def Value.Stores (rows : Value) (definition : String) (indexes : List Value) : Prop :=
  ∃ row before after earlier later, rows.items = .ok (before ++ row :: after) ∧ row.IsRow true (.str definition) ∧
    Forall₂ (IsRow false) before earlier ∧ Forall₂ (IsRow false) after later ∧ indexes = earlier ++ later

theorem Stored.add_index {row sql : Value} (h : row.IsRow false sql) (st : Stored) :
    st.add row = .ok { st with indexes := st.indexes ++ [sql] } := by
  obtain ⟨text, kind, type, other⟩ := h
  simp [Stored.add, text, type, other, bind, Except.bind, pure, Except.pure]

theorem Stored.add_indexes {rows indexes : List Value} (h : Forall₂ (Value.IsRow false) rows indexes) (st : Stored) :
    rows.foldlM Stored.add st = .ok { st with indexes := st.indexes ++ indexes } := by
  induction h generalizing st with
  | nil => simp [pure, Except.pure]
  | cons first _ ih =>
    rw [List.foldlM_cons, Stored.add_index first]
    refine (ih _).trans ?_
    simp

/-- The table that rows of the catalog are about is built again from its definition. -/
theorem Rebuild.statements_stored {rows : Value} {definition : String} {indexes : List Value}
    (h : rows.Stores definition indexes) (r : Rebuild) : r.statements rows = r.plan definition indexes := by
  obtain ⟨row, before, after, earlier, later, items, ⟨text, kind, type, same⟩, first, others, rfl⟩ := h
  have table : (⟨.null, earlier⟩ : Stored).add row = .ok ⟨.str definition, earlier⟩ := by
    simp [Stored.add, text, type, same, bind, Except.bind, pure, Except.pure]
  have read : (before ++ row :: after).foldlM Stored.add {} = .ok ⟨.str definition, earlier ++ later⟩ := by
    rw [List.foldlM_append, Stored.add_indexes first]
    change (row :: after).foldlM Stored.add ⟨.null, earlier⟩ = _
    rw [List.foldlM_cons, table]
    exact Stored.add_indexes others _
  unfold statements
  rw [items]
  change (List.foldlM Stored.add {} (before ++ row :: after) >>= _) = _
  rw [read]
  rfl

/-- The rows of the catalog for a table with indexes. -/
def catalogRows (definition : String) (indexes : List String) : Value :=
  .list (.list [.str "table", .str definition] :: indexes.map fun sql => .list [.str "index", .str sql])

theorem stores_catalogRows (definition : String) (indexes : List String) :
    (catalogRows definition indexes).Stores definition (indexes.map .str) := by
  refine ⟨_, [], _, [], _, rfl, ⟨rfl, _, rfl, rfl⟩, .nil, ?_, rfl⟩
  rw [List.forall₂_map_left_iff, List.forall₂_map_right_iff]
  exact List.forall₂_same.mpr fun sql _ => ⟨rfl, _, rfl, rfl⟩

/-- The plan for a table with columns of some names, if the change keeps these. -/
theorem Rebuild.plan_of_columns {definition : String} {d : Definition} (accepted : Definition.split definition = .ok d)
    {change : DefinitionChange} (changed : change.apply d.items = .ok items)
    (old : columns d.items = .ok (names.map String.toList)) (new : columns items = .ok (names.map String.toList))
    (table : String) (indexes : List Value) :
    plan ⟨table, Dialect.sqlite.capabilities.quoting, change⟩ definition indexes =
      .ok (((texts table names items d.tail).map Value.str ++ indexes).map statement) := by
  have kept : (names.map String.toList).filter (names.map String.toList).contains = names.map String.toList :=
    List.filter_eq_self.mpr fun name hn => List.contains_iff_mem.mpr hn
  have listed : Text.joinWith ", " ((names.map String.toList).map fun name =>
      Dialect.sqlite.capabilities.quoting.quote (String.ofList name)) = columnList names := by
    simp [columnList, Function.comp_def]
  have quotes : Dialect.sqlite.capabilities.quoting.areTexts = true := rfl
  unfold plan
  rw [accepted]
  simp only [bind, Except.bind, changed, old, new, kept]
  rw [quotes, listed]
  rfl

/-- A change of a column of a table that is read from its stored text. -/
theorem Rebuild.plan_column {head : List Char} (plainHead : '(' ∉ head)
    (closed : ∀ item ∈ items, Definition.Closed false item) (defines : Forall₂ Item.Defines names items)
    {tail : List Char} {definition : String}
    (text : definition.toList = head ++ '(' :: (Definition.listed items ++ ')' :: tail)) {column : String}
    (within : column ∈ names) (table : String) (indexes : List Value) :
    Rebuild.plan ⟨table, Dialect.sqlite.capabilities.quoting, .column (.text column) .forbidNull⟩ definition indexes =
      .ok (((Rebuild.texts table names (changedItems names (items.map Text.stripChars) column .forbidNull) tail).map
        Value.str ++ indexes).map Rebuild.statement) := by
  obtain ⟨trimmed, -⟩ := Item.Defines.trimmed defines
  exact plan_of_columns (Definition.split_items plainHead closed defines text)
    (DefinitionChange.apply_column trimmed within _) (columns_of_defines trimmed)
    (columns_of_defines (Item.Defines.changed trimmed column)) table indexes

end Columns

end SqlBuilder
