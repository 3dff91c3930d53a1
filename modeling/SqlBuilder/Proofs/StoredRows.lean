import Mathlib.Data.List.Nodup
import SqlBuilder.Batch
import SqlBuilder.Proofs.InsertedRows

/-!
# Rows of data

A row of data has texts as the names of its columns, and values without builders, callbacks and undefined
values. An insert of such rows always has a compiled form, and reading it back gives the rows.

* `Value.isData`, `Value.asStored`: values that are data, and what is stored of them.
* `DataRow`, `SparseRow`: the rows of data, with some columns and with any.
* `Record.Describes`: a row that was read back has the values of a row that was given.
* `Scope.rowColumns_names`: the columns of rows, each at its first place.
* `sparseInsert_gives`: the rendering of an insert of rows of data.
* `insertQuery_describes`: an insert of rows of data describes them.
-/

namespace SqlBuilder

open List (Forall₂)

/-! ## Data -/

namespace Value

/-- Whether a mapping may have a value as a key that is to be written in JSON. -/
def isJsonKey (v : Value) : Bool :=
  (keyJson? v).isSome

mutual

/-- Whether a value is data: neither a builder nor a callback nor an undefined value stands in it, and the
keys of its mappings are keys in JSON. -/
def isData : Value → Bool
  | .scalar .undefined => false
  | .scalar _ | .compiled _ | .other _ _ => true
  | .list items | .tuple items | .set items => areData items
  | .map entries => entriesAreData entries
  | .callback _ | .query _ | .raw _ | .shared _ | .schema _ | .conflict _ _ => false

/-- Whether each of several values is data. -/
def areData : List Value → Bool
  | [] => true
  | v :: vs => isData v && areData vs

/-- Whether the values of entries are data and their keys are keys in JSON. -/
def entriesAreData : List (Value × Value) → Bool
  | [] => true
  | (k, v) :: entries => isJsonKey k && isData v && entriesAreData entries

end

/-- The JSON text of a value that is data. -/
def jsonText (v : Value) : String :=
  (v.json fun v => pure v.text).outcome.1.toOption.getD ""

/-- What is stored of a value: the JSON text of a list, a tuple or a mapping, and any other value as it is. -/
def asStored : Value → Value
  | .list items => .str (Value.list items).jsonText
  | .tuple items => .str (Value.tuple items).jsonText
  | .map entries => .str (Value.map entries).jsonText
  | v => v

mutual

theorem defined_of_isData : ∀ v : Value, v.isData = true → v.containsUndefined = false
  | .scalar s, h => by cases s <;> first | rfl | cases h
  | .list items, h | .tuple items, h => by
    unfold containsUndefined
    exact defined_of_areData items (by simpa [isData] using h)
  | .map entries, h => by
    unfold containsUndefined
    exact defined_of_entriesAreData entries (by simpa [isData] using h)
  | .set _, _ | .callback _, _ | .query _, _ | .raw _, _ | .shared _, _ | .schema _, _ | .compiled _, _
  | .conflict _ _, _ | .other _ _, _ => rfl

theorem defined_of_areData : ∀ vs : List Value, areData vs = true → anyUndefined vs = false
  | [], _ => rfl
  | v :: vs, h => by
    obtain ⟨first, rest⟩ := Bool.and_eq_true_iff.mp h
    simp [anyUndefined, defined_of_isData v first, defined_of_areData vs rest]

theorem defined_of_entriesAreData : ∀ entries : List (Value × Value), entriesAreData entries = true →
    entryUndefined entries = false
  | [], _ => rfl
  | (k, v) :: entries, h => by
    obtain ⟨first, rest⟩ := Bool.and_eq_true_iff.mp h
    simp [entryUndefined, defined_of_isData v (Bool.and_eq_true_iff.mp first).2,
      defined_of_entriesAreData entries rest]

end

/-- A way to write values that are no builders as they stand alone. -/
def Plainly (texts : Value → Compile String) : Prop :=
  ∀ v : Value, v.isBuilder = false → texts v = pure v.text

variable {texts : Value → Compile String}

theorem Plainly.gives (plainly : Plainly texts) {v : Value} (plain : v.isBuilder = false) :
    (texts v).Gives v.text [] := by
  rw [plainly v plain]
  exact .pure _

mutual

/-- Data has a JSON text, in which what JSON has no form for reads as it stands alone. -/
theorem exists_json (plainly : Plainly texts) : ∀ v : Value, v.isData = true →
    ∃ text, (v.json texts).Gives text [] ∧ (v.json fun v => pure v.text).Gives text []
  | .scalar s, _ => by
    unfold json
    cases scalarJson? s with
    | some text => exact ⟨text, .pure _, .pure _⟩
    | none => exact ⟨_, (plainly.gives rfl).map, (Compile.Gives.pure _).map⟩
  | .list items, h | .tuple items, h => by
    obtain ⟨parts, written, same⟩ := exists_jsonAll plainly items h
    exact ⟨_, written.map, same.map⟩
  | .map entries, h => by
    obtain ⟨parts, written, same⟩ := exists_jsonEntries plainly entries h
    exact ⟨_, written.map, same.map⟩
  | .set _, _ | .compiled _, _ | .other _ _, _ => ⟨_, (plainly.gives rfl).map, (Compile.Gives.pure _).map⟩
  | .callback _, h | .query _, h | .raw _, h | .shared _, h | .schema _, h | .conflict _ _, h => by cases h

theorem exists_jsonAll (plainly : Plainly texts) : ∀ vs : List Value, areData vs = true →
    ∃ parts, (jsonAll texts vs).Gives parts [] ∧ (jsonAll (fun v => pure v.text) vs).Gives parts []
  | [], _ => ⟨[], .pure [], .pure []⟩
  | v :: vs, h => by
    unfold jsonAll
    obtain ⟨first, rest⟩ := Bool.and_eq_true_iff.mp h
    obtain ⟨text, written, same⟩ := exists_json plainly v first
    obtain ⟨parts, others, others'⟩ := exists_jsonAll plainly vs rest
    exact ⟨_, written.bind_silent others.map, same.bind_silent others'.map⟩

theorem exists_jsonEntries (plainly : Plainly texts) : ∀ entries : List (Value × Value),
    entriesAreData entries = true →
    ∃ parts, (jsonEntries texts entries).Gives parts [] ∧
      (jsonEntries (fun v => pure v.text) entries).Gives parts []
  | [], _ => ⟨[], .pure [], .pure []⟩
  | (k, v) :: entries, h => by
    unfold jsonEntries
    obtain ⟨first, rest⟩ := Bool.and_eq_true_iff.mp h
    obtain ⟨key, data⟩ := Bool.and_eq_true_iff.mp first
    obtain ⟨name, named⟩ := Option.isSome_iff_exists.mp key
    obtain ⟨text, written, same⟩ := exists_json plainly v data
    obtain ⟨parts, others, others'⟩ := exists_jsonEntries plainly entries rest
    rw [named]
    exact ⟨_, written.bind_silent others.map, same.bind_silent others'.map⟩

end

theorem json_gives (plainly : Plainly texts) {v : Value} (data : v.isData = true) :
    (v.json texts).Gives v.jsonText [] := by
  obtain ⟨text, written, same⟩ := exists_json plainly v data
  rw [jsonText, same.outcome]
  exact written

end Value

/-! ## Cells -/

namespace Scope

variable {s : Scope}

/-- What is stored of data is bound. -/
theorem stored_gives (plainly : Value.Plainly s.nested.printers.display) {v : Value} (data : v.isData = true) :
    (s.stored v).Gives (.sql [.param v.asStored]) [v.asStored] := by
  have argument {w : Value} (plain : s.env.query? w = none ∧ s.env.raw? w = none) (quiet : w.isCallback = false) :
      (s.argument w).Gives (.sql [.param w]) [w] := by
    unfold Scope.argument
    split
    · cases quiet
    · unfold Scope.unwrap
      rw [plain.1, plain.2]
      exact (bind_gives w).map
  have text (text : String) : (s.argument (.str text)).Gives (.sql [.param (.str text)]) [.str text] :=
    argument ⟨rfl, rfl⟩ rfl
  have document {v : Value} (data : v.isData = true) :
      (if v.containsUndefined then pure v else do return .str (← v.json s.nested.printers.display)).Gives
        (.str v.jsonText) [] := by
    rw [Value.defined_of_isData v data]
    exact (Value.json_gives plainly data).map
  unfold stored storable
  cases v with
  | list items => exact (document data).bind_silent (text _)
  | tuple items => exact (document data).bind_silent (text _)
  | map entries => exact (document data).bind_silent (text _)
  | scalar t => exact (Compile.Gives.pure _).bind_silent (argument ⟨rfl, rfl⟩ rfl)
  | set items => exact (Compile.Gives.pure _).bind_silent (argument ⟨rfl, rfl⟩ rfl)
  | compiled c => exact (Compile.Gives.pure _).bind_silent (argument ⟨rfl, rfl⟩ rfl)
  | other kind form => exact (Compile.Gives.pure _).bind_silent (argument ⟨rfl, rfl⟩ rfl)
  | _ => cases data

end Scope

/-- Nothing but builders is written by rendering it. -/
theorem Nested.plainly (env : Environment) (n : Nat) : Value.Plainly (Nested.ofDepth env (n + 1)).printers.display := by
  intro v plain
  change (Nested.ofDepth env n).display env v = _
  unfold Nested.display
  cases v with
  | schema schema => cases plain
  | _ => exact if_neg (by simp [plain])

/-! ## Rows of data -/

/-- A row of data: some columns, each with a plain name of its own and a value that is data. -/
structure DataRow where
  entries : List (String × Value)
  filled : entries ≠ []
  distinct : (entries.map Prod.fst).Nodup
  named : ∀ e ∈ entries, PlainName e.1 ∧ e.1 ≠ "*"
  data : ∀ e ∈ entries, e.2.isData = true

namespace DataRow

/-- A row as the mapping that a caller gives. -/
def toValue (row : DataRow) : Value :=
  .map (row.entries.map fun (column, v) => (.str column, v))

/-- The value of a column. -/
def value? (row : DataRow) (column : String) : Option Value :=
  row.entries.lookup column

end DataRow

/-- A row of data that may lack any column, even all of them. -/
structure SparseRow where
  entries : List (String × Value)
  distinct : (entries.map Prod.fst).Nodup
  named : ∀ e ∈ entries, PlainName e.1 ∧ e.1 ≠ "*"
  data : ∀ e ∈ entries, e.2.isData = true

namespace SparseRow

/-- A row as the mapping that a caller gives. -/
def toValue (row : SparseRow) : Value :=
  .map (row.entries.map fun (column, v) => (.str column, v))

/-- The value of a column. -/
def value? (row : SparseRow) (column : String) : Option Value :=
  row.entries.lookup column

/-- The columns of some rows, each at its first place. -/
def columns (rows : List SparseRow) : List String :=
  (rows.flatMap fun row => row.entries.map Prod.fst).eraseDups

/-- Columns of rows are columns of one of them. -/
theorem mem_columns {rows : List SparseRow} {column : String} :
    column ∈ columns rows ↔ ∃ row ∈ rows, ∃ e ∈ row.entries, e.1 = column := by
  simp [columns, List.mem_eraseDups]

/-- Rows have columns if one of them has. -/
theorem columns_ne_nil {rows : List SparseRow} (keyed : ∃ row ∈ rows, row.entries ≠ []) : columns rows ≠ [] := by
  obtain ⟨row, hr, some_⟩ := keyed
  obtain ⟨entry, others, same⟩ := List.exists_cons_of_ne_nil some_
  exact List.ne_nil_of_mem (mem_columns.mpr ⟨row, hr, entry, by simp [same], rfl⟩)

end SparseRow

/-- A row of data as one that may lack columns. -/
def DataRow.sparse (row : DataRow) : SparseRow :=
  { entries := row.entries, distinct := row.distinct, named := row.named, data := row.data }

/-- A row that was read back has the values of a row of data under its columns. A column that the row of data
lacks has no value, or null. -/
structure Record.Describes (r : Record) (row : DataRow) : Prop where
  distinct : (r.map Prod.fst).Nodup
  given : row.entries.map (fun (column, _) => (column, r.value? column)) =
    row.entries.map fun (column, v) => (column, some v.asStored)
  filler : ∀ column, row.value? column = none → r.value? column = none ∨ r.value? column = some .null

namespace Scope

/-! ## Columns -/

theorem mapM_ok {α β : Type} {f : α → Except Error β} {g : α → β} {as : List α} (each : ∀ a ∈ as, f a = .ok (g a)) :
    as.mapM f = .ok (as.map g) := by
  induction as with
  | nil => rfl
  | cons a as ih =>
    rw [List.mapM_cons, each a (.head _), ih fun b hb => each b (.tail _ hb)]
    rfl

/-- The rows as an insert takes them. -/
def numberedRows (rows : List SparseRow) : List Row :=
  rows.mapIdx fun i row => rowOf i (row.entries.map fun (column, v) => (.str column, v))

theorem rowsOf_toValue (rows : List SparseRow) : rowsOf (.list (rows.map SparseRow.toValue)) = .ok (numberedRows rows) := by
  simp only [rowsOf, List.mapM_map]
  refine congrArg (fun read => read.bind fun entries => pure (entries.mapIdx rowOf))
    (mapM_ok (g := fun row : SparseRow => row.entries.map fun (column, v) => (.str column, v)) fun row _ => rfl) |>.trans ?_
  simp [Except.bind, pure, Except.pure, numberedRows, List.mapIdx_eq_zipIdx_map, List.zipIdx_map]

variable {rows : List SparseRow}

/-- A column is named at its place in some rows. -/
def Placed (rows : List SparseRow) (c : RowColumn) (column : String) : Prop :=
  c.name = .str column ∧ ∃ row v, rows[c.row]? = some row ∧ row.entries[c.entry]? = some (column, v)

/-- Two columns of some rows are one if they have one name. -/
theorem Placed.same_iff {c d : RowColumn} {column other : String} (h : Placed rows c column)
    (h' : Placed rows d other) : c.same d = true ↔ column = other := by
  obtain ⟨name, row, v, at_, entry⟩ := h
  obtain ⟨name', row', v', at', entry'⟩ := h'
  have names : c.name.sameKey d.name = true ↔ column = other := by
    rw [name, name']
    simp [Value.sameKey, Scalar.same]
  refine ⟨fun same => ?_, fun one => ?_⟩
  · rcases Bool.or_eq_true_iff.mp same with place | key
    · obtain ⟨first, second⟩ : c.row = d.row ∧ c.entry = d.entry := by simpa using place
      rw [first, at'] at at_
      cases at_
      rw [second, entry'] at entry
      cases entry
      rfl
    · exact names.mp key
  · simp [RowColumn.same, names.mpr one]

/-- The entries of a row are at their places. -/
theorem placed_rowOf {i : Nat} {row : SparseRow} (at_ : rows[i]? = some row) :
    Forall₂ (fun p e => Placed rows p.1 e.1 ∧ p.2 = e.2)
      (rowOf i (row.entries.map fun (column, v) => (.str column, v))) row.entries := by
  refine List.forall₂_iff_get.mpr ⟨by simp [rowOf], fun j _ bound => ?_⟩
  simp only [rowOf, List.get_eq_getElem, List.getElem_mapIdx, List.getElem_map]
  exact ⟨⟨rfl, row, _, at_, List.getElem?_eq_getElem _⟩, trivial⟩

/-- The entries of rows are at their places. -/
theorem placed_numberedRows (rows : List SparseRow) :
    Forall₂ (Placed rows) ((numberedRows rows).flatten.map Prod.fst) (rows.flatMap fun row => row.entries.map Prod.fst) := by
  have each : Forall₂ (Forall₂ fun p e => Placed rows p.1 e.1) (numberedRows rows) (rows.map (·.entries)) := by
    refine List.forall₂_iff_get.mpr ⟨by simp [numberedRows], fun i _ bound => ?_⟩
    simp only [numberedRows, List.get_eq_getElem, List.getElem_mapIdx, List.getElem_map]
    exact (placed_rowOf (List.getElem?_eq_getElem _)).imp fun _ _ placed => placed.1
  rw [← List.map_flatMap, List.forall₂_map_left_iff, List.forall₂_map_right_iff, List.flatMap_def]
  exact List.rel_flatten each

/-- The value of a column among placed entries. -/
theorem cell?_placed {numbered : Row} {entries : List (String × Value)}
    (each : Forall₂ (fun p e => Placed rows p.1 e.1 ∧ p.2 = e.2) numbered entries) {c : RowColumn} {column : String}
    (placed : Placed rows c column) : cell? numbered c = entries.lookup column := by
  unfold cell?
  induction each with
  | nil => rfl
  | @cons p e _ _ first _ ih =>
    obtain ⟨key, v⟩ := e
    obtain ⟨here, value⟩ := first
    by_cases one : p.1.same c = true
    · have name : key = column := (here.same_iff placed).mp one
      simp [List.find?, one, name, value]
    · have name : key ≠ column := fun same => one ((here.same_iff placed).mpr same)
      simpa [List.find?, one, List.lookup_cons, beq_eq_false_iff_ne.mpr (Ne.symm name)] using ih

/-- Columns with another one at their end, unless they have it. -/
def includeColumn (columns : List RowColumn) (c : RowColumn) : List RowColumn :=
  if columns.any fun d => d.same c then columns else columns ++ [c]

/-- Names with another one at their end, unless they have it. -/
def includeName (names : List String) (column : String) : List String :=
  if column ∈ names then names else names ++ [column]

/-- A column is added under its name, unless the name is there. -/
theorem placed_includeColumn {columns : List RowColumn} {names : List String} (placed : Forall₂ (Placed rows) columns names)
    {c : RowColumn} {column : String} (here : Placed rows c column) :
    Forall₂ (Placed rows) (includeColumn columns c) (includeName names column) := by
  have found : (columns.any fun d => d.same c) = true ↔ column ∈ names := by
    induction placed with
    | nil => simp
    | cons first _ ih => rw [List.any_cons, Bool.or_eq_true, ih, first.same_iff here, List.mem_cons, eq_comm]
  unfold includeColumn includeName
  by_cases known : column ∈ names
  · rw [if_pos (found.mpr known), if_pos known]
    exact placed
  · rw [if_neg (mt found.mp known), if_neg known]
    exact List.rel_append placed (.cons here .nil)

/-- The columns that are added one after another are named by the names that are. -/
theorem placed_columns {added : List RowColumn} {keys : List String} (each : Forall₂ (Placed rows) added keys)
    {columns : List RowColumn} {names : List String} (placed : Forall₂ (Placed rows) columns names) :
    Forall₂ (Placed rows) (added.foldl includeColumn columns) (keys.foldl includeName names) := by
  induction each generalizing columns names with
  | nil => exact placed
  | cons first _ ih => exact ih (placed_includeColumn placed first)

/-- Names that are added one after another stand at their first places. -/
theorem foldl_includeName (keys names : List String) :
    keys.foldl includeName names = names ++ (keys.filter (· ∉ names)).eraseDups := by
  induction keys generalizing names with
  | nil => simp
  | cons key keys ih =>
    rw [List.foldl_cons, ih, includeName]
    by_cases known : key ∈ names
    · simp [known]
    · simp [known, List.eraseDups_cons, List.filter_filter, Bool.and_comm, beq_eq_decide]

theorem nodup_includeName {keys names : List String} (distinct : names.Nodup) : (keys.foldl includeName names).Nodup := by
  induction keys generalizing names with
  | nil => exact distinct
  | cons key keys ih =>
    refine ih ?_
    unfold includeName
    split
    · exact distinct
    next new => exact List.concat_eq_append ▸ List.Nodup.concat new distinct

theorem columns_eq_foldl (rows : List SparseRow) :
    SparseRow.columns rows = (rows.flatMap fun row => row.entries.map Prod.fst).foldl includeName [] := by
  simp [foldl_includeName, SparseRow.columns]

theorem nodup_columns (rows : List SparseRow) : (SparseRow.columns rows).Nodup := by
  rw [columns_eq_foldl]
  exact nodup_includeName List.nodup_nil

/-- The columns of rows are named by the columns of the rows that were given. -/
theorem rowColumns_names (rows : List SparseRow) :
    Forall₂ (Placed rows) (rowColumns (numberedRows rows)) (SparseRow.columns rows) := by
  have columns : rowColumns (numberedRows rows) =
      ((numberedRows rows).flatten.map Prod.fst).foldl includeColumn [] := by
    rw [List.foldl_map]
    rfl
  rw [columns, columns_eq_foldl]
  exact placed_columns (placed_numberedRows rows) .nil

/-! ## Cells under columns -/

/-- What stands for a column that a row lacks. -/
def Missing.cell : Missing → Option Value
  | .default_ => none
  | .null => some .null

/-- The cell of a row under a column. -/
def dataCell (m : Missing) (row : SparseRow) (column : String) : Option Value :=
  match row.value? column with
  | some v => some v.asStored
  | none => m.cell

/-- The cells of rows under columns. -/
def dataCells (m : Missing) (names : List String) (rows : List SparseRow) : List (List (Option Value)) :=
  rows.map fun row => names.map (dataCell m row)

/-- What stands for missing columns in the inserts of a client. -/
def filler (client : Client Value) : Missing :=
  if client.useNullAsDefault || !client.capabilities.defaultKeyword then .null else .default_

theorem missing_gives {s : Scope} (numbered : List Row) (columns : List RowColumn) :
    (s.missing numbered columns).Gives (filler s.client) [] := by
  have null (events : Compile Unit) (reported : events.Gives () []) :
      (do events; return Missing.null : Compile Missing).Gives .null [] :=
    reported.bind_silent (.pure _)
  unfold missing filler capabilities
  cases s.client.useNullAsDefault with
  | true => exact .pure _
  | false =>
    cases s.client.capabilities.defaultKeyword with
    | true => exact .pure _
    | false =>
      simp only [Bool.false_eq_true, if_false, Bool.not_false, Bool.or_true, if_true]
      split
      · exact null _ (.report _)
      · exact null _ (.pure _)

/-- Rows of data have no undefined value in them. -/
theorem trackRows_gives {columns : List RowColumn} {names : List String} (placed : Forall₂ (Placed rows) columns names) :
    (trackRows (numberedRows rows) columns).Gives () [] := by
  unfold trackRows
  induction placed with
  | nil => exact .pure ()
  | @cons c column _ _ first _ ih =>
    have defined : ((numberedRows rows).any fun row => (cell? row c).any Value.containsUndefined) = false := by
      refine List.any_eq_false.mpr fun numbered hn => ?_
      obtain ⟨i, bound, rfl⟩ := List.mem_mapIdx.mp hn
      rw [cell?_placed (placed_rowOf (List.getElem?_eq_getElem bound)) first]
      cases found : rows[i].entries.lookup column with
      | none => simp
      | some v =>
        have within := List.lookup_eq_some_iff.mp found
        obtain ⟨before, after, same, -⟩ := within
        simp [Value.defined_of_isData v (rows[i].data (column, v) (by rw [same]; simp))]
    have unmarked : (if ((numberedRows rows).any fun row => (cell? row c).any Value.containsUndefined) = true
        then markUndefined c.name else pure ()).Gives () [] := by
      rw [defined]
      exact .pure ()
    exact unmarked.bind_silent ih

theorem rowCell_gives {s : Scope} (plainly : Value.Plainly s.nested.printers.display) (m : Missing) {i : Nat}
    {row : SparseRow} (at_ : rows[i]? = some row) {c : RowColumn} {column : String} (placed : Placed rows c column) :
    (s.rowCell m (rowOf i (row.entries.map fun (column, v) => (.str column, v))) c).Gives
      (.sql (Insertion.cellSql (dataCell m row column))) (dataCell m row column).toList := by
  unfold rowCell dataCell SparseRow.value?
  rw [cell?_placed (placed_rowOf at_) placed]
  cases found : row.entries.lookup column with
  | some v =>
    obtain ⟨before, after, same, -⟩ := List.lookup_eq_some_iff.mp found
    exact stored_gives plainly (row.data (column, v) (by rw [same]; simp))
  | none =>
    cases m with
    | default_ => exact .pure _
    | null => exact (bind_gives .null).map

theorem rowValues_gives {s : Scope} (plainly : Value.Plainly s.nested.printers.display) (m : Missing) {i : Nat}
    {row : SparseRow} (at_ : rows[i]? = some row) {columns : List RowColumn} {names : List String}
    (placed : Forall₂ (Placed rows) columns names) :
    (s.rowValues columns m (rowOf i (row.entries.map fun (column, v) => (.str column, v)))).Gives
      (Sql.commas ((names.map (dataCell m row)).map Insertion.cellSql)).parens
      (Insertion.given (names.map (dataCell m row))) := by
  have operands : (columns.mapM (s.rowCell m (rowOf i (row.entries.map fun (column, v) => (.str column, v))))).Gives
      ((names.map (dataCell m row)).map fun cell => .sql (Insertion.cellSql cell))
      (Insertion.given (names.map (dataCell m row))) := by
    induction placed with
    | nil => exact .pure []
    | cons first _ ih =>
      rw [List.mapM_cons]
      exact (rowCell_gives plainly m at_ first).bind ih.map
  unfold rowValues
  refine operands.then_silent ?_
  rw [List.mapM_map]
  exact (Compile.Gives.mapM_silent fun cell _ => .pure _).map

/-- The values of rows, row by row. -/
theorem allValues_gives {s : Scope} (plainly : Value.Plainly s.nested.printers.display) (m : Missing)
    {columns : List RowColumn} {names : List String} (placed : Forall₂ (Placed rows) columns names) :
    ((numberedRows rows).mapM (s.rowValues columns m)).Gives
      ((dataCells m names rows).map fun cells => (Sql.commas (cells.map Insertion.cellSql)).parens)
      ((dataCells m names rows).flatMap Insertion.given) := by
  have each : ∀ e ∈ rows.zipIdx, (s.rowValues columns m
      (rowOf e.2 (e.1.entries.map fun (column, v) => (.str column, v)))).Gives
        (Sql.commas ((names.map (dataCell m e.1)).map Insertion.cellSql)).parens
        (Insertion.given (names.map (dataCell m e.1))) :=
    fun e he => rowValues_gives plainly m (List.mk_mem_zipIdx_iff_getElem?.mp he) placed
  have whole := Compile.Gives.mapM each
  have parts {γ : Type} (f : SparseRow → γ) : rows.zipIdx.map (fun e => f e.1) = rows.map f := by
    conv_rhs => rw [← List.zipIdx_map_fst 0 rows, List.map_map]
    rfl
  rw [numberedRows, List.mapIdx_eq_zipIdx_map, List.mapM_map]
  simp only [dataCells, List.map_map, List.flatMap_map]
  rw [List.flatMap_def] at whole ⊢
  rwa [parts fun row => (Sql.commas ((names.map (dataCell m row)).map Insertion.cellSql)).parens,
    parts fun row => Insertion.given (names.map (dataCell m row))] at whole

theorem Placed.named {c : RowColumn} {column : String} (h : Placed rows c column) :
    PlainName column ∧ column ≠ "*" := by
  obtain ⟨-, row, v, -, entry⟩ := h
  exact row.named (column, v) (List.mem_of_getElem? entry)

theorem names_of_placed {columns : List RowColumn} {names : List String} (placed : Forall₂ (Placed rows) columns names) :
    columns.map (·.name) = names.map .str ∧ ∀ column ∈ names, PlainName column ∧ column ≠ "*" := by
  induction placed with
  | nil => simp
  | cons first _ ih =>
    rw [List.map_cons, List.map_cons, first.1, ih.1]
    exact ⟨rfl, List.forall_mem_cons.mpr ⟨first.named, ih.2⟩⟩

/-- An insert of rows of data is rendered as an insert of their cells under the names of their columns. -/
theorem insertRows_gives {s : Scope} (h : s.Quotes) (plainly : Value.Plainly s.nested.printers.display)
    (keyed : SparseRow.columns rows ≠ []) (table : Sql) {st : Statement Value} (returning : st.returning = [])
    (conflict : st.conflict = none) :
    (s.insertRows "insert into" table st (numberedRows rows)).Gives
      (Insertion.sql s.capabilities.quoting table (SparseRow.columns rows)
        (dataCells (filler s.client) (SparseRow.columns rows) rows))
      ((dataCells (filler s.client) (SparseRow.columns rows) rows).flatMap Insertion.given) := by
  have placed := rowColumns_names rows
  have missing := missing_gives (s := s) (numberedRows rows) (rowColumns (numberedRows rows))
  obtain ⟨texts, plain⟩ := names_of_placed placed
  have columns := h.columnizeAll_gives fun column hc => (plain column hc).1
  rw [← texts] at columns
  have output : (s.outputClause "inserted" st.returning).Gives [] [] := by
    rw [returning]
    unfold outputClause
    cases s.capabilities.returning <;> exact .pure _
  have clause : (s.returningClause st.returning).Gives [] [] := by
    rw [returning]
    unfold returningClause
    cases s.capabilities.returning <;> exact .pure _
  unfold insertRows
  split
  next none_ =>
    obtain rfl : rows = [] := by simpa [numberedRows] using none_
    exact absurd rfl keyed
  next none_ _ => exact absurd (by simpa [none_] using texts) keyed
  next =>
    refine (trackRows_gives placed).bind_silent <| columns.bind_silent <| output.bind_silent <|
      missing.bind_silent <| (allValues_gives plainly _ placed).then_silent ?_
    rw [conflict]
    refine (Compile.Gives.pure ([] : Sql)).bind_silent (clause.bind_silent ?_)
    simp only [Insertion.sql, List.append_nil]
    exact .pure _

theorem afterWith_nil (sql : Sql) : afterWith [] sql = sql := by
  unfold afterWith
  split
  · rfl
  · simp [Sql.separated, Sql.isBlank]

/-- A statement that inserts rows of data and does nothing else. -/
theorem insert_gives {s : Scope} (h : s.Quotes) (plainly : Value.Plainly s.nested.printers.display)
    (keyed : SparseRow.columns rows ≠ []) {table : String} (dotted : DottedName table) {st : Statement Value}
    (source : st.table = some (.str table)) (schema : st.schema = none) (returning : st.returning = [])
    (conflict : st.conflict = none) (common : st.commonTables = [])
    (values : st.insert = some (.list (rows.map SparseRow.toValue))) :
    ∃ segments : List String, (s.insert st).Gives
      (Insertion.sql s.capabilities.quoting
        (Sql.joined "." (segments.map fun segment => [.name s.capabilities.quoting segment])) (SparseRow.columns rows)
        (dataCells (filler s.client) (SparseRow.columns rows) rows))
      ((dataCells (filler s.client) (SparseRow.columns rows) rows).flatMap Insertion.given) := by
  obtain ⟨segments, wrapped⟩ := h.wrapString_dotted dotted
  have body := insertRows_gives h plainly keyed
    (Sql.joined "." (segments.map fun segment => [.name s.capabilities.quoting segment])) returning conflict
  refine ⟨segments, ?_⟩
  have target : (s.table st).Gives
      (Sql.joined "." (segments.map fun segment => [.name s.capabilities.quoting segment])) [] := by
    unfold Scope.table
    rw [source, schema]
    exact (Compile.Gives.pure table).bind_silent wrapped
  have keyword : (s.insertKeyword st.conflict).Gives "insert into" [] := by
    rw [conflict]
    unfold insertKeyword
    cases s.capabilities.conflict <;> exact .pure _
  have tables : (s.withClause st.commonTables).Gives [] [] := by
    rw [common]
    exact .pure _
  have read : (liftCompile (rowsOf (st.insert.getD .null))).Gives (numberedRows rows) [] := by
    rw [values, Option.getD_some, rowsOf_toValue]
    exact .pure _
  have written : isSource (st.insert.getD .null) = false := by
    rw [values]
    rfl
  rw [← afterWith_nil (Insertion.sql _ _ _ _)]
  refine tables.bind_silent (keyword.bind_silent (Compile.Gives.map ?_))
  unfold insertStatement
  rw [written]
  exact target.bind_silent (read.bind_silent body)

end Scope

/-! ## Inserts of rows -/

theorem Value.defined_asStored {v : Value} (data : v.isData = true) : v.asStored.containsUndefined = false := by
  unfold asStored
  split
  · rfl
  · rfl
  · rfl
  · exact defined_of_isData v data

/-- The cell under one of some columns. -/
theorem Record.value?_zip {names : List String} (f : String → Option Value) {column : String} :
    Record.value? (names.zip (names.map f)) column = if column ∈ names then f column else none := by
  unfold Record.value?
  induction names with
  | nil => rfl
  | cons name names ih =>
    rw [List.map_cons, List.zip_cons_cons, List.lookup_cons]
    by_cases same : column = name
    · simp [same]
    · simp [beq_eq_false_iff_ne.mpr same, ih, same]

/-- Cells under distinct columns describe the row that they are made of. -/
theorem DataRow.describes (row : DataRow) (m : Scope.Missing) {names : List String} (distinct : names.Nodup)
    (all : ∀ e ∈ row.entries, e.1 ∈ names) :
    Record.Describes (names.zip (names.map (Scope.dataCell m row.sparse))) row where
  distinct := by
    rw [List.map_fst_zip (by simp)]
    exact distinct
  given := by
    refine List.map_congr_left fun (column, v) he => ?_
    have value : row.value? column = some v := by
      obtain ⟨before, after, same⟩ := List.append_of_mem he
      refine List.lookup_eq_some_iff.mpr ⟨before, after, same, fun d hd => ?_⟩
      have distinct := row.distinct
      rw [same, List.map_append, List.map_cons, List.nodup_append] at distinct
      exact bne_iff_ne.mpr (distinct.2.2 _ (List.mem_map_of_mem hd) _ (.head _)).symm
    have own : row.sparse.value? column = some v := value
    simp only [Record.value?_zip, if_pos (all _ he), Scope.dataCell, own]
  filler column none_ := by
    rw [Record.value?_zip]
    split
    · have own : row.sparse.value? column = none := none_
      rw [Scope.dataCell, own]
      cases m
      · exact .inl rfl
      · exact .inr rfl
    · exact .inl rfl

/-- The query that inserts rows of data which may lack columns. -/
def sparseInsert (client : Client Value) (table : String) (rows : List SparseRow) : Query Value :=
  ((Query.ofClient client).from_ (.str table)).insert (.list (rows.map SparseRow.toValue)) .null

/-- The query that inserts rows of data. -/
def insertQuery (client : Client Value) (table : String) (rows : List DataRow) : Query Value :=
  ((Query.ofClient client).from_ (.str table)).insert (.list (rows.map DataRow.toValue)) .null

theorem sparseInsert_sparse (client : Client Value) (table : String) (rows : List DataRow) :
    sparseInsert client table (rows.map DataRow.sparse) = insertQuery client table rows := by
  rw [sparseInsert, List.map_map]
  rfl

/-- The values that are bound for rows of data are defined. -/
theorem defined_of_dataCells {m : Scope.Missing} {names : List String} {rows : List SparseRow} :
    ∀ v ∈ (Scope.dataCells m names rows).flatMap Insertion.given, v.containsUndefined = false := by
  intro v hv
  obtain ⟨cells, hc, hv⟩ := List.mem_flatMap.mp hv
  obtain ⟨row, -, rfl⟩ := List.mem_map.mp hc
  obtain ⟨cell, hcell, hv⟩ := List.mem_flatMap.mp hv
  obtain ⟨column, -, rfl⟩ := List.mem_map.mp hcell
  unfold Scope.dataCell at hv
  split at hv
  next w found =>
    obtain rfl := (Option.mem_toList.mp hv).symm |> Option.some.inj
    obtain ⟨before, after, same, -⟩ := List.lookup_eq_some_iff.mp found
    exact Value.defined_asStored (row.data (column, w) (by rw [same]; simp))
  · cases m with
    | default_ => cases hv
    | null =>
      obtain rfl : v = .null := by simpa [Scope.Missing.cell] using hv
      rfl

namespace SparseRow

/-- The cells of rows under their columns. -/
def cells (client : Client Value) (rows : List SparseRow) : List (List (Option Value)) :=
  Scope.dataCells (Scope.filler client) (columns rows) rows

/-- The text of an insert of rows into a table whose name has some segments. -/
def sql (client : Client Value) (segments : List String) (rows : List SparseRow) : Sql :=
  Insertion.sql client.capabilities.quoting
    (Sql.joined "." (segments.map fun segment => [.name client.capabilities.quoting segment])) (columns rows)
    (cells client rows)

/-- The values of the cells are bound, row by row. -/
theorem bindings_sql (client : Client Value) (segments : List String) (rows : List SparseRow) :
    (sql client segments rows).bindings = (cells client rows).flatMap Insertion.given :=
  Insertion.bindings_sql _ (Sql.bindings_segments _ segments) _ _

theorem unstarred (rows : List SparseRow) : "*" ∉ columns rows := by
  intro star
  obtain ⟨row, -, e, he, same⟩ := mem_columns.mp star
  exact (row.named e he).2 same

/-- An insert of rows of data has a compiled form. -/
theorem insert_gives (env : Environment) {client : Client Value} (builtin : client.dialect ∈ Dialect.builtin)
    (unhooked : client.wrapIdentifier = none) {table : String} (dotted : DottedName table) {rows : List SparseRow}
    (keyed : columns rows ≠ []) : ∃ segments,
      ((sparseInsert client table rows).compile env).Gives
        ((sparseInsert client table rows).compiledAs (sql client segments rows))
        ((cells client rows).flatMap Insertion.given) := by
  have quotes : ((sparseInsert client table rows).scope env).Quotes := Scope.quotes_of_builtin builtin unhooked
  have source : (sparseInsert client table rows).statement.table = some (.str table) := rfl
  obtain ⟨segments, body⟩ := Scope.insert_gives quotes (Nested.plainly env _) keyed dotted source rfl rfl rfl rfl rfl
  refine ⟨segments, Query.compile_gives body fun v hv => ?_⟩
  have given : v ∈ (cells client rows).flatMap Insertion.given := bindings_sql client segments rows ▸ hv
  exact defined_of_dataCells v given

/-- Reading an insert of rows back gives the cells of each row by the names of their columns. -/
theorem records?_sql {client : Client Value} (builtin : client.dialect ∈ Dialect.builtin) (segments : List String)
    {rows : List SparseRow} (keyed : columns rows ≠ []) {c : Compiled Value}
    (text : c.sql = (sql client segments rows).text) (values : c.bindings = (cells client rows).flatMap Insertion.given) :
    c.records? client.capabilities.quotes =
      some (rows.map fun row => (columns rows).zip ((columns rows).map (Scope.dataCell (Scope.filler client) row))) := by
  have filled : cells client rows ≠ [] := by
    rintro none_
    obtain rfl : rows = [] := by simpa [cells, Scope.dataCells] using none_
    exact keyed rfl
  refine (Insertion.records?_of_sql builtin segments keyed (unstarred rows) filled (by simp [cells, Scope.dataCells]) text
    values).trans ?_
  rw [cells, Scope.dataCells, List.map_map]
  rfl

end SparseRow

/-- An insert of rows of data has a compiled form, and reading it back gives the rows. -/
theorem insertQuery_describes (env : Environment) {client : Client Value} (builtin : client.dialect ∈ Dialect.builtin)
    (unhooked : client.wrapIdentifier = none) {table : String} (dotted : DottedName table) {rows : List DataRow}
    (filled : rows ≠ []) : ∃ sql records values,
      ((insertQuery client table rows).compile env).Gives ((insertQuery client table rows).compiledAs sql) values ∧
        ((insertQuery client table rows).compiledAs sql).records? client.capabilities.quotes = some records ∧
          Forall₂ Record.Describes records rows := by
  have keyed : SparseRow.columns (rows.map DataRow.sparse) ≠ [] := by
    obtain ⟨row, others, rfl⟩ := List.exists_cons_of_ne_nil filled
    exact SparseRow.columns_ne_nil ⟨row.sparse, by simp, row.filled⟩
  obtain ⟨segments, compiled⟩ := SparseRow.insert_gives env builtin unhooked dotted keyed
  rw [sparseInsert_sparse] at compiled
  refine ⟨_, _, _, compiled, SparseRow.records?_sql builtin segments keyed rfl (SparseRow.bindings_sql _ _ _), ?_⟩
  rw [List.map_map, List.forall₂_map_left_iff]
  refine List.forall₂_same.mpr fun row hr => row.describes _ (Scope.nodup_columns _) fun e he => ?_
  exact SparseRow.mem_columns.mpr ⟨row.sparse, List.mem_map_of_mem hr, e, he, rfl⟩

/-- An insert of rows that may lack columns keeps every cell under its column. It names the columns of all rows,
each at its first place, and has a list of cells for each row, in order. The cell of a row under a column that it
has is a placeholder, to which its value is bound; a row has the filler of the client under any other column. -/
theorem SparseRow.insert_keeps_cells (env : Environment) {client : Client Value}
    (builtin : client.dialect ∈ Dialect.builtin) (unhooked : client.wrapIdentifier = none) {table : String}
    (dotted : DottedName table) {rows : List SparseRow} (keyed : ∃ row ∈ rows, row.entries ≠ []) :
    ∃ (segments : List String) (c : Compiled Value),
      ((sparseInsert client table rows).compile env).outcome.1 = .ok c ∧
        c.sql = (SparseRow.sql client segments rows).text ∧
        c.bindings = (SparseRow.cells client rows).flatMap Insertion.given ∧
        c.records? client.capabilities.quotes = some (rows.map fun row =>
          (SparseRow.columns rows).map fun column => (column, Scope.dataCell (Scope.filler client) row column)) := by
  have some_ := columns_ne_nil keyed
  obtain ⟨segments, compiled⟩ := insert_gives env builtin unhooked dotted some_
  have values := bindings_sql client segments rows
  refine ⟨segments, _, compiled.outcome, rfl, values, (records?_sql builtin segments some_ rfl values).trans ?_⟩
  have cells (row : SparseRow) : (columns rows).zip ((columns rows).map (Scope.dataCell (Scope.filler client) row)) =
      (columns rows).map fun column => (column, Scope.dataCell (Scope.filler client) row column) := by
    simpa using List.zip_map' (f := id) (g := Scope.dataCell (Scope.filler client) row) (l := columns rows)
  simp only [cells]

/-- Three rows, the second without any column, in a dialect that has a word for defaults. -/
theorem SparseRow.insert_keeps_cells_postgres :
    let client : Client Value := { dialect := .postgres }
    let rows : List SparseRow :=
      [⟨[("b", .list [.int 1, .null]), ("a", .null)], by decide, by decide +kernel, by decide⟩,
        ⟨[], by decide, by decide, by decide⟩,
        ⟨[("a", .int 2), ("c", .str "x")], by decide, by decide +kernel, by decide⟩]
    client.dialect ∈ Dialect.builtin ∧ DottedName "t" ∧ (∃ row ∈ rows, row.entries ≠ []) ∧
      ∃ (segments : List String) (c : Compiled Value),
        ((sparseInsert client "t" rows).compile { client }).outcome.1 = .ok c ∧
          c.sql = (SparseRow.sql client segments rows).text ∧
          c.bindings = [.str "[1, null]", .null, .int 2, .str "x"] ∧
          c.records? client.capabilities.quotes = some
            [[("b", some (.str "[1, null]")), ("a", some .null), ("c", none)], [("b", none), ("a", none), ("c", none)],
              [("b", none), ("a", some (.int 2)), ("c", some (.str "x"))]] := by
  intro client rows
  have builtin : client.dialect ∈ Dialect.builtin := by simp [client, Dialect.builtin]
  have dotted : DottedName "t" := PlainName.dotted (by decide +kernel)
  have keyed : ∃ row ∈ rows, row.entries ≠ [] := ⟨_, .head _, by simp⟩
  obtain ⟨segments, c, compiled, text, values, records⟩ :=
    SparseRow.insert_keeps_cells { client } builtin rfl dotted keyed
  have columns : SparseRow.columns rows = ["b", "a", "c"] := by decide +kernel
  have json : (Value.list [.int 1, .null]).asStored = .str "[1, null]" := congrArg Value.str (by decide +kernel)
  refine ⟨builtin, dotted, keyed, segments, c, compiled, text, values.trans ?_, records.trans ?_⟩
  · rw [SparseRow.cells, columns, ← json]
    rfl
  · rw [columns, ← json]
    rfl

end SqlBuilder
