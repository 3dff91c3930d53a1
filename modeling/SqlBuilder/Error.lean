import SqlBuilder.Template
import SqlBuilder.Value.Text

/-!
# Errors

Everything that can go wrong, by cause. `Error.message` words the causes that have a text.

* `Fault`: an argument of a kind that an operation cannot work on.
* `Invalid`: a request that no dialect accepts, with a code.
* `Error`: all causes.
-/

namespace SqlBuilder

/-- An operation met a value that it cannot work on. -/
inductive Fault
  /-- a value of a wrong kind, or a wrong number of arguments -/
  | wrongType
  /-- a key that a mapping lacks -/
  | missingKey
  /-- a position that a sequence lacks -/
  | outOfRange
  /-- a value of the right kind that makes no sense -/
  | badValue
  /-- a failure of the caller's own -/
  | lookup
  /-- a failure of a collaborator -/
  | runtime
  /-- a collaborator that took too long -/
  | timeout
  /-- an operation that the value does not have -/
  | noSuchMember
  /-- a number or a date out of bounds -/
  | overflow
  /-- builders nested too deep, or without end -/
  | nestingTooDeep
  deriving DecidableEq, Inhabited

/-- A request that no dialect accepts. -/
inductive Invalid
  | operator (token : String)
  | aliasNotText
  | commonTableQuery
  | distinctOnEmpty
  | whereArgument
  | between (column : String)
  | nullsOrder
  | paging (name shown : String)
  | windowOrder (function : String)
  | waitWithoutLock (mode : String)
  | updateWithoutValue
  | updateValues
  | counterColumn
  | counterStep (column : String)
  | comment
  | commentMarks
  | tableComment
  | columnComment
  | timeout
  | clearing (clause : String)
  | extensionTaken (name : String)
  | extensionTwice (name : String)
  | insertValues
  | uuidText (text : String)
  | uuidSize (size : Nat)
  | tableName
  | foreignTable (kind : String)
  | tableCallback
  | viewCallback
  | viewQuery
  | dialectOption (option dialect : String)
  | alterOption (option : String)
  | alterOnly (operation : String)
  | viewColumnAlterOnly
  | foreignMissing (operation : String)
  | foreignIncomplete (columns : String)
  | enumName
  | constraintPredicate
  | deferrableIndex
  | chunkSize (size : String)
  | batchRows (kind : String)
  | batchRow
  /-- a request that a driver refuses in words of its own -/
  | refused (message : String)
  deriving DecidableEq, Inhabited

namespace Invalid

/-- The code of an invalid request. -/
def code : Invalid → String
  | operator _ => "INVALID_OPERATOR"
  | aliasNotText => "INVALID_ALIAS"
  | commonTableQuery => "INVALID_WITH"
  | distinctOnEmpty => "INVALID_COLUMNS"
  | whereArgument => "INVALID_WHERE"
  | between _ => "INVALID_BETWEEN"
  | nullsOrder => "INVALID_NULLS"
  | paging _ _ => "INVALID_PAGING"
  | windowOrder _ => "INVALID_ANALYTIC"
  | waitWithoutLock _ => "INVALID_LOCK"
  | updateWithoutValue | updateValues => "INVALID_UPDATE"
  | counterColumn => "INVALID_COLUMN"
  | counterStep _ => "INVALID_AMOUNT"
  | comment | commentMarks | tableComment | columnComment => "INVALID_COMMENT"
  | timeout => "INVALID_TIMEOUT"
  | clearing _ => "INVALID_CLEAR"
  | extensionTaken _ | extensionTwice _ => "EXTENSION_CONFLICT"
  | insertValues => "INVALID_INSERT"
  | uuidText _ | uuidSize _ => "INVALID_UUID"
  | tableName | foreignTable _ => "INVALID_TABLE"
  | tableCallback | viewCallback => "MISSING_CALLBACK"
  | viewQuery => "MISSING_VIEW_QUERY"
  | dialectOption _ _ | alterOption _ => "UNSUPPORTED_OPTION"
  | alterOnly _ | viewColumnAlterOnly => "INVALID_ALTER"
  | foreignMissing _ | foreignIncomplete _ => "INVALID_FOREIGN"
  | enumName => "INVALID_COLUMN_TYPE"
  | constraintPredicate | deferrableIndex => "INVALID_INDEX"
  | chunkSize _ => "INVALID_CHUNK_SIZE"
  | batchRows _ | batchRow => "INVALID_BATCH"
  | refused _ => "INVALID_INPUT"

/-- The wording of an invalid request. -/
def message : Invalid → String
  | operator token => "The operator " ++ Text.quoted token ++ " is not permitted"
  | aliasNotText => "with() first argument must be a string"
  | commonTableQuery => "with() second argument must be a builder, raw or callback"
  | distinctOnEmpty => "distinct_on requires at least one column"
  | whereArgument => "where() with a single argument needs a mapping, callback, raw or boolean"
  | between _ => "You must specify 2 values for the between clause"
  | nullsOrder => "nulls must be 'first' or 'last'"
  | paging name _ => "A valid non-negative integer must be provided to " ++ name
  | windowOrder function => function ++ "() requires an order_by"
  | waitWithoutLock mode => "." ++ mode ++ "() can be used only with a lock mode"
  | updateWithoutValue => "update() with a column name needs a value"
  | updateValues => "update() expects a mapping of columns to values"
  | counterColumn => "increment/decrement column must be a string"
  | counterStep column =>
    "increment/decrement amount for " ++ Text.quoted column ++ " must be a number"
  | comment => "Comment must be a string"
  | commentMarks => "Cannot include /* or */ in comment"
  | tableComment => "Table comment must be string"
  | columnComment => "Column comment must be a string"
  | timeout => "timeout must be a non-negative integer (ms)"
  | clearing clause => "Clearing " ++ clause ++ " is not supported"
  | extensionTaken name => "Can't extend QueryBuilder with existing method ('" ++ name ++ "')."
  | extensionTwice name => "QueryBuilder extension '" ++ name ++ "' is already registered."
  | insertValues => "insert() expects a mapping or a list of mappings"
  | uuidText text => "Invalid UUID: " ++ text
  | uuidSize size => "Expected 16 bytes for a binary UUID, got " ++ toString size
  | tableName => "Table name must be a string"
  | foreignTable kind => "Expected tableName to be a string, got: " ++ kind
  | tableCallback => "A callback function must be supplied to calls against create_table and table"
  | viewCallback => "A callback function must be supplied to view calls"
  | viewQuery => "A view needs a query, set it with as_()"
  | dialectOption option dialect => option ++ " is only supported with " ++ dialect ++ "."
  | alterOption option =>
    "Altering the " ++ option ++ " outside of create table is not supported, use a raw statement."
  | alterOnly operation => operation ++ "() is only available when altering a table"
  | viewColumnAlterOnly => "column() is only available when altering a view"
  | foreignMissing operation => operation ++ "() must follow references()"
  | foreignIncomplete columns =>
    "Foreign key on " ++ columns ++ " needs references() and in_table()"
  | enumName => "A native enum needs an enum_name"
  | constraintPredicate => "A unique constraint cannot carry a predicate"
  | deferrableIndex => "A unique index cannot be deferrable"
  | chunkSize size => "Invalid chunkSize: " ++ size
  | batchRows kind => "Invalid batch: Expected a sequence of rows, got " ++ kind
  | batchRow => "Invalid batch: every row must be a mapping"
  | refused message => message

/-- The particulars of an invalid request, by name. -/
def details : Invalid → List (String × String)
  | operator token => [("operator", token)]
  | between column => [("column", column)]
  | paging name shown => [(name, shown)]
  | extensionTaken name | extensionTwice name => [("name", name)]
  | _ => []

end Invalid

/-- Something that went wrong. -/
inductive Error
  | fault (f : Fault)
  /-- a query has no member of that name -/
  | unknownMethod (name : String)
  -- configuration
  | clientMissing
  | unknownDialect (name : String) (known : List String)
  | clientNeeded
  /-- rejected settings, each with the path to it and the kind of the failure -/
  | rejectedSettings (fields : List (String × String))
  -- requests
  | invalid (i : Invalid)
  /-- two bounds are needed for a column, whose text has not been made yet -/
  | boundsNeeded (column : Value)
  -- capabilities
  | unsupported (dialect feature detail : String)
  | cannotCancel (dialect : String)
  | notDeferrable (dialect : String)
  | noCheckOption (dialect : String)
  | noViewColumnRename (dialect : String)
  | noViewColumnDefault (dialect : String)
  -- bindings
  | undefinedInRaw (keys : List Value) (sql : String)
  | undefinedInQuery (method : String) (columns : List String) (sql : String)
  -- compilation
  | unknownStatement (method : Value)
  | emptyUpdate
  | tableMissing
  | bindingCount (expected seen : Nat)
  | definitionNotFound (sql : String)
  | definitionUnbalanced (sql : String)
  | rebuildTableMissing (table : String)
  | rebuildColumnMissing (column : ColumnName)
  -- execution
  | execution (text : String) (sql : Option String) (bindings : List Value)
  | timedOut (text : String) (sql : Option String) (bindings : List Value)
  deriving Inhabited

namespace Error

/-- The wording of an error; a plain fault has none. -/
def message : Error → String
  | fault _ | rejectedSettings _ => ""
  | unknownMethod name => "'QueryBuilder' object has no attribute " ++ Text.quoted name
  | clientMissing => "Required configuration option 'client' is missing."
  | unknownDialect name known =>
    "Unsupported dialect target: '" ++ name ++ "'. Registered targets: " ++
      Value.bracketed "[" "]" (known.map Text.quoted) ++ "."
  | clientNeeded =>
    "A raw expression needs a client to compile; create it with db.raw() " ++
      "or splice it into a query."
  | invalid i => i.message
  | boundsNeeded _ => (Invalid.between "").message
  | unsupported dialect feature detail =>
    feature ++ (if detail.isEmpty then "" else " " ++ detail) ++ " is not supported by the " ++
      dialect ++ " dialect"
  | cannotCancel _ => "Query cancelling not supported for this dialect"
  | notDeferrable dialect => dialect ++ " does not support deferrable"
  | noCheckOption _ => "check option definition is not supported by this dialect."
  | noViewColumnRename _ => "rename column of views is not supported by this dialect."
  | noViewColumnDefault _ => "change default values of views is not supported by this dialect."
  | undefinedInRaw keys sql =>
    "Undefined binding(s) detected for keys " ++ (Value.list keys).shown ++
      " when compiling RAW query: " ++ sql
  | undefinedInQuery method columns sql =>
    "Undefined binding(s) detected when compiling " ++ Text.upper method ++
      ". Undefined column(s): [" ++ Text.joinWith ", " columns ++ "] query: " ++ sql
  | unknownStatement method => "Unknown query method " ++ method.shown
  | emptyUpdate => "Empty update: no columns to set"
  | tableMissing => "No table specified for query"
  | bindingCount expected seen =>
    "Expected " ++ toString expected ++ " bindings, saw " ++ toString seen
  | definitionNotFound sql => "Cannot parse table definition: " ++ sql
  | definitionUnbalanced sql => "Unbalanced table definition: " ++ sql
  | rebuildTableMissing table => "Table " ++ Text.quoted table ++ " not found for rebuild"
  | rebuildColumnMissing column => "Column " ++ column.form ++ " not found for rebuild"
  | execution text _ _ | timedOut text _ _ => text

/-- The clause that was being compiled when a compilation failed. -/
def clause? : Error → Option String
  | unknownStatement _ => some "method"
  | emptyUpdate => some "update"
  | tableMissing => some "table"
  | bindingCount _ _ => some "raw"
  | definitionNotFound _ | definitionUnbalanced _ => some "rebuild"
  | rebuildTableMissing _ | rebuildColumnMissing _ => some "rebuild"
  | _ => none

/-- The feature that a dialect lacks. -/
def feature? : Error → Option String
  | unsupported _ feature _ => some feature
  | cannotCancel _ => some "cancel"
  | notDeferrable _ => some "deferrable"
  | noCheckOption _ => some "check_option"
  | noViewColumnRename _ => some "rename_column"
  | noViewColumnDefault _ => some "default_to"
  | _ => none

/-- The dialect that lacks a feature. -/
def dialect? : Error → Option String
  | unsupported dialect _ _ | cannotCancel dialect | notDeferrable dialect | noCheckOption dialect
  | noViewColumnRename dialect | noViewColumnDefault dialect => some dialect
  | _ => none

/-- The names or positions of undefined values. -/
def keys : Error → List Value
  | undefinedInRaw keys _ => keys
  | undefinedInQuery _ columns _ => columns.map .str
  | _ => []

end Error

/-- The failure of an operation on a value of a wrong kind. -/
def wrongType : Error := .fault .wrongType

/-- The failure of an operation that a value does not have. -/
def noSuchMember : Error := .fault .noSuchMember

/-- The failure of a template with slots in braces. -/
def Template.BraceFault.error : BraceFault → Error
  | unmatched => .fault .badValue
  | unknown => .fault .missingKey
  | numbered => .fault .outOfRange

/-- The failure of an operation on a value that does not have it, which only a query names. -/
def Value.missing (v : Value) (member : String) : Error :=
  if v.isQuery then .unknownMethod member else noSuchMember

end SqlBuilder
