import SqlBuilder.Address
import SqlBuilder.Error
import SqlBuilder.Number.Whole

/-!
# Client configuration

The settings of a client, and what callers may write for them: a dialect's name, a connection address
whose scheme names the dialect, or a mapping of settings. Settings are checked one by one, each may be
written in any form that leaves no doubt, and all rejected ones are reported together.

* `Config`: the settings.
* `Config.ofValue`: the settings that a value describes.
* `Config.client`: the client of the settings.
-/

namespace SqlBuilder

/-- The settings of a client. They are checked when they are read; a change of one later on is not. -/
structure Config where
  dialect : Value
  version : Option String := none
  /-- The address or the settings of the connection, which are passed on as they are. -/
  connection : Value := .null
  searchPath : Value := .null
  useNullAsDefault : Bool := false
  paramstyle : Option Paramstyle := none
  wrapIdentifier : Option IdentifierHook := none
  postProcessResponse : Option ResponseHook := none
  acquireTimeout : Value := .int 60000
  debug : Bool := false
  deriving Inhabited

/-- A rejected setting: the path to it and the kind of the failure. -/
abbrev Rejection := String × String

/-- The outcome of checking a setting. -/
abbrev Checked (α : Type) := Except (List Rejection) α

/-- The identifier hook of a name. -/
def IdentifierHook.ofName : String → IdentifierHook
  | "upper" => .upper
  | "prefix" => .prefixed
  | "bare" => .bare
  | "context" => .context
  | _ => .broken

/-- The response hook of a name. -/
def ResponseHook.ofName : String → ResponseHook
  | "rows" => .rows
  | "pair" => .pair
  | "context" => .context
  | _ => .broken

namespace Config

open Text

/-! ## Single settings -/

/-- The text of a text, or of bytes in UTF-8. -/
def checkText (path : String) : Value → Checked String
  | .str s => .ok s
  | .scalar (.bytes bs) =>
    match String.fromUTF8? ⟨bs.toArray⟩ with
    | some s => .ok s
    | none => .error [(path, "string_unicode")]
  | _ => .error [(path, "string_type")]

/-- A truth value, from one of the words for it. -/
def checkWord (path word : String) : Checked Bool :=
  if ["1", "on", "t", "true", "y", "yes"].contains (lower word) then .ok true
  else if ["0", "off", "f", "false", "n", "no"].contains (lower word) then .ok false
  else .error [(path, "bool_parsing")]

/-- The bound of the numbers of 64 bits. -/
def wordBound : Int := 9223372036854775808

/-- A truth value, from one of the numbers for it. Numbers of more than 64 bits are of another kind. -/
def checkBit (path : String) (n : Int) : Checked Bool :=
  if n = 1 then .ok true
  else if n = 0 then .ok false
  else if -wordBound ≤ n && n < wordBound then .error [(path, "bool_parsing")]
  else .error [(path, "bool_type")]

/-- The whole number that a double is, if it is one of at most 64 bits. -/
def wholeOfDouble? (d : Option Decimal) : Option Int :=
  (d.bind Decimal.whole?).filter fun n => -wordBound < n && n < wordBound

/-- A truth value, from a double that is one of the numbers for it. -/
def checkDouble (path : String) (d : Option Decimal) : Checked Bool :=
  match wholeOfDouble? d with
  | some n => checkBit path n
  | none => .error [(path, "bool_type")]

/-- A truth value. -/
def checkBool (path : String) : Value → Checked Bool
  | .bool b => .ok b
  | .int n => checkBit path n
  | .str s => checkWord path s
  | .scalar (.bytes bs) =>
    match String.fromUTF8? ⟨bs.toArray⟩ with
    | some s => checkWord path s
    | none => .error [(path, "bool_parsing")]
  | .scalar (.float x) => checkDouble path x.toDecimal?
  | .scalar (.decimal d) => checkDouble path d.nearestDouble?
  | _ => .error [(path, "bool_type")]

/-- Drops a fraction that consists of zeros. -/
def dropZeroFraction (cs : List Char) : List Char :=
  match cs.dropWhile (· != '.') with
  | '.' :: '0' :: zeros => if zeros.all (· == '0') then cs.takeWhile (· != '.') else cs
  | _ => cs

/-- Drops the zeros before a number, which may have its sign after them, and the underscores among
them; a last one stays if neither a digit nor a sign follows. -/
def dropLeadingZeros (cs : List Char) : List Char :=
  match cs with
  | '0' :: rest =>
    let zeros := '0' :: rest.takeWhile fun c => c == '0' || c == '_'
    match cs.drop zeros.length with
    | c :: more => if c.isDigit || c == '-' then c :: more else zeros.getLast?.toList ++ c :: more
    | [] => zeros.getLast?.toList
  | cs => cs

/-- Drops the underscores that stand between digits; others stay. -/
def dropUnderscores (cs : List Char) : List Char :=
  if cs.head? == some '_' || cs.getLast? == some '_' || hasInfix ['_', '_'] cs then cs
  else cs.filter (· != '_')

/-- A text that spells a whole number, without what does not count. -/
def plainWhole (s : String) : List Char :=
  let cs := trimmed isMargin s.toList
  let cs := match cs with
    | '+' :: rest => if rest.head?.any Char.isDigit then rest else cs
    | cs => cs
  dropUnderscores (dropZeroFraction (dropLeadingZeros cs))

/-- How a text fails to spell a whole number. -/
inductive NoSpelling
  | malformed
  /-- there are too many digits -/
  | tooLong

/-- The whole number that digits spell, after a minus if it is negative; no zero stands before them. -/
def spelledWhole (cs : List Char) : Except NoSpelling Int :=
  let (sign, body) : Int × List Char := match cs with
    | '-' :: body => (-1, body)
    | body => (1, body)
  let digits := body.takeWhile Char.isDigit
  if digits.isEmpty then .error .malformed
  else if digits.head? == some '0' then
    if body == ['0'] then .ok 0 else .error .malformed
  else if cs.length - body.length + digits.length > digitLimit then .error .tooLong
  else if digits.length < body.length then .error .malformed
  else .ok (sign * digitsValue digits)

/-- The whole number that a text spells, as it stands or without what does not count. -/
def checkWholeText (path : String) (s : String) : Checked Int :=
  match spelledWhole s.toList with
  | .ok n => .ok n
  | .error .tooLong => .error [(path, "int_parsing_size")]
  | .error .malformed =>
    match spelledWhole (plainWhole s) with
    | .ok n => .ok n
    | .error _ => .error [(path, "int_parsing")]

/-- A whole number. -/
def checkWhole (path : String) : Value → Checked Int
  | .int n => .ok n
  | .bool b => .ok (if b then 1 else 0)
  | .str s => checkWholeText path s
  | .scalar (.bytes bs) =>
    match String.fromUTF8? ⟨bs.toArray⟩ with
    | some s => checkWholeText path s
    | none => .error [(path, "int_parsing")]
  | .scalar (.float x) =>
    match x.toDecimal? with
    | some (.finite s c e) =>
      match wholeOfDouble? x.toDecimal?, Decimal.whole? (.finite s c e) with
      | some n, _ => .ok n
      | none, some _ => .error [(path, "int_parsing_size")]
      | none, none => .error [(path, "int_from_float")]
    | _ => .error [(path, "finite_number")]
  | .scalar (.decimal d) =>
    match d, d.whole? with
    | .finite _ _ _, some n => .ok n
    | .finite _ _ _, none => .error [(path, "int_from_float")]
    | _, _ => .error [(path, "finite_number")]
  | _ => .error [(path, "int_type")]

/-- A whole number that is not negative. -/
def checkCount (path : String) (v : Value) : Checked Int := do
  let n ← checkWhole path v
  if n < 0 then throw [(path, "greater_than_equal")] else return n

/-- Several outcomes as one; all rejections are kept. -/
def checkAll {α : Type} : List (Checked α) → Checked (List α)
  | [] => .ok []
  | .ok a :: rest => (checkAll rest).map (a :: ·)
  | .error e :: rest =>
    match checkAll rest with
    | .ok _ => .error e
    | .error e' => .error (e ++ e')

/-- A list of texts, or one text with commas. -/
def checkPath (path : String) : Value → Checked (List String)
  | .str s =>
    .ok (((splitOn ',' s.toList).map stripChars).filterMap fun part =>
      if part.isEmpty then none else some (String.ofList part))
  | .list items | .tuple items | .set items =>
    checkAll (items.mapIdx fun i v => checkText (path ++ "." ++ toString i) v)
  | _ => .error [(path, "list_type")]

/-- The address or the settings of a connection; the names of settings are texts. -/
def checkConnection (path : String) : Value → Checked Value
  | .str s => .ok (.str s)
  | .scalar (.bytes bs) =>
    match String.fromUTF8? ⟨bs.toArray⟩ with
    | some s => .ok (.str s)
    | none => .error [(path ++ ".dict[str,any]", "dict_type"), (path ++ ".str", "string_unicode")]
  | .map entries =>
    let rejected := entries.filterMap fun (k, _) =>
      match k with
      | .str _ => none
      | k => some (path ++ ".dict[str,any]." ++ k.text ++ ".[key]", "string_type")
    if rejected.isEmpty then .ok (.map entries)
    else .error (rejected ++ [(path ++ ".str", "string_type")])
  | _ => .error [(path ++ ".dict[str,any]", "dict_type"), (path ++ ".str", "string_type")]

/-- A placeholder style, by its name. -/
def checkStyle (path : String) : Value → Checked Paramstyle
  | .str s =>
    match Paramstyle.ofName s with
    | .named _ => .error [(path, "literal_error")]
    | style => .ok style
  | _ => .error [(path, "literal_error")]

/-- A hook, by its name. -/
def checkHook {α : Type} (ofName : String → α) (path : String) : Value → Checked α
  | .str s => .ok (ofName s)
  | .callback _ => .ok (ofName "")
  | _ => .error [(path, "callable_type")]

/-- A setting that may be left out or be null. -/
def checkOptional {α : Type} (check : String → Value → Checked α) (name : String)
    (entries : List (Value × Value)) : Checked (Option α) :=
  match Value.get? name entries with
  | none | some .null => .ok none
  | some v => (check name v).map some

/-- A setting that may be left out. -/
def checkDefault {α : Type} (check : String → Value → Checked α) (name : String) (default : α)
    (entries : List (Value × Value)) : Checked α :=
  match Value.get? name entries with
  | none => .ok default
  | some v => check name v

/-- The rejections of an outcome. -/
def rejections {α : Type} : Checked α → List Rejection
  | .ok _ => []
  | .error e => e

/-! ## All settings -/

/-- The names of the settings. -/
def settingNames : List String :=
  ["client", "version", "connection", "search_path", "use_null_as_default", "paramstyle",
   "wrap_identifier", "post_process_response", "acquire_connection_timeout", "debug"]

/-- The name of a dialect as it is registered: in lower case, without blanks, and no alias. -/
def dialectName (name : String) : String :=
  let name := lower (strip name)
  (dialectAliases.lookup name).getD name

/-- Checks a mapping of settings. -/
def ofEntries (entries : List (Value × Value)) : Except Error Config :=
  let dialect := checkText "client" ((Value.get? "client" entries).getD .null)
  let version := checkOptional checkText "version" entries
  let connection := checkOptional checkConnection "connection" entries
  let searchPath := checkOptional checkPath "search_path" entries
  let useNull := checkDefault checkBool "use_null_as_default" false entries
  let style := checkOptional checkStyle "paramstyle" entries
  let wrap := checkOptional (checkHook IdentifierHook.ofName) "wrap_identifier" entries
  let process := checkOptional (checkHook ResponseHook.ofName) "post_process_response" entries
  let timeout := checkDefault checkCount "acquire_connection_timeout" 60000 entries
  let debug := checkDefault checkBool "debug" false entries
  let unknown := entries.filterMap fun (k, _) =>
    if settingNames.contains k.text then none else some (k.text, "extra_forbidden")
  let rejected := rejections dialect ++ rejections version ++ rejections connection ++
    rejections searchPath ++ rejections useNull ++ rejections style ++ rejections wrap ++
    rejections process ++ rejections timeout ++ rejections debug ++ unknown
  match dialect, version, connection, searchPath, useNull, style, wrap, process, timeout, debug with
  | .ok dialect, .ok version, .ok connection, .ok searchPath, .ok useNull, .ok style, .ok wrap,
    .ok process, .ok timeout, .ok debug =>
    if rejected.isEmpty then
      .ok
        { dialect := .str (dialectName dialect)
          version
          connection := connection.getD .null
          searchPath := searchPath.elim .null fun path => .list (path.map .str)
          useNullAsDefault := useNull
          paramstyle := style
          wrapIdentifier := wrap
          postProcessResponse := process
          acquireTimeout := .int timeout
          debug }
    else .error (.rejectedSettings rejected)
  | _, _, _, _, _, _, _, _, _, _ => .error (.rejectedSettings rejected)

/-! ## All forms -/

/-- The settings that a connection address implies. -/
def ofAddress (address : String) : Except Error Config :=
  let cs := address.toList
  if Address.isProper cs then
    let name := (Address.split cs).1.takeWhile (· != '+')
    .ok { dialect := .str (dialectName (String.ofList name)), connection := .str address }
  else .error (.fault .badValue)

/-- The settings that a value describes. -/
def ofValue : Value → Except Error Config
  | .null => .error .clientMissing
  | .str s =>
    if hasInfix [':', '/', '/'] s.toList then ofAddress s else .ok { dialect := .str (dialectName s) }
  | .map entries =>
    if (Value.get? "client" entries).any Value.isTruthy then ofEntries entries
    else .error .clientMissing
  | v => .error (v.missing "get")

/-- What settings may be given as. -/
inductive Given
  | value (v : Value)
  /-- settings that were checked before -/
  | config (c : Config)

/-- The settings that are given; those that were checked before stay as they are. -/
def resolve : Given → Except Error Config
  | .value v => ofValue v
  | .config c => .ok c

/-! ## Changes -/

/-- A hook, by its name; any other value that is present is a broken one. -/
def hook? {α : Type} (ofName : String → α) (broken : α) : Value → Option α
  | .null => none
  | .str name => some (ofName name)
  | _ => some broken

/-- A placeholder style, by its name; a value that is no name is a style of its own. -/
def style? (v : Value) : Option Paramstyle :=
  if v.isTruthy then some (v.str?.elim (.named v.text) Paramstyle.ofName) else none

/-- Changes one setting without checking it. -/
def change (c : Config) (entry : String × Value) : Config :=
  let v := entry.2
  match entry.1 with
  | "client" => { c with dialect := v }
  | "connection" => { c with connection := v }
  | "search_path" => { c with searchPath := v }
  | "use_null_as_default" => { c with useNullAsDefault := v.isTruthy }
  | "paramstyle" => { c with paramstyle := style? v }
  | "wrap_identifier" => { c with wrapIdentifier := hook? .ofName .broken v }
  | "post_process_response" => { c with postProcessResponse := hook? .ofName .broken v }
  | "acquire_connection_timeout" => { c with acquireTimeout := v }
  | "debug" => { c with debug := v.isTruthy }
  | _ => c

/-- The settings without hooks. -/
def withoutProcessing (c : Config) : Config :=
  { c with wrapIdentifier := none, postProcessResponse := none }

/-- The dialect of the settings, if it is registered. -/
def findDialect (c : Config) (registry : Registry) : Except Error Dialect :=
  if !c.dialect.isKey then .error wrongType
  else match c.dialect.str?.bind registry.find? with
    | some dialect => .ok dialect
    | none => .error (.unknownDialect c.dialect.text registry.names)

/-- The client of the settings. -/
def client (c : Config) (registry : Registry) : Except Error (Client Value) := do
  return {
    dialect := ← c.findDialect registry
    paramstyle := c.paramstyle
    searchPath := some c.searchPath
    useNullAsDefault := c.useNullAsDefault
    wrapIdentifier := c.wrapIdentifier
    postProcessResponse := c.postProcessResponse
    acquireTimeout := some c.acquireTimeout
    debug := c.debug }

end Config

end SqlBuilder
