import SqlBuilder.Dialect.Capabilities

/-!
# The built-in dialects

Seven dialects, three of them variants of the Postgres one.
-/

namespace SqlBuilder.Dialect

/-- Containment, pattern and range operators of the Postgres family. -/
def postgresOperators : List String :=
  ["~=", "~*", "!~", "!~*", "#", "&&", "@>", "<@", "||", "&<", "&>", "-|-", "@@", "!!",
   "?", "?|", "?&"]

/-- What PostgreSQL can do. -/
def postgresCapabilities : Capabilities where
  paramstyle := .format
  jsonPath :=
    { function := "jsonb_extract_path", arrayPath := true, textOperator := some " #>> '\x7b\x7d'" }
  views := { renameColumn := true, defaultTo := true, checkOption := true, materialized := true }
  operators := baseOperators ++ postgresOperators
  canCancelQuery := true
  nativeNullsOrdering := true
  supportsDistinctOn := true
  truncate := "truncate \x7btable\x7d restart identity"
  escape := .braced

/-- PostgreSQL. -/
def postgres : Dialect where
  name := "postgres"
  capabilities := postgresCapabilities
  grammar := .postgres

/-- CockroachDB: upserts, paths into plain JSON, and a session flag before a column changes. -/
def cockroachdb : Dialect where
  name := "cockroachdb"
  capabilities :=
    { postgresCapabilities with
      upsert := .into
      jsonPath :=
        { function := "json_extract_path", arrayPath := true, textOperator := some " #>> '\x7b\x7d'" }
      views := { materialized := true }
      truncate := "truncate \x7btable\x7d"
      alterColumnPrelude := some "SET enable_experimental_alter_column_type_general = true" }
  grammar := .cockroach

/-- Redshift: Postgres without most of its write extensions. -/
def redshift : Dialect where
  name := "redshift"
  capabilities :=
    { postgresCapabilities with
      conflict := .unsupported
      returning := .unsupported
      locking := .unsupported
      jsonPath := { function := "json_extract_path_text", arrayPath := true }
      views := { materialized := true }
      supportsDistinctOn := false
      canCancelQuery := false
      deferrable := false
      truncate := "truncate \x7btable\x7d" }
  grammar := .redshift

/-- MySQL and MariaDB. -/
def mysql : Dialect where
  name := "mysql"
  capabilities :=
    { quoting := { openQuote := "\x60", closeQuote := "\x60" }
      paramstyle := .format
      conflict := .onDuplicateKey
      returning := .unsupported
      locking := .forClause [.forUpdate, .forShare] [.skipLocked, .noWait] true
      jsonPath := { function := "json_extract", unquoteFunction := some "json_unquote" }
      paging := .limitOffset (some "18446744073709551615")
      views := { checkOption := true }
      catalog := { CatalogQueries.informationSchema with schemaDefault := "database()" }
      emptyInsert := "() values ()"
      ilikeOperator := "like"
      canCancelQuery := true
      deferrable := false
      escape := .backslashed }
  grammar := .mysql

/-- Oracle Database. -/
def oracle : Dialect where
  name := "oracledb"
  capabilities :=
    { paramstyle := .numeric
      aliasKeyword := " "
      conflict := .unsupported
      returning := .unsupported
      locking := .forClause [.forUpdate] [.skipLocked, .noWait] false
      jsonPath := { function := "json_value" }
      paging := .offsetFetch false none
      catalog :=
        { hasTable :=
            "select table_name from all_tables where table_name = ? and owner = \x7bschema\x7d"
          hasColumn :=
            "select column_name from all_tab_columns where table_name = ? " ++
              "and column_name = ? and owner = \x7bschema\x7d"
          schemaDefault := "sys_context('userenv', 'current_schema')" }
      ilikeOperator := "like"
      booleansAsIntegers := true
      deferrable := false
      truncate := "truncate table \x7btable\x7d"
      beginTransaction := none
      escape := .bit }
  grammar := .oracle

/-- Microsoft SQL Server. -/
def mssql : Dialect where
  name := "mssql"
  capabilities :=
    { quoting := { openQuote := "[", closeQuote := "]" }
      conflict := .unsupported
      returning := .output
      locking := .tableHint
      jsonPath := { function := "JSON_VALUE" }
      paging := .offsetFetch true (some "(select 0)")
      views := { createOrReplace := "or alter", renameColumn := true }
      catalog := { CatalogQueries.informationSchema with schemaDefault := "schema_name()" }
      ilikeOperator := "collate SQL_Latin1_General_CP1_CI_AS like"
      canCancelQuery := true
      deferrable := false
      truncate := "truncate table \x7btable\x7d"
      beginTransaction := some "begin transaction"
      escape := .bit }
  grammar := .mssql

/-- SQLite. -/
def sqlite : Dialect where
  name := "sqlite3"
  capabilities :=
    { quoting := { openQuote := "\x60", closeQuote := "\x60" }
      locking := .unsupported
      paging := .limitOffset (some "-1")
      views := { createOrReplace := "drop" }
      catalog :=
        { hasTable := "select * from sqlite_master where type = 'table' and name = ?"
          hasColumn := "select * from pragma_table_info(?) where name = ?" }
      defaultKeyword := false
      ilikeOperator := "like"
      truncate := "delete from \x7btable\x7d" }
  grammar := .sqlite

/-- Every built-in dialect. -/
def builtin : List Dialect :=
  [postgres, cockroachdb, redshift, mysql, oracle, mssql, sqlite]

end SqlBuilder.Dialect
