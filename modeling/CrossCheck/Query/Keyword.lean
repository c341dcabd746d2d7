/-!
Words with a meaning of their own.  Some never stand for a field, some do so only where nothing
that they open follows, and a database encloses the names that it reserves.  Words are given in
capital letters where a query is read and in small letters where it is written.
-/

namespace CrossCheck
namespace Query
namespace Keyword

/-- Two words that are read as one. -/
def pairs : List (String × String) :=
  [("CHAR", "VARYING"), ("CHARACTER", "SET"), ("CHARACTER", "VARYING"), ("CLUSTER", "BY"),
   ("CONNECT", "BY"), ("DISTRIBUTE", "BY"), ("DOUBLE", "PRECISION"), ("FOR", "TIMESTAMP"),
   ("FOR", "VERSION"), ("FOREIGN", "KEY"), ("GROUP", "BY"), ("GROUPING", "SETS"),
   ("LOCK", "TABLES"), ("MEMBER", "OF"), ("ORDER", "BY"), ("PARTITION", "BY"),
   ("PARTITIONED", "BY"), ("PRIMARY", "KEY"), ("SIGNED", "INTEGER"), ("SIMILAR", "TO"),
   ("SORT", "BY"), ("SOUNDS", "LIKE"), ("START", "WITH"), ("UNLOCK", "TABLES"),
   ("UNSIGNED", "INTEGER")]

/-- Marks of the sets of characters that a text can be written in. -/
def introducers : List String :=
  ["_ARMSCII8", "_ASCII", "_BIG5", "_BINARY", "_CP1250", "_CP1251", "_CP1256", "_CP1257", "_CP850",
   "_CP852", "_CP866", "_CP932", "_DEC8", "_EUCJPMS", "_EUCKR", "_GB18030", "_GB2312", "_GBK",
   "_GEOSTD8", "_GREEK", "_HEBREW", "_HP8", "_KEYBCS2", "_KOI8R", "_KOI8U", "_LATIN1", "_LATIN2",
   "_LATIN5", "_LATIN7", "_MACCE", "_MACROMAN", "_SJIS", "_SWE7", "_TIS620", "_UCS2", "_UJIS",
   "_UTF16", "_UTF16LE", "_UTF32", "_UTF8", "_UTF8MB3", "_UTF8MB4"]

/-- Words that open, join or end parts of a query and name nothing without a mark around them. -/
def barred : List String :=
  introducers ++
  ["ALTER", "ALWAYS", "ANALYZE", "AND", "AS", "BETWEEN", "CHARACTER SET", "CHARSET", "CLUSTER BY",
   "CONNECT BY", "CREATE", "CROSS", "DISTINCT", "DISTRIBUTE BY", "DROP", "ELSE", "EXCEPT", "FETCH",
   "FOR", "FOR TIMESTAMP", "FOR VERSION", "FORCE", "FROM", "GLOB", "GRANT", "GROUP BY",
   "GROUPING SETS", "HAVING", "IGNORE", "ILIKE", "IN", "INNER", "INSERT", "INTERSECT", "INTO",
   "JOIN", "KEY", "LATERAL", "LIKE", "LOCK", "MEMBER OF", "NOT", "NOTNULL", "ON", "OR", "ORDER BY",
   "OUTER", "OVER", "PARTITION BY", "PARTITIONED BY", "PARTITIONED_BY", "PRIMARY KEY", "QUALIFY",
   "REGEXP", "RETURNING", "RLIKE", "ROLLBACK", "SELECT", "SEPARATOR", "SIMILAR TO", "SORT BY",
   "SOUNDS LIKE", "START WITH", "STRAIGHT_JOIN", "TABLESAMPLE", "THEN", "UNCACHE", "UNION",
   "USING", "VALUES", "WHEN", "WHERE", "WITH", "XOR"]

/-- Words that name no function, though they may name a field. -/
def uncallable : List String :=
  ["ANTI", "APPLY", "ASC", "ASOF", "AUTOINCREMENT", "AUTO_INCREMENT", "BEGIN", "CACHE", "COLUMN",
   "COMMENT", "COMMIT", "CONSTRAINT", "COPY", "CUBE", "DEFAULT", "DELETE", "DESC", "DESCRIBE",
   "DIV", "END", "ESCAPE", "EXECUTE", "EXPLAIN", "FALSE", "FOREIGN KEY", "FULL", "FUNCTION", "IS",
   "KEEP", "KILL", "LIMIT", "LOAD", "NAMESPACE", "NATURAL", "ORDINALITY", "OVERLAPS", "OVERWRITE",
   "PARTITION", "PERCENT", "PIVOT", "PRAGMA", "PROCEDURE", "PUT", "RECURSIVE", "REFERENCES",
   "RENAME", "ROLLUP", "ROWS", "SEMI", "SESSION", "SET", "SETTINGS", "SHOW", "START", "TEMP",
   "TEMPORARY", "TRUE", "UNIQUE", "UNPIVOT", "UPDATE", "USE", "VIEW", "VOLATILE"]

/-- Words that may be called, though they name nothing else. -/
def onlyCallable : List String :=
  ["GLOB", "ILIKE", "INSERT", "LIKE", "PRIMARY KEY", "REGEXP", "RLIKE", "VALUES", "XOR"]

/-- Words that open a value of their own, wherever a value can stand. -/
def leading : List String := ["ANY", "CASE", "CONNECT_BY_ROOT", "IF"]

/-- Functions that are called without parentheses. -/
def moments : List String := ["CURRENT_DATE", "CURRENT_TIME", "CURRENT_TIMESTAMP", "CURRENT_USER"]

/-- Words that after the name of a table do not rename it. -/
def afterTable : List String :=
  ["ANTI", "ASOF", "FORCE", "FULL", "IGNORE", "LEFT", "LOCK", "NATURAL", "RIGHT", "SEMI", "USE",
   "WINDOW"]

/-- Words that open rows of another kind inside a query. -/
def openers : List String := ["DESCRIBE", "EXPLAIN", "VALUES"]

/-- Words that open a statement of another kind. -/
def statements : List String :=
  ["ALTER", "ANALYZE", "BEGIN", "CACHE", "COMMENT", "COMMIT", "COPY", "CREATE", "DELETE", "DESC",
   "DESCRIBE", "DROP", "EXPLAIN", "GRANT", "INSERT", "KILL", "LOAD", "MERGE", "PIVOT", "PRAGMA",
   "REFRESH", "ROLLBACK", "SET", "SHOW", "START", "TRUNCATE", "UNCACHE", "UNPIVOT", "UPDATE",
   "USE"]

/-- Words at the start of a statement whose rest is handed on as it is. -/
def commands : List String :=
  ["CALL", "EXECUTE", "FETCH", "LOCK TABLES", "OPTIMIZE", "PREPARE", "RENAME", "REPLACE",
   "UNLOCK TABLES", "VACUUM"]

/-- Words between `SELECT` and its items that say how it is carried out. -/
def modifiers : List String :=
  ["HIGH_PRIORITY", "STRAIGHT_JOIN", "SQL_BIG_RESULT", "SQL_BUFFER_RESULT", "SQL_CALC_FOUND_ROWS",
   "SQL_NO_CACHE", "SQL_SMALL_RESULT"]

/-- Names that the database encloses. -/
def reservedByDatabase : List String :=
  ["all", "analyse", "analyze", "and", "any", "array", "as", "asc_p", "asymmetric", "both", "case",
   "cast", "check_p", "collate", "column", "constraint", "create_p", "current_catalog",
   "current_date", "current_role", "current_time", "current_timestamp", "current_user", "default",
   "deferrable", "desc_p", "distinct", "do", "else", "end_p", "except", "false_p", "fetch", "for",
   "foreign", "from", "grant", "group_p", "having", "in_p", "initially", "intersect", "into",
   "lateral_p", "leading", "limit", "localtime", "localtimestamp", "not", "null_p", "offset", "on",
   "only", "or", "order", "placing", "primary", "references", "returning", "select",
   "session_user", "some", "symmetric", "table", "then", "to", "trailing", "true_p", "union",
   "unique", "user", "using", "variadic", "when", "where", "window", "with"]

/-- Names that the vendor encloses. -/
def reservedByVendor : List String :=
  ["accessible", "add", "all", "alter", "analyze", "and", "as", "asc", "asensitive", "before",
   "between", "bigint", "binary", "blob", "both", "by", "call", "cascade", "case", "change", "char",
   "character", "check", "collate", "column", "condition", "constraint", "continue", "convert",
   "create", "cross", "cube", "cume_dist", "current_date", "current_time", "current_timestamp",
   "current_user", "cursor", "database", "databases", "day_hour", "day_microsecond", "day_minute",
   "day_second", "dec", "decimal", "declare", "default", "delayed", "delete", "dense_rank", "desc",
   "describe", "deterministic", "distinct", "distinctrow", "div", "double", "drop", "dual", "each",
   "else", "elseif", "empty", "enclosed", "escaped", "except", "exists", "exit", "explain", "false",
   "fetch", "first_value", "float", "float4", "float8", "for", "force", "foreign", "from",
   "fulltext", "function", "generated", "get", "grant", "group", "grouping", "groups", "having",
   "high_priority", "hour_microsecond", "hour_minute", "hour_second", "if", "ignore", "in", "index",
   "infile", "inner", "inout", "insensitive", "insert", "int", "int1", "int2", "int3", "int4",
   "int8", "integer", "intersect", "interval", "into", "io_after_gtids", "io_before_gtids", "is",
   "iterate", "join", "json_table", "key", "keys", "kill", "lag", "last_value", "lateral", "lead",
   "leading", "leave", "left", "like", "limit", "linear", "lines", "load", "localtime",
   "localtimestamp", "lock", "long", "longblob", "longtext", "loop", "low_priority", "master_bind",
   "master_ssl_verify_server_cert", "match", "maxvalue", "mediumblob", "mediumint", "mediumtext",
   "middleint", "minute_microsecond", "minute_second", "mod", "modifies", "natural",
   "no_write_to_binlog", "not", "nth_value", "ntile", "null", "numeric", "of", "on", "optimize",
   "optimizer_costs", "option", "optionally", "or", "order", "out", "outer", "outfile", "over",
   "partition", "percent_rank", "precision", "primary", "procedure", "purge", "range", "rank",
   "read", "read_write", "reads", "real", "recursive", "references", "regexp", "release", "rename",
   "repeat", "replace", "require", "resignal", "restrict", "return", "revoke", "right", "rlike",
   "row", "row_number", "rows", "schema", "schemas", "second_microsecond", "select", "sensitive",
   "separator", "set", "show", "signal", "smallint", "spatial", "specific", "sql",
   "sql_big_result", "sql_calc_found_rows", "sql_small_result", "sqlexception", "sqlstate",
   "sqlwarning", "ssl", "starting", "stored", "straight_join", "system", "table", "terminated",
   "then", "tinyblob", "tinyint", "tinytext", "to", "trailing", "trigger", "true", "undo", "union",
   "unique", "unlock", "unsigned", "update", "usage", "use", "using", "utc_date", "utc_time",
   "utc_timestamp", "values", "varbinary", "varchar", "varcharacter", "varying", "virtual", "when",
   "where", "while", "window", "with", "write", "xor", "year_month", "zerofill"]

end Keyword
end Query
end CrossCheck
