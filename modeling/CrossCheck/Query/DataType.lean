import CrossCheck.Text.Basic

/-!
The types of values by the words that name them.  Several words name one type, and a database has
its own word for some of them.
-/

namespace CrossCheck
namespace Query
namespace DataType

/-- Words that name a type, and the type. -/
def words : List (String × String) :=
  (["ARRAY", "BIGINT", "BINARY", "BIT", "BOOLEAN", "BPCHAR", "CHAR", "DATE", "DATETIME", "DECIMAL",
    "DOUBLE", "ENUM", "FLOAT", "GEOGRAPHY", "GEOMETRY", "INET", "INT", "INT128", "INT256", "JSON",
    "JSONB", "LIST", "LONGBLOB", "LONGTEXT", "MAP", "MEDIUMBLOB", "MEDIUMINT", "MEDIUMTEXT",
    "NCHAR", "NULL", "NULLABLE", "NVARCHAR", "OBJECT", "RANGE", "SERIAL", "SMALLINT", "STRUCT",
    "TEXT", "TIME", "TIMESTAMP", "TIMESTAMPLTZ", "TIMESTAMPNTZ", "TIMESTAMPTZ", "TIMETZ",
    "TINYBLOB", "TINYINT", "TINYTEXT", "UINT", "UINT128", "UINT256", "UNKNOWN", "UUID", "VARBINARY",
    "VARCHAR", "VARIANT", "VECTOR", "YEAR", "DECIMAL32", "DECIMAL64", "DECIMAL128",
    "DECIMAL256"].map fun w => (w, w)) ++
  [("BIGDECIMAL", "BIGDECIMAL"), ("BIGNUMERIC", "BIGDECIMAL"), ("BLOB", "VARBINARY"),
   ("BOOL", "BOOLEAN"), ("BYTE", "TINYINT"), ("BYTEA", "VARBINARY"), ("CHAR VARYING", "VARCHAR"),
   ("CHARACTER", "CHAR"), ("CHARACTER VARYING", "VARCHAR"), ("CLOB", "TEXT"), ("DEC", "DECIMAL"),
   ("DOUBLE PRECISION", "DOUBLE"), ("FIXED", "DECIMAL"), ("FLOAT4", "FLOAT"), ("FLOAT8", "DOUBLE"),
   ("HUGEINT", "INT128"), ("INT1", "TINYINT"), ("INT16", "SMALLINT"), ("INT2", "SMALLINT"),
   ("INT32", "INT"), ("INT4", "INT"), ("INT64", "BIGINT"), ("INT8", "TINYINT"), ("INTEGER", "INT"),
   ("LONG", "BIGINT"), ("LONGVARCHAR", "TEXT"), ("NUMBER", "DECIMAL"), ("NUMERIC", "DECIMAL"),
   ("NVARCHAR2", "NVARCHAR"), ("REAL", "FLOAT"), ("SHORT", "SMALLINT"), ("SIGNED", "BIGINT"),
   ("SIGNED INTEGER", "BIGINT"), ("STR", "TEXT"), ("STRING", "TEXT"),
   ("TIMESTAMP_LTZ", "TIMESTAMPLTZ"), ("TIMESTAMP_NTZ", "TIMESTAMPNTZ"), ("UHUGEINT", "UINT128"),
   ("UNSIGNED", "UBIGINT"), ("UNSIGNED INTEGER", "UBIGINT"), ("VARCHAR2", "VARCHAR")]

def ofWord? (word : String) : Option String := words.lookup word

/-- Types that hold values of another type, which an angle bracket opens. -/
def nesting : List String := ["ARRAY", "LIST", "MAP", "NULLABLE", "OBJECT", "RANGE", "STRUCT"]

/-- Types of whole numbers that have a form without a sign. -/
def unsigned : List (String × String) :=
  [("BIGINT", "UBIGINT"), ("DECIMAL", "UDECIMAL"), ("DOUBLE", "UDOUBLE"), ("INT", "UINT"),
   ("MEDIUMINT", "UMEDIUMINT"), ("SMALLINT", "USMALLINT"), ("TINYINT", "UTINYINT")]

/-- Types of texts. -/
def texts : List String := ["CHAR", "NCHAR", "NVARCHAR", "TEXT", "VARCHAR"]

/-- Types that the database has another word for. -/
def ofDatabase : List (String × String) :=
  [("BINARY", "BLOB"), ("BPCHAR", "TEXT"), ("CHAR", "TEXT"), ("DATETIME", "TIMESTAMP"),
   ("FLOAT", "REAL"), ("JSONB", "JSON"), ("LONGBLOB", "BLOB"), ("LONGTEXT", "TEXT"),
   ("MEDIUMBLOB", "BLOB"), ("MEDIUMTEXT", "TEXT"), ("NCHAR", "TEXT"), ("NVARCHAR", "TEXT"),
   ("TIMESTAMPNTZ", "TIMESTAMP"), ("TINYBLOB", "BLOB"), ("TINYTEXT", "TEXT"), ("UINT", "UINTEGER"),
   ("VARBINARY", "BLOB"), ("VARCHAR", "TEXT")]

/-- Types that values can be cast to under another word only. -/
def ofVendor : List (String × String) :=
  [("BIGINT", "SIGNED"), ("BOOLEAN", "SIGNED"), ("INT", "SIGNED"), ("LONGBLOB", "CHAR"),
   ("LONGTEXT", "CHAR"), ("MEDIUMBLOB", "CHAR"), ("MEDIUMINT", "SIGNED"), ("MEDIUMTEXT", "CHAR"),
   ("NVARCHAR", "CHAR"), ("SMALLINT", "SIGNED"), ("TEXT", "CHAR"), ("TIMESTAMP", "DATETIME"),
   ("TIMESTAMPNTZ", "DATETIME"), ("TINYBLOB", "CHAR"), ("TINYINT", "SIGNED"), ("TINYTEXT", "CHAR"),
   ("UBIGINT", "UNSIGNED"), ("VARCHAR", "CHAR")]

end DataType
end Query
end CrossCheck
