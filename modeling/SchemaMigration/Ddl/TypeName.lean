import SchemaMigration.Column.Basic
import SchemaMigration.Ddl.Piece

/-!
# Names of types

Each dialect has its own names for the kinds of columns. A kind that a dialect does not know gets a
type that can hold its values.
-/

namespace SchemaMigration

open Text

namespace ColumnKind

/-- A number in parentheses, if there is one. -/
def precisionText : Option Nat → String
  | some precision => s!"({precision})"
  | none => ""

/-- Whether a type has a time zone. -/
def timezoneText (withTimezone : Bool) : String :=
  if withTimezone then " WITH TIME ZONE" else " WITHOUT TIME ZONE"

/-- A shape as a parameter of a type, with its reference system if it has one. -/
def spatialText (type : String) (shape : Shape) : Option Nat → String
  | some srid => s!"{type}({shape.sqlName}, {srid})"
  | none => s!"{type}({shape.sqlName})"

/-- The type of a column in PostgreSQL. The texts of an enumeration become a condition on the
column, which is why its name is needed. -/
def postgresql (column : String) : ColumnKind → List Piece
  | tinyInteger | smallInteger => [.code "SMALLINT"]
  | mediumInteger | integer | year => [.code "INTEGER"]
  | bigInteger => [.code "BIGINT"]
  | decimal precision scale => [.code s!"DECIMAL({precision}, {scale})"]
  | float (some precision) => [.code s!"FLOAT({precision})"]
  | float none => [.code "REAL"]
  | double => [.code "DOUBLE PRECISION"]
  | money => [.code "MONEY"]
  | boolean => [.code "BOOLEAN"]
  | char length => [.code s!"CHAR({length})"]
  | string length => [.code s!"VARCHAR({length})"]
  | tinyText | text | mediumText | longText => [.code "TEXT"]
  | citext => [.code "CITEXT"]
  | binary _ | tinyBlob | blob | mediumBlob | longBlob => [.code "BYTEA"]
  | bit length => [.code s!"BIT({length})"]
  | date => [.code "DATE"]
  | time precision zone => [.code ("TIME" ++ precisionText precision ++ timezoneText zone)]
  | dateTime precision zone | timestamp precision zone =>
    [.code ("TIMESTAMP" ++ precisionText precision ++ timezoneText zone)]
  | interval => [.code "INTERVAL"]
  | json => [.code "JSON"]
  | jsonb => [.code "JSONB"]
  | xml => [.code "XML"]
  | hstore => [.code "HSTORE"]
  | array element => postgresql column element ++ [.code "[]"]
  | uuid => [.code "UUID"]
  | ulid => [.code "CHAR(26)"]
  | objectId => [.code "CHAR(24)"]
  | geometry shape srid => [.code (spatialText "GEOMETRY" shape srid)]
  | geography shape srid => [.code (spatialText "GEOGRAPHY" shape srid)]
  | int4Range => [.code "INT4RANGE"]
  | int8Range => [.code "INT8RANGE"]
  | numRange => [.code "NUMRANGE"]
  | tsRange => [.code "TSRANGE"]
  | tstzRange => [.code "TSTZRANGE"]
  | dateRange => [.code "DATERANGE"]
  | inet => [.code "INET"]
  | cidr => [.code "CIDR"]
  | macAddress => [.code "MACADDR"]
  | macAddress8 => [.code "MACADDR8"]
  | tsVector => [.code "TSVECTOR"]
  | tsQuery => [.code "TSQUERY"]
  | enum values =>
    .code "VARCHAR(255) CHECK (" :: .name column :: .code " IN (" ::
      (Piece.literals values ++ [.code "))"])
  | set _ => [.code "TEXT[]"]
  | computed _ => [.code "TEXT"]

/-- The type of a column in PostgreSQL that numbers the rows. -/
def serial? : ColumnKind → Option String
  | smallInteger | tinyInteger => some "SMALLSERIAL"
  | bigInteger => some "BIGSERIAL"
  | integer | mediumInteger => some "SERIAL"
  | _ => none

/-- A shape as a type, with its reference system if it has one. -/
def shapeText (shape : Shape) : Option Nat → String
  | some srid => s!"{shape.sqlName} SRID {srid}"
  | none => shape.sqlName

/-- The type of a column in MySQL. -/
def mysql : ColumnKind → List Piece
  | tinyInteger => [.code "TINYINT"]
  | smallInteger => [.code "SMALLINT"]
  | mediumInteger => [.code "MEDIUMINT"]
  | integer => [.code "INT"]
  | bigInteger => [.code "BIGINT"]
  | decimal precision scale => [.code s!"DECIMAL({precision}, {scale})"]
  | float (some precision) => [.code s!"FLOAT({precision})"]
  | float none => [.code "FLOAT"]
  | double => [.code "DOUBLE"]
  | money => [.code "DECIMAL(19, 4)"]
  | boolean => [.code "TINYINT(1)"]
  | char length => [.code s!"CHAR({length})"]
  | string length => [.code s!"VARCHAR({length})"]
  | tinyText => [.code "TINYTEXT"]
  | text | citext => [.code "TEXT"]
  | mediumText => [.code "MEDIUMTEXT"]
  | longText => [.code "LONGTEXT"]
  | binary (some length) => [.code s!"VARBINARY({length})"]
  | binary none | blob => [.code "BLOB"]
  | tinyBlob => [.code "TINYBLOB"]
  | mediumBlob => [.code "MEDIUMBLOB"]
  | longBlob => [.code "LONGBLOB"]
  | bit length => [.code s!"BIT({length})"]
  | date => [.code "DATE"]
  | time precision _ => [.code ("TIME" ++ precisionText precision)]
  | dateTime precision _ => [.code ("DATETIME" ++ precisionText precision)]
  | timestamp precision _ => [.code ("TIMESTAMP" ++ precisionText precision)]
  | year => [.code "YEAR"]
  | interval => [.code "VARCHAR(64)"]
  | json | jsonb | hstore | array _ => [.code "JSON"]
  | xml => [.code "LONGTEXT"]
  | uuid => [.code "CHAR(36)"]
  | ulid => [.code "CHAR(26)"]
  | objectId => [.code "CHAR(24)"]
  | geometry shape srid | geography shape srid => [.code (shapeText shape srid)]
  | int4Range | int8Range | numRange | tsRange | tstzRange | dateRange => [.code "VARCHAR(255)"]
  | inet => [.code "VARCHAR(45)"]
  | cidr => [.code "VARCHAR(49)"]
  | macAddress => [.code "VARCHAR(17)"]
  | macAddress8 => [.code "VARCHAR(23)"]
  | tsVector | tsQuery | computed _ => [.code "TEXT"]
  | enum values => .code "ENUM(" :: (Piece.literals values ++ [.code ")"])
  | set values => .code "SET(" :: (Piece.literals values ++ [.code ")"])

/-- The type of a column in SQLite. -/
def sqlite : ColumnKind → List Piece
  | tinyInteger | smallInteger | mediumInteger | integer | bigInteger | boolean | year =>
    [.code "INTEGER"]
  | decimal _ _ | money => [.code "NUMERIC"]
  | float _ | double => [.code "REAL"]
  | binary _ | tinyBlob | blob | mediumBlob | longBlob => [.code "BLOB"]
  | char length | string length => [.code s!"VARCHAR({length})"]
  | date => [.code "DATE"]
  | time _ _ => [.code "TIME"]
  | dateTime _ _ | timestamp _ _ => [.code "DATETIME"]
  | _ => [.code "TEXT"]

end ColumnKind

/-- The type of a column in a dialect. -/
def Column.typePieces (d : Dialect) (c : Column) : List Piece :=
  match d with
  | .postgresql =>
    match (if c.autoIncrement then c.kind.serial? else none) with
    | some serial => [.code serial]
    | none => c.kind.postgresql c.name
  | .mysql => c.kind.mysql ++ Piece.codeIf (c.unsigned && c.kind.isInteger) " UNSIGNED"
  | .sqlite => c.kind.sqlite

end SchemaMigration
