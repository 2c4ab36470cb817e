/-!
# Kinds of columns

A `ColumnKind` says what a column holds, independently of any database.
-/

namespace SchemaMigration

/-- The shapes of a geometric value. -/
inductive Shape where
  /-- Any shape. -/
  | geometry
  /-- A point. -/
  | point
  /-- A line of points. -/
  | lineString
  /-- A polygon. -/
  | polygon
  /-- Several points. -/
  | multiPoint
  /-- Several lines. -/
  | multiLineString
  /-- Several polygons. -/
  | multiPolygon
  /-- Several shapes of any kind. -/
  | geometryCollection
deriving DecidableEq

/-- The name of a shape in SQL. -/
def Shape.sqlName : Shape → String
  | geometry => "GEOMETRY"
  | point => "POINT"
  | lineString => "LINESTRING"
  | polygon => "POLYGON"
  | multiPoint => "MULTIPOINT"
  | multiLineString => "MULTILINESTRING"
  | multiPolygon => "MULTIPOLYGON"
  | geometryCollection => "GEOMETRYCOLLECTION"

/-- What a column holds. -/
inductive ColumnKind where
  /-- An integer of 8 bits. -/
  | tinyInteger
  /-- An integer of 16 bits. -/
  | smallInteger
  /-- An integer of 24 bits. -/
  | mediumInteger
  /-- An integer of 32 bits. -/
  | integer
  /-- An integer of 64 bits. -/
  | bigInteger
  /-- A decimal number with a count of digits and a count of places. -/
  | decimal (precision scale : Nat)
  /-- A floating-point number. -/
  | float (precision : Option Nat)
  /-- A double-precision number. -/
  | double
  /-- An amount of money. -/
  | money
  /-- A truth value. -/
  | boolean
  /-- A text of a fixed length. -/
  | char (length : Nat)
  /-- A text of bounded length. -/
  | string (length : Nat)
  /-- A text of up to 255 bytes. -/
  | tinyText
  /-- A text. -/
  | text
  /-- A text of up to 16 megabytes. -/
  | mediumText
  /-- A text of up to 4 gigabytes. -/
  | longText
  /-- A text whose comparison ignores case. -/
  | citext
  /-- Bytes, of bounded length if one is given. -/
  | binary (length : Option Nat)
  /-- Up to 255 bytes. -/
  | tinyBlob
  /-- Bytes. -/
  | blob
  /-- Up to 16 megabytes. -/
  | mediumBlob
  /-- Up to 4 gigabytes. -/
  | longBlob
  /-- A string of bits. -/
  | bit (length : Nat)
  /-- A date. -/
  | date
  /-- A time of day. -/
  | time (precision : Option Nat) (withTimezone : Bool)
  /-- A date and a time. -/
  | dateTime (precision : Option Nat) (withTimezone : Bool)
  /-- A moment. -/
  | timestamp (precision : Option Nat) (withTimezone : Bool)
  /-- A year. -/
  | year
  /-- A span of time. -/
  | interval
  /-- A JSON text. -/
  | json
  /-- A JSON value in binary form. -/
  | jsonb
  /-- An XML text. -/
  | xml
  /-- Keys with values. -/
  | hstore
  /-- A list of values of one kind. -/
  | array (element : ColumnKind)
  /-- A universally unique identifier. -/
  | uuid
  /-- A sortable unique identifier. -/
  | ulid
  /-- The identifier of a document. -/
  | objectId
  /-- A shape in the plane, with a reference system. -/
  | geometry (shape : Shape) (srid : Option Nat)
  /-- A shape on the globe, with a reference system. -/
  | geography (shape : Shape) (srid : Option Nat)
  /-- A range of integers of 32 bits. -/
  | int4Range
  /-- A range of integers of 64 bits. -/
  | int8Range
  /-- A range of numbers. -/
  | numRange
  /-- A range of moments without time zone. -/
  | tsRange
  /-- A range of moments with time zone. -/
  | tstzRange
  /-- A range of dates. -/
  | dateRange
  /-- An address of a host. -/
  | inet
  /-- An address of a network. -/
  | cidr
  /-- A hardware address of six bytes. -/
  | macAddress
  /-- A hardware address of eight bytes. -/
  | macAddress8
  /-- A document for text search. -/
  | tsVector
  /-- A query for text search. -/
  | tsQuery
  /-- One of some texts. -/
  | enum (values : List String)
  /-- A set of some texts. -/
  | set (values : List String)
  /-- A value that an expression determines. -/
  | computed (expression : String)
deriving DecidableEq

namespace ColumnKind

/-- Whether a column holds integers. -/
def isInteger : ColumnKind → Bool
  | tinyInteger | smallInteger | mediumInteger | integer | bigInteger => true
  | _ => false

/-- Whether a column holds dates, times or spans of time. -/
def isTemporal : ColumnKind → Bool
  | date | time _ _ | dateTime _ _ | timestamp _ _ | year | interval => true
  | _ => false

/-- Whether a column holds shapes. -/
def isSpatial : ColumnKind → Bool
  | geometry _ _ | geography _ _ => true
  | _ => false

end ColumnKind

end SchemaMigration
