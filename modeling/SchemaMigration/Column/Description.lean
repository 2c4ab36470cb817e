import SchemaMigration.Column.Basic
import SchemaMigration.Json.Build
import SchemaMigration.Value.Tagged

/-!
# Descriptions of columns

A kind of column is described by a JSON array: a word and the parameters. An absent parameter is
`null`, and times are without time zone unless they say otherwise. A column is described by a JSON
object.
-/

namespace SchemaMigration

open Json

/-- The shapes under their words. -/
def Shape.words : List (String × Shape) :=
  [("geometry", .geometry), ("point", .point), ("line_string", .lineString),
    ("polygon", .polygon), ("multi_point", .multiPoint), ("multi_line_string", .multiLineString),
    ("multi_polygon", .multiPolygon), ("geometry_collection", .geometryCollection)]

namespace ColumnKind

/-- The kinds without parameters under their words. -/
def words : List (String × ColumnKind) :=
  [("tiny_integer", .tinyInteger), ("small_integer", .smallInteger),
    ("medium_integer", .mediumInteger), ("integer", .integer), ("big_integer", .bigInteger),
    ("double", .double), ("money", .money), ("boolean", .boolean), ("tiny_text", .tinyText),
    ("text", .text), ("medium_text", .mediumText), ("long_text", .longText), ("citext", .citext),
    ("tiny_blob", .tinyBlob), ("blob", .blob), ("medium_blob", .mediumBlob),
    ("long_blob", .longBlob), ("date", .date), ("year", .year), ("interval", .interval),
    ("json", .json), ("jsonb", .jsonb), ("xml", .xml), ("hstore", .hstore), ("uuid", .uuid),
    ("ulid", .ulid), ("object_id", .objectId), ("int4_range", .int4Range),
    ("int8_range", .int8Range), ("num_range", .numRange), ("ts_range", .tsRange),
    ("tstz_range", .tstzRange), ("date_range", .dateRange), ("inet", .inet), ("cidr", .cidr),
    ("mac_address", .macAddress), ("mac_address8", .macAddress8), ("ts_vector", .tsVector),
    ("ts_query", .tsQuery)]

/-- The word under which something stands in a list. -/
def wordOf {α : Type} [DecidableEq α] (words : List (String × α)) (a : α) : Json :=
  match words.find? (fun entry => entry.2 = a) with
  | some (word, _) => .string word
  | none => .null

/-- The number that a parameter is, if it is one. -/
def size? : Json → Option Nat
  | .int n => some n.toNat
  | _ => none

/-- The text that a parameter is, if it is one. -/
def text? : Json → Option String
  | .string t => some t
  | _ => none

/-- The texts that a parameter lists. -/
def texts? : Json → Option (List String)
  | .array items => items.mapM text?
  | _ => none

/-- The description of a kind. -/
def describe : ColumnKind → Json
  | decimal precision scale => .array [.string "decimal", .int precision, .int scale]
  | float precision => .array [.string "float", ofOption ofNat precision]
  | char length => .array [.string "char", .int length]
  | string length => .array [.string "string", .int length]
  | binary length => .array [.string "binary", ofOption ofNat length]
  | bit length => .array [.string "bit", .int length]
  | time precision zone => .array [.string "time", ofOption ofNat precision, .bool zone]
  | dateTime precision zone => .array [.string "date_time", ofOption ofNat precision, .bool zone]
  | timestamp precision zone => .array [.string "timestamp", ofOption ofNat precision, .bool zone]
  | array element => .array [.string "array", describe element]
  | geometry shape srid => .array [.string "geometry", wordOf Shape.words shape, ofOption ofNat srid]
  | geography shape srid => .array [.string "geography", wordOf Shape.words shape, ofOption ofNat srid]
  | enum values => .array [.string "enum", ofTexts values]
  | set values => .array [.string "set", ofTexts values]
  | computed expression => .array [.string "computed", .string expression]
  | kind => .array [wordOf words kind]

/-- The kind that a word and up to three parameters describe. -/
def ofWord? : String → List Json → Option ColumnKind
  | "decimal", [precision, scale] => return decimal (← size? precision) (← size? scale)
  | "float", [precision] => some (float (size? precision))
  | "char", [length] => (size? length).map char
  | "string", [length] => (size? length).map string
  | "binary", [length] => some (binary (size? length))
  | "bit", [length] => (size? length).map bit
  | "time", [precision, .bool zone] => some (time (size? precision) zone)
  | "time", [precision] => some (time (size? precision) false)
  | "date_time", [precision, .bool zone] => some (dateTime (size? precision) zone)
  | "date_time", [precision] => some (dateTime (size? precision) false)
  | "timestamp", [precision, .bool zone] => some (timestamp (size? precision) zone)
  | "timestamp", [precision] => some (timestamp (size? precision) false)
  | "geometry", [.string shape, srid] =>
    (Shape.words.lookup shape).map (fun s => geometry s (size? srid))
  | "geography", [.string shape, srid] =>
    (Shape.words.lookup shape).map (fun s => geography s (size? srid))
  | "enum", [values] => (texts? values).map enum
  | "set", [values] => (texts? values).map set
  | "computed", [.string expression] => some (computed expression)
  | word, _ => words.lookup word

/-- The kind that a description describes. -/
def ofDescription? : Json → Option ColumnKind
  | .array [.string "array", element] => (ofDescription? element).map array
  | .array (.string word :: parameters) => ofWord? word parameters
  | _ => none

end ColumnKind

/-- The description of a default. -/
def ColumnDefault.describe : ColumnDefault → Json
  | value v => ofFields [("value", v.toTagged)]
  | expression text => ofFields [("raw", .string text)]
  | currentTimestamp => .string "current_timestamp"

/-- The description of a place among the columns. -/
def Placement.describe : Placement → Json
  | first => .string "first"
  | after column => ofFields [("after", .string column)]

/-- The description of an expression that generates a column. -/
def Generated.describe : Generated → Json
  | stored expression => ofFields [("stored", .string expression)]
  | virtual expression => ofFields [("virtual", .string expression)]

/-- The description of a column, with the families of kinds that it belongs to. -/
def Column.describe (c : Column) : Json :=
  ofFields [("name", .string c.name), ("type", c.kind.describe), ("nullable", .bool c.nullable),
    ("default", ofOption ColumnDefault.describe c.default), ("unique", .bool c.unique),
    ("primary", .bool c.primary), ("auto_increment", .bool c.autoIncrement),
    ("unsigned", .bool c.unsigned), ("index", .bool c.index), ("comment", ofText? c.comment),
    ("placement", ofOption Placement.describe c.placement),
    ("generated", ofOption Generated.describe c.generated), ("invisible", .bool c.invisible),
    ("use_current", .bool c.useCurrent), ("use_current_on_update", .bool c.useCurrentOnUpdate),
    ("charset", ofText? c.charset), ("collation", ofText? c.collation),
    ("is", .array [.bool c.kind.isInteger, .bool c.kind.isTemporal, .bool c.kind.isSpatial])]

end SchemaMigration
