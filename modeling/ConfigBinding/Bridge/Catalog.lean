import ConfigBinding.Bridge.DataType

/-!
# Named types

A few described types of the kind that programs configure themselves with. Between them they use
every construct of `DataType` that has a name: an enumeration with and without content, an open and
a closed structure, and structures of no, one and several components.
-/

namespace ConfigBinding.Bridge.Catalog

open Numeric

/-- How much is logged. -/
def level : DataType := .enum "Level" [.unit "Info", .unit "Debug"]

/-- How many workers there are. -/
def mode : DataType :=
  .enum "Mode"
    [.unit "Off",
     .newtype "Fixed" (.integer .u32),
     .tuple "Pair" [.integer .u8, .integer .u8],
     .struct "Range" [⟨"low", .integer .u32, none⟩, ⟨"high", .integer .u32, none⟩]]

/-- The settings of a service. Its ratio may be left out. -/
def settings : DataType :=
  .struct "Settings" false
    [⟨"name", .string, none⟩,
     ⟨"limit", .option (.integer .u64), none⟩,
     ⟨"modes", .list mode, none⟩,
     ⟨"ratio", .double, some (.double (Binary.ofInt .double 0))⟩]

/-- A closed structure. -/
def strict : DataType :=
  .struct "Strict" true [⟨"a", .integer .u8, none⟩, ⟨"b-c", .bool, none⟩]

/-- A structure without components. -/
def marker : DataType := .unitStruct "Marker"

/-- A length. -/
def meters : DataType := .newtypeStruct "Meters" .double

/-- A colour. -/
def rgb : DataType := .tupleStruct "Rgb" [.integer .u8, .integer .u8, .integer .u8]

/-- A number with a name. -/
def labelled : DataType := .tuple [.integer .u8, .string]

/-- The types of this catalog, and with them whatever arrives as a script. -/
def all : List DataType :=
  [level, mode, settings, strict, marker, meters, rgb, labelled, .script]

/-- The type of the catalog with a name. -/
def find? (name : String) : Option DataType := all.find? (·.typeName = name)

end ConfigBinding.Bridge.Catalog
