-- SUMMARY: Sample types of values, by name.
import Switchboard.Json.Float
import Switchboard.Sample.Handlers

namespace Switchboard.Sample

/-- Reads a value of the named type and writes it down again; any value will do for
a name that is none of these. -/
def reading (type : String) : Reading Json :=
  let nullable {α : Type} (f : α → Json) : Option α → Json
    | some a => f a
    | none => .null
  let all {α : Type} (f : α → Json) (as : List α) : Json := .arr (as.map f)
  match type with
  | "int" => Reading.int64.map .ofInt
  | "ints" => (Reading.int64.list).map (all .ofInt)
  | "string" => Reading.string.map .str
  | "bool" => Reading.bool.map .bool
  | "float" => Reading.float.map .ofFloat
  | "floats" => (Reading.float.list).map (all .ofFloat)
  | "opt_string" => (Reading.string.option).map (nullable .str)
  | "point" => Point.read.map Point.toJson
  | "shape" => Shape.read.map Shape.toJson
  | "points" => (Point.read.list).map (all Point.toJson)
  | "one_point" => (Point.read.one).map fun p => .arr [p.toJson]
  | "int_str" => (Reading.int64.pair .string).map fun (n, s) => .arr [.ofInt n, .str s]
  | "opt_pair" =>
    (Reading.int64.option.pair Reading.bool.option).map fun (n, b) =>
      .arr [nullable .ofInt n, nullable .bool b]
  | "map" => (Reading.int64.table).map fun t => .ofMembers (t.map fun (k, n) => (k, .ofInt n))
  | "unit" => Reading.unit.map fun _ => .null
  | _ => Reading.any

end Switchboard.Sample
