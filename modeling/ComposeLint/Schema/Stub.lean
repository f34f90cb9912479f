import ComposeLint.Json.Basic
import ComposeLint.Schema.Basic

/-!
# Placeholder values

The smallest value of a schema that is worth checking: objects hold the declared properties that
are required, and every other node a fixed value of its type, null if the type is not known.
-/

namespace ComposeLint.Schema

mutual

def placeholder : Schema → Json
  | object ⟨properties, required, _, _, _⟩ =>
    let values := placeholders properties
    .obj (required.filterMap fun name => (Keyed.get? name values).map (name, ·))
  | array _ => .arr []
  | scalar .string => .str "default"
  | scalar .integer => .int 1
  | scalar .number => .double .one
  | scalar .boolean => .bool true
  | scalar .array | scalar .null | scalar .object | unknown => .null

def placeholders : List (String × Schema) → List (String × Json)
  | [] => []
  | (name, schema) :: rest => (name, placeholder schema) :: placeholders rest

end

end ComposeLint.Schema
