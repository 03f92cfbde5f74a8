/-!
JSON values as far as arguments need them: integers are told apart from numbers that are written
with a fraction or an exponent, and fields keep their order.
-/

namespace TunerRelay

inductive Json where
  | null
  | bool (value : Bool)
  | integer (value : Int)
  /-- A number with a fraction or an exponent, as it is written. -/
  | decimal (written : String)
  | string (value : String)
  | array (items : List Json)
  | object (fields : List (String × Json))

/-- The field's value; of several fields with one name, the last. -/
def Json.field? (name : String) : Json → Option Json
  | .object fields => (fields.reverse.find? fun field => field.1 == name).map (·.2)
  | _ => none

end TunerRelay
