/-!
TOML values. A table keeps its members in order, and no two of the same key.
-/

namespace ChequeTeller.Toml

inductive Value
  | string (text : String)
  /-- An integer of 64 bits with sign. -/
  | integer (n : Int)
  /-- A number with a fraction or an exponent, infinite or none at all, as it is written. -/
  | float (text : String)
  | bool (b : Bool)
  /-- A date, a time of day or both, as it is written. -/
  | dateTime (text : String)
  | array (items : List Value)
  | table (members : List (String × Value))
  deriving Repr, Inhabited

end ChequeTeller.Toml
