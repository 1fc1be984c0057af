import ChequeTeller.Json.Printer
import ChequeTeller.Octets

/-!
Octet values in JSON, as strings of hexadecimal digits.
-/

namespace ChequeTeller

/-- What a value is called where a string was expected. -/
def Json.typeName : Json → String
  | .null => "null"
  | .bool b => "boolean `" ++ (if b then "true" else "false") ++ "`"
  | .number (.integer n) =>
    "integer `" ++ (Json.number (.integer n)).render ++ "`"
  | .number (.written text) => "floating point `" ++ text ++ "`"
  | .string s => "string " ++ Text.Quoted.text s
  | .array _ => "sequence"
  | .object _ => "map"

inductive JsonOctetsError
  | notString (value : Json)
  | octets (cause : OctetsError)

def JsonOctetsError.message : JsonOctetsError → String
  | notString value => "invalid type: " ++ value.typeName ++ ", expected a string"
  | octets cause => cause.message

namespace Octets

variable {role : Role}

def ofJson : Json → Except JsonOctetsError (Octets role)
  | .string s => (ofHex s).mapError .octets
  | value => .error (.notString value)

def toJson (o : Octets role) : Json :=
  .string o.toHex

end Octets

end ChequeTeller
