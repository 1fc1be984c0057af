import ChequeTeller.Http.MediaType

/-!
HTTP requests as a server receives them.
-/

namespace ChequeTeller.Http

structure Request where
  method : String
  target : String
  headers : List (String × String)
  body : List UInt8

namespace Request

/-- The header of that name, given in lower case. -/
def header? (r : Request) (name : String) : Option String :=
  (r.headers.find? fun h => MediaType.lower h.1.toList = name).map (·.2)

/-- What may stand in a header's value that is read as a text. -/
def isVisible (c : Char) : Bool :=
  c = '\t' || (0x20 ≤ c.toNat && c.toNat < 0x7F)

/-- A content type with another character than the visible ones of ASCII counts as missing. -/
def mediaType? (r : Request) : Option MediaType :=
  ((r.header? "content-type").filter (·.toList.all isVisible)).bind MediaType.ofText?

/-- Cuts off the scheme of a target in absolute form. -/
def cutScheme? : List Char → Option (List Char)
  | ':' :: '/' :: '/' :: rest => some rest
  | c :: rest => if c = '/' ∨ c = '?' ∨ c = '#' then none else cutScheme? rest
  | [] => none

/-- The path of a target without its query, in the form it was sent. A target of a server alone
has none, unless it states a scheme, and then the path is the root. -/
def pathOf (target : String) : String :=
  let whole := target.toList.takeWhile fun c => !(c = '?' || c = '#')
  match whole with
  | '/' :: _ | ['*'] => String.ofList whole
  | _ =>
    match cutScheme? whole with
    | none => ""
    | some rest =>
      match rest.dropWhile (· ≠ '/') with
      | [] => "/"
      | path => String.ofList path

def path (r : Request) : String :=
  pathOf r.target

end Request

end ChequeTeller.Http
