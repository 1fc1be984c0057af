/-!
JSON values. A number is an integer of 64 bits, signed or not, or else it is kept as it was
written. An object keeps its members in order, and no two of the same name. How a value is spelled
is not modelled: the numbers that are kept are not brought to one form, and members are not
sorted.
-/

namespace ChequeTeller

namespace Json

inductive Number
  | integer (value : Int)
  | written (text : String)
  deriving DecidableEq, Repr

end Json

inductive Json
  | null
  | bool (value : Bool)
  | number (value : Json.Number)
  | string (value : String)
  | array (items : List Json)
  | object (members : List (String × Json))
  deriving Repr, Inhabited

namespace Json

def ofNat (n : Nat) : Json := .number (.integer n)

def ofWord (n : UInt64) : Json := ofNat n.toNat

/-- An optional value, absence written as null. -/
def ofOption {α : Type} (f : α → Json) : Option α → Json
  | none => .null
  | some a => f a

/-- Sets a member; one of the same name is replaced where it stands. -/
def put (name : String) (value : Json) : List (String × Json) → List (String × Json)
  | [] => [(name, value)]
  | m :: ms => if m.1 = name then (name, value) :: ms else m :: put name value ms

/-- The member of that name, of an object. -/
def get? (name : String) : Json → Option Json
  | .object members => members.lookup name
  | _ => none

end Json

end ChequeTeller
