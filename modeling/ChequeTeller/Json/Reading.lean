import ChequeTeller.Json.Document
import ChequeTeller.Text.Decimal

/-!
Reading typed values from a document. A flaw is either in the text, which is then no JSON or
cannot be used as such, or in its shape, which is not that of the type; the first in the order of
the text counts.

A record is read from an object or from the array of its fields in order. Members of unknown name
are passed over, and of a known name there may be only one.
-/

namespace ChequeTeller.Json

inductive Flaw
  | text
  | shape
  deriving DecidableEq, Repr

abbrev Reading (α : Type) := Except Flaw α

/-- Arrays and objects may nest to one less than this. -/
def depthLimit : Nat := 128

namespace Document

mutual

/-- Passes over a part: only its grammar counts. -/
def skip : Document → Reading Unit
  | .broken => .error .text
  | .null | .bool _ | .number _ | .string _ => .ok ()
  | .array items closed => skipItems closed items
  | .object members closed => skipMembers closed members

def skipItems (closed : Bool) : List Document → Reading Unit
  | [] => if closed then .ok () else .error .text
  | item :: rest => do
    skip item
    skipItems closed rest

def skipMembers (closed : Bool) : List (Option String × Document) → Reading Unit
  | [] => if closed then .ok () else .error .text
  | (_, value) :: rest => do
    skip value
    skipMembers closed rest

end

mutual

/-- Any value, nested less deep than `depth`. Of members of the same name the last one counts. -/
def toJson (depth : Nat) : Document → Reading Json
  | .broken | .number none | .string none => .error .text
  | .null => .ok .null
  | .bool b => .ok (.bool b)
  | .number (some n) => .ok (.number n)
  | .string (some s) => .ok (.string s)
  | .array items closed =>
    if depth ≤ 1 then .error .text
    else (itemsToJson (depth - 1) closed items).map .array
  | .object members closed =>
    if depth ≤ 1 then .error .text
    else (membersToJson (depth - 1) closed [] members).map .object

def itemsToJson (depth : Nat) (closed : Bool) : List Document → Reading (List Json)
  | [] => if closed then .ok [] else .error .text
  | item :: rest => do
    let value ← toJson depth item
    let values ← itemsToJson depth closed rest
    return value :: values

def membersToJson (depth : Nat) (closed : Bool) (before : List (String × Json)) :
    List (Option String × Document) → Reading (List (String × Json))
  | [] => if closed then .ok before else .error .text
  | (none, _) :: _ => .error .text
  | (some name, item) :: rest => do
    let value ← toJson depth item
    membersToJson depth closed (Json.put name value before) rest

end

/-- The flaw of a value of the wrong type. Scalars are read before they are refused. -/
def mismatch : Document → Flaw
  | .broken | .number none | .string none => .text
  | _ => .shape

def asString : Document → Reading String
  | .string (some s) => .ok s
  | d => .error d.mismatch

def asBool : Document → Reading Bool
  | .bool b => .ok b
  | d => .error d.mismatch

/-- An integer from 0 to below `bound`. -/
def asNat (bound : Nat) : Document → Reading Nat
  | .number (some (.integer n)) =>
    if 0 ≤ n ∧ n < bound then .ok n.toNat else .error .shape
  | d => .error d.mismatch

def asWord64 (d : Document) : Reading UInt64 :=
  (asNat UInt64.size d).map UInt64.ofNat

def asWord32 (d : Document) : Reading UInt32 :=
  (asNat UInt32.size d).map UInt32.ofNat

def asOption {α : Type} (read : Document → Reading α) : Document → Reading (Option α)
  | .null => .ok none
  | d => (read d).map some

def asListItems {α : Type} (read : Document → Reading α) (closed : Bool) :
    List Document → Reading (List α)
  | [] => if closed then .ok [] else .error .text
  | item :: rest => do
    let value ← read item
    let values ← asListItems read closed rest
    return value :: values

def asList {α : Type} (read : Document → Reading α) : Document → Reading (List α)
  | .array items closed => asListItems read closed items
  | d => .error d.mismatch

end Document

/-- A 64-bit word given as an integer. -/
def word? : Json → Option UInt64
  | .number (.integer n) =>
    if 0 ≤ n ∧ n < 0x10000000000000000 then some (UInt64.ofNat n.toNat) else none
  | _ => none

/-- A 64-bit word given as a string that spells it. -/
def spelledWord? : Json → Option UInt64
  | .string s => Text.Decimal.word64? s
  | _ => none

namespace Document

/-- The first of the readings that succeeds. The value is read as a whole before any is tried. -/
def asFirst {α : Type} (readings : List (Json → Option α)) (depth : Nat) (d : Document) :
    Reading α := do
  let value ← d.toJson depth
  match readings.findSome? (· value) with
  | some a => return a
  | none => .error .shape

def asWordOrSpelled : Nat → Document → Reading UInt64 :=
  asFirst [word?, spelledWord?]

def asSpelledOrWord : Nat → Document → Reading UInt64 :=
  asFirst [spelledWord?, word?]

/-! Records. -/

/-- A field's name, and the check that its value can be read. -/
structure Field where
  name : String
  check : Document → Reading Unit

def Field.of {α : Type} (name : String) (read : Document → Reading α) : Field :=
  ⟨name, fun d => (read d).map fun _ => ()⟩

/-- The values of a record's fields, by name. -/
abbrev Values := List (String × Document)

/-- Reads members in order; `before` are the fields read already. -/
def fieldsOfMembers (fields : List Field) (closed : Bool) (before : Values) :
    List (Option String × Document) → Reading Values
  | [] => if closed then .ok before else .error .text
  | (none, _) :: _ => .error .text
  | (some name, value) :: rest =>
    match fields.find? (·.name = name) with
    | none => do
      skip value
      fieldsOfMembers fields closed before rest
    | some field =>
      if (before.lookup name).isSome then .error .shape
      else do
        field.check value
        fieldsOfMembers fields closed (before ++ [(name, value)]) rest

/-- Reads items as the fields in order, as many as there are. -/
def fieldsOfItems (closed : Bool) (before : Values) : List Field → List Document → Reading Values
  | _, [] => if closed then .ok before else .error .text
  | [], _ :: _ => .error .text
  | field :: fields, item :: items => do
    field.check item
    fieldsOfItems closed (before ++ [(field.name, item)]) fields items

def asFields (fields : List Field) : Document → Reading Values
  | .object members closed => fieldsOfMembers fields closed [] members
  | .array items closed => fieldsOfItems closed [] fields items
  | d => .error d.mismatch

def Values.required {α : Type} (vs : Values) (name : String) (read : Document → Reading α) :
    Reading α :=
  match vs.lookup name with
  | some d => read d
  | none => .error .shape

def Values.withDefault {α : Type} (vs : Values) (name : String) (read : Document → Reading α)
    (default : α) : Reading α :=
  match vs.lookup name with
  | some d => read d
  | none => .ok default

end Document

/-- Reads a text that is one value and nothing else. -/
def readText {α : Type} (read : Document → Reading α) (bytes : List UInt8) : Reading α := do
  let (d, rest) := Document.readFirst bytes
  let value ← read d
  if Document.skipBlanks rest = [] then return value else .error .text

def parse (bytes : List UInt8) : Reading Json :=
  readText (·.toJson depthLimit) bytes

end ChequeTeller.Json
