import ChequeTeller.Text.Split

/-!
Media types, as a `Content-Type` header states them. Case does not count, and parameters do not
either, but they must be well formed.
-/

namespace ChequeTeller.Http

namespace MediaType

def isTokenChar (c : Char) : Bool :=
  c.isAlphanum ||
    ['!', '#', '$', '%', '&', '\x27', '*', '+', '-', '.', '^', '_', '\x60', '|', '~'].contains c

def isQuotedChar (c : Char) : Bool :=
  0x20 ≤ c.toNat && c.toNat ≠ 0x7F

/-- Where a list of parameters is being read. -/
inductive State
  /-- Before a name, where blanks may stand, or at the end. -/
  | start
  | name
  | valueStart
  | value
  /-- Right after the opening quote, where even a quote is content. -/
  | quotedStart
  | quoted
  | afterQuoted
  deriving DecidableEq, Repr

namespace State

def step (c : Char) : State → Option State
  | start => if c = ' ' then some start else if isTokenChar c then some name else none
  | name => if isTokenChar c then some name else if c = '=' then some valueStart else none
  | valueStart =>
    if c = '\x22' then some quotedStart else if isTokenChar c then some value else none
  | value => if isTokenChar c then some value else if c = ';' then some start else none
  | quotedStart => if isQuotedChar c then some quoted else none
  | quoted =>
    if c = '\x22' then some afterQuoted else if isQuotedChar c then some quoted else none
  | afterQuoted => if c = ';' then some start else if c = ' ' then some afterQuoted else none

/-- Whether the list may end here. -/
def isFinal : State → Bool
  | start | valueStart | value | afterQuoted => true
  | name | quotedStart | quoted => false

def run (s : State) : List Char → Option State
  | [] => some s
  | c :: cs => (s.step c).bind (run · cs)

end State

/-- Whether a list of parameters is well formed. -/
def areParameters (s : List Char) : Bool :=
  match State.start.run s with
  | some state => state.isFinal
  | none => false

end MediaType

/-- A media type; the suffix is what follows the subtype's last plus sign. -/
structure MediaType where
  type : String
  subtype : String
  suffix : Option String
  deriving DecidableEq, Repr

namespace MediaType

def lower (s : List Char) : String :=
  String.ofList (s.map Char.toLower)

/-- A subtype by its last plus sign, unless it starts with that. -/
def ofNames (type subtype : List Char) : MediaType :=
  match Text.cutLast (· = '+') subtype with
  | (some (c :: cs), suffix) => ⟨lower type, lower (c :: cs), some (lower suffix)⟩
  | _ => ⟨lower type, lower subtype, none⟩

def ofText? (s : String) : Option MediaType :=
  match Text.cut (· = '/') s.toList with
  | (type, some rest) =>
    let (subtype, parameters) := Text.cut (· = ';') rest
    if type ≠ [] ∧ type.all isTokenChar ∧ subtype.all isTokenChar ∧
        (parameters.isNone ∨ subtype ≠ []) ∧ (parameters.all areParameters) then
      some (ofNames type subtype)
    else none
  | _ => none

/-- JSON itself, or an application's format that is written in JSON. -/
def isJson (m : MediaType) : Bool :=
  m.type = "application" && (m.subtype = "json" || m.suffix = some "json")

end MediaType

end ChequeTeller.Http
