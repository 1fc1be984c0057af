import ChequeTeller.Toml.Value

/-!
The tables of a TOML document. Each line adds a member to the table at hand or starts another one,
and none may change what an earlier line has settled: a key has one value, a table has one header,
and a table that dotted keys made, or that was written inline, has none.
-/

namespace ChequeTeller.Toml

inductive Expression
  | member (key : List String) (value : Value)
  | header (path : List String)
  | arrayHeader (path : List String)

/-- How a table came to be: it has a header, it lies on the way of another header, or on that of a
dotted key. -/
inductive TableKind
  | stated
  | implied
  | dotted
  deriving DecidableEq, Repr

inductive Item
  | value (v : Value)
  | table (kind : TableKind) (members : List (String × Item))
  /-- An array of tables, each with a header. -/
  | tables (all : List (List (String × Item)))
  deriving Inhabited

abbrev Members := List (String × Item)

def replace (key : String) (item : Item) : Members → Members
  | [] => []
  | m :: ms => if m.1 = key then (key, item) :: ms else m :: replace key item ms

/-- Changes the table at the end of a path, making the tables on the way that are not there. Of an
array of tables the last one is meant. A dotted key does not lead through a table that has a
header. -/
def change (byKey : Bool) (act : TableKind → Members → Option Members) (kind : TableKind) :
    List String → Members → Option Members
  | [], members => act kind members
  | key :: path, members =>
    match members.lookup key with
    | none => do
      let kind := if byKey then TableKind.dotted else .implied
      let inner ← change byKey act kind path []
      return members ++ [(key, .table kind inner)]
    | some (.value _) => none
    | some (.table kind inner) =>
      if byKey ∧ kind = .stated then none
      else do
        let inner ← change byKey act kind path inner
        return replace key (.table kind inner) members
    | some (.tables all) => do
      let inner ← change byKey act .stated path (← all.getLast?)
      return replace key (.tables (all.dropLast ++ [inner])) members

/-- Adds a member where its dotted key says. The table that the dots lead to must be one that
dotted keys made. -/
def addMember (key : List String) (value : Value) (members : Members) : Option Members := do
  let name ← key.getLast?
  let path := key.dropLast
  let act (kind : TableKind) (members : Members) : Option Members :=
    if path ≠ [] ∧ kind ≠ .dotted then none
    else if (members.lookup name).isSome then none
    else some (members ++ [(name, .value value)])
  change true act .stated path members

/-- Changes the table that a header names, from the table before it. -/
def changeAt (path : List String) (act : String → Members → Option Members) (members : Members) :
    Option Members := do
  let name ← path.getLast?
  change false (fun _ => act name) .stated path.dropLast members

def addTable (name : String) (members : Members) : Option Members :=
  match members.lookup name with
  | none => some (members ++ [(name, .table .stated [])])
  | some (.table .implied inner) => some (replace name (.table .stated inner) members)
  | some _ => none

def addToTables (name : String) (members : Members) : Option Members :=
  match members.lookup name with
  | none => some (members ++ [(name, .tables [[]])])
  | some (.tables all) => some (replace name (.tables (all ++ [[]])) members)
  | some _ => none

/-- A document as far as it has been read: its members and the path of the table at hand. -/
structure Draft where
  members : Members
  path : List String

def Draft.add (d : Draft) : Expression → Option Draft
  | .member key value => do
    let members ← change false (fun _ => addMember key value) .stated d.path d.members
    return { d with members }
  | .header path => do
    return ⟨← changeAt path addTable d.members, path⟩
  | .arrayHeader path => do
    return ⟨← changeAt path addToTables d.members, path⟩

mutual

def Item.toValue : Item → Value
  | .value v => v
  | .table _ members => .table (membersToValues members)
  | .tables all => .array (tablesToValues all)

def membersToValues : List (String × Item) → List (String × Value)
  | [] => []
  | (key, item) :: rest => (key, item.toValue) :: membersToValues rest

def tablesToValues : List (List (String × Item)) → List Value
  | [] => []
  | members :: rest => .table (membersToValues members) :: tablesToValues rest

end

/-- The members that the lines of a document add up to. -/
def document (expressions : List Expression) : Option (List (String × Value)) := do
  let draft ← expressions.foldlM Draft.add ⟨[], []⟩
  return membersToValues draft.members

/-- The members of an inline table. -/
def inlineTable (members : List (List String × Value)) : Option (List (String × Value)) := do
  let members ← members.foldlM (fun ms (key, value) => addMember key value ms) []
  return membersToValues members

end ChequeTeller.Toml
