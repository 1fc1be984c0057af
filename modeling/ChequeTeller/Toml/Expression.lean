import ChequeTeller.Toml.Scalars
import ChequeTeller.Toml.Strings
import ChequeTeller.Toml.Tree

/-!
Reading TOML text: the lines of a document, each a member or the header of a table.
-/

namespace ChequeTeller.Toml

def isBlank (c : Char) : Bool := c = ' ' || c = '\t'

def skipBlanks (s : List Char) : List Char := s.dropWhile isBlank

/-! Keys. -/

def isBareKeyChar (c : Char) : Bool :=
  c.isAlphanum || c = '_' || c = '-'

def readSimpleKey (s : List Char) : Option (String × List Char) :=
  match s with
  | '\x22' :: cs => (lineRest '\x22' .plain cs).map fun (key, rest) => (String.ofList key, rest)
  | '\x27' :: cs => (lineRest '\x27' .plain cs).map fun (key, rest) => (String.ofList key, rest)
  | _ =>
    match s.takeWhile isBareKeyChar with
    | [] => none
    | key => some (String.ofList key, s.dropWhile isBareKeyChar)

/-- Keys with dots between, blanks around them not counting. -/
def readDottedKeys : Nat → List Char → Option (List String × List Char)
  | 0, _ => none
  | fuel + 1, s => do
    let (key, rest) ← readSimpleKey (skipBlanks s)
    match skipBlanks rest with
    | '.' :: rest =>
      let (keys, rest) ← readDottedKeys fuel rest
      return (key :: keys, rest)
    | rest => return ([key], rest)

/-- Keys, arrays and inline tables are less deep than this. -/
def depthLimit : Nat := 80

def readKey (s : List Char) : Option (List String × List Char) :=
  (readDottedKeys s.length s).filter (·.1.length < depthLimit)

/-! Values. -/

/-- Passes over blanks, line ends and comments, as they may stand in an array. -/
def skipGap (inComment : Bool) : List Char → Option (List Char)
  | [] => if inComment then none else some []
  | '\r' :: '\n' :: cs | '\n' :: cs => skipGap false cs
  | c :: cs =>
    if inComment then if isPlain c then skipGap true cs else none
    else if isBlank c then skipGap false cs
    else if c = '#' then skipGap true cs
    else if c = '\r' then none
    else some (c :: cs)

mutual

/-- A value within `depth` arrays and inline tables. -/
def readValue : Nat → Nat → List Char → Option (Value × List Char)
  | 0, _, _ => none
  | fuel + 1, depth, s =>
    match s with
    | [] => none
    | c :: cs =>
      if c = '\x22' ∨ c = '\x27' then
        (readString c cs).map fun (text, rest) => (.string (String.ofList text), rest)
      else if c = '[' then
        if depth + 1 < depthLimit then do
          let (items, rest) ← readItems fuel (depth + 1) cs
          return (.array items, rest)
        else none
      else if c = '\x7b' then
        if depth + 1 < depthLimit then
          match skipBlanks cs with
          | '\x7d' :: rest => some (.table [], rest)
          | cs => do
            let (members, rest) ← readMembers fuel (depth + 1) cs
            return (.table (← inlineTable members), rest)
        else none
      else readScalar s

/-- The items of an array up to its closing bracket; a comma may follow the last one. -/
def readItems : Nat → Nat → List Char → Option (List Value × List Char)
  | 0, _, _ => none
  | fuel + 1, depth, s => do
    match ← skipGap false s with
    | ']' :: rest => return ([], rest)
    | s =>
      let (item, rest) ← readValue fuel depth s
      match ← skipGap false rest with
      | ',' :: rest =>
        let (items, rest) ← readItems fuel depth rest
        return (item :: items, rest)
      | ']' :: rest => return ([item], rest)
      | _ => none

/-- The members of an inline table up to its closing brace, all on one line. -/
def readMembers : Nat → Nat → List Char → Option (List (List String × Value) × List Char)
  | 0, _, _ => none
  | fuel + 1, depth, s => do
    let (key, rest) ← readKey s
    match rest with
    | '=' :: rest =>
      let (value, rest) ← readValue fuel depth (skipBlanks rest)
      match skipBlanks rest with
      | ',' :: rest =>
        let (members, rest) ← readMembers fuel depth rest
        return ((key, value) :: members, rest)
      | '\x7d' :: rest => return ([(key, value)], rest)
      | _ => none
    | _ => none

end

/-! Lines. -/

/-- Passes over blanks, a comment and the end of the line. -/
def readLineEnd (s : List Char) : Option (List Char) :=
  let rest :=
    match skipBlanks s with
    | '#' :: cs => cs.dropWhile isPlain
    | cs => cs
  match rest with
  | [] => some []
  | '\n' :: cs | '\r' :: '\n' :: cs => some cs
  | _ => none

/-- One line, if it says anything, and the lines after it. -/
def readExpression (s : List Char) : Option (Option Expression × List Char) :=
  match skipBlanks s with
  | [] | '#' :: _ | '\n' :: _ | '\r' :: _ => do
    let rest ← readLineEnd s
    return (none, rest)
  | '[' :: '[' :: cs => do
    match ← readKey cs with
    | (path, ']' :: ']' :: rest) => return (some (.arrayHeader path), ← readLineEnd rest)
    | _ => none
  | '[' :: cs => do
    match ← readKey cs with
    | (path, ']' :: rest) => return (some (.header path), ← readLineEnd rest)
    | _ => none
  | cs => do
    match ← readKey cs with
    | (key, '=' :: rest) =>
      let (value, rest) ← readValue (2 * rest.length + 2) 0 (skipBlanks rest)
      return (some (.member key value), ← readLineEnd rest)
    | _ => none

def readExpressions : Nat → List Char → Option (List Expression)
  | 0, _ => none
  | _, [] => some []
  | fuel + 1, s => do
    let (expression, rest) ← readExpression s
    let expressions ← readExpressions fuel rest
    return expression.toList ++ expressions

/-- The members of a document's table. A byte order mark may stand at its front. -/
def parse (text : String) : Option (List (String × Value)) := do
  let s :=
    match text.toList with
    | '\uFEFF' :: cs => cs
    | cs => cs
  document (← readExpressions (s.length + 1) s)

end ChequeTeller.Toml
