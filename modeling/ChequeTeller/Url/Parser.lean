import ChequeTeller.Url.Segments

/-!
Reading absolute URLs. Tabs and line breaks are dropped from each part when it is read.
-/

namespace ChequeTeller.Url

/-- Without the blanks and control characters around the text. -/
def trim (s : List Char) : List Char :=
  let isPadding (c : Char) : Bool := c.toNat ≤ 0x20
  ((s.dropWhile isPadding).reverse.dropWhile isPadding).reverse

def isSchemeChar (c : Char) : Bool :=
  c.isAlphanum || c = '+' || c = '-' || c = '.'

/-- The scheme in lower case, and what follows its colon. -/
def cutScheme? (s : List Char) : Option (String × List Char) :=
  let (before, after) := Text.cut (· = ':') s
  match dropBreaks before, after with
  | c :: cs, some rest =>
    if c.isAlpha ∧ cs.all isSchemeChar then
      some (String.ofList ((c :: cs).map Char.toLower), rest)
    else none
  | _, _ => none

/-! The authority. -/

/-- A username, and a password after a colon. Neither need be there. -/
def credentials? (s : List Char) : Option Credentials :=
  let encode := Percent.encode inUserinfoSet
  match Text.cut (· = ':') s with
  | ([], none) | ([], some []) => none
  | (username, none) | (username, some []) => some ⟨encode username, none⟩
  | (username, some password) => some ⟨encode username, some (encode password)⟩

/-- The host's text, up to a colon outside of brackets, and what follows that colon. -/
def cutPort (bracketed : Bool) : List Char → List Char × Option (List Char)
  | [] => ([], none)
  | c :: cs =>
    if c = ':' ∧ ¬ bracketed then ([], some cs)
    else
      let bracketed := if c = '[' then true else if c = ']' then false else bracketed
      let (host, port) := cutPort bracketed cs
      (c :: host, port)

/-- The port, none if there are no digits or the scheme's usual one. Only a backslash may follow
its digits, and starts the path. -/
def readPort (scheme : String) (s : List Char) : Except Fault (Option UInt16 × List Char) :=
  let digits := s.takeWhile fun c => '0' ≤ c && c ≤ '9'
  let rest := s.dropWhile fun c => '0' ≤ c && c ≤ '9'
  match (Text.Decimal.digits? 0 digits).filter (· < UInt16.size), rest with
  | some n, [] | some n, '\\' :: _ =>
    let port := UInt16.ofNat n
    .ok (if digits = [] ∨ usualPort? scheme = some port then none else some port, rest)
  | _, _ => .error .badPort

/-- The authority in `s`, and the start of the path where it runs on. -/
def readHostAndPort (scheme : String) (credentials : Option Credentials) (s : List Char) :
    Except Fault (Authority × List Char) := do
  let special := isSpecialScheme scheme
  let (hostText, portText) := cutPort false s
  if hostText = [] ∧ (special ∨ portText.isSome) then .error .emptyHost
  let host ← if special then Host.ofSpecial hostText else Host.ofOther hostText
  let (port, rest) ← readPort scheme (portText.getD [])
  if host = .empty ∧ credentials.isSome then .error .emptyHost
  return (⟨credentials, host, port⟩, rest)

/-- `more` says whether anything follows the authority. -/
def readAuthority (scheme : String) (s : List Char) (more : Bool) :
    Except Fault (Authority × List Char) :=
  match Text.cutLast (· = '@') s with
  | (some [], []) => if more then .error .emptyHost else readHostAndPort scheme none []
  | (some userinfo, rest) => readHostAndPort scheme (credentials? userinfo) rest
  | (none, rest) => readHostAndPort scheme none rest

/-! Authority and path together, by kind of scheme. -/

/-- A path that starts at the root. -/
def pathOf (special : Bool) (s : List Char) : List String :=
  (Walk.along false ⟨[], false⟩ (segmentsOf special s)).segments

/-- What follows two slashes. Without a path a special URL has the root. -/
def readHierarchy (scheme : String) (s : List Char) (more : Bool) :
    Except Fault (Authority × Path) := do
  let special := isSpecialScheme scheme
  let before := s.takeWhile (!isSlash special ·)
  let after := s.dropWhile (!isSlash special ·)
  let (authority, rest) ← readAuthority scheme before (more || after ≠ [])
  match rest ++ after with
  | [] => return (authority, .rooted (if special then [""] else []))
  | c :: cs =>
    return (authority, .rooted (pathOf special (if isSlash special c then cs else c :: cs)))

/-! File URLs, in which breaks matter after a drive letter and so are still there. -/

/-- The host of a file, none if the text starts with a drive letter or it is this machine, and
the path after it. -/
def readFileHost (s : List Char) : Except Fault (Host × List Char) := do
  let hostText := dropBreaks (s.takeWhile (!isSlash true ·))
  if isDriveLetter hostText ∨ hostText = [] then return (.empty, s)
  else
    let rest := s.dropWhile (!isSlash true ·)
    match ← Host.ofSpecial hostText with
    | .name "localhost" => return (.empty, rest)
    | host => return (host, rest)

def fileOf (host : Host) (path : List Char) : Authority × Path :=
  let walk := (Walk.along true ⟨[], false⟩ (segmentsOf true path)).finish true
  (⟨none, if walk.hostless then .empty else host, none⟩, .rooted walk.segments)

def readFile (s : List Char) : Except Fault (Authority × Path) := do
  match s.dropWhile isBreak with
  | c :: cs =>
    if isSlash true c then
      match cs.dropWhile isBreak with
      | d :: ds =>
        if isSlash true d then
          let (host, rest) ← readFileHost ds
          return fileOf host (if host = .empty then rest else rest.drop 1)
        else return fileOf .empty cs
      | [] => return fileOf .empty []
    else return fileOf .empty s
  | [] => return fileOf .empty []

def readParts (scheme : String) (s : List Char) (more : Bool) :
    Except Fault (Option Authority × Path) := do
  if scheme = "file" then
    let (authority, path) ← readFile s
    return (some authority, path)
  else if isSpecialScheme scheme then
    let (authority, path) ← readHierarchy scheme ((dropBreaks s).dropWhile (isSlash true)) more
    return (some authority, path)
  else
    match dropBreaks s with
    | '/' :: '/' :: rest =>
      let (authority, path) ← readHierarchy scheme rest more
      return (some authority, path)
    | '/' :: rest => return (none, .rooted (pathOf false rest))
    | rest => return (none, .rootless (Percent.encode isControl rest))

def parse (s : String) : Except Fault Url := do
  match cutScheme? (trim s.toList) with
  | none => .error .noScheme
  | some (scheme, rest) =>
    let (rest, fragment) := Text.cut (· = '#') rest
    let (rest, query) := Text.cut (· = '?') rest
    let (authority, path) ← readParts scheme rest (query.isSome || fragment.isSome)
    return {
      scheme, authority, path
      query := query.map (Percent.encode (inQuerySet (isSpecialScheme scheme)) ∘ dropBreaks)
      fragment := fragment.map (Percent.encode inFragmentSet ∘ dropBreaks) }

end ChequeTeller.Url
