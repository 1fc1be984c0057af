import ChequeTeller.Text.Decimal
import ChequeTeller.Url.Host

/-!
Absolute URLs by their parts, each part in its encoded form, and their text.
-/

namespace ChequeTeller

namespace Url

structure Credentials where
  username : String
  password : Option String
  deriving DecidableEq

structure Authority where
  credentials : Option Credentials
  host : Host
  /-- Absent if it is the scheme's usual one. -/
  port : Option UInt16
  deriving DecidableEq

/-- A path is a list of segments, each with a slash before it, or else a text without structure,
and a URL with such a path is no base for others. -/
inductive Path
  | rooted (segments : List String)
  | rootless (text : String)
  deriving DecidableEq

end Url

structure Url where
  scheme : String
  authority : Option Url.Authority
  path : Url.Path
  query : Option String
  fragment : Option String
  deriving DecidableEq

namespace Url

def usualPort? (scheme : String) : Option UInt16 :=
  if scheme = "http" ∨ scheme = "ws" then some 80
  else if scheme = "https" ∨ scheme = "wss" then some 443
  else if scheme = "ftp" then some 21
  else none

/-- Special schemes treat a backslash as a slash, and always have a path. -/
def isSpecialScheme (scheme : String) : Bool :=
  scheme = "file" || (usualPort? scheme).isSome

def isSpecial (u : Url) : Bool :=
  isSpecialScheme u.scheme

def isBase (u : Url) : Bool :=
  match u.path with
  | .rooted _ => true
  | .rootless _ => false

def Credentials.text (c : Credentials) : String :=
  c.username ++ ((c.password.map (":" ++ ·)).getD "") ++ "@"

def Authority.text (a : Authority) : String :=
  ((a.credentials.map Credentials.text).getD "") ++ a.host.text ++
    ((a.port.map fun port => ":" ++ Text.Decimal.numeral port.toNat).getD "")

def Path.text : Path → String
  | rooted segments => String.join (segments.map ("/" ++ ·))
  | rootless text => text

/-- Two slashes after the scheme would start an authority. -/
def pathGuard (u : Url) : String :=
  match u.authority, u.path with
  | none, .rooted ("" :: _ :: _) => "/."
  | _, _ => ""

def text (u : Url) : String :=
  u.scheme ++ ":" ++ ((u.authority.map ("//" ++ ·.text)).getD "") ++ u.pathGuard ++ u.path.text ++
    ((u.query.map ("?" ++ ·)).getD "") ++ ((u.fragment.map ("#" ++ ·)).getD "")

end Url

end ChequeTeller
