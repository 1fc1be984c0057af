import ChequeTeller.FileError
import ChequeTeller.Text.Blank
import ChequeTeller.Url.Parser

/-!
What a client of the node needs before its first call: the node's base URL, the macaroon that
proves its right to call, and whom it trusts to be the node.
-/

namespace ChequeTeller.Lightning.Rest

inductive SetupError
  | badUrl (fault : Url.Fault)
  /-- Nothing can be resolved against the URL. -/
  | notBase (url : Url)
  | macaroonNotHex (fault : Text.Hex.Fault)
  | macaroonEmpty
  | macaroonUnreadable (path : String) (cause : FileError)

def SetupError.message : SetupError → String
  | badUrl fault => "URL parse error: Failed to parse base url: " ++ fault.message
  | notBase url => "base url cannot be a base: " ++ url.text
  | macaroonNotHex fault => "macaroon is not hex: " ++ fault.message
  | macaroonEmpty => "macaroon is empty"
  | macaroonUnreadable path cause =>
    "failed to read macaroon from " ++ path ++ ": " ++ cause.message

/-- Reads a base URL with exactly one slash at its end. -/
def readBase (text : String) : Except SetupError Url :=
  let trimmed := (text.toList.reverse.dropWhile (· = '/')).reverse
  (Url.parse (String.ofList (trimmed ++ ['/']))).mapError .badUrl

structure Macaroon where
  bytes : List UInt8
  bytes_ne_nil : bytes ≠ []
  deriving DecidableEq

namespace Macaroon

def ofBytes (bytes : List UInt8) : Except SetupError Macaroon :=
  if h : bytes = [] then .error .macaroonEmpty else .ok ⟨bytes, h⟩

/-- Blanks around the digits do not count. -/
def ofHex (text : String) : Except SetupError Macaroon := do
  ofBytes (← (Text.Hex.decode (Text.trimBlanks text)).mapError .macaroonNotHex)

def ofFile {m : Type → Type} [Monad m] (readFile : ReadFile m) (path : String) :
    m (Except SetupError Macaroon) := do
  match ← readFile path with
  | .ok bytes => return ofBytes bytes
  | .error cause => return .error (.macaroonUnreadable path cause)

def toHex (m : Macaroon) : String :=
  Text.Hex.encode m.bytes

/-- What is shown of a macaroon, which is a secret: nothing. -/
def label (_ : Macaroon) : String :=
  "Macaroon(<redacted>)"

end Macaroon

/-- Whose certificate is accepted for the node's. -/
inductive Trust
  | authorities
  | certificate (pem : List UInt8)
  | anyone
  deriving DecidableEq

end ChequeTeller.Lightning.Rest
