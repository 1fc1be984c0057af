import ChequeTeller.Lightning.Failure
import ChequeTeller.Url.Basic

/-!
Requests to the node and what comes back, as HTTP carries them. An answer is the final one: where
the HTTP client follows redirects, what it asked before is not seen here. Of an answer's headers
nothing is kept, and so the charset that its content type may name is left apart: the text of a
body is that of its octets alone.
-/

namespace ChequeTeller.Lightning.Rest

inductive Method
  | get
  | post
  deriving DecidableEq, Repr

def Method.name : Method → String
  | get => "GET"
  | post => "POST"

structure Request where
  method : Method
  url : Url
  /-- The macaroon in hexadecimal. -/
  macaroon : String
  body : Option Json

namespace Request

/-- The header that carries the macaroon. -/
def macaroonHeader : String := "grpc-metadata-macaroon"

/-- Path and query; the fragment stays behind. -/
def target (r : Request) : String :=
  r.url.path.text ++ ((r.url.query.map ("?" ++ ·)).getD "")

/-- The content type, of a request that has a body. -/
def contentType (r : Request) : Option String :=
  r.body.map fun _ => "application/json"

end Request

inductive Answer
  /-- No complete answer came. -/
  | lost (cause : Cause)
  | complete (status : UInt16) (body : List UInt8)
  deriving DecidableEq

/-- A wire that keeps a state between requests. -/
abbrev Wire (σ : Type) := Request → σ → Answer × σ

end ChequeTeller.Lightning.Rest
