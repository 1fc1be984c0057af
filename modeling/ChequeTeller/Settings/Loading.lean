import ChequeTeller.Lightning.Rest.Client
import ChequeTeller.Settings.Basic

/-!
Loading settings from a file, and making from them the client of the node.
-/

namespace ChequeTeller

open Lightning.Rest

inductive SettingsError
  | unreadable (path : String) (cause : FileError)
  /-- The document is no TOML, or its values are not those of settings. -/
  | malformed
  | noMacaroon
  | client (cause : SetupError)

def SettingsError.message : SettingsError → String
  | unreadable path cause => "failed to read " ++ path ++ ": " ++ cause.message
  | malformed => "invalid configuration"
  | noMacaroon => "lightning.macaroon_hex or lightning.macaroon_path is required"
  | client cause => "lightning backend: " ++ cause.message

namespace Settings

def parse (vars : Variables) (text : String) : Except SettingsError Settings :=
  match parse? vars text with
  | some s => .ok s
  | none => .error .malformed

/-- The settings in a file's content. -/
def ofContent (vars : Variables) (path : String) (content : List UInt8) :
    Except SettingsError Settings :=
  match Text.ofUtf8? content with
  | none => .error (.unreadable path .notText)
  | some text => (parse vars text).map (override vars)

def load {m : Type → Type} [Monad m] (readFile : ReadFile m) (vars : Variables) (path : String) :
    m (Except SettingsError Settings) := do
  match ← readFile path with
  | .error cause => return .error (.unreadable path cause)
  | .ok content => return ofContent vars path content

end Settings

namespace LightningSettings

variable {m : Type → Type} [Monad m]

/-- The macaroon itself counts more than the path of a file that holds it. -/
def macaroon (readFile : ReadFile m) (s : LightningSettings) :
    m (Except SettingsError Macaroon) := do
  match s.macaroonHex, s.macaroonPath with
  | some hex, _ => return (Macaroon.ofHex hex).mapError .client
  | none, some path => return (← Macaroon.ofFile readFile path).mapError .client
  | none, none => return .error .noMacaroon

/-- Without a certificate to expect, any will do. -/
def trust (readFile : ReadFile m) (s : LightningSettings) : m (Except SettingsError Trust) := do
  match s.tlsCertPath with
  | none => return .ok .anyone
  | some path =>
    match ← readFile path with
    | .ok pem => return .ok (.certificate pem)
    | .error cause => return .error (.unreadable path cause)

/-- The client of the node. The URL is read first, then the macaroon, then the certificate. -/
def connect (readFile : ReadFile m) (s : LightningSettings) : m (Except SettingsError Client) :=
  ExceptT.run do
    let base ← ExceptT.mk (pure ((readBase s.baseUrl).mapError SettingsError.client))
    let macaroon ← ExceptT.mk (s.macaroon readFile)
    let trust ← ExceptT.mk (s.trust readFile)
    let client ← ExceptT.mk (pure ((Client.new base macaroon trust).mapError SettingsError.client))
    return { client with timeoutSecs := s.timeoutSecs }

end LightningSettings

end ChequeTeller
