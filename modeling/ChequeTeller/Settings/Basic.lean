import ChequeTeller.Net.Address
import ChequeTeller.Settings.Variables
import ChequeTeller.Terms
import ChequeTeller.Text.Quoted
import ChequeTeller.Toml.Expression

/-!
The settings of a server, as a TOML document states them. Variables in the document's text are
expanded before it is read.
-/

namespace ChequeTeller

structure LightningSettings where
  baseUrl : String
  macaroonHex : Option String := none
  macaroonPath : Option String := none
  tlsCertPath : Option String := none
  timeoutSecs : UInt64 := 60
  deriving DecidableEq, Repr

structure Settings where
  host : Net.Address := .v4 ⟨0, 0, 0, 0⟩
  port : UInt16 := 4444
  lightning : LightningSettings
  terms : Terms := {}
  deriving DecidableEq

namespace Toml.Value

/-! Typed values. -/

def asText? : Value → Option String
  | .string s => some s
  | _ => none

def asBool? : Value → Option Bool
  | .bool b => some b
  | _ => none

def asBelow? (bound : Nat) : Value → Option Nat
  | .integer n => if 0 ≤ n ∧ n < bound then some n.toNat else none
  | _ => none

def asWord16? (v : Value) : Option UInt16 :=
  (v.asBelow? UInt16.size).map UInt16.ofNat

def asWord32? (v : Value) : Option UInt32 :=
  (v.asBelow? UInt32.size).map UInt32.ofNat

def asWord64? (v : Value) : Option UInt64 :=
  (v.asBelow? UInt64.size).map UInt64.ofNat

def asAddress? (v : Value) : Option Net.Address :=
  v.asText?.bind Net.Address.ofText?

/-- The fields of a record: a table, or the array of its first fields in order, and whatever else
these hold does not count. A date is a record that states none. -/
def asRecord? (fields : List String) : Value → Option (List (String × Value))
  | .table members => some members
  | .array items => some (fields.zip items)
  | .dateTime _ => some []
  | _ => none

/-- A field that must be there. -/
def field? {α : Type} (record : List (String × Value)) (name : String)
    (read : Value → Option α) : Option α :=
  (record.lookup name).bind read

/-- A field that may be left out. -/
def fieldOr? {α : Type} (record : List (String × Value)) (name : String)
    (read : Value → Option α) (default : α) : Option α :=
  match record.lookup name with
  | some v => read v
  | none => some default

end Toml.Value

open Toml Toml.Value

namespace LightningSettings

def fields : List String :=
  ["base_url", "macaroon_hex", "macaroon_path", "tls_cert_path", "timeout_secs"]

def ofToml? (v : Value) : Option LightningSettings := do
  let r ← v.asRecord? fields
  let text (v : Value) : Option (Option String) := v.asText?.map some
  return {
    baseUrl := ← field? r "base_url" asText?
    macaroonHex := ← fieldOr? r "macaroon_hex" text none
    macaroonPath := ← fieldOr? r "macaroon_path" text none
    tlsCertPath := ← fieldOr? r "tls_cert_path" text none
    timeoutSecs := ← fieldOr? r "timeout_secs" asWord64? 60 }

/-- An optional value between the brackets of `Some`. -/
def optionLabel : Option String → String
  | some label => "Some(" ++ label ++ ")"
  | none => "None"

/-- The settings as a log shows them, without the macaroon. -/
def label (s : LightningSettings) : String :=
  "LightningConfig \x7b base_url: " ++ Text.Quoted.text s.baseUrl ++
    ", macaroon_hex: " ++ optionLabel (s.macaroonHex.map fun _ => Text.Quoted.text "<redacted>") ++
    ", macaroon_path: " ++ optionLabel (s.macaroonPath.map Text.Quoted.text) ++
    ", tls_cert_path: " ++ optionLabel (s.tlsCertPath.map Text.Quoted.text) ++
    ", timeout_secs: " ++ Text.Decimal.numeral s.timeoutSecs.toNat ++ " \x7d"

end LightningSettings

def Terms.fieldNames : List String := Terms.fields.map (·.name)

def Terms.ofToml? (v : Value) : Option Terms := do
  let r ← v.asRecord? Terms.fieldNames
  let usual : Terms := {}
  return {
    adaptorFeeMsat := ← fieldOr? r "adaptor_fee_msat" asWord64? usual.adaptorFeeMsat
    payFeeLimitSat := ← fieldOr? r "pay_fee_limit_sat" asWord64? usual.payFeeLimitSat
    finalCltvDelta := ← fieldOr? r "final_cltv_delta" asWord32? usual.finalCltvDelta
    chequeTimeoutMarginMs :=
      ← fieldOr? r "cheque_timeout_margin_ms" asWord64? usual.chequeTimeoutMarginMs
    blockTimeSecs := ← fieldOr? r "block_time_secs" asWord64? usual.blockTimeSecs
    enforceChequeAmount :=
      ← fieldOr? r "enforce_cheque_amount" asBool? usual.enforceChequeAmount }

namespace Settings

def ofRecord? (r : List (String × Value)) : Option Settings := do
  return {
    host := ← fieldOr? r "host" asAddress? (.v4 ⟨0, 0, 0, 0⟩)
    port := ← fieldOr? r "port" asWord16? 4444
    lightning := ← field? r "lightning" LightningSettings.ofToml?
    terms := ← fieldOr? r "adaptor" Terms.ofToml? {} }

/-- The settings in a text. -/
def parse? (vars : Variables) (text : String) : Option Settings :=
  (Toml.parse (expand vars text)).bind ofRecord?

/-- The variables `HOST` and `PORT` count more than the document, if they are well formed. -/
def override (vars : Variables) (s : Settings) : Settings where
  host := ((vars "HOST").bind Net.Address.ofText?).getD s.host
  port := ((vars "PORT").bind Text.Decimal.word16?).getD s.port
  lightning := s.lightning
  terms := s.terms

end Settings

end ChequeTeller
