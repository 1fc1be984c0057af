import ChequeTeller.Proofs.Toml.Tree
import ChequeTeller.Settings.Basic

/-!
Settings of a document whose texts are replaced. Which fields a record has, and what is no text,
does not change, so that of the settings of the node only the texts are replaced, and nothing of the
terms. Addresses are texts in the document and none in the settings, and are left apart.
-/

namespace ChequeTeller.Toml.Value

variable {f : String → String} {α : Type}

theorem asRecord?_mapText (fields : List String) (v : Value) :
    (v.mapText f).asRecord? fields = (v.asRecord? fields).map (mapMembers f) := by
  cases v with
  | string | integer | float | bool | dateTime | table => rfl
  | array items =>
      simp only [mapText, asRecord?, Option.map_some, mapMembers_eq, mapTexts_eq]
      rw [List.zip_map_right]

theorem asText?_mapText (v : Value) : (v.mapText f).asText? = v.asText?.map f := by
  cases v <;> rfl

theorem asBool?_mapText (v : Value) : (v.mapText f).asBool? = v.asBool? := by
  cases v <;> rfl

theorem asBelow?_mapText (bound : Nat) (v : Value) :
    (v.mapText f).asBelow? bound = v.asBelow? bound := by
  cases v <;> rfl

theorem lookup_mapMembers (record : List (String × Value)) (name : String) :
    (mapMembers f record).lookup name = (record.lookup name).map (mapText f) := by
  rw [mapMembers_eq, lookup_map_snd]

theorem field?_mapMembers {read : Value → Option α} {g : α → α}
    (carries : ∀ v, read (v.mapText f) = (read v).map g) (record : List (String × Value))
    (name : String) :
    field? (mapMembers f record) name read = (field? record name read).map g := by
  rw [field?, field?, lookup_mapMembers]
  cases record.lookup name with
  | none => rfl
  | some v => exact carries v

theorem fieldOr?_mapMembers {read : Value → Option α} {g : α → α} {default : α}
    (carries : ∀ v, read (v.mapText f) = (read v).map g) (usual : g default = default)
    (record : List (String × Value)) (name : String) :
    fieldOr? (mapMembers f record) name read default =
      (fieldOr? record name read default).map g := by
  rw [fieldOr?, fieldOr?, lookup_mapMembers]
  cases record.lookup name with
  | none => rw [Option.map_none, Option.map_some, usual]
  | some v => exact carries v

theorem fieldOr?_mapMembers_same {read : Value → Option α}
    (same : ∀ v, read (v.mapText f) = read v) (record : List (String × Value)) (name : String)
    (default : α) :
    fieldOr? (mapMembers f record) name read default = fieldOr? record name read default := by
  rw [@fieldOr?_mapMembers _ _ _ id _ (fun v => by rw [same, Option.map_id_fun, id]) rfl,
    Option.map_id_fun, id]

theorem asWord16?_mapText (v : Value) : (v.mapText f).asWord16? = v.asWord16? := by
  rw [asWord16?, asWord16?, asBelow?_mapText]

theorem asWord32?_mapText (v : Value) : (v.mapText f).asWord32? = v.asWord32? := by
  rw [asWord32?, asWord32?, asBelow?_mapText]

theorem asWord64?_mapText (v : Value) : (v.mapText f).asWord64? = v.asWord64? := by
  rw [asWord64?, asWord64?, asBelow?_mapText]

end ChequeTeller.Toml.Value

namespace ChequeTeller

open Toml Toml.Value

/-- The settings with each text replaced. -/
def LightningSettings.mapText (f : String → String) (s : LightningSettings) :
    LightningSettings where
  baseUrl := f s.baseUrl
  macaroonHex := s.macaroonHex.map f
  macaroonPath := s.macaroonPath.map f
  tlsCertPath := s.tlsCertPath.map f
  timeoutSecs := s.timeoutSecs

variable {f : String → String}

theorem LightningSettings.ofToml?_mapText (v : Value) :
    ofToml? (v.mapText f) = (ofToml? v).map (mapText f) := by
  have texts (record : List (String × Value)) (name : String) :
      fieldOr? (mapMembers f record) name (fun v => v.asText?.map some) none =
        (fieldOr? record name (fun v => v.asText?.map some) none).map (Option.map f) := by
    refine fieldOr?_mapMembers (fun v => ?_) rfl record name
    rw [asText?_mapText, Option.map_map, Option.map_map]
    rfl
  simp only [ofToml?, asRecord?_mapText, Option.pure_def, Option.bind_eq_bind, Option.bind_map,
    Option.map_bind, Function.comp_def, field?_mapMembers asText?_mapText, texts,
    fieldOr?_mapMembers_same asWord64?_mapText, Option.map_some, mapText]

theorem Terms.ofToml?_mapText (v : Value) : Terms.ofToml? (v.mapText f) = Terms.ofToml? v := by
  simp only [Terms.ofToml?, asRecord?_mapText, Option.bind_eq_bind, Option.bind_map,
    Function.comp_def, fieldOr?_mapMembers_same asWord64?_mapText,
    fieldOr?_mapMembers_same asWord32?_mapText, fieldOr?_mapMembers_same asBool?_mapText]

end ChequeTeller
