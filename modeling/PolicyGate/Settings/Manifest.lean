import PolicyGate.Data.Value
import PolicyGate.Settings.Basic
/-! # Manifests

Settings as structured data. Reading fills in what may be missing and passes over members it does not
know; writing leaves nothing out but absent assertion settings. -/

namespace PolicyGate

open Data (Readable Value)
open Time (Period)

variable {δ : Type} [Readable δ]

def memberOr {α : Type} (fallback : α) (read? : δ → Option α) : Option δ → Option α
  | none => some fallback
  | some v => read? v

def periodOfData? (v : δ) : Option Period := do
  Period.ofText? (← Readable.text? v)

def UnsupportedFields.ofData? (v : δ) : Option UnsupportedFields := do
  ofWord? (← Readable.word? v)

namespace AssertionSettings

def ofData? (v : δ) : Option AssertionSettings := do
  match ← Readable.row? ["public_key_path", "audience", "validity_window", "clock_skew"] v with
  | [some path, some audience, window, skew] =>
    return {
      publicKeyPath := ← Readable.text? path
      audience := ← Readable.text? audience
      validityWindow := ← memberOr defaultWindow periodOfData? window
      clockSkew := ← memberOr defaultSkew periodOfData? skew }
  | _ => none

def optionOfData? (v : δ) : Option (Option AssertionSettings) := do
  match ← Readable.optional? v with
  | none => return none
  | some v => return some (← ofData? v)

def toData (a : AssertionSettings) : Value :=
  .record [("public_key_path", .text a.publicKeyPath), ("audience", .text a.audience),
    ("validity_window", .text a.validityWindow.text), ("clock_skew", .text a.clockSkew.text)]

end AssertionSettings

namespace Settings

/-- Reads the part of a manifest that says how calls are authorized, into settings. -/
def specOfData? (s : Settings) (spec : δ) : Option Settings := do
  match ← Readable.row? ["root_public_key_path", "metadata_key", "unsupported_fields", "assertion"]
      spec with
  | [some path, key, unsupported, assertion] =>
    return { s with
      rootPublicKeyPath := ← Readable.text? path
      metadataKey := ← memberOr defaultMetadataKey Readable.text? key
      unsupportedFields := ← memberOr .reject UnsupportedFields.ofData? unsupported
      assertion := ← memberOr none AssertionSettings.optionOfData? assertion }
  | _ => none

def ofData? (v : δ) : Option Settings := do
  match ← Readable.row? ["apiVersion", "kind", "metadata", "spec"] v with
  | [some apiVersion, some kind, some metadata, some spec] =>
    match ← Readable.row? ["name"] metadata with
    | [some name] =>
      let apiVersion ← Readable.text? apiVersion
      let kind ← Readable.text? kind
      let name ← Readable.text? name
      specOfData? { apiVersion, kind, name } spec
    | _ => none
  | _ => none

def toData (s : Settings) : Value :=
  let assertion := match s.assertion with
    | some a => [("assertion", a.toData)]
    | none => []
  .record [("apiVersion", .text s.apiVersion), ("kind", .text s.kind),
    ("metadata", .record [("name", .text s.name)]),
    ("spec", .record ([("root_public_key_path", .text s.rootPublicKeyPath),
      ("metadata_key", .text s.metadataKey),
      ("unsupported_fields", .text s.unsupportedFields.word)] ++ assertion))]

end Settings
end PolicyGate
