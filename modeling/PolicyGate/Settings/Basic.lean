import PolicyGate.Message.Flatten
import PolicyGate.Time.Period
/-! # Settings of an authorizer

A manifest with an API version, a kind, a service name and what the service needs to authorize calls:
the root key, the metadata key of the credential, what to do with fields that have no exact fact, and
whether and how signed assertions are checked. -/

namespace PolicyGate

open Time (Period)

namespace AssertionSettings

def defaultWindow : Period := .ofSeconds 3600

def defaultSkew : Period := .ofSeconds 5

end AssertionSettings

structure AssertionSettings where
  publicKeyPath : String
  audience : String
  validityWindow : Period := AssertionSettings.defaultWindow
  clockSkew : Period := AssertionSettings.defaultSkew
deriving DecidableEq, Repr

namespace Settings

def apiVersionWord : String := "100monkeys.ai/v1"

def kindWord : String := "AuthorizerConfig"

def defaultMetadataKey : String := "authorization"

end Settings

structure Settings where
  apiVersion : String := Settings.apiVersionWord
  kind : String := Settings.kindWord
  name : String := "warden"
  rootPublicKeyPath : String := "root.pub"
  metadataKey : String := Settings.defaultMetadataKey
  unsupportedFields : UnsupportedFields := .reject
  assertion : Option AssertionSettings := none
deriving DecidableEq, Repr

inductive SettingsFault
  | wrongApiVersion (found : String)
  | wrongKind (found : String)
  | emptyName
  | emptyRootPath
  | invalidMetadataKey (key : String)
  | emptyAssertionPath
  | emptyAudience
  | zeroWindow
  | windowOutOfRange
  | skewOutOfRange
deriving DecidableEq, Repr

def SettingsFault.message : SettingsFault → String
  | wrongApiVersion found =>
    "Invalid apiVersion: '" ++ found ++ "'. Must be '" ++ Settings.apiVersionWord ++ "'"
  | wrongKind found => "Invalid kind: '" ++ found ++ "'. Must be '" ++ Settings.kindWord ++ "'"
  | emptyName => "metadata.name cannot be empty"
  | emptyRootPath => "spec.root_public_key_path cannot be empty"
  | invalidMetadataKey key =>
    "spec.metadata_key '" ++ key ++ "' is not a valid ASCII metadata key"
  | emptyAssertionPath => "spec.assertion.public_key_path cannot be empty"
  | emptyAudience => "spec.assertion.audience cannot be empty"
  | zeroWindow => "spec.assertion.validity_window must be positive"
  | windowOutOfRange => "spec.assertion.validity_window is out of range"
  | skewOutOfRange => "spec.assertion.clock_skew is out of range"

def isMetadataKeyChar (c : Char) : Bool :=
  c.isLower || c.isDigit || c == '-' || c == '_' || c == '.'

/-- Keys that carry text: those that end in `-bin` carry bytes. -/
def isMetadataKey (key : String) : Bool :=
  key ≠ "" && !key.endsWith "-bin" && key.all isMetadataKeyChar

def AssertionSettings.fault? (a : AssertionSettings) : Option SettingsFault :=
  if a.publicKeyPath = "" then some .emptyAssertionPath
  else if a.audience = "" then some .emptyAudience
  else if a.validityWindow.nanoseconds = 0 then some .zeroWindow
  else if a.validityWindow.toSpan? = none then some .windowOutOfRange
  else if a.clockSkew.toSpan? = none then some .skewOutOfRange
  else none

def Settings.fault? (s : Settings) : Option SettingsFault :=
  if s.apiVersion ≠ apiVersionWord then some (.wrongApiVersion s.apiVersion)
  else if s.kind ≠ kindWord then some (.wrongKind s.kind)
  else if s.name = "" then some .emptyName
  else if s.rootPublicKeyPath = "" then some .emptyRootPath
  else if isMetadataKey s.metadataKey = false then some (.invalidMetadataKey s.metadataKey)
  else s.assertion.bind AssertionSettings.fault?

namespace UnsupportedFields

def word : UnsupportedFields → String
  | reject => "reject"
  | drop => "drop"

def ofWord? (word : String) : Option UnsupportedFields :=
  if word = "reject" then some .reject
  else if word = "drop" then some .drop
  else none

end UnsupportedFields
end PolicyGate
