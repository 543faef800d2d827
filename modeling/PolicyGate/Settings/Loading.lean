import PolicyGate.Data.Yaml.Reading
import PolicyGate.Data.Yaml.Text
import PolicyGate.Files.Directory
import PolicyGate.Settings.Manifest
import PolicyGate.Text.Blank
import PolicyGate.Text.Escaped
import PolicyGate.Text.Lowercase
import PolicyGate.Text.Reasons
/-! # Loading settings

Settings come from a file that is named, or found in one of two places; without one the defaults hold. The
environment may override the policy on unsupported fields. -/

namespace PolicyGate

/-- A value for the policy on unsupported fields that is none, in lower case. -/
structure UnknownPolicy where
  word : String
deriving DecidableEq, Repr

def UnknownPolicy.message (e : UnknownPolicy) : String :=
  "unknown unsupported-field policy '" ++ e.word ++ "': expected reject or drop"

def UnsupportedFields.ofText (text : String) : Except UnknownPolicy UnsupportedFields :=
  let word := Text.lowercase (Text.trimmed text)
  match ofWord? word with
  | some policy => .ok policy
  | none => .error ⟨word⟩

structure Environment where
  configPath : Option String := none
  /-- The policy on unsupported fields, whatever the settings say. -/
  unsupportedFields : Option String := none
deriving DecidableEq, Repr

namespace Environment

def configPathName : String := "WARDEN_CONFIG_PATH"

def unsupportedFieldsName : String := "WARDEN_UNSUPPORTED_FIELDS"

end Environment

inductive SettingsWarning
  | noFile
  | ignoredOverride (value : String)
deriving DecidableEq, Repr

def SettingsWarning.text : SettingsWarning → String
  | noFile => "No configuration file found in standard locations. Using defaults."
  | ignoredOverride value =>
    "Invalid value for " ++ Environment.unsupportedFieldsName ++ ": '" ++ value ++
      "'. Expected reject/drop. Ignoring."

inductive LoadError
  | unreadable (fault : FileFault)
  | notSettings (yaml : String)
  /-- The file that was named cannot be used. -/
  | named (path : String) (e : LoadError)
deriving DecidableEq, Repr

def LoadError.namedText (path : String) : String :=
  "Failed to load config at " ++ Text.Escaped.pathText path

def LoadError.message (e : LoadError) (reasons : Reasons := {}) : String :=
  match e with
  | unreadable fault => fault.message
  | notSettings yaml => reasons.settings yaml
  | named path e => namedText path ++ ": " ++ e.message reasons

namespace Settings

def standardPath : String := "./warden-config.yaml"

def ofYaml? (yaml : String) : Option Settings := do
  ofData? (← Data.Yaml.Document.ofText? yaml).start

def toYaml (s : Settings) : String :=
  Data.Yaml.text s.toData

def ofFile (files : Directory) (path : String) : Except LoadError Settings :=
  match files.readText path with
  | .error fault => .error (.unreadable fault)
  | .ok yaml =>
    match ofYaml? yaml with
    | some s => .ok s
    | none => .error (.notSettings yaml)

def overridden (env : Environment) (s : Settings) : Settings × List SettingsWarning :=
  match env.unsupportedFields with
  | none => (s, [])
  | some value =>
    match UnsupportedFields.ofText value with
    | .ok policy => ({ s with unsupportedFields := policy }, [])
    | .error _ => (s, [.ignoredOverride value])

/-- The path of settings that nobody named: the one in the environment if a file is there, else the
standard one. -/
def discover (files : Directory) (env : Environment) : Option String :=
  match env.configPath.filter files.has with
  | some path => some path
  | none => if files.has standardPath then some standardPath else none

/-- Loads settings from the named file or from a discovered one, or takes the defaults, and applies the
overrides. -/
def load (files : Directory) (env : Environment) (path : Option String) :
    Except LoadError Settings × List SettingsWarning :=
  let apply (warnings : List SettingsWarning) (s : Settings) :
      Except LoadError Settings × List SettingsWarning :=
    let (s, more) := s.overridden env
    (.ok s, warnings ++ more)
  match path with
  | some path =>
    match ofFile files path with
    | .ok s => apply [] s
    | .error e => (.error (.named path e), [])
  | none =>
    match discover files env with
    | some path =>
      match ofFile files path with
      | .ok s => apply [] s
      | .error e => (.error e, [])
    | none => apply [.noFile] {}

end Settings
end PolicyGate
