import PolicyGate.Keys.Trusted
import PolicyGate.Policy.Compile
import PolicyGate.Settings.Loading
/-! # Commands

The commands of the companion tool. They work on the files of a directory and leave behind what they
print, the files afterwards, warnings and, if they fail, the reason with its causes. -/

namespace PolicyGate

inductive OutputFormat
  | text
  | json
  | yaml
deriving DecidableEq, Repr

inductive Command
  | formatPolicies (file : String) (writesBack : Bool)
  | compilePolicies (file : String) (only : Option String) (format : OutputFormat)
  | showSettings (withPaths : Bool)
  | validateSettings (file : Option String)
  | generateSettings (file : String)
deriving DecidableEq, Repr

/-- What went wrong at one level of a failure. -/
inductive Cause
  | report (text : String)
  | file (reason : String)
  | yaml (reason : String)
  | explained (text reason : String)
deriving DecidableEq, Repr

def Cause.message : Cause → String
  | report text => text
  | file reason => reason
  | yaml reason => reason
  | explained text reason => text ++ ": " ++ reason

inductive CommandError
  | unreadableDocument (path : String) (fault : FileFault)
  | unformattable (path : String) (e : DocumentError)
  | uncompilable (path : String) (e : DocumentError)
  | unwritableDocument (path : String)
  | unknownPolicy (name path : String)
  | unloadableSettings (e : LoadError)
  | invalidSettings (fault : SettingsFault)
  | unreadableRootKey (path : String) (fault : FileFault)
  | emptyRootKey (path : String)
  | invalidAssertionKey (e : SetupError)
  | unwritableSettings (path : String)
deriving Repr

def FileFault.cause (fault : FileFault) : Cause :=
  .file fault.message

def LoadError.cause (e : LoadError) (reasons : Reasons := {}) : Cause :=
  match e with
  | unreadable fault => fault.cause
  | notSettings yaml => .yaml (reasons.settings yaml)
  | named path e => .explained (LoadError.namedText path) (e.message reasons)

def SetupError.cause : SetupError → Cause
  | unreadableKey path fault => .explained (unreadableKeyText path) fault.message
  | e => .report e.message

/-- The causes of an error, the outermost first. -/
def CommandError.causes (e : CommandError) (reasons : Reasons := {}) : List Cause :=
  match e with
  | unreadableDocument path fault =>
    [.report ("Failed to read policy document " ++ Text.Escaped.pathText path), fault.cause]
  | unformattable path e =>
    [.report ("Failed to format " ++ Text.Escaped.pathText path), .report (e.message reasons)]
  | uncompilable path e =>
    [.report ("Failed to compile " ++ Text.Escaped.pathText path), .report (e.message reasons)]
  | unwritableDocument path =>
    [.report ("Failed to write " ++ Text.Escaped.pathText path), FileFault.missing.cause]
  | unknownPolicy name path =>
    [.report ("No policy named '" ++ name ++ "' in " ++ Text.Escaped.pathText path)]
  | unloadableSettings e => [.report "Failed to load configuration", e.cause reasons]
  | invalidSettings fault =>
    [.report "Configuration validation failed", .report fault.message]
  | unreadableRootKey path fault =>
    [.report ("Root public key " ++ Text.Escaped.pathText path ++ " is not readable"), fault.cause]
  | emptyRootKey path => [.report ("Root public key " ++ Text.Escaped.pathText path ++ " is empty")]
  | invalidAssertionKey e => [.report "Signed-assertion key is invalid", e.cause]
  | unwritableSettings path =>
    [.report ("Failed to write config to " ++ Text.Escaped.pathText path), FileFault.missing.cause]

structure CommandResult where
  output : String := ""
  files : Directory
  warnings : List SettingsWarning := []
  failure : Option CommandError := none

end PolicyGate
