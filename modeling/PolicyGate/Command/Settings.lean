import PolicyGate.Command.Basic
/-! # Commands for settings

Settings are shown, checked together with the keys they name, or written with their defaults. -/

namespace PolicyGate

open Time (Period)

/-- A period in whole hours if it has such, else in whole minutes, else in seconds. -/
def Time.Period.roundText (p : Period) : String :=
  let seconds := p.wholeSeconds
  if 0 < seconds ∧ seconds % 3600 = 0 then toString (seconds / 3600) ++ "h"
  else if 0 < seconds ∧ seconds % 60 = 0 then toString (seconds / 60) ++ "m"
  else toString seconds ++ "s"

def Settings.description (s : Settings) : String :=
  "Service: " ++ s.name ++ "\n  Root public key: " ++ s.rootPublicKeyPath ++
    "\n  Metadata key: " ++ s.metadataKey ++ "\n  Unsupported fields: " ++
    s.unsupportedFields.word ++ "\n" ++
  match s.assertion with
  | none => "Signed assertions: disabled\n"
  | some a =>
    "Signed assertions:\n  Public key: " ++ a.publicKeyPath ++ "\n  Audience: " ++ a.audience ++
      "\n  Validity window: " ++ a.validityWindow.roundText ++ "\n  Clock skew: " ++
      a.clockSkew.roundText ++ "\n"

def placesText (path : Option String) (env : Environment) : String :=
  "Configuration discovery paths:\n  1. --config flag: " ++ path.getD "(not set)" ++ "\n  2. " ++
    Environment.configPathName ++ ": " ++ env.configPath.getD "(not set)" ++ "\n  3. " ++
    Settings.standardPath ++ "\n\n"

def showSettings (files : Directory) (env : Environment) (path : Option String)
    (withPaths : Bool) : CommandResult :=
  match Settings.load files env path with
  | (.error e, warnings) => { files, warnings, failure := some (.unloadableSettings e) }
  | (.ok s, warnings) =>
    { output := (if withPaths then placesText path env else "") ++ "Current configuration:\n\n" ++
        s.description
      files, warnings }

/-- Checks settings, that the root key is there and is not empty, and the key of assertions. -/
def Settings.check (s : Settings) (files : Directory) : Except CommandError Unit :=
  match s.fault? with
  | some fault => .error (.invalidSettings fault)
  | none =>
    match files.sizeOf s.rootPublicKeyPath with
    | .error fault => .error (.unreadableRootKey s.rootPublicKeyPath fault)
    | .ok 0 => .error (.emptyRootKey s.rootPublicKeyPath)
    | .ok (_ + 1) =>
      match s.assertion with
      | none => .ok ()
      | some a =>
        match VerifyingKey.load files a.publicKeyPath with
        | .error e => .error (.invalidAssertionKey e)
        | .ok _ => .ok ()

def validateSettings (files : Directory) (env : Environment) (path : Option String) :
    CommandResult :=
  let start := "Validating configuration...\n"
  match Settings.load files env path with
  | (.error e, warnings) =>
    { output := start, files, warnings, failure := some (.unloadableSettings e) }
  | (.ok s, warnings) =>
    match s.check files with
    | .error e => { output := start, files, warnings, failure := some e }
    | .ok () => { output := start ++ "✓ Configuration is valid\n", files, warnings }

def generateSettings (files : Directory) (path : String) : CommandResult :=
  if files.isWritable path then
    { output := "✓ Configuration generated: " ++ path ++ "\n"
      files := files.write path (Text.toBytes ({} : Settings).toYaml) }
  else { files, failure := some (.unwritableSettings path) }

end PolicyGate
