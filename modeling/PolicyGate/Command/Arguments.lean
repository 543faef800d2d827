import PolicyGate.Command.Basic
/-! # Arguments

The words of a command line become a command. Options may stand anywhere; the words that are left name
the command and its file. -/

namespace PolicyGate

structure Invocation where
  command : Command
  config : Option String := none
  logLevel : String := "warn"
deriving DecidableEq, Repr

namespace Invocation

def valueOptions : List (String × String) :=
  [("--config", "-c"), ("--log-level", "--log-level"), ("--policy", "-p"), ("--format", "--format"),
   ("--output", "-o")]

def flags : List (String × String) :=
  [("--write", "-w"), ("--paths", "--paths")]

def fullName? (options : List (String × String)) (word : String) : Option String :=
  (options.find? fun (long, short) => word = long ∨ word = short).map Prod.fst

structure Words where
  values : List (String × String) := []
  flags : List String := []
  others : List String := []

/-- Sorts the words of a command line. Behind two dashes no options follow. -/
def sortWords : List String → Except String Words
  | [] => .ok {}
  | "--" :: words => .ok { others := words }
  | word :: words =>
    if word.startsWith "-" ∧ word ≠ "-" then
      match fullName? flags word, word.splitOn "=" with
      | some name, _ => (sortWords words).map fun w => { w with flags := name :: w.flags }
      | none, key :: part :: parts =>
        match fullName? valueOptions key with
        | some name => (sortWords words).map fun w =>
            { w with values := (name, String.intercalate "=" (part :: parts)) :: w.values }
        | none => .error ("unexpected argument '" ++ key ++ "' found")
      | none, _ =>
        match fullName? valueOptions word, words with
        | some name, value :: rest => (sortWords rest).map fun w =>
            { w with values := (name, value) :: w.values }
        | some name, [] => .error ("a value is required for '" ++ name ++ "' but none was supplied")
        | none, _ => .error ("unexpected argument '" ++ word ++ "' found")
    else (sortWords words).map fun w => { w with others := word :: w.others }

def outputFormat? : String → Option OutputFormat
  | "text" => some .text
  | "json" => some .json
  | "yaml" => some .yaml
  | _ => none

def usage : String :=
  "usage: policygate [-c FILE] COMMAND, where COMMAND is one of\n" ++
    "  policy fmt FILE [-w]\n" ++
    "  policy compile FILE [-p NAME] [--format text|json|yaml]\n" ++
    "  config show [--paths]\n" ++
    "  config validate [FILE]\n" ++
    "  config generate [-o FILE]"

def commandOf (w : Words) : Except String Command :=
  match w.others with
  | ["policy", "fmt", file] => .ok (.formatPolicies file (w.flags.contains "--write"))
  | ["policy", "compile", file] =>
    let word := (w.values.lookup "--format").getD "text"
    match outputFormat? word with
    | some form => .ok (.compilePolicies file (w.values.lookup "--policy") form)
    | none => .error ("invalid value '" ++ word ++ "' for '--format'")
  | ["config", "show"] => .ok (.showSettings (w.flags.contains "--paths"))
  | ["config", "validate"] => .ok (.validateSettings none)
  | ["config", "validate", file] => .ok (.validateSettings (some file))
  | ["config", "generate"] =>
    .ok (.generateSettings ((w.values.lookup "--output").getD Settings.standardPath))
  | _ =>
    .error usage

/-- Reads a command line. Settings that are not named there are those of the environment. -/
def ofArguments (words : List String) (env : Environment) : Except String Invocation := do
  let w ← sortWords words
  return {
    command := ← commandOf w
    config := w.values.lookup "--config" <|> env.configPath
    logLevel := (w.values.lookup "--log-level").getD "warn" }

def showsWarnings (i : Invocation) : Bool :=
  ["warn", "info", "debug", "trace"].contains (i.logLevel.map Char.toLower)

end Invocation

/-- The files that a command reads, as far as they are known from the files at hand: those of the keys
are known from the settings. -/
def Command.inputPaths (files : Directory) (env : Environment) (config : Option String) :
    Command → List String
  | formatPolicies file _ => [file]
  | compilePolicies file _ _ => [file]
  | showSettings _ => config.toList ++ env.configPath.toList ++ [Settings.standardPath]
  | generateSettings _ => []
  | validateSettings file =>
    let path := file <|> config
    let keys := match (Settings.load files env path).1 with
      | .ok s => s.rootPublicKeyPath :: (s.assertion.map AssertionSettings.publicKeyPath).toList
      | .error _ => []
    path.toList ++ env.configPath.toList ++ [Settings.standardPath] ++ keys

def Command.outputPath? : Command → Option String
  | formatPolicies file true => some file
  | generateSettings file => some file
  | _ => none

def Command.writeError : Command → CommandError
  | generateSettings file => .unwritableSettings file
  | formatPolicies file _ => .unwritableDocument file
  | compilePolicies file _ _ => .unwritableDocument file
  | showSettings _ => .unwritableSettings ""
  | validateSettings _ => .unwritableSettings ""

def CommandError.report (e : CommandError) (reasons : Reasons := {}) : String :=
  match e.causes reasons with
  | [] => ""
  | [cause] => "Error: " ++ cause.message
  | cause :: causes =>
    "Error: " ++ cause.message ++ "\n\nCaused by:" ++
      String.join (causes.map fun c => "\n    " ++ c.message)

end PolicyGate
