import PolicyGate.Command.Arguments
import PolicyGate.Command.Run
/-! # The command line

Reads the files that a command needs, runs it, and writes what it leaves behind. -/

namespace PolicyGate

def withFile (files : Directory) (path : String) : IO Directory := do
  if path = "" then return files
  try
    let content ← IO.FS.readBinFile path
    return files.write path content.data.toList
  catch _ => return files

def readInputs (env : Environment) (config : Option String) (command : Command) : IO Directory := do
  let settings ← (command.inputPaths {} env config).foldlM withFile {}
  (command.inputPaths settings env config).foldlM withFile settings

def writeOutput (command : Command) (files : Directory) : IO Unit :=
  match command.outputPath? with
  | none => pure ()
  | some path =>
    match files.read path with
    | .error _ => pure ()
    | .ok content => IO.FS.writeBinFile path ⟨content.toArray⟩

def runCommand (env : Environment) (i : Invocation) : IO UInt32 := do
  let files ← readInputs env i.config i.command
  let folders := (i.command.outputPath?.map Directory.foldersOn).getD []
  let result := i.command.run { files with folders } env i.config
  if i.showsWarnings then
    for w in result.warnings do
      IO.eprintln ("WARN " ++ w.text)
  match result.failure with
  | some e =>
    IO.print result.output
    IO.eprintln e.report
    return 1
  | none =>
    try
      writeOutput i.command result.files
      IO.print result.output
      return 0
    catch _ =>
      IO.eprintln i.command.writeError.report
      return 1

end PolicyGate

def main (words : List String) : IO UInt32 := do
  let env : PolicyGate.Environment := {
    configPath := ← IO.getEnv PolicyGate.Environment.configPathName
    unsupportedFields := ← IO.getEnv PolicyGate.Environment.unsupportedFieldsName }
  match PolicyGate.Invocation.ofArguments words env with
  | .error message =>
    IO.eprintln ("error: " ++ message)
    return 2
  | .ok i => PolicyGate.runCommand env i
