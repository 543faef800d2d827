import PolicyGate.Command.Basic
import PolicyGate.Data.Json
import PolicyGate.Policy.Data
import PolicyGate.Policy.Text
/-! # Commands for policies

Policies are printed in their usual layout or compiled. -/

namespace PolicyGate

def Directory.formattedPolicies (files : Directory) (path : String) :
    Except CommandError String :=
  match files.readText path with
  | .error fault => .error (.unreadableDocument path fault)
  | .ok source =>
    match formatDocument source with
    | .error e => .error (.unformattable path e)
    | .ok text => .ok text

def formatPolicies (files : Directory) (path : String) (writesBack : Bool) : CommandResult :=
  match files.formattedPolicies path with
  | .error e => { files, failure := some e }
  | .ok text =>
    if writesBack then
      { output := "✓ Formatted " ++ path ++ "\n", files := files.write path (Text.toBytes text) }
    else { output := text, files }

def titledLines (title : String) (lines : List String) : String :=
  if lines = [] then ""
  else "  " ++ title ++ ":\n" ++ String.join (lines.map fun line => "    " ++ line ++ "\n")

def Policy.outline (p : Policy) : String :=
  "policy \"" ++ p.name ++ "\"\n" ++ titledLines "rules" (p.rules.map Rule.text) ++
    titledLines "caveats" (p.caveats.map Caveat.text)

def policiesData (ps : List Policy) : Data.Value :=
  .record (ps.map fun p => (p.name, p.toData))

def OutputFormat.render (format : OutputFormat) (ps : List Policy) : String :=
  match format with
  | text => String.join (ps.map Policy.outline)
  | json => Data.Json.text (policiesData ps) ++ "\n"
  | yaml => Data.Yaml.text (policiesData ps)

def Directory.compiledPolicies (files : Directory) (path : String) :
    Except CommandError (List Policy) :=
  match files.readText path with
  | .error fault => .error (.unreadableDocument path fault)
  | .ok source =>
    match compileDocument source with
    | .error e => .error (.uncompilable path e)
    | .ok ps => .ok ps

def selectPolicies (path : String) (only : Option String) (ps : List Policy) :
    Except CommandError (List Policy) :=
  match only with
  | none => .ok ps
  | some name =>
    match ps.find? fun p => p.name = name with
    | some p => .ok [p]
    | none => .error (.unknownPolicy name path)

def compilePolicies (files : Directory) (path : String) (only : Option String)
    (format : OutputFormat) : CommandResult :=
  match files.compiledPolicies path with
  | .error e => { files, failure := some e }
  | .ok ps =>
    match selectPolicies path only ps with
    | .error e => { files, failure := some e }
    | .ok ps => { output := format.render ps, files }

end PolicyGate
