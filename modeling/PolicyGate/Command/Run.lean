import PolicyGate.Command.Policies
import PolicyGate.Command.Settings
/-! # Running commands

Every command is a function of the files, the environment and the path of the settings that the caller
names. -/

namespace PolicyGate

/-- Runs a command; `config` is the path of settings that stands before any other. -/
def Command.run (files : Directory) (env : Environment) (config : Option String) :
    Command → CommandResult
  | formatPolicies file writesBack => PolicyGate.formatPolicies files file writesBack
  | compilePolicies file only format => PolicyGate.compilePolicies files file only format
  | showSettings withPaths => PolicyGate.showSettings files env config withPaths
  | validateSettings file => PolicyGate.validateSettings files env (file <|> config)
  | generateSettings file => PolicyGate.generateSettings files file

end PolicyGate
