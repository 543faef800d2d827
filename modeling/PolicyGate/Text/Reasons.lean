/-! # Reasons of libraries

Patterns, dates, base64 and YAML are read by libraries, and a message repeats what they say of a text that
they refuse. Their words are left open. -/

namespace PolicyGate

structure Reasons where
  pattern : String → String := fun _ => "it is not well formed"
  date : String → String := fun _ => "it is not well formed"
  base64Url : String → String := fun _ => "it is not well formed"
  settings : String → String := fun _ => "the text is not YAML with the members of settings"

end PolicyGate
