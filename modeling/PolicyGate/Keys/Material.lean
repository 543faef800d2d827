import PolicyGate.Text.Blank
import PolicyGate.Text.Bytes
import PolicyGate.Text.Hex
/-! # Key material

A key file holds the bytes of a key, or 64 hexadecimal digits with blanks around them. -/

namespace PolicyGate.Keys

def hexLength : Nat := 64

/-- The key that the content of a file stands for. Content that is not exactly of the second form is the
key itself. -/
def material (content : Bytes) : Bytes :=
  match Text.ofBytes? content with
  | some s =>
    let digits := Text.trim s.toList
    if Text.width digits = hexLength then (Text.Hex.decode? digits).getD content else content
  | none => content

end PolicyGate.Keys
