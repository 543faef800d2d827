/-! # Bytes and the UTF-8 form of text

Byte strings are lists of bytes. A position in a text is the number of bytes of its UTF-8 form that
stand before it. -/

namespace PolicyGate

abbrev Bytes := List UInt8

namespace Text

def toBytes (s : String) : Bytes :=
  s.toUTF8.data.toList

def ofBytes? (bs : Bytes) : Option String :=
  String.fromUTF8? ⟨bs.toArray⟩

def width (cs : List Char) : Nat :=
  cs.foldl (fun n c => n + c.utf8Size) 0

end Text

/-- The `count` lowest bytes of a number, most significant first. -/
def bigEndian (count : Nat) (n : Nat) : Bytes :=
  (List.range count).reverse.map fun i => UInt8.ofNat (n >>> (8 * i))

end PolicyGate
