import PolicyGate.Crypto.Ed25519
import PolicyGate.Data.Value
import PolicyGate.Text.Escaped
import PolicyGate.Time.Rfc3339
/-! # Signed assertions

An assertion vouches for a principal to one audience. Its signature covers a payload in which the length
of each part stands in front of the part. Two assertions with one payload differ in their signature
alone, unless a part is longer than four bytes can count. -/

namespace PolicyGate

open Time (Instant)

/-- A signed statement that a principal makes a call. -/
structure SignedAssertion where
  principal : String
  userId : String
  audience : String
  nonce : Bytes
  signedAt : Instant
  signature : Bytes
deriving DecidableEq, Repr

namespace SignedAssertion

def domainTag : String := "warden-signed-assertion-v1"

def lengthPrefixed (part : Bytes) : Bytes :=
  bigEndian 4 part.length ++ part

def signedBytes (n : Int) : Bytes :=
  bigEndian 8 (n % UInt64.size).toNat

def payload (a : SignedAssertion) : Bytes :=
  lengthPrefixed (Text.toBytes domainTag) ++ lengthPrefixed (Text.toBytes a.principal) ++
    lengthPrefixed (Text.toBytes a.userId) ++ lengthPrefixed (Text.toBytes a.audience) ++
    lengthPrefixed a.nonce ++ signedBytes a.signedAt.seconds ++ bigEndian 4 a.signedAt.nanos

def signedWith (seed : Bytes) (a : SignedAssertion) : SignedAssertion :=
  { a with signature := Crypto.Ed25519.sign seed a.payload }

def toData (a : SignedAssertion) : Data.Value :=
  let bytes (bs : Bytes) := Data.Value.list (bs.map fun b => .integer b.toNat)
  .record [("principal", .text a.principal), ("user_id", .text a.userId),
    ("audience", .text a.audience), ("nonce", bytes a.nonce), ("signed_at", .text a.signedAt.text),
    ("signature", bytes a.signature)]

def logText (a : SignedAssertion) : String :=
  "SignedAssertion \x7b principal: " ++ Text.Escaped.text a.principal ++ ", user_id: " ++
    Text.Escaped.text a.userId ++ ", audience: " ++ Text.Escaped.text a.audience ++
    ", signed_at: " ++ a.signedAt.text ++ ", .. \x7d"

end SignedAssertion
end PolicyGate
