import PolicyGate.Authorizer.Token
import PolicyGate.Text.Base64Url
import PolicyGate.Text.Blank
import PolicyGate.Text.Reasons
/-! # Credentials

A call carries its token in its metadata: base64 with the URL-safe alphabet, behind an optional word
`Bearer`. -/

namespace PolicyGate

abbrev Metadata := List (String × Bytes)

def asciiLower (s : String) : String :=
  s.map Char.toLower

namespace Metadata

def isNameChar (c : Char) : Bool :=
  c.isAlphanum || "!\"#$%&'*+-.^_\x60|~".toList.contains c

def isTextKey (key : String) : Bool :=
  key ≠ "" && !key.endsWith "-bin" && key.all isNameChar

def first? (metadata : Metadata) (key : String) : Option Bytes :=
  if isTextKey key then (metadata.find? fun (k, _) => asciiLower k = asciiLower key).map Prod.snd
  else none

end Metadata

inductive CredentialFault
  | notPrintable
  | empty
  | notBase64 (text : String)
  | undecodable (e : TokenError)
deriving DecidableEq, Repr

def CredentialFault.message (fault : CredentialFault) (reasons : Reasons := {}) : String :=
  match fault with
  | notPrintable => "value is not printable ASCII"
  | empty => "empty credential"
  | notBase64 text => "invalid base64url: " ++ reasons.base64Url text
  | undecodable e => e.message

def isPrintableByte (b : UInt8) : Bool :=
  (0x20 ≤ b && b ≤ 0x7E) || b == 0x09

def bearerWord : List Char := "Bearer ".toList

/-- The base64 text of a value: without the word before it and blanks around it. -/
def credentialText (cs : List Char) : List Char :=
  Text.trim (if bearerWord.isPrefixOf cs then cs.drop bearerWord.length else cs)

def credentialBytes (value : Bytes) : Except CredentialFault Bytes :=
  if value.all isPrintableByte then
    match credentialText (value.map fun b => Char.ofNat b.toNat) with
    | [] => .error .empty
    | c :: cs =>
      match Text.Base64Url.decode? (c :: cs) with
      | some bytes => .ok bytes
      | none => .error (.notBase64 (String.ofList (c :: cs)))
  else .error .notPrintable

def TokenScheme.readCredential {τ κ ε : Type} (scheme : TokenScheme τ κ ε) (value : Bytes) :
    Except CredentialFault τ :=
  match credentialBytes value with
  | .error fault => .error fault
  | .ok bytes =>
    match scheme.decode bytes with
    | .error e => .error (.undecodable e)
    | .ok token => .ok token

end PolicyGate
