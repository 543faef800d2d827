import PolicyGate.Assertion.Basic
/-! # Checking assertions

An assertion is accepted for one audience and one signer's key. What a signature library adds to the
message about a wrong signature is left out. -/

namespace PolicyGate

/-- An Ed25519 public key: 32 bytes that write a point of the curve. -/
structure VerifyingKey where
  bytes : Bytes
  isPoint : (Crypto.Ed25519.Point.decode? bytes).isSome = true
deriving DecidableEq, Repr

def VerifyingKey.ofBytes? (bytes : Bytes) : Option VerifyingKey :=
  if h : (Crypto.Ed25519.Point.decode? bytes).isSome = true then some ⟨bytes, h⟩ else none

inductive AssertionError
  | audienceMismatch (expected actual : String)
  | missingPrincipal
  | wrongSignatureLength
  | wrongSignature
deriving DecidableEq, Repr

def AssertionError.message : AssertionError → String
  | audienceMismatch expected actual =>
    "assertion audience '" ++ actual ++ "' does not match '" ++ expected ++ "'"
  | missingPrincipal => "assertion has no principal"
  | wrongSignatureLength =>
    "assertion signature verification failed: Invalid signature length (must be 64 bytes)"
  | wrongSignature => "assertion signature verification failed: signature error"

structure AssertionVerifier where
  key : VerifyingKey
  audience : String
deriving DecidableEq, Repr

def AssertionVerifier.verify (v : AssertionVerifier) (a : SignedAssertion) :
    Except AssertionError Unit :=
  if a.audience ≠ v.audience then .error (.audienceMismatch v.audience a.audience)
  else if a.principal = "" then .error .missingPrincipal
  else if a.signature.length ≠ 64 then .error .wrongSignatureLength
  else if Crypto.Ed25519.verifyStrict v.key.bytes a.payload a.signature then .ok ()
  else .error .wrongSignature

end PolicyGate
