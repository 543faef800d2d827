import PolicyGate.Assertion.Basic
import PolicyGate.Fact.Basic
/-! # Tokens and rule engines

Capability tokens and the engine that evaluates their rules are left open: an authorizer reaches them
through the functions of a token scheme and nothing else. -/

namespace PolicyGate

inductive TokenError
  | malformed (reason : String)
  | invalidPublicKey (reason : String)
  | untrusted (reason : String)
deriving DecidableEq, Repr

def TokenError.message : TokenError → String
  | malformed reason => "token could not be decoded: " ++ reason
  | invalidPublicKey reason => "invalid public key: " ++ reason
  | untrusted reason =>
    "token signature chain does not verify against the root key: " ++ reason

inductive EngineError
  | denied (reason : String)
  | invalidFact (reason : String)
  | failed (reason : String)
deriving DecidableEq, Repr

def EngineError.message : EngineError → String
  | denied reason => "verification failed: " ++ reason
  | invalidFact reason => "fact rejected by the engine: " ++ reason
  | failed reason => "rule engine error: " ++ reason

/-- A kind of tokens `τ` under root keys `κ`, with an engine whose states are `ε`. A step of the engine
also gives the state after it, whether it succeeds or not. -/
structure TokenScheme (τ κ ε : Type) where
  /-- Reads a token, which is not trusted yet. -/
  decode : Bytes → Except TokenError τ
  publicKey : Bytes → Except TokenError κ
  /-- Checks a token against the root key, and gives an engine loaded with the token's rules. -/
  start : τ → κ → Except TokenError ε
  addFact : Fact → ε → Except EngineError Unit × ε
  /-- Runs every caveat; this succeeds if the call is allowed. -/
  allow : ε → Except EngineError Unit × ε
  world : ε → String
  assertion : ε → Except EngineError (Option SignedAssertion)

/-- Gives the engine facts in their order, up to one that it refuses. -/
def TokenScheme.addFacts {τ κ ε : Type} (scheme : TokenScheme τ κ ε) :
    List Fact → ε → Except EngineError Unit × ε
  | [], engine => (.ok (), engine)
  | fact :: facts, engine =>
    match scheme.addFact fact engine with
    | (.ok (), engine) => scheme.addFacts facts engine
    | (.error e, engine) => (.error e, engine)

end PolicyGate
