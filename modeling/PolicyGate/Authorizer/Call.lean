import PolicyGate.Authorizer.Basic
/-! # Authorizing calls

A call is allowed when its credential holds a token that the root key vouches for, its request has facts,
the engine takes them, its assertion is genuine and fresh where one is asked for, and the engine then
allows it. The first of these that fails denies the call. -/

namespace PolicyGate

open Replay (ReplayError StoreAccess)
open Time (Instant)

variable {τ κ ε σ : Type}

def Authorizer.token (a : Authorizer κ) (scheme : TokenScheme τ κ ε) (metadata : Metadata) :
    Except Denial τ :=
  match metadata.first? a.metadataKey with
  | none => .error (.missingCredential a.metadataKey)
  | some value =>
    match scheme.readCredential value with
    | .error fault => .error (.malformedCredential fault)
    | .ok token => .ok token

/-- The facts of a call: its method, and the fields of its request unless it is a stream. Also the
warnings about fields that were dropped. -/
def Authorizer.facts (a : Authorizer κ) (method : String) :
    Option Message → Except FlattenError (List Fact) × List DropWarning
  | none => (.ok [.ofMethod method], [])
  | some request =>
    match request.flatten a.unsupportedFields with
    | (.ok fields, warnings) =>
      (.ok (.ofMethod method :: fields.entries.map fun (path, value) => .ofArgument path value),
        warnings)
    | (.error e, warnings) => (.error e, warnings)

def AssertionCheck.accept (check : AssertionCheck) (access : StoreAccess σ) (now : Instant)
    (embedded : Except EngineError (Option SignedAssertion)) (store : σ) :
    Except Denial (SignedAssertion × σ) :=
  match embedded with
  | .error e => .error (.invalidAssertion (.unreadable e))
  | .ok none => .error (.invalidAssertion .absent)
  | .ok (some assertion) =>
    match check.verifier.verify assertion with
    | .error e => .error (.invalidAssertion (.rejected e))
    | .ok () =>
      match check.freshness.check access assertion.principal assertion.nonce assertion.signedAt now
          store with
      | .error e => .error (.replayedNonce e)
      | .ok store => .ok (assertion, store)

/-- What the log says of a denial by the assertion check before the denial itself. -/
def Denial.storeEvents : Denial → List CallEvent
  | replayedNonce (.storeUnavailable reason) => [.storeFailed reason]
  | _ => []

def Outcome.denied (scheme : TokenScheme τ κ ε) (method : String) (reason : Denial)
    (log : List CallEvent) (store : σ) (engine : Option ε) : Outcome σ ε where
  verdict := .error reason
  log := log ++ reason.storeEvents ++ [.denied method reason (engine.map scheme.world)]
  store := store
  engine := engine

def TokenScheme.conclude (scheme : TokenScheme τ κ ε) (method : String) (principal : Option String)
    (log : List CallEvent) (store : σ) (engine : ε) : Outcome σ ε :=
  match scheme.allow engine with
  | (.error e, engine) => .denied scheme method (.notAuthorized e) log store (some engine)
  | (.ok (), engine) => { verdict := .ok ⟨principal⟩, log, store, engine := some engine }

def Authorizer.evaluate (a : Authorizer κ) (scheme : TokenScheme τ κ ε) (access : StoreAccess σ)
    (method : String) (now : Instant) (log : List CallEvent) (store : σ) (engine : ε) :
    Outcome σ ε :=
  match a.assertions with
  | none => scheme.conclude method none log store engine
  | some check =>
    match check.accept access now (scheme.assertion engine) store with
    | .error reason => .denied scheme method reason log store (some engine)
    | .ok (assertion, store) =>
      match scheme.addFact (.ofUser assertion.principal) engine with
      | (.error e, engine) => .denied scheme method (.notAuthorized e) log store (some engine)
      | (.ok (), engine) => scheme.conclude method (some assertion.principal) log store engine

def Authorizer.authorize (a : Authorizer κ) (scheme : TokenScheme τ κ ε) (access : StoreAccess σ)
    (metadata : Metadata) (method : String) (request : Option Message) (now : Instant) (store : σ) :
    Outcome σ ε :=
  match a.token scheme metadata with
  | .error reason => .denied scheme method reason [] store none
  | .ok token =>
    match scheme.start token a.root with
    | .error e => .denied scheme method (.untrustedCredential e) [] store none
    | .ok engine =>
      match a.facts method request with
      | (.error e, warnings) =>
        { verdict := .error (.underivable e)
          log := warnings.map .dropped ++ [.underivable method e]
          store
          engine := some engine }
      | (.ok facts, warnings) =>
        let log := warnings.map .dropped
        match scheme.addFacts facts engine with
        | (.error e, engine) => .denied scheme method (.notAuthorized e) log store (some engine)
        | (.ok (), engine) => a.evaluate scheme access method now log store engine

end PolicyGate
