import PolicyGate.Authorizer.Handling

/-!
# The course of a call

Where a call can end, and what has happened before: `Authorizer.Ends` has one rule for each exit of an
authorizer. Every call has an end (`exists_ends`), and its verdict and the store it leaves are those of
the end (`Ends.outcome_eq`).
-/

namespace PolicyGate

open Replay (ReplayError StoreAccess)
open Time (Instant)

/-- A call as an authorizer sees it. Of a stream no request is known. -/
structure Call where
  metadata : Metadata
  method : String
  request : Option Message
  now : Instant

variable {τ κ ε σ : Type}

/-! ## Facts for an engine -/

namespace TokenScheme

/-- The engine takes the facts one after the other, and nothing else between them. -/
inductive Takes (scheme : TokenScheme τ κ ε) : ε → List Fact → ε → Prop
  | nil (engine : ε) : Takes scheme engine [] engine
  | cons {fact : Fact} {facts : List Fact} {engine next last : ε}
      (taken : scheme.addFact fact engine = (.ok (), next)) (rest : Takes scheme next facts last) :
      Takes scheme engine (fact :: facts) last

inductive Refuses (scheme : TokenScheme τ κ ε) : ε → List Fact → EngineError → Prop
  | here {fact : Fact} {facts : List Fact} {engine last : ε} {e : EngineError}
      (refused : scheme.addFact fact engine = (.error e, last)) :
      Refuses scheme engine (fact :: facts) e
  | later {fact : Fact} {facts : List Fact} {engine next : ε} {e : EngineError}
      (taken : scheme.addFact fact engine = (.ok (), next)) (rest : Refuses scheme next facts e) :
      Refuses scheme engine (fact :: facts) e

variable {scheme : TokenScheme τ κ ε} {engine last : ε} {facts : List Fact}

theorem Takes.addFacts (h : scheme.Takes engine facts last) :
    scheme.addFacts facts engine = (.ok (), last) := by
  induction h with
  | nil => rfl
  | cons taken _ ih => rw [TokenScheme.addFacts, taken]; exact ih

theorem Refuses.addFacts {e : EngineError} (h : scheme.Refuses engine facts e) :
    ∃ last, scheme.addFacts facts engine = (.error e, last) := by
  induction h with
  | here refused => exact ⟨_, by rw [TokenScheme.addFacts, refused]⟩
  | later taken _ ih =>
    obtain ⟨last, ih⟩ := ih
    exact ⟨last, by rw [TokenScheme.addFacts, taken]; exact ih⟩

theorem takes_or_refuses (scheme : TokenScheme τ κ ε) (facts : List Fact) (engine : ε) :
    (∃ last, scheme.Takes engine facts last) ∨ ∃ e, scheme.Refuses engine facts e := by
  induction facts generalizing engine with
  | nil => exact .inl ⟨engine, .nil engine⟩
  | cons fact facts ih =>
    rcases h : scheme.addFact fact engine with ⟨_ | _, next⟩
    · exact .inr ⟨_, .here h⟩
    · rcases ih next with ⟨last, rest⟩ | ⟨e, rest⟩
      · exact .inl ⟨last, .cons h rest⟩
      · exact .inr ⟨e, .later h rest⟩

theorem takes_singleton {fact : Fact} :
    scheme.Takes engine [fact] last ↔ scheme.addFact fact engine = (.ok (), last) := by
  constructor
  · intro h
    cases h with
    | cons taken rest => cases rest; exact taken
  · intro h
    exact .cons h (.nil last)

end TokenScheme

/-! ## What a call has to bring -/

/-- The assertion is for the audience and for a principal, and is signed with the key. -/
structure AssertionVerifier.Confirms (v : AssertionVerifier) (s : SignedAssertion) : Prop where
  audience : s.audience = v.audience
  principal : s.principal ≠ ""
  length : s.signature.length = 64
  signed : Crypto.Ed25519.verifyStrict v.key.bytes s.payload s.signature = true

theorem AssertionVerifier.verify_eq_ok {v : AssertionVerifier} {s : SignedAssertion} :
    v.verify s = .ok () ↔ v.Confirms s := by
  unfold AssertionVerifier.verify
  constructor
  · intro h
    split at h
    · cases h
    next ha =>
    split at h
    · cases h
    next hp =>
    split at h
    · cases h
    next hl =>
    split at h
    · next hs => exact ⟨Decidable.not_not.mp ha, hp, Decidable.not_not.mp hl, hs⟩
    · cases h
  · rintro ⟨ha, hp, hl, hs⟩
    rw [if_neg (Decidable.not_not.mpr ha), if_neg hp, if_neg (Decidable.not_not.mpr hl), if_pos hs]

def AssertionCheck.Accepts (check : AssertionCheck)
    (embedded : Except EngineError (Option SignedAssertion)) (s : SignedAssertion) : Prop :=
  embedded = .ok (some s) ∧ check.verifier.Confirms s

inductive AssertionCheck.Rejects (check : AssertionCheck) :
    Except EngineError (Option SignedAssertion) → AssertionFault → Prop
  | unreadable (e : EngineError) : Rejects check (.error e) (.unreadable e)
  | absent : Rejects check (.ok none) .absent
  | rejected {s : SignedAssertion} {e : AssertionError} (h : check.verifier.verify s = .error e) :
      Rejects check (.ok (some s)) (.rejected e)

def ambientFacts (method : String) (args : List (String × Atom)) : List Fact :=
  .ofMethod method :: args.map fun (path, value) => .ofArgument path value

namespace Authorizer

variable (a : Authorizer κ) (scheme : TokenScheme τ κ ε) (access : StoreAccess σ)

/-- The call carries a credential with a token that the root key vouches for, and `engine` is loaded with
the rules of the token. -/
def Trusts (c : Call) (engine : ε) : Prop :=
  ∃ value bytes token, c.metadata.first? a.metadataKey = some value ∧
    credentialBytes value = .ok bytes ∧ scheme.decode bytes = .ok token ∧
    scheme.start token a.root = .ok engine

def Derives (c : Call) (args : List (String × Atom)) : Prop :=
  match c.request with
  | none => args = []
  | some request => ∃ fields, (request.flatten a.unsupportedFields).1 = .ok fields ∧ args = fields.entries

def Informs (c : Call) (engine : ε) : Prop :=
  ∃ start args, a.Trusts scheme c start ∧ a.Derives c args ∧
    scheme.Takes start (ambientFacts c.method args) engine

/-- The engine of the call hands out an assertion that counts and is fresh, and `store'` is the store with
its nonce. -/
structure Vouches (check : AssertionCheck) (store : σ) (c : Call) (engine : ε) (s : SignedAssertion)
    (store' : σ) : Prop where
  asked : a.assertions = some check
  informed : a.Informs scheme c engine
  genuine : check.Accepts (scheme.assertion engine) s
  fresh : check.freshness.check access s.principal s.nonce s.signedAt c.now store = .ok store'

/-- The engine knows all it has to, and is to decide. -/
inductive Ready (store : σ) (c : Call) : ε → Option SignedAssertion → σ → Prop
  | plain {engine : ε} (off : a.assertions = none) (informed : a.Informs scheme c engine) :
      Ready store c engine none store
  | vouched {check : AssertionCheck} {engine last : ε} {s : SignedAssertion} {store' : σ}
      (vouched : a.Vouches scheme access check store c engine s store')
      (told : scheme.addFact (.ofUser s.principal) engine = (.ok (), last)) :
      Ready store c last (some s) store'

end Authorizer

/-! ## Ends -/

/-- Where a call ends: the stage that denies it, with the reason, or behind the last stage. An assertion
whose nonce has been recorded is told. -/
inductive Ending
  | missingCredential
  | malformedCredential (fault : CredentialFault)
  | untrustedCredential (e : TokenError)
  | underivable (e : FlattenError)
  | factRefused (e : EngineError)
  | invalidAssertion (fault : AssertionFault)
  | notFresh (e : ReplayError)
  | userRefused (s : SignedAssertion) (e : EngineError)
  | disallowed (s : Option SignedAssertion) (e : EngineError)
  | allowed (s : Option SignedAssertion)

namespace Ending

def verdict (key : String) : Ending → Except Denial Authorized
  | missingCredential => .error (.missingCredential key)
  | malformedCredential fault => .error (.malformedCredential fault)
  | untrustedCredential e => .error (.untrustedCredential e)
  | underivable e => .error (.underivable e)
  | factRefused e => .error (.notAuthorized e)
  | invalidAssertion fault => .error (.invalidAssertion fault)
  | notFresh e => .error (.replayedNonce e)
  | userRefused _ e => .error (.notAuthorized e)
  | disallowed _ e => .error (.notAuthorized e)
  | allowed s => .ok ⟨s.map SignedAssertion.principal⟩

/-- The assertion whose nonce has been recorded. -/
def spent? : Ending → Option SignedAssertion
  | userRefused s _ => some s
  | disallowed s _ | allowed s => s
  | missingCredential | malformedCredential _ | untrustedCredential _ | underivable _ | factRefused _
  | invalidAssertion _ | notFresh _ => none

end Ending

namespace Authorizer

inductive Ends (a : Authorizer κ) (scheme : TokenScheme τ κ ε) (access : StoreAccess σ) (store : σ)
    (c : Call) : Ending → σ → Prop
  | missingCredential (h : c.metadata.first? a.metadataKey = none) :
      Ends a scheme access store c .missingCredential store
  | malformedCredential {value : Bytes} {fault : CredentialFault}
      (carried : c.metadata.first? a.metadataKey = some value) (h : credentialBytes value = .error fault) :
      Ends a scheme access store c (.malformedCredential fault) store
  | undecodable {value bytes : Bytes} {e : TokenError}
      (carried : c.metadata.first? a.metadataKey = some value) (spelled : credentialBytes value = .ok bytes)
      (h : scheme.decode bytes = .error e) :
      Ends a scheme access store c (.malformedCredential (.undecodable e)) store
  | untrustedCredential {value bytes : Bytes} {token : τ} {e : TokenError}
      (carried : c.metadata.first? a.metadataKey = some value) (spelled : credentialBytes value = .ok bytes)
      (decoded : scheme.decode bytes = .ok token) (h : scheme.start token a.root = .error e) :
      Ends a scheme access store c (.untrustedCredential e) store
  | underivable {start : ε} {request : Message} {e : FlattenError} (trusted : a.Trusts scheme c start)
      (known : c.request = some request) (h : (request.flatten a.unsupportedFields).1 = .error e) :
      Ends a scheme access store c (.underivable e) store
  | factRefused {start : ε} {args : List (String × Atom)} {e : EngineError}
      (trusted : a.Trusts scheme c start) (derived : a.Derives c args)
      (h : scheme.Refuses start (ambientFacts c.method args) e) :
      Ends a scheme access store c (.factRefused e) store
  | invalidAssertion {check : AssertionCheck} {engine : ε} {fault : AssertionFault}
      (asked : a.assertions = some check) (informed : a.Informs scheme c engine)
      (h : check.Rejects (scheme.assertion engine) fault) :
      Ends a scheme access store c (.invalidAssertion fault) store
  | notFresh {check : AssertionCheck} {engine : ε} {s : SignedAssertion} {e : ReplayError}
      (asked : a.assertions = some check) (informed : a.Informs scheme c engine)
      (genuine : check.Accepts (scheme.assertion engine) s)
      (h : check.freshness.check access s.principal s.nonce s.signedAt c.now store = .error e) :
      Ends a scheme access store c (.notFresh e) store
  | userRefused {check : AssertionCheck} {engine last : ε} {s : SignedAssertion} {e : EngineError}
      {store' : σ} (vouched : a.Vouches scheme access check store c engine s store')
      (h : scheme.addFact (.ofUser s.principal) engine = (.error e, last)) :
      Ends a scheme access store c (.userRefused s e) store'
  | disallowed {engine last : ε} {s : Option SignedAssertion} {e : EngineError} {store' : σ}
      (ready : a.Ready scheme access store c engine s store')
      (h : scheme.allow engine = (.error e, last)) :
      Ends a scheme access store c (.disallowed s e) store'
  | allowed {engine last : ε} {s : Option SignedAssertion} {store' : σ}
      (ready : a.Ready scheme access store c engine s store') (h : scheme.allow engine = (.ok (), last)) :
      Ends a scheme access store c (.allowed s) store'

variable (a : Authorizer κ) (scheme : TokenScheme τ κ ε) (access : StoreAccess σ)

def outcome (store : σ) (c : Call) : Outcome σ ε :=
  a.authorize scheme access c.metadata c.method c.request c.now store

variable {a : Authorizer κ} {scheme : TokenScheme τ κ ε} {access : StoreAccess σ} {store store' : σ}
  {c : Call} {engine : ε}

/-! ## The outcome of a call, stage by stage -/

theorem token_of_carried {value : Bytes} (carried : c.metadata.first? a.metadataKey = some value) :
    a.token scheme c.metadata = (scheme.readCredential value).mapError .malformedCredential := by
  unfold token
  simp only [carried]
  cases scheme.readCredential value <;> rfl

theorem readCredential_of_spelled {value bytes : Bytes} (spelled : credentialBytes value = .ok bytes) :
    scheme.readCredential value = (scheme.decode bytes).mapError .undecodable := by
  unfold TokenScheme.readCredential
  simp only [spelled]
  cases scheme.decode bytes <;> rfl

theorem outcome_of_trusts (h : a.Trusts scheme c engine) :
    a.outcome scheme access store c =
      match a.facts c.method c.request with
      | (.error e, warnings) =>
        { verdict := .error (.underivable e)
          log := warnings.map .dropped ++ [.underivable c.method e]
          store
          engine := some engine }
      | (.ok facts, warnings) =>
        match scheme.addFacts facts engine with
        | (.error e, engine) =>
          .denied scheme c.method (.notAuthorized e) (warnings.map .dropped) store (some engine)
        | (.ok (), engine) =>
          a.evaluate scheme access c.method c.now (warnings.map .dropped) store engine := by
  obtain ⟨value, bytes, token, carried, spelled, decoded, started⟩ := h
  have read : a.token scheme c.metadata = .ok token := by
    rw [token_of_carried carried, readCredential_of_spelled spelled, decoded]
    rfl
  rcases derived : a.facts c.method c.request with ⟨_ | facts, warnings⟩
  · simp only [outcome, authorize, read, started, derived]
  · rcases added : scheme.addFacts facts engine with ⟨_ | _, next⟩ <;>
      simp only [outcome, authorize, read, started, derived, added]

theorem facts_of_derives {args : List (String × Atom)} (h : a.Derives c args) :
    (a.facts c.method c.request).1 = .ok (ambientFacts c.method args) := by
  unfold Derives at h
  unfold facts
  cases hr : c.request with
  | none =>
    rw [hr] at h
    subst h
    rfl
  | some request =>
    rw [hr] at h
    obtain ⟨fields, hf, rfl⟩ := h
    rcases hw : request.flatten a.unsupportedFields with ⟨result, warnings⟩
    rw [hw] at hf
    cases hf
    simp only [hw, ambientFacts]

theorem outcome_of_informs (access : StoreAccess σ) (h : a.Informs scheme c engine) :
    ∃ log, ∀ store, a.outcome scheme access store c =
      a.evaluate scheme access c.method c.now log store engine := by
  obtain ⟨start, args, trusted, derived, taken⟩ := h
  have facts := facts_of_derives derived
  rcases hf : a.facts c.method c.request with ⟨result, warnings⟩
  rw [hf] at facts
  cases facts
  refine ⟨warnings.map .dropped, fun store => ?_⟩
  rw [outcome_of_trusts trusted, hf]
  simp only [taken.addFacts]

theorem accept_of_accepts {check : AssertionCheck} {s : SignedAssertion}
    {embedded : Except EngineError (Option SignedAssertion)} (h : check.Accepts embedded s) (now : Instant)
    (store : σ) :
    check.accept access now embedded store =
      match check.freshness.check access s.principal s.nonce s.signedAt now store with
      | .error e => .error (.replayedNonce e)
      | .ok store => .ok (s, store) := by
  obtain ⟨rfl, confirms⟩ := h
  cases fresh : check.freshness.check access s.principal s.nonce s.signedAt now store <;>
    simp only [AssertionCheck.accept, AssertionVerifier.verify_eq_ok.mpr confirms, fresh]

theorem accept_of_rejects {check : AssertionCheck} {fault : AssertionFault}
    {embedded : Except EngineError (Option SignedAssertion)} (h : check.Rejects embedded fault)
    (now : Instant) (store : σ) :
    check.accept access now embedded store = .error (.invalidAssertion fault) := by
  cases h with
  | unreadable => rfl
  | absent => rfl
  | rejected h => simp only [AssertionCheck.accept, h]

theorem outcome_of_vouches {check : AssertionCheck} {s : SignedAssertion}
    (h : a.Vouches scheme access check store c engine s store') :
    ∃ log, a.outcome scheme access store c =
      match scheme.addFact (.ofUser s.principal) engine with
      | (.error e, engine) => .denied scheme c.method (.notAuthorized e) log store' (some engine)
      | (.ok (), engine) => scheme.conclude c.method (some s.principal) log store' engine := by
  obtain ⟨asked, informed, genuine, fresh⟩ := h
  obtain ⟨log, run⟩ := outcome_of_informs access informed
  refine ⟨log, ?_⟩
  rw [run]
  rcases told : scheme.addFact (.ofUser s.principal) engine with ⟨_ | _, last⟩ <;>
    simp only [evaluate, asked, accept_of_accepts genuine, fresh, told]

theorem outcome_of_ready {s : Option SignedAssertion} (h : a.Ready scheme access store c engine s store') :
    ∃ log, a.outcome scheme access store c =
      scheme.conclude c.method (s.map SignedAssertion.principal) log store' engine := by
  cases h with
  | plain off informed =>
    obtain ⟨log, run⟩ := outcome_of_informs access informed
    refine ⟨log, ?_⟩
    rw [run]
    simp only [evaluate, off]
    rfl
  | vouched vouched told =>
    obtain ⟨log, run⟩ := outcome_of_vouches vouched
    refine ⟨log, ?_⟩
    rw [run]
    simp only [told]
    rfl

theorem Ends.outcome_eq {ending : Ending} (h : a.Ends scheme access store c ending store') :
    (a.outcome scheme access store c).verdict = ending.verdict a.metadataKey ∧
      (a.outcome scheme access store c).store = store' := by
  cases h with
  | missingCredential h => simp [outcome, authorize, token, h, Outcome.denied, Ending.verdict]
  | @malformedCredential value fault carried h =>
    have read : a.token scheme c.metadata = .error (.malformedCredential fault) := by
      rw [token_of_carried carried, TokenScheme.readCredential, h]
      rfl
    simp [outcome, authorize, read, Outcome.denied, Ending.verdict]
  | @undecodable value bytes e carried spelled h =>
    have read : a.token scheme c.metadata = .error (.malformedCredential (.undecodable e)) := by
      rw [token_of_carried carried, readCredential_of_spelled spelled, h]
      rfl
    simp [outcome, authorize, read, Outcome.denied, Ending.verdict]
  | @untrustedCredential value bytes token e carried spelled decoded h =>
    have read : a.token scheme c.metadata = .ok token := by
      rw [token_of_carried carried, readCredential_of_spelled spelled, decoded]
      rfl
    simp [outcome, authorize, read, h, Outcome.denied, Ending.verdict]
  | @underivable start request e trusted known h =>
    rw [outcome_of_trusts trusted]
    rcases hw : request.flatten a.unsupportedFields with ⟨result, warnings⟩
    rw [hw] at h
    cases h
    simp [facts, known, hw, Ending.verdict]
  | factRefused trusted derived h =>
    obtain ⟨last, refused⟩ := h.addFacts
    have facts := facts_of_derives derived
    rcases hf : a.facts c.method c.request with ⟨result, warnings⟩
    rw [hf] at facts
    cases facts
    rw [outcome_of_trusts trusted, hf]
    simp [refused, Outcome.denied, Ending.verdict]
  | invalidAssertion asked informed h =>
    obtain ⟨log, run⟩ := outcome_of_informs access informed
    rw [run]
    simp [evaluate, asked, accept_of_rejects h, Outcome.denied, Ending.verdict]
  | notFresh asked informed genuine h =>
    obtain ⟨log, run⟩ := outcome_of_informs access informed
    rw [run]
    simp [evaluate, asked, accept_of_accepts genuine, h, Outcome.denied, Ending.verdict]
  | userRefused vouched h =>
    obtain ⟨log, run⟩ := outcome_of_vouches vouched
    rw [run]
    simp [h, Outcome.denied, Ending.verdict]
  | disallowed ready h =>
    obtain ⟨log, run⟩ := outcome_of_ready ready
    rw [run]
    simp [TokenScheme.conclude, h, Outcome.denied, Ending.verdict]
  | allowed ready h =>
    obtain ⟨log, run⟩ := outcome_of_ready ready
    rw [run]
    simp [TokenScheme.conclude, h, Ending.verdict]

/-! ## Every call ends -/

variable (a scheme access store c)

/-- A call ends before its engine has the facts about it, or the engine is told all of them. -/
theorem ends_or_informs :
    (∃ ending, a.Ends scheme access store c ending store) ∨ ∃ engine, a.Informs scheme c engine := by
  cases carried : c.metadata.first? a.metadataKey with
  | none => exact .inl ⟨_, .missingCredential carried⟩
  | some value =>
  cases spelled : credentialBytes value with
  | error fault => exact .inl ⟨_, .malformedCredential carried spelled⟩
  | ok bytes =>
  cases decoded : scheme.decode bytes with
  | error e => exact .inl ⟨_, .undecodable carried spelled decoded⟩
  | ok token =>
  cases started : scheme.start token a.root with
  | error e => exact .inl ⟨_, .untrustedCredential carried spelled decoded started⟩
  | ok start =>
  have trusted : a.Trusts scheme c start := ⟨value, bytes, token, carried, spelled, decoded, started⟩
  have withArgs : ∀ args, a.Derives c args →
      (∃ ending, a.Ends scheme access store c ending store) ∨ ∃ engine, a.Informs scheme c engine := by
    intro args derived
    rcases scheme.takes_or_refuses (ambientFacts c.method args) start with ⟨engine, taken⟩ | ⟨e, refused⟩
    · exact .inr ⟨engine, start, args, trusted, derived, taken⟩
    · exact .inl ⟨_, .factRefused trusted derived refused⟩
  cases known : c.request with
  | none => exact withArgs [] (by rw [Derives, known])
  | some request =>
    cases flattened : (request.flatten a.unsupportedFields).1 with
    | error e => exact .inl ⟨_, .underivable trusted known flattened⟩
    | ok fields => exact withArgs fields.entries (by rw [Derives, known]; exact ⟨fields, flattened, rfl⟩)

variable {a scheme access store c}

theorem Ready.exists_ends {s : Option SignedAssertion}
    (ready : a.Ready scheme access store c engine s store') :
    ∃ ending, a.Ends scheme access store c ending store' := by
  rcases decided : scheme.allow engine with ⟨_ | _, last⟩
  · exact ⟨_, .disallowed ready decided⟩
  · exact ⟨_, .allowed ready decided⟩

theorem accepts_or_rejects (check : AssertionCheck)
    (embedded : Except EngineError (Option SignedAssertion)) :
    (∃ s, check.Accepts embedded s) ∨ ∃ fault, check.Rejects embedded fault := by
  rcases embedded with e | _ | s
  · exact .inr ⟨_, .unreadable e⟩
  · exact .inr ⟨_, .absent⟩
  · cases verified : check.verifier.verify s with
    | error e => exact .inr ⟨_, .rejected verified⟩
    | ok => exact .inl ⟨s, rfl, AssertionVerifier.verify_eq_ok.mp verified⟩

variable (a scheme access store c)

theorem exists_ends : ∃ ending store', a.Ends scheme access store c ending store' := by
  rcases a.ends_or_informs scheme access store c with ⟨ending, h⟩ | ⟨engine, informed⟩
  · exact ⟨ending, store, h⟩
  cases asked : a.assertions with
  | none =>
    have ready : a.Ready scheme access store c engine none store := .plain asked informed
    obtain ⟨ending, h⟩ := ready.exists_ends
    exact ⟨ending, store, h⟩
  | some check =>
  rcases accepts_or_rejects check (scheme.assertion engine) with ⟨s, genuine⟩ | ⟨fault, rejected⟩
  · cases fresh : check.freshness.check access s.principal s.nonce s.signedAt c.now store with
    | error e => exact ⟨_, _, .notFresh asked informed genuine fresh⟩
    | ok store' =>
    have vouched : a.Vouches scheme access check store c engine s store' := ⟨asked, informed, genuine, fresh⟩
    rcases told : scheme.addFact (.ofUser s.principal) engine with ⟨_ | _, last⟩
    · exact ⟨_, _, .userRefused vouched told⟩
    · obtain ⟨ending, h⟩ := (Ready.vouched vouched told).exists_ends
      exact ⟨ending, store', h⟩
  · exact ⟨_, _, .invalidAssertion asked informed rejected⟩

end Authorizer
end PolicyGate
