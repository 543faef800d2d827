import PolicyGate.Demo.Service
import PolicyGate.Proofs.Authorizer.Mediation

/-!
# What callers of the demo service learn

A caller whose credential is not trusted gets one answer, whatever is asked for and whenever. Errors other
than that answer go to callers with a trusted token only, and the handler's own error to permitted calls
only: `Request.serve_hides`.
-/

namespace PolicyGate

open Replay (StoreAccess)
open Time (Instant)

variable {τ κ ε σ : Type}

theorem Denial.status_eq_iff {reason : Denial} {status : Status} :
    reason.status = status ↔
      (status = ⟨.permissionDenied, "not authorized"⟩ ∧ ∀ e, reason ≠ .underivable e) ∨
        (status = ⟨.internal, "failed to process request"⟩ ∧ ∃ e, reason = .underivable e) := by
  rw [eq_comm]
  cases reason <;> simp [Denial.status, Status.notAuthorized]

namespace Authorizer

/-- The credential is missing or malformed, or the root key does not vouch for its token. -/
inductive Distrusts (a : Authorizer κ) (scheme : TokenScheme τ κ ε) (metadata : Metadata) : Prop
  | missing (h : metadata.first? a.metadataKey = none)
  | malformed {value : Bytes} {fault : CredentialFault}
      (carried : metadata.first? a.metadataKey = some value) (h : scheme.readCredential value = .error fault)
  | unsigned {value : Bytes} {token : τ} {e : TokenError}
      (carried : metadata.first? a.metadataKey = some value) (read : scheme.readCredential value = .ok token)
      (h : scheme.start token a.root = .error e)

variable {a : Authorizer κ} {scheme : TokenScheme τ κ ε} {access : StoreAccess σ} {store : σ} {c : Call}

theorem Distrusts.verdict (h : a.Distrusts scheme c.metadata) (access : StoreAccess σ) (store : σ) :
    ∃ reason, (a.outcome scheme access store c).verdict = .error reason ∧
      reason.status = .notAuthorized := by
  cases h with
  | missing h =>
    have read : a.token scheme c.metadata = .error (.missingCredential a.metadataKey) := by
      simp only [token, h]
    exact ⟨.missingCredential a.metadataKey, by simp only [outcome, authorize, read, Outcome.denied], rfl⟩
  | @malformed value fault carried h =>
    have read : a.token scheme c.metadata = .error (.malformedCredential fault) := by
      rw [token_of_carried carried, h]
      rfl
    exact ⟨.malformedCredential fault, by simp only [outcome, authorize, read, Outcome.denied], rfl⟩
  | @unsigned value token e carried decoded h =>
    have read : a.token scheme c.metadata = .ok token := by
      rw [token_of_carried carried, decoded]
      rfl
    exact ⟨.untrustedCredential e, by simp only [outcome, authorize, read, h, Outcome.denied], rfl⟩

/-- A denial for want of facts, which the caller is told of, takes a trusted token. -/
theorem outcome_eq_underivable {e : FlattenError} :
    (a.outcome scheme access store c).verdict = .error (.underivable e) ↔
      (∃ engine, a.Trusts scheme c engine) ∧
        ∃ request, c.request = some request ∧ (request.flatten a.unsupportedFields).1 = .error e := by
  constructor
  · intro h
    obtain ⟨ending, store', ends⟩ := a.exists_ends scheme access store c
    rw [ends.outcome_eq.1] at h
    cases ends with
    | underivable trusted known flattened =>
      cases h
      exact ⟨⟨_, trusted⟩, _, known, flattened⟩
    | _ => cases h
  · rintro ⟨⟨engine, trusted⟩, request, known, flattened⟩
    have ends : a.Ends scheme access store c (.underivable e) store := .underivable trusted known flattened
    exact ends.outcome_eq.1

end Authorizer

namespace Demo

/-- What the authorizer is told of a request: all of it, but nothing of a request to watch. -/
def Request.known : Request → Option Message
  | watch _ => none
  | r => some r.message

def Request.call (r : Request) (metadata : Metadata) (now : Instant) : Call :=
  ⟨metadata, r.method, r.known, now⟩

def Request.answer (r : Request) : Except Denial Authorized → Except Status Reply
  | .error reason => .error reason.status
  | .ok _ => r.handle

theorem Request.serve_eq (r : Request) (a : Authorizer κ) (scheme : TokenScheme τ κ ε)
    (access : StoreAccess σ) (metadata : Metadata) (now : Instant) (store : σ) :
    (r.serve a scheme access metadata now store).1 =
      r.answer (a.outcome scheme access store (r.call metadata now)).verdict := by
  have run : (r.serve a scheme access metadata now store).1 =
      (a.intercept (m := Id) scheme access r.method r.known ⟨metadata, r⟩ (fun i => i.payload.handle) now
        store).1 := by
    cases r <;> rfl
  have decided : (a.authorize scheme access metadata r.method r.known now store).verdict =
      (a.outcome scheme access store (r.call metadata now)).verdict := rfl
  rw [run, Authorizer.intercept]
  cases h : (a.outcome scheme access store (r.call metadata now)).verdict <;> simp only [decided, h] <;> rfl

theorem Request.handle_eq_error {r : Request} {status : Status} :
    r.handle = .error status ↔
      status = ⟨.invalidArgument, "Missing entity"⟩ ∧ ∃ env, r = .update env none := by
  constructor
  · intro h
    cases r with
    | update env entity =>
      cases entity with
      | none =>
        cases h
        exact ⟨rfl, env, rfl⟩
      | some entity => cases h
    | _ => cases h
  · rintro ⟨rfl, env, rfl⟩
    rfl

theorem Request.answer_eq_error {r : Request} {verdict : Except Denial Authorized} {status : Status} :
    r.answer verdict = .error status ↔
      (status = ⟨.permissionDenied, "not authorized"⟩ ∧
        ∃ reason, verdict = .error reason ∧ ∀ e, reason ≠ .underivable e) ∨
      (status = ⟨.internal, "failed to process request"⟩ ∧ ∃ e, verdict = .error (.underivable e)) ∨
      (status = ⟨.invalidArgument, "Missing entity"⟩ ∧ (∃ principal, verdict = .ok ⟨principal⟩) ∧
        ∃ env, r = .update env none) := by
  cases verdict with
  | error reason => simp [Request.answer, Denial.status_eq_iff]
  | ok authorized =>
    have allowed : ∃ principal, authorized = ⟨principal⟩ := ⟨authorized.principal, rfl⟩
    simp [Request.answer, Request.handle_eq_error, allowed]

/-- Any two calls whose credentials are missing, malformed or not vouched for by the root key get the same
answer, whatever they ask for and whenever. An error of a call is that answer for each denial but one. It
is another for a call whose token is trusted and whose request has no facts, and for a permitted update
without an entity; there are no other errors. -/
theorem Request.serve_hides (a : Authorizer κ) (scheme : TokenScheme τ κ ε) (access : StoreAccess σ) :
    (∀ (r r' : Request) (metadata metadata' : Metadata) (now now' : Instant) (store store' : σ),
      a.Distrusts scheme metadata → a.Distrusts scheme metadata' →
      (r.serve a scheme access metadata now store).1 = .error .notAuthorized ∧
        (r'.serve a scheme access metadata' now' store').1 =
          (r.serve a scheme access metadata now store).1) ∧
    ∀ (r : Request) (metadata : Metadata) (now : Instant) (store : σ) (status : Status),
      let c := r.call metadata now
      (r.serve a scheme access metadata now store).1 = .error status ↔
        (status = ⟨.permissionDenied, "not authorized"⟩ ∧ ∃ reason,
          (a.outcome scheme access store c).verdict = .error reason ∧ ∀ e, reason ≠ .underivable e) ∨
        (status = ⟨.internal, "failed to process request"⟩ ∧ (∃ engine, a.Trusts scheme c engine) ∧
          ∃ request e, c.request = some request ∧ (request.flatten a.unsupportedFields).1 = .error e) ∨
        (status = ⟨.invalidArgument, "Missing entity"⟩ ∧
          (∃ principal, a.Permits scheme access store c principal) ∧ ∃ env, r = .update env none) := by
  constructor
  · intro r r' metadata metadata' now now' store store' distrusted distrusted'
    have answer (r : Request) {metadata : Metadata} (now : Instant) (store : σ)
        (h : a.Distrusts scheme metadata) :
        (r.serve a scheme access metadata now store).1 = .error .notAuthorized := by
      obtain ⟨reason, verdict, hidden⟩ :=
        Authorizer.Distrusts.verdict (c := r.call metadata now) h access store
      rw [r.serve_eq, verdict, Request.answer, hidden]
    rw [answer r now store distrusted, answer r' now' store' distrusted']
    exact ⟨rfl, rfl⟩
  · intro r metadata now store status c
    have underivable : (∃ e, (a.outcome scheme access store c).verdict = .error (.underivable e)) ↔
        (∃ engine, a.Trusts scheme c engine) ∧
          ∃ request e, c.request = some request ∧ (request.flatten a.unsupportedFields).1 = .error e := by
      simp only [Authorizer.outcome_eq_underivable, exists_and_left]
      rw [exists_comm]
      simp only [exists_and_left]
    rw [r.serve_eq, Request.answer_eq_error, underivable]
    simp only [Authorizer.outcome_eq_ok]
    rfl

end Demo
end PolicyGate
