import PolicyGate.Proofs.Authorizer.Course

/-!
# Complete mediation

A call is allowed just when each stage lets it pass, and the engine that allows it has been told the facts
about the call and its user, in order, and nothing else (`Authorizer.Permits`). Only then is its handler
run: `Authorizer.mediates`.
-/

namespace PolicyGate

open Replay (StoreAccess)
open Time (Instant)

variable {τ κ ε σ : Type}

namespace TokenScheme

variable {scheme : TokenScheme τ κ ε} {engine mid last : ε} {facts more : List Fact}

theorem Takes.unique (h : scheme.Takes engine facts mid) (h' : scheme.Takes engine facts last) :
    mid = last := by
  have same := h.addFacts.symm.trans h'.addFacts
  simpa using same

theorem takes_append :
    scheme.Takes engine (facts ++ more) last ↔
      ∃ mid, scheme.Takes engine facts mid ∧ scheme.Takes mid more last := by
  constructor
  · intro h
    induction facts generalizing engine with
    | nil => exact ⟨engine, .nil engine, h⟩
    | cons fact facts ih =>
      cases h with
      | cons taken rest =>
        obtain ⟨mid, first, second⟩ := ih rest
        exact ⟨mid, .cons taken first, second⟩
  · rintro ⟨mid, first, second⟩
    induction first with
    | nil => exact second
    | cons taken _ ih => exact .cons taken (ih second)

end TokenScheme

namespace Authorizer

section
variable (a : Authorizer κ) (scheme : TokenScheme τ κ ε) (access : StoreAccess σ)

/-- The stages that let a call for a principal pass: the engine of a trusted token is told the facts about
the call, its assertion is asked for if one is needed, and when it decides it has been told just the facts
about the call and, if there is one, the principal. -/
structure Admits (store : σ) (c : Call) (principal : Option String) (args : List (String × Atom))
    (start engine engine' : ε) : Prop where
  trusted : a.Trusts scheme c start
  derived : a.Derives c args
  ascending : args.Pairwise fun x y => x.1 < y.1
  informed : scheme.Takes start (ambientFacts c.method args) engine
  vouched :
    match a.assertions with
    | none => principal = none
    | some check => ∃ s store', check.Accepts (scheme.assertion engine) s ∧
        check.freshness.check access s.principal s.nonce s.signedAt c.now store = .ok store' ∧
        principal = some s.principal
  told : scheme.Takes start (ambientFacts c.method args ++ (principal.map Fact.ofUser).toList) engine'
  allowed : ∃ last, scheme.allow engine' = (.ok (), last)

def Permits (store : σ) (c : Call) (principal : Option String) : Prop :=
  ∃ args start engine engine', a.Admits scheme access store c principal args start engine engine'

end

variable {a : Authorizer κ} {scheme : TokenScheme τ κ ε} {access : StoreAccess σ} {store store' : σ}
  {c : Call} {engine : ε}

theorem Derives.ascending {args : List (String × Atom)} (h : a.Derives c args) :
    args.Pairwise fun x y => x.1 < y.1 := by
  unfold Derives at h
  cases hr : c.request with
  | none =>
    rw [hr] at h
    rw [h]
    exact .nil
  | some request =>
    rw [hr] at h
    obtain ⟨fields, _, rfl⟩ := h
    exact fields.ascending

theorem Ready.admits {s : Option SignedAssertion} {told : ε}
    (h : a.Ready scheme access store c told s store') (allowed : ∃ last, scheme.allow told = (.ok (), last)) :
    a.Permits scheme access store c (s.map SignedAssertion.principal) := by
  cases h with
  | plain off informed =>
    obtain ⟨start, args, trusted, derived, taken⟩ := informed
    refine ⟨args, start, told, told, trusted, derived, derived.ascending, taken, ?_, ?_, allowed⟩
    · rw [off]; rfl
    · simpa using taken
  | @vouched check engine last s store' vouched added =>
    obtain ⟨asked, ⟨start, args, trusted, derived, taken⟩, genuine, fresh⟩ := vouched
    refine ⟨args, start, engine, told, trusted, derived, derived.ascending, taken, ?_, ?_, allowed⟩
    · rw [asked]
      exact ⟨s, store', genuine, fresh, rfl⟩
    · exact TokenScheme.takes_append.mpr ⟨engine, taken, TokenScheme.takes_singleton.mpr added⟩

theorem Permits.exists_ends {principal : Option String} (h : a.Permits scheme access store c principal) :
    ∃ s store', a.Ends scheme access store c (.allowed s) store' ∧
      s.map SignedAssertion.principal = principal := by
  obtain ⟨args, start, engine, told, trusted, derived, _, taken, vouched, all, last, allowed⟩ := h
  have informed : a.Informs scheme c engine := ⟨start, args, trusted, derived, taken⟩
  obtain ⟨mid, taken', user⟩ := TokenScheme.takes_append.mp all
  cases taken.unique taken'
  cases asked : a.assertions with
  | none =>
    rw [asked] at vouched
    subst vouched
    cases user
    exact ⟨none, store, .allowed (.plain asked informed) allowed, rfl⟩
  | some check =>
    rw [asked] at vouched
    obtain ⟨s, store', genuine, fresh, rfl⟩ := vouched
    have added := TokenScheme.takes_singleton.mp user
    exact ⟨some s, store', .allowed (.vouched ⟨asked, informed, genuine, fresh⟩ added) allowed, rfl⟩

theorem outcome_eq_ok {principal : Option String} :
    (a.outcome scheme access store c).verdict = .ok ⟨principal⟩ ↔
      a.Permits scheme access store c principal := by
  constructor
  · intro h
    obtain ⟨ending, store', ends⟩ := a.exists_ends scheme access store c
    rw [ends.outcome_eq.1] at h
    cases ends with
    | allowed ready decided =>
      simp only [Ending.verdict, Except.ok.injEq, Authorized.mk.injEq] at h
      rw [← h]
      exact ready.admits ⟨_, decided⟩
    | _ => cases h
  · intro h
    obtain ⟨s, store', ends, rfl⟩ := h.exists_ends
    exact ends.outcome_eq.1

theorem Permits.principal {principal : Option String} (h : a.Permits scheme access store c principal) :
    principal ≠ some "" ∧ (principal.isSome = true ↔ a.assertions.isSome = true) := by
  obtain ⟨args, start, engine, told, admits⟩ := h
  have vouched := admits.vouched
  cases asked : a.assertions with
  | none =>
    rw [asked] at vouched
    subst vouched
    simp
  | some check =>
    rw [asked] at vouched
    obtain ⟨s, store', genuine, _, rfl⟩ := vouched
    simpa using genuine.2.principal

variable (a scheme access store c)

/-- Run behind the authorizer, a handler gives the answer to a call that is permitted, and to no other:
there the answer is the status of the denial. -/
def Guards {m : Type → Type} [Monad m] {β : Type} (handled answer : m (Except Status β)) : Prop :=
  ((∃ principal, a.Permits scheme access store c principal) → answer = handled) ∧
    ((¬∃ principal, a.Permits scheme access store c principal) →
      ∃ reason, (a.outcome scheme access store c).verdict = .error reason ∧
        answer = pure (.error reason.status))

theorem intercept_guards {m : Type → Type} [Monad m] {ρ β : Type} (method : String)
    (known : Option Message) (request : Incoming ρ) (handler : Incoming ρ → m (Except Status β))
    (now : Instant) :
    a.Guards scheme access store ⟨request.metadata, method, known, now⟩ (handler request)
      (a.intercept scheme access method known request handler now store).1 := by
  have verdict : (a.authorize scheme access request.metadata method known now store).verdict =
      (a.outcome scheme access store ⟨request.metadata, method, known, now⟩).verdict := rfl
  unfold Guards intercept
  cases h : (a.outcome scheme access store ⟨request.metadata, method, known, now⟩).verdict with
  | ok authorized =>
    have permitted : a.Permits scheme access store _ authorized.principal := outcome_eq_ok.mp h
    simp only [verdict, h]
    exact ⟨fun _ => trivial, fun none => absurd ⟨_, permitted⟩ none⟩
  | error reason =>
    simp only [verdict, h]
    refine ⟨fun ⟨principal, permitted⟩ => ?_, fun _ => ⟨reason, by simp⟩⟩
    rw [outcome_eq_ok.mpr permitted] at h
    cases h

/-- A call is allowed for a principal just when every stage lets it pass; there is a principal, never
without a name, just when assertions are asked for. Handlers of single requests and of streams are run, on
the request as it arrived, for the calls that are allowed and for no others. -/
theorem mediates (a : Authorizer κ) (scheme : TokenScheme τ κ ε) (access : StoreAccess σ) (store : σ) :
    (∀ (c : Call) (principal : Option String),
      (a.authorize scheme access c.metadata c.method c.request c.now store).verdict = .ok ⟨principal⟩ ↔
        a.Permits scheme access store c principal) ∧
    (∀ (c : Call) (principal : Option String), a.Permits scheme access store c principal →
      principal ≠ some "" ∧ (principal.isSome = true ↔ a.assertions.isSome = true)) ∧
    ∀ (m : Type → Type) [Monad m] (ρ β : Type) (method : String) (request : Incoming ρ)
      (handler : Incoming ρ → m (Except Status β)) (now : Instant),
      (∀ view : ρ → Message,
        a.Guards scheme access store ⟨request.metadata, method, some (view request.payload), now⟩
          (handler request) (a.interceptUnary scheme access method view request handler now store).1) ∧
      a.Guards scheme access store ⟨request.metadata, method, none, now⟩ (handler request)
        (a.interceptStream scheme access method request handler now store).1 := by
  refine ⟨fun c principal => outcome_eq_ok, fun c principal h => h.principal, ?_⟩
  intro m _ ρ β method request handler now
  constructor
  · intro view
    exact a.intercept_guards scheme access store method (some (view request.payload)) request handler now
  · exact a.intercept_guards scheme access store method none request handler now

end Authorizer
end PolicyGate
