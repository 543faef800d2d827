import PolicyGate.Proofs.Authorizer.Course
import PolicyGate.Proofs.Replay.History

/-!
# The nonces of authorized calls

A run of calls over a store in memory that was empty at first. A call leaves a record just when it comes
past the check of its assertion (`Ends.leaves`), so each record is of an assertion that was genuine
(`mem_get_storeAfter_iff`), and no assertion is in two allowed calls: `spends_once`.
-/

namespace PolicyGate

open Replay (Attempt Freshness NonceRecord NonceStore)

variable {τ κ ε : Type}

structure Replay.NonceStore.Adds (before : NonceStore) (r : NonceRecord) (after : NonceStore) : Prop where
  get : ∀ p, after.get p = if p = r.principal then before.get p ++ [r] else before.get p
  size : after.size = before.size + 1

theorem Replay.NonceStore.adds_insert (store : NonceStore) (r : NonceRecord) :
    store.Adds r (store.insert r) :=
  ⟨store.get_insert r, store.size_insert r⟩

def Call.attempt (c : Call) (s : SignedAssertion) : Attempt :=
  ⟨s.principal, s.nonce, s.signedAt, c.now⟩

/-- The record of an assertion that comes with a call: it counts from the later of now and the time of
signing. -/
def Call.record (c : Call) (s : SignedAssertion) : NonceRecord :=
  ⟨s.principal, s.nonce, max c.now s.signedAt⟩

/-- What a call that ends so does to a store: behind the check of its assertion it leaves one record, and
in front of it nothing. -/
def Ending.Leaves (c : Call) (before after : NonceStore) : Ending → Prop
  | userRefused s _ | disallowed (some s) _ | allowed (some s) => before.Adds (c.record s) after
  | disallowed none _ | allowed none => False
  | missingCredential | malformedCredential _ | untrustedCredential _ | underivable _ | factRefused _
  | invalidAssertion _ | notFresh _ => after = before

namespace Authorizer

section
variable (a : Authorizer κ) (scheme : TokenScheme τ κ ε)

def storeAfter (run : List Call) : NonceStore :=
  run.foldl (fun store c => (a.outcome scheme NonceStore.access store c).store) .empty

/-- The token of the call, which the root key vouches for, carries this assertion. -/
def Carries (c : Call) (s : SignedAssertion) : Prop :=
  ∃ engine, a.Informs scheme c engine ∧ scheme.assertion engine = .ok (some s)

def Allows (earlier : List Call) (c : Call) : Prop :=
  ∃ authorized, (a.outcome scheme NonceStore.access (a.storeAfter scheme earlier) c).verdict = .ok authorized

/-- Behind these earlier calls, the call comes past the check of its assertion. -/
def Spends (earlier : List Call) (c : Call) (s : SignedAssertion) : Prop :=
  ∃ ending store', a.Ends scheme NonceStore.access (a.storeAfter scheme earlier) c ending store' ∧
    ending.spent? = some s

end

variable {a : Authorizer κ} {scheme : TokenScheme τ κ ε} {check : AssertionCheck}
  {store store' : NonceStore} {c : Call} {s : SignedAssertion} {ending : Ending}

/-! ## One call -/

theorem Ready.vouches {engine : ε} {s : Option SignedAssertion}
    (h : a.Ready scheme NonceStore.access store c engine s store') :
    (s = none ∧ a.assertions = none ∧ store' = store) ∨
      ∃ t check engine', s = some t ∧ a.Vouches scheme NonceStore.access check store c engine' t store' := by
  cases h with
  | plain off _ => exact .inl ⟨rfl, off, rfl⟩
  | vouched vouched _ => exact .inr ⟨_, _, _, rfl, vouched⟩

theorem Ends.spent (h : a.Ends scheme NonceStore.access store c ending store') :
    (ending.spent? = none ∧ store' = store) ∨
      ∃ s check engine, ending.spent? = some s ∧
        a.Vouches scheme NonceStore.access check store c engine s store' := by
  cases h with
  | userRefused vouched _ => exact .inr ⟨_, _, _, rfl, vouched⟩
  | disallowed ready _ | allowed ready _ =>
    rcases ready.vouches with ⟨rfl, _, rfl⟩ | ⟨s, check, engine, rfl, vouched⟩
    · exact .inl ⟨rfl, rfl⟩
    · exact .inr ⟨s, check, engine, rfl, vouched⟩
  | _ => exact .inl ⟨rfl, rfl⟩

theorem Ends.vouches (h : a.Ends scheme NonceStore.access store c ending store')
    (spent : ending.spent? = some s) :
    ∃ check engine, a.Vouches scheme NonceStore.access check store c engine s store' := by
  rcases h.spent with ⟨none, -⟩ | ⟨t, check, engine, some, vouched⟩
  · rw [none] at spent
    cases spent
  · cases spent.symm.trans some
    exact ⟨check, engine, vouched⟩

theorem Vouches.attempt_ok {engine : ε}
    (h : a.Vouches scheme NonceStore.access check store c engine s store') :
    check.freshness.IsFresh (c.attempt s) ∧
      (∀ r ∈ store.get s.principal, ¬ check.freshness.Blocks (c.attempt s) r) ∧
      store' = store.insert (c.record s) :=
  (check.freshness.attempt_ok (a := c.attempt s)).mp h.fresh

theorem Ends.leaves (asked : a.assertions = some check)
    (h : a.Ends scheme NonceStore.access store c ending store') : ending.Leaves c store store' := by
  have vouched : ∀ {t : SignedAssertion} {check' : AssertionCheck} {engine : ε},
      a.Vouches scheme NonceStore.access check' store c engine t store' →
        store.Adds (c.record t) store' := by
    intro t check' engine v
    rw [v.attempt_ok.2.2]
    exact store.adds_insert (c.record t)
  cases h with
  | userRefused v _ => exact vouched v
  | disallowed ready _ | allowed ready _ =>
    rcases ready.vouches with ⟨_, off, _⟩ | ⟨t, check', engine, rfl, v⟩
    · rw [asked] at off
      cases off
    · exact vouched v
  | _ => rfl

/-! ## Runs -/

theorem storeAfter_snoc (run : List Call) (c : Call) :
    a.storeAfter scheme (run ++ [c]) =
      (a.outcome scheme NonceStore.access (a.storeAfter scheme run) c).store := by
  rw [storeAfter, List.foldl_append]
  rfl

theorem Spends.storeAfter_snoc {run : List Call} (h : a.Spends scheme run c s) :
    a.storeAfter scheme (run ++ [c]) = (a.storeAfter scheme run).insert (c.record s) := by
  obtain ⟨ending, store', ends, spent⟩ := h
  obtain ⟨check, engine, vouched⟩ := ends.vouches spent
  rw [Authorizer.storeAfter_snoc, ends.outcome_eq.2]
  exact vouched.attempt_ok.2.2

theorem storeAfter_snoc_cases (a : Authorizer κ) (scheme : TokenScheme τ κ ε) (run : List Call) (c : Call) :
    a.storeAfter scheme (run ++ [c]) = a.storeAfter scheme run ∨ ∃ s, a.Spends scheme run c s := by
  obtain ⟨ending, store', ends⟩ := a.exists_ends scheme NonceStore.access (a.storeAfter scheme run) c
  rcases ends.spent with ⟨_, rfl⟩ | ⟨s, _, _, some, _⟩
  · exact .inl (by rw [storeAfter_snoc, ends.outcome_eq.2])
  · exact .inr ⟨s, ending, store', ends, some⟩

theorem mem_get_snoc (run : List Call) (c : Call) (p : String) (r : NonceRecord) :
    r ∈ (a.storeAfter scheme (run ++ [c])).get p ↔
      r ∈ (a.storeAfter scheme run).get p ∨
        ∃ s, a.Spends scheme run c s ∧ s.principal = p ∧ r = c.record s := by
  constructor
  · intro h
    rcases storeAfter_snoc_cases a scheme run c with same | ⟨s, spends⟩
    · exact .inl (same ▸ h)
    · rw [spends.storeAfter_snoc, NonceStore.mem_get_insert] at h
      exact h.imp_right fun h => ⟨s, spends, h⟩
  · rintro (h | ⟨s, spends, hp, hr⟩)
    · rcases storeAfter_snoc_cases a scheme run c with same | ⟨s, spends⟩
      · exact same ▸ h
      · rw [spends.storeAfter_snoc, NonceStore.mem_get_insert]
        exact .inl h
    · rw [spends.storeAfter_snoc, NonceStore.mem_get_insert]
      exact .inr ⟨hp, hr⟩

theorem mem_get_storeAfter_iff (run : List Call) (p : String) (r : NonceRecord) :
    r ∈ (a.storeAfter scheme run).get p ↔
      ∃ earlier c, earlier ++ [c] <+: run ∧
        ∃ s, a.Spends scheme earlier c s ∧ s.principal = p ∧ r = c.record s := by
  refine Freshness.iff_exists_prefix (P := fun run => r ∈ (a.storeAfter scheme run).get p) ?_
    (fun run c => mem_get_snoc run c p r) run
  intro h; cases h

/-! ## Assertions are used once -/

theorem Trusts.unique {engine engine' : ε} (h : a.Trusts scheme c engine) (h' : a.Trusts scheme c engine') :
    engine = engine' := by
  obtain ⟨value, bytes, token, carried, spelled, decoded, started⟩ := h
  obtain ⟨_, _, _, carried', spelled', decoded', started'⟩ := h'
  cases carried.symm.trans carried'
  cases spelled.symm.trans spelled'
  cases decoded.symm.trans decoded'
  cases started.symm.trans started'
  rfl

theorem Informs.unique {engine engine' : ε} (h : a.Informs scheme c engine)
    (h' : a.Informs scheme c engine') : engine = engine' := by
  obtain ⟨start, args, trusted, derived, taken⟩ := h
  obtain ⟨_, args', trusted', derived', taken'⟩ := h'
  cases trusted.unique trusted'
  have same : ambientFacts c.method args = ambientFacts c.method args' := by
    have facts := (facts_of_derives derived).symm.trans (facts_of_derives derived')
    exact Except.ok.inj facts
  have added := taken.addFacts
  rw [same, taken'.addFacts] at added
  exact ((Prod.mk.inj added).2).symm

theorem Vouches.carries {engine : ε} (h : a.Vouches scheme NonceStore.access check store c engine s store') :
    a.Carries scheme c s :=
  ⟨engine, h.informed, h.genuine.1⟩

theorem Carries.unique {t : SignedAssertion} (h : a.Carries scheme c s) (h' : a.Carries scheme c t) :
    s = t := by
  obtain ⟨engine, informed, embedded⟩ := h
  obtain ⟨_, informed', embedded'⟩ := h'
  cases informed.unique informed'
  cases embedded.symm.trans embedded'
  rfl

theorem Allows.spends {earlier : List Call} (asked : a.assertions = some check)
    (h : a.Allows scheme earlier c) (carries : a.Carries scheme c s) : a.Spends scheme earlier c s := by
  obtain ⟨authorized, verdict⟩ := h
  obtain ⟨ending, store', ends⟩ := a.exists_ends scheme NonceStore.access (a.storeAfter scheme earlier) c
  rw [ends.outcome_eq.1] at verdict
  refine ⟨ending, store', ends, ?_⟩
  cases ends with
  | allowed ready _ =>
    rcases ready.vouches with ⟨_, off, _⟩ | ⟨t, check', engine, rfl, vouched⟩
    · rw [asked] at off
      cases off
    · rw [vouched.carries.unique carries]
      rfl
  | _ => cases verdict

/-- The first of two calls that spend an assertion leaves a record that keeps the second from it. -/
theorem Spends.once {earlier before : List Call} {b : Call} {t : SignedAssertion}
    (h : a.Spends scheme earlier c s) (behind : before ++ [b] <+: earlier) (h' : a.Spends scheme before b t) :
    ¬ (t.principal = s.principal ∧ t.nonce = s.nonce ∧ t.signedAt = s.signedAt) := by
  rintro ⟨principal, nonce, signedAt⟩
  obtain ⟨ending, store', ends, spent⟩ := h
  obtain ⟨check, engine, vouched⟩ := ends.vouches spent
  obtain ⟨fresh, free, _⟩ := vouched.attempt_ok
  have recorded : b.record t ∈ (a.storeAfter scheme earlier).get s.principal :=
    (mem_get_storeAfter_iff earlier s.principal (b.record t)).mpr ⟨before, b, behind, t, h', principal, rfl⟩
  exact free _ recorded (check.freshness.blocks_of_same (b := b.attempt t) fresh nonce signedAt)

/-- In every run of calls, an authorizer that asks for assertions leaves one record of the assertion of a
call where the call is allowed, or denied because the engine refuses its user or decides against it;
otherwise the store stays as it was. Each record is of an assertion that a token under the root key
carried, for the audience, with a principal and with a right signature. No two allowed calls of a run
carry an assertion with the same principal, nonce and time of signing. -/
theorem spends_once (a : Authorizer κ) (check : AssertionCheck) (scheme : TokenScheme τ κ ε)
    (earlier : List Call) (c : Call) :
    let b := a.withAssertions check
    let before := b.storeAfter scheme earlier
    let o := b.authorize scheme NonceStore.access c.metadata c.method c.request c.now before
    (∃ ending, b.Ends scheme NonceStore.access before c ending o.store) ∧
    (∀ ending after, b.Ends scheme NonceStore.access before c ending after →
      o.verdict = ending.verdict b.metadataKey ∧ o.store = after ∧ ending.Leaves c before after ∧
        ∀ s, ending.spent? = some s → b.Carries scheme c s) ∧
    (∀ p, ∀ r ∈ before.get p, ∃ earlier' c' s, earlier' ++ [c'] <+: earlier ∧ r = c'.record s ∧
      s.principal = p ∧ b.Carries scheme c' s ∧ check.verifier.Confirms s) ∧
    (b.Allows scheme earlier c → ∀ s, b.Carries scheme c s →
      ∀ earlier' c' t, earlier' ++ [c'] <+: earlier → b.Allows scheme earlier' c' →
        b.Carries scheme c' t →
        ¬ (t.principal = s.principal ∧ t.nonce = s.nonce ∧ t.signedAt = s.signedAt)) := by
  intro b before o
  have asked : b.assertions = some check := rfl
  refine ⟨?_, ?_, ?_, ?_⟩
  · obtain ⟨ending, after, ends⟩ := b.exists_ends scheme NonceStore.access before c
    have store : o.store = after := ends.outcome_eq.2
    exact ⟨ending, store ▸ ends⟩
  · intro ending after ends
    refine ⟨ends.outcome_eq.1, ends.outcome_eq.2, ends.leaves asked, fun s hs => ?_⟩
    obtain ⟨_, _, vouched⟩ := ends.vouches hs
    exact vouched.carries
  · intro p r hr
    obtain ⟨earlier', c', behind, s, ⟨ending, store', ends, spent⟩, hp, hrec⟩ :=
      (mem_get_storeAfter_iff earlier p r).mp hr
    obtain ⟨check', engine, vouched⟩ := ends.vouches spent
    have same : check' = check := Option.some.inj (vouched.asked.symm.trans asked)
    exact ⟨earlier', c', s, behind, hrec, hp, vouched.carries, same ▸ vouched.genuine.2⟩
  · intro allowed s carries earlier' c' t behind allowed' carries'
    exact (allowed.spends asked carries).once behind (allowed'.spends asked carries')

end Authorizer
end PolicyGate
