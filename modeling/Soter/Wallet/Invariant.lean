import Soter.Wallet.Service

/-!
# What Every Run of the Wallet Service Keeps

Four facts hold after every event, in every interleaving of calls, timers and
library events, whatever the library answers.

* The app is never left behind: every write of `session` is followed by
  `onSessionUpdate?.(session)`, so the last value reported is the session.
* The pending approval is never stale: it names an approval handed out and
  not yet settled. Each settlement clears it, whichever approval it names.
* The client the service holds has the service's handlers on it, so its
  session events always reach the service.
* Every session the service holds was built by `toWalletSession` from a
  session the library handed over, so its key is the one parsed from its own
  accounts.

`Inv` packages them. Each write the service makes (`World.setSession`,
`World.setPending`, `World.install`, handing out or settling an approval)
has a lemma saying it keeps `Inv`; each handler is a composition of those
writes, and `Inv.step` is one case per event.

## Main definitions

* `Inv`: The invariant of the wallet service.
* `World.showsWallet`: The home screen's test for a connected wallet.

## Theorems

* `Inv.step`, `Inv.run`: Every event, and every run, keeps the invariant.
* `run_invariants`: The four facts, for every run from a fresh service.
* `showsWallet_run`: When the home screen shows a connected wallet.
* `keyless_session_hides_wallet`: A session with no address is held and
  reported, yet no wallet is shown.
-/

namespace Soter

namespace Wallet

theorem lookup_eq_none {l : List (Nat × Option String)} {a : Nat} (h : ∀ p ∈ l, p.1 < a) :
    l.lookup a = none :=
  List.lookup_eq_none_iff.mpr fun p hp => by simpa using (Nat.ne_of_lt (h p hp)).symm

/-- The invariant of the wallet service. -/
structure Inv (w : World) : Prop where
  notified_eq : w.notified = w.service.session
  pending_open : ∀ a, w.service.pendingApproval = some a → a < w.approvals ∧ w.settled.lookup a = none
  settled_lt : ∀ p ∈ w.settled, p.1 < w.approvals
  client_listening : ∀ k, w.service.signClient = some k → k ∈ w.listening
  session_of_library : ∀ s, w.service.session = some s → ∃ ss : SignSession, s = ss.toWalletSession

namespace Inv

variable {w : World}

theorem start : Inv World.start where
  notified_eq := rfl
  pending_open := by simp [World.start]
  settled_lt := by simp [World.start]
  client_listening := by simp [World.start]
  session_of_library := by simp [World.start]

/-! ### The service's writes -/

theorem setSession (h : Inv w) {v : Option WalletSession}
    (hv : ∀ s, v = some s → ∃ ss : SignSession, s = ss.toWalletSession) : Inv (w.setSession v) :=
  ⟨rfl, h.pending_open, h.settled_lt, h.client_listening, hv⟩

theorem setSession_none (h : Inv w) : Inv (w.setSession none) :=
  h.setSession (by simp)

theorem setSession_library (h : Inv w) (ss : SignSession) :
    Inv (w.setSession (some ss.toWalletSession)) :=
  h.setSession fun _ hs => ⟨ss, (Option.some.inj hs).symm⟩

theorem clearPending (h : Inv w) : Inv (w.setPending none) :=
  ⟨h.notified_eq, by simp, h.settled_lt, h.client_listening, h.session_of_library⟩

theorem install (h : Inv w) (k : Nat) : Inv (w.install k) :=
  ⟨h.notified_eq, h.pending_open, h.settled_lt, by simp, h.session_of_library⟩

theorem setTask (h : Inv w) (i : Nat) (t : Task) : Inv (w.setTask i t) :=
  ⟨h.notified_eq, h.pending_open, h.settled_lt, h.client_listening, h.session_of_library⟩

theorem spawn (h : Inv w) (t : Task) : Inv (w.spawn t) :=
  ⟨h.notified_eq, h.pending_open, h.settled_lt, h.client_listening, h.session_of_library⟩

theorem newClient (h : Inv w) : Inv { w with clients := w.clients + 1 } :=
  ⟨h.notified_eq, h.pending_open, h.settled_lt, h.client_listening, h.session_of_library⟩

/-- Handing out the next approval: nothing has settled under a fresh number. -/
theorem issue (h : Inv w) :
    Inv { w.setPending (some w.approvals) with approvals := w.approvals + 1 } where
  notified_eq := h.notified_eq
  pending_open a ha := by
    cases ha
    exact ⟨Nat.lt_succ_self _, lookup_eq_none h.settled_lt⟩
  settled_lt p hp := Nat.lt_succ_of_lt (h.settled_lt p hp)
  client_listening := h.client_listening
  session_of_library := h.session_of_library

/-- Settling an approval handed out, with the pending approval cleared. -/
theorem settle (h : Inv w) {a : Nat} (ha : a < w.approvals) (r : Option String) :
    Inv { w.setPending none with settled := (a, r) :: w.settled } where
  notified_eq := h.notified_eq
  pending_open := by simp
  settled_lt p hp := by
    rcases List.mem_cons.mp hp with rfl | hp
    · exact ha
    · exact h.settled_lt p hp
  client_listening := h.client_listening
  session_of_library := h.session_of_library

/-! ### The handlers -/

theorem initializeHead (h : Inv w) (env : Option String) : Inv (w.initializeHead env).1 := by
  unfold World.initializeHead
  split
  · exact h
  · split
    · exact h.newClient
    · exact h

theorem restore (h : Inv w) (active : List SignSession) : Inv (w.restore active) := by
  unfold World.restore
  split
  · exact h.setSession_library _
  · exact h

theorem call (h : Inv w) (env : Option String) (m : Method) : Inv (w.call env m) := by
  have hi := h.initializeHead env
  cases m with
  | initializeClient => exact hi.spawn _
  | createConnection =>
      simp only [World.call]
      split
      · exact h.spawn _
      · exact hi.spawn _
  | waitForSession =>
      simp only [World.call]
      split <;> exact h.spawn _
  | disconnect =>
      simp only [World.call]
      split
      · exact h.spawn _
      · exact h.setSession_none.spawn _
  | restoreSessions active =>
      simp only [World.call]
      split
      · exact (h.restore active).spawn _
      · exact hi.spawn _

theorem initSettles (h : Inv w) (i : Nat) (r : Except String Unit) : Inv (w.initSettles i r) := by
  unfold World.initSettles
  split
  all_goals first
    | exact (h.install _).setTask _ _
    | exact h.setTask _ _
    | exact h

theorem resume (h : Inv w) (i : Nat) : Inv (w.resume i) := by
  unfold World.resume
  split
  · exact h.setTask _ _
  · split
    · exact h.setTask _ _
    · exact h.clearPending.setTask _ _
    · exact h
  · exact h

theorem restoreResume (h : Inv w) (i : Nat) (active : List SignSession) :
    Inv (w.restoreResume i active) := by
  unfold World.restoreResume
  split
  · split
    · exact (h.restore active).setTask _ _
    · exact h.setTask _ _
  · exact h

theorem connectSettles (h : Inv w) (i : Nat) (r : Except String (Option String)) :
    Inv (w.connectSettles i r) := by
  unfold World.connectSettles
  split
  · split
    · split
      · exact h.issue.setTask _ _
      · exact h.clearPending.setTask _ _
    · exact h.clearPending.setTask _ _
  · exact h

theorem approvalSettles (h : Inv w) (a : Nat) (r : Except String SignSession) :
    Inv (w.approvalSettles a r) := by
  unfold World.approvalSettles
  split
  · rename_i ha
    split
    · exact (h.setSession_library _).settle ha.1 none
    · exact h.settle ha.1 _
  · exact h

theorem step (h : Inv w) (env : Option String) (e : Event) : Inv (step env w e) := by
  cases e with
  | call m => exact h.call env m
  | initSettles i r => exact h.initSettles i r
  | connectSettles i r => exact h.connectSettles i r
  | disconnectSettles i =>
      simp only [Wallet.step, World.disconnectSettles]
      split
      · exact h.setSession_none.setTask _ _
      · exact h
  | resume i => exact h.resume i
  | restoreResume i active => exact h.restoreResume i active
  | approvalSettles a r => exact h.approvalSettles a r
  | checkFires i =>
      simp only [Wallet.step, World.checkFires]
      split <;> first | exact h.setTask _ _ | exact h
  | timeoutFires i =>
      simp only [Wallet.step, World.timeoutFires]
      split <;> first | exact h.setTask _ _ | exact h
  | sessionDelete client topic =>
      simp only [Wallet.step, World.sessionDelete]
      split
      · split
        · exact h.setSession_none
        · exact h
      · exact h
  | sessionUpdate client found =>
      simp only [Wallet.step, World.sessionUpdate]
      split
      · split
        · exact h.setSession_library _
        · exact h
      · exact h
  | sessionConnect client session =>
      simp only [Wallet.step, World.sessionConnect]
      split
      · exact h.setSession_library _
      · exact h

theorem run (h : Inv w) (env : Option String) (events : List Event) : Inv (run env w events) := by
  induction events generalizing w with
  | nil => exact h
  | cons e es ih => exact ih (h.step env e)

end Inv

/-- Whatever the app calls and whatever the library does, in any order: the
    last session reported to the app is the service's session; the pending
    approval, if any, was handed out and has not settled; the client held has
    the service's handlers on it; and the session held was built from a
    session of the library, with the key parsed from its own accounts, which
    is never empty and holds no colon. -/
theorem run_invariants (env : Option String) (events : List Event) :
    let w := run env World.start events
    w.notified = w.service.session ∧
    (∀ a, w.service.pendingApproval = some a → a < w.approvals ∧ w.settled.lookup a = none) ∧
    (∀ k, w.service.signClient = some k → k ∈ w.listening) ∧
    (∀ s, w.service.session = some s →
      (∃ ss : SignSession, s = ss.toWalletSession) ∧ s.publicKey = publicKeyOf s.accounts ∧
      ∀ key, s.publicKey = some key → key ≠ "" ∧ ':' ∉ key.data) := by
  have h := Inv.start.run env events
  refine ⟨h.notified_eq, h.pending_open, h.client_listening, fun s hs => ?_⟩
  obtain ⟨ss, rfl⟩ := h.session_of_library s hs
  exact ⟨⟨ss, rfl⟩, rfl, fun _ hk => publicKeyOf_colon_free hk⟩

/-- `getPublicKey()`: the key of the session held. -/
def World.getPublicKey (w : World) : Option String :=
  w.service.session.bind (·.publicKey)

/-- The home screen's `session && publicKey`: `session` is the hook's state,
    which holds what `onSessionUpdate` last reported (the hook registers it
    when it mounts, before any call), and `publicKey` is read from the
    service; an empty key would be falsy. -/
def World.showsWallet (w : World) : Bool :=
  w.notified.isSome && (w.getPublicKey.filter (· != "")).isSome

/-- Over every run, the home screen shows a connected wallet exactly when the
    service holds a session whose accounts give a key: a session the wallet
    approved whose first account has no third colon-separated piece is held
    and reported, but the screen still offers to connect. -/
theorem showsWallet_run (env : Option String) (events : List Event) :
    let w := run env World.start events
    w.showsWallet = true ↔ ∃ s key, w.service.session = some s ∧ publicKeyOf s.accounts = some key := by
  have h := Inv.start.run env events
  simp only [World.showsWallet, World.getPublicKey, h.notified_eq, Bool.and_eq_true,
    Option.isSome_iff_exists, Option.filter_eq_some, Option.mem_def, Option.bind_eq_some]
  constructor
  · rintro ⟨-, key, ⟨s, hs, hk⟩, -⟩
    obtain ⟨ss, rfl⟩ := h.session_of_library s hs
    exact ⟨_, key, hs, hk⟩
  · rintro ⟨s, key, hs, hk⟩
    obtain ⟨ss, rfl⟩ := h.session_of_library s hs
    exact ⟨⟨_, hs⟩, key, ⟨_, hs, hk⟩, by simpa using (publicKeyOf_colon_free hk).1⟩

/-- A wallet whose account is `stellar:mainnet`, with no address: its
    session is stored and reported, and the screen still offers to connect. -/
theorem keyless_session_hides_wallet :
    let w := run (some "soter-mobile") World.start [.call .initializeClient,
      .initSettles 0 (.ok ()), .sessionConnect 0 ⟨"topic-0", some ["stellar:mainnet"]⟩]
    w.notified = w.service.session ∧ w.service.session.isSome ∧ w.showsWallet = false := by
  intro w
  refine ⟨rfl, rfl, Bool.eq_false_iff.mpr fun h => ?_⟩
  obtain ⟨s, key, hs, hk⟩ := (showsWallet_run (some "soter-mobile") _).mp h
  -- The only session is the one `session_connect` stored, whose account has
  -- two pieces.
  obtain rfl : SignSession.toWalletSession ⟨"topic-0", some ["stellar:mainnet"]⟩ = s :=
    Option.some.inj hs
  simp [SignSession.toWalletSession, publicKeyOf, String.split_of_valid] at hk

end Wallet

end Soter
