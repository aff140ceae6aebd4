import Soter.Wallet.Invariant
import Soter.Wallet.Calls

/-!
# Schedules of the Wallet Service

What particular orders of calls, answers and timers do to the service, for
every state they start from and every answer the library gives.

The connection flow works as the home screen uses it: `createConnection`
returns the `uri`, `waitForSession` awaits the approval, and once the wallet
approves, the call returns the session the approval handler stored
(`connect_flow`).

The rest are the places where a check and the write it guards are split by an
`await`, as in the claims engine's `transition`, or where a promise is never
cancelled.

* `initialize` checks `this.signClient` and then awaits `SignClient.init`.
  The hook's effect (`restoreSessions`) and the home screen's effect
  (`initialize`) both run when the screen mounts, before any client exists,
  so both create a client. The service keeps the later one but the earlier
  keeps its handlers, and its events still write the session
  (`mount_initializes_twice`).
* `disconnect` cancels nothing: it clears the session and reports `null`,
  but an approval still open when it completes connects the service again
  (`disconnect_then_approval_reconnects`).
* The approval handlers clear `pendingApproval` whichever approval it holds,
  so an earlier approval settling drops a later connection's; a
  `waitForSession` then polls instead, and its timeout fails the call though
  the later approval is still open (`stale_approval_clears_pending`).
* The timeout of the polling loop rejects the call but does not stop the
  loop: the check reschedules itself for as long as no session appears, and
  when one does, the service is connected while the call has already failed
  (`timed_out_poll_keeps_polling`).
* The 120 s timeout guards only the polling fallback. A `waitForSession`
  that awaits an approval waits until the wallet answers it, whatever else
  happens (`approval_wait_has_no_timeout`), and the home screen keeps its
  connect button disabled all that time.

## Theorems

* `connect_flow`: Connecting, waiting, and the wallet's approval.
* `mount_initializes_twice`: Two clients at mount.
* `disconnect_then_approval_reconnects`: A disconnect undone by an open
  approval.
* `stale_approval_clears_pending`: An earlier approval clears a later one.
* `timed_out_poll_keeps_polling`: The poll outlives its timeout.
* `approval_wait_has_no_timeout`: Waiting on an approval has no time limit.
-/

namespace Soter

namespace Wallet

/-- With a client held: `createConnection` returns the `uri` `connect` gave;
    `waitForSession` awaits the approval that came with it; when the wallet
    approves, the approval handler stores the session, reports it and clears
    the pending approval, and `waitForSession` returns that session. -/
theorem connect_flow (env : Option String) (w : World) (h : Inv w)
    (hc : w.service.signClient.isSome) (uri : String) (huri : uri ≠ "") (session : SignSession) :
    let n := w.tasks.length
    let w' := run env w [.call .createConnection, .connectSettles n (.ok (some uri)),
      .call .waitForSession, .approvalSettles w.approvals (.ok session), .resume (n + 1)]
    w'.tasks[n]? = some (.done (.returned (.uri uri))) ∧
    w'.tasks[n + 1]? = some (.done (.returned (.session session.toWalletSession))) ∧
    w'.service.session = some session.toWalletSession ∧ w'.notified = w'.service.session ∧
    w'.service.pendingApproval = none := by
  intro n w'
  obtain ⟨k, hk⟩ := Option.isSome_iff_exists.mp hc
  have hfresh : w.settled.lookup w.approvals = none := lookup_eq_none h.settled_lt
  let w₁ := w.spawn .connecting
  let w₂ := { w₁.setPending (some w.approvals) with approvals := w.approvals + 1 }.setTask n
    (.done (.returned (.uri uri)))
  let w₃ := w₂.spawn (.awaitApproval w.approvals)
  let s := session.toWalletSession
  let w₄ := { (w₃.setSession (some s)).setPending none with
    settled := (w.approvals, none) :: w.settled }
  have hn : n < w₁.tasks.length := by simp [w₁, n]
  have hlen : w₂.tasks.length = n + 1 := by simp [w₂, w₁, n]
  -- `createConnection` calls `connect`, whose `uri` it returns; its approval is pending.
  have h₁ : step env w (.call .createConnection) = w₁ := by simp [step, World.call, hc, w₁]
  have hu : (some uri).filter (· != "") = some uri := by simp [Option.filter, huri]
  have h₂ : step env w₁ (.connectSettles n (.ok (some uri))) = w₂ := by
    simp only [step, World.connectSettles, w₁, n, World.spawn_getElem?_self, hu]
    rfl
  -- `waitForSession` awaits that approval.
  have h₃ : step env w₂ (.call .waitForSession) = w₃ := by simp [step, World.call, w₂, w₁, w₃, hk]
  -- The wallet approves: the handler stores the session and clears the approval.
  have h₄ : step env w₃ (.approvalSettles w.approvals (.ok session)) = w₄ := by
    simp [step, World.approvalSettles, w₃, w₂, w₁, w₄, hfresh, s]
  have ht₃ : w₃.tasks[n + 1]? = some (.awaitApproval w.approvals) := by
    rw [← hlen]; exact World.spawn_getElem?_self _ _
  have h₅ : step env w₄ (.resume (n + 1)) = w₄.setTask (n + 1) (.done (.returned (.session s))) := by
    simp [step, World.resume, ht₃, w₄, World.poll]
  have hw : w' = w₄.setTask (n + 1) (.done (.returned (.session s))) := by
    simp only [w', run_cons, run_nil, h₁, h₂, h₃, h₄, h₅]
  rw [hw]
  refine ⟨?_, World.setTask_getElem?_self _ (by simp [w₄, w₃, hlen]), rfl, rfl, rfl⟩
  rw [World.setTask_getElem?_of_ne _ _ (by omega)]
  show (w₂.spawn _).tasks[n]? = _
  rw [World.spawn_getElem?_of_lt _ _ (by omega)]
  exact World.setTask_getElem?_self _ hn

theorem connect_flow_after_initialize :
    let env : Option String := some "soter-mobile"
    let w := run env World.start [.call .initializeClient, .initSettles 0 (.ok ())]
    let session : SignSession := ⟨"topic-1", some ["stellar:mainnet:GABC"]⟩
    (Inv w ∧ w.service.signClient.isSome ∧ "wc:1" ≠ "") ∧
    let n := w.tasks.length
    let w' := run env w [.call .createConnection, .connectSettles n (.ok (some "wc:1")),
      .call .waitForSession, .approvalSettles w.approvals (.ok session), .resume (n + 1)]
    w'.tasks[n]? = some (.done (.returned (.uri "wc:1"))) ∧
    w'.tasks[n + 1]? = some (.done (.returned (.session session.toWalletSession))) ∧
    w'.service.session = some session.toWalletSession ∧ w'.notified = w'.service.session ∧
    w'.service.pendingApproval = none :=
  ⟨⟨Inv.start.run _ _, rfl, by decide⟩,
    connect_flow _ _ (Inv.start.run _ _) (by rfl) "wc:1" (by decide) ⟨"topic-1", some ["stellar:mainnet:GABC"]⟩⟩

/-- When the screen mounts with no client yet and a project id set, the
    hook's `restoreSessions` and the screen's `initialize` each call
    `SignClient.init`. Once both resolve the service holds the second client
    but still listens to the first, whose `session_connect` replaces the
    session. -/
theorem mount_initializes_twice (env : Option String) (w : World)
    (hc : w.service.signClient = none) (hp : projectIdSet env = true)
    (active : List SignSession) (session : SignSession) :
    let n := w.tasks.length
    let mounted := run env w [.call (.restoreSessions active), .call .initializeClient,
      .initSettles n (.ok ()), .initSettles (n + 1) (.ok ())]
    mounted.clients = w.clients + 2 ∧
    mounted.service.signClient = some (w.clients + 1) ∧
    w.clients ∈ mounted.listening ∧
    (step env mounted (.sessionConnect w.clients session)).service.session =
      some session.toWalletSession := by
  intro n mounted
  -- Both heads find no client, and each calls `SignClient.init`.
  let w₁ := { w with clients := w.clients + 1 }.spawn (.restoreInit (some w.clients))
  let w₂ := { w₁ with clients := w.clients + 2 }.spawn (.initializing (w.clients + 1))
  have h₁ : step env w (.call (.restoreSessions active)) = w₁ := by
    simp [step, World.call, World.initializeHead_of_none hc hp, hc, w₁]
  have h₂ : step env w₁ (.call .initializeClient) = w₂ := by
    simp [step, World.call, World.initializeHead, hc, hp, w₁, w₂]
  -- The inits resolve in call order; each installs its client and its handlers.
  have hr : w₂.tasks[n]? = some (.restoreInit (some w.clients)) := by
    rw [World.spawn_getElem?_of_lt _ _ (by simp [w₁, n]), World.spawn_getElem?_self]
  let w₃ := (w₂.install w.clients).setTask n (.restoreInit none)
  have hi : w₃.tasks[n + 1]? = some (.initializing (w.clients + 1)) := by
    have hlen : w₁.tasks.length = n + 1 := by simp [w₁, n]
    rw [World.setTask_getElem?_of_ne _ _ (by omega), World.install_tasks, ← hlen]
    exact World.spawn_getElem?_self _ _
  have h₃ : step env w₂ (.initSettles n (.ok ())) = w₃ := by simp [step, World.initSettles, hr, w₃]
  have h₄ : step env w₃ (.initSettles (n + 1) (.ok ())) =
      (w₃.install (w.clients + 1)).setTask (n + 1) (.done (.returned .unit)) := by
    simp [step, World.initSettles, hi]
  simp only [mounted, run_cons, run_nil, h₁, h₂, h₃, h₄]
  simp [w₃, w₂, w₁, step, World.sessionConnect]

theorem mount_initializes_twice_on_start :
    let env : Option String := some "soter-mobile"
    let session : SignSession := ⟨"topic-0", some ["stellar:mainnet:GABC"]⟩
    (World.start.service.signClient = none ∧ projectIdSet env = true) ∧
    let n := World.start.tasks.length
    let mounted := run env World.start [.call (.restoreSessions []), .call .initializeClient,
      .initSettles n (.ok ()), .initSettles (n + 1) (.ok ())]
    mounted.clients = World.start.clients + 2 ∧
    mounted.service.signClient = some (World.start.clients + 1) ∧
    World.start.clients ∈ mounted.listening ∧
    (step env mounted (.sessionConnect World.start.clients session)).service.session =
      some session.toWalletSession :=
  ⟨⟨rfl, by decide⟩, mount_initializes_twice _ _ (by rfl) (by decide) [] _⟩

/-- A `disconnect` made while an approval is open (the session having come
    by `session_connect` before the approval resolved) returns with the
    session cleared and reported as `null`; when the approval then resolves,
    its handler stores and reports a session again. -/
theorem disconnect_then_approval_reconnects (env : Option String) (w : World) (h : Inv w)
    (hs : w.service.session.isSome) (hc : w.service.signClient.isSome) {a : Nat}
    (hp : w.service.pendingApproval = some a) (session : SignSession) :
    let n := w.tasks.length
    let disconnected := run env w [.call .disconnect, .disconnectSettles n]
    let w' := step env disconnected (.approvalSettles a (.ok session))
    disconnected.tasks[n]? = some (.done (.returned .unit)) ∧
    disconnected.service.session = none ∧ disconnected.notified = none ∧
    w'.service.session = some session.toWalletSession ∧ w'.notified = w'.service.session := by
  intro n disconnected w'
  obtain ⟨ha, hu⟩ := h.pending_open a hp
  let w₁ := w.spawn .disconnecting
  have h₁ : step env w (.call .disconnect) = w₁ := by simp [step, World.call, hs, hc, w₁]
  have h₂ : step env w₁ (.disconnectSettles n) =
      (w₁.setSession none).setTask n (.done (.returned .unit)) := by
    simp [step, World.disconnectSettles, w₁, n, World.spawn_getElem?_self]
  have hd : disconnected = (w₁.setSession none).setTask n (.done (.returned .unit)) := by
    simp only [disconnected, run_cons, run_nil, h₁, h₂]
  -- The approval is still open: nothing in `disconnect` settled or cleared it.
  have hw' : w'.service.session = some session.toWalletSession ∧ w'.notified = w'.service.session := by
    simp [w', hd, step, World.approvalSettles, w₁, ha, hu]
  exact ⟨by rw [hd, World.setTask_getElem?_self _ (by simp [w₁, n])], by rw [hd]; rfl, by rw [hd]; rfl,
    hw'⟩

theorem disconnect_while_connecting :
    let env : Option String := some "soter-mobile"
    let w := run env World.start [.call .initializeClient, .initSettles 0 (.ok ()),
      .call .createConnection, .connectSettles 1 (.ok (some "wc:1")),
      .sessionConnect 0 ⟨"topic-0", some ["stellar:mainnet:GABC"]⟩]
    let session : SignSession := ⟨"topic-0", some ["stellar:mainnet:GABC"]⟩
    (Inv w ∧ w.service.session.isSome ∧ w.service.signClient.isSome ∧
      w.service.pendingApproval = some 0) ∧
    let n := w.tasks.length
    let disconnected := run env w [.call .disconnect, .disconnectSettles n]
    let w' := step env disconnected (.approvalSettles 0 (.ok session))
    disconnected.tasks[n]? = some (.done (.returned .unit)) ∧
    disconnected.service.session = none ∧ disconnected.notified = none ∧
    w'.service.session = some session.toWalletSession ∧ w'.notified = w'.service.session :=
  ⟨⟨Inv.start.run _ _, rfl, rfl, rfl⟩,
    disconnect_then_approval_reconnects _ _ (Inv.start.run _ _) (by rfl) (by rfl) (by rfl) _⟩

/-- With a later connection's approval pending and no session, an earlier
    approval that fails clears the pending approval; a `waitForSession` made
    then polls rather than awaiting the later approval, and its timeout fails
    the call though that approval is still open. -/
theorem stale_approval_clears_pending (env : Option String) (w : World) (h : Inv w)
    (hc : w.service.signClient.isSome) (hs : w.service.session = none) {a₁ a₂ : Nat}
    (hp : w.service.pendingApproval = some a₂) (h₁ : a₁ < w.approvals)
    (hu₁ : w.settled.lookup a₁ = none) (hne : a₁ ≠ a₂) (e : String) :
    let n := w.tasks.length
    let w' := run env w [.approvalSettles a₁ (.error e), .call .waitForSession, .timeoutFires n]
    w'.service.pendingApproval = none ∧ w'.settled.lookup a₂ = none ∧ a₂ < w'.approvals ∧
    (w'.tasks[n]?.bind Task.outcome) = some (.threw connectionTimeoutMessage) := by
  intro n w'
  obtain ⟨ha₂, hu₂⟩ := h.pending_open a₂ hp
  obtain ⟨k, hk⟩ := Option.isSome_iff_exists.mp hc
  let w₁ := { w.setPending none with settled := (a₁, some e) :: w.settled }
  have hs₁ : step env w (.approvalSettles a₁ (.error e)) = w₁ := by
    simp [step, World.approvalSettles, h₁, hu₁, w₁]
  have hs₂ : step env w₁ (.call .waitForSession) = w₁.spawn .polling := by
    simp [step, World.call, World.poll, w₁, hk, hs]
  have hs₃ : step env (w₁.spawn .polling) (.timeoutFires n) =
      (w₁.spawn .polling).setTask n .timedOut := by
    simp [step, World.timeoutFires, World.spawn_getElem?_self, w₁, n]
  have hw : w' = (w₁.spawn .polling).setTask n .timedOut := by
    simp only [w', run_cons, run_nil, hs₁, hs₂, hs₃]
  rw [hw]
  refine ⟨rfl, ?_, ha₂, ?_⟩
  · -- Approval `a₂` has not settled: only `a₁` was added.
    have hne' : (a₂ == a₁) = false := by simpa using hne.symm
    simp [w₁, List.lookup_cons, hne', hu₂]
  · rw [World.setTask_getElem?_self _ (by simp [w₁, n])]; rfl

theorem second_connection_loses_its_approval :
    let env : Option String := some "soter-mobile"
    let w := run env World.start [.call .initializeClient, .initSettles 0 (.ok ()),
      .call .createConnection, .connectSettles 1 (.ok (some "wc:1")),
      .call .createConnection, .connectSettles 2 (.ok (some "wc:2"))]
    (Inv w ∧ w.service.signClient.isSome ∧ w.service.session = none ∧
      w.service.pendingApproval = some 1 ∧ 0 < w.approvals ∧ w.settled.lookup 0 = none ∧ 0 ≠ 1) ∧
    let n := w.tasks.length
    let w' := run env w [.approvalSettles 0 (.error "expired"), .call .waitForSession, .timeoutFires n]
    w'.service.pendingApproval = none ∧ w'.settled.lookup 1 = none ∧ 1 < w'.approvals ∧
    (w'.tasks[n]?.bind Task.outcome) = some (.threw connectionTimeoutMessage) :=
  ⟨⟨Inv.start.run _ _, rfl, rfl, rfl, by decide, rfl, by decide⟩,
    stale_approval_clears_pending _ _ (Inv.start.run _ _) (by rfl) (by rfl) (by rfl) (by decide) (by rfl)
      (by decide) _⟩

/-- After the timeout rejects a polling `waitForSession`, its check goes on
    rescheduling itself, through any number of firings, while no session is
    set; when a session arrives, the next check ends the loop, but the call
    has failed with the timeout while the service holds the session. -/
theorem timed_out_poll_keeps_polling (env : Option String) (w : World) {i : Nat}
    (hi : w.tasks[i]? = some .polling) (hs : w.service.session = none) (checks : Nat)
    {client : Nat} (hl : client ∈ w.listening) (session : SignSession) :
    let w' := run env w (.timeoutFires i :: List.replicate checks (.checkFires i))
    let w'' := run env w' [.sessionConnect client session, .checkFires i]
    w'.tasks[i]? = some .timedOut ∧ w'.service.session = none ∧
    w''.tasks[i]? = some (.done (.threw connectionTimeoutMessage)) ∧
    w''.service.session = some session.toWalletSession := by
  intro w' w''
  have hlt : i < w.tasks.length := (List.getElem?_eq_some_iff.mp hi).1
  let w₁ := w.setTask i .timedOut
  have ht : w₁.tasks[i]? = some .timedOut := World.setTask_getElem?_self _ hlt
  -- With no session, every check reschedules itself and changes nothing.
  have hchecks : ∀ k, run env w₁ (List.replicate k (.checkFires i)) = w₁ := by
    intro k
    induction k with
    | zero => rfl
    | succ k ih =>
        rw [List.replicate_succ, run_cons]
        simp only [step, World.checkFires_timedOut ht hs]
        exact ih
  have hw' : w' = w₁ := by
    simp only [w', run_cons, step, World.timeoutFires, hi]
    exact hchecks checks
  have hw'' : w'' = run env w₁ [.sessionConnect client session, .checkFires i] := by
    rw [← hw']
  -- A session arrives; the next check ends the loop, but the call has already failed.
  let w₂ := w₁.setSession (some session.toWalletSession)
  have hc₁ : step env w₁ (.sessionConnect client session) = w₂ := by
    simp [step, World.sessionConnect, w₁, hl, w₂]
  have hc₂ : step env w₂ (.checkFires i) = w₂.setTask i (.done (.threw connectionTimeoutMessage)) := by
    simp [step, World.checkFires, w₂, ht]
  have hw₂ : w'' = w₂.setTask i (.done (.threw connectionTimeoutMessage)) := by
    rw [hw'', run_cons, run_cons, run_nil, hc₁, hc₂]
  refine ⟨by rw [hw']; exact ht, by rw [hw']; exact hs, ?_, by rw [hw₂]; rfl⟩
  rw [hw₂]
  exact World.setTask_getElem?_self _ (by simpa [w₂, w₁] using hlt)

theorem poll_outlives_timeout_after_wait :
    let env : Option String := some "soter-mobile"
    let w := run env World.start [.call .initializeClient, .initSettles 0 (.ok ()), .call .waitForSession]
    let session : SignSession := ⟨"topic-0", some ["stellar:mainnet:GABC"]⟩
    (w.tasks[1]? = some .polling ∧ w.service.session = none ∧ 0 ∈ w.listening) ∧
    let w' := run env w (.timeoutFires 1 :: List.replicate 3 (.checkFires 1))
    let w'' := run env w' [.sessionConnect 0 session, .checkFires 1]
    w'.tasks[1]? = some .timedOut ∧ w'.service.session = none ∧
    w''.tasks[1]? = some (.done (.threw connectionTimeoutMessage)) ∧
    w''.service.session = some session.toWalletSession :=
  ⟨⟨rfl, rfl, by decide⟩, timed_out_poll_keeps_polling _ _ (by rfl) (by rfl) 3 (by decide) _⟩

/-- One event that is not the wallet answering approval `a` leaves a call
    awaiting `a` waiting, and `a` open. -/
theorem awaitApproval_step (env : Option String) {w : World} {i a : Nat}
    (hi : w.tasks[i]? = some (.awaitApproval a)) (hu : w.settled.lookup a = none)
    (e : Event) (he : ∀ r, e ≠ .approvalSettles a r) :
    (step env w e).tasks[i]? = some (.awaitApproval a) ∧ (step env w e).settled.lookup a = none := by
  constructor
  · by_cases ht : e.target = some i
    · -- The events that resume call `i` find it awaiting an open approval and do nothing.
      have hw : step env w e = w := by
        cases e <;> simp only [Event.target, Option.some.injEq, reduceCtorEq] at ht <;> subst ht <;>
          simp [step, World.initSettles, World.connectSettles, World.disconnectSettles,
            World.resume, World.restoreResume, World.checkFires, World.timeoutFires, hi, hu]
      rw [hw, hi]
    · rw [step_getElem?_of_target_ne env w e (List.getElem?_eq_some_iff.mp hi).1 ht, hi]
  · rcases step_settled env w e with h | ⟨a', r, x, rfl, h⟩
    · rw [h, hu]
    · have hne : (a == a') = false := by
        simpa using fun h : a = a' => he r (by rw [h])
      rw [h, List.lookup_cons, hne]
      exact hu

/-- A `waitForSession` awaiting an approval goes on waiting through every run
    in which the wallet does not answer that approval: the 120 s timeout is
    not armed on this path, and no other call, timer, session event or
    disconnect ends it. -/
theorem approval_wait_has_no_timeout (env : Option String) (w : World) {i a : Nat}
    (hi : w.tasks[i]? = some (.awaitApproval a)) (hu : w.settled.lookup a = none)
    (events : List Event) (hno : ∀ e ∈ events, ∀ r, e ≠ .approvalSettles a r) :
    (run env w events).tasks[i]? = some (.awaitApproval a) := by
  induction events generalizing w with
  | nil => exact hi
  | cons e es ih =>
      obtain ⟨hi', hu'⟩ := awaitApproval_step env hi hu e (hno e (List.mem_cons_self e es))
      exact ih _ hi' hu' fun e' he' => hno e' (List.mem_cons_of_mem e he')

theorem approval_wait_outlasts_timers_and_disconnect :
    let env : Option String := some "soter-mobile"
    let w := run env World.start [.call .initializeClient, .initSettles 0 (.ok ()),
      .call .createConnection, .connectSettles 1 (.ok (some "wc:1")), .call .waitForSession]
    let events : List Event := [.timeoutFires 2, .checkFires 2,
      .sessionConnect 0 ⟨"topic-0", some ["stellar:mainnet:GABC"]⟩, .call .disconnect, .resume 2]
    (w.tasks[2]? = some (.awaitApproval 0) ∧ w.settled.lookup 0 = none ∧
      ∀ e ∈ events, ∀ r, e ≠ .approvalSettles 0 r) ∧
    (run env w events).tasks[2]? = some (.awaitApproval 0) :=
  ⟨⟨rfl, rfl, by simp⟩, approval_wait_has_no_timeout _ _ (by rfl) (by rfl) _ (by simp)⟩

end Wallet

end Soter
