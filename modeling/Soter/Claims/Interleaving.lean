import Soter.Claims.Run

/-!
# Interleaved Transitions

`transition` makes two statements against the database inside its
`$transaction`: `findUnique`, followed by the status check in application
code, and then `update`. The transaction is opened with no `isolationLevel`,
so each statement reads the latest committed data, and the `update` names the
row by `{ id }` alone, not by `{ id, status: fromStatus }`. Two calls on one
claim can therefore interleave their statements, and the check one of them
made may be stale by the time its `update` runs.

This file models that. A call in flight is a `TransitionCall` and a `Phase`;
`TransitionCall.advance` is the one statement it makes next, against the
shared state, and `Sys.run` follows a schedule naming whose statement runs at
each point. A call that throws has written nothing, so rollback leaves the
state as the other calls see it.

Two facts tie the model to `ClaimsService.transition`. A call's two
statements, run back to back, are the whole transaction (`advance_advance`),
so a schedule that runs the calls one after another gives exactly the
sequential service, and such an outcome is `Linearizable`
(`serial_schedule_runs_service`). But the model also permits schedules in
which every call reads before any of them writes. Then `n` calls on the same
edge all return the updated claim and all print their audit line, which no
order of the same calls run one at a time can produce
(`same_edge_calls_all_succeed`); for two `approve` calls this is
`concurrent_approvals_both_succeed`. A stale read can also carry a claim
backwards: an approval that read `verified` before another approval and a
disbursal went through writes `approved` over `disbursed`
(`stale_approval_undoes_disbursal`).

## Main definitions

* `Phase`: How far a call in flight has got.
* `TransitionCall.advance`: The next statement of a call.
* `Sys`, `Sys.step`, `Sys.run`: Calls in flight, and a schedule.
* `Sys.outcomes`: What each call returned or threw, once all are done.
* `runSerial`: The calls run one at a time by the sequential service.
* `Linearizable`: Some order of the calls, run one at a time, agrees.
* `serialSchedule`: The schedule running the calls one after another.

## Theorems

* `advance_pending_of_status`, `advance_checked`: The two statements of a
  call that passes its check.
* `run_range_replicate`: Sweeping copies of one call through one phase.
* `not_linearizable_replicate`: Repeated successes of one call that cannot
  succeed twice in a row have no linearization.
* `concurrent_approvals_both_succeed`: Two `approve` calls on a verified
  claim can both succeed.
* `same_edge_calls_all_succeed`: Any number of calls on one edge can all
  succeed, with no linearization.
* `stale_approval_undoes_disbursal`: A stale approval moves a disbursed
  claim back to `approved`.
* `advance_advance`: A call's two statements are its transaction.
* `run_serialSchedule_take`: Running the first calls to completion.
* `serial_schedule_runs_service`: Serial schedules are the sequential
  service, and linearizable.
-/

namespace Soter

namespace Claims

open ClaimsService

/-- How far one `transition` call in flight has got. -/
inductive Phase
  /-- `findUnique` has not run yet. -/
  | pending
  /-- `findUnique` found the claim in `fromStatus`; `update` is next. -/
  | checked
  /-- The call has returned or thrown. -/
  | done (result : Except ServiceError Claim)

namespace TransitionCall

/-- The next statement of call `t` in phase `p`, against the committed state:
    `findUnique` and the checks, then `update`, the audit line and the
    commit. A throw writes nothing. -/
def advance (t : TransitionCall) : Phase → State → Phase × State
  | .pending, s =>
      match s.store.findClaim t.id with
      | none => (.done (.error (.notFound "Claim not found")), s)
      | some claim =>
          if claim.status ≠ t.fromStatus then
            (.done (.error (.badRequest (cannotTransition claim.status t.toStatus))), s)
          else (.checked, s)
  | .checked, s =>
      match s.store.updateClaim t.id t.toStatus with
      | none => (.done (.error .recordNotFound), s)
      | some (claim, store) => (.done (.ok claim), ⟨store, s.audit ++ [⟨t.auditMessage, t.id⟩]⟩)
  | .done r, s => (.done r, s)

end TransitionCall

/-- What a finished computation returned or threw. -/
def resultOf {α : Type} : EStateM.Result ServiceError State α → Except ServiceError α
  | .ok a _ => .ok a
  | .error e _ => .error e

/-- The state a finished computation left. -/
def stateOf {α : Type} : EStateM.Result ServiceError State α → State
  | .ok _ s => s
  | .error _ s => s

namespace TransitionCall

/-- A read that finds the claim in the edge's source status passes the check
    and writes nothing. -/
theorem advance_pending_of_status (t : TransitionCall) {s : State} {c : Claim}
    (hc : s.store.findClaim t.id = some c) (hs : c.status = t.fromStatus) :
    t.advance .pending s = (.checked, s) := by
  simp [advance, hc, hs]

/-- The `update` of a call whose claim is stored writes the edge's target and
    prints the audit line, whatever status the claim is in by then. -/
theorem advance_checked (t : TransitionCall) {s : State} {c : Claim}
    (hc : s.store.findClaim t.id = some c) :
    t.advance .checked s =
      (.done (.ok { c with status := t.toStatus }), s.afterTransition t.id t.toStatus t.auditMessage) := by
  simp [advance, Store.updateClaim_of_findClaim _ hc, State.afterTransition]

end TransitionCall

/-- Calls in flight over one shared state. -/
structure Sys where
  state : State
  threads : List (TransitionCall × Phase)

namespace Sys

/-- The calls, none of them started. -/
def start (s : State) (calls : List TransitionCall) : Sys :=
  ⟨s, calls.map (·, .pending)⟩

/-- Call `i` makes its next statement; an index with no call changes nothing. -/
def step (σ : Sys) (i : Nat) : Sys :=
  match σ.threads[i]? with
  | some (t, p) => ⟨(t.advance p σ.state).2, σ.threads.set i (t, (t.advance p σ.state).1)⟩
  | none => σ

/-- The calls make their statements in the order a schedule names them. -/
def run (σ : Sys) : List Nat → Sys
  | [] => σ
  | i :: is => (σ.step i).run is

theorem run_append (σ : Sys) (is js : List Nat) : σ.run (is ++ js) = (σ.run is).run js := by
  induction is generalizing σ with
  | nil => rfl
  | cons i is ih => exact ih _

/-- The call at position `k` makes its next statement; the others are as
    they were. -/
theorem step_append_cons (st : State) (pre post : List (TransitionCall × Phase))
    (t : TransitionCall) (p : Phase) {k : Nat} (hk : pre.length = k) :
    (⟨st, pre ++ (t, p) :: post⟩ : Sys).step k =
      ⟨(t.advance p st).2, pre ++ (t, (t.advance p st).1) :: post⟩ := by
  subst hk
  have h : (pre ++ (t, p) :: post)[pre.length]? = some (t, p) := by
    rw [List.getElem?_append_right (le_refl _)]; simp
  simp only [step, h, List.set_append_right _ _ (le_refl _), Nat.sub_self, List.set_cons_zero]

/-- Sweeping calls `0, …, k - 1` of `n` copies of `t`, all in phase `p`, when
    each of their statements takes `p` to `q` and the state by `f`, on states
    satisfying `P`. -/
theorem run_range_replicate (t : TransitionCall) (p q : Phase) (f : State → State)
    (P : State → Prop) (hP : ∀ s, P s → t.advance p s = (q, f s) ∧ P (f s)) {n : Nat} :
    ∀ k ≤ n, ∀ s, P s →
      (⟨s, List.replicate n (t, p)⟩ : Sys).run (List.range k) =
        ⟨f^[k] s, List.replicate k (t, q) ++ List.replicate (n - k) (t, p)⟩ ∧ P (f^[k] s) := by
  intro k
  induction k with
  | zero => intro _ s hs; exact ⟨by simp [run], hs⟩
  | succ k ih =>
      intro hk s hs
      obtain ⟨hrun, hPk⟩ := ih (by omega) s hs
      obtain ⟨hadv, hPk'⟩ := hP _ hPk
      have hn : n - k = (n - (k + 1)) + 1 := by omega
      refine ⟨?_, by rw [Function.iterate_succ_apply']; exact hPk'⟩
      rw [List.range_succ, run_append, hrun, hn, List.replicate_succ]
      simp only [run, step_append_cons _ _ _ t p (List.length_replicate k _), hadv,
        Function.iterate_succ_apply', List.replicate_succ', List.append_assoc, List.singleton_append]

/-- Each call with what it returned or threw, once every call is done. -/
def outcomesOf : List (TransitionCall × Phase) → Option (List (TransitionCall × Except ServiceError Claim))
  | [] => some []
  | (t, .done r) :: ts => (outcomesOf ts).map ((t, r) :: ·)
  | _ :: _ => none

/-- What every call returned or threw, once all are done. -/
def outcomes (σ : Sys) : Option (List (TransitionCall × Except ServiceError Claim)) :=
  outcomesOf σ.threads

theorem outcomesOf_map_done (l : List (TransitionCall × Except ServiceError Claim)) :
    outcomesOf (l.map fun x => (x.1, .done x.2)) = some l := by
  induction l with
  | nil => rfl
  | cons x l ih => simp [outcomesOf, ih]

end Sys

/-- The calls run one at a time by the sequential service: each call's result,
    and the state after the last. -/
def runSerial : List TransitionCall → State → List (Except ServiceError Claim) × State
  | [], s => ([], s)
  | t :: ts, s => (resultOf (t.run s) :: (runSerial ts (stateOf (t.run s))).1,
      (runSerial ts (stateOf (t.run s))).2)

/-- Concurrent calls, each with what it returned or threw, leaving `store`, are
    linearizable from `s` when some order of the same calls, run one at a time
    from `s`, gives every call the same result and leaves the same store. -/
def Linearizable (s : State) (outcomes : List (TransitionCall × Except ServiceError Claim))
    (store : Store) : Prop :=
  ∃ order : List (TransitionCall × Except ServiceError Claim), order.Perm outcomes ∧
    (runSerial (order.map Prod.fst) s).1 = order.map Prod.snd ∧
    (runSerial (order.map Prod.fst) s).2.store = store

/-- A call that returns from `s` and then cannot return again: no order of
    two or more copies of it, run one at a time from `s`, returns every time. -/
theorem no_serial_order_replicate {t : TransitionCall} {s s' : State} {c : Claim}
    (h₁ : t.run s = .ok c s') (h₂ : ∀ c' s'', t.run s' ≠ .ok c' s'') {n : Nat} (hn : 2 ≤ n)
    (order : List (TransitionCall × Except ServiceError Claim))
    (hperm : order.Perm (List.replicate n (t, .ok c))) :
    (runSerial (order.map Prod.fst) s).1 ≠ order.map Prod.snd := by
  intro hres
  rw [List.perm_replicate] at hperm
  subst hperm
  obtain ⟨k, rfl⟩ : ∃ k, n = k + 2 := ⟨n - 2, by omega⟩
  -- The second call, run after the first, does not return.
  rcases h : t.run s' with ⟨c', s''⟩ | ⟨e, s''⟩
  · exact h₂ _ _ h
  · simp [List.replicate_succ, runSerial, h₁, h, resultOf, stateOf] at hres

/-- Such a call has no linearization in which it returns two or more times. -/
theorem not_linearizable_replicate {t : TransitionCall} {s s' : State} {c : Claim}
    (h₁ : t.run s = .ok c s') (h₂ : ∀ c' s'', t.run s' ≠ .ok c' s'') {n : Nat} (hn : 2 ≤ n)
    (store : Store) : ¬ Linearizable s (List.replicate n (t, .ok c)) store :=
  fun ⟨order, hperm, hres, _⟩ => no_serial_order_replicate h₁ h₂ hn order hperm hres

/-- Two `approve` calls on a claim in `verified` (reached by `create` and
    `verify`), scheduled read, read, write, write: both return the approved
    claim and both print `Claim approved`, and no order of the two calls run
    one at a time does that. -/
theorem concurrent_approvals_both_succeed :
    let s₀ : State :=
      run ⟨Store.empty [⟨0, "active"⟩] 0, []⟩ [.create ⟨0, 300, "rec4", none⟩, .verify 0]
    let approve : TransitionCall := ⟨0, .verified, .approved, "Claim approved"⟩
    let approved : Claim := ⟨0, 0, 300, "rec4", none, .approved⟩
    let σ : Sys := (Sys.start s₀ [approve, approve]).run [0, 1, 0, 1]
    σ.outcomes = some [(approve, .ok approved), (approve, .ok approved)] ∧
    σ.state.audit = [⟨"Claim created", 0⟩, ⟨"Claim verified", 0⟩, ⟨"Claim approved", 0⟩,
      ⟨"Claim approved", 0⟩] ∧
    ¬ Linearizable s₀ [(approve, .ok approved), (approve, .ok approved)] σ.state.store := by
  intro s₀ approve approved σ
  refine ⟨rfl, rfl, @not_linearizable_replicate approve s₀
    (s₀.afterTransition 0 .approved "Claim approved") approved rfl ?_ 2 (le_refl 2) _⟩
  -- Run alone after the first approval, the second finds `approved` and throws.
  intro c' s'' h
  cases h

/-! ### Every call on one edge can succeed -/

theorem audit_iterate_afterTransition (s : State) (id : Nat) (toStatus : ClaimStatus)
    (auditMessage : String) (k : Nat) :
    ((·.afterTransition id toStatus auditMessage)^[k] s).audit =
      s.audit ++ List.replicate k ⟨auditMessage, id⟩ := by
  induction k with
  | zero => simp
  | succ k ih =>
      rw [Function.iterate_succ_apply', State.afterTransition, List.replicate_succ']
      simp [ih]

/-- `n` calls of one lifecycle operation on a claim in the edge's source
    status, every call reading before any writes: each returns the updated
    claim and prints its audit line, and when there are two or more no order of
    the same calls run one at a time gives those results. -/
theorem same_edge_calls_all_succeed (op : Op) (t : TransitionCall) (ht : op.transition? = some t)
    (s : State) (c : Claim) (hc : s.store.findClaim t.id = some c) (hs : c.status = t.fromStatus)
    (n : Nat) :
    ((Sys.start s (List.replicate n t)).run (List.range n ++ List.range n)).outcomes =
        some (List.replicate n (t, .ok { c with status := t.toStatus })) ∧
    ((Sys.start s (List.replicate n t)).run (List.range n ++ List.range n)).state.audit =
        s.audit ++ List.replicate n ⟨t.auditMessage, t.id⟩ ∧
    (2 ≤ n → ∀ order : List (TransitionCall × Except ServiceError Claim),
        order.Perm (List.replicate n (t, .ok { c with status := t.toStatus })) →
        (runSerial (order.map Prod.fst) s).1 ≠ order.map Prod.snd) := by
  let after : State → State := (·.afterTransition t.id t.toStatus t.auditMessage)
  -- Every read finds the claim in the source status and writes nothing.
  have hreads := Sys.run_range_replicate t .pending .checked id (· = s)
    (fun s' h => ⟨by subst h; exact TransitionCall.advance_pending_of_status t hc hs, h⟩) n le_rfl s rfl
  -- Every write finds the claim stored and returns it in the target status.
  have hwrites := Sys.run_range_replicate t .checked (.done (.ok { c with status := t.toStatus }))
    after (fun s' => ∃ c₀, s'.store.findClaim t.id = some c₀ ∧
      { c₀ with status := t.toStatus } = { c with status := t.toStatus })
    (fun s' ⟨c₀, h₀, he⟩ => ⟨by rw [TransitionCall.advance_checked t h₀, he],
      { c₀ with status := t.toStatus }, by
        simp [after, State.afterTransition, Store.findClaim_writeStatus_self, h₀], he⟩)
    n le_rfl s ⟨c, hc, rfl⟩
  have hrun : (Sys.start s (List.replicate n t)).run (List.range n ++ List.range n) =
      ⟨after^[n] s, List.replicate n (t, .done (.ok { c with status := t.toStatus }))⟩ := by
    rw [Sys.run_append, Sys.start, List.map_replicate, hreads.1]
    simpa using hwrites.1
  rw [hrun]
  refine ⟨?_, audit_iterate_afterTransition s _ _ _ n, fun hn => ?_⟩
  · simpa [Sys.outcomes, List.map_replicate] using
      Sys.outcomesOf_map_done (List.replicate n (t, .ok { c with status := t.toStatus }))
  · -- Run alone, the first call moves the claim off the source status, so a
    -- second call throws.
    have hne := ClaimStatus.next_ne_self (Op.next_of_transition? ht)
    refine @no_serial_order_replicate t s (after s) _ ?_ ?_ n hn
    · simp [TransitionCall.run, transition_eq, hc, hs, after]
    · intro c' s'' h
      simp [TransitionCall.run, transition_eq, after, State.afterTransition,
        Store.findClaim_writeStatus_self, hc, Ne.symm hne] at h

/-- Three concurrent `verify` calls on a freshly created claim all return it
    verified. -/
theorem three_verifies_all_succeed :
    let s : State := run ⟨Store.empty [⟨0, "active"⟩] 0, []⟩ [.create ⟨0, 200, "rec3", none⟩]
    let t : TransitionCall := ⟨0, .requested, .verified, "Claim verified"⟩
    let c : Claim := ⟨0, 0, 200, "rec3", none, .requested⟩
    ((Op.verify 0).transition? = some t ∧ s.store.findClaim t.id = some c ∧
      c.status = t.fromStatus) ∧
    ((Sys.start s (List.replicate 3 t)).run (List.range 3 ++ List.range 3)).outcomes =
        some (List.replicate 3 (t, .ok { c with status := t.toStatus })) ∧
    ((Sys.start s (List.replicate 3 t)).run (List.range 3 ++ List.range 3)).state.audit =
        s.audit ++ List.replicate 3 ⟨t.auditMessage, t.id⟩ ∧
    (2 ≤ 3 → ∀ order : List (TransitionCall × Except ServiceError Claim),
        order.Perm (List.replicate 3 (t, .ok { c with status := t.toStatus })) →
        (runSerial (order.map Prod.fst) s).1 ≠ order.map Prod.snd) :=
  ⟨⟨rfl, rfl, rfl⟩, same_edge_calls_all_succeed (.verify 0) _ rfl
    (run ⟨Store.empty [⟨0, "active"⟩] 0, []⟩ [.create ⟨0, 200, "rec3", none⟩])
    ⟨0, 0, 200, "rec3", none, .requested⟩ rfl rfl 3⟩

/-- An `approve` call that read a claim in `verified` before another approval
    and a disbursal went through writes `approved` over `disbursed`: all three
    calls return, and the claim's status has moved back along the chain. -/
theorem stale_approval_undoes_disbursal (s : State) (id : Nat) (c : Claim)
    (hc : s.store.findClaim id = some c) (hs : c.status = .verified) :
    let approve : TransitionCall := ⟨id, .verified, .approved, "Claim approved"⟩
    let disburse : TransitionCall := ⟨id, .approved, .disbursed, "Claim disbursed"⟩
    let σ : Sys := (Sys.start s [approve, disburse, approve]).run [2, 0, 0, 1, 1, 2]
    σ.outcomes = some [(approve, .ok { c with status := .approved }),
      (disburse, .ok { c with status := .disbursed }), (approve, .ok { c with status := .approved })] ∧
    σ.state.statusOf id = some .approved ∧
    σ.state.audit =
      s.audit ++ [⟨"Claim approved", id⟩, ⟨"Claim disbursed", id⟩, ⟨"Claim approved", id⟩] := by
  intro approve disburse σ
  -- The claim as the disbursal reads it, and as the stale approval writes it.
  have h₁ : (s.afterTransition id .approved "Claim approved").store.findClaim id =
      some { c with status := .approved } := by
    simp [State.afterTransition, Store.findClaim_writeStatus_self, hc]
  have h₂ : ((s.afterTransition id .approved "Claim approved").afterTransition id .disbursed
      "Claim disbursed").store.findClaim id = some { c with status := .disbursed } := by
    simp [State.afterTransition, Store.findClaim_writeStatus_self, hc]
  simp only [σ, Sys.start, List.map, Sys.run, Sys.step, List.getElem?_cons_succ,
    List.getElem?_cons_zero, List.set_cons_succ, List.set_cons_zero,
    TransitionCall.advance_pending_of_status approve hc hs, TransitionCall.advance_checked approve hc,
    TransitionCall.advance_pending_of_status disburse h₁ rfl,
    TransitionCall.advance_checked disburse h₁, TransitionCall.advance_checked approve h₂]
  simp [Sys.outcomes, Sys.outcomesOf, State.statusOf, State.afterTransition,
    Store.findClaim_writeStatus_self, hc]

/-- The anomaly on a claim verified by the service itself. -/
theorem stale_approval_on_verified_claim :
    let s : State := run ⟨Store.empty [⟨0, "active"⟩] 0, []⟩ [.create ⟨0, 300, "rec4", none⟩, .verify 0]
    let c : Claim := ⟨0, 0, 300, "rec4", none, .verified⟩
    (s.store.findClaim 0 = some c ∧ c.status = .verified) ∧
    ((Sys.start s [⟨0, .verified, .approved, "Claim approved"⟩, ⟨0, .approved, .disbursed, "Claim disbursed"⟩,
        ⟨0, .verified, .approved, "Claim approved"⟩]).run [2, 0, 0, 1, 1, 2]).outcomes =
      some [(⟨0, .verified, .approved, "Claim approved"⟩, .ok { c with status := .approved }),
        (⟨0, .approved, .disbursed, "Claim disbursed"⟩, .ok { c with status := .disbursed }),
        (⟨0, .verified, .approved, "Claim approved"⟩, .ok { c with status := .approved })] ∧
    ((Sys.start s [⟨0, .verified, .approved, "Claim approved"⟩, ⟨0, .approved, .disbursed, "Claim disbursed"⟩,
        ⟨0, .verified, .approved, "Claim approved"⟩]).run [2, 0, 0, 1, 1, 2]).state.statusOf 0 =
      some .approved ∧
    ((Sys.start s [⟨0, .verified, .approved, "Claim approved"⟩, ⟨0, .approved, .disbursed, "Claim disbursed"⟩,
        ⟨0, .verified, .approved, "Claim approved"⟩]).run [2, 0, 0, 1, 1, 2]).state.audit =
      s.audit ++ [⟨"Claim approved", 0⟩, ⟨"Claim disbursed", 0⟩, ⟨"Claim approved", 0⟩] :=
  ⟨⟨rfl, rfl⟩, stale_approval_undoes_disbursal
    (run ⟨Store.empty [⟨0, "active"⟩] 0, []⟩ [.create ⟨0, 300, "rec4", none⟩, .verify 0]) 0
    ⟨0, 0, 300, "rec4", none, .verified⟩ rfl rfl⟩

/-! ### Serial schedules are the sequential service -/

namespace TransitionCall

/-- A call's two statements, back to back, are its whole transaction. -/
theorem advance_advance (t : TransitionCall) (s : State) :
    t.advance (t.advance .pending s).1 (t.advance .pending s).2 =
      (.done (resultOf (t.run s)), stateOf (t.run s)) := by
  rcases hc : s.store.findClaim t.id with _ | c
  · simp [advance, run, transition_eq, hc, resultOf, stateOf]
  · by_cases hs : c.status = t.fromStatus
    · simp [advance, run, transition_eq, hc, hs, resultOf, stateOf,
        Store.updateClaim_of_findClaim _ hc, State.afterTransition]
    · simp [advance, run, transition_eq, hc, hs, resultOf, stateOf]

end TransitionCall

/-- The schedule running the calls one after another, each to completion. -/
def serialSchedule : Nat → List Nat
  | 0 => []
  | n + 1 => serialSchedule n ++ [n, n]

theorem runSerial_length (calls : List TransitionCall) (s : State) :
    (runSerial calls s).1.length = calls.length := by
  induction calls generalizing s with
  | nil => rfl
  | cons t ts ih => simp [runSerial, ih]

theorem runSerial_append_singleton (calls : List TransitionCall) (t : TransitionCall) (s : State) :
    runSerial (calls ++ [t]) s =
      ((runSerial calls s).1 ++ [resultOf (t.run (runSerial calls s).2)],
        stateOf (t.run (runSerial calls s).2)) := by
  induction calls generalizing s with
  | nil => rfl
  | cons t' ts ih => simp [runSerial, ih]

/-- After the first `k` calls have run to completion, in order: the state and
    results are those of the sequential service on them, and the rest have not
    started. -/
theorem run_serialSchedule_take (s : State) (calls : List TransitionCall) :
    ∀ k ≤ calls.length, (Sys.start s calls).run (serialSchedule k) =
      ⟨(runSerial (calls.take k) s).2,
        ((calls.take k).zip (runSerial (calls.take k) s).1).map (fun x => (x.1, .done x.2)) ++
          (calls.drop k).map (·, .pending)⟩ := by
  intro k
  induction k with
  | zero => intro _; simp [serialSchedule, Sys.run, Sys.start, runSerial]
  | succ k ih =>
      intro hk
      have hlen : (((calls.take k).zip (runSerial (calls.take k) s).1).map
          (fun x => (x.1, Phase.done x.2))).length = k := by
        simp [runSerial_length]; omega
      rw [serialSchedule, Sys.run_append, ih (by omega), List.drop_eq_getElem_cons (by omega)]
      simp only [List.map_cons, Sys.run, Sys.step_append_cons _ _ _ _ _ hlen,
        TransitionCall.advance_advance]
      -- The call at position `k` is the next one the sequential service runs.
      rw [List.take_succ, List.getElem?_eq_getElem (by omega), Option.toList_some,
        runSerial_append_singleton, List.zip_append (by simp [runSerial_length])]
      simp

/-- Run one after another, each to completion, the interleaved calls are the
    sequential service: the same results, the same final state, and so a
    linearizable outcome. -/
theorem serial_schedule_runs_service (s : State) (calls : List TransitionCall) :
    ((Sys.start s calls).run (serialSchedule calls.length)).outcomes =
        some (calls.zip (runSerial calls s).1) ∧
    ((Sys.start s calls).run (serialSchedule calls.length)).state = (runSerial calls s).2 ∧
    Linearizable s (calls.zip (runSerial calls s).1)
      ((Sys.start s calls).run (serialSchedule calls.length)).state.store := by
  have hrun := run_serialSchedule_take s calls calls.length le_rfl
  simp only [List.take_length, List.drop_length, List.map_nil, List.append_nil] at hrun
  have hfst : (calls.zip (runSerial calls s).1).map Prod.fst = calls :=
    List.map_fst_zip _ _ (by rw [runSerial_length])
  refine ⟨by rw [hrun, Sys.outcomes, Sys.outcomesOf_map_done], by rw [hrun], ?_⟩
  -- The calls in their own order witness linearizability.
  refine ⟨_, List.Perm.refl _, ?_, by rw [hfst, hrun]⟩
  rw [hfst, List.map_snd_zip _ _ (by rw [runSerial_length])]

end Claims

end Soter
