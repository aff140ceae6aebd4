import Soter.Claims.Interleaving

/-!
# Calls on Distinct Claims

The race in `Claims.Interleaving` needs two calls on one claim. Calls on
different claims never meet: `transition` reads and writes only the row it is
given, so whatever the schedule, each call sees its claim as it was when the
calls started and ends exactly as it would have run alone.

`Isolated` is that statement as an invariant of the interleaving model. Every
call is where running it alone from the starting state would have put it
(`PhaseOK`), and the store is the starting store with the writes of the calls
that have returned (`written`). Distinct claim ids are what make the second
part hold: the one thread on a given id is the only one that can write it
(`thread_unique`), so a read by a call that has not returned finds the row
untouched (`written_of_not_returned`), and a call's write changes its own row
and no other (`written_set_of_ne`, `written_set_of_returned`).

`Isolated.step` keeps the invariant through any statement of any call, and
`Isolated.run` through any schedule. Every complete schedule therefore ends
in the same results and the same store, and the serial schedule is one of
them. Since the serial schedule is the sequential service
(`run_serialSchedule_take`), every outcome of calls on distinct claims is
linearizable (`distinct_claims_linearizable`).

## Main definitions

* `Phase.returned`: Whether a call has returned.
* `written`: A row after the writes of the calls that have returned.
* `PhaseOK`: A call is where running it alone would have put it.
* `Isolated`: The invariant of calls on distinct claims.

## Theorems

* `thread_unique`: Distinct ids give one thread per claim.
* `written_of_not_returned`, `written_set_of_ne`, `written_set_of_returned`:
  Whose writes a row carries.
* `written_set_of_not_returned`, `written_set_of_write`: A read changes no
  row; a returning write changes its own row as `writeStatus` does.
* `Isolated.read_pending`, `Isolated.set_phase`: The two kinds of statement.
* `Isolated.step`, `Isolated.run`: The invariant holds along every schedule.
* `Isolated.outcomes_eq`: Finished calls ended as they would alone.
* `distinct_claims_linearizable`: Calls on distinct claims are linearizable
  under every schedule.
-/

namespace Soter

namespace Claims

open ClaimsService

/-- Whether a call in this phase has returned. -/
def Phase.returned : Phase → Bool
  | .done (.ok _) => true
  | _ => false

/-- A stored row after the writes of the calls that have returned: the target
    status of the returned call on its id, if there is one. -/
def written (ts : List (TransitionCall × Phase)) (c : Claim) : Claim :=
  match ts.find? (fun tp => tp.1.id == c.id && tp.2.returned) with
  | some tp => { c with status := tp.1.toStatus }
  | none => c

@[simp] theorem written_id (ts : List (TransitionCall × Phase)) (c : Claim) :
    (written ts c).id = c.id := by
  unfold written; split <;> rfl

theorem find?_set_of_not {α : Type} (p : α → Bool) (x : α) :
    ∀ (l : List α) (i : Nat), p x = false → (∀ y, l[i]? = some y → p y = false) →
      (l.set i x).find? p = l.find? p
  | [], _, _, _ => rfl
  | y :: l, 0, hx, hy => by simp [List.find?_cons, hx, hy y (by simp)]
  | y :: l, i + 1, hx, hy => by
      simp only [List.set_cons_succ, List.find?_cons]
      rw [find?_set_of_not p x l i hx (fun z hz => hy z (by simpa using hz))]

theorem set_of_getElem? {α : Type} {l : List α} {i : Nat} {a : α} (h : l[i]? = some a) :
    l.set i a = l := by
  apply List.ext_getElem?
  intro j
  rw [List.getElem?_set]
  split
  · subst j; simp [h, (List.getElem?_eq_some_iff.mp h).1]
  · rfl

section Threads

variable {ts : List (TransitionCall × Phase)} {i : Nat} {t : TransitionCall} {p : Phase}

theorem getElem?_set_thread (hi : ts[i]? = some (t, p)) (q : Phase) :
    (ts.set i (t, q))[i]? = some (t, q) :=
  List.getElem?_set_self (List.getElem?_eq_some_iff.mp hi).1

theorem map_fst_set (hi : ts[i]? = some (t, p)) (q : Phase) :
    (ts.set i (t, q)).map Prod.fst = ts.map Prod.fst := by
  rw [List.map_set]
  exact set_of_getElem? (by simp [hi])

theorem ids_nodup_set (hd : (ts.map (·.1.id)).Nodup) (hi : ts[i]? = some (t, p)) (q : Phase) :
    ((ts.set i (t, q)).map (·.1.id)).Nodup := by
  rwa [List.map_set, set_of_getElem? (by simp [hi])]

end Threads

theorem thread_unique {ts : List (TransitionCall × Phase)} (hd : (ts.map (·.1.id)).Nodup)
    {i : Nat} {t : TransitionCall} {p : Phase} (hi : ts[i]? = some (t, p))
    {tp : TransitionCall × Phase} (hmem : tp ∈ ts) (hid : tp.1.id = t.id) : tp = (t, p) := by
  obtain ⟨j, hj⟩ := List.mem_iff_getElem?.mp hmem
  have hmi : (ts.map (·.1.id))[i]? = some t.id := by simp [hi]
  have hmj : (ts.map (·.1.id))[j]? = some t.id := by simp [hj, hid]
  rcases Nat.lt_trichotomy i j with h | rfl | h
  · have hjl : j < (ts.map (·.1.id)).length := (List.getElem?_eq_some_iff.mp hmj).1
    exact absurd (hmi.trans hmj.symm) (List.nodup_iff_getElem?_ne_getElem?.mp hd i j h hjl)
  · exact Option.some.inj (hj.symm.trans hi)
  · have hil : i < (ts.map (·.1.id)).length := (List.getElem?_eq_some_iff.mp hmi).1
    exact absurd (hmj.trans hmi.symm) (List.nodup_iff_getElem?_ne_getElem?.mp hd j i h hil)

section Written

variable {ts : List (TransitionCall × Phase)} {i : Nat} {t : TransitionCall} {p : Phase}

/-- The row of a call that has not returned carries no write. -/
theorem written_of_not_returned (hd : (ts.map (·.1.id)).Nodup) (hi : ts[i]? = some (t, p))
    (hp : p.returned = false) {c : Claim} (hc : c.id = t.id) : written ts c = c := by
  have : ts.find? (fun tp => tp.1.id == c.id && tp.2.returned) = none := by
    rw [List.find?_eq_none]
    intro tp hmem hpred
    simp only [Bool.and_eq_true, beq_iff_eq] at hpred
    rw [thread_unique hd hi hmem (hpred.1.trans hc)] at hpred
    simp [hp] at hpred
  simp [written, this]

/-- Moving call `i` on leaves every other claim's row as it was. -/
theorem written_set_of_ne (hi : ts[i]? = some (t, p)) (q : Phase) {c : Claim} (hc : c.id ≠ t.id) :
    written (ts.set i (t, q)) c = written ts c := by
  have hne : (t.id == c.id) = false := by simpa using Ne.symm hc
  unfold written
  rw [find?_set_of_not _ _ ts i (by simp [hne]) (fun y hy => by
    rw [hi] at hy; cases hy; simp [hne])]

/-- Once call `i` has returned, its own claim's row carries its write. -/
theorem written_set_of_returned (hd : (ts.map (·.1.id)).Nodup) (hi : ts[i]? = some (t, p))
    {q : Phase} (hq : q.returned = true) {c : Claim} (hc : c.id = t.id) :
    written (ts.set i (t, q)) c = { c with status := t.toStatus } := by
  have hmem : (t, q) ∈ ts.set i (t, q) := List.mem_iff_getElem?.mpr ⟨i, getElem?_set_thread hi q⟩
  unfold written
  rcases hf : (ts.set i (t, q)).find? (fun tp => tp.1.id == c.id && tp.2.returned) with _ | tp
  · exact absurd (List.find?_eq_none.mp hf _ hmem) (by simp [hc, hq])
  · -- Whatever the search found has the id of call `i`, so it is call `i`.
    have hpred := List.find?_some hf
    simp only [Bool.and_eq_true, beq_iff_eq] at hpred
    have htp : tp.1 = t := by
      rcases List.mem_or_eq_of_mem_set (List.mem_of_find?_eq_some hf) with hmem' | rfl
      · rw [thread_unique hd hi hmem' (hpred.1.trans hc)]
      · rfl
    simp [hf, htp]

/-- Moving a call between phases that have not returned changes no row. -/
theorem written_set_of_not_returned (hd : (ts.map (·.1.id)).Nodup) (hi : ts[i]? = some (t, p))
    (hp : p.returned = false) (q : Phase) (hq : q.returned = false) :
    written (ts.set i (t, q)) = written ts := by
  funext c
  by_cases hc : c.id = t.id
  · rw [written_of_not_returned (ids_nodup_set hd hi q) (getElem?_set_thread hi q) hq hc,
      written_of_not_returned hd hi hp hc]
  · exact written_set_of_ne hi q hc

/-- A call that returns adds its write to its own claim's row, as
    `writeStatus` does to the store. -/
theorem written_set_of_write (hd : (ts.map (·.1.id)).Nodup) (hi : ts[i]? = some (t, p))
    (hp : p.returned = false) (q : Phase) (hq : q.returned = true) :
    written (ts.set i (t, q)) = Claim.setStatus t.id t.toStatus ∘ written ts := by
  funext c
  by_cases hc : c.id = t.id
  · simp [written_set_of_returned hd hi hq hc, written_of_not_returned hd hi hp hc,
      Claim.setStatus, hc]
  · simp [written_set_of_ne hi q hc, Claim.setStatus, hc]

end Written

theorem Sys.outcomesOf_eq_some {ts : List (TransitionCall × Phase)}
    {outs : List (TransitionCall × Except ServiceError Claim)} (h : Sys.outcomesOf ts = some outs) :
    ts = outs.map fun x => (x.1, .done x.2) := by
  induction ts generalizing outs with
  | nil => cases h; rfl
  | cons tp ts ih =>
      obtain ⟨t, p⟩ := tp
      cases p with
      | done r =>
          simp only [Sys.outcomesOf, Option.map_eq_some'] at h
          obtain ⟨outs', h', rfl⟩ := h
          simp [ih h']
      | _ => cases h

theorem Sys.threads_of_outcomes {σ : Sys} {outs : List (TransitionCall × Except ServiceError Claim)}
    (h : σ.outcomes = some outs) : σ.threads = outs.map fun x => (x.1, .done x.2) :=
  Sys.outcomesOf_eq_some h

/-- What the invariant asks of one call in flight from `s`: a checked call
    passed its check against `s`, and a finished one ended as it would have
    run alone from `s`. -/
def PhaseOK (s : State) (t : TransitionCall) : Phase → Prop
  | .pending => True
  | .checked => ∃ c, s.store.findClaim t.id = some c ∧ c.status = t.fromStatus
  | .done r => r = resultOf (t.run s)

/-- Calls in flight from `s` that have not interfered: each is where running
    it alone from `s` would have put it, and the store is `s`'s with the
    writes of the calls that have returned. -/
structure Isolated (s : State) (calls : List TransitionCall) (σ : Sys) : Prop where
  calls_eq : σ.threads.map Prod.fst = calls
  phases : ∀ tp ∈ σ.threads, PhaseOK s tp.1 tp.2
  claims_eq : σ.state.store.claims = s.store.claims.map (written σ.threads)
  aidPackages_eq : σ.state.store.aidPackages = s.store.aidPackages
  nextId_eq : σ.state.store.nextId = s.store.nextId

namespace Isolated

variable {s : State} {calls : List TransitionCall} {σ : Sys}

theorem findClaim (h : Isolated s calls σ) (id : Nat) :
    σ.state.store.findClaim id = (s.store.findClaim id).map (written σ.threads) := by
  have hp : ((·.id == id) ∘ written σ.threads) = (·.id == id) := by funext c; simp
  rw [Store.findClaim, h.claims_eq, List.find?_map, hp]
  rfl

theorem ids_nodup (h : Isolated s calls σ) (hd : (calls.map (·.id)).Nodup) :
    (σ.threads.map (·.1.id)).Nodup := by
  rw [← h.calls_eq, List.map_map] at hd
  exact hd

theorem start (s : State) (calls : List TransitionCall) : Isolated s calls (Sys.start s calls) where
  calls_eq := by simp only [Sys.start, List.map_map]; exact List.map_id' _
  phases := by simp [Sys.start, PhaseOK]
  claims_eq := by
    have : ∀ c, written (calls.map (·, Phase.pending)) c = c := by
      intro c
      have : (calls.map (·, Phase.pending)).find? (fun tp => tp.1.id == c.id && tp.2.returned) = none := by
        simp [List.find?_eq_none, Phase.returned]
      simp [written, this]
    show s.store.claims = s.store.claims.map (written (calls.map (·, Phase.pending)))
    rw [List.map_congr_left (fun c _ => this c), List.map_id']
  aidPackages_eq := rfl
  nextId_eq := rfl

/-- A call that has not returned reads its claim as it was in `s`. -/
theorem findClaim_of_not_returned (h : Isolated s calls σ) (hdt : (σ.threads.map (·.1.id)).Nodup)
    {i : Nat} {t : TransitionCall} {p : Phase} (hi : σ.threads[i]? = some (t, p))
    (hp : p.returned = false) : σ.state.store.findClaim t.id = s.store.findClaim t.id := by
  rw [h.findClaim]
  rcases hf : s.store.findClaim t.id with _ | c
  · rfl
  · simp [written_of_not_returned hdt hi hp (Store.findClaim_id hf)]

/-- Moving call `i` to a phase the invariant allows, over a state whose rows
    are the writes of the calls returned after the move, keeps the invariant. -/
theorem set_phase (h : Isolated s calls σ) {i : Nat} {t : TransitionCall} {p q : Phase}
    (hi : σ.threads[i]? = some (t, p)) (hq : PhaseOK s t q) {st : State}
    (hclaims : st.store.claims = s.store.claims.map (written (σ.threads.set i (t, q))))
    (ha : st.store.aidPackages = σ.state.store.aidPackages)
    (hn : st.store.nextId = σ.state.store.nextId) :
    Isolated s calls ⟨st, σ.threads.set i (t, q)⟩ where
  calls_eq := (map_fst_set hi q).trans h.calls_eq
  phases tp hmem := by
    rcases List.mem_or_eq_of_mem_set hmem with hmem | rfl
    · exact h.phases tp hmem
    · exact hq
  claims_eq := hclaims
  aidPackages_eq := ha.trans h.aidPackages_eq
  nextId_eq := hn.trans h.nextId_eq

/-- A pending call's read writes nothing and moves it to the phase running
    alone from `s` would, since it finds its claim as it was in `s`. -/
theorem read_pending (h : Isolated s calls σ) (hdt : (σ.threads.map (·.1.id)).Nodup) {i : Nat}
    {t : TransitionCall} (hi : σ.threads[i]? = some (t, .pending)) :
    ∃ q, t.advance .pending σ.state = (q, σ.state) ∧ q.returned = false ∧ PhaseOK s t q := by
  have hread := h.findClaim_of_not_returned hdt hi rfl
  rcases hc : s.store.findClaim t.id with _ | c
  · exact ⟨.done (.error (.notFound "Claim not found")), by
      simp [TransitionCall.advance, hread, hc], rfl, by
      simp [PhaseOK, TransitionCall.run, transition_eq, hc, resultOf]⟩
  · by_cases hs : c.status = t.fromStatus
    · exact ⟨.checked, TransitionCall.advance_pending_of_status t (hread.trans hc) hs, rfl,
        ⟨c, hc, hs⟩⟩
    · exact ⟨.done (.error (.badRequest (cannotTransition c.status t.toStatus))), by
        simp [TransitionCall.advance, hread, hc, hs], rfl, by
        simp [PhaseOK, TransitionCall.run, transition_eq, hc, hs, resultOf]⟩

/-- One statement by any call keeps calls on distinct claims isolated. -/
theorem step (hd : (calls.map (·.id)).Nodup) (h : Isolated s calls σ) (i : Nat) :
    Isolated s calls (σ.step i) := by
  have hdt := h.ids_nodup hd
  rcases hi : σ.threads[i]? with _ | ⟨t, p⟩
  · simpa [Sys.step, hi] using h
  have hstep : σ.step i =
      ⟨(t.advance p σ.state).2, σ.threads.set i (t, (t.advance p σ.state).1)⟩ := by
    simp [Sys.step, hi]
  rw [hstep]
  cases p with
  | done r =>
      simp only [TransitionCall.advance, set_of_getElem? hi]
      exact h
  | pending =>
      obtain ⟨q, hq, hqr, hqok⟩ := h.read_pending hdt hi
      rw [hq]
      exact h.set_phase hi hqok (by rw [written_set_of_not_returned hdt hi rfl q hqr]; exact h.claims_eq)
        rfl rfl
  | checked =>
      obtain ⟨c, hc, hs⟩ := h.phases _ (List.mem_iff_getElem?.mpr ⟨i, hi⟩)
      rw [TransitionCall.advance_checked t ((h.findClaim_of_not_returned hdt hi rfl).trans hc)]
      refine h.set_phase hi ?_ ?_ rfl rfl
      · simp [PhaseOK, TransitionCall.run, transition_eq, hc, hs, resultOf]
      · -- The write lands on call `i`'s own claim and nowhere else.
        simp only [State.afterTransition, Store.writeStatus_claims, h.claims_eq, List.map_map,
          written_set_of_write hdt hi rfl (.done (.ok { c with status := t.toStatus })) rfl]

theorem run (hd : (calls.map (·.id)).Nodup) (h : Isolated s calls σ) (schedule : List Nat) :
    Isolated s calls (σ.run schedule) := by
  induction schedule generalizing σ with
  | nil => exact h
  | cons i is ih => exact ih (h.step hd i)

/-- Once every call has finished, each ended as it would have run alone from
    `s`. -/
theorem outcomes_eq (h : Isolated s calls σ) {outs : List (TransitionCall × Except ServiceError Claim)}
    (ho : σ.outcomes = some outs) : outs = calls.map fun t => (t, resultOf (t.run s)) := by
  have hts := Sys.threads_of_outcomes ho
  have hcalls : outs.map Prod.fst = calls := by rw [← h.calls_eq, hts, List.map_map]; rfl
  rw [← hcalls, List.map_map]
  conv_lhs => rw [← List.map_id outs]
  apply List.map_congr_left
  intro x hx
  have : PhaseOK s x.1 (.done x.2) := h.phases _ (by rw [hts]; exact List.mem_map_of_mem _ hx)
  exact Prod.ext rfl this

end Isolated

/-- Transition calls on pairwise distinct claims do not interfere, under every
    schedule: each call ends as it would have run alone, and running the calls
    one at a time in their listed order gives the same results and leaves the
    same store, so the outcome is linearizable. -/
theorem distinct_claims_linearizable (s : State) (calls : List TransitionCall)
    (hd : (calls.map (·.id)).Nodup) (schedule : List Nat)
    (outs : List (TransitionCall × Except ServiceError Claim))
    (h : ((Sys.start s calls).run schedule).outcomes = some outs) :
    outs = calls.map (fun t => (t, resultOf (t.run s))) ∧
    (runSerial calls s).1 = outs.map Prod.snd ∧
    (runSerial calls s).2.store = ((Sys.start s calls).run schedule).state.store := by
  have hI := (Isolated.start s calls).run hd schedule
  have houts := hI.outcomes_eq h
  -- The serial schedule is another complete schedule, and it is the sequential service.
  have hser := run_serialSchedule_take s calls calls.length le_rfl
  simp only [List.take_length, List.drop_length, List.map_nil, List.append_nil] at hser
  have hI' := (Isolated.start s calls).run hd (serialSchedule calls.length)
  have hdone : ((Sys.start s calls).run (serialSchedule calls.length)).outcomes =
      some (calls.zip (runSerial calls s).1) := by
    rw [hser, Sys.outcomes, Sys.outcomesOf_map_done]
  have houts' := hI'.outcomes_eq hdone
  refine ⟨houts, ?_, ?_⟩
  · -- Alone or in order, every call returns what it returns from `s`.
    rw [← List.map_snd_zip calls (runSerial calls s).1 (by rw [runSerial_length]), houts', ← houts]
  · -- Both runs leave `s`'s store with the same writes.
    have hts := Sys.threads_of_outcomes h
    have hts' := Sys.threads_of_outcomes hdone
    rw [houts', ← houts, ← hts] at hts'
    have hst : (runSerial calls s).2 = ((Sys.start s calls).run (serialSchedule calls.length)).state := by
      rw [hser]
    rw [hst]
    exact Store.ext (hI'.aidPackages_eq.trans hI.aidPackages_eq.symm)
      (by rw [hI'.claims_eq, hI.claims_eq, hts']) (hI'.nextId_eq.trans hI.nextId_eq.symm)

theorem verify_and_approve_interleaved :
    let s : State := run ⟨Store.empty [⟨0, "active"⟩] 0, []⟩
      [.create ⟨0, 100, "rec1", none⟩, .create ⟨0, 50, "rec2", none⟩, .verify 1]
    let calls : List TransitionCall :=
      [⟨0, .requested, .verified, "Claim verified"⟩, ⟨1, .verified, .approved, "Claim approved"⟩]
    let outs : List (TransitionCall × Except ServiceError Claim) :=
      [(⟨0, .requested, .verified, "Claim verified"⟩, .ok ⟨0, 0, 100, "rec1", none, .verified⟩),
        (⟨1, .verified, .approved, "Claim approved"⟩, .ok ⟨1, 0, 50, "rec2", none, .approved⟩)]
    ((calls.map (·.id)).Nodup ∧ ((Sys.start s calls).run [0, 1, 1, 0]).outcomes = some outs) ∧
    outs = calls.map (fun t => (t, resultOf (t.run s))) ∧
    (runSerial calls s).1 = outs.map Prod.snd ∧
    (runSerial calls s).2.store = ((Sys.start s calls).run [0, 1, 1, 0]).state.store :=
  ⟨⟨by decide, rfl⟩, distinct_claims_linearizable _ _ (by decide) [0, 1, 1, 0] _ rfl⟩

end Claims

end Soter
