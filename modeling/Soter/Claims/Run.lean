import Soter.Claims.Service

/-!
# Sequential Runs

The service driven by a sequence of calls, one finishing before the next
begins, and what holds along every such run.

`Op` is a call as the controller makes it, and `Op.call` dispatches it to its
method. `call_cases` reads the method equations once and says everything a
call can do to a state: throw and leave it as it was, read it, insert one
claim, or move one claim along one edge. Every invariant in this file is a
case analysis on that lemma; none of them opens a method again.

The properties over runs then come in pairs, a step lemma and a run lemma by
induction on the list of calls:

* a claim's stored status changes only by creation in `requested` or by one
  edge of the chain (`statusStep_step`), so the statuses a claim is seen with
  along a run collapse to a prefix of `lifecycle`
  (`history_follows_lifecycle`);
* a status's position in the chain counts the successful transition calls on
  that claim (`rankOf_run`);
* the rows, read without their status, are the rows the run started with
  followed by one row per successful `create` (`rows_run`), and every row's
  campaign is a stored aid package (`RefsValid`).

`failed_call_leaves_state` is the statement about failures: a call that throws
changes nothing, neither the database nor the audit output. `audit_run` is its
counterpart for the calls that return: the audit output is exactly one line
per successful write, in order.

## Main definitions

* `TransitionCall`: The arguments of one `transition` call.
* `Op`, `Response`, `Op.call`: A call, its result, and its dispatch.
* `step`, `run`, `trace`: Calls made one after another.
* `State.statusOf`: The stored status of a claim id.
* `history`: The statuses a claim id is seen with along a run.
* `transitionsOn`: The successful transition calls on a claim id.
* `creations`: The successful `create` calls of a run.
* `RefsValid`: Every claim's campaign is a stored aid package.
* `auditTrail`: The audit lines of a run's successful writes.

## Theorems

* `call_cases`: Everything a call can do.
* `failed_call_leaves_state`: A call that throws changes nothing.
* `statusStep_step`: One call moves a status along at most one edge.
* `history_follows_lifecycle`: Along a run from an empty claim table, every
  claim's history is a prefix of the lifecycle.
* `rankOf_run`: Positions count successful transitions.
* `rows_run`: Rows are the starting rows and the created ones.
* `refsValid_run`: Campaign references stay valid.
* `audit_run`: The audit output is the successful writes, in order.
-/

namespace Soter

namespace Claims

open ClaimsService

/-- The arguments of one `transition` call. -/
structure TransitionCall where
  id : Nat
  fromStatus : ClaimStatus
  toStatus : ClaimStatus
  auditMessage : String
  deriving DecidableEq, Repr

/-- Making the call. -/
def TransitionCall.run (t : TransitionCall) : Engine Claim :=
  transition t.id t.fromStatus t.toStatus t.auditMessage

/-- A call of the service, one per controller route. -/
inductive Op
  | create (createClaimDto : CreateClaimDto)
  | findAll
  | findOne (id : Nat)
  | verify (id : Nat)
  | approve (id : Nat)
  | disburse (id : Nat)
  | archive (id : Nat)
  deriving DecidableEq, Repr

/-- What a call returns. -/
inductive Response
  | claim (c : Claim)
  | claims (cs : List Store.ClaimWithCampaign)
  | claimWithCampaign (c : Store.ClaimWithCampaign)
  deriving DecidableEq, Repr

namespace Op

/-- The method a call runs. -/
def call : Op → Engine Response
  | create createClaimDto => Response.claim <$> ClaimsService.create createClaimDto
  | findAll => Response.claims <$> ClaimsService.findAll
  | findOne id => Response.claimWithCampaign <$> ClaimsService.findOne id
  | verify id => Response.claim <$> ClaimsService.verify id
  | approve id => Response.claim <$> ClaimsService.approve id
  | disburse id => Response.claim <$> ClaimsService.disburse id
  | archive id => Response.claim <$> ClaimsService.archive id

/-- The `transition` call a lifecycle operation makes, read off its method. -/
def transition? : Op → Option TransitionCall
  | verify id => some ⟨id, .requested, .verified, "Claim verified"⟩
  | approve id => some ⟨id, .verified, .approved, "Claim approved"⟩
  | disburse id => some ⟨id, .approved, .disbursed, "Claim disbursed"⟩
  | archive id => some ⟨id, .disbursed, .archived, "Claim archived"⟩
  | _ => none

theorem call_of_transition? {op : Op} {t : TransitionCall} (h : op.transition? = some t) :
    op.call = Response.claim <$> t.run := by
  cases op <;> cases h <;> rfl

theorem next_of_transition? {op : Op} {t : TransitionCall} (h : op.transition? = some t) :
    t.fromStatus.next = some t.toStatus := by
  cases op <;> cases h <;> rfl

/-- Whether the call returns rather than throws. -/
def succeeds (op : Op) (s : State) : Bool :=
  match op.call s with
  | .ok _ _ => true
  | .error _ _ => false

end Op

/-- The state a call leaves, whether it returned or threw. -/
def step (s : State) (op : Op) : State :=
  match op.call s with
  | .ok _ s' => s'
  | .error _ s' => s'

/-- The calls made one after another. -/
def run (s : State) : List Op → State
  | [] => s
  | op :: ops => run (step s op) ops

/-- Every state a run passes through, the first and the last included. -/
def trace (s : State) : List Op → List State
  | [] => [s]
  | op :: ops => s :: trace (step s op) ops

/-- The status claim `id` is stored with, if a row has that id. -/
def State.statusOf (s : State) (id : Nat) : Option ClaimStatus :=
  (s.store.findClaim id).map Claim.status

/-- The id `create` hands out next has no claim yet. -/
@[simp] theorem statusOf_nextId (s : State) : s.statusOf s.store.nextId = none := by
  rw [State.statusOf, Store.findClaim_of_le (Nat.le_refl _)]; rfl

/-! ### What one call can do -/

/-- Everything a call can do, from the method equations: throw and leave the
    state as it was; read; insert one claim against a stored campaign; or, as
    a transition call, move a claim found in the edge's source status to its
    target. -/
theorem call_cases (op : Op) (s : State) :
    (∃ e, op.call s = .error e s) ∨
    (op.transition? = none ∧ (∀ dto, op ≠ .create dto) ∧ ∃ r, op.call s = .ok r s) ∨
    (∃ dto pkg, op = .create dto ∧ s.store.findAidPackage dto.campaignId = some pkg ∧
      op.call s = .ok (.claim (s.store.newClaim dto.input)) (s.afterCreate dto.input)) ∨
    (∃ t c, op.transition? = some t ∧ s.store.findClaim t.id = some c ∧
      c.status = t.fromStatus ∧
      op.call s = .ok (.claim { c with status := t.toStatus })
        (s.afterTransition t.id t.toStatus t.auditMessage)) := by
  cases h : op.transition? with
  | some t =>
      -- A lifecycle operation: `transition_eq` decides it.
      rw [Op.call_of_transition? h]
      rcases hc : s.store.findClaim t.id with _ | c
      · exact .inl ⟨.notFound "Claim not found", by simp [TransitionCall.run, transition_eq, hc]⟩
      · by_cases hs : c.status = t.fromStatus
        · exact .inr <| .inr <| .inr ⟨t, c, rfl, hc, hs, by
            simp [TransitionCall.run, transition_eq, hc, hs]⟩
        · exact .inl ⟨.badRequest (cannotTransition c.status t.toStatus), by
            simp [TransitionCall.run, transition_eq, hc, hs]⟩
  | none =>
      cases op with
      | create dto =>
          rcases hp : s.store.findAidPackage dto.campaignId with _ | pkg
          · exact .inl ⟨.notFound "Campaign not found", by simp [Op.call, create_eq, hp]⟩
          · exact .inr <| .inr <| .inl ⟨dto, pkg, rfl, hp, by simp [Op.call, create_eq, hp]⟩
      | findAll =>
          exact .inr <| .inl ⟨rfl, nofun, .claims s.store.findManyClaims, by
            simp [Op.call, findAll_eq]⟩
      | findOne id =>
          rcases hc : s.store.findClaim id with _ | c
          · exact .inl ⟨.notFound "Claim not found", by simp [Op.call, findOne_eq, hc]⟩
          · exact .inr <| .inl ⟨rfl, nofun, .claimWithCampaign (s.store.withCampaign c), by
              simp [Op.call, findOne_eq, hc]⟩
      | _ => cases h

/-- A call that throws changes nothing: the database is as it was, and no
    audit line was printed. -/
theorem failed_call_leaves_state (op : Op) (s : State) (e : ServiceError) (s' : State)
    (h : op.call s = .error e s') : s' = s := by
  -- Only the first case throws, and it throws with the state it was given.
  rcases call_cases op s with ⟨_, hc⟩ | ⟨-, -, _, hc⟩ | ⟨_, _, -, -, hc⟩ | ⟨_, _, -, -, -, hc⟩ <;>
    rw [hc] at h <;> cases h
  rfl

/-- Approving a claim still in `requested` throws, and the state the call
    leaves is the state it was given. -/
theorem approve_requested_leaves_state :
    let s := run ⟨Store.empty [⟨0, "active"⟩] 0, []⟩ [.create ⟨0, 100, "rec7", none⟩]
    (Op.approve 0).call s =
      .error (.badRequest "Cannot transition from requested to approved") (step s (.approve 0)) ∧
    step s (.approve 0) = s :=
  ⟨rfl, failed_call_leaves_state (.approve 0) _ (.badRequest "Cannot transition from requested to approved")
    _ rfl⟩

/-! ### Statuses -/

theorem statusOf_afterCreate (s : State) (data : ClaimCreateInput) (id : Nat) :
    (s.afterCreate data).statusOf id =
      if id = s.store.nextId then some .requested else s.statusOf id := by
  simp only [State.statusOf, State.afterCreate, Store.findClaim_createClaim]
  split <;> simp [defaultClaimStatus]

theorem statusOf_afterTransition (s : State) (tid : Nat) (toStatus : ClaimStatus)
    (auditMessage : String) (id : Nat) :
    (s.afterTransition tid toStatus auditMessage).statusOf id =
      if id = tid then (s.statusOf id).map (fun _ => toStatus) else s.statusOf id := by
  simp only [State.statusOf, State.afterTransition, Store.findClaim_writeStatus, Option.map_map]
  rcases h : s.store.findClaim id with _ | c
  · simp
  · have hid := Store.findClaim_id h
    by_cases e : id = tid <;> simp [Claim.setStatus, hid, e]

/-- One call moves the stored status of a claim along at most one edge. -/
theorem statusStep_step (s : State) (op : Op) (id : Nat) :
    StatusStep (s.statusOf id) ((step s op).statusOf id) := by
  rcases call_cases op s with ⟨e, h⟩ | ⟨-, -, r, h⟩ | ⟨dto, -, -, -, h⟩ | ⟨t, c, ht, hc, hs, h⟩ <;>
    simp only [step, h]
  · exact .keep _
  · exact .keep _
  · -- `create`: the new id goes from absent to `requested`.
    rw [statusOf_afterCreate]
    split
    · subst id; rw [statusOf_nextId]; exact .create
    · exact .keep _
  · -- A transition: the named claim takes one edge, the others stay.
    rw [statusOf_afterTransition]
    split
    · subst id; rw [State.statusOf, hc]; exact .advance (hs ▸ Op.next_of_transition? ht)
    · exact .keep _

/-- `archived` has no way out. -/
theorem archived_run (s : State) (ops : List Op) (id : Nat)
    (h : s.statusOf id = some .archived) : (run s ops).statusOf id = some .archived := by
  induction ops generalizing s with
  | nil => exact h
  | cons op ops ih =>
      have hs := statusStep_step s op id
      rw [h] at hs
      rcases hs.of_some with ho | ⟨_, hn, -⟩
      · exact ih _ ho
      · cases hn

/-- The statuses claim `id` is seen with along a run, one entry for each
    state of the run it is stored in. -/
def history (s : State) (ops : List Op) (id : Nat) : List ClaimStatus :=
  (trace s ops).filterMap (·.statusOf id)

theorem history_cons (s : State) (op : Op) (ops : List Op) (id : Nat) :
    history s (op :: ops) id = (s.statusOf id).toList ++ history (step s op) ops id := by
  simp only [history, trace, List.filterMap_cons]
  cases s.statusOf id <;> rfl

/-- From a state holding the claim, its history starts at the stored status
    and only stays or advances. -/
theorem history_of_some {id : Nat} (ops : List Op) :
    ∀ (s : State) (a : ClaimStatus), s.statusOf id = some a →
      ∃ l, history s ops id = a :: l ∧ l.Chain StayOrNext a := by
  induction ops with
  | nil => intro s a h; exact ⟨[], by simp [history, trace, h], .nil⟩
  | cons op ops ih =>
      intro s a h
      have hs := statusStep_step s op id
      rw [h] at hs
      rw [history_cons, h]
      rcases hs.of_some with ho | ⟨b, hn, ho⟩
      · obtain ⟨l, hl, hc⟩ := ih _ a ho
        exact ⟨a :: l, by simp [hl], .cons (.inl rfl) hc⟩
      · obtain ⟨l, hl, hc⟩ := ih _ b ho
        exact ⟨b :: l, by simp [hl], .cons (.inr hn) hc⟩

/-- From a state without the claim, its history is empty or starts at
    `requested` and only stays or advances. -/
theorem history_of_none {id : Nat} (ops : List Op) :
    ∀ (s : State), s.statusOf id = none →
      history s ops id = [] ∨ ∃ l, history s ops id = .requested :: l ∧ l.Chain StayOrNext .requested := by
  induction ops with
  | nil => intro s h; exact .inl (by simp [history, trace, h])
  | cons op ops ih =>
      intro s h
      have hs := statusStep_step s op id
      rw [h] at hs
      rw [history_cons, h, Option.toList_none, List.nil_append]
      rcases hs.of_none with ho | ho
      · exact ih _ ho
      · exact .inr (history_of_some ops _ _ ho)

/-- Along a run from an empty claim table, the statuses each claim is seen
    with, repeats merged, are a prefix of the lifecycle. -/
theorem history_follows_lifecycle (s : State) (h : s.store.claims = []) (ops : List Op) (id : Nat) :
    (history s ops id).destutter (· ≠ ·) <+: lifecycle := by
  have hnone : s.statusOf id = none := by simp [State.statusOf, Store.findClaim, h]
  rcases history_of_none ops s hnone with hl | ⟨l, hl, hc⟩
  · rw [hl, List.destutter_nil]; exact List.nil_prefix
  · rw [hl, List.destutter_cons']
    exact destutter'_prefix_lifecycle l .requested hc

/-! ### Positions count transitions -/

/-- A claim's position in the chain, zero while no row has the id. -/
def State.rankOf (s : State) (id : Nat) : Nat :=
  ((s.statusOf id).map ClaimStatus.rank).getD 0

/-- Whether a call is a transition call on claim `id` that returned. -/
def Op.advances (op : Op) (s : State) (id : Nat) : Bool :=
  op.succeeds s && op.transition?.map (·.id) == some id

/-- The successful transition calls on claim `id` along a run. -/
def transitionsOn (s : State) : List Op → Nat → Nat
  | [], _ => 0
  | op :: ops, id => (if op.advances s id then 1 else 0) + transitionsOn (step s op) ops id

theorem rankOf_step (s : State) (op : Op) (id : Nat) :
    (step s op).rankOf id = s.rankOf id + if op.advances s id then 1 else 0 := by
  rcases call_cases op s with ⟨e, h⟩ | ⟨ht, -, r, h⟩ | ⟨dto, -, rfl, -, h⟩ | ⟨t, c, ht, hc, hs, h⟩
  · simp [step, Op.advances, Op.succeeds, h]
  · simp [step, Op.advances, ht, h]
  · -- A created claim sits at position zero, where an absent one is counted.
    simp only [step, h, Op.advances, Op.transition?, Option.map_none, State.rankOf,
      statusOf_afterCreate]
    split
    · subst id; simp [ClaimStatus.rank]
    · simp
  · simp only [step, h, Op.advances, Op.succeeds, ht, State.rankOf, statusOf_afterTransition]
    split
    · subst id
      simp [State.statusOf, hc, ← hs, ClaimStatus.rank_of_next (hs ▸ Op.next_of_transition? ht)]
    · simp [Ne.symm ‹_›]

/-- Along any run, a claim's position grows by the successful transition calls
    on it. -/
theorem rankOf_run (s : State) (ops : List Op) (id : Nat) :
    (run s ops).rankOf id = s.rankOf id + transitionsOn s ops id := by
  induction ops generalizing s with
  | nil => rfl
  | cons op ops ih => rw [run, ih, rankOf_step, transitionsOn]; omega

/-- On a claim that exists, a transition call returns exactly when the claim
    is in the edge's source status, and then moves it one edge along. -/
theorem succeeds_iff_of_transition? {op : Op} {t : TransitionCall} {s : State} {c : Claim}
    (ht : op.transition? = some t) (hc : s.store.findClaim t.id = some c) :
    (op.succeeds s = true ↔ c.status = t.fromStatus) ∧
      (op.succeeds s = true →
        (step s op).statusOf t.id = some t.toStatus ∧ c.status.next = some t.toStatus) := by
  have hcall := congrFun (Op.call_of_transition? ht) s
  by_cases hs : c.status = t.fromStatus
  · simp [Op.succeeds, step, hcall, TransitionCall.run, transition_eq, hc, hs, State.statusOf,
      State.afterTransition, Store.findClaim_writeStatus, Claim.setStatus, Store.findClaim_id hc,
      Op.next_of_transition? ht]
  · simp [Op.succeeds, hcall, TransitionCall.run, transition_eq, hc, hs]

/-- The lifecycle over every run of the service from an empty claim table:
    each claim's statuses, repeats merged, are a prefix of `lifecycle`; its
    position counts the successful transition calls on it, never more than
    four; a transition call on a stored claim returns exactly when the claim
    is in the call's source status, and then moves it one edge; no call
    realizes any other change of status; and `archived` is never left. -/
theorem lifecycle_of_runs (aidPackages : List AidPackage) (nextId : Nat)
    (audit : List AuditRecord) (ops : List Op) :
    let s₀ : State := ⟨Store.empty aidPackages nextId, audit⟩
    (∀ id, (history s₀ ops id).destutter (· ≠ ·) <+: lifecycle) ∧
    (∀ id c, (run s₀ ops).store.findClaim id = some c →
      c.status.rank = transitionsOn s₀ ops id) ∧
    (∀ id, transitionsOn s₀ ops id ≤ 4) ∧
    (∀ (s : State) (op : Op) (t : TransitionCall) (c : Claim),
      op.transition? = some t → s.store.findClaim t.id = some c →
        (op.succeeds s = true ↔ c.status = t.fromStatus) ∧
        (op.succeeds s = true →
          (step s op).statusOf t.id = some t.toStatus ∧ c.status.next = some t.toStatus)) ∧
    (∀ (s : State) (op : Op) (id : Nat), StatusStep (s.statusOf id) ((step s op).statusOf id)) ∧
    (∀ (s : State) (ops' : List Op) (id : Nat),
      s.statusOf id = some .archived → (run s ops').statusOf id = some .archived) := by
  intro s₀
  -- From an empty table every position starts at zero.
  have hrank : ∀ id, (run s₀ ops).rankOf id = transitionsOn s₀ ops id := by
    intro id
    rw [rankOf_run]
    simp [s₀, State.rankOf, State.statusOf, Store.findClaim, Store.empty]
  refine ⟨history_follows_lifecycle s₀ rfl ops, fun id c hc => ?_, fun id => ?_,
    fun _ _ _ _ => succeeds_iff_of_transition?, statusStep_step, archived_run⟩
  · simpa [State.rankOf, State.statusOf, hc] using hrank id
  · rw [← hrank]
    cases h : (run s₀ ops).statusOf id <;> simp [State.rankOf, h, ClaimStatus.rank_le]

/-! ### Rows and campaign references -/

/-- A row without its status: its id and the data it was created with. -/
def Claim.row (c : Claim) : Nat × ClaimCreateInput := (c.id, c.input)

/-- The row a call inserted: a `create` that returned, as the id it returned
    and the data it was called with. -/
def Op.creation (op : Op) (s : State) : Option (Nat × ClaimCreateInput) :=
  match op with
  | .create dto =>
      match (Op.create dto).call s with
      | .ok (.claim c) _ => some (c.id, dto.input)
      | _ => none
  | _ => none

/-- The successful `create` calls of a run, in order. -/
def creations (s : State) : List Op → List (Nat × ClaimCreateInput)
  | [] => []
  | op :: ops => (op.creation s).toList ++ creations (step s op) ops

/-- Every claim's campaign is a stored aid package. -/
def RefsValid (s : State) : Prop :=
  ∀ c ∈ s.store.claims, (s.store.findAidPackage c.campaignId).isSome

instance (s : State) : Decidable (RefsValid s) :=
  inferInstanceAs (Decidable (∀ c ∈ s.store.claims, _))

theorem rows_step (s : State) (op : Op) :
    (step s op).store.claims.map Claim.row = s.store.claims.map Claim.row ++ (op.creation s).toList := by
  rcases call_cases op s with ⟨e, h⟩ | ⟨-, hc, r, h⟩ | ⟨dto, -, rfl, -, h⟩ | ⟨t, c, ht, -, -, h⟩
  · cases op <;> simp [step, Op.creation, h]
  · cases op <;> first | exact absurd rfl (hc _) | simp [step, Op.creation, h]
  · simp [step, Op.creation, h, State.afterCreate, Claim.row]
  · -- A status write leaves every row's id and data as they were.
    have hnc : op.creation s = none := by cases op <;> cases ht <;> rfl
    simp [step, h, hnc, State.afterTransition, Claim.row, Function.comp_def]

/-- Along any run, the rows read without their status are the rows it started
    with, followed by one row per successful `create`. -/
theorem rows_run (s : State) (ops : List Op) :
    (run s ops).store.claims.map Claim.row = s.store.claims.map Claim.row ++ creations s ops := by
  induction ops generalizing s with
  | nil => simp [run, creations]
  | cons op ops ih => rw [run, ih, rows_step, creations, List.append_assoc]

theorem refsValid_step {s : State} (op : Op) (h : RefsValid s) : RefsValid (step s op) := by
  rcases call_cases op s with ⟨e, hc⟩ | ⟨-, -, r, hc⟩ | ⟨dto, pkg, -, hp, hc⟩ | ⟨t, c, -, -, -, hc⟩ <;>
    simp only [step, hc]
  · exact h
  · exact h
  · -- The one new row names the campaign `create` just found.
    intro c hmem
    simp only [State.afterCreate, Store.createClaim_claims, List.mem_append,
      List.mem_singleton] at hmem
    rcases hmem with hmem | rfl
    · exact h c hmem
    · simp [State.afterCreate, Store.newClaim, CreateClaimDto.input, hp]
  · intro c' hmem
    simp only [State.afterTransition, Store.writeStatus_claims, List.mem_map] at hmem
    obtain ⟨c₀, hc₀, rfl⟩ := hmem
    have := h c₀ hc₀
    unfold Claim.setStatus; split <;> simpa [State.afterTransition] using this

theorem refsValid_run {s : State} (ops : List Op) (h : RefsValid s) : RefsValid (run s ops) := by
  induction ops generalizing s with
  | nil => exact h
  | cons op ops ih => exact ih (refsValid_step op h)

/-- A transition call touches no row but the one it names. -/
theorem findClaim_step_of_ne {s : State} {op : Op} {t : TransitionCall} {id : Nat}
    (ht : op.transition? = some t) (hid : id ≠ t.id) :
    (step s op).store.findClaim id = s.store.findClaim id := by
  rcases call_cases op s with ⟨e, h⟩ | ⟨ht', -, r, h⟩ | ⟨dto, -, rfl, -, h⟩ | ⟨t', c, ht', -, -, h⟩
  · simp [step, h]
  · simp [step, h]
  · cases ht
  · rw [ht] at ht'; cases ht'
    simp only [step, h, State.afterTransition, Store.findClaim_writeStatus]
    rcases hc : s.store.findClaim id with _ | c'
    · rfl
    · simp [Claim.setStatus, Store.findClaim_id hc, hid]

/-- Over every run from a store whose claims all name stored aid packages,
    the claims correspond one to one, by position, with the starting claims
    followed by the successful `create` calls, each still holding the id and
    data it was created with; no id is held twice; every claim names a stored
    aid package; and a transition call leaves every claim it does not name
    exactly as it was. -/
theorem claims_preserved (s₀ : State) (h₀ : RefsValid s₀) (ops : List Op) :
    (run s₀ ops).store.claims.map Claim.row = s₀.store.claims.map Claim.row ++ creations s₀ ops ∧
    ((run s₀ ops).store.claims.map Claim.id).Nodup ∧
    RefsValid (run s₀ ops) ∧
    (∀ (s : State) (op : Op) (t : TransitionCall) (id : Nat), op.transition? = some t →
      id ≠ t.id → (step s op).store.findClaim id = s.store.findClaim id) :=
  ⟨rows_run s₀ ops, (run s₀ ops).store.ids_nodup, refsValid_run ops h₀,
    fun _ _ _ _ => findClaim_step_of_ne⟩

/-- Two creates against the one stored campaign, and a verify, from an empty
    table. -/
theorem claims_preserved_two_creates :
    RefsValid ⟨Store.empty [⟨0, "active"⟩] 0, []⟩ ∧
    (run ⟨Store.empty [⟨0, "active"⟩] 0, []⟩
        [.create ⟨0, 100, "rec1", none⟩, .verify 0, .create ⟨0, 50, "rec2", some "ev"⟩]).store.claims.map
        Claim.row =
      (Store.empty [⟨0, "active"⟩] 0).claims.map Claim.row ++
        creations ⟨Store.empty [⟨0, "active"⟩] 0, []⟩
          [.create ⟨0, 100, "rec1", none⟩, .verify 0, .create ⟨0, 50, "rec2", some "ev"⟩] ∧
    ((run ⟨Store.empty [⟨0, "active"⟩] 0, []⟩
        [.create ⟨0, 100, "rec1", none⟩, .verify 0, .create ⟨0, 50, "rec2", some "ev"⟩]).store.claims.map
        Claim.id).Nodup ∧
    RefsValid (run ⟨Store.empty [⟨0, "active"⟩] 0, []⟩
        [.create ⟨0, 100, "rec1", none⟩, .verify 0, .create ⟨0, 50, "rec2", some "ev"⟩]) ∧
    (∀ (s : State) (op : Op) (t : TransitionCall) (id : Nat), op.transition? = some t →
      id ≠ t.id → (step s op).store.findClaim id = s.store.findClaim id) :=
  ⟨by decide, claims_preserved _ (by decide) _⟩

/-! ### The audit trail -/

/-- The audit line a call that wrote should have printed: the `create`
    message with the id it returned, or the transition's own message with the
    claim it moved. -/
def Op.auditLine (op : Op) (s : State) : Option AuditRecord :=
  match op with
  | .create _ => (op.creation s).map fun x => ⟨"Claim created", x.1⟩
  | _ => op.transition?.bind fun t => if op.succeeds s then some ⟨t.auditMessage, t.id⟩ else none

/-- The audit lines of a run's successful writes, in order. -/
def auditTrail (s : State) : List Op → List AuditRecord
  | [] => []
  | op :: ops => (op.auditLine s).toList ++ auditTrail (step s op) ops

theorem audit_step (s : State) (op : Op) :
    (step s op).audit = s.audit ++ (op.auditLine s).toList := by
  rcases call_cases op s with ⟨e, h⟩ | ⟨ht, hc, r, h⟩ | ⟨dto, -, rfl, -, h⟩ | ⟨t, c, ht, -, -, h⟩
  · cases op <;> simp [step, Op.auditLine, Op.creation, Op.succeeds, Op.transition?, h]
  · cases op <;> first | exact absurd rfl (hc _) | simp_all [step, Op.auditLine, Op.transition?]
  · simp [step, Op.auditLine, Op.creation, h, State.afterCreate]
  · have hnc : ∀ dto, op ≠ .create dto := by rintro dto rfl; cases ht
    have hline : op.auditLine s = some ⟨t.auditMessage, t.id⟩ := by
      cases op <;> first | exact absurd rfl (hnc _) | simp [Op.auditLine, ht, Op.succeeds, h]
    simp [step, h, hline, State.afterTransition]

/-- Along any run the audit output grows by exactly one line per successful
    write, in the order the writes happened: nothing is printed for a call
    that throws or only reads. -/
theorem audit_run (s : State) (ops : List Op) :
    (run s ops).audit = s.audit ++ auditTrail s ops := by
  induction ops generalizing s with
  | nil => simp [run, auditTrail]
  | cons op ops ih => rw [run, ih, audit_step, auditTrail, List.append_assoc]

end Claims

end Soter
