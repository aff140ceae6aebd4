import Soter.Claims.Store

/-!
# Claims Service

`ClaimsService`, method by method. Each method is an `Engine` computation: it
reads and writes the `State` (the database and the console the audit hook
prints to) and may throw, and a throw keeps the state reached so far, as an
exception in the source does. Nothing rolls a write back except
`transaction`, the model of `prisma.$transaction`, which on a throw restores
the database to where it stood when the transaction began. Console output
already printed is not restored, because it is not in the database.

The four transition methods are `transition` applied to their own edge and
audit message, exactly as the source writes them. `transition` itself wraps
`transitionBody`, the callback the source passes to `$transaction`: read the
claim, throw if it is missing or not in `fromStatus`, update its status, print
the audit line, return the updated row.

Each method has one equation (`create_eq`, `findOne_eq`, `transition_eq`)
giving its result and final state outright from the state it starts in. Those
are the only places the monadic definitions are unfolded; the invariants over
runs in `Claims.Run` and the interleaving model in `Claims.Interleaving` cite
them and never look inside a method.

## Main definitions

* `ServiceError`: The exceptions a call can end in.
* `AuditRecord`: One line of the stub audit hook.
* `State`: The database and the audit output.
* `Engine`: A service computation over `State`.
* `transaction`: `prisma.$transaction`, with rollback on a throw.
* `ClaimsService.create`, `findAll`, `findOne`, `verify`, `approve`,
  `disburse`, `archive`, `transition`: The service's methods.

## Theorems

* `ClaimsService.create_eq`: `create` in one step.
* `ClaimsService.findAll_eq`, `findOne_eq`: The reads in one step.
* `ClaimsService.transition_eq`: `transition` in one step.
-/

namespace Soter

namespace Claims

/-- The exceptions the service's calls end in. -/
inductive ServiceError
  /-- `NotFoundException`, answered with 404. -/
  | notFound (message : String)
  /-- `BadRequestException`, answered with 400. -/
  | badRequest (message : String)
  /-- Prisma's error for an `update` whose `where` matches no row. -/
  | recordNotFound
  deriving DecidableEq, Repr

/-- One line of the stub audit hook, `Audit: <message> for claim <claimId>`. -/
structure AuditRecord where
  message : String
  claimId : Nat
  deriving DecidableEq, Repr

/-- What the service acts on: the database, and the audit lines printed so far. -/
structure State where
  store : Store
  audit : List AuditRecord

namespace State

/-- The state `ClaimsService.create` leaves when it returns: the row inserted,
    one audit line printed. -/
def afterCreate (s : State) (data : ClaimCreateInput) : State :=
  ⟨(s.store.createClaim data).2, s.audit ++ [⟨"Claim created", s.store.nextId⟩]⟩

/-- The state `ClaimsService.transition` leaves when it returns: the status
    written, one audit line printed. -/
def afterTransition (s : State) (id : Nat) (toStatus : ClaimStatus) (auditMessage : String) :
    State :=
  ⟨s.store.writeStatus id toStatus, s.audit ++ [⟨auditMessage, id⟩]⟩

end State

/-- A service computation: it reads and writes the state and may throw. -/
abbrev Engine := EStateM ServiceError State

namespace Engine

variable {α β : Type}

@[simp] theorem bind_apply (x : Engine α) (f : α → Engine β) (s : State) :
    (x >>= f) s = match x s with
      | .ok a s' => f a s'
      | .error e s' => .error e s' := by
  show EStateM.bind x f s = _
  unfold EStateM.bind
  cases x s <;> rfl

@[simp] theorem map_apply (f : α → β) (x : Engine α) (s : State) :
    (f <$> x) s = match x s with
      | .ok a s' => .ok (f a) s'
      | .error e s' => .error e s' := by
  show EStateM.map f x s = _
  unfold EStateM.map
  cases x s <;> rfl

@[simp] theorem pure_apply (a : α) (s : State) : (pure a : Engine α) s = .ok a s := rfl

@[simp] theorem throw_apply (e : ServiceError) (s : State) :
    (throw e : Engine α) s = .error e s := rfl

@[simp] theorem get_apply (s : State) : (get : Engine State) s = .ok s s := rfl

@[simp] theorem modify_apply (f : State → State) (s : State) :
    (modify f : Engine Unit) s = .ok () (f s) := rfl

end Engine

/-! ### Prisma calls -/

/-- `prisma.aidPackage.findUnique({ where: { id } })`. -/
def findUniqueAidPackage (id : Nat) : Engine (Option AidPackage) := do
  return (← get).store.findAidPackage id

/-- `claim.findUnique({ where: { id } })`. -/
def findUniqueClaim (id : Nat) : Engine (Option Claim) := do
  return (← get).store.findClaim id

/-- `claim.findUnique({ where: { id }, include: { campaign: true } })`. -/
def findUniqueClaimWithCampaign (id : Nat) : Engine (Option Store.ClaimWithCampaign) := do
  let s ← get
  return (s.store.findClaim id).map s.store.withCampaign

/-- `claim.findMany({ include: { campaign: true } })`. -/
def findManyClaims : Engine (List Store.ClaimWithCampaign) := do
  return (← get).store.findManyClaims

/-- `claim.create({ data })`. -/
def createClaim (data : ClaimCreateInput) : Engine Claim := do
  let s ← get
  let (claim, store) := s.store.createClaim data
  modify fun s => { s with store }
  return claim

/-- `claim.update({ where: { id }, data: { status } })`. -/
def updateClaim (id : Nat) (status : ClaimStatus) : Engine Claim := do
  match (← get).store.updateClaim id status with
  | none => throw .recordNotFound
  | some (claim, store) =>
      modify fun s => { s with store }
      return claim

/-- `prisma.$transaction(body)`: a throw rolls the database back to where it
    stood when the transaction began. Console output is not in the database
    and stays. -/
def transaction {α : Type} (body : Engine α) : Engine α := fun s =>
  match body s with
  | .ok a s' => .ok a s'
  | .error e s' => .error e { s' with store := s.store }

/-! ### The service -/

/-- The body of `POST /claims`, after validation. -/
structure CreateClaimDto where
  campaignId : Nat
  amount : ℚ
  recipientRef : String
  evidenceRef : Option String
  deriving DecidableEq, Repr

/-- The `data` `ClaimsService.create` builds from the request for `claim.create`. -/
def CreateClaimDto.input (dto : CreateClaimDto) : ClaimCreateInput :=
  ⟨dto.campaignId, dto.amount, dto.recipientRef, dto.evidenceRef⟩

namespace ClaimsService

/-- The stub audit hook: one console line naming the message and the claim. -/
def auditHook (message : String) (claimId : Nat) : Engine Unit :=
  modify fun s => { s with audit := s.audit ++ [⟨message, claimId⟩] }

/-- `ClaimsService.create`. -/
def create (createClaimDto : CreateClaimDto) : Engine Claim := do
  -- Check if campaign exists
  let campaign ← findUniqueAidPackage createClaimDto.campaignId
  let some _ := campaign | throw (.notFound "Campaign not found")
  let claim ← createClaim
    { campaignId := createClaimDto.campaignId
      amount := createClaimDto.amount
      recipientRef := createClaimDto.recipientRef
      evidenceRef := createClaimDto.evidenceRef }
  auditHook "Claim created" claim.id
  return claim

/-- `ClaimsService.findAll`. -/
def findAll : Engine (List Store.ClaimWithCampaign) :=
  findManyClaims

/-- `ClaimsService.findOne`. -/
def findOne (id : Nat) : Engine Store.ClaimWithCampaign := do
  let claim ← findUniqueClaimWithCampaign id
  let some claim := claim | throw (.notFound "Claim not found")
  return claim

/-- The message of the `BadRequestException` for a claim found in `status`. -/
def cannotTransition (status toStatus : ClaimStatus) : String :=
  "Cannot transition from " ++ toString status ++ " to " ++ toString toStatus

/-- The callback `transition` passes to `$transaction`. -/
def transitionBody (id : Nat) (fromStatus toStatus : ClaimStatus) (auditMessage : String) :
    Engine Claim := do
  let claim ← findUniqueClaim id
  let some claim := claim | throw (.notFound "Claim not found")
  if claim.status ≠ fromStatus then
    throw (.badRequest (cannotTransition claim.status toStatus))
  let updatedClaim ← updateClaim id toStatus
  -- Stub audit hook
  auditHook auditMessage id
  return updatedClaim

/-- `ClaimsService.transition`: the read, the check and the write in one
    `$transaction`. -/
def transition (id : Nat) (fromStatus toStatus : ClaimStatus) (auditMessage : String) :
    Engine Claim :=
  transaction (transitionBody id fromStatus toStatus auditMessage)

/-- `ClaimsService.verify`. -/
def verify (id : Nat) : Engine Claim :=
  transition id .requested .verified "Claim verified"

/-- `ClaimsService.approve`. -/
def approve (id : Nat) : Engine Claim :=
  transition id .verified .approved "Claim approved"

/-- `ClaimsService.disburse`. -/
def disburse (id : Nat) : Engine Claim :=
  transition id .approved .disbursed "Claim disbursed"

/-- `ClaimsService.archive`. -/
def archive (id : Nat) : Engine Claim :=
  transition id .disbursed .archived "Claim archived"

/-! ### One equation per method -/

theorem create_eq (createClaimDto : CreateClaimDto) (s : State) :
    create createClaimDto s =
      match s.store.findAidPackage createClaimDto.campaignId with
      | none => .error (.notFound "Campaign not found") s
      | some _ => .ok (s.store.newClaim createClaimDto.input) (s.afterCreate createClaimDto.input) := by
  rcases h : s.store.findAidPackage createClaimDto.campaignId with _ | pkg <;>
    simp [create, findUniqueAidPackage, createClaim, auditHook, h, CreateClaimDto.input,
      State.afterCreate]

theorem findAll_eq (s : State) : findAll s = .ok s.store.findManyClaims s := rfl

theorem findOne_eq (id : Nat) (s : State) :
    findOne id s =
      match s.store.findClaim id with
      | none => .error (.notFound "Claim not found") s
      | some c => .ok (s.store.withCampaign c) s := by
  rcases h : s.store.findClaim id with _ | c <;>
    simp [findOne, findUniqueClaimWithCampaign, h]

theorem transition_eq (id : Nat) (fromStatus toStatus : ClaimStatus) (auditMessage : String)
    (s : State) :
    transition id fromStatus toStatus auditMessage s =
      match s.store.findClaim id with
      | none => .error (.notFound "Claim not found") s
      | some c =>
          if c.status = fromStatus then
            .ok { c with status := toStatus } (s.afterTransition id toStatus auditMessage)
          else .error (.badRequest (cannotTransition c.status toStatus)) s := by
  rcases h : s.store.findClaim id with _ | c
  · simp [transition, transaction, transitionBody, findUniqueClaim, h]
  · by_cases hc : c.status = fromStatus <;>
      simp [transition, transaction, transitionBody, findUniqueClaim, updateClaim, auditHook, h,
        hc, Store.updateClaim_of_findClaim _ h, State.afterTransition]

end ClaimsService

end Claims

end Soter
