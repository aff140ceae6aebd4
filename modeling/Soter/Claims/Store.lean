import Soter.Claims.Status
import Mathlib.Data.Rat.Defs
import Mathlib.Data.List.Nodup

/-!
# Claim Store

The rows the claims service reads and writes, and the Prisma calls it makes on
them. The store is the spec's external persistence gateway: two tables, the
`aidPackage` rows claims are filed against and the `claim` rows themselves,
with the database handing out a fresh id to every created claim.

The primary key is part of the type. `Store` carries the facts that claim ids
are distinct and all below `nextId`, so a store with two rows under one id
cannot be built, and `createClaim` is obliged to show that the id it hands out
is new. Everything later that speaks of "the claim with id `n`" leans on this:
`findClaim_eq_some_iff` turns a lookup into membership precisely because there
is at most one such row.

`updateClaim` is `update({ where: { id }, data: { status } })`, the only write
the service makes to an existing row. It touches the `status` of the row it
names and nothing else, which `updateClaim_claims` and the `input` and `id`
frame lemmas after it record once, so that the invariants over runs never
unfold it.

## Main definitions

* `AidPackage`, `Claim`: Rows of the two tables.
* `ClaimCreateInput`: The `data` argument of `claim.create`.
* `defaultClaimStatus`: The schema default a created claim starts in.
* `Store`: The tables, with the primary key as a field.
* `Store.empty`: A store with no claims.
* `Store.findClaim`, `Store.findAidPackage`: `findUnique` by id.
* `Store.createClaim`: `claim.create`, under the next id.
* `Store.updateClaim`: `claim.update` of one row's status.
* `Store.findManyClaims`: `claim.findMany` with the campaign included.

## Theorems

* `Store.findClaim_eq_some_iff`: A lookup finds exactly the row with that id.
* `Store.findClaim_createClaim`: A created row is found under the new id only.
* `Store.updateClaim_of_findClaim`: An update of a stored row writes its status.
* `Store.findClaim_writeStatus`: A status write is seen as a write on each row.
* `Store.findClaim_writeStatus_self`: The written row carries the new status.
-/

namespace Soter

namespace Claims

/-- An `aidPackage` row: the campaign a claim is filed against. -/
structure AidPackage where
  id : Nat
  status : String
  deriving DecidableEq, Repr

/-- A `claim` row. -/
structure Claim where
  id : Nat
  campaignId : Nat
  amount : ℚ
  recipientRef : String
  evidenceRef : Option String
  status : ClaimStatus
  deriving DecidableEq, Repr

/-- The `data` `ClaimsService.create` passes to `claim.create`. -/
structure ClaimCreateInput where
  campaignId : Nat
  amount : ℚ
  recipientRef : String
  evidenceRef : Option String
  deriving DecidableEq, Repr

/-- The fields a claim was created with, read back off its row. -/
def Claim.input (c : Claim) : ClaimCreateInput :=
  ⟨c.campaignId, c.amount, c.recipientRef, c.evidenceRef⟩

/-- Modelled from the spec: the `@default` of `Claim.status` in the Prisma
    schema, which is not part of the sources. `ClaimsService.create` passes no
    status and relies on it; the spec and the e2e test give `requested`. -/
def defaultClaimStatus : ClaimStatus := .requested

/-- A claim row after the status write of an update aimed at `id`. -/
def Claim.setStatus (id : Nat) (status : ClaimStatus) (c : Claim) : Claim :=
  if c.id = id then { c with status } else c

@[simp] theorem Claim.setStatus_id (id : Nat) (status : ClaimStatus) (c : Claim) :
    (c.setStatus id status).id = c.id := by
  unfold Claim.setStatus; split <;> rfl

@[simp] theorem Claim.setStatus_input (id : Nat) (status : ClaimStatus) (c : Claim) :
    (c.setStatus id status).input = c.input := by
  unfold Claim.setStatus; split <;> rfl

/-- The two tables. Claim ids are the primary key: distinct, and all below the
    id the database hands out next. -/
structure Store where
  aidPackages : List AidPackage
  claims : List Claim
  nextId : Nat
  id_lt : ∀ c ∈ claims, c.id < nextId
  ids_nodup : (claims.map Claim.id).Nodup

namespace Store

/-- A store with no claims yet: the aid packages, and the id the database
    hands out first. -/
def empty (aidPackages : List AidPackage) (nextId : Nat) : Store where
  aidPackages := aidPackages
  claims := []
  nextId := nextId
  id_lt := nofun
  ids_nodup := .nil

/-- `claim.findUnique({ where: { id } })`. -/
def findClaim (s : Store) (id : Nat) : Option Claim :=
  s.claims.find? (·.id == id)

/-- `aidPackage.findUnique({ where: { id } })`. -/
def findAidPackage (s : Store) (id : Nat) : Option AidPackage :=
  s.aidPackages.find? (·.id == id)

/-- The row `claim.create` inserts for `data`. -/
def newClaim (s : Store) (data : ClaimCreateInput) : Claim :=
  { id := s.nextId, campaignId := data.campaignId, amount := data.amount,
    recipientRef := data.recipientRef, evidenceRef := data.evidenceRef,
    status := defaultClaimStatus }

/-- `claim.create({ data })`: the new row, under the next id, appended. -/
def createClaim (s : Store) (data : ClaimCreateInput) : Claim × Store :=
  (s.newClaim data,
    { aidPackages := s.aidPackages
      claims := s.claims ++ [s.newClaim data]
      nextId := s.nextId + 1
      id_lt := by
        intro c hc
        rcases List.mem_append.mp hc with hc | hc
        · exact Nat.lt_succ_of_lt (s.id_lt c hc)
        · rw [List.mem_singleton.mp hc]; exact Nat.lt_succ_self _
      ids_nodup := by
        rw [List.map_append]
        refine s.ids_nodup.append (List.nodup_singleton _) ?_
        intro a ha hb
        obtain ⟨c, hc, rfl⟩ := List.mem_map.mp ha
        have := s.id_lt c hc
        simp only [List.map_cons, List.map_nil, List.mem_singleton, newClaim] at hb
        omega })

/-- The store after the status write of `update({ where: { id }, data: { status } })`. -/
def writeStatus (s : Store) (id : Nat) (status : ClaimStatus) : Store where
  aidPackages := s.aidPackages
  claims := s.claims.map (Claim.setStatus id status)
  nextId := s.nextId
  id_lt := by
    intro c hc
    obtain ⟨c₀, hc₀, rfl⟩ := List.mem_map.mp hc
    rw [Claim.setStatus_id]; exact s.id_lt c₀ hc₀
  ids_nodup := by
    rw [List.map_map]
    have : Claim.id ∘ Claim.setStatus id status = Claim.id := by
      funext c; simp
    rw [this]; exact s.ids_nodup

/-- `claim.update({ where: { id }, data: { status } })`: the updated row and
    store, or `none` when no row has the id (Prisma's record-not-found). -/
def updateClaim (s : Store) (id : Nat) (status : ClaimStatus) : Option (Claim × Store) :=
  match s.findClaim id with
  | none => none
  | some c => some ({ c with status }, s.writeStatus id status)

/-- A claim row with its campaign attached, as `include: { campaign: true }`
    returns it. -/
structure ClaimWithCampaign where
  claim : Claim
  campaign : Option AidPackage
  deriving DecidableEq, Repr

/-- Attaching a claim's campaign. -/
def withCampaign (s : Store) (c : Claim) : ClaimWithCampaign :=
  ⟨c, s.findAidPackage c.campaignId⟩

/-- `claim.findMany({ include: { campaign: true } })`. -/
def findManyClaims (s : Store) : List ClaimWithCampaign :=
  s.claims.map s.withCampaign

theorem ext {s t : Store} (ha : s.aidPackages = t.aidPackages) (hc : s.claims = t.claims)
    (hn : s.nextId = t.nextId) : s = t := by
  cases s; cases t; cases ha; cases hc; cases hn; rfl

/-! ### Lookup -/

theorem findClaim_eq_some_iff {s : Store} {id : Nat} {c : Claim} :
    s.findClaim id = some c ↔ c ∈ s.claims ∧ c.id = id := by
  constructor
  · intro h
    exact ⟨List.mem_of_find?_eq_some h, by simpa using List.find?_some h⟩
  · rintro ⟨hc, rfl⟩
    cases h : s.findClaim c.id with
    | none => exact absurd (List.find?_eq_none.mp h c hc) (by simp)
    | some c' =>
        -- Two rows under one id are one row: the primary key.
        have hid : c'.id = c.id := by simpa using List.find?_some h
        rw [List.inj_on_of_nodup_map s.ids_nodup (List.mem_of_find?_eq_some h) hc hid]

theorem findClaim_id {s : Store} {id : Nat} {c : Claim} (h : s.findClaim id = some c) :
    c.id = id :=
  (findClaim_eq_some_iff.mp h).2

theorem findClaim_of_le {s : Store} {id : Nat} (h : s.nextId ≤ id) : s.findClaim id = none := by
  rw [findClaim, List.find?_eq_none]
  intro c hc
  have := s.id_lt c hc
  simp only [beq_iff_eq]
  omega

/-! ### Create -/

@[simp] theorem createClaim_fst (s : Store) (data : ClaimCreateInput) :
    (s.createClaim data).1 = s.newClaim data := rfl

@[simp] theorem createClaim_claims (s : Store) (data : ClaimCreateInput) :
    (s.createClaim data).2.claims = s.claims ++ [s.newClaim data] := rfl

@[simp] theorem createClaim_aidPackages (s : Store) (data : ClaimCreateInput) :
    (s.createClaim data).2.aidPackages = s.aidPackages := rfl

@[simp] theorem createClaim_nextId (s : Store) (data : ClaimCreateInput) :
    (s.createClaim data).2.nextId = s.nextId + 1 := rfl

@[simp] theorem newClaim_id (s : Store) (data : ClaimCreateInput) :
    (s.newClaim data).id = s.nextId := rfl

@[simp] theorem newClaim_input (s : Store) (data : ClaimCreateInput) :
    (s.newClaim data).input = data := rfl

@[simp] theorem newClaim_status (s : Store) (data : ClaimCreateInput) :
    (s.newClaim data).status = defaultClaimStatus := rfl

@[simp] theorem findAidPackage_createClaim (s : Store) (data : ClaimCreateInput) :
    (s.createClaim data).2.findAidPackage = s.findAidPackage := rfl

theorem findClaim_createClaim (s : Store) (data : ClaimCreateInput) (id : Nat) :
    (s.createClaim data).2.findClaim id =
      if id = s.nextId then some (s.newClaim data) else s.findClaim id := by
  simp only [findClaim, createClaim_claims, List.find?_append]
  split
  · subst id
    rw [← findClaim, findClaim_of_le (Nat.le_refl _)]
    simp
  · cases s.claims.find? (·.id == id) <;> simp [newClaim, Ne.symm ‹_›]

/-! ### Update -/

@[simp] theorem writeStatus_claims (s : Store) (id : Nat) (status : ClaimStatus) :
    (s.writeStatus id status).claims = s.claims.map (Claim.setStatus id status) := rfl

@[simp] theorem writeStatus_aidPackages (s : Store) (id : Nat) (status : ClaimStatus) :
    (s.writeStatus id status).aidPackages = s.aidPackages := rfl

@[simp] theorem writeStatus_nextId (s : Store) (id : Nat) (status : ClaimStatus) :
    (s.writeStatus id status).nextId = s.nextId := rfl

@[simp] theorem findAidPackage_writeStatus (s : Store) (id : Nat) (status : ClaimStatus) :
    (s.writeStatus id status).findAidPackage = s.findAidPackage := rfl

theorem updateClaim_of_findClaim {s : Store} {id : Nat} {c : Claim} (status : ClaimStatus)
    (h : s.findClaim id = some c) :
    s.updateClaim id status = some ({ c with status }, s.writeStatus id status) := by
  simp [updateClaim, h]

theorem findClaim_writeStatus (s : Store) (id : Nat) (status : ClaimStatus) (id' : Nat) :
    (s.writeStatus id status).findClaim id' =
      (s.findClaim id').map (Claim.setStatus id status) := by
  have hp : ((·.id == id') ∘ Claim.setStatus id status) = (·.id == id') := by
    funext c; simp
  simp only [findClaim, writeStatus_claims, List.find?_map, hp]

theorem findClaim_writeStatus_self (s : Store) (id : Nat) (status : ClaimStatus) :
    (s.writeStatus id status).findClaim id = (s.findClaim id).map ({ · with status }) := by
  rw [findClaim_writeStatus]
  rcases h : s.findClaim id with _ | c
  · rfl
  · simp [Claim.setStatus, findClaim_id h]

end Store

end Claims

end Soter
