import Mathlib.Data.List.Destutter

/-!
# Claim Status

The lifecycle a claim moves through. The service names the statuses with the
Prisma enum `ClaimStatus`, and each of its four transition methods moves a
claim along one edge of the chain

  `requested → verified → approved → disbursed → archived`.

Nothing in this file knows about the store. It fixes the order of the chain
(`rank`, `next`), says what a single service call may do to the stored status
of one claim (`StatusStep`), and proves the fact every history argument later
reduces to: a sequence of statuses in which each entry either repeats the one
before or moves one edge along the chain collapses, once repeats are merged,
to a piece of the chain itself. Starting from `requested`, that piece is a
prefix of `lifecycle`.

## Main definitions

* `ClaimStatus`: The Prisma enum, in lifecycle order.
* `ClaimStatus.rank`: A status's position in the chain.
* `ClaimStatus.next`: The status one edge further along, if any.
* `lifecycle`: The chain as a list.
* `StatusStep`: What one call may do to the stored status of one claim.

## Theorems

* `ClaimStatus.rank_le`: No status sits past position four.
* `ClaimStatus.rank_of_next`: An edge raises the position by one.
* `lifecycle_drop_rank`: The chain, read from a status, starts there.
* `StatusStep.of_some`, `StatusStep.of_none`: What a step can do from a
  stored status and from an absent one.
* `destutter'_prefix_lifecycle`: A stay-or-advance sequence collapses to a
  piece of the chain.
-/

namespace Soter

namespace Claims

/-- The Prisma enum `ClaimStatus`, in lifecycle order. -/
inductive ClaimStatus
  | requested
  | verified
  | approved
  | disbursed
  | archived
  deriving DecidableEq, Repr

namespace ClaimStatus

/-- The enum value as the database stores it and a template string prints it. -/
def name : ClaimStatus → String
  | requested => "requested"
  | verified => "verified"
  | approved => "approved"
  | disbursed => "disbursed"
  | archived => "archived"

instance : ToString ClaimStatus := ⟨name⟩

/-- Position in the chain, from `requested` at zero to `archived` at four. -/
def rank : ClaimStatus → Nat
  | requested => 0
  | verified => 1
  | approved => 2
  | disbursed => 3
  | archived => 4

/-- The status one edge further along the chain; `archived` has none. -/
def next : ClaimStatus → Option ClaimStatus
  | requested => some verified
  | verified => some approved
  | approved => some disbursed
  | disbursed => some archived
  | archived => none

theorem rank_le (s : ClaimStatus) : s.rank ≤ 4 := by
  cases s <;> decide

theorem rank_of_next {s t : ClaimStatus} (h : s.next = some t) : t.rank = s.rank + 1 := by
  cases s <;> cases h <;> rfl

theorem next_ne_self {s t : ClaimStatus} (h : s.next = some t) : s ≠ t := by
  rintro rfl
  have := rank_of_next h
  omega

end ClaimStatus

open ClaimStatus

/-- The chain `requested → verified → approved → disbursed → archived`. -/
def lifecycle : List ClaimStatus := [requested, verified, approved, disbursed, archived]

theorem lifecycle_drop_rank (s : ClaimStatus) :
    lifecycle.drop s.rank = s :: lifecycle.drop (s.rank + 1) := by
  cases s <;> rfl

/-- What one service call may do to the stored status of one claim id: leave
    it as it is, create the claim in `requested`, or move it one edge along
    the chain. A status is never removed and never moves any other way. -/
inductive StatusStep : Option ClaimStatus → Option ClaimStatus → Prop
  | keep (o : Option ClaimStatus) : StatusStep o o
  | create : StatusStep none (some requested)
  | advance {s t : ClaimStatus} : s.next = some t → StatusStep (some s) (some t)

/-- From a stored status, a call keeps it or moves it one edge along. -/
theorem StatusStep.of_some {s : ClaimStatus} {o : Option ClaimStatus} (h : StatusStep (some s) o) :
    o = some s ∨ ∃ t, s.next = some t ∧ o = some t := by
  cases h with
  | keep => exact .inl rfl
  | advance hn => exact .inr ⟨_, hn, rfl⟩

/-- From an absent claim, a call leaves it absent or creates it in `requested`. -/
theorem StatusStep.of_none {o : Option ClaimStatus} (h : StatusStep none o) :
    o = none ∨ o = some requested := by
  cases h with
  | keep => exact .inl rfl
  | create => exact .inr rfl

/-- Consecutive entries of an observed status sequence: the same status again,
    or the next one. -/
def StayOrNext (s t : ClaimStatus) : Prop := t = s ∨ s.next = some t

/-- A sequence that starts at `s` and only stays or advances collapses, once
    repeats are merged, to a piece of the chain read from `s`. -/
theorem destutter'_prefix_lifecycle (l : List ClaimStatus) :
    ∀ s, l.Chain StayOrNext s → l.destutter' (· ≠ ·) s <+: lifecycle.drop s.rank := by
  induction l with
  | nil =>
      intro s _
      rw [List.destutter'_nil, lifecycle_drop_rank]
      exact List.prefix_cons_inj s |>.mpr (List.nil_prefix)
  | cons t l ih =>
      intro s h
      rcases List.chain_cons.mp h with ⟨hst, hl⟩
      rcases hst with rfl | hnext
      · -- A repeat is merged away.
        rw [List.destutter'_cons_neg _ (by simp)]
        exact ih t hl
      · -- An edge keeps `s` and continues from `t`, one place further on.
        rw [List.destutter'_cons_pos _ (ClaimStatus.next_ne_self hnext), lifecycle_drop_rank,
          ← rank_of_next hnext]
        exact (List.prefix_cons_inj s).mpr (ih t hl)

end Claims

end Soter
