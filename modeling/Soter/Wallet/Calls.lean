import Mathlib.Logic.Relation
import Soter.Wallet.Service

/-!
# The Calls of the Wallet Service

What one call of a method of `WalletConnectService` can go through, whatever
else runs meanwhile.

Each method of the service is a short `async` function: a few `await`s, and
between them code that returns or throws. `Task.Step` is that control flow,
read off the methods: an edge for each way a call waiting at one `await` can
go on, to its next `await` or to its end. It says nothing of the service's
fields or of the other calls. `Method.Admits` collects the await points and
the ends of each method, and is closed under the edges.

Each handler of the machine gets one lemma saying what it does to the calls.
A handler that resumes call `i` leaves the calls alone or moves call `i`
along the edge its branch names (`World.initSettles_resumes` and the rest,
packaged as `Resumes`); an approval settling or a session event leaves the
calls alone; the head of a method's call adds one call, at a point of that
method (`World.call_spawns`). `step_tasks` and `step_settled` put these
together, one case per event.

So whatever event runs, each call already made stays where it is or takes one
edge (`step_moves`), and over a run each call walks a path of its own method
(`run_follows_methods`). No edge leaves an ended call, and the only edge out
of a call its timeout has rejected ends it with that rejection, so what a
caller has been given never changes: a promise settles once. With
`Method.Admits`, `call_contract` follows: a call returns only a value its
method returns, and `disconnect` never throws, so the error branches the hook
and the home screen keep for it never run.

## Main definitions

* `Task.Step`: The edges of the methods' control flow.
* `Method.Returns`: What each method returns.
* `Method.Admits`: Where a call of each method can be.
* `Event.target`: The call an event resumes.
* `Resumes`: What a handler resuming a call may do.

## Theorems

* `World.call_spawns`: The head of a call adds one call of its method.
* `step_tasks`, `step_getElem?_of_target_ne`: An event adds a call, or moves
  at most the call it resumes.
* `step_settled`: Only an approval settling is added to the settled ones.
* `step_moves`: Each event moves each call along at most one edge.
* `run_follows_methods`: Each call follows its method and keeps what it gave.
* `call_contract`: What every call of each method returns or throws.
-/

namespace Soter

namespace Wallet

open Relation

/-- The control flow of the service's methods: where a call waiting at one
    point can be once the event that resumes it has run. -/
inductive Task.Step : Task → Task → Prop
  /-- `SignClient.init` resolves and `initialize` returns. -/
  | initialized (client : Nat) : Task.Step (.initializing client) (.done (.returned .unit))
  /-- `SignClient.init` throws and `initialize` rethrows. -/
  | initFailed (client : Nat) (e : String) : Task.Step (.initializing client) (.done (.threw e))
  /-- The `initialize()` of `createConnection` resolves. -/
  | createInitialized (client : Nat) : Task.Step (.createInit (some client)) (.createInit none)
  | createInitFailed (client : Nat) (e : String) :
      Task.Step (.createInit (some client)) (.done (.threw e))
  /-- With a client held, `createConnection` calls `connect`. -/
  | connect : Task.Step (.createInit none) .connecting
  | notInitialized : Task.Step (.createInit none) (.done (.threw notInitializedMessage))
  /-- `connect` gives a `uri`, which is returned. -/
  | connected (uri : String) (h : uri ≠ "") : Task.Step .connecting (.done (.returned (.uri uri)))
  | noUri : Task.Step .connecting (.done (.threw noUriMessage))
  | connectFailed (e : String) : Task.Step .connecting (.done (.threw e))
  /-- The `initialize()` of `restoreSessions` resolves. -/
  | restoreInitialized (client : Nat) : Task.Step (.restoreInit (some client)) (.restoreInit none)
  | restoreInitFailed (client : Nat) (e : String) :
      Task.Step (.restoreInit (some client)) (.done (.threw e))
  | restored : Task.Step (.restoreInit none) (.done (.returned .unit))
  /-- The approval `waitForSession` awaits settles: the session is returned,
      or the call falls back to polling, or it rethrows. -/
  | approved (approval : Nat) (session : WalletSession) :
      Task.Step (.awaitApproval approval) (.done (.returned (.session session)))
  | approvedNoSession (approval : Nat) : Task.Step (.awaitApproval approval) .polling
  | approvalFailed (approval : Nat) (e : String) :
      Task.Step (.awaitApproval approval) (.done (.threw e))
  /-- A check finds a session. -/
  | found (session : WalletSession) : Task.Step .polling (.done (.returned (.session session)))
  /-- The timeout rejects the call; its check goes on. -/
  | timeout : Task.Step .polling .timedOut
  /-- A check after the timeout finds a session and stops; its `resolve`
      comes too late. -/
  | foundLate : Task.Step .timedOut (.done (.threw connectionTimeoutMessage))
  | disconnected : Task.Step .disconnecting (.done (.returned .unit))

namespace Task.Step

/-- The fallback of `waitForSession` is an edge out of its approval wait. -/
theorem poll (w : World) (approval : Nat) : Task.Step (.awaitApproval approval) w.poll := by
  unfold World.poll
  split
  · exact .approved _ _
  · exact .approvedNoSession _

/-- An edge keeps what the caller has been given. -/
theorem outcome {t t' : Task} (h : Task.Step t t') {o : Outcome} (ho : t.outcome = some o) :
    t'.outcome = some o := by
  cases h <;> simp_all [Task.outcome]

end Task.Step

/-! ### What each method returns or throws -/

/-- What each method returns: `createConnection` a `uri`, never empty, and
    `waitForSession` a session; the others nothing. -/
def Method.Returns : Method → Value → Prop
  | .createConnection, .uri uri => uri ≠ ""
  | .waitForSession, .session _ => True
  | .initializeClient, .unit => True
  | .disconnect, .unit => True
  | .restoreSessions _, .unit => True
  | _, _ => False

/-- Where a call of each method can be: one of its own await points, or an
    end that returns what the method returns, or a throw, which `disconnect`
    never makes. -/
def Method.Admits : Method → Task → Prop
  | .initializeClient, .initializing _ => True
  | .createConnection, .createInit _ => True
  | .createConnection, .connecting => True
  | .restoreSessions _, .restoreInit _ => True
  | .waitForSession, .awaitApproval _ => True
  | .waitForSession, .polling => True
  | .waitForSession, .timedOut => True
  | .disconnect, .disconnecting => True
  | m, .done (.returned v) => m.Returns v
  | m, .done (.threw _) => m ≠ .disconnect
  | _, _ => False

namespace Method.Admits

variable {m : Method} {t t' : Task}

theorem step (h : m.Admits t) (hs : Task.Step t t') : m.Admits t' := by
  cases hs <;> cases m <;> simp_all [Method.Admits, Method.Returns]

theorem reaches (h : m.Admits t) (hs : ReflTransGen Task.Step t t') : m.Admits t' := by
  induction hs with
  | refl => exact h
  | tail _ hs ih => exact ih.step hs

theorem outcome (h : m.Admits t) :
    (∀ v, t.outcome = some (.returned v) → m.Returns v) ∧
    (∀ e, t.outcome = some (.threw e) → m ≠ .disconnect) := by
  cases t with
  | done o => cases o <;> simp_all [Method.Admits, Task.outcome]
  | timedOut => cases m <;> simp_all [Method.Admits, Task.outcome]
  | _ => simp [Task.outcome]

end Method.Admits

/-! ### What each handler does to the calls -/

/-- The call an event resumes, if it resumes one. -/
def Event.target : Event → Option Nat
  | .initSettles i _ => some i
  | .connectSettles i _ => some i
  | .disconnectSettles i => some i
  | .resume i => some i
  | .restoreResume i _ => some i
  | .checkFires i => some i
  | .timeoutFires i => some i
  | _ => none

/-- What a handler resuming call `i` may do: it settles no approval, and it
    leaves the calls as they were or moves call `i` along one edge. -/
structure Resumes (w w' : World) (i : Nat) : Prop where
  settled : w'.settled = w.settled
  tasks : w'.tasks = w.tasks ∨
    ∃ t t', w.tasks[i]? = some t ∧ Task.Step t t' ∧ w'.tasks = w.tasks.set i t'

namespace Resumes

theorem refl (w : World) (i : Nat) : Resumes w w i := ⟨rfl, .inl rfl⟩

/-- Writing the end of an edge out of call `i`, after writes that touch
    neither the calls nor the settled approvals. -/
theorem setTask {w w' : World} {i : Nat} {t t' : Task} (ht : w.tasks[i]? = some t)
    (hs : Task.Step t t') (hw : w'.tasks = w.tasks) (hset : w'.settled = w.settled) :
    Resumes w (w'.setTask i t') i :=
  ⟨hset, .inr ⟨t, t', ht, hs, by rw [World.setTask_tasks, hw]⟩⟩

end Resumes

/-- `SignClient.init` settling ends `initialize`, lets `createConnection` or
    `restoreSessions` go on, or is rethrown. -/
theorem World.initSettles_resumes (w : World) (i : Nat) (r : Except String Unit) :
    Resumes w (w.initSettles i r) i := by
  unfold World.initSettles
  split
  · exact .setTask ‹_› (.initialized _) rfl rfl
  · exact .setTask ‹_› (.createInitialized _) rfl rfl
  · exact .setTask ‹_› (.restoreInitialized _) rfl rfl
  · exact .setTask ‹_› (.initFailed _ _) rfl rfl
  · exact .setTask ‹_› (.createInitFailed _ _) rfl rfl
  · exact .setTask ‹_› (.restoreInitFailed _ _) rfl rfl
  · exact .refl w i

/-- `connect` settling returns its `uri`, or throws. -/
theorem World.connectSettles_resumes (w : World) (i : Nat) (r : Except String (Option String)) :
    Resumes w (w.connectSettles i r) i := by
  unfold World.connectSettles
  split
  · split
    · split
      · rename_i hu
        exact .setTask ‹_› (.connected _ (by simpa using (Option.filter_eq_some.mp hu).2)) rfl rfl
      · exact .setTask ‹_› .noUri rfl rfl
    · exact .setTask ‹_› (.connectFailed _) rfl rfl
  · exact .refl w i

theorem World.disconnectSettles_resumes (w : World) (i : Nat) :
    Resumes w (w.disconnectSettles i) i := by
  unfold World.disconnectSettles
  split
  · exact .setTask ‹_› .disconnected rfl rfl
  · exact .refl w i

/-- Resuming after `initialize()` calls `connect` or throws; resuming after
    a settled approval returns the session, polls, or rethrows. -/
theorem World.resume_resumes (w : World) (i : Nat) : Resumes w (w.resume i) i := by
  unfold World.resume
  split
  · split
    · exact .setTask ‹_› .connect rfl rfl
    · exact .setTask ‹_› .notInitialized rfl rfl
  · split
    · exact .setTask ‹_› (.poll w _) rfl rfl
    · exact .setTask ‹_› (.approvalFailed _ _) rfl rfl
    · exact .refl w i
  · exact .refl w i

theorem World.restoreResume_resumes (w : World) (i : Nat) (active : List SignSession) :
    Resumes w (w.restoreResume i active) i := by
  unfold World.restoreResume
  split
  · split
    · exact .setTask ‹_› .restored (w.restore_tasks active) (w.restore_settled active)
    · exact .setTask ‹_› .restored rfl rfl
  · exact .refl w i

/-- A check finds a session, in time or after the timeout. -/
theorem World.checkFires_resumes (w : World) (i : Nat) : Resumes w (w.checkFires i) i := by
  unfold World.checkFires
  split
  · exact .setTask ‹_› (.found _) rfl rfl
  · exact .setTask ‹_› .foundLate rfl rfl
  · exact .refl w i

theorem World.timeoutFires_resumes (w : World) (i : Nat) : Resumes w (w.timeoutFires i) i := by
  unfold World.timeoutFires
  split
  · exact .setTask ‹_› .timeout rfl rfl
  · exact .refl w i

/-- An approval settling touches no call, and adds itself to the settled
    approvals if it was open. -/
theorem World.approvalSettles_frame (w : World) (a : Nat) (r : Except String SignSession) :
    (w.approvalSettles a r).tasks = w.tasks ∧
    ((w.approvalSettles a r).settled = w.settled ∨
      ∃ x, (w.approvalSettles a r).settled = (a, x) :: w.settled) := by
  unfold World.approvalSettles
  split
  · split
    · exact ⟨rfl, .inr ⟨none, rfl⟩⟩
    · exact ⟨rfl, .inr ⟨some _, rfl⟩⟩
  · exact ⟨rfl, .inl rfl⟩

/-- A session event writes the session, if anything. -/
theorem World.frame_of_session {w w' : World} (h : w' = w ∨ ∃ v, w' = w.setSession v) :
    w'.tasks = w.tasks ∧ w'.settled = w.settled := by
  rcases h with rfl | ⟨v, rfl⟩ <;> exact ⟨rfl, rfl⟩

theorem World.sessionDelete_eq (w : World) (client : Nat) (topic : String) :
    w.sessionDelete client topic = w ∨ ∃ v, w.sessionDelete client topic = w.setSession v := by
  unfold World.sessionDelete
  split
  · split
    · exact .inr ⟨_, rfl⟩
    · exact .inl rfl
  · exact .inl rfl

theorem World.sessionUpdate_eq (w : World) (client : Nat) (found : Option SignSession) :
    w.sessionUpdate client found = w ∨ ∃ v, w.sessionUpdate client found = w.setSession v := by
  unfold World.sessionUpdate
  split
  · split
    · exact .inr ⟨_, rfl⟩
    · exact .inl rfl
  · exact .inl rfl

theorem World.sessionConnect_eq (w : World) (client : Nat) (session : SignSession) :
    w.sessionConnect client session = w ∨ ∃ v, w.sessionConnect client session = w.setSession v := by
  unfold World.sessionConnect
  split
  · exact .inr ⟨_, rfl⟩
  · exact .inl rfl

/-- The head of a call adds one call, at a point of its method, and settles
    no approval. -/
theorem World.call_spawns (env : Option String) (w : World) (m : Method) :
    ∃ t, (w.call env m).tasks = w.tasks ++ [t] ∧ m.Admits t ∧ (w.call env m).settled = w.settled := by
  cases m with
  | initializeClient =>
      -- `initialize()` awaits the client it makes, or returns at once.
      refine ⟨_, by rw [World.call, World.spawn_tasks, World.initializeHead_tasks], ?_,
        by simp [World.call]⟩
      split <;> trivial
  | createConnection =>
      simp only [World.call]
      split
      · exact ⟨_, rfl, trivial, rfl⟩
      · refine ⟨_, by rw [World.spawn_tasks, World.initializeHead_tasks], ?_, by simp⟩
        trivial
  | waitForSession =>
      -- With no client it throws; otherwise it awaits the approval or polls.
      simp only [World.call]
      split
      · exact ⟨_, rfl, nofun, rfl⟩
      · exact ⟨_, rfl, trivial, rfl⟩
      · refine ⟨_, rfl, ?_, rfl⟩
        unfold World.poll
        split <;> trivial
  | disconnect =>
      -- It awaits the library, or clears the session and returns at once.
      simp only [World.call]
      split <;> exact ⟨_, rfl, trivial, rfl⟩
  | restoreSessions active =>
      simp only [World.call]
      split
      · refine ⟨_, by rw [World.spawn_tasks, World.restore_tasks], ?_, by simp⟩
        trivial
      · refine ⟨_, by rw [World.spawn_tasks, World.initializeHead_tasks], ?_, by simp⟩
        trivial

/-! ### What an event does to the calls -/

/-- What an event does to the calls in flight: a call of a method adds one,
    an event that resumes a call may move that call along one edge, and the
    others leave them as they were. -/
theorem step_tasks (env : Option String) (w : World) (e : Event) :
    (∃ t, (step env w e).tasks = w.tasks ++ [t]) ∨ (step env w e).tasks = w.tasks ∨
    ∃ i, e.target = some i ∧ Resumes w (step env w e) i := by
  cases e with
  | call m =>
      obtain ⟨t, h, -⟩ := w.call_spawns env m
      exact .inl ⟨t, h⟩
  | initSettles i r => exact .inr (.inr ⟨i, rfl, w.initSettles_resumes i r⟩)
  | connectSettles i r => exact .inr (.inr ⟨i, rfl, w.connectSettles_resumes i r⟩)
  | disconnectSettles i => exact .inr (.inr ⟨i, rfl, w.disconnectSettles_resumes i⟩)
  | resume i => exact .inr (.inr ⟨i, rfl, w.resume_resumes i⟩)
  | restoreResume i active => exact .inr (.inr ⟨i, rfl, w.restoreResume_resumes i active⟩)
  | checkFires i => exact .inr (.inr ⟨i, rfl, w.checkFires_resumes i⟩)
  | timeoutFires i => exact .inr (.inr ⟨i, rfl, w.timeoutFires_resumes i⟩)
  | approvalSettles a r => exact .inr (.inl (w.approvalSettles_frame a r).1)
  | sessionDelete client topic =>
      exact .inr (.inl (World.frame_of_session (w.sessionDelete_eq client topic)).1)
  | sessionUpdate client found =>
      exact .inr (.inl (World.frame_of_session (w.sessionUpdate_eq client found)).1)
  | sessionConnect client session =>
      exact .inr (.inl (World.frame_of_session (w.sessionConnect_eq client session)).1)

/-- An event leaves every call it does not resume as it was. -/
theorem step_getElem?_of_target_ne (env : Option String) (w : World) (e : Event) {i : Nat}
    (hi : i < w.tasks.length) (he : e.target ≠ some i) :
    (step env w e).tasks[i]? = w.tasks[i]? := by
  rcases step_tasks env w e with ⟨t, h⟩ | h | ⟨j, hj, hr⟩
  · rw [h, List.getElem?_append_left hi]
  · rw [h]
  · rcases hr.tasks with h | ⟨_, _, _, _, h⟩
    · rw [h]
    · rw [h, List.getElem?_set_ne fun hji : j = i => he (hji ▸ hj)]

/-- Only an approval settling adds to the settled approvals, and it adds
    that approval. -/
theorem step_settled (env : Option String) (w : World) (e : Event) :
    (step env w e).settled = w.settled ∨
    ∃ a r x, e = .approvalSettles a r ∧ (step env w e).settled = (a, x) :: w.settled := by
  cases e with
  | call m =>
      obtain ⟨-, -, -, h⟩ := w.call_spawns env m
      exact .inl h
  | initSettles i r => exact .inl (w.initSettles_resumes i r).settled
  | connectSettles i r => exact .inl (w.connectSettles_resumes i r).settled
  | disconnectSettles i => exact .inl (w.disconnectSettles_resumes i).settled
  | resume i => exact .inl (w.resume_resumes i).settled
  | restoreResume i active => exact .inl (w.restoreResume_resumes i active).settled
  | checkFires i => exact .inl (w.checkFires_resumes i).settled
  | timeoutFires i => exact .inl (w.timeoutFires_resumes i).settled
  | approvalSettles a r =>
      exact (w.approvalSettles_frame a r).2.imp id fun ⟨x, h⟩ => ⟨a, r, x, rfl, h⟩
  | sessionDelete client topic =>
      exact .inl (World.frame_of_session (w.sessionDelete_eq client topic)).2
  | sessionUpdate client found =>
      exact .inl (World.frame_of_session (w.sessionUpdate_eq client found)).2
  | sessionConnect client session =>
      exact .inl (World.frame_of_session (w.sessionConnect_eq client session)).2

/-! ### Each call follows its method -/

/-- Whatever event runs, a call already made stays where it is or takes one
    edge of its method. -/
theorem step_moves (env : Option String) (w : World) (e : Event) {i : Nat} {t : Task}
    (ht : w.tasks[i]? = some t) :
    ∃ t', (step env w e).tasks[i]? = some t' ∧ ReflGen Task.Step t t' := by
  have hi : i < w.tasks.length := (List.getElem?_eq_some.mp ht).1
  rcases step_tasks env w e with ⟨_, h⟩ | h | ⟨j, -, hr⟩
  · exact ⟨t, by rw [h, List.getElem?_append_left hi, ht], .refl⟩
  · exact ⟨t, by rw [h, ht], .refl⟩
  rcases hr.tasks with h | ⟨t₀, t', h₀, hs, h⟩
  · exact ⟨t, by rw [h, ht], .refl⟩
  by_cases hji : j = i
  · -- The event resumes call `i`, which takes the edge the handler names.
    subst hji
    obtain rfl : t₀ = t := Option.some.inj (h₀.symm.trans ht)
    exact ⟨t', by rw [h, List.getElem?_set_self hi], .single hs⟩
  · exact ⟨t, by rw [h, List.getElem?_set_ne hji, ht], .refl⟩

/-- Over every run, each call made walks a path of its own method, and what
    its caller has been given (its return, its throw, or the rejection by its
    timeout) stays given: a later event never changes it. -/
theorem run_follows_methods (env : Option String) (w : World) (events : List Event) {i : Nat}
    {t : Task} (ht : w.tasks[i]? = some t) :
    ∃ t', (run env w events).tasks[i]? = some t' ∧ ReflTransGen Task.Step t t' ∧
      ∀ o, t.outcome = some o → t'.outcome = some o := by
  induction events generalizing w t with
  | nil => exact ⟨t, ht, .refl, fun _ => id⟩
  | cons e events ih =>
      obtain ⟨t₁, h₁, hs₁⟩ := step_moves env w e ht
      obtain ⟨t₂, h₂, hs₂, ho₂⟩ := ih _ h₁
      refine ⟨t₂, h₂, hs₁.to_reflTransGen.trans hs₂, fun o ho => ho₂ o ?_⟩
      cases hs₁ with
      | refl => exact ho
      | single hs => exact hs.outcome ho

/-- A call of `waitForSession` its timeout has rejected stays rejected when
    a session arrives and its check finds it. -/
theorem timed_out_call_stays_rejected :
    let w : World := ⟨⟨some 0, none, none⟩, [.timedOut], 1, [0], 0, [], none⟩
    w.tasks[0]? = some .timedOut ∧
    ∃ t', (run none w [.sessionConnect 0 ⟨"topic", none⟩, .checkFires 0]).tasks[0]? = some t' ∧
      ReflTransGen Task.Step .timedOut t' ∧
      ∀ o, Task.timedOut.outcome = some o → t'.outcome = some o :=
  ⟨rfl, run_follows_methods none _ _ (by rfl)⟩

/-- Whatever the app has called before and whatever runs after, a call of a
    method returns only what that method returns (`createConnection` a
    non-empty `uri`, `waitForSession` a session, the others nothing), and a
    call of `disconnect` never throws. -/
theorem call_contract (env : Option String) (w : World) (m : Method) (events : List Event) :
    ∃ t, (run env (step env w (.call m)) events).tasks[w.tasks.length]? = some t ∧
      (∀ v, t.outcome = some (.returned v) → m.Returns v) ∧
      (∀ e, t.outcome = some (.threw e) → m ≠ .disconnect) := by
  obtain ⟨t₀, h₀, ha, -⟩ := w.call_spawns env m
  have hn : (step env w (.call m)).tasks[w.tasks.length]? = some t₀ := by
    rw [step, h₀, List.getElem?_concat_length]
  obtain ⟨t, ht, hs, -⟩ := run_follows_methods env _ events hn
  exact ⟨t, ht, (ha.reaches hs).outcome⟩

end Wallet

end Soter
