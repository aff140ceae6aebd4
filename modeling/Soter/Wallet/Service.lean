import Soter.Wallet.Account

/-!
# The Wallet Connection Service

`WalletConnectService` of the mobile app, as a machine that JavaScript's
event loop drives.

The service is one object shared by every screen: the `SignClient` it holds,
the session it reports, and the approval promise of the last connection it
opened. Its methods are `async`, so a call runs until its first `await` and
then waits; meanwhile other calls start, the library delivers session events,
and promises settle. Each `await` is therefore a point where anything else may
run. A call in flight is a `Task`, recording where it waits; an `Event` is
whatever runs next: a new call's synchronous head, the continuation of a call
whose promise settled, a timer, or a library event. Whatever the library
answers (a client, a `connect` result, an approval, the sessions it lists) is
part of the event, so the model covers every answer it can give.

Clients are named by the `SignClient.init` call that made them, and approval
promises by the `connect` answer they came with, so a stale promise can be
told from a fresh one. `listening` is the clients whose events reach the
service's handlers: `initialize` registers them on every client it installs
and nothing ever removes them. `notified` is the value of the latest
`onSessionUpdate?.(…)`, the call by which the app's hook learns the session.

## Main definitions

* `projectIdSet`: Whether `initialize` will create a client.
* `Service`: The fields of `WalletConnectService` its methods use.
* `Task`: Where a call of a method waits.
* `World`: The service, its calls in flight, and the library's promises.
* `Method`, `Event`: What the app calls and what runs next.
* `step`, `run`: One event, and a sequence of them.

## Theorems

* `World.checkFires_timedOut`: After the timeout, a check without a session
  changes nothing and schedules itself again.
-/

namespace Soter

namespace Wallet

/-- `PROJECT_ID`: the `EXPO_PUBLIC_WALLETCONNECT_PROJECT_ID` environment
    variable, or the placeholder when it is unset or empty. -/
def projectId (env : Option String) : String :=
  match env with
  | some id => if id = "" then "YOUR_PROJECT_ID_HERE" else id
  | none => "YOUR_PROJECT_ID_HERE"

/-- The guard of `initialize`, negated: a project id is set and is not the
    placeholder. -/
def projectIdSet (env : Option String) : Bool :=
  !(projectId env == "" || projectId env == "YOUR_PROJECT_ID_HERE")

/-- The fields of `WalletConnectService` its methods read and write: the
    client held (by the number of the `SignClient.init` call that made it),
    the session, and the pending approval (by the number of the `connect`
    answer it came with). -/
structure Service where
  signClient : Option Nat
  session : Option WalletSession
  pendingApproval : Option Nat
  deriving DecidableEq, Repr

/-- What a method returns. -/
inductive Value
  | unit
  | uri (uri : String)
  | session (session : WalletSession)
  deriving DecidableEq, Repr

/-- How a call ended: the value it returned, or the message of what it threw. -/
inductive Outcome
  | returned (value : Value)
  | threw (message : String)
  deriving DecidableEq, Repr

/-- Where a call of one of the service's methods waits. -/
inductive Task
  /-- `initialize` awaiting `SignClient.init` of this client. -/
  | initializing (client : Nat)
  /-- `createConnection` awaiting its `initialize()`: the client that call
      awaits, or `none` once it has returned. -/
  | createInit (client : Option Nat)
  /-- `createConnection` awaiting `signClient.connect`. -/
  | connecting
  /-- `restoreSessions` awaiting its `initialize()`. -/
  | restoreInit (client : Option Nat)
  /-- `waitForSession` awaiting this approval promise. -/
  | awaitApproval (approval : Nat)
  /-- `waitForSession` checking the session every 500 ms, its timeout armed. -/
  | polling
  /-- `waitForSession` rejected by its timeout, its check still rescheduling. -/
  | timedOut
  /-- `disconnect` awaiting `signClient.disconnect`. -/
  | disconnecting
  /-- A call that has returned or thrown. -/
  | done (outcome : Outcome)
  deriving DecidableEq, Repr

/-- The service, the calls in flight (by the order they were made), and the
    bookkeeping of the library's promises. -/
structure World where
  service : Service
  tasks : List Task
  /-- `SignClient.init` calls so far; client `k` is the `k`-th. -/
  clients : Nat
  /-- The clients whose events reach the service's handlers. -/
  listening : List Nat
  /-- Approval promises handed out so far; approval `a` is the `a`-th. -/
  approvals : Nat
  /-- The approvals that have settled, with the error of those that rejected. -/
  settled : List (Nat × Option String)
  /-- The value of the latest `onSessionUpdate?.(…)`. -/
  notified : Option WalletSession
  deriving DecidableEq, Repr

/-- The service as `new WalletConnectService()` makes it, before any call. -/
def World.start : World :=
  { service := ⟨none, none, none⟩, tasks := [], clients := 0, listening := [], approvals := 0,
    settled := [], notified := none }

/-- A method of the service as the app calls it. `restoreSessions` carries
    what `signClient.session.getAll()` returns, for when it runs at once. -/
inductive Method
  /-- `initialize()`, whose name is a keyword of Lean. -/
  | initializeClient
  | createConnection
  | waitForSession
  | disconnect
  | restoreSessions (active : List SignSession)
  deriving DecidableEq, Repr

/-- What runs next. -/
inductive Event
  /-- The app calls a method; it runs to its first `await`. -/
  | call (m : Method)
  /-- `SignClient.init`, awaited by call `i`, resolves or throws. -/
  | initSettles (i : Nat) (result : Except String Unit)
  /-- `signClient.connect`, awaited by call `i`, returns its `uri` or throws. -/
  | connectSettles (i : Nat) (result : Except String (Option String))
  /-- `signClient.disconnect`, awaited by call `i`, returns or throws; the
      error is caught and logged, so both go on alike. -/
  | disconnectSettles (i : Nat)
  /-- Call `i` goes on after the promise of the service it awaits (its own
      `initialize()`, or an approval) has settled. -/
  | resume (i : Nat)
  /-- `restoreSessions` call `i` goes on after its `initialize()`, and
      `getAll()` returns `active`. -/
  | restoreResume (i : Nat) (active : List SignSession)
  /-- The wallet answers approval `a`: a session, or an error. -/
  | approvalSettles (a : Nat) (result : Except String SignSession)
  /-- The 500 ms timer of the polling call `i` fires. -/
  | checkFires (i : Nat)
  /-- The 120 s timeout of the polling call `i` fires. -/
  | timeoutFires (i : Nat)
  /-- `session_delete` from a client, for a topic. -/
  | sessionDelete (client : Nat) (topic : String)
  /-- `session_update` from a client; `found` is what
      `this.signClient?.session.get(topic)` returns. -/
  | sessionUpdate (client : Nat) (found : Option SignSession)
  /-- `session_connect` from a client. -/
  | sessionConnect (client : Nat) (session : SignSession)
  deriving Repr

/-- The message `createConnection` throws when no client could be made. -/
def notInitializedMessage : String :=
  "WalletConnect not initialized. Please set your Project ID in the environment variables or walletConnect.ts"

/-- The message `createConnection` throws when `connect` gives no `uri`. -/
def noUriMessage : String := "Failed to generate connection URI"

/-- The message `waitForSession` throws when no client is held. -/
def waitNotInitializedMessage : String := "WalletConnect not initialized"

/-- The message the timeout of `waitForSession` rejects with. -/
def connectionTimeoutMessage : String :=
  "Connection timeout. Please scan the QR code with your wallet app."

/-- What the caller of a call has been given: the outcome of a call that has
    returned or thrown, and the timeout's rejection of a call still polling. -/
def Task.outcome : Task → Option Outcome
  | .done outcome => some outcome
  | .timedOut => some (.threw connectionTimeoutMessage)
  | _ => none

namespace World

/-- `this.session = session; this.onSessionUpdate?.(this.session)`. -/
@[simps] def setSession (w : World) (session : Option WalletSession) : World :=
  { w with service := { w.service with session := session }, notified := session }

/-- `this.pendingApproval = approval`. -/
@[simps] def setPending (w : World) (approval : Option Nat) : World :=
  { w with service := { w.service with pendingApproval := approval } }

/-- `this.signClient = client`, followed by the registration of the
    service's handlers on it. -/
@[simps] def install (w : World) (client : Nat) : World :=
  { w with
    service := { w.service with signClient := some client }
    listening := client :: w.listening }

/-- Call `i` now waits at `t`, or has ended. -/
@[simps] def setTask (w : World) (i : Nat) (t : Task) : World :=
  { w with tasks := w.tasks.set i t }

/-- A new call, waiting at `t` or ended. -/
@[simps] def spawn (w : World) (t : Task) : World :=
  { w with tasks := w.tasks ++ [t] }

theorem spawn_getElem?_self (w : World) (t : Task) : (w.spawn t).tasks[w.tasks.length]? = some t := by
  simp [spawn]

theorem spawn_getElem?_of_lt (w : World) (t : Task) {i : Nat} (h : i < w.tasks.length) :
    (w.spawn t).tasks[i]? = w.tasks[i]? := by
  simp [spawn, List.getElem?_append_left h]

theorem setTask_getElem?_self {w : World} {i : Nat} (t : Task) (h : i < w.tasks.length) :
    (w.setTask i t).tasks[i]? = some t := by
  simp [setTask, List.getElem?_set_self h]

theorem setTask_getElem?_of_ne (w : World) {i j : Nat} (t : Task) (h : i ≠ j) :
    (w.setTask i t).tasks[j]? = w.tasks[j]? := by
  simp [setTask, List.getElem?_set_ne h]

/-- The synchronous head of `initialize()`: return when a client is held or
    no project id is set; otherwise call `SignClient.init`, which makes the
    next client, and await it. -/
def initializeHead (env : Option String) (w : World) : World × Option Nat :=
  if w.service.signClient.isSome then (w, none)
  else if projectIdSet env then ({ w with clients := w.clients + 1 }, some w.clients)
  else (w, none)

theorem initializeHead_of_none {w : World} {env : Option String}
    (hc : w.service.signClient = none) (hp : projectIdSet env = true) :
    w.initializeHead env = ({ w with clients := w.clients + 1 }, some w.clients) := by
  simp [initializeHead, hc, hp]

/-- `initialize()`'s head only counts a new client, if it makes one. -/
theorem initializeHead_fst (env : Option String) (w : World) :
    (w.initializeHead env).1 = w ∨ (w.initializeHead env).1 = { w with clients := w.clients + 1 } := by
  unfold initializeHead
  split
  · exact .inl rfl
  · split
    · exact .inr rfl
    · exact .inl rfl

@[simp] theorem initializeHead_tasks (env : Option String) (w : World) :
    (w.initializeHead env).1.tasks = w.tasks := by
  rcases initializeHead_fst env w with h | h <;> rw [h]

@[simp] theorem initializeHead_settled (env : Option String) (w : World) :
    (w.initializeHead env).1.settled = w.settled := by
  rcases initializeHead_fst env w with h | h <;> rw [h]

/-- The end of `restoreSessions`: adopt the first active session, if any. -/
def restore (w : World) (active : List SignSession) : World :=
  match active.head? with
  | some session => w.setSession (some session.toWalletSession)
  | none => w

@[simp] theorem restore_tasks (w : World) (active : List SignSession) :
    (w.restore active).tasks = w.tasks := by
  unfold restore
  split <;> rfl

@[simp] theorem restore_settled (w : World) (active : List SignSession) :
    (w.restore active).settled = w.settled := by
  unfold restore
  split <;> rfl

/-- The fallback of `waitForSession`: arm the 120 s timeout and run
    `checkSession()` at once, which resolves if a session is set. -/
def poll (w : World) : Task :=
  match w.service.session with
  | some session => .done (.returned (.session session))
  | none => .polling

/-- The synchronous head of each method. -/
def call (env : Option String) (w : World) : Method → World
  | .initializeClient =>
      let head := w.initializeHead env
      head.1.spawn (match head.2 with
        | some client => .initializing client
        | none => .done (.returned .unit))
  | .createConnection =>
      if w.service.signClient.isSome then w.spawn .connecting
      else
        let head := w.initializeHead env
        head.1.spawn (.createInit head.2)
  | .waitForSession =>
      match w.service.signClient, w.service.pendingApproval with
      | none, _ => w.spawn (.done (.threw waitNotInitializedMessage))
      | some _, some approval => w.spawn (.awaitApproval approval)
      | some _, none => w.spawn w.poll
  | .disconnect =>
      if w.service.session.isSome && w.service.signClient.isSome then w.spawn .disconnecting
      else (w.setSession none).spawn (.done (.returned .unit))
  | .restoreSessions active =>
      if w.service.signClient.isSome then (w.restore active).spawn (.done (.returned .unit))
      else
        let head := w.initializeHead env
        head.1.spawn (.restoreInit head.2)

/-- `SignClient.init` settles for call `i`: on success the client is installed
    and its handlers registered (the rest of `initialize`, and the caller
    goes on later); on failure the error is rethrown to the caller. -/
def initSettles (w : World) (i : Nat) (result : Except String Unit) : World :=
  match w.tasks[i]?, result with
  | some (.initializing client), .ok () => (w.install client).setTask i (.done (.returned .unit))
  | some (.createInit (some client)), .ok () => (w.install client).setTask i (.createInit none)
  | some (.restoreInit (some client)), .ok () => (w.install client).setTask i (.restoreInit none)
  | some (.initializing _), .error e => w.setTask i (.done (.threw e))
  | some (.createInit (some _)), .error e => w.setTask i (.done (.threw e))
  | some (.restoreInit (some _)), .error e => w.setTask i (.done (.threw e))
  | _, _ => w

/-- Call `i` goes on after the promise it awaits: `createConnection` checks
    for a client and calls `connect`; `waitForSession`, once its approval has
    settled, returns the session or falls back to polling, or clears the
    pending approval and rethrows. -/
def resume (w : World) (i : Nat) : World :=
  match w.tasks[i]? with
  | some (.createInit none) =>
      w.setTask i (if w.service.signClient.isSome then .connecting else .done (.threw notInitializedMessage))
  | some (.awaitApproval approval) =>
      match w.settled.lookup approval with
      | some none => w.setTask i w.poll
      | some (some e) => (w.setPending none).setTask i (.done (.threw e))
      | none => w
  | _ => w

/-- `restoreSessions` call `i` goes on after its `initialize()`: with a
    client held it adopts the first active session. -/
def restoreResume (w : World) (i : Nat) (active : List SignSession) : World :=
  match w.tasks[i]? with
  | some (.restoreInit none) =>
      if w.service.signClient.isSome then (w.restore active).setTask i (.done (.returned .unit))
      else w.setTask i (.done (.returned .unit))
  | _ => w

/-- `connect` settles for call `i`: a `uri` makes the approval the pending
    one and is returned; no `uri` or an error clears the pending approval
    and throws. -/
def connectSettles (w : World) (i : Nat) (result : Except String (Option String)) : World :=
  match w.tasks[i]? with
  | some .connecting =>
      match result with
      | .ok uri =>
          match uri.filter (· != "") with
          | some uri =>
              { w.setPending (some w.approvals) with approvals := w.approvals + 1 }.setTask i
                (.done (.returned (.uri uri)))
          | none => (w.setPending none).setTask i (.done (.threw noUriMessage))
      | .error e => (w.setPending none).setTask i (.done (.threw e))
  | _ => w

/-- `signClient.disconnect` settles for call `i`: the session is cleared. -/
def disconnectSettles (w : World) (i : Nat) : World :=
  match w.tasks[i]? with
  | some .disconnecting => (w.setSession none).setTask i (.done (.returned .unit))
  | _ => w

/-- The handlers chained on approval `a` by `createConnection`, when the
    wallet answers: a session is stored and reported; either way the pending
    approval is cleared, whichever approval it is. -/
def approvalSettles (w : World) (a : Nat) (result : Except String SignSession) : World :=
  if a < w.approvals ∧ w.settled.lookup a = none then
    match result with
    | .ok session =>
        { (w.setSession (some session.toWalletSession)).setPending none with
          settled := (a, none) :: w.settled }
    | .error e => { w.setPending none with settled := (a, some e) :: w.settled }
  else w

/-- `checkSession` of call `i`: a session stops the loop (and clears the
    timeout); otherwise the check is scheduled again. A call the timeout has
    rejected stays rejected. -/
def checkFires (w : World) (i : Nat) : World :=
  match w.tasks[i]?, w.service.session with
  | some .polling, some session => w.setTask i (.done (.returned (.session session)))
  | some .timedOut, some _ => w.setTask i (.done (.threw connectionTimeoutMessage))
  | _, _ => w

/-- With no session, the check of a call the timeout has rejected only
    schedules itself again. -/
theorem checkFires_timedOut {w : World} {i : Nat} (hi : w.tasks[i]? = some .timedOut)
    (hs : w.service.session = none) : w.checkFires i = w := by
  simp [checkFires, hi, hs]

/-- The timeout of call `i` rejects it; the check is not stopped. -/
def timeoutFires (w : World) (i : Nat) : World :=
  match w.tasks[i]? with
  | some .polling => w.setTask i .timedOut
  | _ => w

/-- The `session_delete` handler: clear the session if the topic is its own. -/
def sessionDelete (w : World) (client : Nat) (topic : String) : World :=
  match w.service.session with
  | some session => if client ∈ w.listening ∧ session.topic = topic then w.setSession none else w
  | none => w

/-- The `session_update` handler: store the session the held client finds
    under the topic. -/
def sessionUpdate (w : World) (client : Nat) (found : Option SignSession) : World :=
  match found with
  | some session =>
      if client ∈ w.listening ∧ w.service.signClient.isSome then
        w.setSession (some session.toWalletSession)
      else w
  | none => w

/-- The `session_connect` handler: store the new session. -/
def sessionConnect (w : World) (client : Nat) (session : SignSession) : World :=
  if client ∈ w.listening then w.setSession (some session.toWalletSession) else w

end World

/-- One event. -/
def step (env : Option String) (w : World) : Event → World
  | .call m => w.call env m
  | .initSettles i result => w.initSettles i result
  | .connectSettles i result => w.connectSettles i result
  | .disconnectSettles i => w.disconnectSettles i
  | .resume i => w.resume i
  | .restoreResume i active => w.restoreResume i active
  | .approvalSettles a result => w.approvalSettles a result
  | .checkFires i => w.checkFires i
  | .timeoutFires i => w.timeoutFires i
  | .sessionDelete client topic => w.sessionDelete client topic
  | .sessionUpdate client found => w.sessionUpdate client found
  | .sessionConnect client session => w.sessionConnect client session

/-- A sequence of events, in order. -/
def run (env : Option String) (w : World) : List Event → World
  | [] => w
  | e :: es => run env (step env w e) es

@[simp] theorem run_nil (env : Option String) (w : World) : run env w [] = w := rfl

@[simp] theorem run_cons (env : Option String) (w : World) (e : Event) (es : List Event) :
    run env w (e :: es) = run env (step env w e) es := rfl

end Wallet

end Soter
