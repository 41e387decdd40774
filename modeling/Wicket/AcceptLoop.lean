/-
**The loop that accepts the connections of a stream listener.**

A semaphore limits the tasks, which are counted; after the shutdown the loop waits for them or for a
timeout.  An error of `accept` ends the loop at once, and nothing is waited for.
-/

import Wicket.EventRun
import Wicket.StreamConnection

namespace Wicket

open Option

open Net (SocketAddr)
open EventRun (run run_invariant Happens)

/-! ### The loop and its tasks -/

inductive TaskPlace
  | handling
  /-- Its handler has returned and the counter is decremented; the permit is still held. -/
  | leaving
  | ended
  deriving DecidableEq

structure ConnectionTask where
  client : SocketAddr
  place : TaskPlace
  deriving DecidableEq

/-- Where the loop is.  The times are those of a clock in nanoseconds. -/
inductive LoopPhase
  | accepting
  | loading (drainStart : ℕ)
  /-- The counter was not zero, and the time is about to be checked. -/
  | checking (drainStart remaining : ℕ)
  | sleeping (drainStart wakeAt : ℕ)
  | returned (result : Except HandleError Unit)

def LoopPhase.isReturned : LoopPhase → Bool
  | .returned _ => true
  | _ => false

def LoopPhase.drainStart : LoopPhase → Option ℕ
  | .accepting | .returned _ => none
  | .loading start | .checking start _ | .sleeping start _ => some start

/-- The loop, the token, the clock, the free permits if there is a limit, the counter and the tasks
in the order they were spawned. -/
structure LoopState where
  phase : LoopPhase := .accepting
  cancelled : Bool := false
  now : ℕ := 0
  permits : Option ℕ
  activeTasks : ℕ := 0
  tasks : List ConnectionTask := []
  rejected : ℕ := 0

namespace LoopState

def handling (s : LoopState) : ℕ := s.tasks.countP fun t => t.place == .handling

def running (s : LoopState) : ℕ := s.tasks.countP fun t => t.place != .ended

def spawn (s : LoopState) (client : SocketAddr) : LoopState :=
  { s with
    activeTasks := s.activeTasks + 1
    tasks := s.tasks ++ [⟨client, .handling⟩] }

def acceptArm (s : LoopState) : Except String SocketAddr → LoopState
  | .error e => { s with phase := .returned (.error (.Io e)) }
  | .ok client =>
    match s.permits with
    | some 0 => { s with rejected := s.rejected + 1 }
    | some (free + 1) => { s with permits := some free }.spawn client
    | none => s.spawn client

def moveTask (s : LoopState) (i : ℕ) (t : ConnectionTask) (place : TaskPlace) : LoopState :=
  { s with tasks := s.tasks.set i { t with place := place } }

end LoopState

/-! ### What can happen -/

inductive LoopEvent
  | accept (result : Except String SocketAddr)
  | cancel
  | shutdown
  | load
  | check
  | wake
  | tick (nanos : ℕ)

/-- What can happen, statement by statement. -/
inductive ProxyEvent
  | loop (event : LoopEvent)
  | handlerReturns (task : ℕ) (result : Except HandleError Unit)
  | taskOver (task : ℕ)

def StreamProxy.drainNanos (proxy : StreamProxy) : ℕ := proxy.drainTimeout.toNat * 10 ^ 9

/-- The time between two looks at the counter. -/
def drainPollNanos : ℕ := 100 * 10 ^ 6

namespace StreamProxy

variable (proxy : StreamProxy)

def loopStart : LoopState where
  permits := proxy.connectionSemaphore.map UInt32.toNat

def loopStep (s : LoopState) (event : LoopEvent) : Option LoopState :=
  match event, s.phase with
  | .cancel, _ => some { s with cancelled := true }
  | .tick nanos, _ => some { s with now := s.now + nanos }
  | .accept result, .accepting => some (s.acceptArm result)
  | .shutdown, .accepting =>
    if s.cancelled then some { s with phase := .loading s.now } else none
  | .load, .loading start =>
    if s.activeTasks = 0 then some { s with phase := .returned (.ok ()) }
    else some { s with phase := .checking start s.activeTasks }
  | .check, .checking start _ =>
    if proxy.drainNanos ≤ s.now - start then some { s with phase := .returned (.ok ()) }
    else some { s with phase := .sleeping start (s.now + drainPollNanos) }
  | .wake, .sleeping start wakeAt =>
    if wakeAt ≤ s.now then some { s with phase := .loading start } else none
  | _, _ => none

def step (s : LoopState) : ProxyEvent → Option LoopState
  | .loop event => proxy.loopStep s event
  | .handlerReturns i _ =>
    match s.tasks[i]? with
    | some ⟨client, .handling⟩ =>
      some { s.moveTask i ⟨client, .handling⟩ .leaving with activeTasks := s.activeTasks - 1 }
    | _ => none
  | .taskOver i =>
    match s.tasks[i]? with
    | some ⟨client, .leaving⟩ =>
      some { s.moveTask i ⟨client, .leaving⟩ .ended with permits := s.permits.map (· + 1) }
    | _ => none

end StreamProxy

inductive Happening
  | loop (event : LoopEvent)
  | taskEnds (task : ℕ) (result : Except HandleError Unit)

def Happening.events : Happening → List ProxyEvent
  | .loop event => [.loop event]
  | .taskEnds i result => [.handlerReturns i result, .taskOver i]

namespace StreamProxy

def happen (proxy : StreamProxy) (s : LoopState) (h : Happening) : Option LoopState :=
  run proxy.step s h.events

def runLoop (proxy : StreamProxy) (hs : List Happening) : Option LoopState :=
  run proxy.happen proxy.loopStart hs

end StreamProxy

/-! ### What an event does -/

/-- What an event of the loop does, apart from the token and the clock. -/
inductive LoopState.LoopMoves (proxy : StreamProxy) (s : LoopState) : LoopEvent → LoopState → Prop
  | cancel : LoopMoves proxy s .cancel { s with cancelled := true }
  | tick (nanos : ℕ) : LoopMoves proxy s (.tick nanos) { s with now := s.now + nanos }
  | acceptFails (hphase : s.phase = .accepting) (e : String) :
      LoopMoves proxy s (.accept (.error e)) { s with phase := .returned (.error (.Io e)) }
  | refuse (hphase : s.phase = .accepting) (client : SocketAddr) (hfull : s.permits = some 0) :
      LoopMoves proxy s (.accept (.ok client)) { s with rejected := s.rejected + 1 }
  | acquire (hphase : s.phase = .accepting) (client : SocketAddr) {free : ℕ}
      (hfree : s.permits = some (free + 1)) :
      LoopMoves proxy s (.accept (.ok client)) ({ s with permits := some free }.spawn client)
  | acquireUnlimited (hphase : s.phase = .accepting) (client : SocketAddr)
      (hnone : s.permits = none) :
      LoopMoves proxy s (.accept (.ok client)) (s.spawn client)
  | shutdown (hphase : s.phase = .accepting) (hcancelled : s.cancelled = true) :
      LoopMoves proxy s .shutdown { s with phase := .loading s.now }
  | drained {start : ℕ} (hphase : s.phase = .loading start) (hzero : s.activeTasks = 0) :
      LoopMoves proxy s .load { s with phase := .returned (.ok ()) }
  | remaining {start : ℕ} (hphase : s.phase = .loading start) (hpos : s.activeTasks ≠ 0) :
      LoopMoves proxy s .load { s with phase := .checking start s.activeTasks }
  | timeout {start remaining : ℕ} (hphase : s.phase = .checking start remaining)
      (htime : proxy.drainNanos ≤ s.now - start) :
      LoopMoves proxy s .check { s with phase := .returned (.ok ()) }
  | sleep {start remaining : ℕ} (hphase : s.phase = .checking start remaining)
      (htime : s.now - start < proxy.drainNanos) :
      LoopMoves proxy s .check { s with phase := .sleeping start (s.now + drainPollNanos) }
  | wake {start wakeAt : ℕ} (hphase : s.phase = .sleeping start wakeAt) (htime : wakeAt ≤ s.now) :
      LoopMoves proxy s .wake { s with phase := .loading start }

section Moves

variable {proxy : StreamProxy} {s s' : LoopState}

theorem LoopState.loopMoves_acceptArm (hphase : s.phase = .accepting)
    (result : Except String SocketAddr) :
    s.LoopMoves proxy (.accept result) (s.acceptArm result) := by
  cases result with
  | error e => exact .acceptFails hphase e
  | ok client =>
    dsimp only [acceptArm]
    split
    · rename_i hfull
      exact .refuse hphase client hfull
    · rename_i hfree
      exact .acquire hphase client hfree
    · rename_i hnone
      exact .acquireUnlimited hphase client hnone

theorem StreamProxy.loopMoves_of_loopStep {event : LoopEvent}
    (h : proxy.loopStep s event = some s') : s.LoopMoves proxy event s' := by
  unfold loopStep at h
  split at h
  · cases h
    exact .cancel
  · cases h
    exact .tick _
  · rename_i hphase
    cases h
    exact LoopState.loopMoves_acceptArm hphase _
  · rename_i hphase
    split_ifs at h with hcancelled
    cases h
    exact .shutdown hphase hcancelled
  · rename_i hphase
    split_ifs at h with hzero <;> cases h
    · exact .drained hphase hzero
    · exact .remaining hphase hzero
  · rename_i hphase
    split_ifs at h with htime <;> cases h
    · exact .timeout hphase htime
    · exact .sleep hphase (Nat.lt_of_not_le htime)
  · rename_i hphase
    split_ifs at h with htime
    cases h
    exact .wake hphase htime
  · cases h

end Moves

/-! ### What an event keeps -/

theorem countP_set_place {tasks : List ConnectionTask} {i : ℕ} {t : ConnectionTask}
    (hi : tasks[i]? = some t) (place : TaskPlace) (p : TaskPlace → Bool) :
    (tasks.set i { t with place := place }).countP (fun t => p t.place) +
        (if p t.place then 1 else 0) =
      tasks.countP (fun t => p t.place) + (if p place then 1 else 0) := by
  induction tasks generalizing i with
  | nil => cases hi
  | cons head tail ih =>
    cases i with
    | zero =>
      cases hi
      simp only [List.set_cons_zero, List.countP_cons]
      omega
    | succ i =>
      have hih := ih hi
      simp only [List.set_cons_succ, List.countP_cons]
      omega

namespace LoopState

variable {s : LoopState} {i : ℕ} {client : SocketAddr}

@[simp] theorem handling_spawn : (s.spawn client).handling = s.handling + 1 := by
  simp [handling, spawn]

@[simp] theorem running_spawn : (s.spawn client).running = s.running + 1 := by
  simp [running, spawn]

theorem counts_moveTask_leaving (hi : s.tasks[i]? = some ⟨client, .handling⟩) :
    (s.moveTask i ⟨client, .handling⟩ .leaving).handling + 1 = s.handling ∧
      (s.moveTask i ⟨client, .handling⟩ .leaving).running = s.running := by
  have hhandling := countP_set_place hi .leaving (· == .handling)
  have hrunning := countP_set_place hi .leaving (· != .ended)
  exact ⟨by simpa [handling, moveTask] using hhandling, by simpa [running, moveTask] using hrunning⟩

theorem counts_moveTask_ended (hi : s.tasks[i]? = some ⟨client, .leaving⟩) :
    (s.moveTask i ⟨client, .leaving⟩ .ended).handling = s.handling ∧
      (s.moveTask i ⟨client, .leaving⟩ .ended).running + 1 = s.running := by
  have hhandling := countP_set_place hi .ended (· == .handling)
  have hrunning := countP_set_place hi .ended (· != .ended)
  exact ⟨by simpa [handling, moveTask] using hhandling, by simpa [running, moveTask] using hrunning⟩

structure Sound (proxy : StreamProxy) (s : LoopState) : Prop where
  counted : s.activeTasks = s.handling
  permitted : ∀ max ∈ proxy.connectionSemaphore,
    ∃ free, s.permits = some free ∧ free + s.running = max.toNat
  draining : s.phase.drainStart.isSome = true → s.cancelled = true

end LoopState

namespace StreamProxy

variable {proxy : StreamProxy} {s s' : LoopState}

theorem sound_loopStart (proxy : StreamProxy) : proxy.loopStart.Sound proxy where
  counted := rfl
  permitted := by
    intro max hmax
    refine ⟨max.toNat, ?_, rfl⟩
    rw [loopStart, mem_def.1 hmax]
    rfl
  draining := by
    intro h
    cases h

theorem sound_loopStep {event : LoopEvent} (hs : s.Sound proxy)
    (h : proxy.loopStep s event = some s') : s'.Sound proxy := by
  obtain ⟨hcounted, hpermitted, hdraining⟩ := hs
  cases loopMoves_of_loopStep h with
  | cancel => exact ⟨hcounted, hpermitted, fun _ => rfl⟩
  | tick | refuse => exact ⟨hcounted, hpermitted, hdraining⟩
  | acceptFails | drained | timeout => exact ⟨hcounted, hpermitted, fun h => by cases h⟩
  | acquire hphase client hfree =>
    refine ⟨?_, ?_, ?_⟩
    · rw [LoopState.handling_spawn]
      exact congrArg (· + 1) hcounted
    · intro max hmax
      obtain ⟨free', hfree', hsum⟩ := hpermitted max hmax
      rw [hfree, some.injEq] at hfree'
      refine ⟨_, rfl, ?_⟩
      rw [LoopState.running_spawn]
      change _ + (s.running + 1) = _
      omega
    · intro hsome
      exact hdraining hsome
  | acquireUnlimited hphase client hnone =>
    refine ⟨?_, ?_, ?_⟩
    · rw [LoopState.handling_spawn]
      exact congrArg (· + 1) hcounted
    · intro max hmax
      obtain ⟨free, hfree, -⟩ := hpermitted max hmax
      rw [hnone] at hfree
      cases hfree
    · exact hdraining
  | shutdown hphase hcancelled => exact ⟨hcounted, hpermitted, fun _ => hcancelled⟩
  | remaining hphase hpos | sleep hphase htime | wake hphase htime =>
    refine ⟨hcounted, hpermitted, fun _ => hdraining ?_⟩
    rw [hphase]
    rfl

theorem sound_step {event : ProxyEvent} (hs : s.Sound proxy) (h : proxy.step s event = some s') :
    s'.Sound proxy := by
  cases event with
  | loop event => exact sound_loopStep hs h
  | handlerReturns i result =>
    rw [step] at h
    split at h
    · rename_i client hi
      cases h
      obtain ⟨hhandling, hrunning⟩ := LoopState.counts_moveTask_leaving hi
      refine ⟨?_, ?_, hs.draining⟩
      · have hcounted := hs.counted
        change s.activeTasks - 1 = (s.moveTask i ⟨client, .handling⟩ .leaving).handling
        omega
      · intro max hmax
        obtain ⟨free, hfree, hsum⟩ := hs.permitted max hmax
        refine ⟨free, hfree, ?_⟩
        change free + (s.moveTask i ⟨client, .handling⟩ .leaving).running = _
        omega
    · cases h
  | taskOver i =>
    rw [step] at h
    split at h
    · rename_i client hi
      cases h
      obtain ⟨hhandling, hrunning⟩ := LoopState.counts_moveTask_ended hi
      refine ⟨?_, ?_, hs.draining⟩
      · exact hs.counted.trans hhandling.symm
      · intro max hmax
        obtain ⟨free, hfree, hsum⟩ := hs.permitted max hmax
        refine ⟨free + 1, ?_, ?_⟩
        · rw [hfree]
          rfl
        · change free + 1 + (s.moveTask i ⟨client, .leaving⟩ .ended).running = _
          omega
    · cases h

theorem sound_run {events : List ProxyEvent} (hs : s.Sound proxy)
    (h : run proxy.step s events = some s') : s'.Sound proxy :=
  run_invariant (fun _ _ _ hs h => sound_step hs h) hs h

/-! ### The end of a task as one event -/

theorem happen_loop (proxy : StreamProxy) (s : LoopState) (event : LoopEvent) :
    proxy.happen s (.loop event) = proxy.loopStep s event := by
  exact bind_fun_some _

theorem happen_taskEnds {i : ℕ} {result : Except HandleError Unit}
    (h : proxy.happen s (.taskEnds i result) = some s') :
    s'.phase = s.phase ∧ s'.handling + 1 = s.handling ∧ s'.running + 1 = s.running := by
  rw [happen, Happening.events, EventRun.run_cons] at h
  obtain ⟨mid, hmid, h⟩ := bind_eq_some_iff.1 h
  obtain ⟨last, hlast, h⟩ := bind_eq_some_iff.1 h
  cases h
  dsimp only [step] at hmid hlast
  split at hmid
  · rename_i client hi
    cases hmid
    split at hlast
    · rename_i client' hi'
      cases hlast
      have hleaving := LoopState.counts_moveTask_leaving hi
      have hended := LoopState.counts_moveTask_ended hi'
      refine ⟨rfl, ?_, ?_⟩
      · exact (congrArg (· + 1) hended.1).trans hleaving.1
      · exact hended.2.trans hleaving.2
    · cases hlast
  · cases hmid

theorem quiet_happen {e : Happening} (hs : s.Sound proxy ∧ s.handling = s.running)
    (h : proxy.happen s e = some s') : s'.Sound proxy ∧ s'.handling = s'.running := by
  obtain ⟨hsound, hquiet⟩ := hs
  refine ⟨sound_run hsound h, ?_⟩
  cases e with
  | taskEnds i result =>
    obtain ⟨-, hhandling, hrunning⟩ := happen_taskEnds h
    omega
  | loop event =>
    rw [happen_loop] at h
    cases loopMoves_of_loopStep h with
    | acquire hphase client hfree =>
      rw [LoopState.handling_spawn, LoopState.running_spawn]
      exact congrArg (· + 1) hquiet
    | acquireUnlimited hphase client hnone =>
      rw [LoopState.handling_spawn, LoopState.running_spawn]
      exact congrArg (· + 1) hquiet
    | _ => exact hquiet

theorem quiet_loopStart (proxy : StreamProxy) :
    proxy.loopStart.Sound proxy ∧ proxy.loopStart.handling = proxy.loopStart.running :=
  ⟨sound_loopStart proxy, rfl⟩

theorem quiet_runLoop {hs : List Happening} (h : proxy.runLoop hs = some s) :
    s.Sound proxy ∧ s.handling = s.running :=
  run_invariant (P := fun s => s.Sound proxy ∧ s.handling = s.running)
    (fun _ _ _ hs h => quiet_happen hs h) (quiet_loopStart proxy) h

theorem happen_returns {e : Happening} (h : proxy.happen s e = some s')
    (hs : s.phase.isReturned = false) (hs' : s'.phase.isReturned = true) :
    (∃ error, e = .loop (.accept (.error error))) ∨
      s' = { s with phase := .returned (.ok ()) } ∧ ∃ start, s.phase.drainStart = some start ∧
        (s.activeTasks = 0 ∨ proxy.drainNanos ≤ s.now - start) := by
  cases e with
  | taskEnds i result =>
    rw [(happen_taskEnds h).1, hs] at hs'
    cases hs'
  | loop event =>
    rw [happen_loop] at h
    cases loopMoves_of_loopStep h with
    | acceptFails hphase error => exact .inl ⟨error, rfl⟩
    | @drained start hphase hzero => exact .inr ⟨rfl, start, by rw [hphase]; rfl, .inl hzero⟩
    | @timeout start remaining hphase htime =>
      exact .inr ⟨rfl, start, by rw [hphase]; rfl, .inr htime⟩
    | cancel | tick | refuse | acquire | acquireUnlimited =>
      change s.phase.isReturned = true at hs'
      rw [hs] at hs'
      cases hs'
    | _ => cases hs'

/-! ### A limited listener -/

theorem limits_of_fromConfig {config : StreamConfig}
    (hproxy : StreamProxy.fromConfig config = .ok proxy) :
    proxy.connectionSemaphore =
        (if 0 < config.maxConnections then some config.maxConnections else none) ∧
      proxy.drainTimeout = config.drainTimeoutSecs := by
  obtain ⟨upstreams, -, hproxy⟩ := Check.bind_eq_ok.1 hproxy
  split at hproxy
  · cases hproxy
  · cases hproxy
    exact ⟨rfl, rfl⟩

/-- **The tasks of a limited listener**: never more than the limit, every permit free or held by one
of them, each refusal at the limit, and after the shutdown the loop returns unless `accept` fails.
-/
theorem run_respects_limit {config : StreamConfig}
    (hproxy : StreamProxy.fromConfig config = .ok proxy) (hmax : 0 < config.maxConnections)
    {happenings : List Happening} (hrun : proxy.runLoop happenings = some s) :
    s.running ≤ config.maxConnections.toNat ∧
    (∃ free, s.permits = some free ∧ free + s.running = config.maxConnections.toNat) ∧
    s.activeTasks = s.running ∧
    (∀ client s', proxy.happen s (.loop (.accept (.ok client))) = some s' →
      s'.rejected ≠ s.rejected → s.running = config.maxConnections.toNat) ∧
    (∀ e s', proxy.happen s e = some s' → s.phase.isReturned = false →
      s'.phase.isReturned = true → (∀ error, e ≠ .loop (.accept (.error error))) →
      s'.phase = .returned (.ok ()) ∧ s.cancelled = true ∧
        ∃ start, s.phase.drainStart = some start ∧
          (s.now - start < proxy.drainNanos → s'.running = 0)) := by
  obtain ⟨hsound, hquiet⟩ := quiet_runLoop hrun
  have hsemaphore := (limits_of_fromConfig hproxy).1
  rw [if_pos hmax] at hsemaphore
  obtain ⟨free, hfree, hsum⟩ := hsound.permitted _ hsemaphore
  have hcounted : s.activeTasks = s.running := hsound.counted.trans hquiet
  refine ⟨by omega, ⟨free, hfree, hsum⟩, hcounted, ?_, ?_⟩
  · intro client s' h hrejected
    rw [happen_loop] at h
    cases loopMoves_of_loopStep h with
    | refuse hphase client hfull =>
      rw [hfree, Option.some.injEq] at hfull
      omega
    | acquire | acquireUnlimited => exact absurd rfl hrejected
  · intro e s' h hs hs' herror
    obtain hfails | ⟨rfl, start, hstart, hdone⟩ := happen_returns h hs hs'
    · obtain ⟨error, rfl⟩ := hfails
      exact absurd rfl (herror error)
    · refine ⟨rfl, hsound.draining (by rw [hstart]; rfl), start, hstart, ?_⟩
      intro htime
      obtain hzero | htimeout := hdone
      · exact hcounted.symm.trans hzero
      · omega

def oneAtATime : StreamConfig := { oneStream "db" "10.0.0.1:5432" with maxConnections := 1 }

def busyThenShutdown : List Happening :=
  [.loop (.accept (.ok (.v4 .unspecified 40001))), .loop (.accept (.ok (.v4 .unspecified 40002))),
    .taskEnds 0 (.ok ()), .loop .cancel, .loop .shutdown]

theorem oneAtATime_respects_limit :
    ∃ proxy s, StreamProxy.fromConfig oneAtATime = .ok proxy ∧
      proxy.runLoop busyThenShutdown = some s ∧ s.rejected = 1 ∧ s.activeTasks = s.running ∧
      ∃ s', proxy.happen s (.loop .load) = some s' ∧ s'.phase = .returned (.ok ()) ∧
        s'.running = 0 := by
  obtain ⟨proxy, hproxy⟩ : ∃ proxy, StreamProxy.fromConfig oneAtATime = .ok proxy := ⟨_, rfl⟩
  obtain ⟨hsemaphore, htimeout⟩ := limits_of_fromConfig hproxy
  have hstart : proxy.loopStart = { permits := some 1 } := by
    rw [loopStart, hsemaphore]
    rfl
  obtain ⟨s, hrun, hs⟩ : ∃ s, proxy.runLoop busyThenShutdown = some s ∧
      s = { phase := .loading 0, cancelled := true, permits := some 1,
            tasks := [⟨.v4 .unspecified 40001, .ended⟩], rejected := 1 } := by
    rw [runLoop, hstart]
    exact ⟨_, rfl, rfl⟩
  obtain ⟨-, -, hcounted, -, hreturn⟩ := run_respects_limit hproxy (by decide) hrun
  subst hs
  obtain ⟨hphase, -, start, hstart, hzero⟩ := hreturn (.loop .load) _ rfl rfl rfl (by simp)
  refine ⟨proxy, _, hproxy, hrun, rfl, hcounted, _, rfl, hphase, hzero ?_⟩
  rw [drainNanos, htimeout]
  cases hstart
  decide

/-! ### Errors of `accept` -/

/-- The loop may return: it has been told to shut down, and it has waited long enough. -/
def MayReturn (proxy : StreamProxy) (s : LoopState) : Prop :=
  s.cancelled = true ∧ (s.running = 0 ∨
    ∃ start, s.phase.drainStart = some start ∧ proxy.drainNanos ≤ s.now - start)

def ReturnsProperly (proxy : StreamProxy) (happenings : List Happening) : Prop :=
  ∀ s e s', Happens proxy.happen proxy.loopStart happenings s e s' →
    s.phase.isReturned = false → s'.phase.isReturned = true → proxy.MayReturn s

theorem happen_accept_of_returned (hs : s.phase.isReturned = true)
    (result : Except String SocketAddr) : proxy.happen s (.loop (.accept result)) = none := by
  rw [happen_loop, eq_none_iff_forall_ne_some]
  intro s' h
  cases loopMoves_of_loopStep h with
  | acceptFails hphase | refuse hphase | acquire hphase | acquireUnlimited hphase =>
    rw [hphase] at hs
    cases hs

theorem happen_acceptFails {error : String}
    (h : proxy.happen s (.loop (.accept (.error error))) = some s') :
    s.phase = .accepting ∧ s' = { s with phase := .returned (.error (.Io error)) } := by
  rw [happen_loop] at h
  cases loopMoves_of_loopStep h with
  | acceptFails hphase => exact ⟨hphase, rfl⟩

/-- **The loop returns only after the shutdown and the draining** exactly when every error of
`accept` comes after the token is cancelled and while no task is running. -/
theorem run_returns_properly_iff (proxy : StreamProxy) (happenings : List Happening) :
    proxy.ReturnsProperly happenings ↔
      ∀ s error s',
        Happens proxy.happen proxy.loopStart happenings s (.loop (.accept (.error error))) s' →
        s.cancelled = true ∧ s.running = 0 := by
  constructor
  · intro h s error s' hhappens
    obtain ⟨haccepting, rfl⟩ := happen_acceptFails hhappens.step_eq
    obtain ⟨hcancelled, hdone⟩ := h _ _ _ hhappens (by rw [haccepting]; rfl) rfl
    refine ⟨hcancelled, hdone.resolve_right ?_⟩
    -- nothing is drained while the loop accepts
    intro hdraining
    obtain ⟨start, hstart, -⟩ := hdraining
    rw [haccepting] at hstart
    cases hstart
  · intro h s e s' hhappens hs hs'
    obtain ⟨hsound, hquiet⟩ :=
      hhappens.invariant (P := fun s => s.Sound proxy ∧ s.handling = s.running)
        (fun _ _ _ hs h => quiet_happen hs h) (quiet_loopStart proxy)
    obtain ⟨error, rfl⟩ | ⟨-, start, hstart, hdone⟩ := happen_returns hhappens.step_eq hs hs'
    · obtain ⟨hcancelled, hzero⟩ := h s error s' hhappens
      exact ⟨hcancelled, .inl hzero⟩
    · refine ⟨hsound.draining (by rw [hstart]; rfl), ?_⟩
      obtain hzero | htimeout := hdone
      · have hcounted := hsound.counted
        exact .inl (by omega)
      · exact .inr ⟨start, hstart, htimeout⟩

/-- A connection is there when the process has no file descriptor left for the next one: the loop
returns although nobody has shut it down, and it accepts nothing any more. -/
theorem emfile_ends_listener :
    ∃ proxy s, StreamProxy.fromConfig oneAtATime = .ok proxy ∧
      proxy.runLoop [.loop (.accept (.ok (.v4 .unspecified 40001))),
        .loop (.accept (.error "Too many open files (os error 24)"))] = some s ∧
      s.phase = .returned (.error (.Io "Too many open files (os error 24)")) ∧
      s.cancelled = false ∧ s.running = 1 ∧
      (∀ result, proxy.happen s (.loop (.accept result)) = none) ∧
      ¬proxy.ReturnsProperly [.loop (.accept (.ok (.v4 .unspecified 40001))),
        .loop (.accept (.error "Too many open files (os error 24)"))] := by
  obtain ⟨proxy, hproxy⟩ : ∃ proxy, StreamProxy.fromConfig oneAtATime = .ok proxy := ⟨_, rfl⟩
  have hstart : proxy.loopStart = { permits := some 1 } := by
    rw [loopStart, (limits_of_fromConfig hproxy).1]
    rfl
  refine ⟨proxy, _, hproxy, by rw [runLoop, hstart]; rfl, rfl, rfl, rfl,
    happen_accept_of_returned rfl, ?_⟩
  intro h
  have hmay := h _ _ _ ⟨[.loop (.accept (.ok (.v4 .unspecified 40001)))], [], rfl,
    by rw [hstart]; rfl, rfl⟩ rfl rfl
  cases hmay.1

end StreamProxy

end Wicket
