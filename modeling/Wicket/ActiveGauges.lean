/-
**The gauges of active requests.**

A context remembers that a peer was chosen, but not how often: when a connection is tried again, the
gauge of upstream connections is raised twice and lowered once.
-/

import Wicket.Routing

namespace Wicket

open Function

open Net (SocketAddr)

/-! ### Gauges -/

abbrev Gauge : Type := String → ℤ

def Gauge.add (g : Gauge) (label : String) (n : ℤ) : Gauge :=
  Function.update g label (g label + n)

def Gauge.inc (g : Gauge) (label : String) : Gauge := g.add label 1

def Gauge.dec (g : Gauge) (label : String) : Gauge := g.add label (-1)

@[simp] theorem Gauge.add_add (g : Gauge) (label : String) (m n : ℤ) :
    (g.add label m).add label n = g.add label (m + n) := by
  simp [Gauge.add, add_assoc]

@[simp] theorem Gauge.add_eq_self_iff {g : Gauge} {label : String} {n : ℤ} :
    g.add label n = g ↔ n = 0 := by
  simp [Gauge.add, update_eq_self_iff]

@[simp] theorem Gauge.add_zero (g : Gauge) (label : String) : g.add label 0 = g :=
  Gauge.add_eq_self_iff.2 rfl

@[ext] structure Gauges where
  clientConnectionsActive : Gauge
  httpRequestsActive : Gauge
  upstreamConnectionsActive : Gauge

/-! ### The callbacks of a request -/

structure WicketCtx where
  routeMatch : Option MatchedRoute
  upstreamConnectTime : Option ℕ
  metricsRecorded : Bool

/-- The context of a request beside the gauges of the process. -/
structure ProxyState where
  ctx : WicketCtx
  gauges : Gauges

def newCtx (gauges : Gauges) : ProxyState where
  ctx := ⟨none, none, false⟩
  gauges := { gauges with
    clientConnectionsActive := gauges.clientConnectionsActive.inc "default" }

def MatchedRoute.label (rm : MatchedRoute) : String := rm.routeName.getD rm.upstream

/-- `request_filter`, when the host is or is not that of the TLS session and the router has given
its answer. -/
def requestFilter (misdirected : Bool) (matched : Option MatchedRoute) (s : ProxyState) :
    ProxyState × Except ℕ Bool :=
  if misdirected then (s, .error 421)
  else
    let requests := s.gauges.httpRequestsActive
    let gauges := { s.gauges with
      httpRequestsActive := matched.elim requests fun rm => requests.inc rm.label }
    (⟨{ s.ctx with routeMatch := matched }, gauges⟩, .ok false)

def upstreamPeer (now : ℕ) (selected : Option SocketAddr) (s : ProxyState) :
    ProxyState × Except ℕ SocketAddr :=
  match s.ctx.routeMatch with
  | none => (s, .error 404)
  | some rm =>
    match selected with
    | none => (s, .error 503)
    | some peer =>
      let gauges := { s.gauges with
        upstreamConnectionsActive := s.gauges.upstreamConnectionsActive.inc rm.upstream }
      (⟨{ s.ctx with upstreamConnectTime := some now }, gauges⟩, .ok peer)

def logging (s : ProxyState) : ProxyState :=
  if s.ctx.metricsRecorded then s
  else
    let routeLabel := s.ctx.routeMatch.elim "unknown" MatchedRoute.label
    let upstream := s.ctx.routeMatch.elim "unknown" MatchedRoute.upstream
    { ctx := { s.ctx with metricsRecorded := true }
      gauges :=
        { clientConnectionsActive := s.gauges.clientConnectionsActive.dec "default"
          httpRequestsActive :=
            if s.ctx.routeMatch.isSome then s.gauges.httpRequestsActive.dec routeLabel
            else s.gauges.httpRequestsActive
          upstreamConnectionsActive :=
            if s.ctx.upstreamConnectTime.isSome then s.gauges.upstreamConnectionsActive.dec upstream
            else s.gauges.upstreamConnectionsActive } }

/-! ### A request from its context to its log -/

/-- The calls for a request: `request_filter` at most once, `upstream_peer` as often as a connection
is tried, and `logging` at least once. -/
structure RequestCalls where
  filter : Option (Bool × Option MatchedRoute)
  peers : List (ℕ × Option SocketAddr)
  moreLogs : ℕ

namespace RequestCalls

def filtered (calls : RequestCalls) (gauges : Gauges) : ProxyState :=
  calls.filter.elim (newCtx gauges) fun f => (requestFilter f.1 f.2 (newCtx gauges)).1

def connected (calls : RequestCalls) (gauges : Gauges) : ProxyState :=
  calls.peers.foldl (fun s p => (upstreamPeer p.1 p.2 s).1) (calls.filtered gauges)

def run (calls : RequestCalls) (gauges : Gauges) : ProxyState :=
  logging^[calls.moreLogs + 1] (calls.connected gauges)

def routeMatch (calls : RequestCalls) : Option MatchedRoute :=
  calls.filter.bind fun f => if f.1 then none else f.2

def chosen (calls : RequestCalls) : ℕ :=
  calls.routeMatch.elim 0 fun _ => calls.peers.countP fun p => p.2.isSome

end RequestCalls

/-- What a request has raised before it is logged, when a peer was chosen `n` times. -/
structure Raised (gauges : Gauges) (rm : Option MatchedRoute) (n : ℕ) (s : ProxyState) : Prop where
  routeMatch : s.ctx.routeMatch = rm
  unmatched : rm = none → n = 0
  unrecorded : s.ctx.metricsRecorded = false
  connectTime : s.ctx.upstreamConnectTime.isSome = true ↔ 0 < n
  clientConnections : s.gauges.clientConnectionsActive =
    gauges.clientConnectionsActive.add "default" 1
  httpRequests : s.gauges.httpRequestsActive =
    rm.elim gauges.httpRequestsActive fun rm => gauges.httpRequestsActive.add rm.label 1
  upstreamConnections : s.gauges.upstreamConnectionsActive =
    rm.elim gauges.upstreamConnectionsActive fun rm =>
      gauges.upstreamConnectionsActive.add rm.upstream n

section Balance

variable {gauges : Gauges} {rm : Option MatchedRoute} {n : ℕ} {s : ProxyState}

theorem raised_filtered (calls : RequestCalls) (gauges : Gauges) :
    Raised gauges calls.routeMatch 0 (calls.filtered gauges) := by
  have hnew : Raised gauges none 0 (newCtx gauges) :=
    ⟨rfl, fun _ => rfl, rfl, by simp [newCtx], rfl, rfl, rfl⟩
  rcases calls with ⟨filter, peers, moreLogs⟩
  cases filter with
  | none => exact hnew
  | some f =>
    obtain ⟨misdirected, matched⟩ := f
    cases misdirected with
    | true => exact hnew
    | false => cases matched <;> constructor <;>
        simp [RequestCalls.filtered, RequestCalls.routeMatch, requestFilter, newCtx, Gauge.inc]

theorem Raised.upstreamPeer (h : Raised gauges rm n s) (p : ℕ × Option SocketAddr) :
    Raised gauges rm (n + if rm.isSome && p.2.isSome then 1 else 0) (upstreamPeer p.1 p.2 s).1 := by
  obtain ⟨now, selected⟩ := p
  rw [Wicket.upstreamPeer, h.routeMatch]
  cases rm with
  | none => simpa using h
  | some rm =>
    cases selected with
    | none => simpa using h
    | some peer =>
      refine ⟨h.routeMatch, nofun, h.unrecorded, by simp, h.clientConnections, h.httpRequests, ?_⟩
      simp [h.upstreamConnections, Gauge.inc]

theorem Raised.foldl (h : Raised gauges rm n s) (peers : List (ℕ × Option SocketAddr)) :
    Raised gauges rm (n + peers.countP fun p => rm.isSome && p.2.isSome)
      (peers.foldl (fun s p => (Wicket.upstreamPeer p.1 p.2 s).1) s) := by
  induction peers generalizing n s with
  | nil => simpa using h
  | cons p peers ih =>
    rw [List.foldl_cons, List.countP_cons, Nat.add_comm (peers.countP _), ← Nat.add_assoc]
    exact ih (h.upstreamPeer p)

theorem raised_connected (calls : RequestCalls) (gauges : Gauges) :
    Raised gauges calls.routeMatch calls.chosen (calls.connected gauges) := by
  have h := (raised_filtered calls gauges).foldl calls.peers
  rw [RequestCalls.chosen, RequestCalls.connected]
  cases hrm : calls.routeMatch <;> simpa [hrm] using h

theorem iterate_logging (k : ℕ) (s : ProxyState) : logging^[k + 1] s = logging s := by
  have hfixed : logging (logging s) = logging s := by
    have hrecorded : (logging s).ctx.metricsRecorded = true := by
      rw [logging]
      split
      · assumption
      · rfl
    rw [logging, if_pos hrecorded]
  rw [iterate_succ_apply, iterate_fixed hfixed]

theorem Raised.gauges_logging (h : Raised gauges rm n s) :
    (logging s).gauges = { gauges with
      upstreamConnectionsActive := rm.elim gauges.upstreamConnectionsActive fun rm =>
        gauges.upstreamConnectionsActive.add rm.upstream (n - 1 : ℕ) } := by
  rw [logging, if_neg (by simp [h.unrecorded])]
  simp only [h.routeMatch, h.connectTime, h.clientConnections, h.httpRequests,
    h.upstreamConnections]
  cases rm with
  | none => simp [Gauge.dec, h.unmatched rfl]
  | some rm =>
    cases n with
    | zero => simp [Gauge.dec]
    | succ n => simp [Gauge.dec]

end Balance

/-- **When a request leaves no trace in the gauges**: when a peer was chosen for it at most once. -/
theorem gauges_run_eq_iff (calls : RequestCalls) (gauges : Gauges) :
    (calls.run gauges).gauges = gauges ↔ calls.chosen ≤ 1 := by
  have hraised := raised_connected calls gauges
  rw [RequestCalls.run, iterate_logging, hraised.gauges_logging]
  cases hrm : calls.routeMatch with
  | none => simp [hraised.unmatched hrm]
  | some rm =>
    have hcast : ((calls.chosen - 1 : ℕ) : ℤ) = 0 ↔ calls.chosen ≤ 1 := by omega
    simpa [Gauges.ext_iff] using hcast

def retryCalls : RequestCalls where
  filter := some (false, some ⟨some "api", "web", none, "/"⟩)
  peers := [(1, some (.v4 ⟨![10, 0, 0, 7]⟩ 80)), (2, some (.v4 ⟨![10, 0, 0, 8]⟩ 80))]
  moreLogs := 0

theorem gauges_run_retry :
    (retryCalls.run ⟨0, 0, 0⟩).gauges.upstreamConnectionsActive "web" = 1 ∧
      (retryCalls.run ⟨0, 0, 0⟩).gauges ≠ ⟨0, 0, 0⟩ := by
  have hone : (retryCalls.run ⟨0, 0, 0⟩).gauges.upstreamConnectionsActive "web" = 1 := by decide
  refine ⟨hone, fun hzero => ?_⟩
  rw [hzero] at hone
  cases hone

end Wicket
