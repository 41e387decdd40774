/-
**A proxied connection, from the first byte to the return of its handler.**

Without a registered pair the bytes are copied.  With one the handler waits until a socket can be
read, and returns: it never sends anything, so there is nothing the kernel could redirect.
-/

import Wicket.Pipe
import Wicket.ProxyProtocol
import Wicket.SniPeek
import Wicket.Sockmap
import Wicket.StreamReload

namespace Wicket

open List

open Net (SocketAddr IpFormat)

/-! ### A connection -/

inductive HandleError
  | Io (error : String)
  | RoutingError (text : String)
  | ConnectionError (text : String)
  deriving DecidableEq

inductive BackendConnection
  | Tcp (socket : Socket)
  | Unix
  deriving DecidableEq

/-- A connection that is to be handled. -/
structure AcceptedConnection where
  proxy : StreamProxy
  fmt : IpFormat
  clientAddr : SocketAddr
  client : Socket
  sockmap : Bool

def AcceptedConnection.header (a : AcceptedConnection) : List UInt8 :=
  match a.proxy.proxyProtocol with
  | some version => ProxyProtocolEncoder.encode a.fmt version a.clientAddr a.proxy.localAddr
  | none => []

inductive Phase
  | accepted
  | routed (upstream : Upstream)
  | header (backend : BackendConnection) (rest : List UInt8)
  | registered
  | copying
  | returned (result : Except HandleError Unit)

/-- A connection, with the streams from the client to the backend and back. -/
structure Connection where
  phase : Phase := .accepted
  up : Pipe UInt8 := {}
  down : Pipe UInt8 := {}
  headerWritten : List UInt8 := []

def Connection.toBackend (c : Connection) : List UInt8 := c.headerWritten ++ c.up.written

/-! ### What can happen -/

inductive ConnectionEvent
  /-- Something happens to the stream from the client. -/
  | up (op : Pipe.Op UInt8)
  | down (op : Pipe.Op UInt8)
  | peek (error : Option String)
  | connect (result : Except HandleError BackendConnection)
  | writeHeader (n : ℕ)
  | headerFails (error : String)
  | choosePath (lock : Option (SockHash × RegisterCalls))
  | wake
  | transferFails (error : String)
  | finish

/-- The copier works only while the bytes are copied. -/
def Phase.allows (phase : Phase) (op : Pipe.Op UInt8) : Bool :=
  match phase with
  | .returned _ => false
  | .copying => true
  | _ => !op.isCopy

def AcceptedConnection.registers (a : AcceptedConnection) (backend : BackendConnection)
    (lock : Option (SockHash × RegisterCalls)) : Bool :=
  match a.sockmap, backend, lock with
  | true, .Tcp socket, some (hash, calls) =>
    match (registerPair hash ⟨a.client, socket⟩ calls).2 with
    | .ok () => true
    | .error _ => false
  | _, _, _ => false

/-- Where a connection goes after the first bytes have been looked at. -/
def AcceptedConnection.route (a : AcceptedConnection) (c : Connection) : Phase :=
  match routeConnection a.proxy.router a.proxy.upstreams
      (extractSni (c.up.unread.take peekBufLen)) with
  | .error error => .returned (.error (.RoutingError error.text))
  | .ok upstream => .routed upstream

def handleStep (a : AcceptedConnection) (c : Connection) (event : ConnectionEvent) :
    Option Connection :=
  match event, c.phase with
  | .up op, phase => if phase.allows op then some { c with up := c.up.apply op } else none
  | .down op, phase => if phase.allows op then some { c with down := c.down.apply op } else none
  | .peek (some error), .accepted => some { c with phase := .returned (.error (.Io error)) }
  | .peek none, .accepted => if c.up.readable then some { c with phase := a.route c } else none
  | .connect (.error error), .routed _ => some { c with phase := .returned (.error error) }
  | .connect (.ok backend), .routed _ => some { c with phase := .header backend a.header }
  | .writeHeader n, .header backend rest =>
    some
      { c with
        phase := .header backend (rest.drop n)
        headerWritten := c.headerWritten ++ rest.take n }
  | .headerFails error, .header _ (_ :: _) =>
    some { c with phase := .returned (.error (.Io error)) }
  | .choosePath lock, .header backend [] =>
    some { c with phase := if a.registers backend lock then .registered else .copying }
  | .wake, .registered =>
    if c.up.readable || c.down.readable then some { c with phase := .returned (.ok ()) } else none
  -- the error is only logged
  | .transferFails _, .copying => some { c with phase := .returned (.ok ()) }
  | .finish, .copying =>
    if c.up.shutdown && c.down.shutdown then some { c with phase := .returned (.ok ()) } else none
  | _, _ => none

def handleRun (a : AcceptedConnection) (c : Connection) : List ConnectionEvent → Option Connection
  | [] => some c
  | event :: events => (handleStep a c event).bind fun c' => handleRun a c' events

/-- **What an event does**, one case for each way of a step. -/
inductive Handles (a : AcceptedConnection) (c : Connection) : ConnectionEvent → Connection → Prop
  | up {op : Pipe.Op UInt8} (hop : c.phase.allows op = true) :
      Handles a c (.up op) { c with up := c.up.apply op }
  | down {op : Pipe.Op UInt8} (hop : c.phase.allows op = true) :
      Handles a c (.down op) { c with down := c.down.apply op }
  | peekFails (hphase : c.phase = .accepted) (error : String) :
      Handles a c (.peek (some error)) { c with phase := .returned (.error (.Io error)) }
  | peek (hphase : c.phase = .accepted) (hread : c.up.readable = true) :
      Handles a c (.peek none) { c with phase := a.route c }
  | connectFails {upstream : Upstream} (hphase : c.phase = .routed upstream) (error : HandleError) :
      Handles a c (.connect (.error error)) { c with phase := .returned (.error error) }
  | connect {upstream : Upstream} (hphase : c.phase = .routed upstream)
      (backend : BackendConnection) :
      Handles a c (.connect (.ok backend)) { c with phase := .header backend a.header }
  | writeHeader {backend : BackendConnection} {rest : List UInt8}
      (hphase : c.phase = .header backend rest) (n : ℕ) :
      Handles a c (.writeHeader n)
        { c with
          phase := .header backend (rest.drop n)
          headerWritten := c.headerWritten ++ rest.take n }
  | headerFails {backend : BackendConnection} {rest : List UInt8}
      (hphase : c.phase = .header backend rest) (error : String) :
      Handles a c (.headerFails error) { c with phase := .returned (.error (.Io error)) }
  | choosePath {backend : BackendConnection} (hphase : c.phase = .header backend [])
      (lock : Option (SockHash × RegisterCalls)) :
      Handles a c (.choosePath lock)
        { c with phase := if a.registers backend lock then .registered else .copying }
  | wake (hphase : c.phase = .registered) :
      Handles a c .wake { c with phase := .returned (.ok ()) }
  | transferFails (hphase : c.phase = .copying) (error : String) :
      Handles a c (.transferFails error) { c with phase := .returned (.ok ()) }
  | finish (hphase : c.phase = .copying) (hshut : c.up.shutdown = true) :
      Handles a c .finish { c with phase := .returned (.ok ()) }

variable {a : AcceptedConnection} {c c' : Connection} {event : ConnectionEvent}

theorem handles_of_handleStep (hstep : handleStep a c event = some c') : Handles a c event c' := by
  unfold handleStep at hstep
  split at hstep
  case h_1 =>
    obtain ⟨hop, rfl⟩ := by simpa using hstep
    exact .up hop
  case h_2 =>
    obtain ⟨hop, rfl⟩ := by simpa using hstep
    exact .down hop
  case h_3 hphase =>
    cases hstep
    exact .peekFails hphase _
  case h_4 hphase =>
    obtain ⟨hread, rfl⟩ := by simpa using hstep
    exact .peek hphase hread
  case h_5 hphase =>
    cases hstep
    exact .connectFails hphase _
  case h_6 hphase =>
    cases hstep
    exact .connect hphase _
  case h_7 hphase =>
    cases hstep
    exact .writeHeader hphase _
  case h_8 hphase =>
    cases hstep
    exact .headerFails hphase _
  case h_9 hphase =>
    cases hstep
    exact .choosePath hphase _
  case h_10 hphase =>
    obtain ⟨-, rfl⟩ := by simpa using hstep
    exact .wake hphase
  case h_11 hphase =>
    cases hstep
    exact .transferFails hphase _
  case h_12 hphase =>
    obtain ⟨⟨hup, -⟩, rfl⟩ := by simpa using hstep
    exact .finish hphase hup
  case h_13 => cases hstep

/-! ### What holds in each phase -/

def Connection.Sound (a : AcceptedConnection) (c : Connection) : Prop :=
  match c.phase with
  | .accepted | .routed _ => c.headerWritten = [] ∧ c.up.written = []
  | .header _ rest => c.headerWritten ++ rest = a.header ∧ c.up.written = []
  | .registered => c.headerWritten = a.header ∧ c.up.written = []
  | .copying | .returned (.ok _) => c.headerWritten = a.header
  | .returned (.error _) => c.headerWritten <+: a.header ∧ c.up.written = []

theorem written_apply_of_allows {phase : Phase} {op : Pipe.Op UInt8} (h : phase.allows op = true)
    (hcopy : phase ≠ .copying) (p : Pipe UInt8) : (p.apply op).written = p.written := by
  refine p.written_apply_of_not_isCopy ?_
  cases phase with
  | copying => exact absurd rfl hcopy
  | returned _ => cases h
  | _ => simpa [Phase.allows] using h

theorem Connection.Sound.up {a : AcceptedConnection} {c : Connection} (h : c.Sound a)
    {op : Pipe.Op UInt8} (hop : c.phase.allows op = true) :
    Connection.Sound a { c with up := c.up.apply op } := by
  obtain ⟨phase, up, down, headerWritten⟩ := c
  cases phase with
  | copying => exact h
  | returned _ => cases hop
  | _ => exact ⟨h.1, (written_apply_of_allows hop (by simp) up).trans h.2⟩

theorem sound_route (hheader : c.headerWritten = []) (hwritten : c.up.written = []) :
    Connection.Sound a { c with phase := a.route c } := by
  unfold AcceptedConnection.route
  split
  · exact ⟨hheader ▸ nil_prefix, hwritten⟩
  · exact ⟨hheader, hwritten⟩

theorem Connection.Sound.step (h : c.Sound a) (hstep : Handles a c event c') : c'.Sound a := by
  cases hstep with
  | up hop => exact h.up hop
  | down hop => exact h
  | peekFails hphase error =>
    simp only [Connection.Sound, hphase] at h ⊢
    exact ⟨h.1 ▸ nil_prefix, h.2⟩
  | peek hphase hread =>
    simp only [Connection.Sound, hphase] at h
    exact sound_route h.1 h.2
  | connectFails hphase error =>
    simp only [Connection.Sound, hphase] at h ⊢
    exact ⟨h.1 ▸ nil_prefix, h.2⟩
  | connect hphase backend =>
    simp only [Connection.Sound, hphase] at h ⊢
    exact ⟨by rw [h.1, nil_append], h.2⟩
  | writeHeader hphase n =>
    simp only [Connection.Sound, hphase] at h ⊢
    exact ⟨by rw [append_assoc, take_append_drop, h.1], h.2⟩
  | headerFails hphase error =>
    simp only [Connection.Sound, hphase] at h ⊢
    exact ⟨⟨_, h.1⟩, h.2⟩
  | choosePath hphase lock =>
    simp only [Connection.Sound, hphase, append_nil] at h
    unfold Connection.Sound
    cases a.registers _ lock with
    | true => exact h
    | false => exact h.1
  | wake hphase =>
    simp only [Connection.Sound, hphase] at h ⊢
    exact h.1
  | transferFails hphase error =>
    simp only [Connection.Sound, hphase] at h ⊢
    exact h
  | finish hphase hshut =>
    simp only [Connection.Sound, hphase] at h ⊢
    exact h

theorem sound_of_handleRun {events : List ConnectionEvent} (h : c.Sound a)
    (hrun : handleRun a c events = some c') : c'.Sound a := by
  induction events generalizing c with
  | nil =>
    cases hrun
    exact h
  | cons event events ih =>
    obtain ⟨next, hstep, hrest⟩ := Option.bind_eq_some_iff.1 hrun
    exact ih (h.step (handles_of_handleStep hstep)) hrest

theorem sound_start (a : AcceptedConnection) : Connection.Sound a {} := ⟨rfl, rfl⟩

theorem Connection.Sound.isPrefix_toBackend (h : c.Sound a) :
    c.toBackend <+: a.header ++ c.up.sent := by
  -- before the copying only the header is written
  have hheader : ∀ rest, c.headerWritten ++ rest = a.header → c.up.written = [] →
      c.toBackend <+: a.header ++ c.up.sent := by
    intro rest hrest hwritten
    rw [toBackend, hwritten, append_nil, ← hrest, append_assoc]
    exact prefix_append _ _
  have hcopied : c.headerWritten = a.header → c.toBackend <+: a.header ++ c.up.sent := by
    intro heq
    rw [toBackend, heq]
    exact (prefix_append_right_inj _).2 c.up.written_isPrefix
  unfold Sound at h
  split at h
  case h_1 | h_2 => exact hheader a.header (by rw [h.1, nil_append]) h.2
  case h_3 => exact hheader _ h.1 h.2
  case h_4 => exact hcopied h.1
  case h_5 | h_6 => exact hcopied h
  case h_7 =>
    obtain ⟨rest, hrest⟩ := h.1
    exact hheader rest hrest h.2

/-- **In every run the backend has been sent a beginning** of the header and the bytes of the
client: nothing is left out, repeated or exchanged. -/
theorem toBackend_isPrefix {events : List ConnectionEvent} (hrun : handleRun a {} events = some c) :
    c.toBackend <+: a.header ++ c.up.sent :=
  (sound_of_handleRun (sound_start a) hrun).isPrefix_toBackend

/-! ### When a connection ends -/

theorem route_ne_ok (a : AcceptedConnection) (c : Connection) : a.route c ≠ .returned (.ok ()) := by
  unfold AcceptedConnection.route
  split <;> simp

theorem Handles.returned_ok (hstep : Handles a c event c') (hok : c'.phase = .returned (.ok ())) :
    c'.up = c.up ∧ c'.headerWritten = c.headerWritten ∧
      (c.phase = .registered ∨
        (c.phase = .copying ∧
          ((∃ error, event = .transferFails error) ∨ c.up.shutdown = true))) := by
  cases hstep with
  | up hop | down hop =>
    rw [show c.phase = _ from hok] at hop
    cases hop
  | peekFails | connectFails | connect | writeHeader | headerFails => simp at hok
  | peek => exact absurd hok (route_ne_ok a c)
  | choosePath hphase lock =>
    dsimp only at hok
    split at hok <;> cases hok
  | wake hphase => exact ⟨rfl, rfl, .inl hphase⟩
  | transferFails hphase error => exact ⟨rfl, rfl, .inr ⟨hphase, .inl ⟨error, rfl⟩⟩⟩
  | finish hphase hshut => exact ⟨rfl, rfl, .inr ⟨hphase, .inr hshut⟩⟩

/-- **A connection that ends without an error has delivered everything** exactly when the client has
sent nothing, or the pair was not registered and the copying did not fail halfway. -/
theorem delivered_iff (a : AcceptedConnection) (events : List ConnectionEvent) (c c' : Connection)
    (last : ConnectionEvent) (hrun : handleRun a {} events = some c)
    (hlast : handleStep a c last = some c') (hok : c'.phase = .returned (.ok ())) :
    c'.toBackend = a.header ++ c'.up.sent ↔ c'.up.sent = [] ∨
      (c.phase ≠ .registered ∧
        ¬ ((∃ error, last = .transferFails error) ∧ c.up.written.length < c.up.sent.length)) := by
  have hsound := sound_of_handleRun (sound_start a) hrun
  obtain ⟨hup, hheader, hways⟩ := (handles_of_handleStep hlast).returned_ok hok
  rw [Connection.toBackend, hup, hheader]
  rcases hways with hphase | ⟨hphase, hway⟩
  · simp only [Connection.Sound, hphase] at hsound
    rw [hsound.1, hsound.2]
    simp [hphase]
  · simp only [Connection.Sound, hphase] at hsound
    rw [hsound, List.append_cancel_left_eq]
    constructor
    · intro heq
      exact .inr ⟨by simp [hphase], fun hfails => c.up.written_eq_sent_iff.1 heq hfails.2⟩
    · rintro (hsent | ⟨-, hnot⟩)
      · exact c.up.written_isPrefix.eq_of_length_le (by simp [hsent])
      · rcases hway with hfails | hshut
        · exact c.up.written_eq_sent_iff.2 fun hleft => hnot ⟨hfails, hleft⟩
        · exact c.up.written_eq_sent hshut

/-! ### Two runs -/

def plainProxy : StreamProxy where
  name := "tcp"
  router := SniRouter.new ∅ (some "echo")
  upstreams := KeyMap.collect [("echo", ⟨"echo", [], 0⟩)]
  sourceIpPool := none
  proxyProtocol := none
  localAddr := .v4 .unspecified 443
  connectTimeout := 5000
  connectionSemaphore := none
  drainTimeout := 30

def plainConnection (sockmap : Bool) : AcceptedConnection where
  proxy := plainProxy
  fmt := ⟨fun _ => "", fun _ => ""⟩
  clientAddr := .v4 .unspecified 50000
  client := clientToProxy
  sockmap := sockmap

def threeBytes : List ConnectionEvent :=
  [.up (.send [1, 2, 3]), .up (.arrive 3), .peek none, .connect (.ok (.Tcp proxyToBackend))]

def copiedBytes : List ConnectionEvent :=
  threeBytes ++ [.choosePath none, .up (.read 2), .up (.write 2), .up .close, .up (.read 1),
    .up .arriveEnd, .up .readEnd, .up (.write 1), .up .shut, .down .close, .down .arriveEnd,
    .down .readEnd, .down .shut]

theorem copiedBytes_delivered :
    ∃ c c', handleRun (plainConnection true) {} copiedBytes = some c ∧
      handleStep (plainConnection true) c .finish = some c' ∧ c'.up.closed = true ∧
      c'.up.sent = [1, 2, 3] ∧
      c'.toBackend = (plainConnection true).header ++ c'.up.sent := by
  refine ⟨_, _, rfl, rfl, rfl, rfl, ?_⟩
  refine (delivered_iff (plainConnection true) copiedBytes _ _ .finish rfl rfl rfl).2
    (.inr ⟨?_, ?_⟩)
  · intro hphase
    cases hphase
  · rintro ⟨⟨error, hfails⟩, -⟩
    cases hfails

theorem copiedBytes_beginning :
    ∃ c, handleRun (plainConnection true) {} (copiedBytes.take 8) = some c ∧
      c.toBackend = [1, 2] ∧ c.toBackend <+: (plainConnection true).header ++ c.up.sent := by
  obtain ⟨c, hrun⟩ : ∃ c, handleRun (plainConnection true) {} (copiedBytes.take 8) = some c :=
    ⟨_, rfl⟩
  exact ⟨c, hrun, by cases hrun; rfl, toBackend_isPrefix hrun⟩

def registeredBytes : List ConnectionEvent :=
  threeBytes ++ [.choosePath (some (⟨4, ∅⟩, {})), .up .close]

/-- With a pair that a hash has accepted nothing is delivered, and after an error of the copying
only what was written before it; both times the client has closed and the handler returns without an
error. -/
theorem registeredBytes_not_delivered :
    (∃ c, handleRun (plainConnection true) {} (registeredBytes ++ [.wake]) = some c ∧
      c.phase = .returned (.ok ()) ∧ c.up.closed = true ∧ c.up.sent = [1, 2, 3] ∧
      c.toBackend = [] ∧ c.toBackend ≠ (plainConnection true).header ++ c.up.sent) ∧
    (∃ c, handleRun (plainConnection false) {}
        (threeBytes ++ [.choosePath none, .up (.read 2), .up (.write 2), .up .close,
          .transferFails "Connection reset by peer (os error 104)"]) = some c ∧
      c.phase = .returned (.ok ()) ∧ c.up.closed = true ∧ c.up.sent = [1, 2, 3] ∧
      c.toBackend = [1, 2] ∧ c.toBackend ≠ (plainConnection false).header ++ c.up.sent) :=
  ⟨⟨_, rfl, rfl, rfl, rfl, rfl, by decide⟩, ⟨_, rfl, rfl, rfl, rfl, rfl, by decide⟩⟩

end Wicket
