/-
**Routing a connection by what has arrived of its ClientHello.**

One look at no more than 4096 bytes decides; a ClientHello that has arrived in part has no server
name.
-/

import Wicket.Sni
import Wicket.Stream

namespace Wicket

open List

/-- The size of the buffer the first bytes of a connection are copied to. -/
def peekBufLen : ℕ := 4096

/-- A stream of bytes in segments, some of which have arrived when the proxy looks.  It waits until
there is something to see. -/
structure Delivery (stream : List UInt8) where
  received : List (List UInt8)
  pending : List (List UInt8)
  whole : received.flatten ++ pending.flatten = stream
  nonempty : received.flatten ≠ []

/-- The bytes the proxy sees. -/
def Delivery.peek {stream : List UInt8} (d : Delivery stream) : List UInt8 :=
  d.received.flatten.take peekBufLen

def connectionUpstream (router : SniRouter) {stream : List UInt8} (d : Delivery stream) :
    Option String :=
  router.matchSni (extractSni d.peek)

theorem Delivery.peek_isPrefix {stream : List UInt8} (d : Delivery stream) : d.peek <+: stream := by
  have hreceived : d.received.flatten <+: stream := ⟨_, d.whole⟩
  exact (List.take_prefix _ _).trans hreceived

theorem Delivery.length_peek {stream : List UInt8} (d : Delivery stream) :
    d.peek.length = min peekBufLen d.received.flatten.length := length_take

theorem extractSni_peek (hello : ClientHello) {rest : List UInt8}
    (d : Delivery (hello.record ++ rest)) :
    extractSni d.peek =
      if hello.record.length ≤ min peekBufLen d.received.flatten.length then
        hello.serverName.filter isHostLength
      else none := by
  have hrecord : hello.record <+: hello.record ++ rest := prefix_append _ _
  rw [← d.length_peek]
  split
  case isTrue hle =>
    obtain ⟨seen, hseen⟩ := prefix_of_prefix_length_le hrecord d.peek_isPrefix hle
    rw [← hseen]
    exact extractSni_record hello seen
  case isFalse hlt =>
    have hpre := prefix_of_prefix_length_le d.peek_isPrefix hrecord (by omega)
    exact extractSni_truncated hello hpre (by omega)

/-- **The connection is routed by the name of its ClientHello** exactly when the whole record has
arrived within 4096 bytes and the name is short enough, or the name makes no difference. -/
theorem connectionUpstream_iff (router : SniRouter) (hello : ClientHello) (rest : List UInt8)
    (d : Delivery (hello.record ++ rest)) :
    connectionUpstream router d = router.matchSni hello.serverName ↔
      (hello.record.length ≤ min peekBufLen d.received.flatten.length ∧
        ∀ name ∈ hello.serverName, isHostLength name = true) ∨
      router.matchSni hello.serverName = router.matchSni none := by
  rw [connectionUpstream, extractSni_peek]
  by_cases hseen : hello.record.length ≤ min peekBufLen d.received.flatten.length
  · rw [if_pos hseen]
    cases hello.serverName with
    | none => exact iff_of_true rfl (.inr rfl)
    | some name =>
      cases hshort : isHostLength name with
      | true =>
        rw [Option.filter_some_pos hshort]
        exact iff_of_true rfl (.inl ⟨hseen, by simpa using hshort⟩)
      | false =>
        rw [Option.filter_some_neg (by simp [hshort])]
        constructor
        · exact fun h => .inr h.symm
        · rintro (⟨-, hall⟩ | h)
          · exact absurd (hall name rfl) (by simp [hshort])
          · exact h.symm
  · rw [if_neg hseen]
    constructor
    · exact fun h => .inr h.symm
    · rintro (⟨hle, -⟩ | h)
      · exact absurd hle hseen
      · exact h.symm

/-! ### A ClientHello in two segments -/

def apiHello : ClientHello where
  toHelloHead := .plain
  extensions := some [.serverName [.hostName "api.example.com"]]
  sessionId_le := by decide
  fits := by decide

def apiRouter : SniRouter where
  routes := [(.Exact "api.example.com", "api")]
  defaultUpstream := some "web"

def apiDelivery : Delivery (apiHello.record ++ []) where
  received := [apiHello.record.take 10]
  pending := [apiHello.record.drop 10]
  whole := by simp
  nonempty := by decide

def apiDeliveryWhole : Delivery (apiHello.record ++ []) where
  received := [apiHello.record]
  pending := []
  whole := by simp
  nonempty := by decide

theorem apiDelivery_default :
    apiHello.serverName = some "api.example.com" ∧
    apiRouter.matchSni apiHello.serverName = some "api" ∧
    connectionUpstream apiRouter apiDelivery = some "web" ∧
    connectionUpstream apiRouter apiDeliveryWhole = some "api" := by
  refine ⟨by decide, by decide, ?_, ?_⟩
  · decide
  · rw [connectionUpstream, extractSni_peek, if_pos (by decide)]
    decide

end Wicket
