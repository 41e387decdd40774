/-
**Endpoints of Services, from EndpointSlices.**

The ready addresses of all slices of a Service are stored, with every port of their slice.  An entry
is never empty.
-/

import Wicket.Generator

namespace Wicket

open KeyMap (HashMap)

/-! ### Slices -/

structure EndpointPort where
  port : Option ℤ := none
  deriving DecidableEq

/-- An endpoint of a slice; it counts as ready unless it says otherwise. -/
structure Endpoint where
  addresses : List String
  ready : Option Bool := none
  deriving DecidableEq

structure EndpointSlice where
  ns : Option String := none
  serviceName : Option String := none
  endpoints : List Endpoint := []
  ports : Option (List EndpointPort) := none
  deriving DecidableEq

def EndpointSlice.portNumbers (s : EndpointSlice) : List ℤ :=
  (s.ports.map fun pp => pp.filterMap EndpointPort.port).getD []

def Endpoint.isReady (ep : Endpoint) : Bool := ep.ready.getD true

def addrWithPort (addr : String) (port : ℤ) : String := addr ++ ":" ++ toString port

def EndpointSlice.addrTexts (s : EndpointSlice) (addr : String) : List String :=
  if s.portNumbers.isEmpty then [addr] else s.portNumbers.map (addrWithPort addr)

def endpointAddrs (slices : List EndpointSlice) : List String :=
  slices.flatMap fun s =>
    (s.endpoints.filter Endpoint.isReady).flatMap fun ep => ep.addresses.flatMap s.addrTexts

/-! ### The reconciler -/

def storedEntry (ns name : String) (slices : List EndpointSlice) : Option ServiceEndpoints :=
  if (endpointAddrs slices).isEmpty then none
  else some { ns := ns, name := name, endpoints := endpointAddrs slices }

/-- What a reconcile learns about a Service: whether a route refers to it, and its slices, unless
listing them fails. -/
structure ServiceObservation where
  referenced : Bool
  slices : Option (List EndpointSlice)

def reconcileEndpointSlice (slice : EndpointSlice) (observe : String → String → ServiceObservation)
    (endpoints : HashMap String ServiceEndpoints) : HashMap String ServiceEndpoints :=
  let ns := slice.ns.getD ""
  let serviceName := slice.serviceName.getD ""
  if serviceName == "" then endpoints
  else if !(observe ns serviceName).referenced then endpoints
  else
    match (observe ns serviceName).slices with
    | none => endpoints
    | some slices =>
      match storedEntry ns serviceName slices with
      | some entry => endpoints.insert (GatewayState.key ns serviceName) entry
      | none => endpoints.erase (GatewayState.key ns serviceName)

inductive Reconciled : HashMap String ServiceEndpoints → Prop
  | empty : Reconciled ∅
  | step {endpoints : HashMap String ServiceEndpoints} (slice : EndpointSlice)
      (observe : String → String → ServiceObservation) (h : Reconciled endpoints) :
      Reconciled (reconcileEndpointSlice slice observe endpoints)

theorem storedEntry_eq_some {ns name : String} {slices : List EndpointSlice}
    {e : ServiceEndpoints} (h : storedEntry ns name slices = some e) :
    e.endpoints = endpointAddrs slices ∧ e.endpoints ≠ [] := by
  rw [storedEntry] at h
  split at h
  · cases h
  · rename_i hne
    cases h
    exact ⟨rfl, by simpa using hne⟩

theorem lookup_reconcileEndpointSlice {slice : EndpointSlice}
    {observe : String → String → ServiceObservation}
    {endpoints : HashMap String ServiceEndpoints} (k : String) :
    (reconcileEndpointSlice slice observe endpoints).lookup k = endpoints.lookup k ∨
      ∃ ns name slices, k = GatewayState.key ns name ∧ (observe ns name).slices = some slices ∧
        (reconcileEndpointSlice slice observe endpoints).lookup k = storedEntry ns name slices := by
  simp only [reconcileEndpointSlice]
  split
  · exact Or.inl rfl
  · split
    · exact Or.inl rfl
    · split
      · exact Or.inl rfl
      · rename_i slices hslices
        by_cases hk : k = GatewayState.key (slice.ns.getD "") (slice.serviceName.getD "")
        · subst hk
          refine Or.inr ⟨_, _, slices, rfl, hslices, ?_⟩
          split
          · rename_i entry hentry
            rw [AList.lookup_insert, hentry]
          · rename_i hentry
            rw [AList.lookup_erase, hentry]
        · left
          split
          · exact AList.lookup_insert_ne hk
          · exact AList.lookup_erase_ne hk

theorem Reconciled.entry {endpoints : HashMap String ServiceEndpoints} (h : Reconciled endpoints)
    {k : String} {e : ServiceEndpoints} (he : endpoints.lookup k = some e) :
    ∃ slices, e.endpoints = endpointAddrs slices ∧ e.endpoints ≠ [] := by
  induction h with
  | empty => simp at he
  | step slice observe _ ih =>
    rcases @lookup_reconcileEndpointSlice slice observe _ k with
      hsame | ⟨ns, name, slices, -, -, hstored⟩
    · exact ih (hsame ▸ he)
    · exact ⟨slices, storedEntry_eq_some (hstored ▸ he)⟩

end Wicket
