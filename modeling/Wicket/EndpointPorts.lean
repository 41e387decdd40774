/-
**The ports of a rule's addresses.**

Addresses are stored for all ports of a Service's slices, and a rule takes over all of them: the
port, the weight and the kind of a backend reference are not looked at.
-/

import Wicket.Attachment
import Wicket.Endpoints
import Wicket.Rendered

namespace Wicket

open List

open KeyMap (HashMap)

/-! ### Addresses with ports -/

theorem addrWithPort_inj {a a' : String} {q q' : ℤ} :
    addrWithPort a q = addrWithPort a' q' ↔ a = a' ∧ q = q' := by
  have hcolon : ":" = String.singleton ':' := by decide
  rw [addrWithPort, addrWithPort, hcolon,
    Text.join_inj (Text.notMem_intToString rfl (by decide))
      (Text.notMem_intToString rfl (by decide)), Text.intToString_inj]

def EndpointSlice.HasReady (slice : EndpointSlice) (a : String) : Prop :=
  ∃ ep ∈ slice.endpoints, ep.isReady = true ∧ a ∈ ep.addresses

theorem mem_endpointAddrs {slices : List EndpointSlice} {addr : String} :
    addr ∈ endpointAddrs slices ↔
      ∃ slice ∈ slices, ∃ a, slice.HasReady a ∧ addr ∈ slice.addrTexts a := by
  simp only [endpointAddrs, mem_flatMap, mem_filter, EndpointSlice.HasReady]
  constructor
  · rintro ⟨slice, hslice, ep, ⟨hep, hready⟩, a, ha, haddr⟩
    exact ⟨slice, hslice, a, ⟨ep, hep, hready, ha⟩, haddr⟩
  · rintro ⟨slice, hslice, a, ⟨ep, hep, hready, ha⟩, haddr⟩
    exact ⟨slice, hslice, ep, ⟨hep, hready⟩, a, ha, haddr⟩

theorem mem_addrTexts {slice : EndpointSlice} {a addr : String} :
    addr ∈ slice.addrTexts a ↔
      (slice.portNumbers = [] ∧ addr = a) ∨ ∃ q ∈ slice.portNumbers, addr = addrWithPort a q := by
  rw [EndpointSlice.addrTexts]
  split
  · rename_i hempty
    simp [isEmpty_iff.1 hempty]
  · rename_i hne
    have hne' : slice.portNumbers ≠ [] := by simpa using hne
    simp [hne', eq_comm]

/-! ### Rules and slices -/

abbrev SliceMap : Type := String → String → List EndpointSlice

def HttpRule.slices (r : HttpRule) (slicesOf : SliceMap) (b : HTTPBackendRef) :
    List EndpointSlice :=
  slicesOf (b.backendRef.nsOr r.route.routeNs) b.backendRef.name

def InSync (st : GatewayState) (slicesOf : SliceMap) (r : HttpRule) : Prop :=
  ∀ b ∈ r.rule.backendRefs,
    st.serviceEndpoints.lookup
        (GatewayState.key (b.backendRef.nsOr r.route.routeNs) b.backendRef.name) =
      storedEntry (b.backendRef.nsOr r.route.routeNs) b.backendRef.name (r.slices slicesOf b)

theorem lookup_after_reconcile {slice : EndpointSlice} {ns name : String}
    {slices : List EndpointSlice} {observe : String → String → ServiceObservation}
    (hns : slice.ns = some ns) (hname : slice.serviceName = some name) (hne : name ≠ "")
    (hobserve : observe ns name = ⟨true, some slices⟩)
    (endpoints : HashMap String ServiceEndpoints) :
    (reconcileEndpointSlice slice observe endpoints).lookup (GatewayState.key ns name) =
      storedEntry ns name slices := by
  simp only [reconcileEndpointSlice, hns, hname, Option.getD_some, hobserve, beq_iff_eq, hne,
    if_false, Bool.not_true, Bool.false_eq_true]
  cases storedEntry ns name slices with
  | some e => exact AList.lookup_insert _
  | none => exact AList.lookup_erase _ _

def NamedPort (slicesOf : SliceMap) (r : HttpRule) (a : String) (q : ℤ) : Prop :=
  ∃ b ∈ r.rule.backendRefs, b.backendRef.isCoreService = true ∧ b.backendRef.weight ≠ 0 ∧
    (∃ port, b.backendRef.port = some port ∧ (port.toNat : ℤ) = q) ∧
    ∃ slice ∈ r.slices slicesOf b, slice.HasReady a ∧ q ∈ slice.portNumbers

def NamedAddress (slicesOf : SliceMap) (r : HttpRule) (addr : String) : Prop :=
  ∃ a q, addr = addrWithPort a q ∧ NamedPort slicesOf r a q

theorem namedAddress_addrWithPort {slicesOf : SliceMap} {r : HttpRule} {a : String} {q : ℤ} :
    NamedAddress slicesOf r (addrWithPort a q) ↔ NamedPort slicesOf r a q := by
  constructor
  · rintro ⟨a', q', heq, hnamed⟩
    obtain ⟨rfl, rfl⟩ := addrWithPort_inj.1 heq
    exact hnamed
  · intro hnamed
    exact ⟨a, q, rfl, hnamed⟩

/-- Each port of a slice of a referenced Service is named wherever a ready endpoint serves it; and
where there is none, the text that stands in is a named address by coincidence. -/
structure OnlyNamedPorts (slicesOf : SliceMap) (r : HttpRule) : Prop where
  ports : ∀ b ∈ r.rule.backendRefs, ∀ slice ∈ r.slices slicesOf b, ∀ a, slice.HasReady a →
    ∀ q ∈ slice.portNumbers, NamedPort slicesOf r a q
  portless : ∀ b ∈ r.rule.backendRefs, ∀ slice ∈ r.slices slicesOf b, slice.portNumbers = [] →
    ∀ a, slice.HasReady a → NamedAddress slicesOf r a
  unready : ∀ b ∈ r.rule.backendRefs, (∀ slice ∈ r.slices slicesOf b, ∀ a, ¬slice.HasReady a) →
    NamedAddress slicesOf r (serviceDnsName b.backendRef.name
      (b.backendRef.nsOr r.route.routeNs) (b.backendRef.port.getD 80))

theorem addrTexts_ne_nil (slice : EndpointSlice) (a : String) : slice.addrTexts a ≠ [] := by
  rw [EndpointSlice.addrTexts]
  split
  · simp
  · rename_i hne
    simpa using hne

theorem endpointAddrs_eq_nil {slices : List EndpointSlice} :
    endpointAddrs slices = [] ↔ ∀ slice ∈ slices, ∀ a, ¬slice.HasReady a := by
  rw [eq_nil_iff_forall_not_mem]
  constructor
  · intro h slice hslice a ha
    obtain ⟨addr, haddr⟩ := exists_mem_of_ne_nil _ (addrTexts_ne_nil slice a)
    exact h addr (mem_endpointAddrs.2 ⟨slice, hslice, a, ha, haddr⟩)
  · intro h addr haddr
    obtain ⟨slice, hslice, a, ha, -⟩ := mem_endpointAddrs.1 haddr
    exact h slice hslice a ha

theorem mem_resolveBackend_inSync {st : GatewayState} {slicesOf : SliceMap} {r : HttpRule}
    (hsync : InSync st slicesOf r) {b : HTTPBackendRef} (hb : b ∈ r.rule.backendRefs)
    {addr : String} :
    addr ∈ resolveBackend st r.route.routeNs 80 b.backendRef ↔
      addr ∈ endpointAddrs (r.slices slicesOf b) ∨
        (endpointAddrs (r.slices slicesOf b) = [] ∧
          addr = serviceDnsName b.backendRef.name (b.backendRef.nsOr r.route.routeNs)
            (b.backendRef.port.getD 80)) := by
  rw [resolveBackend, hsync b hb, storedEntry]
  by_cases hempty : endpointAddrs (r.slices slicesOf b) = []
  · simp [hempty]
  · simp [hempty, mem_insertionSort]

/-- **Every address of a rule is at a named port exactly when its Services serve named ports
only.** -/
theorem addresses_named_iff {st : GatewayState} {slicesOf : SliceMap} {r : HttpRule}
    (hsync : InSync st slicesOf r) :
    (∀ addr ∈ r.backends st, NamedAddress slicesOf r addr) ↔ OnlyNamedPorts slicesOf r := by
  have hbackends : ∀ addr, addr ∈ r.backends st ↔
      ∃ b ∈ r.rule.backendRefs, addr ∈ resolveBackend st r.route.routeNs 80 b.backendRef := by
    intro addr
    rw [HttpRule.backends, ruleBackends, List.mem_flatMap]
  constructor
  · intro h
    have hslice : ∀ b ∈ r.rule.backendRefs, ∀ slice ∈ r.slices slicesOf b, ∀ a,
        slice.HasReady a → ∀ addr ∈ slice.addrTexts a, NamedAddress slicesOf r addr := by
      intro b hb slice hs a ha addr haddr
      refine h addr ((hbackends addr).2 ⟨b, hb, (mem_resolveBackend_inSync hsync hb).2 (Or.inl ?_)⟩)
      exact mem_endpointAddrs.2 ⟨slice, hs, a, ha, haddr⟩
    refine ⟨?_, ?_, ?_⟩
    · intro b hb slice hs a ha q hq
      exact namedAddress_addrWithPort.1
        (hslice b hb slice hs a ha _ (mem_addrTexts.2 (Or.inr ⟨q, hq, rfl⟩)))
    · intro b hb slice hs hports a ha
      exact hslice b hb slice hs a ha a (mem_addrTexts.2 (Or.inl ⟨hports, rfl⟩))
    · intro b hb hnone
      refine h _ ((hbackends _).2 ⟨b, hb, (mem_resolveBackend_inSync hsync hb).2 (Or.inr ?_)⟩)
      exact ⟨endpointAddrs_eq_nil.2 hnone, rfl⟩
  · rintro ⟨hports, hportless, hunready⟩ addr haddr
    obtain ⟨b, hb, hresolved⟩ := (hbackends addr).1 haddr
    -- the address is one of a slice, or the DNS name when no slice has any
    rcases (mem_resolveBackend_inSync hsync hb).1 hresolved with hmem | ⟨hempty, rfl⟩
    · obtain ⟨slice, hs, a, ha, haddr⟩ := mem_endpointAddrs.1 hmem
      rcases mem_addrTexts.1 haddr with ⟨hnone, rfl⟩ | ⟨q, hq, rfl⟩
      · exact hportless b hb slice hs hnone addr ha
      · exact namedAddress_addrWithPort.2 (hports b hb slice hs a ha q hq)
    · exact hunready b hb (endpointAddrs_eq_nil.1 hempty)

def webSlice (ports : List EndpointPort) : EndpointSlice where
  ns := some "shop"
  serviceName := some "web"
  endpoints := [{ addresses := ["10.0.0.5"] }]
  ports := some ports

def webSlices (ports : List EndpointPort) : SliceMap := fun ns name =>
  if ns = "shop" ∧ name = "web" then [webSlice ports] else []

def webRule : HttpRule where
  key := "shop/web"
  route :=
    { metadata := { ns := some "shop", name := some "web" }
      spec := { rules := [{ backendRefs := [⟨{ name := "web", port := some 80 }⟩] }] }
      status := some (acceptedFor "gw") }
  idx := 0
  rule := { backendRefs := [⟨{ name := "web", port := some 80 }⟩] }

def webState (ports : List EndpointPort) : GatewayState where
  httpRoutes := KeyMap.collect [("shop/web", webRule.route)]
  serviceEndpoints := reconcileEndpointSlice (webSlice ports)
    (fun ns name => { referenced := true, slices := some (webSlices ports ns name) }) ∅

theorem webState_inSync (ports : List EndpointPort) :
    InSync (webState ports) (webSlices ports) webRule := by
  intro b hb
  obtain rfl := mem_singleton.1 hb
  exact lookup_after_reconcile rfl rfl (by decide) rfl ∅

theorem webState_not_named :
    InSync (webState [⟨some 80⟩, ⟨some 9090⟩]) (webSlices [⟨some 80⟩, ⟨some 9090⟩]) webRule ∧
      webRule ∈ liveRules (webState [⟨some 80⟩, ⟨some 9090⟩]) ∧
      ¬∀ addr ∈ webRule.backends (webState [⟨some 80⟩, ⟨some 9090⟩]),
        NamedAddress (webSlices [⟨some 80⟩, ⟨some 9090⟩]) webRule addr := by
  refine ⟨webState_inSync _, by decide, fun hnamed => ?_⟩
  have hmetrics := hnamed (addrWithPort "10.0.0.5" 9090) (by decide)
  obtain ⟨b, hb, -, -, ⟨port, hport, hq⟩, -⟩ := namedAddress_addrWithPort.1 hmetrics
  obtain rfl := List.mem_singleton.1 hb
  cases hport
  exact absurd hq (by decide)

theorem webState_named :
    InSync (webState [⟨some 80⟩]) (webSlices [⟨some 80⟩]) webRule ∧
      ∀ addr ∈ webRule.backends (webState [⟨some 80⟩]),
        NamedAddress (webSlices [⟨some 80⟩]) webRule addr := by
  refine ⟨webState_inSync _, (addresses_named_iff (webState_inSync _)).2 ⟨?_, ?_, ?_⟩⟩
  · intro b hb slice hs a ha q hq
    obtain rfl := List.mem_singleton.1 hb
    obtain rfl := List.mem_singleton.1 hs
    obtain rfl := List.mem_singleton.1 hq
    exact ⟨_, List.mem_singleton.2 rfl, by decide, by decide, ⟨80, rfl, rfl⟩, _,
      List.mem_singleton.2 rfl, ha, List.mem_singleton.2 rfl⟩
  · intro b hb slice hs hports
    obtain rfl := List.mem_singleton.1 hb
    obtain rfl := List.mem_singleton.1 hs
    exact absurd hports (by decide)
  · intro b hb hnone
    obtain rfl := List.mem_singleton.1 hb
    exact absurd ⟨_, List.mem_singleton.2 rfl, rfl, List.mem_singleton.2 rfl⟩
      (hnone _ (List.mem_singleton.2 rfl) "10.0.0.5")

end Wicket
