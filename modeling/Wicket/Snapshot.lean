/-
**The planner snapshot.**

The accessors select routes and grants in an order that does not depend on the maps.
-/

import Wicket.Generator

namespace Wicket

open KeyMap

/-- A copy of the store, each object under the text `namespace/name`. -/
structure PlannerSnapshot where
  gateways : HashMap String Gateway := ∅
  httpRoutes : HashMap String HTTPRoute := ∅
  tcpRoutes : HashMap String TCPRoute := ∅
  tlsRoutes : HashMap String TLSRoute := ∅
  serviceEndpoints : HashMap String ServiceEndpoints := ∅
  servicePresence : Finset String := ∅
  tlsSecrets : HashMap String (String × String) := ∅
  referenceGrants : HashMap String ReferenceGrant := ∅
  namespaceLabels : HashMap String (Std.TreeMap String String) := ∅

def PlannerSnapshot.gateway (s : PlannerSnapshot) (ns name : String) : Option Gateway :=
  s.gateways.lookup (GatewayState.key ns name)

/-! ### Grants of a namespace -/

def ReferenceGrant.grantNs (g : ReferenceGrant) : String := g.metadata.ns.getD "default"

/-- The grants whose target namespace is the given one, in the order of their names. -/
def PlannerSnapshot.referenceGrantsInNamespace (s : PlannerSnapshot) (ns : String) :
    List ReferenceGrant :=
  let inNamespace := (entries s.referenceGrants).filter fun e => e.2.grantNs == ns
  (inNamespace.map Prod.snd).insertionSort fun a b =>
    a.metadata.name.getD "" ≤ b.metadata.name.getD ""

theorem PlannerSnapshot.mem_referenceGrantsInNamespace {s : PlannerSnapshot} {ns : String}
    {g : ReferenceGrant} :
    g ∈ s.referenceGrantsInNamespace ns ↔
      ∃ key, s.referenceGrants.lookup key = some g ∧ g.grantNs = ns := by
  simp only [PlannerSnapshot.referenceGrantsInNamespace, List.mem_insertionSort, List.mem_map,
    List.mem_filter, Prod.exists, mem_entries, beq_iff_eq]
  constructor
  · rintro ⟨key, g, ⟨hlookup, hns⟩, rfl⟩
    exact ⟨key, hlookup, hns⟩
  · rintro ⟨key, hlookup, hns⟩
    exact ⟨key, g, ⟨hlookup, hns⟩, rfl⟩

/-! ### Routes of a Gateway -/

def parentRefTargetsGateway (routeNs : String) (p : ParentReference)
    (gatewayNs gatewayName : String) : Bool :=
  (p.group == "" || p.group == gatewayApiGroup) && p.kind == "Gateway" &&
    p.ns.getD routeNs == gatewayNs && p.name == gatewayName

def routeReferencesGateway (routeNs : String) (parentRefs : List ParentReference)
    (gatewayNs gatewayName : String) : Bool :=
  parentRefs.any fun p => parentRefTargetsGateway routeNs p gatewayNs gatewayName

def ObjectMeta.nameLe (a b : ObjectMeta) : Bool :=
  decide (a.ns.getD "" < b.ns.getD "") ||
    (a.ns.getD "" == b.ns.getD "" && decide (a.name.getD "" ≤ b.name.getD ""))

def routesForGateway {ρ : Type} (metadata : ρ → ObjectMeta) (parentRefs : ρ → List ParentReference)
    (routes : HashMap String ρ) (gatewayNs gatewayName : String) : List ρ :=
  (((entries routes).map Prod.snd).filter fun r =>
    routeReferencesGateway ((metadata r).ns.getD "default") (parentRefs r) gatewayNs
      gatewayName).insertionSort fun a b => (metadata a).nameLe (metadata b) = true

def PlannerSnapshot.httpRoutesForGateway (s : PlannerSnapshot) (gatewayNs gatewayName : String) :
    List HTTPRoute :=
  routesForGateway HTTPRoute.metadata (fun r => r.spec.parentRefs) s.httpRoutes gatewayNs
    gatewayName

def PlannerSnapshot.tcpRoutesForGateway (s : PlannerSnapshot) (gatewayNs gatewayName : String) :
    List TCPRoute :=
  routesForGateway TCPRoute.metadata (fun r => r.spec.parentRefs) s.tcpRoutes gatewayNs gatewayName

def PlannerSnapshot.tlsRoutesForGateway (s : PlannerSnapshot) (gatewayNs gatewayName : String) :
    List TLSRoute :=
  routesForGateway TLSRoute.metadata (fun r => r.spec.parentRefs) s.tlsRoutes gatewayNs gatewayName

theorem mem_routesForGateway {ρ : Type} {metadata : ρ → ObjectMeta}
    {parentRefs : ρ → List ParentReference} {routes : HashMap String ρ}
    {gatewayNs gatewayName : String} {r : ρ} :
    r ∈ routesForGateway metadata parentRefs routes gatewayNs gatewayName ↔
      (∃ key, routes.lookup key = some r) ∧
        routeReferencesGateway ((metadata r).ns.getD "default") (parentRefs r) gatewayNs
          gatewayName = true := by
  simp [routesForGateway, mem_entries]

end Wicket
