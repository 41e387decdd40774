/-
**Whether a route refers to a Service, asked in two ways.**

The index of the store knows references to core Services only; the search at the API server does not
look at group and kind.
-/

import Wicket.EventOrder

namespace Wicket

open String List ApiRoutes

/-! ### The listed routes -/

def ApiRoutes.listed (routes : ApiRoutes) : List Route :=
  (routes.http.getD []).map .http ++ (routes.tcp.getD []).map .tcp ++ (routes.tls.getD []).map .tls

def ApiRoutes.HeldBy (routes : ApiRoutes) (inner : StoreInner) : Prop :=
  ∀ route, route ∈ routes.listed ↔ ∃ key, inner.Stores key route

/-- The reference of the route has the namespace and name, whatever its group and kind. -/
def Route.Names (route : Route) (b : BackendRef) (ns name : String) : Prop :=
  b ∈ route.backendRefs ∧ b.nsOr route.metadata.planNs = ns ∧ b.name = name

def BackendRef.IsCore (b : BackendRef) : Prop := isCoreServiceRef b.group b.kind = true

/-! ### The two answers -/

variable {ns name : String} {routes : ApiRoutes}

theorem key_eq_iff {ns' name' : String} (hns : '/' ∉ ns.toList) (hname : '/' ∉ name.toList) :
    GatewayState.key ns name = GatewayState.key ns' name' ↔ ns' = ns ∧ name' = name := by
  constructor
  · intro h
    have hchars : ns.toList ++ '/' :: name.toList = ns'.toList ++ '/' :: name'.toList := by
      have hlists := congrArg toList h
      simpa [GatewayState.key, toList_append] using hlists
    have hns' : '/' ∉ ns'.toList := by
      have hcount := congrArg (count '/') hchars
      rw [count_append, count_append, count_cons_self, count_cons_self,
        count_eq_zero.2 hns, count_eq_zero.2 hname] at hcount
      rw [← count_eq_zero]
      omega
    obtain ⟨hl, hr⟩ := Text.append_cons_inj_left hns hns' hchars
    exact ⟨(toList_inj.1 hl).symm, (toList_inj.1 hr).symm⟩
  · intro h
    rw [h.1, h.2]

theorem mem_serviceRefIndex_iff {inner : StoreInner} (hexact : ServicesExact inner)
    (hheld : routes.HeldBy inner) (hns : '/' ∉ ns.toList) (hname : '/' ∉ name.toList) :
    GatewayState.key ns name ∈ inner.serviceRefIndex ↔
      ∃ route ∈ routes.listed, ∃ b, b.IsCore ∧ route.Names b ns name := by
  rw [hexact, StoreInner.ReferencesService]
  constructor
  · intro h
    obtain ⟨key, route, hstores, b, service, ⟨hb, hcore, rfl⟩, hkey⟩ := h
    exact ⟨route, (hheld route).2 ⟨key, hstores⟩, b, hcore, hb, (key_eq_iff hns hname).1 hkey⟩
  · intro h
    obtain ⟨route, hroute, b, hcore, hb, hnames⟩ := h
    obtain ⟨key, hstores⟩ := (hheld route).1 hroute
    exact ⟨key, route, hstores, b, _, ⟨hb, hcore, rfl⟩, (key_eq_iff hns hname).2 hnames⟩

theorem refersByName_iff {route : Route} {routeNs : String}
    (hroute : route.metadata.ns = some routeNs) :
    refersByName route.metadata.ns route.backendRefs ns name = true ↔
      ∃ b, route.Names b ns name := by
  simp [refersByName, Route.Names, ObjectMeta.planNs, hroute]

theorem ApiRoutes.isServiceReferenced_iff_any :
    routes.isServiceReferenced ns name = true ↔
      ∃ route ∈ routes.listed, refersByName route.metadata.ns route.backendRefs ns name = true := by
  simp only [isServiceReferenced, listed, Bool.or_eq_true, any_eq_true, mem_append, mem_map]
  constructor
  · intro h
    obtain (⟨r, hr, h⟩ | ⟨r, hr, h⟩) | ⟨r, hr, h⟩ := h
    · exact ⟨.http r, .inl (.inl ⟨r, hr, rfl⟩), h⟩
    · exact ⟨.tcp r, .inl (.inr ⟨r, hr, rfl⟩), h⟩
    · exact ⟨.tls r, .inr ⟨r, hr, rfl⟩, h⟩
  · intro h
    obtain ⟨route, (⟨r, hr, rfl⟩ | ⟨r, hr, rfl⟩) | ⟨r, hr, rfl⟩, h⟩ := h
    · exact .inl (.inl ⟨r, hr, h⟩)
    · exact .inl (.inr ⟨r, hr, h⟩)
    · exact .inr ⟨r, hr, h⟩

theorem isServiceReferenced_scan_iff {inner : StoreInner} (hkeyed : inner.Keyed)
    (hheld : routes.HeldBy inner) :
    routes.isServiceReferenced ns name = true ↔
      ∃ route ∈ routes.listed, ∃ b, route.Names b ns name := by
  rw [isServiceReferenced_iff_any]
  refine exists_congr fun route => and_congr_right fun hroute => ?_
  obtain ⟨key, hstores⟩ := (hheld route).1 hroute
  obtain ⟨routeNs, _, hns, _, _⟩ := hkeyed key route hstores
  exact refersByName_iff hns

/-! ### When they are the same -/

/-- **The two answers are the same** exactly when a Service that some reference names, whatever its
group and kind, is also named by a reference to a core Service. -/
theorem references_agree_iff {r : Running} (hreachable : r.Reachable) (hready : r.store.IsReady)
    {routes : ApiRoutes} (hheld : routes.HeldBy r.store.inner) {ns name : String}
    (hns : '/' ∉ ns.toList) (hname : '/' ∉ name.toList) :
    r.store.isServiceReferenced ns name = some (routes.isServiceReferenced ns name) ↔
      ((∃ route ∈ routes.listed, ∃ b, route.Names b ns name) →
        ∃ route ∈ routes.listed, ∃ b, b.IsCore ∧ route.Names b ns name) := by
  have hcomplete : r.store.inner.isComplete = true := by
    rw [StoreInner.isComplete, SharedStore.isReady_iff.1 hready]
  rw [SharedStore.isServiceReferenced, hcomplete, Bool.not_true, if_neg Bool.false_ne_true,
    Option.some.injEq, Bool.eq_iff_iff, decide_eq_true_eq,
    mem_serviceRefIndex_iff hreachable.inv.services hheld hns hname,
    isServiceReferenced_scan_iff hreachable.inv.keyed hheld]
  constructor
  · intro h
    exact h.2
  · intro h
    refine ⟨?_, h⟩
    intro hcore
    obtain ⟨route, hroute, b, _, hnames⟩ := hcore
    exact ⟨route, hroute, b, hnames⟩

section OneRoute

def oneRoute (b : BackendRef) : HTTPRoute where
  metadata := { ns := some "shop", name := some "web" }
  spec := { parentRefs := [{ name := "gw" }], rules := [{ backendRefs := [⟨b⟩] }] }

def oneInner (b : BackendRef) : StoreInner where
  phase := .Ready
  httpRoutes := KeyMap.collect [("shop/web", oneRoute b)]

def oneRunning (b : BackendRef) : Running where
  store := { inner := (oneInner b).rebuildServiceIndex }
  tasks := [.written]

variable (b : BackendRef)

theorem stores_oneInner {key : String} {route : Route} :
    (oneInner b).Stores key route ↔ key = "shop/web" ∧ route = .http (oneRoute b) := by
  cases route with
  | http r =>
    rw [StoreInner.Stores, oneInner, KeyMap.lookup_collect]
    constructor
    · intro h
      obtain ⟨rfl, rfl⟩ := Prod.mk.inj (mem_singleton.1 (KeyMap.mem_of_lastWrite h))
      exact ⟨rfl, rfl⟩
    · intro h
      obtain ⟨rfl, h⟩ := h
      cases h
      rfl
  | tcp r =>
    constructor
    · intro h
      cases h
    · intro h
      cases h.2
  | tls r =>
    constructor
    · intro h
      cases h
    · intro h
      cases h.2

theorem reachable_oneRunning : (oneRunning b).Reachable := by
  refine .single (.replace (oneInner b) ?_ fun ⟨index, hmem⟩ => by cases hmem)
  intro key route hstores
  obtain ⟨rfl, rfl⟩ := (stores_oneInner b).1 hstores
  exact ⟨"shop", "web", rfl, rfl, rfl⟩

theorem heldBy_oneRunning :
    ApiRoutes.HeldBy ⟨some [oneRoute b], some [], some []⟩ (oneRunning b).store.inner := by
  intro route
  have hstores : ∀ key, (oneRunning b).store.inner.Stores key route ↔
      key = "shop/web" ∧ route = .http (oneRoute b) := fun key => stores_oneInner b
  simp [hstores, listed]

end OneRoute

theorem coreReference_agrees :
    (oneRunning { name := "api" }).store.isServiceReferenced "shop" "api" =
      some (ApiRoutes.isServiceReferenced ⟨some [oneRoute { name := "api" }], some [], some []⟩
        "shop" "api") :=
  (references_agree_iff (reachable_oneRunning _) (SharedStore.isReady_iff.2 rfl)
    (heldBy_oneRunning _) (by decide) (by decide)).2 fun _ =>
      ⟨.http (oneRoute { name := "api" }), List.mem_singleton.2 rfl, { name := "api" }, rfl,
        List.mem_singleton.2 rfl, rfl, rfl⟩

theorem serviceImport_disagrees :
    let b : BackendRef :=
      { group := "multicluster.x-k8s.io", kind := "ServiceImport", name := "api" }
    let routes : ApiRoutes := ⟨some [oneRoute b], some [], some []⟩
    (oneRunning b).Reachable ∧ (oneRunning b).store.IsReady ∧
      routes.HeldBy (oneRunning b).store.inner ∧
      (oneRunning b).store.isServiceReferenced "shop" "api" = some false ∧
      routes.isServiceReferenced "shop" "api" = true := by
  refine ⟨reachable_oneRunning _, SharedStore.isReady_iff.2 rfl, heldBy_oneRunning _, ?_, ?_⟩
  · decide
  · decide

end Wicket
