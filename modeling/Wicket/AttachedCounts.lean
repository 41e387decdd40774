/-
**The number of attached routes.**

A route counts once at a listener, however many of its parent references lead there.
-/

import Mathlib.Data.Set.Card
import Wicket.NamespaceSelector
import Wicket.PlanChange
import Wicket.PlanFrame

namespace Wicket

open Option KeyMap Route AList

/-! ### What is counted -/

/-- The text under which a route is counted; its kind is not part of it. -/
def RouteEvalContext.countKey (ctx : RouteEvalContext) : String :=
  ctx.routeNamespace ++ "/" ++ ctx.routeName

theorem countRoute_grows (routeKey listenerName : String)
    (attached : HashMap String (Finset String)) :
    Grows (fun n key => n = listenerName ∧ key = routeKey) attached
      (countRoute routeKey attached listenerName) := by
  intro n
  by_cases hn : n = listenerName
  · subst hn
    cases hlookup : attached.lookup n with
    | none =>
      rw [countRoute, hlookup]
      rw [hlookup]
      exact .none
    | some routes =>
      rw [countRoute, hlookup]
      dsimp only
      rw [lookup_insert]
      refine .some ?_
      intro key
      rw [Finset.mem_insert, or_comm, and_iff_right rfl]
  · have hsame : (countRoute routeKey attached listenerName).lookup n = attached.lookup n := by
      rw [countRoute]
      cases attached.lookup listenerName with
      | none => rfl
      | some routes => exact lookup_insert_ne hn
    rw [hsame]
    cases attached.lookup n with
    | none => exact .none
    | some routes => exact .some (by simp [hn])

theorem countResult_grows {ctx : RouteEvalContext} {res : RouteAttachmentResult}
    (hres : res ∈ evaluateRouteAttachmentInner ctx) (attached : HashMap String (Finset String)) :
    Grows (fun n key => res.status.isAttached = true ∧ res.listenerName = some n ∧
      key = ctx.countKey) attached (countResult ctx attached res) := by
  rw [countResult]
  cases hattached : res.status.isAttached with
  | false => exact (Grows.refl attached).congr (by simp)
  | true =>
    -- an attached result is that of a listener
    obtain ⟨l, -, -, hl⟩ := mem_evaluate_attached.1 ⟨hres, hattached⟩
    have hname : res.listenerName = some l.name := by rw [hl]; rfl
    simp only [hname, Bool.not_true, Bool.false_eq_true, if_false]
    refine (countRoute_grows _ l.name attached).congr ?_
    intro n key
    rw [some_inj, true_and, @eq_comm _ l.name n, RouteEvalContext.countKey]

theorem evaluation_grows (ctx : RouteEvalContext) (attached : HashMap String (Finset String)) :
    Grows (fun n key => key = ctx.countKey ∧ ∃ l, ctx.Selects l ∧ ctx.Admits l ∧ l.name = n)
      attached ((evaluateRouteAttachmentInner ctx).foldl (countResult ctx) attached) := by
  refine (Grows.foldl _ (fun res hres => countResult_grows hres) attached).congr ?_
  intro n key
  constructor
  · intro h
    obtain ⟨res, hres, hattached, hname, hkey⟩ := h
    obtain ⟨l, hselects, hadmits, rfl⟩ := mem_evaluate_attached.1 ⟨hres, hattached⟩
    exact ⟨hkey, l, hselects, hadmits, some.inj hname⟩
  · intro h
    obtain ⟨hkey, l, hselects, hadmits, hname⟩ := h
    obtain ⟨hres, hattached⟩ := mem_evaluate_attached.2 ⟨l, hselects, hadmits, rfl⟩
    exact ⟨_, hres, hattached, congrArg some hname, hkey⟩

theorem exists_attached (input : AttachmentPlanInput) {gateway : Gateway} {l : Listener}
    (hl : l ∈ gateway.spec.listeners) :
    ∃ routes, (planState input gateway).listenerAttached.lookup l.name = some routes ∧
      ∀ key, key ∈ routes ↔ ∃ ctx, Evaluated input gateway ctx ∧ key = ctx.countKey ∧
        ∃ l', ctx.Selects l' ∧ ctx.Admits l' ∧ l'.name = l.name := by
  have hstart : (planStart gateway).listenerAttached.lookup l.name = some ∅ := by
    rw [planStart, lookup_collect]
    refine lastWrite_of_forall (List.mem_map.2 ⟨l, hl, rfl⟩) ?_
    intro routes hroutes
    obtain ⟨l', -, heq⟩ := List.mem_map.1 hroutes
    exact (congrArg Prod.snd heq).symm
  have hgrows := Grows.foldl (planEvaluations input gateway)
    (fun ctx _ => evaluation_grows ctx) (planStart gateway).listenerAttached l.name
  rw [hstart] at hgrows
  obtain ⟨routes, hroutes, hmem⟩ := exists_of_rel_some hgrows
  refine ⟨routes, ?_, ?_⟩
  · rw [planState_eq_foldl, foldl_planEvaluation]
    exact hroutes
  · intro key
    rw [hmem]
    simp [mem_planEvaluations]

/-! ### The rules -/

def Route.hostnames : Route → List String
  | .http route => route.spec.hostnames
  | .tcp _ => []
  | .tls route => route.spec.hostnames

/-- The reference is to this Gateway; without a namespace it means that of the route. -/
def ParentReference.NamesGateway (p : ParentReference) (routeNs gatewayNs gatewayName : String) :
    Prop :=
  (p.group = "" ∨ p.group = gatewayApiGroup) ∧ p.kind = "Gateway" ∧
    p.ns.getD routeNs = gatewayNs ∧ p.name = gatewayName

/-- The protocols that a kind of route can be attached to. -/
def RouteKind.Fits : RouteKind → ProtocolType → Prop
  | .HTTPRoute, protocol => protocol = .HTTP ∨ protocol = .HTTPS
  | .TCPRoute, protocol => protocol = .TCP
  | .TLSRoute, protocol => protocol = .TLS

/-- The route may be attached to the listener, by the rules of the Gateway API that the planner
follows. -/
structure Qualifies (input : AttachmentPlanInput) (gateway : Gateway) (l : Listener)
    (route : Route) : Prop where
  parentRef : ∃ p ∈ route.parentRefs,
    p.NamesGateway route.metadata.planNs input.gatewayNamespace input.gatewayName ∧
      (∀ sectionName ∈ p.sectionName, sectionName = l.name) ∧ ∀ port ∈ p.port, port = l.port
  protocol : route.kind.Fits l.protocol
  ns : NamespaceAllowed l.allowedRoutes gateway.gwNs route.metadata.planNs
    input.snapshot.namespaceLabels
  kind : ∀ allowedRoutes ∈ l.allowedRoutes, allowedRoutes.kinds = [] ∨
    ∃ k ∈ allowedRoutes.kinds, (k.group = "" ∨ k.group = gatewayApiGroup) ∧
      k.kind = route.kind.asStr
  /-- An empty host name of the listener counts as none. -/
  hostname : route.kind ≠ .TCPRoute → (∀ h ∈ l.hostname, h = "") ∨ route.hostnames = [] ∨
    ∃ h ∈ l.hostname, ∃ h' ∈ route.hostnames, hostnameIntersects h h' = true

section Rules

variable {input : AttachmentPlanInput} {gateway : Gateway} {l : Listener} {route : Route}
  {p : ParentReference}

theorem targets_iff :
    input.Targets route p = true ↔
      p.NamesGateway route.metadata.planNs input.gatewayNamespace input.gatewayName := by
  simp [AttachmentPlanInput.Targets, parentRefTargetsGateway, ParentReference.NamesGateway,
    and_assoc]

theorem Route.evalContext_routeNamespace :
    (route.evalContext input gateway p).routeNamespace = route.metadata.planNs := by
  cases route <;> rfl

theorem Route.evalContext_snapshot :
    (route.evalContext input gateway p).snapshot = input.snapshot := by
  cases route <;> rfl

theorem Route.evalContext_routeKind :
    (route.evalContext input gateway p).routeKind = route.kind := by
  cases route <;> rfl

theorem Route.evalContext_routeHostnames :
    (route.evalContext input gateway p).routeHostnames = route.hostnames := by
  cases route <;> rfl

theorem Route.evalContext_sectionName :
    (route.evalContext input gateway p).sectionName = p.sectionName := by
  cases route <;> rfl

theorem Route.evalContext_parentRefPort :
    (route.evalContext input gateway p).parentRefPort = p.port := by
  cases route <;> rfl

theorem Route.checkHostnameCompat_iff :
    (route.evalContext input gateway p).checkHostnameCompat = true ↔ route.kind ≠ .TCPRoute := by
  cases route with
  | http r => simp [evalContext, httpEvalContext, kind]
  | tcp r => simp [evalContext, tcpEvalContext, kind]
  | tls r => simp [evalContext, tlsEvalContext, kind]

theorem fits_iff :
    (route.evalContext input gateway p).protocolCompat l.protocol = true ↔
      route.kind.Fits l.protocol := by
  cases route with
  | http r =>
    simp [evalContext, httpEvalContext, isProtocolCompatibleHttp, kind, RouteKind.Fits]
  | tcp r =>
    simp [evalContext, tcpEvalContext, isProtocolCompatibleTcp, kind, RouteKind.Fits]
  | tls r =>
    simp [evalContext, tlsEvalContext, isProtocolCompatibleTls, kind, RouteKind.Fits]

theorem kindAllowed_iff {allowedRoutes : Option AllowedRoutes} {kind : RouteKind} :
    kindAllowed allowedRoutes kind = true ↔ ∀ allowed ∈ allowedRoutes, allowed.kinds = [] ∨
      ∃ k ∈ allowed.kinds, (k.group = "" ∨ k.group = gatewayApiGroup) ∧ k.kind = kind.asStr := by
  cases allowedRoutes with
  | none => simp [kindAllowed]
  | some allowed =>
    simp only [kindAllowed, map_some, getD_some, mem_def, some.injEq, forall_eq']
    cases hkinds : allowed.kinds with
    | nil => simp
    | cons k ks => simp

theorem hostnamesCompatible_iff_rules {listenerHostname : Option String} {hostnames : List String} :
    hostnamesCompatible listenerHostname hostnames = true ↔
      (∀ h ∈ listenerHostname, h = "") ∨ hostnames = [] ∨
        ∃ h ∈ listenerHostname, ∃ h' ∈ hostnames, hostnameIntersects h h' = true := by
  cases listenerHostname with
  | none => simp [hostnamesCompatible]
  | some h =>
    simp only [hostnamesCompatible, mem_def, some.injEq, forall_eq', exists_eq_left']
    by_cases hempty : h = ""
    · simp [hempty]
    · cases hostnames with
      | nil => simp
      | cons h' hs => simp [hempty]

theorem admits_iff :
    (route.evalContext input gateway p).Admits l ↔ route.kind.Fits l.protocol ∧
      NamespaceAllowed l.allowedRoutes gateway.gwNs route.metadata.planNs
        input.snapshot.namespaceLabels ∧
      (∀ allowed ∈ l.allowedRoutes, allowed.kinds = [] ∨
        ∃ k ∈ allowed.kinds, (k.group = "" ∨ k.group = gatewayApiGroup) ∧
          k.kind = route.kind.asStr) ∧
      (route.kind ≠ .TCPRoute → (∀ h ∈ l.hostname, h = "") ∨ route.hostnames = [] ∨
        ∃ h ∈ l.hostname, ∃ h' ∈ route.hostnames, hostnameIntersects h h' = true) := by
  constructor
  · intro h
    have hns := h.ns
    have hkind := h.kind
    have hhostname := h.hostname
    rw [evalContext_gateway, evalContext_routeNamespace, evalContext_snapshot] at hns
    rw [evalContext_routeKind] at hkind
    rw [evalContext_routeHostnames, checkHostnameCompat_iff] at hhostname
    exact ⟨fits_iff.1 h.protocol, namespaceAllowed_iff.1 hns, kindAllowed_iff.1 hkind,
      fun hne => hostnamesCompatible_iff_rules.1 (hhostname hne)⟩
  · intro h
    obtain ⟨hfits, hns, hkind, hhostname⟩ := h
    refine ⟨fits_iff.2 hfits, ?_, ?_, ?_⟩
    · rw [evalContext_gateway, evalContext_routeNamespace, evalContext_snapshot]
      exact namespaceAllowed_iff.2 hns
    · rw [evalContext_routeKind]
      exact kindAllowed_iff.2 hkind
    · rw [evalContext_routeHostnames, checkHostnameCompat_iff]
      exact fun hne => hostnamesCompatible_iff_rules.2 (hhostname hne)

theorem selects_parentRef_iff (hnames : (gateway.spec.listeners.map Listener.name).Nodup)
    (hl : l ∈ gateway.spec.listeners) :
    (route.evalContext input gateway p).Selects l ↔
      (∀ sectionName ∈ p.sectionName, sectionName = l.name) ∧ ∀ port ∈ p.port, port = l.port := by
  have hports : (route.evalContext input gateway p).portMatches l = true ↔
      ∀ port ∈ p.port, port = l.port := by
    rw [RouteEvalContext.portMatches, evalContext_parentRefPort]
    simp only [all_eq_true, beq_iff_eq, mem_def]
    constructor
    · intro h port hp
      exact (h port hp).symm
    · intro h port hp
      exact (h port hp).symm
  constructor
  · intro h
    refine ⟨?_, hports.1 h.port⟩
    intro sectionName hsection
    have hfind := h.listener
    rw [evalContext_sectionName, evalContext_gateway, hsection] at hfind
    have hname := List.find?_some hfind
    exact (beq_iff_eq.1 hname).symm
  · rintro ⟨hsection, hport⟩
    refine ⟨?_, hports.2 hport⟩
    rw [evalContext_sectionName, evalContext_gateway]
    cases hsn : p.sectionName with
    | none => exact hl
    | some sn =>
      rw [hsection sn hsn]
      exact Check.find?_of_nodup_map hnames hl

theorem qualifies_iff (hnames : (gateway.spec.listeners.map Listener.name).Nodup)
    (hl : l ∈ gateway.spec.listeners) :
    (∃ p ∈ route.parentRefs, input.Targets route p = true ∧
      ∃ l', (route.evalContext input gateway p).Selects l' ∧
        (route.evalContext input gateway p).Admits l' ∧ l'.name = l.name) ↔
      Qualifies input gateway l route := by
  constructor
  · intro h
    obtain ⟨p, hp, htargets, l', hselects, hadmits, hname⟩ := h
    have hmem := hselects.mem
    rw [evalContext_gateway] at hmem
    obtain rfl := List.inj_on_of_nodup_map hnames hmem hl hname
    obtain ⟨hfits, hns, hkind, hhostname⟩ := admits_iff.1 hadmits
    exact ⟨⟨p, hp, targets_iff.1 htargets, (selects_parentRef_iff hnames hl).1 hselects⟩, hfits,
      hns, hkind, hhostname⟩
  · intro h
    obtain ⟨p, hp, htargets, hselects⟩ := h.parentRef
    exact ⟨p, hp, targets_iff.2 htargets, l, (selects_parentRef_iff hnames hl).2 hselects,
      admits_iff.2 ⟨h.protocol, h.ns, h.kind, h.hostname⟩, rfl⟩

end Rules

/-- The routes of the snapshot that qualify for the listener. -/
def qualifyingRoutes (input : AttachmentPlanInput) (gateway : Gateway) (l : Listener) : Set Route :=
  {route | (∃ key, input.snapshot.route key route.kind = some route) ∧
    Qualifies input gateway l route}

/-! ### The number of routes -/

def Route.countKey (route : Route) : String :=
  route.metadata.planNs ++ "/" ++ route.metadata.planName

section Numbers

variable {input : AttachmentPlanInput} {gateway : Gateway} {l : Listener}

theorem evaluated_iff {ctx : RouteEvalContext} :
    Evaluated input gateway ctx ↔ ∃ route p, (∃ key, input.snapshot.route key route.kind =
      some route) ∧ p ∈ route.parentRefs ∧ input.Targets route p = true ∧
        ctx = route.evalContext input gateway p := by
  constructor
  · intro h
    cases h with
    | @http key route p hroute hp htargets =>
      exact ⟨.http route, p, ⟨key, congrArg (Option.map http) hroute⟩, hp, htargets, rfl⟩
    | @tcp key route p hroute hp htargets =>
      exact ⟨.tcp route, p, ⟨key, congrArg (Option.map tcp) hroute⟩, hp, htargets, rfl⟩
    | @tls key route p hroute hp htargets =>
      exact ⟨.tls route, p, ⟨key, congrArg (Option.map tls) hroute⟩, hp, htargets, rfl⟩
  · intro h
    obtain ⟨route, p, ⟨key, hstored⟩, hp, htargets, rfl⟩ := h
    exact route.evaluated hstored hp htargets

theorem countKey_evalContext (route : Route) (p : ParentReference) :
    (route.evalContext input gateway p).countKey = route.countKey := by
  cases route with
  | http r => rfl
  | tcp r => rfl
  | tls r => rfl

theorem RouteKind.Fits.unique {kind kind' : RouteKind} {protocol : ProtocolType}
    (h : kind.Fits protocol) (h' : kind'.Fits protocol) : kind = kind' := by
  cases kind <;> cases kind' <;> cases protocol <;> simp_all [RouteKind.Fits]

theorem injOn_countKey (hkeyed : input.snapshot.KeyedRoutes) :
    Set.InjOn countKey (qualifyingRoutes input gateway l) := by
  have hkey : ∀ route key, input.snapshot.route key route.kind = some route →
      key = route.countKey := by
    intro route key hroute
    obtain ⟨ns, name, hns, hname, rfl⟩ := hkeyed route.kind key route hroute
    rw [countKey, ObjectMeta.planNs, ObjectMeta.planName, hns, hname]
    rfl
  intro route hroute route' hroute' hsame
  obtain ⟨⟨key, hstored⟩, hqualifies⟩ := hroute
  obtain ⟨⟨key', hstored'⟩, hqualifies'⟩ := hroute'
  rw [hkey _ _ hstored, hsame, hqualifies.protocol.unique hqualifies'.protocol] at hstored
  rw [hkey _ _ hstored'] at hstored'
  exact some.inj (hstored.symm.trans hstored')

theorem exists_attached_card (hkeyed : input.snapshot.KeyedRoutes)
    (hnames : (gateway.spec.listeners.map Listener.name).Nodup) (hl : l ∈ gateway.spec.listeners) :
    ∃ routes, (planState input gateway).listenerAttached.lookup l.name = some routes ∧
      routes.card = (qualifyingRoutes input gateway l).ncard := by
  obtain ⟨routes, hlookup, hmem⟩ := exists_attached input hl
  have himage : (routes : Set String) = countKey '' qualifyingRoutes input gateway l := by
    ext key
    rw [Finset.mem_coe, hmem]
    constructor
    · intro h
      obtain ⟨ctx, hctx, hkey, hcounted⟩ := h
      obtain ⟨route, p, hstored, hp, htargets, rfl⟩ := evaluated_iff.1 hctx
      rw [countKey_evalContext] at hkey
      exact ⟨route, ⟨hstored, (qualifies_iff hnames hl).1 ⟨p, hp, htargets, hcounted⟩⟩, hkey.symm⟩
    · intro h
      obtain ⟨route, ⟨hstored, hqualifies⟩, hkey⟩ := h
      obtain ⟨p, hp, htargets, hcounted⟩ := (qualifies_iff hnames hl).2 hqualifies
      exact ⟨_, evaluated_iff.2 ⟨route, p, hstored, hp, htargets, rfl⟩,
        by rw [countKey_evalContext, hkey], hcounted⟩
  refine ⟨routes, hlookup, ?_⟩
  rw [← Set.ncard_coe_finset, himage, Set.InjOn.ncard_image (injOn_countKey hkeyed)]

theorem listenerSummary_attachedRoutes (hkeyed : input.snapshot.KeyedRoutes)
    (hnames : (gateway.spec.listeners.map Listener.name).Nodup) (hl : l ∈ gateway.spec.listeners) :
    (listenerSummary (planState input gateway).listenerAttached l).attachedRoutes =
      UInt32.ofNat (qualifyingRoutes input gateway l).ncard := by
  obtain ⟨routes, hlookup, hcard⟩ := exists_attached_card hkeyed hnames hl
  rw [listenerSummary, hlookup, ← hcard]
  rfl

end Numbers

/-! ### The order of the maps -/

/-- The same entries in another order, as another run of the hash maps may give them. -/
structure PlannerSnapshot.Reordered (s s' : PlannerSnapshot) : Prop where
  gateways : s'.gateways.entries.Perm s.gateways.entries
  httpRoutes : s'.httpRoutes.entries.Perm s.httpRoutes.entries
  tcpRoutes : s'.tcpRoutes.entries.Perm s.tcpRoutes.entries
  tlsRoutes : s'.tlsRoutes.entries.Perm s.tlsRoutes.entries
  serviceEndpoints : s'.serviceEndpoints.entries.Perm s.serviceEndpoints.entries
  servicePresence : s'.servicePresence = s.servicePresence
  tlsSecrets : s'.tlsSecrets.entries.Perm s.tlsSecrets.entries
  referenceGrants : s'.referenceGrants.entries.Perm s.referenceGrants.entries
  namespaceLabels : s'.namespaceLabels.entries.Perm s.namespaceLabels.entries

theorem PlannerSnapshot.Reordered.agreeOn {s s' : PlannerSnapshot} (h : s.Reordered s')
    (gatewayNs gatewayName : String) : s.AgreeOn s' gatewayNs gatewayName where
  labels ns := perm_lookup h.namespaceLabels
  presence := h.servicePresence
  grants key := perm_lookup h.referenceGrants
  gateway := perm_lookup h.gateways
  http key route _ := by rw [perm_lookup h.httpRoutes]
  tcp key route _ := by rw [perm_lookup h.tcpRoutes]
  tls key route _ := by rw [perm_lookup h.tlsRoutes]
  endpoints key := perm_lookup h.serviceEndpoints

/-- **A listener reports the number of routes that qualify**, in 32 bits, and the plan does not
depend on the order of the maps. -/
theorem attachedRoutes_spec {input : AttachmentPlanInput} {gateway : Gateway}
    (hgateway : input.snapshot.gateway input.gatewayNamespace input.gatewayName = some gateway)
    (hkeyed : input.snapshot.KeyedRoutes)
    (hnames : (gateway.spec.listeners.map Listener.name).Nodup) :
    ∃ plan, attachmentPlan input = .ok plan ∧
      (∀ l ∈ gateway.spec.listeners,
        (∃ summary ∈ plan.listenerSummaries, summary.listenerName = l.name) ∧
        ∀ summary ∈ plan.listenerSummaries, summary.listenerName = l.name →
          summary.attachedRoutes = UInt32.ofNat (qualifyingRoutes input gateway l).ncard ∧
          ((qualifyingRoutes input gateway l).ncard < 2 ^ 32 →
            summary.attachedRoutes.toNat = (qualifyingRoutes input gateway l).ncard)) ∧
      ∀ s', input.snapshot.Reordered s' →
        attachmentPlan { input with snapshot := s' } = .ok plan := by
  have hplan : ∃ plan, attachmentPlan input = .ok plan ∧ ∀ summary,
      summary ∈ plan.listenerSummaries ↔ ∃ l ∈ gateway.spec.listeners,
        listenerSummary (planState input gateway).listenerAttached l = summary := by
    refine ⟨_, by rw [attachmentPlan, hgateway], ?_⟩
    intro summary
    rw [List.mem_insertionSort, List.mem_map]
  obtain ⟨plan, hplan, hsummaries⟩ := hplan
  refine ⟨plan, hplan, ?_, ?_⟩
  · intro l hl
    refine ⟨⟨_, (hsummaries _).2 ⟨l, hl, rfl⟩, rfl⟩, ?_⟩
    intro summary hsummary hname
    obtain ⟨l', hl', rfl⟩ := (hsummaries summary).1 hsummary
    obtain rfl := List.inj_on_of_nodup_map hnames hl' hl hname
    have hcount := listenerSummary_attachedRoutes hkeyed hnames hl
    refine ⟨hcount, ?_⟩
    intro hlt
    rw [hcount]
    exact UInt32.toNat_ofNat_of_lt hlt
  · intro s' hreordered
    rw [← hplan]
    exact attachmentPlan_congr (hreordered.agreeOn _ _) hkeyed

theorem unlabelledInput_keyedRoutes (expressions : List LabelSelectorRequirement) :
    (unlabelledInput expressions).snapshot.KeyedRoutes := by
  intro kind key route hroute
  cases kind with
  | HTTPRoute =>
    obtain ⟨r, hr, rfl⟩ := map_eq_some_iff.1 hroute
    have hmem := mem_entries.2 hr
    obtain ⟨rfl, rfl⟩ := Prod.mk.inj (List.mem_singleton.1 hmem)
    exact ⟨"team", "app", rfl, rfl, rfl⟩
  | TCPRoute => cases hroute
  | TLSRoute => cases hroute

theorem teamOnly_attachedRoutes :
    (attachmentPlan (unlabelledInput teamOnly)).map (fun plan =>
        plan.listenerSummaries.map fun summary => (summary.listenerName, summary.attachedRoutes)) =
      .ok [("http", 1)] ∧
    ∀ l ∈ (infraGateway (some (namespacesWhere teamOnly))).spec.listeners,
      UInt32.ofNat (qualifyingRoutes (unlabelledInput teamOnly)
        (infraGateway (some (namespacesWhere teamOnly))) l).ncard = 1 := by
  have hcomputed : (attachmentPlan (unlabelledInput teamOnly)).map (fun plan =>
      plan.listenerSummaries.map fun summary => (summary.listenerName, summary.attachedRoutes)) =
      .ok [("http", 1)] := by decide
  refine ⟨hcomputed, ?_⟩
  intro l hl
  obtain ⟨plan, hplan, hcounts, -⟩ := attachedRoutes_spec
    (show (unlabelledInput teamOnly).snapshot.gateway "infra" "gw" =
      some (infraGateway (some (namespacesWhere teamOnly))) from rfl)
    (unlabelledInput_keyedRoutes teamOnly) (by decide)
  rw [hplan] at hcomputed
  have hpairs : plan.listenerSummaries.map (fun summary =>
      (summary.listenerName, summary.attachedRoutes)) = [("http", 1)] := Except.ok.inj hcomputed
  obtain ⟨⟨summary, hsummary, hname⟩, hcount⟩ := hcounts l hl
  rw [← (hcount summary hsummary hname).1]
  have hpair : (summary.listenerName, summary.attachedRoutes) ∈ [("http", (1 : UInt32))] :=
    hpairs ▸ List.mem_map.2 ⟨summary, hsummary, rfl⟩
  exact congrArg Prod.snd (List.mem_singleton.1 hpair)

end Wicket
