/-
**The attachment planner.**

Every parent reference selects listeners, and each of them checks protocol, namespace policy, kind
policy and host names.  A backend that is missing or not permitted is reported, but the route stays
attached.
-/

import Wicket.Snapshot

namespace Wicket

open List

open KeyMap (HashMap)

/-! ### Results -/

inductive AttachmentStatus
  | Attached
  | NoMatchingParent
  | NotAllowedByListenerProtocol
  | NotAllowedByListenerNamespacePolicy
  | NotAllowedByListenerKindPolicy
  | NoMatchingListenerHostname
  | RefNotPermitted (routeNamespace targetNamespace targetName : String)
  | BackendNotFound (routeNamespace targetNamespace targetName : String)
  deriving DecidableEq

/-- The route counts as attached, possibly with an unresolved reference. -/
def AttachmentStatus.isAttached : AttachmentStatus → Bool
  | .Attached => true
  | .RefNotPermitted _ _ _ => true
  | .BackendNotFound _ _ _ => true
  | _ => false

structure RouteAttachmentResult where
  routeNamespace : String
  routeName : String
  routeKind : RouteKind
  listenerName : Option String
  parentRefSectionName : Option String
  parentRefPort : Option UInt16
  status : AttachmentStatus
  observedGeneration : ℤ
  deriving DecidableEq

structure ListenerAttachmentSummary where
  listenerName : String
  attachedRoutes : UInt32
  supportedKinds : List RouteGroupKind
  listenerAccepted : Bool
  listenerRejectionReason : Option String
  deriving DecidableEq

structure AttachmentPlan where
  gatewayNamespace : String
  gatewayName : String
  gatewayGeneration : ℤ
  routeResults : List RouteAttachmentResult
  listenerSummaries : List ListenerAttachmentSummary
  deriving DecidableEq

structure AttachmentPlanInput where
  gatewayNamespace : String
  gatewayName : String
  gatewayGeneration : ℤ
  snapshot : PlannerSnapshot

inductive PlanError
  | MissingField (field : String)
  | InvalidInput (reason : String)
  deriving DecidableEq

/-! ### Protocols and host names -/

def listenerAcceptance : ProtocolType → Bool × Option String × List RouteGroupKind
  | .HTTP | .HTTPS => (true, none, [{ group := gatewayApiGroup, kind := "HTTPRoute" }])
  | .TCP => (true, none, [{ group := gatewayApiGroup, kind := "TCPRoute" }])
  | .TLS => (true, none, [{ group := gatewayApiGroup, kind := "TLSRoute" }])
  | .UDP =>
    (false, some "UnsupportedProtocol: UDP listeners are not supported by this controller", [])

def isProtocolCompatibleHttp (p : ProtocolType) : Bool := p == .HTTP || p == .HTTPS

def isProtocolCompatibleTcp (p : ProtocolType) : Bool := p == .TCP

def isProtocolCompatibleTls (p : ProtocolType) : Bool := p == .TLS

/-- Whether `b` is one label below the wildcard `a`; undecided when `a` is no wildcard, `b` is one,
or `b` does not end like `a`. -/
def wildcardVerdict (a b : String) : Option Bool :=
  match Text.stripPrefix a "*." with
  | none => none
  | some suffix =>
    if Text.startsWith b "*." then none
    else (Text.stripSuffix b ("." ++ suffix)).map fun label =>
      label != "" && !Text.hasChar label '.'

def hostnameIntersects (a b : String) : Bool :=
  if a == b then true
  else
    match wildcardVerdict a b with
    -- a verdict against the pair is final too: the other direction is not tried
    | some verdict => verdict
    | none => (wildcardVerdict b a).getD false

def hostnamesCompatible (listenerHostname : Option String) (routeHostnames : List String) : Bool :=
  match listenerHostname with
  | none => true
  | some listenerHost =>
    if listenerHost == "" then true
    else if routeHostnames.isEmpty then true
    else routeHostnames.any (hostnameIntersects listenerHost)

/-! ### Namespace and kind policies -/

def LabelSelectorRequirement.matches_ (req : LabelSelectorRequirement)
    (labels : Std.TreeMap String String) : Bool :=
  if req.operator == "In" then labels[req.key]?.any req.values.contains
  else if req.operator == "NotIn" then labels[req.key]?.all fun v => !req.values.contains v
  else if req.operator == "Exists" then labels.contains req.key
  else if req.operator == "DoesNotExist" then !labels.contains req.key
  else false

def labelSelectorMatches (selector : LabelSelector) (labels : Std.TreeMap String String) : Bool :=
  (selector.matchLabels.all fun required =>
    required.toList.all fun e => labels[e.1]? == some e.2) &&
    selector.matchExpressions.all fun req => req.matches_ labels

def namespaceNameLabel : String := "kubernetes.io/metadata.name"

def namespaceAllowed (allowedRoutes : Option AllowedRoutes) (gatewayNs routeNs : String)
    (namespaceLabels : HashMap String (Std.TreeMap String String)) : Bool :=
  let nsConfig := allowedRoutes.bind AllowedRoutes.namespaces
  match (nsConfig.map RouteNamespaces.from_).getD .Same with
  | .All => true
  | .Same => routeNs == gatewayNs
  | .Selector =>
    match nsConfig.bind RouteNamespaces.selector with
    | none => false
    -- the labels of an unknown namespace are just its name
    | some selector =>
      labelSelectorMatches selector
        (((namespaceLabels.lookup routeNs).getD ∅).insert namespaceNameLabel routeNs)

def kindAllowed (allowedRoutes : Option AllowedRoutes) (routeKind : RouteKind) : Bool :=
  let kinds := (allowedRoutes.map AllowedRoutes.kinds).getD []
  if kinds.isEmpty then true
  else kinds.any fun k =>
    (k.group == "" || k.group == gatewayApiGroup) && k.kind == routeKind.asStr

/-! ### Backend references -/

def BackendRef.isCoreService (b : BackendRef) : Bool :=
  (b.kind == "" || b.kind == "Service") && b.group == ""

def backendRefPermitted (s : PlannerSnapshot) (routeKindStr routeNs : String) (b : BackendRef) :
    Bool :=
  (s.referenceGrantsInNamespace (b.nsOr routeNs)).any fun g =>
    g.allowsServiceReference gatewayApiGroup routeKindStr routeNs (some b.name)

/-- Why a backend reference is not resolved.  References to other kinds are not looked at. -/
def unresolvedBackendRef (s : PlannerSnapshot) (routeKindStr routeNs : String) (b : BackendRef) :
    Option AttachmentStatus :=
  if !b.isCoreService then none
  else if b.nsOr routeNs == routeNs then
    -- only here is the Service looked up; across namespaces the grant alone decides
    if GatewayState.key (b.nsOr routeNs) b.name ∉ s.servicePresence then
      some (.BackendNotFound routeNs (b.nsOr routeNs) b.name)
    else none
  else if !backendRefPermitted s routeKindStr routeNs b then
    some (.RefNotPermitted routeNs (b.nsOr routeNs) b.name)
  else none

def firstUnresolvedBackendRefForKind (s : PlannerSnapshot) (routeKindStr routeNs : String)
    (backendRefs : List BackendRef) : Option AttachmentStatus :=
  backendRefs.findSome? (unresolvedBackendRef s routeKindStr routeNs)

variable {s : PlannerSnapshot}

theorem unresolvedBackendRef_cases {routeKindStr routeNs : String} {b : BackendRef}
    {status : AttachmentStatus} (h : unresolvedBackendRef s routeKindStr routeNs b = some status) :
    b.isCoreService = true ∧
      ((b.nsOr routeNs = routeNs ∧ GatewayState.key (b.nsOr routeNs) b.name ∉ s.servicePresence ∧
          status = .BackendNotFound routeNs (b.nsOr routeNs) b.name) ∨
        (b.nsOr routeNs ≠ routeNs ∧ backendRefPermitted s routeKindStr routeNs b = false ∧
          status = .RefNotPermitted routeNs (b.nsOr routeNs) b.name)) := by
  simp only [unresolvedBackendRef] at h
  split at h
  · cases h
  · rename_i hcore
    refine ⟨by simpa using hcore, ?_⟩
    split at h
    · rename_i hstays
      split at h
      · rename_i hmissing
        exact .inl ⟨beq_iff_eq.1 hstays, hmissing, (Option.some.inj h).symm⟩
      · cases h
    · rename_i hleaves
      split at h
      · rename_i hrefused
        exact .inr ⟨by simpa using hleaves, by simpa using hrefused, (Option.some.inj h).symm⟩
      · cases h

theorem isAttached_of_unresolved {routeKindStr routeNs : String} {refs : List BackendRef}
    {status : AttachmentStatus}
    (h : firstUnresolvedBackendRefForKind s routeKindStr routeNs refs = some status) :
    status.isAttached = true := by
  obtain ⟨b, -, hb⟩ := exists_of_findSome?_eq_some h
  obtain ⟨-, ⟨-, -, rfl⟩ | ⟨-, -, rfl⟩⟩ := unresolvedBackendRef_cases hb
  · rfl
  · rfl

/-! ### One parent reference -/

structure RouteEvalContext where
  gateway : Gateway
  routeNamespace : String
  routeName : String
  routeKind : RouteKind
  routeHostnames : List String
  sectionName : Option String
  parentRefPort : Option UInt16
  snapshot : PlannerSnapshot
  backendRefs : List BackendRef
  observedGeneration : ℤ
  protocolCompat : ProtocolType → Bool
  checkHostnameCompat : Bool

namespace RouteEvalContext

def result (ctx : RouteEvalContext) (listenerName : Option String) (status : AttachmentStatus) :
    RouteAttachmentResult where
  routeNamespace := ctx.routeNamespace
  routeName := ctx.routeName
  routeKind := ctx.routeKind
  listenerName := listenerName
  parentRefSectionName := ctx.sectionName
  parentRefPort := ctx.parentRefPort
  status := status
  observedGeneration := ctx.observedGeneration

def checkListener (ctx : RouteEvalContext) (l : Listener) : AttachmentStatus :=
  if !ctx.protocolCompat l.protocol then .NotAllowedByListenerProtocol
  else if !namespaceAllowed l.allowedRoutes ctx.gateway.gwNs ctx.routeNamespace
      ctx.snapshot.namespaceLabels then .NotAllowedByListenerNamespacePolicy
  else if !kindAllowed l.allowedRoutes ctx.routeKind then .NotAllowedByListenerKindPolicy
  else if ctx.checkHostnameCompat && !hostnamesCompatible l.hostname ctx.routeHostnames then
    .NoMatchingListenerHostname
  else
    (firstUnresolvedBackendRefForKind ctx.snapshot ctx.routeKind.asStr ctx.routeNamespace
      ctx.backendRefs).getD .Attached

def portMatches (ctx : RouteEvalContext) (l : Listener) : Bool :=
  ctx.parentRefPort.all fun p => l.port == p

end RouteEvalContext

def evaluateRouteAttachmentInner (ctx : RouteEvalContext) : List RouteAttachmentResult :=
  match ctx.sectionName with
  | some sn =>
    match ctx.gateway.spec.listeners.find? fun l => l.name == sn with
    -- a listener of this name with another port is not looked for any further
    | some l =>
      if ctx.portMatches l then [ctx.result (some l.name) (ctx.checkListener l)]
      else [ctx.result (some sn) .NoMatchingParent]
    | none => [ctx.result (some sn) .NoMatchingParent]
  | none =>
    let listeners := ctx.gateway.spec.listeners.filter ctx.portMatches
    if listeners.isEmpty then [ctx.result none .NoMatchingParent]
    else listeners.map fun l => ctx.result (some l.name) (ctx.checkListener l)

namespace RouteEvalContext

/-- The parent reference selects the listener: the first with its section name, or any, and in both
cases one with its port. -/
structure Selects (ctx : RouteEvalContext) (l : Listener) : Prop where
  listener : match ctx.sectionName with
    | some sn => ctx.gateway.spec.listeners.find? (fun l => l.name == sn) = some l
    | none => l ∈ ctx.gateway.spec.listeners
  port : ctx.portMatches l = true

structure Admits (ctx : RouteEvalContext) (l : Listener) : Prop where
  protocol : ctx.protocolCompat l.protocol = true
  ns : namespaceAllowed l.allowedRoutes ctx.gateway.gwNs ctx.routeNamespace
    ctx.snapshot.namespaceLabels = true
  kind : kindAllowed l.allowedRoutes ctx.routeKind = true
  hostname : ctx.checkHostnameCompat = true →
    hostnamesCompatible l.hostname ctx.routeHostnames = true

theorem Admits.checkListener {ctx : RouteEvalContext} {l : Listener} (h : ctx.Admits l) :
    ctx.checkListener l = (firstUnresolvedBackendRefForKind ctx.snapshot ctx.routeKind.asStr
      ctx.routeNamespace ctx.backendRefs).getD .Attached := by
  have hhost : (ctx.checkHostnameCompat &&
      !hostnamesCompatible l.hostname ctx.routeHostnames) = false := by
    cases hcheck : ctx.checkHostnameCompat with
    | false => rfl
    | true => simp [h.hostname hcheck]
  simp [RouteEvalContext.checkListener, h.protocol, h.ns, h.kind, hhost]

theorem isAttached_checkListener {ctx : RouteEvalContext} {l : Listener} :
    (ctx.checkListener l).isAttached = true ↔ ctx.Admits l := by
  constructor
  · intro h
    rw [checkListener] at h
    split at h
    · cases h
    · rename_i hprotocol
      split at h
      · cases h
      · rename_i hns
        split at h
        · cases h
        · rename_i hkind
          split at h
          · cases h
          · rename_i hhost
            exact ⟨by simpa using hprotocol, by simpa using hns, by simpa using hkind,
              by simpa using hhost⟩
  · intro h
    rw [h.checkListener]
    -- a reference that is not resolved does not detach the route
    cases hfirst : firstUnresolvedBackendRefForKind ctx.snapshot ctx.routeKind.asStr
        ctx.routeNamespace ctx.backendRefs with
    | none => rfl
    | some status => exact isAttached_of_unresolved hfirst

end RouteEvalContext

structure RouteAttachmentResult.AttachedTo (res : RouteAttachmentResult) (gateway : Gateway) :
    Prop where
  status : res.status.isAttached = true
  listener : ∃ l ∈ gateway.spec.listeners, res.listenerName = some l.name

variable {ctx : RouteEvalContext}

theorem RouteEvalContext.Selects.mem {l : Listener} (h : ctx.Selects l) :
    l ∈ ctx.gateway.spec.listeners := by
  have hl := h.listener
  cases hsection : ctx.sectionName with
  | some sn =>
    rw [hsection] at hl
    exact mem_of_find?_eq_some hl
  | none =>
    rw [hsection] at hl
    exact hl

variable {res : RouteAttachmentResult}

theorem mem_evaluate_attached :
    res ∈ evaluateRouteAttachmentInner ctx ∧ res.status.isAttached = true ↔
      ∃ l, ctx.Selects l ∧ ctx.Admits l ∧ res = ctx.result (some l.name) (ctx.checkListener l) := by
  simp only [← RouteEvalContext.isAttached_checkListener]
  rw [evaluateRouteAttachmentInner]
  -- a section name selects one listener at most, its absence all of them
  cases hsection : ctx.sectionName with
  | some sn =>
    constructor
    · rintro ⟨hres, hattached⟩
      simp only at hres
      split at hres
      · rename_i l hl
        split at hres
        · rename_i hport
          obtain rfl := mem_singleton.1 hres
          exact ⟨l, ⟨by simpa [hsection] using hl, hport⟩, hattached, rfl⟩
        · obtain rfl := mem_singleton.1 hres
          cases hattached
      · obtain rfl := mem_singleton.1 hres
        cases hattached
    · rintro ⟨l, hselects, hattached, rfl⟩
      have hl := hselects.listener
      rw [hsection] at hl
      exact ⟨by simp [hl, hselects.port], hattached⟩
  | none =>
    constructor
    · rintro ⟨hres, hattached⟩
      simp only at hres
      split at hres
      · obtain rfl := mem_singleton.1 hres
        cases hattached
      · obtain ⟨l, hl, rfl⟩ := mem_map.1 hres
        obtain ⟨hmem, hport⟩ := mem_filter.1 hl
        exact ⟨l, ⟨by simpa [hsection] using hmem, hport⟩, hattached, rfl⟩
    · rintro ⟨l, hselects, hattached, rfl⟩
      have hmem : l ∈ ctx.gateway.spec.listeners.filter ctx.portMatches :=
        mem_filter.2 ⟨hselects.mem, hselects.port⟩
      refine ⟨?_, hattached⟩
      simp only [List.isEmpty_iff, List.ne_nil_of_mem hmem, if_false]
      exact List.mem_map.2 ⟨l, hmem, rfl⟩

/-- **A parent reference is attached exactly when it selects a listener that admits the route.** -/
theorem exists_attached_iff {ctx : RouteEvalContext} :
    (∃ res ∈ evaluateRouteAttachmentInner ctx, res.AttachedTo ctx.gateway) ↔
      ∃ l, ctx.Selects l ∧ ctx.Admits l := by
  constructor
  · rintro ⟨res, hres, hattached, -⟩
    obtain ⟨l, hselects, hadmits, -⟩ := mem_evaluate_attached.1 ⟨hres, hattached⟩
    exact ⟨l, hselects, hadmits⟩
  · rintro ⟨l, hselects, hadmits⟩
    obtain ⟨hmem, hattached⟩ := mem_evaluate_attached.2 ⟨l, hselects, hadmits, rfl⟩
    exact ⟨_, hmem, hattached, l, hselects.mem, rfl⟩

theorem eq_result_of_mem_evaluate (h : res ∈ evaluateRouteAttachmentInner ctx) :
    ∃ listenerName status, res = ctx.result listenerName status := by
  rw [evaluateRouteAttachmentInner] at h
  split at h
  · split at h
    · split at h <;> exact ⟨_, _, mem_singleton.1 h⟩
    · exact ⟨_, _, mem_singleton.1 h⟩
  · simp only at h
    split at h
    · exact ⟨_, _, mem_singleton.1 h⟩
    · obtain ⟨l, -, rfl⟩ := mem_map.1 h
      exact ⟨_, _, rfl⟩

theorem route_of_mem_evaluate (h : res ∈ evaluateRouteAttachmentInner ctx) :
    res.routeKind = ctx.routeKind ∧ res.routeNamespace = ctx.routeNamespace ∧
      res.routeName = ctx.routeName := by
  obtain ⟨listenerName, status, rfl⟩ := eq_result_of_mem_evaluate h
  exact ⟨rfl, rfl, rfl⟩

/-! ### What an evaluation reads of the snapshot -/

structure PlannerSnapshot.SamePolicies (s s' : PlannerSnapshot) : Prop where
  labels : ∀ ns, s'.namespaceLabels.lookup ns = s.namespaceLabels.lookup ns
  presence : s'.servicePresence = s.servicePresence
  grants : ∀ key, s'.referenceGrants.lookup key = s.referenceGrants.lookup key

theorem unresolvedBackendRef_congr {s' : PlannerSnapshot} (h : s.SamePolicies s')
    (routeKindStr routeNs : String) (b : BackendRef) :
    unresolvedBackendRef s' routeKindStr routeNs b =
      unresolvedBackendRef s routeKindStr routeNs b := by
  have hpermitted : backendRefPermitted s' routeKindStr routeNs b =
      backendRefPermitted s routeKindStr routeNs b := by
    rw [Bool.eq_iff_iff]
    simp [backendRefPermitted, PlannerSnapshot.mem_referenceGrantsInNamespace, h.grants]
  rw [unresolvedBackendRef, unresolvedBackendRef, hpermitted, h.presence]

theorem RouteEvalContext.checkListener_congr {s' : PlannerSnapshot}
    (h : ctx.snapshot.SamePolicies s') (l : Listener) :
    checkListener { ctx with snapshot := s' } l = ctx.checkListener l := by
  have hns : namespaceAllowed l.allowedRoutes ctx.gateway.gwNs ctx.routeNamespace
      s'.namespaceLabels = namespaceAllowed l.allowedRoutes ctx.gateway.gwNs ctx.routeNamespace
        ctx.snapshot.namespaceLabels := by
    rw [namespaceAllowed, namespaceAllowed, h.labels]
  have hrefs : firstUnresolvedBackendRefForKind s' ctx.routeKind.asStr ctx.routeNamespace
      ctx.backendRefs = firstUnresolvedBackendRefForKind ctx.snapshot ctx.routeKind.asStr
        ctx.routeNamespace ctx.backendRefs := by
    rw [firstUnresolvedBackendRefForKind, firstUnresolvedBackendRefForKind,
      funext (unresolvedBackendRef_congr h _ _)]
  simp only [checkListener, hns, hrefs]

theorem evaluate_congr {ctx : RouteEvalContext} {s' : PlannerSnapshot}
    (h : ctx.snapshot.SamePolicies s') :
    evaluateRouteAttachmentInner { ctx with snapshot := s' } =
      evaluateRouteAttachmentInner ctx := by
  have hcheck := funext (RouteEvalContext.checkListener_congr h)
  rw [evaluateRouteAttachmentInner, evaluateRouteAttachmentInner, hcheck]
  rfl

/-! ### The members of the family of route kinds -/

def ObjectMeta.planNs (m : ObjectMeta) : String := m.ns.getD "default"

def ObjectMeta.planName (m : ObjectMeta) : String := m.name.getD ""

/-- The context of a parent reference; what depends on the kind of the route comes last. -/
@[simp] def evalContextOf (input : AttachmentPlanInput) (gateway : Gateway) (metadata : ObjectMeta)
    (p : ParentReference) (kind : RouteKind) (hostnames : List String) (refs : List BackendRef)
    (compat : ProtocolType → Bool) (checkHostname : Bool) : RouteEvalContext where
  gateway := gateway
  routeNamespace := metadata.planNs
  routeName := metadata.planName
  routeKind := kind
  routeHostnames := hostnames
  sectionName := p.sectionName
  parentRefPort := p.port
  snapshot := input.snapshot
  backendRefs := refs
  observedGeneration := input.gatewayGeneration
  protocolCompat := compat
  checkHostnameCompat := checkHostname

variable (input : AttachmentPlanInput) (gateway : Gateway)

def httpEvalContext (route : HTTPRoute) (p : ParentReference) : RouteEvalContext :=
  evalContextOf input gateway route.metadata p .HTTPRoute route.spec.hostnames route.backendRefs
    isProtocolCompatibleHttp true

/-- Hostnames do not count for a TCPRoute. -/
def tcpEvalContext (route : TCPRoute) (p : ParentReference) : RouteEvalContext :=
  evalContextOf input gateway route.metadata p .TCPRoute [] route.backendRefs
    isProtocolCompatibleTcp false

def tlsEvalContext (route : TLSRoute) (p : ParentReference) : RouteEvalContext :=
  evalContextOf input gateway route.metadata p .TLSRoute route.spec.hostnames route.backendRefs
    isProtocolCompatibleTls true

/-! ### The plan -/

structure PlanState where
  listenerAttached : HashMap String (Finset String)
  routeResults : List RouteAttachmentResult

def countRoute (routeKey : String) (attached : HashMap String (Finset String))
    (listenerName : String) : HashMap String (Finset String) :=
  match attached.lookup listenerName with
  | some routes => attached.insert listenerName (insert routeKey routes)
  | none => attached

def countResult (ctx : RouteEvalContext) (attached : HashMap String (Finset String))
    (res : RouteAttachmentResult) : HashMap String (Finset String) :=
  let routeKey := ctx.routeNamespace ++ "/" ++ ctx.routeName
  if !res.status.isAttached then attached
  else
    match res.listenerName with
    | some ln => countRoute routeKey attached ln
    | none =>
      ((ctx.gateway.spec.listeners.filter fun l => ctx.protocolCompat l.protocol).map
        Listener.name).foldl (countRoute routeKey) attached

def planParentRef (input : AttachmentPlanInput) (context : ParentReference → RouteEvalContext)
    (st : PlanState) (p : ParentReference) : PlanState :=
  let ctx := context p
  if !parentRefTargetsGateway ctx.routeNamespace p input.gatewayNamespace input.gatewayName then st
  else
    let results := evaluateRouteAttachmentInner ctx
    { listenerAttached := results.foldl (countResult ctx) st.listenerAttached
      routeResults := st.routeResults ++ results }

def planRoutes {ρ : Type} (input : AttachmentPlanInput)
    (context : ρ → ParentReference → RouteEvalContext) (parentRefs : ρ → List ParentReference)
    (routes : List ρ) (st : PlanState) : PlanState :=
  routes.foldl (fun st route =>
    (parentRefs route).foldl (planParentRef input (context route)) st) st

def RouteAttachmentResult.cmp (a b : RouteAttachmentResult) : Ordering :=
  (compare a.routeNamespace b.routeNamespace).then <|
    (compare a.routeName b.routeName).then <|
      (compare a.routeKind.ctorIdx b.routeKind.ctorIdx).then <|
        (compare a.listenerName b.listenerName).then <|
          compare (a.parentRefPort.map UInt16.toNat) (b.parentRefPort.map UInt16.toNat)

def listenerSummary (attached : HashMap String (Finset String)) (l : Listener) :
    ListenerAttachmentSummary where
  listenerName := l.name
  attachedRoutes := ((attached.lookup l.name).map fun routes => UInt32.ofNat routes.card).getD 0
  supportedKinds := (listenerAcceptance l.protocol).2.2
  listenerAccepted := (listenerAcceptance l.protocol).1
  listenerRejectionReason := (listenerAcceptance l.protocol).2.1

def planState (input : AttachmentPlanInput) (gateway : Gateway) : PlanState :=
  let s := input.snapshot
  let ns := input.gatewayNamespace
  let name := input.gatewayName
  let start : PlanState :=
    { listenerAttached := KeyMap.collect (gateway.spec.listeners.map fun l => (l.name, ∅))
      routeResults := [] }
  planRoutes input (tlsEvalContext input gateway) (fun r => r.spec.parentRefs)
    (s.tlsRoutesForGateway ns name) <|
  planRoutes input (tcpEvalContext input gateway) (fun r => r.spec.parentRefs)
    (s.tcpRoutesForGateway ns name) <|
  planRoutes input (httpEvalContext input gateway) (fun r => r.spec.parentRefs)
    (s.httpRoutesForGateway ns name) start

def attachmentPlan (input : AttachmentPlanInput) : Except PlanError AttachmentPlan :=
  match input.snapshot.gateway input.gatewayNamespace input.gatewayName with
  | none => .error (.MissingField "gateway (not found in snapshot)")
  | some gateway =>
    let st := planState input gateway
    .ok {
      gatewayNamespace := input.gatewayNamespace
      gatewayName := input.gatewayName
      gatewayGeneration := input.gatewayGeneration
      routeResults := st.routeResults.insertionSort fun a b => (a.cmp b).isLE = true
      listenerSummaries := (gateway.spec.listeners.map
        (listenerSummary st.listenerAttached)).insertionSort
          fun a b => a.listenerName ≤ b.listenerName }

theorem planParentRef_routeResults (input : AttachmentPlanInput)
    (context : ParentReference → RouteEvalContext) (refs : List ParentReference) (st : PlanState) :
    (refs.foldl (planParentRef input context) st).routeResults = st.routeResults ++
      (refs.filter fun p => parentRefTargetsGateway (context p).routeNamespace p
        input.gatewayNamespace input.gatewayName).flatMap fun p =>
          evaluateRouteAttachmentInner (context p) := by
  induction refs generalizing st with
  | nil => simp
  | cons p refs ih =>
    rw [foldl_cons, ih, planParentRef, filter_cons]
    cases parentRefTargetsGateway (context p).routeNamespace p input.gatewayNamespace
      input.gatewayName <;> simp

variable {ρ : Type}

theorem planRoutes_routeResults (input : AttachmentPlanInput)
    (context : ρ → ParentReference → RouteEvalContext) (parentRefs : ρ → List ParentReference)
    (routes : List ρ) (st : PlanState) :
    (planRoutes input context parentRefs routes st).routeResults = st.routeResults ++
      routes.flatMap fun route => ((parentRefs route).filter fun p =>
        parentRefTargetsGateway (context route p).routeNamespace p input.gatewayNamespace
          input.gatewayName).flatMap fun p => evaluateRouteAttachmentInner (context route p) := by
  induction routes generalizing st with
  | nil => simp [planRoutes]
  | cons route routes ih =>
    refine Eq.trans (ih _) ?_
    rw [planParentRef_routeResults, flatMap_cons, append_assoc]

variable {input : AttachmentPlanInput}

theorem mem_planRoutes
    {context : ρ → ParentReference → RouteEvalContext} {parentRefs : ρ → List ParentReference}
    (routes : List ρ) {st : PlanState} :
    res ∈ (planRoutes input context parentRefs routes st).routeResults ↔
      res ∈ st.routeResults ∨ ∃ route ∈ routes, ∃ p ∈ parentRefs route,
        parentRefTargetsGateway (context route p).routeNamespace p input.gatewayNamespace
          input.gatewayName = true ∧ res ∈ evaluateRouteAttachmentInner (context route p) := by
  rw [planRoutes_routeResults, mem_append]
  simp [and_assoc]

inductive Evaluated (input : AttachmentPlanInput) (gateway : Gateway) : RouteEvalContext → Prop
  | http {key : String} {route : HTTPRoute} {p : ParentReference}
      (hroute : input.snapshot.httpRoutes.lookup key = some route) (hp : p ∈ route.spec.parentRefs)
      (htargets : parentRefTargetsGateway route.metadata.planNs p input.gatewayNamespace
        input.gatewayName = true) :
      Evaluated input gateway (httpEvalContext input gateway route p)
  | tcp {key : String} {route : TCPRoute} {p : ParentReference}
      (hroute : input.snapshot.tcpRoutes.lookup key = some route) (hp : p ∈ route.spec.parentRefs)
      (htargets : parentRefTargetsGateway route.metadata.planNs p input.gatewayNamespace
        input.gatewayName = true) :
      Evaluated input gateway (tcpEvalContext input gateway route p)
  | tls {key : String} {route : TLSRoute} {p : ParentReference}
      (hroute : input.snapshot.tlsRoutes.lookup key = some route) (hp : p ∈ route.spec.parentRefs)
      (htargets : parentRefTargetsGateway route.metadata.planNs p input.gatewayNamespace
        input.gatewayName = true) :
      Evaluated input gateway (tlsEvalContext input gateway route p)

theorem mem_routesForGateway_of_targets {metadata : ρ → ObjectMeta}
    {parentRefs : ρ → List ParentReference} {routes : HashMap String ρ}
    {gatewayNs gatewayName key : String} {r : ρ} {p : ParentReference}
    (hr : routes.lookup key = some r) (hp : p ∈ parentRefs r)
    (htargets : parentRefTargetsGateway (metadata r).planNs p gatewayNs gatewayName = true) :
    r ∈ routesForGateway metadata parentRefs routes gatewayNs gatewayName :=
  mem_routesForGateway.2 ⟨⟨key, hr⟩, any_eq_true.2 ⟨p, hp, htargets⟩⟩

theorem mem_planState {gateway : Gateway} :
    res ∈ (planState input gateway).routeResults ↔
      ∃ ctx, Evaluated input gateway ctx ∧ res ∈ evaluateRouteAttachmentInner ctx := by
  -- the plan starts empty and takes HTTPRoutes, TCPRoutes and TLSRoutes in this order
  simp only [planState, mem_planRoutes]
  constructor
  · rintro (((h | ⟨r, hr, p, hp, ht, hres⟩) | ⟨r, hr, p, hp, ht, hres⟩) | ⟨r, hr, p, hp, ht, hres⟩)
    · cases h
    · obtain ⟨⟨key, hkey⟩, -⟩ := mem_routesForGateway.1 hr
      exact ⟨_, .http hkey hp ht, hres⟩
    · obtain ⟨⟨key, hkey⟩, -⟩ := mem_routesForGateway.1 hr
      exact ⟨_, .tcp hkey hp ht, hres⟩
    · obtain ⟨⟨key, hkey⟩, -⟩ := mem_routesForGateway.1 hr
      exact ⟨_, .tls hkey hp ht, hres⟩
  · rintro ⟨ctx, hctx, hres⟩
    cases hctx with
    | @http key r p hkey hp ht =>
      exact Or.inl (Or.inl (Or.inr
        ⟨r, mem_routesForGateway_of_targets hkey hp ht, p, hp, ht, hres⟩))
    | @tcp key r p hkey hp ht =>
      exact Or.inl (Or.inr ⟨r, mem_routesForGateway_of_targets hkey hp ht, p, hp, ht, hres⟩)
    | @tls key r p hkey hp ht =>
      exact Or.inr ⟨r, mem_routesForGateway_of_targets hkey hp ht, p, hp, ht, hres⟩

theorem exists_attachmentPlan {gateway : Gateway}
    (h : input.snapshot.gateway input.gatewayNamespace input.gatewayName = some gateway) :
    ∃ plan, attachmentPlan input = .ok plan ∧ ∀ res, res ∈ plan.routeResults ↔
      ∃ ctx, Evaluated input gateway ctx ∧ res ∈ evaluateRouteAttachmentInner ctx := by
  refine ⟨_, by rw [attachmentPlan, h], ?_⟩
  intro res
  rw [mem_insertionSort, mem_planState]

end Wicket
