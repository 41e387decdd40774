/-
**Who answers for a route.**

For a reference with a section name a reconciler reads the result of the HTTPRoute under the key of
its own route, or else of the TCPRoute, or else of the TLSRoute.
-/

import Wicket.GatewayWide

namespace Wicket

open Option AttachmentStatus Condition RouteEvalContext Route

open KeyMap (HashMap)

/-! ### The condition for a result -/

def AttachmentStatus.acceptedCondition (status : AttachmentStatus) : Condition :=
  if status.isAttached then .accepted
  else .new "Accepted" false status.acceptedReason (attachmentStatusMessage status)

theorem conditionFromPlan_fst (compat : ProtocolType → Bool) (plan : AttachmentPlan)
    (gateway : Gateway) (routeNs routeName sectionName : String) (port : Option UInt16) :
    (conditionFromPlan compat plan gateway routeNs routeName sectionName port).1 =
      match plan.resultForRouteParentRef routeNs routeName sectionName port with
      | some r => r.status.acceptedCondition
      | none => onlyConditionFromSpec compat gateway sectionName port := by
  rw [conditionFromPlan]
  cases plan.resultForRouteParentRef routeNs routeName sectionName port with
  | none => rfl
  | some r =>
    simp only [acceptedCondition]
    split <;> rfl

theorem AttachmentStatus.acceptedCondition_inj {v w : AttachmentStatus} :
    v.acceptedCondition = w.acceptedCondition ↔ v.acceptedReason = w.acceptedReason := by
  cases v <;> cases w <;> simp [acceptedCondition, acceptedReason, isAttached, accepted,
    new, attachmentStatusMessage]

/-! ### The context whose result is read -/

def Route.answer (input : AttachmentPlanInput) (gateway : Gateway) (ns name : String)
    (p : ParentReference) (route : Route) : Option RouteEvalContext :=
  if route.metadata.planNs == ns && route.metadata.planName == name && route.parentRefs.any
      fun q => input.Targets route q && q.sectionName == p.sectionName && q.port == p.port then
    some (route.evalContext input gateway p)
  else none

def answering (input : AttachmentPlanInput) (gateway : Gateway) (ns name : String)
    (p : ParentReference) : Option RouteEvalContext :=
  let key := GatewayState.key ns name
  (((input.snapshot.route key .HTTPRoute).bind (Route.answer input gateway ns name p)).or
    ((input.snapshot.route key .TCPRoute).bind (Route.answer input gateway ns name p))).or
    ((input.snapshot.route key .TLSRoute).bind (Route.answer input gateway ns name p))

def PlannerSnapshot.KeyedRoutes (s : PlannerSnapshot) : Prop :=
  ∀ kind key route, s.route key kind = some route → route.metadata.KeyedBy key

section Keyed

variable {input : AttachmentPlanInput} {gateway : Gateway} {ns name sectionName : String}
  {p : ParentReference}

theorem Route.evalContext_congr (route : Route) {p q : ParentReference}
    (hsection : q.sectionName = p.sectionName) (hport : q.port = p.port) :
    route.evalContext input gateway q = route.evalContext input gateway p := by
  cases route <;>
    simp only [evalContext, evalContextOf, httpEvalContext, tcpEvalContext, tlsEvalContext,
      hsection, hport]

theorem Route.answer_eq_some {route : Route} {ctx : RouteEvalContext} :
    route.answer input gateway ns name p = some ctx ↔
      (route.metadata.planNs = ns ∧ route.metadata.planName = name ∧ ∃ q ∈ route.parentRefs,
        input.Targets route q = true ∧ q.sectionName = p.sectionName ∧ q.port = p.port) ∧
      ctx = route.evalContext input gateway p := by
  rw [answer]
  split
  · rename_i h
    simp only [Bool.and_eq_true, beq_iff_eq, List.any_eq_true, and_assoc] at h
    constructor
    · rintro ⟨⟩
      exact ⟨h, rfl⟩
    · rintro ⟨-, rfl⟩
      rfl
  · rename_i h
    simp only [Bool.and_eq_true, beq_iff_eq, List.any_eq_true, and_assoc] at h
    constructor
    · rintro ⟨⟩
    · rintro ⟨h', -⟩
      exact absurd h' h

theorem AnswersBy.eq_answer {kind : RouteKind} {route : Route} {q : ParentReference}
    (h : AnswersBy input kind ns name sectionName p.port route q)
    (hkeyed : input.snapshot.KeyedRoutes) (hsection : p.sectionName = some sectionName) :
    (input.snapshot.route (GatewayState.key ns name) kind).bind
      (answer input gateway ns name p) = some (route.evalContext input gateway q) := by
  obtain ⟨key, hkey⟩ := h.stored
  obtain ⟨ns', name', hns, hname, rfl⟩ := hkeyed kind key route hkey
  have hns' : ns' = ns := by simpa [ObjectMeta.planNs, hns] using h.ns
  have hname' : name' = name := by simpa [ObjectMeta.planName, hname] using h.name
  subst hns' hname'
  rw [hkey, bind_some, answer_eq_some]
  have hsame : q.sectionName = p.sectionName := h.sectionName.trans hsection.symm
  exact ⟨⟨h.ns, h.name, q, h.ref, h.targets, hsame, h.port⟩, route.evalContext_congr hsame h.port⟩

theorem find?_resultsOf_keyed (hkeyed : input.snapshot.KeyedRoutes)
    (hsection : p.sectionName = some sectionName) (kind : RouteKind) :
    (resultsOf input gateway kind).find? (·.isFor ns name sectionName p.port) =
      ((input.snapshot.route (GatewayState.key ns name) kind).bind
        (answer input gateway ns name p)).map fun ctx =>
          ctx.result (some sectionName) (ctx.sectionStatus sectionName) := by
  cases hfind : (resultsOf input gateway kind).find? (·.isFor ns name sectionName p.port) with
  | some r =>
    have hfor : r.isFor ns name sectionName p.port = true := List.find?_some hfind
    obtain ⟨route, q, hanswers, rfl⟩ :=
      mem_resultsOf_isFor.1 ⟨List.mem_of_find?_eq_some hfind, hfor⟩
    rw [hanswers.eq_answer hkeyed hsection]
    rfl
  | none =>
    cases hanswer : (input.snapshot.route (GatewayState.key ns name) kind).bind
        (answer input gateway ns name p) with
    | none => rfl
    | some ctx =>
      obtain ⟨route, hroute, hctx⟩ := bind_eq_some_iff.1 hanswer
      obtain ⟨⟨hns, hname, q, hq, htargets, hsame, hport⟩, -⟩ := answer_eq_some.1 hctx
      refine absurd ⟨route, q, ?_⟩ (find?_resultsOf_eq_none.1 hfind)
      exact ⟨⟨_, hroute⟩, hns, hname, hq, htargets, hsame.trans hsection, hport⟩

theorem resultForRouteParentRef_keyed {plan : AttachmentPlan}
    (hplan : attachmentPlan input = .ok plan)
    (hgw : input.snapshot.gateway input.gatewayNamespace input.gatewayName = some gateway)
    (hkeyed : input.snapshot.KeyedRoutes) (hsection : p.sectionName = some sectionName) :
    plan.resultForRouteParentRef ns name sectionName p.port =
      (answering input gateway ns name p).map fun ctx =>
        ctx.result (some sectionName) (ctx.sectionStatus sectionName) := by
  rw [resultForRouteParentRef_eq hplan hgw, find?_resultsOf_keyed hkeyed hsection,
    find?_resultsOf_keyed hkeyed hsection, find?_resultsOf_keyed hkeyed hsection, answering,
    map_or, map_or]

theorem exists_of_answering {ctx : RouteEvalContext}
    (h : answering input gateway ns name p = some ctx) :
    ∃ route : Route, route.metadata.planNs = ns ∧ ctx = route.evalContext input gateway p := by
  have hroute : ∀ o : Option Route, o.bind (answer input gateway ns name p) = some ctx →
      ∃ route : Route, route.metadata.planNs = ns ∧ ctx = route.evalContext input gateway p := by
    intro o ho
    obtain ⟨route, -, hctx⟩ := bind_eq_some_iff.1 ho
    obtain ⟨⟨hns, -, -⟩, heq⟩ := answer_eq_some.1 hctx
    exact ⟨route, hns, heq⟩
  rw [answering, or_eq_some_iff, or_eq_some_iff] at h
  rcases h with (h | ⟨-, h⟩) | ⟨-, h⟩ <;> exact hroute _ h

end Keyed

/-! ### Agreement at the selected listener -/

namespace RouteEvalContext

def hostnameOk (ctx : RouteEvalContext) (l : Listener) : Bool :=
  !ctx.checkHostnameCompat || hostnamesCompatible l.hostname ctx.routeHostnames

def namespaceOk (ctx : RouteEvalContext) (l : Listener) : Bool :=
  namespaceAllowed l.allowedRoutes ctx.gateway.gwNs ctx.routeNamespace ctx.snapshot.namespaceLabels

theorem acceptedReason_checkListener (ctx : RouteEvalContext) (l : Listener) :
    (ctx.checkListener l).acceptedReason =
      if !ctx.protocolCompat l.protocol then "NotAllowedByListenerProtocol"
      else if !ctx.namespaceOk l then "NotAllowedByListenerNamespacePolicy"
      else if !kindAllowed l.allowedRoutes ctx.routeKind then "NotAllowedByListenerKindPolicy"
      else if !ctx.hostnameOk l then "NoMatchingListenerHostname"
      else "Accepted" := by
  have hhost : (!ctx.hostnameOk l) = (ctx.checkHostnameCompat &&
      !hostnamesCompatible l.hostname ctx.routeHostnames) := by
    simp [hostnameOk]
  rw [checkListener, namespaceOk, hhost]
  split
  · rfl
  · split
    · rfl
    · split
      · rfl
      · split
        · rfl
        · -- the reason of an attached route does not depend on its backends
          cases hfirst : firstUnresolvedBackendRefForKind ctx.snapshot ctx.routeKind.asStr
              ctx.routeNamespace ctx.backendRefs with
          | none => rfl
          | some status =>
            have hattached := isAttached_of_unresolved hfirst
            cases status <;> first | rfl | cases hattached

/-- The two contexts are treated alike by the listener. -/
structure AgreesAt (ctx ctx' : RouteEvalContext) (l : Listener) : Prop where
  protocol : ctx'.protocolCompat l.protocol = ctx.protocolCompat l.protocol
  kind : ctx.protocolCompat l.protocol = true → ctx.namespaceOk l = true →
    kindAllowed l.allowedRoutes ctx'.routeKind = kindAllowed l.allowedRoutes ctx.routeKind
  hostname : ctx.protocolCompat l.protocol = true → ctx.namespaceOk l = true →
    kindAllowed l.allowedRoutes ctx.routeKind = true → ctx'.hostnameOk l = ctx.hostnameOk l

variable {ctx ctx' : RouteEvalContext}

theorem agreesAt_iff {l : Listener} (hns : ctx'.namespaceOk l = ctx.namespaceOk l) :
    (ctx'.checkListener l).acceptedReason = (ctx.checkListener l).acceptedReason ↔
      ctx.AgreesAt ctx' l := by
  have hiff : ctx.AgreesAt ctx' l ↔ ctx'.protocolCompat l.protocol = ctx.protocolCompat l.protocol ∧
      (ctx.protocolCompat l.protocol = true → ctx.namespaceOk l = true →
        kindAllowed l.allowedRoutes ctx'.routeKind = kindAllowed l.allowedRoutes ctx.routeKind) ∧
      (ctx.protocolCompat l.protocol = true → ctx.namespaceOk l = true →
        kindAllowed l.allowedRoutes ctx.routeKind = true → ctx'.hostnameOk l = ctx.hostnameOk l) :=
    ⟨fun ⟨h₁, h₂, h₃⟩ => ⟨h₁, h₂, h₃⟩, fun ⟨h₁, h₂, h₃⟩ => ⟨h₁, h₂, h₃⟩⟩
  rw [hiff, acceptedReason_checkListener, acceptedReason_checkListener, hns]
  -- what is left is a finite question about the answers of the checks
  generalize ctx'.protocolCompat l.protocol = protocol', ctx.protocolCompat l.protocol = protocol,
    ctx.namespaceOk l = ns, kindAllowed l.allowedRoutes ctx'.routeKind = kind',
    kindAllowed l.allowedRoutes ctx.routeKind = kind, ctx'.hostnameOk l = host',
    ctx.hostnameOk l = host
  revert protocol protocol' ns kind kind' host host'
  decide

theorem sectionStatus_eq {sectionName : String} (h : ctx.sectionName = some sectionName) :
    (∃ l, ctx.Selects l ∧ (∀ l', ctx.Selects l' → l' = l) ∧
        ctx.sectionStatus sectionName = ctx.checkListener l) ∨
      (¬∃ l, ctx.Selects l) ∧ ctx.sectionStatus sectionName = .NoMatchingParent := by
  have hselects : ∀ l, ctx.Selects l ↔
      (ctx.gateway.spec.listeners.find? fun l => l.name == sectionName) = some l ∧
        ctx.portMatches l = true := by
    intro l
    constructor
    · rintro ⟨hl, hport⟩
      rw [h] at hl
      exact ⟨hl, hport⟩
    · rintro ⟨hl, hport⟩
      exact ⟨by rw [h]; exact hl, hport⟩
  simp only [hselects, sectionStatus]
  cases ctx.gateway.spec.listeners.find? fun l => l.name == sectionName with
  | none => exact Or.inr ⟨by simp, rfl⟩
  | some l =>
    cases hport : ctx.portMatches l with
    | false => exact Or.inr ⟨by simp [hport], by simp [hport]⟩
    | true =>
      refine Or.inl ⟨l, ⟨rfl, hport⟩, ?_, by simp [hport]⟩
      rintro l' ⟨hl', -⟩
      exact (some.inj hl').symm

structure SameRef (ctx ctx' : RouteEvalContext) : Prop where
  gateway : ctx'.gateway = ctx.gateway
  sectionName : ctx'.sectionName = ctx.sectionName
  port : ctx'.parentRefPort = ctx.parentRefPort
  ns : ctx'.routeNamespace = ctx.routeNamespace
  labels : ∀ ns, ctx'.snapshot.namespaceLabels.lookup ns = ctx.snapshot.namespaceLabels.lookup ns

theorem SameRef.selects (h : ctx.SameRef ctx') (l : Listener) : ctx'.Selects l ↔ ctx.Selects l := by
  have hport : ctx'.portMatches l = ctx.portMatches l := by rw [portMatches, h.port, portMatches]
  constructor
  · rintro ⟨hl, hp⟩
    rw [h.gateway, h.sectionName] at hl
    exact ⟨hl, hport ▸ hp⟩
  · rintro ⟨hl, hp⟩
    refine ⟨?_, hport.trans hp⟩
    rw [h.gateway, h.sectionName]
    exact hl

theorem SameRef.namespaceOk (h : ctx.SameRef ctx') (l : Listener) :
    ctx'.namespaceOk l = ctx.namespaceOk l := by
  rw [RouteEvalContext.namespaceOk, RouteEvalContext.namespaceOk, h.gateway, h.ns,
    namespaceAllowed, namespaceAllowed, h.labels]

/-- **Another context leads to the same `Accepted` condition exactly when the selected listener, if
any, treats the two alike.** -/
theorem SameRef.acceptedCondition_eq_iff (h : ctx.SameRef ctx') {sectionName : String}
    (hsection : ctx.sectionName = some sectionName) :
    (ctx'.sectionStatus sectionName).acceptedCondition =
        (ctx.sectionStatus sectionName).acceptedCondition ↔
      ∀ l, ctx.Selects l → ctx.AgreesAt ctx' l := by
  rw [acceptedCondition_inj]
  rcases sectionStatus_eq hsection with ⟨l, hl, hunique, hstatus⟩ | ⟨hnone, hstatus⟩
  · rcases sectionStatus_eq (h.sectionName.trans hsection) with ⟨l', hl', -, hstatus'⟩ | ⟨hnone', -⟩
    · obtain rfl := hunique l' ((h.selects l').1 hl')
      rw [hstatus, hstatus', agreesAt_iff (h.namespaceOk l')]
      exact ⟨fun hagrees l'' hl'' => hunique l'' hl'' ▸ hagrees, fun hall => hall l' hl⟩
    · exact absurd ⟨l, (h.selects l).2 hl⟩ hnone'
  · have hnone' : ¬∃ l, ctx'.Selects l := fun ⟨l, hl⟩ => hnone ⟨l, (h.selects l).1 hl⟩
    rcases sectionStatus_eq (h.sectionName.trans hsection) with ⟨l', hl', -, -⟩ | ⟨-, hstatus'⟩
    · exact absurd ⟨l', hl'⟩ hnone'
    · rw [hstatus, hstatus']
      exact ⟨fun _ l hl => absurd ⟨l, hl⟩ hnone, fun _ => rfl⟩

end RouteEvalContext

/-! ### Agreement of the Gateway alone -/

/-- The listener of the given name, in the Gateway that was read, says on its own what the context
evaluates to. -/
def SpecAgrees (gateway : Gateway) (ctx : RouteEvalContext) (sectionName : String) : Prop :=
  ∃ la, (gateway.spec.listeners.find? fun l => l.name == sectionName) = some la ∧
    (ctx.protocolCompat la.protocol = false →
      ∃ l, ctx.Selects l ∧ ctx.protocolCompat l.protocol = false) ∧
    (ctx.protocolCompat la.protocol = true → ctx.portMatches la = false → ¬∃ l, ctx.Selects l) ∧
    (ctx.protocolCompat la.protocol = true → ctx.portMatches la = true →
      ∃ l, ctx.Selects l ∧ ctx.Admits l)

theorem AttachmentStatus.acceptedReason_eq_accepted {v : AttachmentStatus} :
    v.acceptedReason = "Accepted" ↔ v.isAttached = true := by
  cases v <;> simp [acceptedReason, isAttached]

theorem AttachmentStatus.acceptedCondition_status {v : AttachmentStatus} :
    v.acceptedCondition.status = "True" ↔ v.acceptedReason = "Accepted" := by
  rw [acceptedReason_eq_accepted, acceptedCondition]
  cases v.isAttached <;> simp [new, accepted]

theorem RouteEvalContext.listenerReason (ctx : RouteEvalContext) (l : Listener) :
    (ctx.checkListener l).acceptedReason ≠ "NoMatchingParent" ∧
      ((ctx.checkListener l).acceptedReason = "NotAllowedByListenerProtocol" ↔
        ctx.protocolCompat l.protocol = false) := by
  rw [acceptedReason_checkListener]
  generalize ctx.protocolCompat l.protocol = protocol, ctx.namespaceOk l = ns,
    kindAllowed l.allowedRoutes ctx.routeKind = kind, ctx.hostnameOk l = host
  revert protocol ns kind host
  decide

theorem RouteEvalContext.sectionReason {ctx : RouteEvalContext} {sectionName : String}
    (h : ctx.sectionName = some sectionName) :
    ((ctx.sectionStatus sectionName).acceptedReason = "NoMatchingParent" ↔ ¬∃ l, ctx.Selects l) ∧
    ((ctx.sectionStatus sectionName).acceptedReason = "NotAllowedByListenerProtocol" ↔
      ∃ l, ctx.Selects l ∧ ctx.protocolCompat l.protocol = false) ∧
    ((ctx.sectionStatus sectionName).acceptedReason = "Accepted" ↔
      ∃ l, ctx.Selects l ∧ ctx.Admits l) := by
  rcases sectionStatus_eq h with ⟨l, hl, hunique, hstatus⟩ | ⟨hnone, hstatus⟩
  · obtain ⟨hmatched, hprotocol⟩ := ctx.listenerReason l
    have hexists : ∀ P : Listener → Prop, (∃ l, ctx.Selects l ∧ P l) ↔ P l :=
      fun P => ⟨fun ⟨l', hl', hP⟩ => hunique l' hl' ▸ hP, fun hP => ⟨l, hl, hP⟩⟩
    rw [hstatus, hexists, hexists, hprotocol, acceptedReason_eq_accepted, isAttached_checkListener]
    exact ⟨⟨fun heq => absurd heq hmatched, fun hnone => absurd ⟨l, hl⟩ hnone⟩, Iff.rfl, Iff.rfl⟩
  · have hexists : ∀ P : Listener → Prop, ¬∃ l, ctx.Selects l ∧ P l :=
      fun P ⟨l, hl, _⟩ => hnone ⟨l, hl⟩
    rw [hstatus]
    exact ⟨⟨fun _ => hnone, fun _ => rfl⟩, ⟨fun heq => absurd heq (by decide),
      fun hex => absurd hex (hexists _)⟩, ⟨fun heq => absurd heq (by decide),
      fun hex => absurd hex (hexists _)⟩⟩

/-- **The Gateway alone leads to the same `Accepted` condition exactly when it agrees with the
evaluation.** -/
theorem onlyConditionFromSpec_eq_iff {gateway : Gateway} {ctx : RouteEvalContext}
    {sectionName : String} (h : ctx.sectionName = some sectionName) :
    onlyConditionFromSpec ctx.protocolCompat gateway sectionName ctx.parentRefPort =
        (ctx.sectionStatus sectionName).acceptedCondition ↔
      SpecAgrees gateway ctx sectionName := by
  obtain ⟨hparent, hprotocol, haccepted⟩ := sectionReason h
  rw [onlyConditionFromSpec, SpecAgrees]
  cases gateway.spec.listeners.find? fun l => l.name == sectionName with
  | none =>
    have hmessage : ∀ v : AttachmentStatus, new "Accepted" false "NoMatchingParent"
        "No listener matches the parentRef sectionName" ≠ v.acceptedCondition := by
      intro v
      cases v <;> simp [acceptedCondition, isAttached,
        acceptedReason, attachmentStatusMessage, new, accepted]
    simp [hmessage]
  | some la =>
    have hport : (ctx.parentRefPort.any fun p => la.port != p) = !ctx.portMatches la := by
      rw [portMatches]
      cases ctx.parentRefPort <;> simp [bne]
    have hsome : ∀ P : Listener → Prop, (∃ l, some la = some l ∧ P l) ↔ P la := by simp
    rw [hsome]
    simp only [hport]
    -- each branch is the condition for one outcome of the planner
    have hiff : ∀ v : AttachmentStatus, v.acceptedCondition =
        (ctx.sectionStatus sectionName).acceptedCondition ↔
        (ctx.sectionStatus sectionName).acceptedReason = v.acceptedReason :=
      fun v => acceptedCondition_inj.trans eq_comm
    cases ctx.protocolCompat la.protocol with
    | false =>
      refine (hiff .NotAllowedByListenerProtocol).trans (hprotocol.trans ?_)
      simp
    | true =>
      cases ctx.portMatches la with
      | false =>
        refine (hiff .NoMatchingParent).trans (hparent.trans ?_)
        simp
      | true =>
        refine (hiff .Attached).trans (haccepted.trans ?_)
        simp

end Wicket
