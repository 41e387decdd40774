/-
**The watch of the ReferenceGrants.**

When a grant changes, the reverse index is asked for the Gateways under the *name of the grant*, but
it files them under the name of the *object that is referred to*.
-/

import Wicket.GrantEnforcement
import Wicket.PlanChange
import Wicket.SharedStore

namespace Wicket

open PlannerSnapshot AList

open KeyMap (HashMap)

/-- The Gateways that are queued when a grant changes. -/
def grantWatch (idx : ReverseIndexInner) (g : ReferenceGrant) : List ObjectKey :=
  gatewaysForKey idx.referenceGrantToGateways (g.metadata.ns.getD "") (g.metadata.name.getD "")

def SharedStore.attachmentPlan (s : SharedStore) (gatewayNs gatewayName : String)
    (generation : ℤ) : Except PlanError AttachmentPlan :=
  Wicket.attachmentPlan ⟨gatewayNs, gatewayName, generation, s.snapshot⟩

/-! ### What a grant changes for one reference -/

/-- A reference to a Service of another namespace that the grant allows. -/
structure BackendRef.GrantedBy (b : BackendRef) (g : ReferenceGrant) (kind : RouteKind)
    (routeNs : String) : Prop where
  core : b.isCoreService = true
  leaves : b.nsOr routeNs ≠ routeNs
  ns : g.grantNs = b.nsOr routeNs
  allows : g.allowsServiceReference gatewayApiGroup kind.asStr routeNs (some b.name) = true

def RouteEvalContext.unresolvedRef (ctx : RouteEvalContext) (b : BackendRef) :
    Option AttachmentStatus :=
  unresolvedBackendRef ctx.snapshot ctx.routeKind.asStr ctx.routeNamespace b

/-- The first reference that cannot be resolved is the one that is reported. -/
structure RouteEvalContext.Reports (ctx : RouteEvalContext) (b : BackendRef) : Prop where
  unresolved : ctx.unresolvedRef b ≠ none
  first : ∃ before after, ctx.backendRefs = before ++ b :: after ∧
    ∀ b' ∈ before, ctx.unresolvedRef b' = none

section Grant

variable {s : PlannerSnapshot} {key : String} {g : ReferenceGrant}

def PlannerSnapshot.withoutGrant (s : PlannerSnapshot) (key : String) : PlannerSnapshot :=
  { s with referenceGrants := s.referenceGrants.erase key }

def PlannerSnapshot.withGrant (s : PlannerSnapshot) (key : String) (g : ReferenceGrant) :
    PlannerSnapshot :=
  { s with referenceGrants := s.referenceGrants.insert key g }

variable {kind : RouteKind} {routeNs : String} {b : BackendRef}

theorem granted_withGrant :
    Granted (s.withGrant key g) kind routeNs b ↔
      Granted (s.withoutGrant key) kind routeNs b ∨ (g.grantNs = b.nsOr routeNs ∧
        g.allowsServiceReference gatewayApiGroup kind.asStr routeNs (some b.name) = true) := by
  constructor
  · rintro ⟨k, g', hlookup, hns, hallows⟩
    by_cases hk : k = key
    · subst hk
      obtain rfl : g = g' := by simpa [withGrant] using hlookup
      exact Or.inr ⟨hns, hallows⟩
    · refine Or.inl ⟨k, g', ?_, hns, hallows⟩
      rw [withGrant, lookup_insert_ne hk] at hlookup
      rwa [withoutGrant, lookup_erase_ne hk]
  · rintro (⟨k, g', hlookup, hns, hallows⟩ | ⟨hns, hallows⟩)
    · have hk : k ≠ key := by
        rintro rfl
        simp [withoutGrant] at hlookup
      refine ⟨k, g', ?_, hns, hallows⟩
      rw [withoutGrant, lookup_erase_ne hk] at hlookup
      rwa [withGrant, lookup_insert_ne hk]
    · exact ⟨key, g, lookup_insert _, hns, hallows⟩

theorem unresolvedBackendRef_insert (kind : RouteKind) (routeNs : String) (b : BackendRef) :
    (b.GrantedBy g kind routeNs ∧
      unresolvedBackendRef (s.withGrant key g) kind.asStr routeNs b = none) ∨
    (¬b.GrantedBy g kind routeNs ∧
      unresolvedBackendRef (s.withGrant key g) kind.asStr routeNs b =
        unresolvedBackendRef (s.withoutGrant key) kind.asStr routeNs b) := by
  by_cases hleaves : b.isCoreService = true ∧ b.nsOr routeNs ≠ routeNs
  · rw [unresolvedBackendRef_of_leaves hleaves.1 hleaves.2,
      unresolvedBackendRef_of_leaves hleaves.1 hleaves.2]
    by_cases hgrants : g.grantNs = b.nsOr routeNs ∧
        g.allowsServiceReference gatewayApiGroup kind.asStr routeNs (some b.name) = true
    · refine Or.inl ⟨⟨hleaves.1, hleaves.2, hgrants.1, hgrants.2⟩, ?_⟩
      rw [if_pos (backendRefPermitted_iff.2 (granted_withGrant.2 (Or.inr hgrants)))]
    · refine Or.inr ⟨fun h => hgrants ⟨h.ns, h.allows⟩, ?_⟩
      have hsame : backendRefPermitted (s.withGrant key g) kind.asStr routeNs b =
          backendRefPermitted (s.withoutGrant key) kind.asStr routeNs b := by
        rw [Bool.eq_iff_iff, backendRefPermitted_iff, backendRefPermitted_iff, granted_withGrant]
        simp only [hgrants, or_false]
      rw [hsame]
  · refine Or.inr ⟨fun h => hleaves ⟨h.core, h.leaves⟩, ?_⟩
    cases hcore : b.isCoreService with
    | false => rw [unresolvedBackendRef_of_other hcore, unresolvedBackendRef_of_other hcore]
    | true =>
      have hstays : b.nsOr routeNs = routeNs := by
        by_contra hne
        exact hleaves ⟨hcore, hne⟩
      rw [unresolvedBackendRef_of_stays hcore hstays, unresolvedBackendRef_of_stays hcore hstays]
      rfl

theorem BackendRef.GrantedBy.of_report {b' : BackendRef} (h : b.GrantedBy g kind routeNs)
    {s : PlannerSnapshot}
    (hreport : unresolvedBackendRef s kind.asStr routeNs b' =
      some (.RefNotPermitted routeNs (b.nsOr routeNs) b.name)) : b'.GrantedBy g kind routeNs := by
  obtain ⟨hcore, ⟨-, -, hstatus⟩ | ⟨hleaves, -, hstatus⟩⟩ := unresolvedBackendRef_cases hreport
  · cases hstatus
  · rw [AttachmentStatus.RefNotPermitted.injEq] at hstatus
    obtain ⟨-, hns, hname⟩ := hstatus
    exact ⟨hcore, hleaves, h.ns.trans hns, hname ▸ h.allows⟩

end Grant

/-! ### What a grant changes for a plan -/

section Plan

variable {ctx : RouteEvalContext} {s : PlannerSnapshot} {key : String} {g : ReferenceGrant}

theorem RouteEvalContext.Reports.unresolved_eq {b : BackendRef} (h : ctx.Reports b) :
    ctx.unresolved = ctx.unresolvedRef b := by
  obtain ⟨status, hstatus⟩ := Option.ne_none_iff_exists'.1 h.unresolved
  obtain ⟨before, after, hrefs, hbefore⟩ := h.first
  rw [hstatus]
  exact List.findSome?_eq_some_iff.2 ⟨before, b, after, hrefs, hstatus, hbefore⟩

theorem RouteEvalContext.unresolvedRef_eq_refNotPermitted {b : BackendRef}
    (hleaves : b.nsOr ctx.routeNamespace ≠ ctx.routeNamespace) (h : ctx.unresolvedRef b ≠ none) :
    ctx.unresolvedRef b =
      some (.RefNotPermitted ctx.routeNamespace (b.nsOr ctx.routeNamespace) b.name) := by
  obtain ⟨status, hstatus⟩ := Option.ne_none_iff_exists'.1 h
  obtain ⟨-, ⟨hstays, -⟩ | ⟨-, -, rfl⟩⟩ := unresolvedBackendRef_cases hstatus
  · exact absurd hstays hleaves
  · exact hstatus

theorem exists_reports_of_ne (hctx : ctx.snapshot = s.withoutGrant key)
    (hne : (ctx.on (s.withGrant key g)).unresolved ≠ ctx.unresolved) :
    ∃ b, ctx.Reports b ∧ b.GrantedBy g ctx.routeKind ctx.routeNamespace := by
  obtain ⟨before, b, after, hrefs, hbefore, hparts⟩ := Check.exists_of_findSome?_ne hne
  rcases @unresolvedBackendRef_insert s key g ctx.routeKind ctx.routeNamespace b with
    ⟨hgranted, hnone⟩ | ⟨-, hsame⟩
  · refine ⟨b, ⟨?_, before, after, hrefs, fun b' hb' => (hbefore b' hb').2⟩, hgranted⟩
    exact fun hold => hparts (hnone.trans hold.symm)
  · rw [← hctx] at hsame
    exact absurd hsame hparts

theorem unresolved_withGrant_ne_iff (hctx : ctx.snapshot = s.withoutGrant key) :
    (ctx.on (s.withGrant key g)).unresolved ≠ ctx.unresolved ↔
      ∃ b, ctx.Reports b ∧ b.GrantedBy g ctx.routeKind ctx.routeNamespace := by
  constructor
  · exact exists_reports_of_ne hctx
  · rintro ⟨b, hb, hgranted⟩ hsame
    rw [hb.unresolved_eq, RouteEvalContext.unresolvedRef_eq_refNotPermitted hgranted.leaves
      hb.unresolved] at hsame
    -- with the grant some reference is reported in these words, and the grant permits that one too
    obtain ⟨b', -, hb'⟩ := List.exists_of_findSome?_eq_some hsame
    have hgranted' : b'.GrantedBy g ctx.routeKind ctx.routeNamespace := hgranted.of_report hb'
    rcases @unresolvedBackendRef_insert s key g ctx.routeKind ctx.routeNamespace b' with
      ⟨-, hnone⟩ | ⟨hnot, -⟩
    · cases hnone.symm.trans hb'
    · exact hnot hgranted'

end Plan

/-- Some route of the Gateway is reported for a reference that only the grant would allow. -/
def DecidedBy (s : PlannerSnapshot) (key : String) (g : ReferenceGrant)
    (gatewayNs gatewayName : String) (generation : ℤ) : Prop :=
  ∃ gateway ctx l b, s.gateway gatewayNs gatewayName = some gateway ∧
    Evaluated ⟨gatewayNs, gatewayName, generation, s.withoutGrant key⟩ gateway ctx ∧
    ctx.Selects l ∧ ctx.Admits l ∧ ctx.Reports b ∧
    b.GrantedBy g ctx.routeKind ctx.routeNamespace

/-- **A grant changes the plan of a Gateway exactly when it decides a reference of an admitted
route.** -/
theorem attachmentPlan_grant_ne_iff {s : PlannerSnapshot} {key : String} {g : ReferenceGrant}
    {gatewayNs gatewayName : String} {generation : ℤ} :
    attachmentPlan ⟨gatewayNs, gatewayName, generation, s.withGrant key g⟩ ≠
        attachmentPlan ⟨gatewayNs, gatewayName, generation, s.withoutGrant key⟩ ↔
      DecidedBy s key g gatewayNs gatewayName generation := by
  let input : AttachmentPlanInput := ⟨gatewayNs, gatewayName, generation, s.withoutGrant key⟩
  have hsame : input.snapshot.SameObjects (s.withGrant key g) := ⟨rfl, rfl, rfl, rfl, rfl⟩
  cases hgateway : s.gateway gatewayNs gatewayName with
  | none =>
    have heq := attachmentPlan_eq_of_none hsame hgateway
    constructor
    · intro hne
      exact absurd heq hne
    · rintro ⟨gateway, -, -, -, hsome, -⟩
      rw [hgateway] at hsome
      cases hsome
  | some gateway =>
    have hiff := attachmentPlan_eq_iff hsame hgateway
    have hctx : ∀ ctx, Evaluated input gateway ctx → ctx.snapshot = s.withoutGrant key :=
      fun ctx h => snapshot_of_mem_planEvaluations (mem_planEvaluations.2 h)
    rw [ne_eq, show attachmentPlan ⟨gatewayNs, gatewayName, generation, s.withGrant key g⟩ =
      attachmentPlan ⟨gatewayNs, gatewayName, generation, s.withoutGrant key⟩ ↔ _ from hiff]
    constructor
    · intro hne
      push Not at hne
      obtain ⟨ctx, heval, l, hselects, hadmits, hchanged⟩ := hne
      obtain ⟨b, hreports, hgranted⟩ := (unresolved_withGrant_ne_iff (hctx ctx heval)).1 hchanged
      exact ⟨gateway, ctx, l, b, hgateway, heval, hselects, hadmits, hreports, hgranted⟩
    · rintro ⟨gateway', ctx, l, b, hsome, heval, hselects, hadmits, hreports, hgranted⟩ hall
      obtain rfl : gateway = gateway' := Option.some_inj.1 (hgateway.symm.trans hsome)
      exact (unresolved_withGrant_ne_iff (hctx ctx heval)).2 ⟨b, hreports, hgranted⟩
        (hall ctx heval l hselects hadmits)

/-- **The watch requeues every Gateway whose plan a grant changes** exactly when each of them refers
from another namespace to an object that is called like the grant. -/
theorem grantWatch_complete_iff (inner : StoreInner) (key : String) (g : ReferenceGrant)
    (gatewayNs gatewayName : String) (generation : ℤ) :
    (((StoreWrite.removeReferenceGrant key).apply (.reindexed inner)).attachmentPlan gatewayNs
          gatewayName generation ≠
        ((StoreWrite.upsertReferenceGrant key g).apply (.reindexed inner)).attachmentPlan gatewayNs
          gatewayName generation →
      (gatewayNs, gatewayName) ∈ grantWatch (SharedStore.reindexed inner).reverseIndex g) ↔
    (DecidedBy inner.toPlannerSnapshot key g gatewayNs gatewayName generation →
      inner.GrantLeadsTo (g.metadata.ns.getD "", g.metadata.name.getD "")
        (gatewayNs, gatewayName)) := by
  have hplan := @attachmentPlan_grant_ne_iff inner.toPlannerSnapshot key g gatewayNs gatewayName
    generation
  rw [grantWatch, SharedStore.reindexed, mem_referenceGrantToGateways, ← hplan, ne_comm]
  rfl

/-! ### A grant with a name of its own -/

def publicGateway : Gateway where
  metadata := { ns := some "infra", name := some "public" }
  spec :=
    { gatewayClassName := "wicket"
      listeners :=
        [{ name := "http", port := 80, protocol := .HTTP,
           allowedRoutes := some { namespaces := some { from_ := .All } } }] }

def shopRoute : HTTPRoute where
  metadata := { ns := some "shop", name := some "shop" }
  spec :=
    { parentRefs := [{ ns := some "infra", name := "public" }]
      rules := [{ backendRefs := [⟨{ name := "api", ns := some "backend", port := some 80 }⟩] }] }

def shopInner : StoreInner where
  gateways := KeyMap.collect [("infra/public", publicGateway)]
  httpRoutes := KeyMap.collect [("shop/shop", shopRoute)]

def allowShop : ReferenceGrant where
  metadata := { ns := some "backend", name := some "allow-shop" }
  from_ := [{ group := gatewayApiGroup, kind := "HTTPRoute", ns := "shop" }]
  to_ := [{ group := "", kind := "Service" }]

theorem allowShop_not_requeued :
    ((StoreWrite.removeReferenceGrant "backend/allow-shop").apply
          (.reindexed shopInner)).attachmentPlan "infra" "public" 1 ≠
        ((StoreWrite.upsertReferenceGrant "backend/allow-shop" allowShop).apply
          (.reindexed shopInner)).attachmentPlan "infra" "public" 1 ∧
      ("infra", "public") ∉
        grantWatch (SharedStore.reindexed shopInner).reverseIndex allowShop := by
  -- the index has the Gateway under `backend/api` only
  rw [grantWatch, mem_gatewaysForKey]
  decide

end Wicket
