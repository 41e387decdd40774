/-
**The times in the status of a Gateway and of an HTTPRoute.**

The times of unchanged conditions are taken over from the existing status; a status is written only
if it differs in more than the times.
-/

import Wicket.Crds
import Wicket.Settling

namespace Wicket

open List

namespace Timed

open Settling (zipAll zipAll_iff mergeByKey forall₂_mergeByKey map_mergeByKey
  mergeByKey_eq_existing Kind)

/-! ### Statuses -/

structure Condition extends Wicket.Condition where
  lastTransitionTime : String
  deriving DecidableEq

inductive AddressType
  | IPAddress
  | Hostname
  | NamedAddress
  deriving DecidableEq

structure GatewayStatusAddress where
  type : AddressType := .IPAddress
  value : String
  deriving DecidableEq

/-- The status of a listener; the number of routes is a 32-bit number with a sign. -/
structure ListenerStatus where
  name : String
  supportedKinds : List RouteGroupKind := []
  attachedRoutes : ℤ
  conditions : List Condition := []
  deriving DecidableEq

structure GatewayStatus where
  addresses : List GatewayStatusAddress := []
  conditions : List Condition := []
  listeners : List ListenerStatus := []
  deriving DecidableEq

structure RouteParentStatus where
  parentRef : ParentReference
  controllerName : String
  conditions : List Condition := []
  deriving DecidableEq

structure HTTPRouteStatus where
  parents : List RouteParentStatus := []
  deriving DecidableEq

/-! ### Equality but for the times -/

def conditionsSemanticallyEqual (a b : List Condition) : Bool :=
  zipAll (fun x y => x.type == y.type && x.status == y.status && x.reason == y.reason &&
    x.message == y.message && x.observedGeneration == y.observedGeneration) a b

def gatewayStatusSemanticallyEqual (a b : GatewayStatus) : Bool :=
  if a.addresses != b.addresses then false
  else if !conditionsSemanticallyEqual a.conditions b.conditions then false
  else zipAll (fun x y => x.name == y.name && x.supportedKinds == y.supportedKinds &&
    x.attachedRoutes == y.attachedRoutes &&
    conditionsSemanticallyEqual x.conditions y.conditions) a.listeners b.listeners

def httprouteStatusSemanticallyEqual (a b : HTTPRouteStatus) : Bool :=
  zipAll (fun x y => x.parentRef == y.parentRef && x.controllerName == y.controllerName &&
    conditionsSemanticallyEqual x.conditions y.conditions) a.parents b.parents

/-! ### The times that are taken over -/

def preserveConditionTimestamps (new existing : List Condition) : List Condition :=
  mergeByKey (fun c => c.type) (fun cond prev =>
    if prev.status == cond.status then { cond with lastTransitionTime := prev.lastTransitionTime }
    else cond) new existing

def preserveGatewayStatusTimestamps (newStatus existing : GatewayStatus) : GatewayStatus :=
  { newStatus with
    conditions := preserveConditionTimestamps newStatus.conditions existing.conditions
    listeners := mergeByKey (fun l => l.name) (fun newListener prev =>
      { newListener with
        conditions := preserveConditionTimestamps newListener.conditions prev.conditions })
      newStatus.listeners existing.listeners }

def preserveHttprouteStatusTimestamps (newStatus existing : HTTPRouteStatus) : HTTPRouteStatus where
  parents := mergeByKey (fun p => p.parentRef) (fun newParent prev =>
    { newParent with
      conditions := preserveConditionTimestamps newParent.conditions prev.conditions })
    newStatus.parents existing.parents

def gatewayKind : Kind GatewayStatus where
  equal := gatewayStatusSemanticallyEqual
  preserve := preserveGatewayStatusTimestamps

def httprouteKind : Kind HTTPRouteStatus where
  equal := httprouteStatusSemanticallyEqual
  preserve := preserveHttprouteStatusTimestamps

/-! ### Conditions -/

def UniqueTypes (cs : List Condition) : Prop := (cs.map fun c => c.type).Nodup

variable {a b new existing : List Condition}

theorem conditionsSemanticallyEqual_iff :
    conditionsSemanticallyEqual a b = true ↔
      a.map (fun c => c.toCondition) = b.map fun c => c.toCondition := by
  refine zipAll_iff ?_
  intro x y
  obtain ⟨⟨_, _, _, _, _⟩, _⟩ := x
  obtain ⟨⟨_, _, _, _, _⟩, _⟩ := y
  simp only [Bool.and_eq_true, beq_iff_eq, Wicket.Condition.mk.injEq]
  tauto

theorem uniqueTypes_iff {cs : List Condition} :
    UniqueTypes cs ↔ ((cs.map fun c => c.toCondition).map fun c => c.type).Nodup := by
  rw [UniqueTypes, map_map]
  rfl

theorem UniqueTypes.of_eq (h : a.map (fun c => c.toCondition) = b.map fun c => c.toCondition)
    (ha : UniqueTypes a) :
    UniqueTypes b := by
  rw [uniqueTypes_iff] at ha ⊢
  rw [← h]
  exact ha

/-- The time is that of the existing condition exactly when the status is the same. -/
structure TimeKept (existing : List Condition) (c c' : Condition) : Prop where
  same : c'.toCondition = c.toCondition
  time_iff : ∀ e ∈ existing, e.type = c.type →
    (c'.lastTransitionTime = e.lastTransitionTime ↔
      e.status = c.status ∨ c.lastTransitionTime = e.lastTransitionTime)
  fresh : (¬∃ e ∈ existing, e.type = c.type ∧ e.status = c.status) →
    c'.lastTransitionTime = c.lastTransitionTime

theorem preserveConditionTimestamps_times (h : UniqueTypes existing) :
    List.Forall₂ (TimeKept existing) new (preserveConditionTimestamps new existing) := by
  refine forall₂_mergeByKey h ?_ ?_
  · intro c _ prev hprev htype
    have honly : ∀ e ∈ existing, e.type = c.type → e = prev := by
      intro e he hetype
      exact inj_on_of_nodup_map h he hprev (hetype.trans htype.symm)
    by_cases hstatus : prev.status = c.status
    · rw [if_pos (beq_iff_eq.2 hstatus)]
      refine ⟨rfl, ?_, fun hnone => absurd ⟨prev, hprev, htype, hstatus⟩ hnone⟩
      intro e he hetype
      obtain rfl := honly e he hetype
      exact ⟨fun _ => .inl hstatus, fun _ => rfl⟩
    · rw [if_neg fun heq => hstatus (beq_iff_eq.1 heq)]
      refine ⟨rfl, ?_, fun _ => rfl⟩
      intro e he hetype
      obtain rfl := honly e he hetype
      exact ⟨.inr, fun hor => hor.resolve_left hstatus⟩
  · intro c _ hnone
    exact ⟨rfl, fun e he hetype => absurd hetype (hnone e he), fun _ => rfl⟩

theorem map_preserveConditionTimestamps (new existing : List Condition) :
    (preserveConditionTimestamps new existing).map (fun c => c.toCondition) =
      new.map fun c => c.toCondition := by
  refine map_mergeByKey ?_
  intro c prev
  split <;> rfl

theorem preserveConditionTimestamps_eq (h : UniqueTypes existing)
    (hsame : existing.map (fun c => c.toCondition) = new.map fun c => c.toCondition) :
    preserveConditionTimestamps new existing = existing := by
  refine mergeByKey_eq_existing h hsame (fun _ _ heq => congrArg (fun c => c.type) heq) ?_
  intro prev _ c hsame
  obtain ⟨prev, time⟩ := prev
  obtain ⟨c, time'⟩ := c
  obtain rfl : prev = c := hsame
  simp

/-! ### Statuses become the existing ones -/

def ListenerStatus.outcome (l : ListenerStatus) :
    String × List RouteGroupKind × ℤ × List Wicket.Condition :=
  (l.name, l.supportedKinds, l.attachedRoutes, l.conditions.map fun c => c.toCondition)

def GatewayStatus.outcome (s : GatewayStatus) :
    List GatewayStatusAddress × List Wicket.Condition ×
      List (String × List RouteGroupKind × ℤ × List Wicket.Condition) :=
  (s.addresses, s.conditions.map (fun c => c.toCondition), s.listeners.map ListenerStatus.outcome)

def RouteParentStatus.outcome (p : RouteParentStatus) :
    ParentReference × String × List Wicket.Condition :=
  (p.parentRef, p.controllerName, p.conditions.map fun c => c.toCondition)

def HTTPRouteStatus.outcome (s : HTTPRouteStatus) :
    List (ParentReference × String × List Wicket.Condition) :=
  s.parents.map RouteParentStatus.outcome

theorem gatewayStatusSemanticallyEqual_iff {a b : GatewayStatus} :
    gatewayStatusSemanticallyEqual a b = true ↔ a.outcome = b.outcome := by
  have hlisteners := @zipAll_iff _ _ ListenerStatus.outcome (fun x y : ListenerStatus =>
    x.name == y.name && x.supportedKinds == y.supportedKinds &&
      x.attachedRoutes == y.attachedRoutes &&
      conditionsSemanticallyEqual x.conditions y.conditions) a.listeners b.listeners (by
    simp [conditionsSemanticallyEqual_iff, ListenerStatus.outcome, and_assoc])
  simp only [gatewayStatusSemanticallyEqual, GatewayStatus.outcome, Prod.mk.injEq,
    ← conditionsSemanticallyEqual_iff, ← hlisteners]
  by_cases haddresses : a.addresses = b.addresses <;>
    cases conditionsSemanticallyEqual a.conditions b.conditions <;> simp [haddresses]

theorem httprouteStatusSemanticallyEqual_iff {a b : HTTPRouteStatus} :
    httprouteStatusSemanticallyEqual a b = true ↔ a.outcome = b.outcome := by
  refine zipAll_iff ?_
  simp [conditionsSemanticallyEqual_iff, RouteParentStatus.outcome, and_assoc]

structure GatewayStatus.Unique (s : GatewayStatus) : Prop where
  conditions : UniqueTypes s.conditions
  names : (s.listeners.map fun l => l.name).Nodup
  listeners : ∀ l ∈ s.listeners, UniqueTypes l.conditions

/-- Every type occurs once in each list, and every reference to a parent. -/
structure HTTPRouteStatus.Unique (s : HTTPRouteStatus) : Prop where
  parentRefs : (s.parents.map fun p => p.parentRef).Nodup
  parents : ∀ p ∈ s.parents, UniqueTypes p.conditions

theorem gatewayKind_lawful : gatewayKind.Lawful GatewayStatus.outcome GatewayStatus.Unique where
  equal_iff _ _ := gatewayStatusSemanticallyEqual_iff
  unique := by
    intro a b h ha
    simp only [GatewayStatus.outcome, Prod.mk.injEq] at h
    obtain ⟨-, hconditions, hlisteners⟩ := h
    refine ⟨ha.conditions.of_eq hconditions, ?_, ?_⟩
    · have hnames := congrArg (map Prod.fst) hlisteners
      rw [map_map, map_map] at hnames
      exact hnames ▸ ha.names
    · intro l hl
      obtain ⟨l', hl', hsame⟩ := mem_map.1 (hlisteners ▸ mem_map_of_mem hl)
      exact (ha.listeners l' hl').of_eq (congrArg (fun o => o.2.2.2) hsame)
  outcome_preserve := by
    intro new existing
    simp only [GatewayStatus.outcome, gatewayKind, preserveGatewayStatusTimestamps,
      map_preserveConditionTimestamps, Prod.mk.injEq, true_and]
    refine map_mergeByKey ?_
    simp [ListenerStatus.outcome, map_preserveConditionTimestamps]
  preserve_eq := by
    intro existing new hunique h
    simp only [GatewayStatus.outcome, Prod.mk.injEq] at h
    obtain ⟨haddresses, hconditions, hlisteners⟩ := h
    rw [GatewayStatus.mk.injEq]
    refine ⟨haddresses.symm, preserveConditionTimestamps_eq hunique.conditions hconditions,
      mergeByKey_eq_existing hunique.names hlisteners (fun _ _ heq => congrArg Prod.fst heq) ?_⟩
    intro prev hprev l hsame
    simp only [ListenerStatus.outcome, Prod.mk.injEq] at hsame
    obtain ⟨hname, hkinds, hroutes, hconds⟩ := hsame
    rw [preserveConditionTimestamps_eq (hunique.listeners prev hprev) hconds, ← hname, ← hkinds,
      ← hroutes]

theorem httprouteKind_lawful :
    httprouteKind.Lawful HTTPRouteStatus.outcome HTTPRouteStatus.Unique where
  equal_iff _ _ := httprouteStatusSemanticallyEqual_iff
  unique := by
    intro a b h ha
    constructor
    · have hrefs := congrArg (map Prod.fst) h
      rw [HTTPRouteStatus.outcome, HTTPRouteStatus.outcome, map_map, map_map] at hrefs
      exact hrefs ▸ ha.parentRefs
    · intro p hp
      obtain ⟨p', hp', hsame⟩ := mem_map.1 (h.symm ▸ mem_map_of_mem hp :
        p.outcome ∈ a.outcome)
      exact (ha.parents p' hp').of_eq (congrArg (fun o => o.2.2) hsame)
  outcome_preserve := by
    intro new existing
    refine map_mergeByKey ?_
    simp [RouteParentStatus.outcome, map_preserveConditionTimestamps]
  preserve_eq := by
    intro existing new hunique h
    rw [HTTPRouteStatus.mk.injEq]
    refine mergeByKey_eq_existing hunique.parentRefs h (fun _ _ heq => congrArg Prod.fst heq) ?_
    intro prev hprev p hsame
    simp only [RouteParentStatus.outcome, Prod.mk.injEq] at hsame
    obtain ⟨href, hcontroller, hconds⟩ := hsame
    rw [preserveConditionTimestamps_eq (hunique.parents prev hprev) hconds, ← href, ← hcontroller]

/-! ### Which times are taken over -/

structure TimesKept {α κ : Type} (key : α → κ) (conditions : α → List Condition)
    (existing : List α) (a a' : α) : Prop where
  key_eq : key a' = key a
  matched : ∀ prev ∈ existing, key prev = key a →
    List.Forall₂ (TimeKept (conditions prev)) (conditions a) (conditions a')
  unmatched : (∀ prev ∈ existing, key prev ≠ key a) → a' = a

theorem timesKept_mergeByKey {α κ : Type} [DecidableEq κ] {key : α → κ}
    {conditions : α → List Condition} {f : α → α → α} {new existing : List α}
    (hnodup : (existing.map key).Nodup)
    (hunique : ∀ prev ∈ existing, UniqueTypes (conditions prev))
    (hkey : ∀ a prev, key (f a prev) = key a)
    (hconditions : ∀ a prev, conditions (f a prev) =
      preserveConditionTimestamps (conditions a) (conditions prev)) :
    List.Forall₂ (TimesKept key conditions existing) new (mergeByKey key f new existing) := by
  refine forall₂_mergeByKey hnodup ?_ ?_
  · intro a _ prev hprev hsame
    refine ⟨hkey a prev, ?_, fun hnone => absurd hsame (hnone prev hprev)⟩
    intro e he hesame
    obtain rfl := inj_on_of_nodup_map hnodup he hprev (hesame.trans hsame.symm)
    rw [hconditions]
    exact preserveConditionTimestamps_times (hunique e he)
  · intro a _ hnone
    exact ⟨rfl, fun prev hprev hsame => absurd hsame (hnone prev hprev), fun _ => rfl⟩

structure GatewayTimes (new existing preserved : GatewayStatus) : Prop where
  conditions : List.Forall₂ (TimeKept existing.conditions) new.conditions preserved.conditions
  listeners : List.Forall₂ (TimesKept (fun l : ListenerStatus => l.name) (fun l => l.conditions)
    existing.listeners) new.listeners preserved.listeners

def HTTPRouteTimes (new existing preserved : HTTPRouteStatus) : Prop :=
  List.Forall₂ (TimesKept (fun p : RouteParentStatus => p.parentRef) (fun p => p.conditions)
    existing.parents) new.parents preserved.parents

/-- What holds of the statuses of one kind. -/
structure Settles {S : Type} (K : Kind S) (Unique : S → Prop) (Times : S → S → S → Prop) :
    Prop where
  identical : ∀ {existing new}, Unique existing → Unique new → K.equal existing new = true →
    K.preserve new existing = existing
  times : ∀ {existing new}, Unique existing → Unique new →
    Times new existing (K.preserve new existing)
  fixpoint : ∀ (existing : Option S) {computed : S}, Unique computed → ∀ {rest : List S},
    (∀ c ∈ rest, K.equal computed c = true) →
      (K.patches existing (computed :: rest)).length ≤ 1 ∧
        rest.foldl (fun s c => (K.update (some s) c).1) (K.update existing computed).1 =
          (K.update existing computed).1

end Timed

end Wicket
