/-
**The cluster, the watches and the store.**

A reconcile is run for an object in the cache and dropped otherwise, and an object leaves the store
only when a reconcile sees the deletion mark, or refuses a route.
-/

import Wicket.RouteReconcile

namespace Wicket

open Function KeyMap

/-! ### The cluster -/

inductive WatchedKind
  | Gateway
  | Route (kind : RouteKind)
  deriving DecidableEq

abbrev ObjectRef : Type := WatchedKind × String

inductive WatchedObject
  | gateway (g : Gateway)
  | route (r : Route)

def Route.withMetadata (m : ObjectMeta) : Route → Route
  | .http r => .http { r with metadata := m }
  | .tcp r => .tcp { r with metadata := m }
  | .tls r => .tls { r with metadata := m }

def Gateway.key (g : Gateway) : String :=
  GatewayState.key (g.metadata.ns.getD "") (g.metadata.name.getD "")

namespace WatchedObject

def metadata : WatchedObject → ObjectMeta
  | .gateway g => g.metadata
  | .route r => r.metadata

def ref : WatchedObject → ObjectRef
  | .gateway g => (.Gateway, g.key)
  | .route r => (.Route r.kind, r.key)

def marked (timestamp : Option String) : WatchedObject → WatchedObject
  | .gateway g => .gateway { g with metadata := { g.metadata with deletionTimestamp := timestamp } }
  | .route r => .route (r.withMetadata { r.metadata with deletionTimestamp := timestamp })

end WatchedObject

abbrev LiveObjects : Type := ObjectRef → Option WatchedObject

namespace LiveObjects

/-- Creates or replaces an object.  The mark of an object cannot be changed; without finalizers, a
marked object is gone. -/
def apply (c : LiveObjects) (obj : WatchedObject) : LiveObjects :=
  let mark := (c obj.ref).bind fun old => old.metadata.deletionTimestamp
  Function.update c obj.ref
    (if mark.isSome && obj.metadata.finalizers.isEmpty then none else some (obj.marked mark))

def delete (c : LiveObjects) (ref : ObjectRef) (now : String) : LiveObjects :=
  match c ref with
  | none => c
  | some obj =>
    Function.update c ref
      (if obj.metadata.finalizers.isEmpty then none
        else some (obj.marked (obj.metadata.deletionTimestamp.or (some now))))

end LiveObjects

/-! ### The reconcile of a Gateway -/

/-- Why the reconcile of a Gateway is given up at its beginning. -/
inductive GatewayError
  | GatewayClassNotFound (name : String)
  deriving DecidableEq

/-- What the reconcile of a Gateway has come to when it turns to the runtime. -/
inductive GatewayStart
  | deleted
  | ignored
  | stored
  deriving DecidableEq

def gatewayClassOf (api : ClusterApi) (s : SharedStore) (g : Gateway) :
    Except GatewayError GatewayClass :=
  match s.inner.gatewayClasses.lookup g.spec.gatewayClassName with
  | some gc => .ok gc
  | none =>
    match api.gatewayClass g.spec.gatewayClassName with
    | .found gc => .ok gc
    | .notFound | .fault => .error (.GatewayClassNotFound g.spec.gatewayClassName)

def reconcileGatewayStart (api : ClusterApi) (s : SharedStore) (g : Gateway) :
    Except GatewayError (SharedStore × GatewayStart) :=
  if g.metadata.deletionTimestamp.isSome then .ok (s.removeGateway g.key, .deleted)
  else
    match gatewayClassOf api s g with
    | .error e => .error e
    | .ok gc =>
      if !gc.isWicketManaged then .ok (s, .ignored)
      else .ok (s.upsertGateway g.key g, .stored)

/-! ### The whole system -/

inductive ReconcileTask
  | route (r : Route) (snapshot : SnapshotResult PlannerSnapshot)
  /-- A Gateway that has been stored, whose runtime is worked on. -/
  | gateway (g : Gateway)

inductive Sighting
  | listed (obj : WatchedObject)
  | route (r : Route) (api : ClusterApi) (snapshot : SnapshotResult PlannerSnapshot)
  | gateway (g : Gateway)

namespace Sighting

def ref : Sighting → ObjectRef
  | .listed obj => obj.ref
  | .route r _ _ => (.Route r.kind, r.key)
  | .gateway g => (.Gateway, g.key)

/-- The object was listed, or reconciled without being marked, and in the case of a route accepted.
-/
def Leaves : Sighting → Prop
  | .listed _ => True
  | .route r api snapshot => r.metadata.deletionTimestamp = none ∧ ∃ p ∈ r.parentRefs, ∃ e,
      r.kind.reconciler.parentConditions api snapshot (r.metadata.ns.getD "")
        (r.metadata.name.getD "") p = .ok e ∧ e.1.status = "True"
  | .gateway g => g.metadata.deletionTimestamp = none

end Sighting

/-- The cluster, the watch caches, the work queue, the reconciles in progress and the store, with
the sightings so far, the last one first. -/
structure Watching where
  cluster : LiveObjects
  cache : LiveObjects := fun _ => none
  pending : Finset ObjectRef := ∅
  running : ObjectRef → Option ReconcileTask := fun _ => none
  store : SharedStore := {}
  sightings : List Sighting := []

inductive Event
  | apply (obj : WatchedObject)
  | delete (ref : ObjectRef) (now : String)
  | observe (ref : ObjectRef)
  | enqueue (ref : ObjectRef)
  | start (ref : ObjectRef) (api : ClusterApi)
  | finishRoute (ref : ObjectRef) (api : ClusterApi)
  | finishGateway (ref : ObjectRef) (patched : Option Gateway)
  | list (ref : ObjectRef)
  | other (w : StoreWrite)

def StoreWrite.touchesWatched : StoreWrite → Bool
  | .upsertGateway _ _ | .removeGateway _ | .upsertHttpRoute _ _ | .removeHttpRoute _
  | .upsertTcpRoute _ _ | .removeTcpRoute _ | .upsertTlsRoute _ _ | .removeTlsRoute _
  | .ingestGatewayState _ => true
  | _ => false

def SharedStore.upsert (s : SharedStore) : WatchedObject → SharedStore
  | .gateway g => s.upsertGateway g.key g
  | .route r => s.upsertRoute r.key r

namespace Watching

/-- The controller before anything happens. -/
def new (cluster : LiveObjects) : Watching := { cluster := cluster }

def start (x : Watching) (ref : ObjectRef) (api : ClusterApi) : WatchedObject → Watching
  | .route r =>
    { x with
      pending := x.pending.erase ref
      running := Function.update x.running ref (some (.route r x.store.plannerSnapshot)) }
  | .gateway g =>
    match reconcileGatewayStart api x.store g with
    -- the reconcile is tried again
    | .error _ => x
    | .ok (_, .ignored) => { x with pending := x.pending.erase ref }
    | .ok (s, .deleted) =>
      { x with
        pending := x.pending.erase ref
        store := s
        sightings := .gateway g :: x.sightings }
    | .ok (s, .stored) =>
      { x with
        pending := x.pending.erase ref
        running := Function.update x.running ref (some (.gateway g))
        store := s
        sightings := .gateway g :: x.sightings }

def finishRoute (x : Watching) (ref : ObjectRef) (api : ClusterApi) (r : Route)
    (snapshot : SnapshotResult PlannerSnapshot) : Watching :=
  match r.kind.reconciler.outcome api snapshot r with
  | .error _ =>
    { x with
      pending := insert ref x.pending
      running := Function.update x.running ref none }
  | .ok o =>
    { x with
      running := Function.update x.running ref none
      store := o.apply r x.store
      sightings := .route r api snapshot :: x.sightings }

/-- Ends the reconcile of a Gateway; after an error it is tried again. -/
def finishGateway (x : Watching) (ref : ObjectRef) (g : Gateway) : Option Gateway → Watching
  | none =>
    { x with
      pending := insert ref x.pending
      running := Function.update x.running ref none }
  | some patched =>
    { x with
      running := Function.update x.running ref none
      store := x.store.upsertGateway g.key patched
      sightings := .gateway g :: x.sightings }

def step (x : Watching) : Event → Watching
  | .apply obj => { x with cluster := x.cluster.apply obj }
  | .delete ref now => { x with cluster := x.cluster.delete ref now }
  | .observe ref =>
    { x with
      cache := Function.update x.cache ref (x.cluster ref)
      -- the news that an object is gone starts no reconcile
      pending := if (x.cluster ref).isSome then insert ref x.pending else x.pending }
  | .enqueue ref => { x with pending := insert ref x.pending }
  | .start ref api =>
    if ref ∈ x.pending ∧ (x.running ref).isNone then
      match x.cache ref with
      | none => { x with pending := x.pending.erase ref }
      | some obj => x.start ref api obj
    else x
  | .finishRoute ref api =>
    match x.running ref with
    | some (.route r snapshot) => x.finishRoute ref api r snapshot
    | _ => x
  | .finishGateway ref patched =>
    match x.running ref with
    | some (.gateway g) => x.finishGateway ref g patched
    | _ => x
  | .list ref =>
    match x.cluster ref with
    | some obj => { x with store := x.store.upsert obj, sightings := .listed obj :: x.sightings }
    | none => x
  | .other w => if w.touchesWatched then x else { x with store := w.apply x.store }

def run (x : Watching) (events : List Event) : Watching := events.foldl step x

structure Quiescent (x : Watching) : Prop where
  cache : x.cache = x.cluster
  pending : x.pending = ∅
  running : ∀ ref, x.running ref = none

end Watching

/-! ### What the store has -/

def SharedStore.has (s : SharedStore) : ObjectRef → Bool
  | (.Gateway, key) => (s.inner.gateways.lookup key).isSome
  | (.Route .HTTPRoute, key) => (s.inner.httpRoutes.lookup key).isSome
  | (.Route .TCPRoute, key) => (s.inner.tcpRoutes.lookup key).isSome
  | (.Route .TLSRoute, key) => (s.inner.tlsRoutes.lookup key).isSome

namespace SharedStore

variable (s : SharedStore) (key : String) (ref : ObjectRef)

theorem has_upsertGateway (g : Gateway) :
    (s.upsertGateway key g).has ref = (ref == (.Gateway, key) || s.has ref) := by
  obtain ⟨kind, key'⟩ := ref
  cases kind with
  | Gateway => exact isSome_lookup_insert s.inner.gateways key key' g
  | Route kind => cases kind <;> rfl

theorem has_removeGateway :
    (s.removeGateway key).has ref = (ref != (.Gateway, key) && s.has ref) := by
  obtain ⟨kind, key'⟩ := ref
  cases kind with
  | Gateway => exact isSome_lookup_erase s.inner.gateways key key'
  | Route kind => cases kind <;> rfl

theorem has_upsertRoute (r : Route) :
    (s.upsertRoute key r).has ref = (ref == (.Route r.kind, key) || s.has ref) := by
  obtain ⟨kind, key'⟩ := ref
  cases r with
  | http r =>
    rcases kind with _ | ⟨_ | _ | _⟩
    · rfl
    · exact isSome_lookup_insert s.inner.httpRoutes key key' r
    · rfl
    · rfl
  | tcp r =>
    rcases kind with _ | ⟨_ | _ | _⟩
    · rfl
    · rfl
    · exact isSome_lookup_insert s.inner.tcpRoutes key key' r
    · rfl
  | tls r =>
    rcases kind with _ | ⟨_ | _ | _⟩
    · rfl
    · rfl
    · rfl
    · exact isSome_lookup_insert s.inner.tlsRoutes key key' r

theorem has_removeRoute (kind : RouteKind) :
    (s.removeRoute key kind).has ref = (ref != (.Route kind, key) && s.has ref) := by
  obtain ⟨kind', key'⟩ := ref
  cases kind with
  | HTTPRoute =>
    rcases kind' with _ | ⟨_ | _ | _⟩
    · rfl
    · exact isSome_lookup_erase s.inner.httpRoutes key key'
    · rfl
    · rfl
  | TCPRoute =>
    rcases kind' with _ | ⟨_ | _ | _⟩
    · rfl
    · rfl
    · exact isSome_lookup_erase s.inner.tcpRoutes key key'
    · rfl
  | TLSRoute =>
    rcases kind' with _ | ⟨_ | _ | _⟩
    · rfl
    · rfl
    · rfl
    · exact isSome_lookup_erase s.inner.tlsRoutes key key'

theorem has_upsert (obj : WatchedObject) :
    (s.upsert obj).has ref = (ref == obj.ref || s.has ref) := by
  cases obj with
  | gateway g => exact s.has_upsertGateway g.key ref g
  | route r => exact s.has_upsertRoute r.key ref r

theorem has_other {w : StoreWrite} (hw : w.touchesWatched = false) :
    (w.apply s).has ref = s.has ref := by
  obtain ⟨kind, key'⟩ := ref
  cases w with
  | upsertGateway | removeGateway | upsertHttpRoute | removeHttpRoute | upsertTcpRoute
  | removeTcpRoute | upsertTlsRoute | removeTlsRoute | ingestGatewayState => cases hw
  | markListed rc =>
    have hinner : ((StoreWrite.markListed rc).apply s).inner.gateways = s.inner.gateways ∧
        s.inner.SameRoutes ((StoreWrite.markListed rc).apply s).inner := by
      simp only [StoreWrite.apply, markListed]
      split <;> exact ⟨rfl, rfl, rfl, rfl⟩
    rcases kind with _ | ⟨_ | _ | _⟩
    · rw [has, hinner.1]; rfl
    · rw [has, hinner.2.http]; rfl
    · rw [has, hinner.2.tcp]; rfl
    · rw [has, hinner.2.tls]; rfl
  | _ => rcases kind with _ | ⟨_ | _ | _⟩ <;> rfl

end SharedStore

/-! ### The last sighting -/

def lastSighting (sightings : List Sighting) (ref : ObjectRef) : Option Sighting :=
  sightings.find? fun sg => sg.ref == ref

structure Watching.Inv (x : Watching) : Prop where
  stored : ∀ ref, x.store.has ref = true ↔ ∃ sg, lastSighting x.sightings ref = some sg ∧ sg.Leaves
  live : ∀ ref g, x.running ref = some (.gateway g) → g.metadata.deletionTimestamp = none

namespace Watching

theorem Inv.of_new (cluster : LiveObjects) : (Watching.new cluster).Inv where
  stored ref := by
    have hempty : ({} : SharedStore).has ref = false := by
      obtain ⟨kind, key⟩ := ref
      rcases kind with _ | ⟨_ | _ | _⟩ <;> rfl
    simp [Watching.new, hempty, lastSighting]
  live ref g h := by cases h

variable {x y : Watching} {sg : Sighting} {ref : ObjectRef}

theorem Inv.frame (h : x.Inv) (hstore : ∀ ref, y.store.has ref = x.store.has ref)
    (hsightings : y.sightings = x.sightings)
    (hrunning : ∀ ref g, y.running ref = some (.gateway g) → x.running ref = some (.gateway g)) :
    y.Inv where
  stored ref := by
    rw [hstore, hsightings]
    exact h.stored ref
  live ref g hg := h.live ref g (hrunning ref g hg)

theorem Inv.sighted (h : x.Inv) (hsightings : y.sightings = sg :: x.sightings)
    (hown : y.store.has sg.ref = true ↔ sg.Leaves)
    (hother : ∀ ref, ref ≠ sg.ref → y.store.has ref = x.store.has ref)
    (hlive : ∀ ref g, y.running ref = some (.gateway g) → g.metadata.deletionTimestamp = none) :
    y.Inv where
  stored ref := by
    rw [hsightings, lastSighting, List.find?_cons]
    by_cases href : ref = sg.ref
    · subst href
      simpa using hown
    · have hne : (sg.ref == ref) = false := by simpa using fun heq => href heq.symm
      rw [hother ref href, hne]
      exact h.stored ref
  live := hlive

theorem Inv.upserted (h : x.Inv) (hsightings : y.sightings = sg :: x.sightings)
    (hleaves : sg.Leaves) (hstore : ∀ ref, y.store.has ref = (ref == sg.ref || x.store.has ref))
    (hlive : ∀ ref g, y.running ref = some (.gateway g) → g.metadata.deletionTimestamp = none) :
    y.Inv := by
  refine h.sighted hsightings ?_ (fun ref href => ?_) hlive
  · simp [hstore, hleaves]
  · simp [hstore, href]

theorem Inv.removed (h : x.Inv) (hsightings : y.sightings = sg :: x.sightings)
    (hleaves : ¬sg.Leaves) (hstore : ∀ ref, y.store.has ref = (ref != sg.ref && x.store.has ref))
    (hlive : ∀ ref g, y.running ref = some (.gateway g) → g.metadata.deletionTimestamp = none) :
    y.Inv := by
  refine h.sighted hsightings ?_ (fun ref href => ?_) hlive
  · simp [hstore, hleaves]
  · simp [hstore, href]

theorem running_of_update {ref' : ObjectRef} {task : ReconcileTask}
    (h : update x.running ref none ref' = some task) : x.running ref' = some task := by
  by_cases href : ref' = ref
  · subst href
    simp at h
  · rwa [update_of_ne href] at h

theorem running_of_update_some {ref' : ObjectRef} {task task' : ReconcileTask}
    (h : update x.running ref (some task) ref' = some task') :
    task' = task ∨ x.running ref' = some task' := by
  by_cases href : ref' = ref
  · subst href
    rw [update_self] at h
    exact .inl (Option.some.inj h).symm
  · rw [update_of_ne href] at h
    exact .inr h

theorem Inv.start (h : x.Inv) (ref : ObjectRef) (api : ClusterApi) (obj : WatchedObject) :
    (x.start ref api obj).Inv := by
  cases obj with
  | route r =>
    refine h.frame (fun _ => rfl) rfl fun ref' g hg => ?_
    rcases running_of_update_some hg with htask | hrunning
    · cases htask
    · exact hrunning
  | gateway g =>
    simp only [Watching.start, reconcileGatewayStart]
    cases hmark : g.metadata.deletionTimestamp with
    | some timestamp =>
      refine h.removed rfl ?_ (fun ref => x.store.has_removeGateway g.key ref) h.live
      intro hleaves
      cases hmark.symm.trans hleaves
    | none =>
      cases gatewayClassOf api x.store g with
      | error e => exact h
      | ok gc =>
        cases hmanaged : gc.isWicketManaged with
        | false =>
          simp only [hmanaged, Bool.not_false, if_true]
          exact h.frame (fun _ => rfl) rfl fun _ _ => id
        | true =>
          simp only [hmanaged, Bool.not_true, Bool.false_eq_true, if_false]
          refine h.upserted rfl hmark
            (fun ref => x.store.has_upsertGateway g.key ref g) fun ref' g' hg' => ?_
          rcases running_of_update_some hg' with htask | hrunning
          · cases htask
            exact hmark
          · exact h.live ref' g' hrunning

theorem Inv.finishRoute (h : x.Inv) (ref : ObjectRef) (api : ClusterApi) (r : Route)
    (snapshot : SnapshotResult PlannerSnapshot) : (x.finishRoute ref api r snapshot).Inv := by
  rw [Watching.finishRoute]
  split
  · exact h.frame (fun _ => rfl) rfl fun _ _ => running_of_update
  · rename_i o ho
    have hrunning : ∀ ref' g, update x.running ref none ref' = some (.gateway g) →
        g.metadata.deletionTimestamp = none :=
      fun ref' g hg => h.live ref' g (running_of_update hg)
    rcases RouteReconciler.outcome_cases ho with ⟨hdeleted, rfl⟩ | ⟨hlive, c, hc, rfl⟩
    · refine h.removed rfl ?_ (fun ref => x.store.has_removeRoute r.key ref r.kind) hrunning
      rintro ⟨hlive, -⟩
      rw [hlive] at hdeleted
      cases hdeleted
    · have hleaves : (Sighting.route r api snapshot).Leaves ↔
          (r.parentRefs.any fun p => (c p).1.status == "True") = true := by
        rw [List.any_eq_true]
        constructor
        · rintro ⟨-, p, hp, e, he, hstatus⟩
          obtain rfl := Except.ok.inj ((hc p hp).symm.trans he)
          exact ⟨p, hp, by simpa using hstatus⟩
        · rintro ⟨p, hp, hstatus⟩
          exact ⟨hlive, p, hp, c p, hc p hp, by simpa using hstatus⟩
      cases hany : r.parentRefs.any fun p => (c p).1.status == "True" with
      | true =>
        refine h.upserted rfl (hleaves.2 hany) (fun ref => ?_) hrunning
        have hkind : (r.withStatus (r.kind.reconciler.statusOf r c)).kind = r.kind := by
          cases r <;> rfl
        have hhas := x.store.has_upsertRoute r.key ref
          (r.withStatus (r.kind.reconciler.statusOf r c))
        rwa [hkind] at hhas
      | false =>
        refine h.removed rfl (by simp [hleaves, hany])
          (fun ref => x.store.has_removeRoute r.key ref r.kind) hrunning

theorem Inv.finishGateway (h : x.Inv) {g : Gateway} (hg : x.running ref = some (.gateway g))
    (patched : Option Gateway) :
    (x.finishGateway ref g patched).Inv := by
  cases patched with
  | none => exact h.frame (fun _ => rfl) rfl fun _ _ => running_of_update
  | some patched =>
    refine h.upserted rfl (h.live ref g hg)
      (fun ref => x.store.has_upsertGateway g.key ref patched) fun ref' g' hg' => ?_
    exact h.live ref' g' (running_of_update hg')

theorem Inv.step (h : x.Inv) (e : Event) : (x.step e).Inv := by
  cases e with
  | apply obj => exact h.frame (fun _ => rfl) rfl fun _ _ => id
  | delete ref now => exact h.frame (fun _ => rfl) rfl fun _ _ => id
  | observe ref => exact h.frame (fun _ => rfl) rfl fun _ _ => id
  | enqueue ref => exact h.frame (fun _ => rfl) rfl fun _ _ => id
  | start ref api =>
    simp only [Watching.step]
    split
    · split
      · exact h.frame (fun _ => rfl) rfl fun _ _ => id
      · exact h.start ref api _
    · exact h
  | finishRoute ref api =>
    simp only [Watching.step]
    split
    · exact h.finishRoute ref api _ _
    · exact h
  | finishGateway ref patched =>
    simp only [Watching.step]
    split
    · rename_i g hg
      exact h.finishGateway hg patched
    · exact h
  | list ref =>
    simp only [Watching.step]
    split
    · rename_i obj _
      exact h.upserted rfl trivial (fun ref => x.store.has_upsert ref obj) h.live
    · exact h
  | other w =>
    simp only [Watching.step]
    split
    · exact h
    · rename_i hw
      exact h.frame (fun ref => x.store.has_other ref (by simpa using hw)) rfl fun _ _ => id

theorem Inv.run (h : x.Inv) (events : List Event) : (x.run events).Inv :=
  List.foldlRecOn events Watching.step h fun _ hx e _ => hx.step e

end Watching

/-- **Every stored object exists exactly when every object that is gone was last seen with its mark,
or as a route no parent accepted, if it was seen at all.** -/
theorem stored_exist_iff (cluster : LiveObjects) (events : List Event) :
    (∀ ref, ((Watching.new cluster).run events).store.has ref = true →
        (((Watching.new cluster).run events).cluster ref).isSome = true) ↔
      ∀ ref, ((Watching.new cluster).run events).cluster ref = none →
        ∀ sg, lastSighting ((Watching.new cluster).run events).sightings ref = some sg →
          ¬sg.Leaves := by
  have hinv := (Watching.Inv.of_new cluster).run events
  constructor
  · intro h ref hgone sg hlast hleaves
    have hexists := h ref ((hinv.stored ref).2 ⟨sg, hlast, hleaves⟩)
    rw [hgone] at hexists
    cases hexists
  · intro h ref hstored
    obtain ⟨sg, hlast, hleaves⟩ := (hinv.stored ref).1 hstored
    cases hobj : ((Watching.new cluster).run events).cluster ref with
    | none => exact absurd hleaves (h ref hobj sg hlast)
    | some obj => rfl

/-! ### A Gateway that is never seen with its mark -/

def briefGateway : Gateway where
  metadata := { ns := some "team", name := some "brief" }
  spec := { gatewayClassName := "wicket", listeners := [] }

def briefRef : ObjectRef := (.Gateway, "team/brief")

def briefApi : ClusterApi where
  gateway _ _ := .notFound
  gatewayClass _ := .found
    { metadata := { ns := none, name := some "wicket" }, controllerName := wicketControllerName }

def briefRun : List Event :=
  [.apply (.gateway briefGateway), .observe briefRef, .start briefRef briefApi,
    .finishGateway briefRef (some briefGateway), .delete briefRef "2025-01-01T00:00:00Z",
    .observe briefRef]

theorem briefGateway_stored_gone :
    ((Watching.new fun _ => none).run briefRun).Quiescent ∧
      ((Watching.new fun _ => none).run briefRun).cluster briefRef = none ∧
      ((Watching.new fun _ => none).run briefRun).store.has briefRef = true := by
  have hcluster : ((Watching.new fun _ => none).run briefRun).cluster =
      Function.update (Function.update (fun _ => none) briefRef (some (.gateway briefGateway)))
        briefRef none := rfl
  have hcache : ((Watching.new fun _ => none).run briefRun).cache =
      Function.update (Function.update (fun _ => none) briefRef (some (.gateway briefGateway)))
        briefRef none := rfl
  have hrunning : ((Watching.new fun _ => none).run briefRun).running =
      Function.update (Function.update (fun _ => none) briefRef (some (.gateway briefGateway)))
        briefRef none := rfl
  refine ⟨⟨hcache.trans hcluster.symm, rfl, fun ref => ?_⟩, rfl, rfl⟩
  by_cases href : ref = briefRef
  · rw [hrunning, href, Function.update_self]
  · rw [hrunning, Function.update_of_ne href, Function.update_of_ne href]

end Wicket
