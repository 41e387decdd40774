/-
**Who fills a slot of the stream configuration.**

The routes are visited in the order of their keys, and what one of them has claimed is left alone by
the later ones.  So a slot belongs to the first backend of the first route that asks for it.

Main definitions:

* `FilledBy` — a part of the output that is filled in this way;
* `StreamOutput.Listed` — the ordered list of server names and their owners agree.

Main results:

* `FilledBy.renderStreamRoutes_eq` — the slot after all routes;
* `filledBy_sniOwner` — the owner of a server name is such a slot;
* `lookup_sniRoutes_eq`, `isSome_lookup_sniRoutes` — the server names of the configuration.
-/

import Wicket.Rendered

namespace Wicket

open List KeyMap
open Check

/-! ### Slots -/

theorem head?_refsOf_eq {ρ : Type} {kind : RouteKind} {accepted : ρ → Bool} {routeNs : ρ → String}
    {backendRefs : ρ → List BackendRef} {routes : HashMap String ρ} :
    (refsOf kind accepted routeNs backendRefs routes).head? =
      (sortedEntries routes).findSome? fun e =>
        if accepted e.2 then (backendRefs e.2).head?.map fun b => ⟨kind, e.1, routeNs e.2, b⟩
        else none := by
  rw [refsOf, head?_flatMap]
  induction sortedEntries routes with
  | nil => rfl
  | cons e entries ih =>
    rw [filter_cons, findSome?_cons, ← ih]
    cases accepted e.2 <;> simp [findSome?_cons]

/-- A part of the output that the TLSRoutes of a kind fill, the first backend first. -/
structure FilledBy (st : GatewayState) (p : TLSRoute → Bool)
    (slot : StreamOutput → Option String) : Prop where
  start : slot {} = none
  tls : ∀ route out b, slot (renderTlsBackend st route out b) =
    (slot out).or (if p route then some (streamUpstreamName route.routeNs b.name) else none)
  tcp : ∀ route out b, slot (renderTcpBackend st route out b) = slot out

namespace FilledBy

variable {st : GatewayState} {p : TLSRoute → Bool} {slot : StreamOutput → Option String}

theorem renderTlsRoute_eq (h : FilledBy st p slot) (out : StreamOutput) (e : String × TLSRoute) :
    slot (renderTlsRoute st out e) = (slot out).or
      (if tlsRouteIsAccepted e.2 && p e.2 then
        e.2.backendRefs.head?.map fun b => streamUpstreamName e.2.routeNs b.name else none) := by
  rw [renderTlsRoute]
  cases tlsRouteIsAccepted e.2 with
  | false => simp
  | true =>
    have hloop := foldl_firstWrite slot (h.tls e.2) e.2.backendRefs out
    rw [TLSRoute.backendRefs, foldl_flatMap, ← TLSRoute.backendRefs] at hloop
    refine hloop.trans (congrArg _ ?_)
    cases p e.2 <;> cases e.2.backendRefs <;> simp

theorem renderTcpRoute_eq (h : FilledBy st p slot) (out : StreamOutput) (e : String × TCPRoute) :
    slot (renderTcpRoute st out e) = slot out := by
  rw [renderTcpRoute]
  split
  · rfl
  · refine foldl_keeps slot ?_ _ _
    intro out rule
    exact foldl_keeps slot (h.tcp e.2) _ _

theorem renderStreamRoutes_eq (h : FilledBy st p slot) :
    slot (renderStreamRoutes st) =
      (refsOf .TLSRoute (fun route => tlsRouteIsAccepted route && p route) TLSRoute.routeNs
        TLSRoute.backendRefs st.tlsRoutes).head?.map StreamRef.upstreamName := by
  rw [renderStreamRoutes, foldl_keeps slot h.renderTcpRoute_eq,
    foldl_firstWrite slot h.renderTlsRoute_eq, h.start, Option.none_or, head?_refsOf_eq,
    map_findSome?]
  congr 1
  funext e
  rw [Function.comp_apply]
  split
  · rw [Option.map_map]
    rfl
  · rfl

end FilledBy

/-! ### Server names -/

variable {hostname : String}

theorem getElem?_claimSni (upstreamName : String) (out : StreamOutput) (name : String) :
    (claimSni upstreamName out name).sniOwner[hostname]? =
      out.sniOwner[hostname]?.or (if name = hostname then some upstreamName else none) := by
  rw [claimSni]
  by_cases hname : name = hostname
  · subst name
    rw [Std.TreeMap.contains_eq_isSome_getElem?]
    cases howner : out.sniOwner[hostname]? <;> simp [howner]
  · rw [if_neg hname, Option.or_none]
    split
    · rfl
    · simp [Std.TreeMap.getElem?_insert, hname]

theorem filledBy_sniOwner (st : GatewayState) (hostname : String) :
    FilledBy st (fun route => route.spec.hostnames.contains hostname)
      (fun out => out.sniOwner[hostname]?) where
  start := by simp
  tls route out b := by
    simp only [renderTlsBackend]
    split
    · rename_i hempty
      simp [isEmpty_iff.1 hempty]
    · rw [foldl_firstWrite (fun out : StreamOutput => out.sniOwner[hostname]?)
        (getElem?_claimSni (streamUpstreamName route.routeNs b.name))]
      induction route.spec.hostnames with
      | nil => rfl
      | cons name names ih =>
        by_cases hname : name = hostname
        · simp [hname]
        · simp [hname, ih, Ne.symm hname]
  tcp _ _ _ := rfl

def StreamOutput.Listed (out : StreamOutput) : Prop :=
  ∀ hostname upstream, (hostname, upstream) ∈ out.sniRoutesOrdered ↔
    out.sniOwner[hostname]? = some upstream

theorem claimSni_listed {upstreamName : String} {out : StreamOutput} (h : out.Listed)
    (name : String) : (claimSni upstreamName out name).Listed := by
  intro hostname upstream
  rw [claimSni]
  split
  · exact h hostname upstream
  · rename_i hfree
    rw [Std.TreeMap.contains_eq_isSome_getElem?, Option.not_isSome_iff_eq_none] at hfree
    rw [mem_append, mem_singleton, h, Std.TreeMap.getElem?_insert, Prod.mk.injEq]
    by_cases hname : name = hostname
    · subst name
      simp only [hfree, reduceCtorEq, true_and, false_or, Std.ReflCmp.compare_self, if_true,
        Option.some_inj]
      exact eq_comm
    · simp [hname, Ne.symm hname]

theorem renderStreamRoutes_listed (st : GatewayState) : (renderStreamRoutes st).Listed := by
  have htls : ∀ route out b, out.Listed → (renderTlsBackend st route out b).Listed := by
    intro route out b h
    simp only [renderTlsBackend]
    split
    · exact h
    · exact foldlRecOn _ _ h fun out h name _ => claimSni_listed h name
  refine foldlRecOn _ _ (foldlRecOn _ _ ?_ ?_) ?_
  · simp [StreamOutput.Listed]
  · intro out h e _
    rw [renderTlsRoute]
    split
    · exact h
    · exact foldlRecOn _ _ h fun out h rule _ =>
        foldlRecOn _ _ h fun out h b _ => htls e.2 out b h
  · intro out h e _
    rw [renderTcpRoute]
    split
    · exact h
    · exact foldlRecOn _ _ h fun out h rule _ =>
        foldlRecOn _ _ h fun out h b _ => h

theorem lookup_sniRoutes_eq (st : GatewayState) (hostname : String) :
    (renderStreamRoutes st).sniRoutes.lookup hostname =
      (renderStreamRoutes st).sniOwner[hostname]? := by
  have hlisted := renderStreamRoutes_listed st hostname
  rw [StreamOutput.sniRoutes, lookup_collect_toList, getElem?_ofList]
  cases howner : (renderStreamRoutes st).sniOwner[hostname]? with
  | none =>
    rw [lastWrite_eq_none]
    rintro ⟨name, upstream⟩ hmem rfl
    rw [mem_insertionSort, hlisted, howner] at hmem
    cases hmem
  | some owner =>
    refine lastWrite_of_forall ((mem_insertionSort _).2 ((hlisted _).2 howner)) ?_
    intro upstream hmem
    rw [mem_insertionSort, hlisted, howner, Option.some_inj] at hmem
    exact hmem.symm

theorem isSome_lookup_sniRoutes {st : GatewayState} :
    ((renderStreamRoutes st).sniRoutes.lookup hostname).isSome = true ↔
      ∃ key route, st.tlsRoutes.lookup key = some route ∧ tlsRouteIsAccepted route = true ∧
        hostname ∈ route.spec.hostnames ∧ route.backendRefs ≠ [] := by
  rw [lookup_sniRoutes_eq, (filledBy_sniOwner st hostname).renderStreamRoutes_eq, Option.isSome_map,
    Option.isSome_iff_ne_none, ne_eq, head?_eq_none_iff]
  constructor
  · intro hne
    obtain ⟨r, hr⟩ := exists_mem_of_ne_nil _ hne
    obtain ⟨-, route, hroute, haccepted, -, hb⟩ := mem_refsOf.1 hr
    rw [Bool.and_eq_true, contains_iff_mem] at haccepted
    exact ⟨r.key, route, hroute, haccepted.1, haccepted.2, ne_nil_of_mem hb⟩
  · rintro ⟨key, route, hroute, haccepted, hhost, hbackends⟩
    obtain ⟨b, hb⟩ := exists_mem_of_ne_nil _ hbackends
    have hasks : (tlsRouteIsAccepted route && route.spec.hostnames.contains hostname) = true := by
      simp [haccepted, hhost]
    exact ne_nil_of_mem (a := ⟨.TLSRoute, key, route.routeNs, b⟩)
      (mem_refsOf.2 ⟨rfl, route, hroute, hasks, rfl, hb⟩)

end Wicket
