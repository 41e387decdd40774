/-
**What the generator renders.**

The loops of the generator, described by lists: the rules of the accepted HTTPRoutes in the order
they are visited, and the backend references of the accepted TLSRoutes and TCPRoutes.
-/

import Wicket.Generator
import Wicket.Stream

namespace Wicket

open List KeyMap
open Check

/-! ### The rules of the HTTP routes -/

structure HttpRule where
  key : String
  route : HTTPRoute
  idx : ℕ
  rule : HTTPRouteRule
  deriving DecidableEq

def HttpRule.backends (st : GatewayState) (r : HttpRule) : List String :=
  ruleBackends st r.route r.rule

def HttpRule.upstreamName (r : HttpRule) : String :=
  ruleUpstreamName r.route.routeNs r.route.routeName r.idx

def HttpRule.timeout (r : HttpRule) : Option UInt64 :=
  match r.rule.timeout with
  | .ok timeout => timeout
  | .error _ => none

def HttpRule.routes (r : HttpRule) : List RouteConfig :=
  ruleRoutes r.route r.rule r.idx r.timeout

def httpRules (st : GatewayState) : List HttpRule :=
  ((sortedEntries st.httpRoutes).filter fun e => httpRouteIsAccepted e.2).flatMap fun e =>
    e.2.spec.rules.zipIdx.map fun r => ⟨e.1, e.2, r.2, r.1⟩

def liveRules (st : GatewayState) : List HttpRule :=
  (httpRules st).filter fun r => !(r.backends st).isEmpty

variable {st : GatewayState} {r : HttpRule} {c : Config} {name : String} {out : StreamOutput}
  {sc : StreamConfig}

theorem mem_httpRules :
    r ∈ httpRules st ↔ st.httpRoutes.lookup r.key = some r.route ∧
      httpRouteIsAccepted r.route = true ∧ r.route.spec.rules[r.idx]? = some r.rule := by
  simp only [httpRules, mem_flatMap, mem_filter, mem_map, Prod.exists,
    mem_sortedEntries, mem_zipIdx_iff_getElem?]
  constructor
  · rintro ⟨key, route, ⟨hlookup, haccepted⟩, rule, idx, hrule, rfl⟩
    exact ⟨hlookup, haccepted, hrule⟩
  · rintro ⟨hlookup, haccepted, hrule⟩
    exact ⟨r.key, r.route, ⟨hlookup, haccepted⟩, r.rule, r.idx, hrule, rfl⟩

theorem mem_liveRules : r ∈ liveRules st ↔ r ∈ httpRules st ∧ r.backends st ≠ [] := by
  simp [liveRules]

/-- The first rule is visited before the second: by the keys of the routes, then by the index. -/
def HttpRule.Before (a b : HttpRule) : Prop := a.key < b.key ∨ a.key = b.key ∧ a.idx < b.idx

theorem HttpRule.Before.asymm {a b : HttpRule} (h : a.Before b) : ¬b.Before a := by
  rintro (hkey | ⟨hkey, hidx⟩)
  · rcases h with h | ⟨h, -⟩
    · exact lt_asymm h hkey
    · exact absurd h hkey.ne'
  · rcases h with h | ⟨-, h⟩
    · exact absurd hkey h.ne'
    · omega

theorem pairwise_liveRules (st : GatewayState) : (liveRules st).Pairwise HttpRule.Before := by
  refine List.Pairwise.filter _ (pairwise_flatMap.2 ⟨?_, ?_⟩)
  · -- within a route the index grows
    rintro ⟨key, route⟩ -
    rw [pairwise_map]
    have hidx : route.spec.rules.zipIdx.Pairwise fun a b => a.2 < b.2 := by
      rw [← pairwise_map, zipIdx_map_snd]
      exact pairwise_lt_range'
    exact hidx.imp fun h => Or.inr ⟨rfl, h⟩
  · -- from one route to the next the key does
    refine ((pairwise_sortedEntries st.httpRoutes).filter _).imp ?_
    intro e e' hkey r hr r' hr'
    obtain ⟨_, -, rfl⟩ := mem_map.1 hr
    obtain ⟨_, -, rfl⟩ := mem_map.1 hr'
    exact Or.inl hkey

def HttpRule.host (r : HttpRule) : Option String := r.route.spec.hostnames.head?

def HttpRule.mkRoute (r : HttpRule) (name : String) (rules : RouteMatch) : RouteConfig where
  name := some name
  upstream := r.upstreamName
  matchRules := rules
  timeout := r.timeout

inductive HttpRule.Renders (r : HttpRule) : String → RouteMatch → Prop
  | all (hnone : r.rule.matches_ = []) : r.Renders r.upstreamName (emptyMatchRules r.host)
  | one {i : ℕ} {m : HTTPRouteMatch} {rules : RouteMatch} (hm : r.rule.matches_[i]? = some m)
      (hrules : matchRules r.host m = some rules) :
      r.Renders (matchRouteName r.route.routeNs r.route.routeName r.idx i) rules

theorem HttpRule.mem_routes {rc : RouteConfig} :
    rc ∈ r.routes ↔ ∃ name rules, r.Renders name rules ∧ rc = r.mkRoute name rules := by
  rw [HttpRule.routes, ruleRoutes]
  split
  · rename_i hempty
    have hnone : r.rule.matches_ = [] := isEmpty_iff.1 hempty
    constructor
    · intro h
      exact ⟨_, _, .all hnone, mem_singleton.1 h⟩
    · rintro ⟨name, rules, hr, rfl⟩
      cases hr with
      | all => exact mem_singleton.2 rfl
      | one hm => simp [hnone] at hm
  · rename_i hne
    constructor
    · intro h
      obtain ⟨⟨m, i⟩, hm, he⟩ := mem_filterMap.1 h
      obtain ⟨rules, hrules, rfl⟩ := Option.map_eq_some_iff.1 he
      exact ⟨_, rules, .one (mem_zipIdx_iff_getElem?.1 hm) hrules, rfl⟩
    · rintro ⟨name, rules, hr, rfl⟩
      cases hr with
      | all hnone => simp [hnone] at hne
      | @one i m _ hm hrules =>
        refine mem_filterMap.2 ⟨(m, i), mem_zipIdx_iff_getElem?.2 hm, ?_⟩
        exact Option.map_eq_some_iff.2 ⟨rules, hrules, rfl⟩

def HTTPRouteRule.emitsRoutes (rule : HTTPRouteRule) : Bool :=
  rule.matches_.isEmpty || rule.matches_.any fun m => (pathRules m.path).isSome

theorem HttpRule.routes_ne_nil : r.routes ≠ [] ↔ r.rule.emitsRoutes = true := by
  rw [HTTPRouteRule.emitsRoutes, Bool.or_eq_true, List.isEmpty_iff, List.any_eq_true]
  constructor
  · intro h
    obtain ⟨rc, hrc⟩ := List.exists_mem_of_ne_nil _ h
    obtain ⟨name, rules, hrules, -⟩ := HttpRule.mem_routes.1 hrc
    cases hrules with
    | all hnone => exact Or.inl hnone
    | @one i m _ hm hrules =>
      obtain ⟨paths, hpaths, -⟩ := Option.map_eq_some_iff.1 hrules
      exact Or.inr ⟨m, mem_of_getElem? hm, by rw [hpaths]; rfl⟩
  · rintro (hnone | ⟨m, hm, hpath⟩)
    · exact ne_nil_of_mem (HttpRule.mem_routes.2 ⟨_, _, .all hnone, rfl⟩)
    · obtain ⟨i, hi⟩ := getElem?_of_mem hm
      obtain ⟨paths, hpaths⟩ := Option.isSome_iff_exists.1 hpath
      exact ne_nil_of_mem (HttpRule.mem_routes.2
        ⟨_, _, .one hi (Option.map_eq_some_iff.2 ⟨paths, hpaths, rfl⟩), rfl⟩)

def addRule (st : GatewayState) (out : HttpOutput) (r : HttpRule) : HttpOutput :=
  if (r.backends st).isEmpty then out
  else
    { upstreams := out.upstreams.insert r.upstreamName { backends := r.backends st }
      routes := out.routes ++ r.routes }

/-- The rule does not make the generator panic. -/
def HttpRule.Safe (st : GatewayState) (r : HttpRule) : Prop :=
  r.backends st ≠ [] → ∃ timeout, r.rule.timeout = .ok timeout

theorem renderRule_eq_ok (st : GatewayState) (key : String) (route : HTTPRoute)
    (out : HttpOutput) (e : HTTPRouteRule × ℕ) (out' : HttpOutput) :
    renderRule st route out e = .ok out' ↔
      HttpRule.Safe st ⟨key, route, e.2, e.1⟩ ∧ out' = addRule st out ⟨key, route, e.2, e.1⟩ := by
  simp only [renderRule, HttpRule.Safe, addRule, HttpRule.backends]
  -- the duration is read only once the rule has an address
  by_cases hempty : ruleBackends st route e.1 = []
  · simp [hempty, eq_comm]
  · simp only [List.isEmpty_iff, hempty, if_false, map_eq_ok, ne_eq, not_false_eq_true,
      true_implies]
    constructor
    · rintro ⟨timeout, htimeout, rfl⟩
      simp [HttpRule.routes, HttpRule.timeout, HttpRule.upstreamName, htimeout]
    · rintro ⟨⟨timeout, htimeout⟩, rfl⟩
      simp [HttpRule.routes, HttpRule.timeout, HttpRule.upstreamName, htimeout]

theorem renderHttpRoute_eq_ok (st : GatewayState) (out : HttpOutput) (e : String × HTTPRoute)
    (out' : HttpOutput) :
    renderHttpRoute st out e = .ok out' ↔
      (∀ r ∈ e.2.spec.rules.zipIdx, httpRouteIsAccepted e.2 = true →
        HttpRule.Safe st ⟨e.1, e.2, r.2, r.1⟩) ∧
      out' = if httpRouteIsAccepted e.2 = true then
        (e.2.spec.rules.zipIdx.map fun r => HttpRule.mk e.1 e.2 r.2 r.1).foldl (addRule st) out
      else out := by
  rw [renderHttpRoute]
  by_cases haccepted : httpRouteIsAccepted e.2 = true
  · simp only [haccepted, Bool.not_true, Bool.false_eq_true, if_false, if_true, true_implies,
      foldl_map]
    exact foldlM_eq_ok (renderRule_eq_ok st e.1 e.2)
  · simp [haccepted, eq_comm]

theorem renderHttpRoutes_eq_ok {out : HttpOutput} :
    renderHttpRoutes st = .ok out ↔
      (∀ r ∈ httpRules st, r.Safe st) ∧ out = (httpRules st).foldl (addRule st) {} := by
  rw [renderHttpRoutes, foldlM_eq_ok (renderHttpRoute_eq_ok st)]
  refine and_congr ?_ ?_
  · constructor
    · intro h r hr
      obtain ⟨hlookup, haccepted, hrule⟩ := mem_httpRules.1 hr
      exact h (r.key, r.route) (mem_sortedEntries.2 hlookup) (r.rule, r.idx)
        (mem_zipIdx_iff_getElem?.2 hrule) haccepted
    · rintro h ⟨key, route⟩ he ⟨rule, idx⟩ hr haccepted
      exact h _ (mem_httpRules.2 ⟨mem_sortedEntries.1 he, haccepted, mem_zipIdx_iff_getElem?.1 hr⟩)
  · rw [httpRules, foldl_flatMap, foldl_filter]

def upstreamWrites (st : GatewayState) (rules : List HttpRule) : List (String × UpstreamConfig) :=
  rules.map fun r => (r.upstreamName, { backends := r.backends st })

theorem foldl_addRule_routes (st : GatewayState) (rules : List HttpRule) (out : HttpOutput) :
    (rules.foldl (addRule st) out).routes = out.routes ++
      (rules.filter fun r => !(r.backends st).isEmpty).flatMap HttpRule.routes := by
  induction rules generalizing out with
  | nil => simp
  | cons r rules ih =>
    rw [foldl_cons, ih, addRule, filter_cons]
    cases hempty : (r.backends st).isEmpty <;> simp

theorem foldl_addRule_upstreams (st : GatewayState) (rules : List HttpRule) (name : String) :
    (rules.foldl (addRule st) {}).upstreams[name]? =
      lastWrite (upstreamWrites st (rules.filter fun r => !(r.backends st).isEmpty)) name := by
  -- from the end of the list, since the last rule decides what a name is mapped to
  induction rules using reverseRecOn with
  | nil => simp [upstreamWrites, lastWrite]
  | append_singleton rules r ih =>
    rw [foldl_append, filter_append, upstreamWrites, map_append, foldl_cons, foldl_nil, addRule]
    cases hempty : (r.backends st).isEmpty with
    | true => simpa [hempty, upstreamWrites] using ih
    | false =>
      simp only [Bool.false_eq_true, if_false, filter_cons, hempty, Bool.not_false,
        if_true, filter_nil, map_cons, map_nil,
        lastWrite_append_singleton, Std.TreeMap.getElem?_insert, Std.compare_eq_iff_eq]
      rw [ih]
      rfl

/-- **The generated configuration**: there is one when no duration is split inside a character. -/
structure IsGenerated (st : GatewayState) (c : Config) : Prop where
  server : c.server = serverConfig st.httpListeners st.httpsListeners
  routes : c.routes = (liveRules st).flatMap HttpRule.routes
  upstreams : ∀ name : String,
    c.upstreams[name]? = lastWrite (upstreamWrites st (liveRules st)) name
  tls : c.tls = tlsConfig st
  streams : c.streams = (streamConfig st).toList
  logging : c.logging = {}

def GatewayState.Splittable (st : GatewayState) : Prop :=
  ∀ r ∈ liveRules st, ∃ timeout, r.rule.timeout = .ok timeout

theorem forall_safe_iff : (∀ r ∈ httpRules st, r.Safe st) ↔ st.Splittable := by
  simp only [GatewayState.Splittable, mem_liveRules, HttpRule.Safe, and_imp]

theorem isGenerated_of_eq_ok (h : generateConfig st = .ok c) : IsGenerated st c := by
  obtain ⟨out, hout, rfl⟩ := map_eq_ok.1 h
  obtain ⟨-, rfl⟩ := renderHttpRoutes_eq_ok.1 hout
  refine ⟨rfl, ?_, ?_, rfl, rfl, rfl⟩
  · rw [liveRules]
    simpa using foldl_addRule_routes st (httpRules st) {}
  · exact foldl_addRule_upstreams st (httpRules st)

/-- The last rule rendered under a name, whose upstream the configuration keeps. -/
def keptRule (st : GatewayState) (name : String) : Option HttpRule :=
  lastWrite ((liveRules st).map fun r => (r.upstreamName, r)) name

theorem keptRule_eq_some :
    keptRule st name = some r ↔ (r ∈ liveRules st ∧ r.upstreamName = name) ∧
      ∀ r' ∈ liveRules st, r'.upstreamName = name → ¬r.Before r' := by
  have hpairwise : ((liveRules st).map fun r => (r.upstreamName, r)).Pairwise
      fun a b => a.2.Before b.2 := pairwise_map.2 (pairwise_liveRules st)
  have hasymm : ∀ a b : HttpRule, a.Before b → ¬b.Before a := fun _ _ => HttpRule.Before.asymm
  rw [keptRule, lastWrite_of_pairwise hasymm hpairwise]
  simp

theorem upstream_of_kept (hgen : IsGenerated st c) (hkept : keptRule st r.upstreamName = some r) :
    c.upstreams[r.upstreamName]? = some { backends := r.backends st } := by
  have hmap := lastWrite_map
    (fun r : HttpRule => ({ backends := r.backends st } : UpstreamConfig))
    ((liveRules st).map fun r => (r.upstreamName, r)) r.upstreamName
  rw [map_map] at hmap
  rw [hgen.upstreams]
  refine hmap.trans ?_
  rw [← keptRule, hkept]
  rfl

theorem upstream_of_liveRules_singleton (hgen : IsGenerated st c) (hlive : liveRules st = [r]) :
    c.upstreams[r.upstreamName]? = some { backends := r.backends st } := by
  refine upstream_of_kept hgen (keptRule_eq_some.2 ⟨⟨?_, rfl⟩, ?_⟩)
  · rw [hlive]
    exact mem_singleton.2 rfl
  · rintro r' hr' - hbefore
    rw [hlive, mem_singleton] at hr'
    subst hr'
    exact hbefore.asymm hbefore

theorem exists_generateConfig : (∃ c, generateConfig st = .ok c) ↔ st.Splittable := by
  simp only [generateConfig, exists_map_eq_ok, renderHttpRoutes_eq_ok, forall_safe_iff]
  constructor
  · rintro ⟨out, h, -⟩
    exact h
  · intro h
    exact ⟨_, h, rfl⟩

theorem splittable_of_timeouts {st : GatewayState}
    (h : ∀ r ∈ liveRules st, r.rule.timeouts = none) : st.Splittable := by
  intro r hr
  exact ⟨none, by simp [HTTPRouteRule.timeout, h r hr]⟩

/-! ### The references of the stream routes -/

structure StreamRef where
  kind : RouteKind
  key : String
  routeNs : String
  ref : BackendRef
  deriving DecidableEq

/-- The port of a fallback address when the reference has none. -/
def RouteKind.defaultPort : RouteKind → UInt16
  | .HTTPRoute => 80
  | .TCPRoute => 9000
  | .TLSRoute => 443

def StreamRef.upstreamName (r : StreamRef) : String := streamUpstreamName r.routeNs r.ref.name

def StreamRef.servers (st : GatewayState) (r : StreamRef) : List String :=
  resolveBackend st r.routeNs r.kind.defaultPort r.ref

def StreamRef.upstream (st : GatewayState) (r : StreamRef) : StreamUpstreamConfig where
  name := r.upstreamName
  servers := r.servers st

def refsOf {ρ : Type} (kind : RouteKind) (accepted : ρ → Bool) (routeNs : ρ → String)
    (backendRefs : ρ → List BackendRef) (routes : HashMap String ρ) : List StreamRef :=
  ((sortedEntries routes).filter fun e => accepted e.2).flatMap fun e =>
    (backendRefs e.2).map fun b => ⟨kind, e.1, routeNs e.2, b⟩

def tlsRefs (st : GatewayState) : List StreamRef :=
  refsOf .TLSRoute tlsRouteIsAccepted TLSRoute.routeNs TLSRoute.backendRefs st.tlsRoutes

def tcpRefs (st : GatewayState) : List StreamRef :=
  refsOf .TCPRoute tcpRouteIsAccepted TCPRoute.routeNs TCPRoute.backendRefs st.tcpRoutes

/-- The rendered references of the stream routes, in the order they are visited. -/
def streamRefs (st : GatewayState) : List StreamRef := tlsRefs st ++ tcpRefs st

theorem mem_refsOf {ρ : Type} {kind : RouteKind} {accepted : ρ → Bool} {routeNs : ρ → String}
    {backendRefs : ρ → List BackendRef} {routes : HashMap String ρ} {r : StreamRef} :
    r ∈ refsOf kind accepted routeNs backendRefs routes ↔
      r.kind = kind ∧ ∃ route, routes.lookup r.key = some route ∧ accepted route = true ∧
        r.routeNs = routeNs route ∧ r.ref ∈ backendRefs route := by
  simp only [refsOf, mem_flatMap, mem_filter, mem_map, Prod.exists, mem_sortedEntries]
  constructor
  · rintro ⟨key, route, ⟨hlookup, haccepted⟩, b, hb, rfl⟩
    exact ⟨rfl, route, hlookup, haccepted, rfl, hb⟩
  · rintro ⟨hkind, route, hlookup, haccepted, hns, hb⟩
    refine ⟨r.key, route, ⟨hlookup, haccepted⟩, r.ref, hb, ?_⟩
    rw [← hkind, ← hns]

/-! ### What the stream routes add -/

structure StreamOutput.Closed (out : StreamOutput) : Prop where
  default : ∀ d ∈ out.catchAllUpstream, ∃ u ∈ out.upstreams, u.name = d
  sni : ∀ e ∈ out.sniRoutesOrdered, ∃ u ∈ out.upstreams, u.name = e.2

theorem claimSni_upstreams (name : String) (out : StreamOutput) (hostname : String) :
    (claimSni name out hostname).upstreams = out.upstreams := by
  rw [claimSni]
  split <;> rfl

theorem claimSni_closed {hostname : String} (h : out.Closed)
    (hname : ∃ u ∈ out.upstreams, u.name = name) :
    (claimSni name out hostname).Closed := by
  rw [claimSni]
  split
  · exact h
  · refine ⟨h.default, ?_⟩
    intro e he
    rcases mem_append.1 he with he | he
    · exact h.sni e he
    · obtain rfl := mem_singleton.1 he
      exact hname

/-- The second output extends the first by the given upstreams, and is closed if the first is. -/
structure Adds (ups : List StreamUpstreamConfig) (out out' : StreamOutput) : Prop where
  upstreams : out'.upstreams = out.upstreams ++ ups
  closed : out.Closed → out'.Closed

theorem Adds.refl (out : StreamOutput) : Adds [] out out := ⟨by simp, id⟩

theorem Adds.trans {ups ups' : List StreamUpstreamConfig} {out₁ out₂ out₃ : StreamOutput}
    (h : Adds ups out₁ out₂) (h' : Adds ups' out₂ out₃) : Adds (ups ++ ups') out₁ out₃ where
  upstreams := by rw [h'.upstreams, h.upstreams, append_assoc]
  closed hout := h'.closed (h.closed hout)

theorem Adds.foldl {α : Type} {step : StreamOutput → α → StreamOutput}
    {ups : α → List StreamUpstreamConfig} (h : ∀ out a, Adds (ups a) out (step out a))
    (l : List α) (out : StreamOutput) : Adds (l.flatMap ups) out (l.foldl step out) :=
  foldl_flatMap_of_trans Adds.refl Adds.trans h l out

theorem Adds.append (out : StreamOutput) (ups : List StreamUpstreamConfig) :
    Adds ups out { out with upstreams := out.upstreams ++ ups } := by
  refine ⟨rfl, fun h => ⟨?_, ?_⟩⟩
  · intro d hd
    obtain ⟨u, hu, hname⟩ := h.default d hd
    exact ⟨u, by simp [hu], hname⟩
  · intro e he
    obtain ⟨u, hu, hname⟩ := h.sni e he
    exact ⟨u, by simp [hu], hname⟩

theorem foldl_claimSni_adds (hostnames : List String) (hname : ∃ u ∈ out.upstreams, u.name = name) :
    Adds [] out (hostnames.foldl (claimSni name) out) := by
  induction hostnames generalizing out with
  | nil => exact Adds.refl out
  | cons hostname hostnames ih =>
    have hstep : Adds [] out (claimSni name out hostname) :=
      ⟨by simp [claimSni_upstreams], fun h => claimSni_closed h hname⟩
    exact hstep.trans (ih (by rw [claimSni_upstreams]; exact hname))

theorem renderTlsBackend_adds (st : GatewayState) (key : String) (route : TLSRoute)
    (out : StreamOutput) (b : BackendRef) :
    Adds [StreamRef.upstream st ⟨.TLSRoute, key, route.routeNs, b⟩] out
      (renderTlsBackend st route out b) := by
  have happend := Adds.append out [StreamRef.upstream st ⟨.TLSRoute, key, route.routeNs, b⟩]
  simp only [renderTlsBackend]
  split
  · -- the upstream just added may become the default
    refine ⟨happend.upstreams, fun hout => ⟨?_, (happend.closed hout).sni⟩⟩
    intro d hd
    rcases Option.or_eq_some_iff.1 hd with hd | ⟨-, hd⟩
    · exact (happend.closed hout).default d hd
    · rw [Option.some.injEq] at hd
      exact ⟨_, mem_append_right _ (mem_singleton.2 rfl), hd⟩
  · exact happend.trans (foldl_claimSni_adds route.spec.hostnames
      ⟨_, mem_append_right _ (mem_singleton.2 rfl), rfl⟩)

theorem renderTlsRoute_adds (st : GatewayState) (out : StreamOutput) (e : String × TLSRoute) :
    Adds (if tlsRouteIsAccepted e.2 then e.2.backendRefs.flatMap fun b =>
        [StreamRef.upstream st ⟨.TLSRoute, e.1, e.2.routeNs, b⟩] else [])
      out (renderTlsRoute st out e) := by
  rw [renderTlsRoute]
  cases tlsRouteIsAccepted e.2 with
  | false => exact Adds.refl out
  | true =>
    have h := Adds.foldl (renderTlsBackend_adds st e.1 e.2) e.2.backendRefs out
    rwa [TLSRoute.backendRefs, foldl_flatMap] at h

theorem renderTcpRoute_adds (st : GatewayState) (out : StreamOutput) (e : String × TCPRoute) :
    Adds (if tcpRouteIsAccepted e.2 then e.2.backendRefs.flatMap fun b =>
        [StreamRef.upstream st ⟨.TCPRoute, e.1, e.2.routeNs, b⟩] else [])
      out (renderTcpRoute st out e) := by
  rw [renderTcpRoute]
  cases tcpRouteIsAccepted e.2 with
  | false => exact Adds.refl out
  | true =>
    have h := @Adds.foldl _ (renderTcpBackend st e.2) _
      (fun out b => Adds.append out [StreamRef.upstream st ⟨.TCPRoute, e.1, e.2.routeNs, b⟩])
      e.2.backendRefs out
    rwa [TCPRoute.backendRefs, foldl_flatMap] at h

theorem flatMap_refsOf {ρ : Type} (st : GatewayState) (kind : RouteKind) (accepted : ρ → Bool)
    (routeNs : ρ → String) (backendRefs : ρ → List BackendRef) (routes : HashMap String ρ) :
    ((sortedEntries routes).flatMap fun e => if accepted e.2 then
      (backendRefs e.2).flatMap fun b => [StreamRef.upstream st ⟨kind, e.1, routeNs e.2, b⟩]
      else []) = (refsOf kind accepted routeNs backendRefs routes).map (StreamRef.upstream st) := by
  rw [refsOf, map_flatMap]
  induction sortedEntries routes with
  | nil => rfl
  | cons e entries ih =>
    rw [flatMap_cons, ih, filter_cons]
    cases accepted e.2 <;> simp [← map_eq_flatMap, Function.comp_def]

theorem renderStreamRoutes_adds (st : GatewayState) :
    Adds ((streamRefs st).map (StreamRef.upstream st)) {} (renderStreamRoutes st) := by
  -- the loop over the TCPRoutes starts from what the TLSRoutes have added
  have htls := Adds.foldl (renderTlsRoute_adds st) (sortedEntries st.tlsRoutes) {}
  have htcp := Adds.foldl (renderTcpRoute_adds st) (sortedEntries st.tcpRoutes)
    ((sortedEntries st.tlsRoutes).foldl (renderTlsRoute st) {})
  rw [flatMap_refsOf] at htls htcp
  rw [streamRefs, map_append]
  exact htls.trans htcp

theorem renderStreamRoutes_upstreams (st : GatewayState) :
    (renderStreamRoutes st).upstreams = (streamRefs st).map (StreamRef.upstream st) := by
  rw [(renderStreamRoutes_adds st).upstreams, nil_append]

theorem renderStreamRoutes_closed (st : GatewayState) : (renderStreamRoutes st).Closed :=
  (renderStreamRoutes_adds st).closed ⟨by simp, by simp⟩

theorem lookup_sniRoutes {sni d : String} (h : out.sniRoutes.lookup sni = some d) :
    (sni, d) ∈ out.sniRoutesOrdered := by
  rw [StreamOutput.sniRoutes, lookup_collect_toList, getElem?_ofList] at h
  exact (mem_insertionSort _).1 (mem_of_lastWrite h)

/-! ### The generated stream listener -/

theorem streamConfig_of_mem (h : generateConfig st = .ok c) (hsc : sc ∈ c.streams) :
    streamConfig st = some sc := by
  rw [(isGenerated_of_eq_ok h).streams, Option.mem_toList] at hsc
  exact hsc

def GatewayState.HasStream (st : GatewayState) : Prop :=
  (st.tcpRoutes.entries ≠ [] ∨ st.tlsRoutes.entries ≠ []) ∧ st.tcpListeners ≠ []

theorem isSome_streamConfig : (streamConfig st).isSome = true ↔ st.HasStream := by
  rw [streamConfig, GatewayState.HasStream]
  by_cases htcp : st.tcpRoutes.entries = [] <;> by_cases htls : st.tlsRoutes.entries = [] <;>
    simp [htcp, htls]

structure IsStreamConfig (st : GatewayState) (port : UInt16) (sc : StreamConfig) : Prop where
  name : sc.name = "stream-" ++ toString port.toNat
  listen : sc.listen = "0.0.0.0:" ++ toString port.toNat
  upstreams : sc.upstreams = (streamRefs st).map (StreamRef.upstream st)
  sniRoutes : sc.sniRoutes = (renderStreamRoutes st).sniRoutes
  defaultUpstream : sc.defaultUpstream = (renderStreamRoutes st).catchAllUpstream

theorem isStreamConfig_of_eq_some (h : streamConfig st = some sc) :
    ∃ port, IsStreamConfig st port sc := by
  rw [streamConfig] at h
  split at h
  · cases h
  · obtain ⟨e, -, rfl⟩ := Option.map_eq_some_iff.1 h
    exact ⟨e.2.port, rfl, rfl, renderStreamRoutes_upstreams st, rfl, rfl⟩

theorem hasStream_of_mem (h : generateConfig st = .ok c) (hsc : sc ∈ c.streams) : st.HasStream := by
  rw [← isSome_streamConfig, streamConfig_of_mem h hsc]
  rfl

theorem exists_stream_of_hasStream (h : generateConfig st = .ok c) (hstream : st.HasStream) :
    ∃ sc ∈ c.streams, ∃ port, IsStreamConfig st port sc := by
  obtain ⟨sc, hsc⟩ := Option.isSome_iff_exists.1 (isSome_streamConfig.2 hstream)
  refine ⟨sc, ?_, isStreamConfig_of_eq_some hsc⟩
  rw [(isGenerated_of_eq_ok h).streams, Option.mem_toList]
  exact hsc

theorem exists_fromConfig_generated (h : streamConfig st = some sc) :
    (∃ proxy, StreamProxy.fromConfig sc = .ok proxy) ↔
      ∀ r ∈ streamRefs st, ∀ s ∈ r.servers st, StreamBackendAddr.accepts s = true := by
  obtain ⟨port, hsc⟩ := isStreamConfig_of_eq_some h
  rw [StreamProxy.exists_fromConfig, hsc.listen, Net.parseSocketAddr_any, hsc.upstreams]
  simp only [forall_mem_map, Option.isSome_some, and_true]
  rfl

theorem exists_generated_proxy {st : GatewayState} (hlive : liveRules st = [])
    (hstream : (streamConfig st).isSome = true)
    (hservers : ∀ r ∈ streamRefs st, ∀ s ∈ r.servers st, StreamBackendAddr.accepts s = true) :
    ∃ c sc proxy, generateConfig st = .ok c ∧ sc ∈ c.streams ∧
      StreamProxy.fromConfig sc = .ok proxy := by
  obtain ⟨c, hc⟩ := exists_generateConfig.2 (@splittable_of_timeouts st (by simp [hlive]))
  obtain ⟨sc, hsc⟩ := Option.isSome_iff_exists.1 hstream
  obtain ⟨proxy, hproxy⟩ := (exists_fromConfig_generated hsc).2 hservers
  refine ⟨c, sc, proxy, hc, ?_, hproxy⟩
  rw [(isGenerated_of_eq_ok hc).streams, Option.mem_toList]
  exact hsc

end Wicket
