/-
**Which requests the generated routes serve.**

A chosen route may accept more than its match declares, and a rule may lose requests, since its
routes carry the first host name only and header names are compared as they are spelled.

* `GeneratedRoute`, `generatedRoutes` — the routes of a configuration with the rule and the match
  that each was generated from, in order;
* `Router.routeMatch`, `Router.Chooses` — the answer of the router, and the generated route that it
  is taken from.

The main results say when a request belongs to the rule that serves it, and when a request that
belongs to a rule is routed.
-/

import Wicket.MatchSemantics

namespace Wicket

open KeyMap (HashMap)
open Text (CaseMapping)
open Option List Check HttpRule HTTPRouteMatch HTTPRouteRule Router

/-! ### The generated routes and their matches -/

structure GeneratedRoute where
  rule : HttpRule
  source : HTTPRouteMatch
  config : RouteConfig

def HttpRule.generated (r : HttpRule) : List GeneratedRoute :=
  if r.rule.matches_.isEmpty then
    [⟨r, {}, r.mkRoute r.upstreamName (emptyMatchRules r.host)⟩]
  else
    r.rule.matches_.zipIdx.filterMap fun e =>
      (matchRules r.host e.1).map fun rules =>
        ⟨r, e.1, r.mkRoute (matchRouteName r.route.routeNs r.route.routeName r.idx e.2) rules⟩

def generatedRoutes (st : GatewayState) : List GeneratedRoute :=
  (liveRules st).flatMap HttpRule.generated

theorem HttpRule.map_config_generated (r : HttpRule) :
    r.generated.map GeneratedRoute.config = r.routes := by
  rw [generated, routes, ruleRoutes]
  split
  · rfl
  · rw [map_filterMap]
    refine filterMap_congr fun e _ => ?_
    rw [Option.map_map]
    rfl

variable {st : GatewayState} {c : Config} {r : HttpRule} {g : GeneratedRoute} {cm : CaseMapping}
  {router : Router} {req : Request}

theorem map_config_generatedRoutes (hgen : IsGenerated st c) :
    (generatedRoutes st).map GeneratedRoute.config = c.routes := by
  rw [hgen.routes, generatedRoutes, map_flatMap]
  exact flatMap_congr fun r _ => r.map_config_generated

structure GeneratedRoute.Valid (g : GeneratedRoute) : Prop where
  source : g.source ∈ g.rule.rule.effectiveMatches
  config : matchRules g.rule.host g.source = some g.config.matchRules

theorem HttpRule.mem_generated (hg : g ∈ r.generated) : g.rule = r ∧ g.Valid := by
  rw [generated] at hg
  split at hg
  · rename_i hempty
    obtain rfl := mem_singleton.1 hg
    exact ⟨rfl, by simp [effectiveMatches, hempty], rfl⟩
  · rename_i hne
    obtain ⟨⟨m, i⟩, hm, he⟩ := mem_filterMap.1 hg
    obtain ⟨rules, hrules, rfl⟩ := map_eq_some_iff.1 he
    refine ⟨rfl, ?_, hrules⟩
    rw [effectiveMatches, if_neg hne]
    exact mem_of_getElem? (mem_zipIdx_iff_getElem?.1 hm)

theorem mem_generatedRoutes :
    g ∈ generatedRoutes st ↔ g.rule ∈ liveRules st ∧ g ∈ g.rule.generated := by
  rw [generatedRoutes, mem_flatMap]
  constructor
  · rintro ⟨r, hr, hg⟩
    rw [(mem_generated hg).1]
    exact ⟨hr, hg⟩
  · rintro ⟨hr, hg⟩
    exact ⟨g.rule, hr, hg⟩

def ruleMatches (st : GatewayState) : List (HttpRule × HTTPRouteMatch) :=
  (liveRules st).flatMap fun r => r.rule.effectiveMatches.map fun m => (r, m)

def HTTPRouteMatch.renderable (m : HTTPRouteMatch) : Bool :=
  m.pathMatch.type != .RegularExpression

theorem isSome_matchRules {host : Option String} {m : HTTPRouteMatch} :
    (matchRules host m).isSome = m.renderable := by
  rw [matchRules, isSome_map, renderable, pathMatch]
  cases m.path with
  | none => rfl
  | some p =>
    rw [pathRules, getD_some]
    cases p.type <;> rfl

theorem map_source_generated (r : HttpRule) :
    r.generated.map (fun g => (g.rule, g.source)) =
      (r.rule.effectiveMatches.map fun m => (r, m)).filter fun e => e.2.renderable := by
  rw [generated, effectiveMatches]
  split
  · rfl
  · -- the names count all matches, so the induction is for any first index
    generalize r.rule.matches_ = ms, 0 = n
    induction ms generalizing n with
    | nil => rfl
    | cons m ms ih =>
      rw [zipIdx_cons, filterMap_cons, map_cons, filter_cons]
      have hsome := @isSome_matchRules r.host m
      cases hrules : matchRules r.host m with
      | none =>
        rw [hrules, isSome_none] at hsome
        simp only [map_none, ← hsome, Bool.false_eq_true, if_false]
        exact ih (n + 1)
      | some rules =>
        rw [hrules, isSome_some] at hsome
        simp only [map_some, ← hsome, if_true, map_cons]
        exact congrArg _ (ih (n + 1))

theorem HttpRule.exists_generated {m : HTTPRouteMatch} (hm : m ∈ r.rule.effectiveMatches)
    (hpath : m.pathMatch.type ≠ .RegularExpression) :
    ∃ g ∈ r.generated, g.source = m := by
  have hmem : (r, m) ∈ r.generated.map fun g => (g.rule, g.source) := by
    rw [map_source_generated]
    exact mem_filter.2 ⟨mem_map_of_mem hm, by simpa [renderable]⟩
  obtain ⟨g, hg, he⟩ := mem_map.1 hmem
  exact ⟨g, hg, (Prod.mk.inj he).2⟩

theorem map_source_generatedRoutes (st : GatewayState) :
    (generatedRoutes st).map (fun g => (g.rule, g.source)) =
      (ruleMatches st).filter fun e => e.2.renderable := by
  rw [generatedRoutes, ruleMatches, map_flatMap, filter_flatMap]
  exact flatMap_congr fun r _ => map_source_generated r

/-! ### When a router is built -/

/-- The first host name of every HTTPRoute with a generated route is a host pattern. -/
def GatewayState.HostsCompile (st : GatewayState) : Prop :=
  ∀ r ∈ liveRules st, r.rule.emitsRoutes = true → ∀ p ∈ r.host, HostMatcher.compiles p = true

theorem HttpRule.host_of_mem_routes {rc : RouteConfig} (h : rc ∈ r.routes) :
    rc.matchRules.host = r.host := by
  obtain ⟨name, rules, hrules, rfl⟩ := mem_routes.1 h
  cases hrules with
  | all => rfl
  | one _ hrules =>
    obtain ⟨paths, -, rfl⟩ := map_eq_some_iff.1 hrules
    rfl

theorem exists_build_generated (hgen : IsGenerated st c) :
    (∃ router, build cm c.routes = .ok router) ↔ st.HostsCompile := by
  rw [exists_build, hgen.routes]
  constructor
  · intro h r hr hemits p hp
    obtain ⟨rc, hrc⟩ := exists_mem_of_ne_nil _ (routes_ne_nil.2 hemits)
    refine h rc (mem_flatMap.2 ⟨r, hr, hrc⟩) p ?_
    rw [host_of_mem_routes hrc]
    exact hp
  · intro h rc hrc p hp
    obtain ⟨r, hr, hrc⟩ := mem_flatMap.1 hrc
    rw [host_of_mem_routes hrc] at hp
    exact h r hr (routes_ne_nil.1 (ne_nil_of_mem hrc)) p hp

theorem exists_router {cm : CaseMapping} {st : GatewayState} (hsplit : st.Splittable)
    (hhosts : st.HostsCompile) :
    ∃ c router, generateConfig st = .ok c ∧ build cm c.routes = .ok router := by
  obtain ⟨c, hc⟩ := exists_generateConfig.2 hsplit
  obtain ⟨router, hrouter⟩ := (exists_build_generated (isGenerated_of_eq_ok hc)).2 hhosts
  exact ⟨c, router, hc, hrouter⟩

/-! ### The chosen route -/

def Router.routeMatch (cm : CaseMapping) (router : Router) (req : Request) : Option MatchedRoute :=
  router.matchRequest cm req.host req.path req.method (requestHeaders cm router req.headers)

/-- The position of the first route that accepts the request. -/
def Router.matchIndex (cm : CaseMapping) (router : Router) (req : Request) : Option ℕ :=
  router.routes.findIdx? fun route =>
    route.matches_ cm req.host req.path req.method (requestHeaders cm router req.headers)

/-- **The answer of the router is that of the route at this position.** -/
theorem Router.routeMatch_eq (cm : CaseMapping) (router : Router) (req : Request) :
    router.routeMatch cm req =
      (router.matchIndex cm req).bind fun k => router.routes[k]?.map (·.matched req.path) := by
  rw [routeMatch, matchRequest, findRoute, find?_eq_bind_findIdx?_getElem?, Option.map_bind]
  rfl

/-- The router answers with `m`, and the route that it takes the answer from is the generated one
`g`.  Routes are told apart by their position, since their names may repeat. -/
structure Router.Chooses (cm : CaseMapping) (st : GatewayState) (router : Router) (req : Request)
    (m : MatchedRoute) (g : GeneratedRoute) : Prop where
  answer : router.routeMatch cm req = some m
  position : ∃ k, router.matchIndex cm req = some k ∧ (generatedRoutes st)[k]? = some g

def AcceptedBy (cm : CaseMapping) (req : Request) (e : HttpRule × HTTPRouteMatch) : Prop :=
  e.2.Required cm e.1.host req

def GeneratedRoute.Accepts (cm : CaseMapping) (g : GeneratedRoute) (req : Request) : Prop :=
  AcceptedBy cm req (g.rule, g.source)

theorem accepts_generated (hgen : IsGenerated st c)
    (hbuild : build cm c.routes = .ok router) (hg : g ∈ generatedRoutes st) :
    g.config.Accepts cm req.host req.path req.method (requestHeaders cm router req.headers) ↔
      g.Accepts cm req := by
  have hc : g.config ∈ c.routes := by
    rw [← map_config_generatedRoutes hgen]
    exact mem_map_of_mem hg
  rw [accepts_requestHeaders hbuild hc]
  exact accepts_iff_required (mem_generated (mem_generatedRoutes.1 hg).2).2.config

theorem forall₂_accepts (hgen : IsGenerated st c) (hbuild : build cm c.routes = .ok router)
    (req : Request) :
    List.Forall₂ (fun (g : GeneratedRoute) (route : CompiledRoute) =>
      route.matches_ cm req.host req.path req.method (requestHeaders cm router req.headers) = true ↔
        g.Accepts cm req) (generatedRoutes st) router.routes := by
  have hcompiled := compileAll_eq_ok.1 (compileAll_of_build hbuild)
  rw [← map_config_generatedRoutes hgen, forall₂_map_left_iff] at hcompiled
  have hmem := (forall₂_and_left _ _).2 ⟨fun g (hg : g ∈ generatedRoutes st) => hg, hcompiled⟩
  refine hmem.imp fun g route ⟨hg, hroute⟩ => ?_
  rw [CompiledRoute.matches_iff hroute, accepts_generated hgen hbuild hg]

theorem exists_matchIndex_iff (hgen : IsGenerated st c) (hbuild : build cm c.routes = .ok router) :
    (∃ k, router.matchIndex cm req = some k ∧ (generatedRoutes st)[k]? = some g) ↔
      IsFirst (fun g => g.Accepts cm req) (generatedRoutes st) g :=
  exists_findIdx?_iff (forall₂_accepts hgen hbuild req)

theorem isSome_routeMatch (hgen : IsGenerated st c) (hbuild : build cm c.routes = .ok router) :
    (router.routeMatch cm req).isSome = true ↔ ∃ g ∈ generatedRoutes st, g.Accepts cm req := by
  rw [routeMatch, isSome_matchRequest hbuild]
  rw [← map_config_generatedRoutes hgen]
  constructor
  · rintro ⟨rc, hrc, haccepts⟩
    obtain ⟨g, hg, rfl⟩ := mem_map.1 hrc
    exact ⟨g, hg, (accepts_generated hgen hbuild hg).1 haccepts⟩
  · rintro ⟨g, hg, haccepts⟩
    exact ⟨g.config, mem_map_of_mem hg, (accepts_generated hgen hbuild hg).2 haccepts⟩

/-- Every answer is taken from one of the generated routes, the first that accepts the request. -/
theorem exists_chooses (hgen : IsGenerated st c) (hbuild : build cm c.routes = .ok router)
    {m : MatchedRoute} (hm : router.routeMatch cm req = some m) :
    ∃ g, router.Chooses cm st req m g := by
  obtain ⟨g', hg', haccepts⟩ := (isSome_routeMatch hgen hbuild).1 (isSome_of_eq_some hm)
  obtain ⟨g, hfirst⟩ := @exists_isFirst _ (fun g => g.Accepts cm req) _ _ hg' haccepts
  exact ⟨g, hm, (exists_matchIndex_iff hgen hbuild).2 hfirst⟩

theorem Router.Chooses.isFirst {m : MatchedRoute} (h : router.Chooses cm st req m g)
    (hgen : IsGenerated st c) (hbuild : build cm c.routes = .ok router) :
    IsFirst (fun g => g.Accepts cm req) (generatedRoutes st) g :=
  (exists_matchIndex_iff hgen hbuild).1 h.position

theorem exists_chooses_of_isFirst (hgen : IsGenerated st c)
    (hbuild : build cm c.routes = .ok router)
    (hfirst : IsFirst (fun g => g.Accepts cm req) (generatedRoutes st) g) :
    ∃ m, router.Chooses cm st req m g := by
  obtain ⟨m, hm⟩ := isSome_iff_exists.1
    ((isSome_routeMatch hgen hbuild).2 ⟨g, hfirst.mem, hfirst.holds⟩)
  exact ⟨m, hm, (exists_matchIndex_iff hgen hbuild).2 hfirst⟩

/-- The route is determined by the position. -/
theorem Router.Chooses.unique {m m' : MatchedRoute} {g' : GeneratedRoute}
    (h : router.Chooses cm st req m g) (h' : router.Chooses cm st req m' g') : g = g' := by
  obtain ⟨k, hk, hg⟩ := h.position
  obtain ⟨k', hk', hg'⟩ := h'.position
  obtain rfl : k = k' := some.inj (hk.symm.trans hk')
  exact some.inj (hg.symm.trans hg')

theorem isFirst_ruleMatches {e : HttpRule × HTTPRouteMatch} :
    IsFirst (AcceptedBy cm req) (ruleMatches st) e ↔
      ∃ g, IsFirst (fun g => g.Accepts cm req) (generatedRoutes st) g ∧ (g.rule, g.source) = e := by
  have hrenderable : ∀ e : HttpRule × HTTPRouteMatch, AcceptedBy cm req e →
      e.2.renderable = true := by
    intro e he
    simpa [renderable] using HTTPRouteMatch.Required.path_ne_regex he
  -- dropping the matches without a route drops none that accepts the request
  rw [← isFirst_filter hrenderable, ← map_source_generatedRoutes, isFirst_map]
  rfl

/-! ### What the chosen route serves -/

theorem HttpRule.hostCovered_of_head (h : HostRead cm r.host req) : r.HostCovered cm req := by
  rw [HostRead, host] at h
  cases hnames : r.route.spec.hostnames with
  | nil => exact Or.inl hnames
  | cons p rest =>
    rw [hnames] at h
    refine Or.inr ⟨p, ?_, h p rfl⟩
    rw [hnames]
    exact mem_cons_self

/-- **The request belongs to the rule that serves it** exactly when the first match that accepts it
is not read too loosely, or another match of the rule is satisfied. -/
theorem selected_covers_iff {cm : CaseMapping} {st : GatewayState} {c : Config} {router : Router}
    (hgen : generateConfig st = .ok c) (hbuild : Router.build cm c.routes = .ok router) (rx : Regex)
    (req : Request) :
    (∀ m, router.routeMatch cm req = some m →
        ∃ g, router.Chooses cm st req m g ∧ g.rule.Covers rx cm req) ↔
      ∀ r m, IsFirst (AcceptedBy cm req) (ruleMatches st) (r, m) →
        m.Precise rx cm req ∨ ∃ m' ∈ r.rule.matches_, m' ≠ m ∧ m'.Satisfied rx req := by
  have hc := isGenerated_of_eq_ok hgen
  constructor
  · intro h r m hfirst
    obtain ⟨g, hg, he⟩ := isFirst_ruleMatches.1 hfirst
    obtain ⟨rfl, rfl⟩ := Prod.mk.inj he
    obtain ⟨answer, hchooses⟩ := exists_chooses_of_isFirst hc hbuild hg
    obtain ⟨g', hchooses', -, m, hm, hsat⟩ := h answer hchooses.answer
    obtain rfl := hchooses.unique hchooses'
    -- the satisfied match need not be the one whose route was chosen
    by_cases hsource : m = g.source
    · rw [hsource] at hsat
      exact Or.inl (HTTPRouteMatch.Required.satisfied_iff hg.holds |>.1 hsat)
    · have hvalid := (HttpRule.mem_generated (mem_generatedRoutes.1 hg.mem).2).2
      exact Or.inr ⟨m, mem_matches_of_ne hm hvalid.source hsource, hsource, hsat⟩
  · intro h answer hanswer
    obtain ⟨g, hchooses⟩ := exists_chooses hc hbuild hanswer
    have hg := hchooses.isFirst hc hbuild
    have hvalid := (HttpRule.mem_generated (mem_generatedRoutes.1 hg.mem).2).2
    have haccepts : g.source.Required cm g.rule.host req := hg.holds
    refine ⟨g, hchooses, HttpRule.hostCovered_of_head haccepts.host, ?_⟩
    rcases h g.rule g.source (isFirst_ruleMatches.2 ⟨g, hg, rfl⟩) with hprecise | ⟨m, hm, -, hsat⟩
    · exact ⟨g.source, hvalid.source, haccepts.satisfied_iff.2 hprecise⟩
    · exact ⟨m, mem_effectiveMatches hm, hsat⟩

def apiMatch : HTTPRouteMatch where
  path := some { type := .PathPrefix, value := "/api" }

def apiRule (hostnames : List String) : HttpRule where
  key := "shop/api"
  route :=
    { metadata := { ns := some "shop", name := some "api" }
      spec :=
        { hostnames := hostnames
          rules := [{ matches_ := [apiMatch], backendRefs := [⟨{ name := "web" }⟩] }] }
      status := some (acceptedFor "gw") }
  idx := 0
  rule := { matches_ := [apiMatch], backendRefs := [⟨{ name := "web" }⟩] }

def apiState (hostnames : List String) : GatewayState where
  httpRoutes := KeyMap.collect [("shop/api", (apiRule hostnames).route)]

def getRequest (host path : String) : Request where
  host := some host
  path := path
  method := "GET"

theorem generatedRoutes_apiState (hostnames : List String) :
    ∃ config, generatedRoutes (apiState hostnames) = [⟨apiRule hostnames, apiMatch, config⟩] :=
  ⟨_, rfl⟩

theorem splittable_apiState (hostnames : List String) : (apiState hostnames).Splittable := by
  refine splittable_of_timeouts fun r hr => ?_
  obtain rfl := mem_singleton.1 hr
  rfl

theorem hostsCompile_apiState {hostnames : List String}
    (h : ∀ p ∈ hostnames.head?, HostMatcher.compiles p = true) :
    (apiState hostnames).HostsCompile := by
  intro r hr _
  obtain rfl := mem_singleton.1 hr
  exact h

theorem apiMatch_required {host : Option String} (hhost : HostRead cm host req)
    (hpath : apiMatch.pathMatch.textHolds req.path = true) :
    apiMatch.Required cm host req where
  host := hhost
  path := hpath
  method x hx := by cases hx
  headers name value h := by cases h

/-- A request for `/apix` is served by the rule for `/api`. -/
theorem apiState_not_covered :
    ∃ c router m, generateConfig (apiState []) = .ok c ∧
      Router.build .ascii c.routes = .ok router ∧
      router.routeMatch .ascii (getRequest "shop.example.com" "/apix") = some m ∧
      ∀ g, router.Chooses .ascii (apiState []) (getRequest "shop.example.com" "/apix") m g →
        ∀ rx, ¬g.rule.Covers rx .ascii (getRequest "shop.example.com" "/apix") := by
  obtain ⟨config, hroutes⟩ := generatedRoutes_apiState []
  obtain ⟨c, router, hgen, hbuild⟩ :=
    @exists_router .ascii _ (splittable_apiState []) (hostsCompile_apiState (by simp))
  have hc := isGenerated_of_eq_ok hgen
  have hsome :
      (router.routeMatch .ascii (getRequest "shop.example.com" "/apix")).isSome = true := by
    rw [isSome_routeMatch hc hbuild, hroutes]
    exact ⟨_, List.mem_cons_self,
      apiMatch_required (by simp [HostRead, apiRule, HttpRule.host]) (by decide)⟩
  obtain ⟨m, hm⟩ := isSome_iff_exists.1 hsome
  refine ⟨c, router, m, hgen, hbuild, hm, ?_⟩
  rintro g hchooses rx ⟨-, m, hm, hsat⟩
  have hg := (hchooses.isFirst hc hbuild).mem
  rw [hroutes] at hg
  obtain rfl := List.mem_singleton.1 hg
  obtain rfl := List.mem_singleton.1 hm
  -- the segment `apix` is not the segment `api`
  exact absurd (segments_iff.1 hsat.path).2 (by decide)

theorem apiState_covered :
    ∃ c router, generateConfig (apiState []) = .ok c ∧ Router.build .ascii c.routes = .ok router ∧
      ∀ m, router.routeMatch .ascii (getRequest "shop.example.com" "/api/users") = some m →
        ∃ g, router.Chooses .ascii (apiState []) (getRequest "shop.example.com" "/api/users") m g ∧
          g.rule.Covers (fun _ _ => false) .ascii (getRequest "shop.example.com" "/api/users") := by
  obtain ⟨c, router, hgen, hbuild⟩ :=
    @exists_router .ascii _ (splittable_apiState []) (hostsCompile_apiState (by simp))
  refine ⟨c, router, hgen, hbuild, (selected_covers_iff hgen hbuild _ _).2 ?_⟩
  intro r m hfirst
  have hmem : (r, m) ∈ [(apiRule [], apiMatch)] := hfirst.mem
  obtain ⟨rfl, rfl⟩ := Prod.mk.inj (List.mem_singleton.1 hmem)
  have hpath : cutsSegment "/api" "/api/users" = false := by decide
  refine Or.inl ⟨fun _ => hpath, ?_, ?_, ?_⟩
  · intro h
    cases h
  · intro h hh
    cases hh
  · intro q hq
    cases hq

/-! ### Which requests are routed -/

def Routed (cm : CaseMapping) (st : GatewayState) (req : Request) : Prop :=
  ∃ c router, generateConfig st = .ok c ∧ Router.build cm c.routes = .ok router ∧
    (router.routeMatch cm req).isSome = true

theorem exists_accepts_iff :
    (∃ g ∈ generatedRoutes st, g.Accepts cm req) ↔
      ∃ r ∈ liveRules st, ∃ m ∈ r.rule.effectiveMatches, m.Required cm r.host req := by
  constructor
  · rintro ⟨g, hg, haccepts⟩
    obtain ⟨hr, hgen⟩ := mem_generatedRoutes.1 hg
    exact ⟨g.rule, hr, g.source, (mem_generated hgen).2.source, haccepts⟩
  · rintro ⟨r, hr, m, hm, hreq⟩
    obtain ⟨g, hg, rfl⟩ := exists_generated hm hreq.path_ne_regex
    obtain ⟨rfl, -⟩ := mem_generated hg
    exact ⟨g, mem_generatedRoutes.2 ⟨hr, hg⟩, hreq⟩

theorem routed_iff_exists :
    Routed cm st req ↔ st.Splittable ∧ st.HostsCompile ∧
      ∃ r ∈ liveRules st, ∃ m ∈ r.rule.effectiveMatches, m.Required cm r.host req := by
  rw [← exists_accepts_iff]
  constructor
  · rintro ⟨c, router, hgen, hbuild, hsome⟩
    have hc := isGenerated_of_eq_ok hgen
    exact ⟨exists_generateConfig.1 ⟨c, hgen⟩, (exists_build_generated hc).1 ⟨router, hbuild⟩,
      (isSome_routeMatch hc hbuild).1 hsome⟩
  · rintro ⟨hsplit, hhosts, haccepts⟩
    obtain ⟨c, router, hgen, hbuild⟩ := exists_router hsplit hhosts
    have hc := isGenerated_of_eq_ok hgen
    exact ⟨c, router, hgen, hbuild, (isSome_routeMatch hc hbuild).2 haccepts⟩

/-- **A request that belongs to a rule with an address is routed** exactly when there is a router
and the route of the satisfied match takes it, or that of another match does. -/
theorem routed_iff {cm : CaseMapping} {rx : Regex} {st : GatewayState} {r : HttpRule}
    {m : HTTPRouteMatch} {req : Request} (hr : r ∈ liveRules st)
    (hm : m ∈ r.rule.effectiveMatches) (hpath : m.pathMatch.type ≠ .RegularExpression)
    (hsat : m.Satisfied rx req) :
    Routed cm st req ↔ st.Splittable ∧ st.HostsCompile ∧
      (HostRead cm r.host req ∧ m.HeadersRead cm req ∨
        ∃ r' ∈ liveRules st, ∃ m' ∈ r'.rule.effectiveMatches, (r', m') ≠ (r, m) ∧
          m'.Required cm r'.host req) := by
  rw [routed_iff_exists]
  refine and_congr_right fun _ => and_congr_right fun _ => ?_
  rw [← hsat.required_iff hpath]
  constructor
  · rintro ⟨r', hr', m', hm', hreq⟩
    by_cases hsame : (r', m') = (r, m)
    · cases hsame
      exact Or.inl hreq
    · exact Or.inr ⟨r', hr', m', hm', hsame, hreq⟩
  · rintro (hreq | ⟨r', hr', m', hm', -, hreq⟩)
    · exact ⟨r, hr, m, hm, hreq⟩
    · exact ⟨r', hr', m', hm', hreq⟩

theorem apiMatch_satisfied (rx : Regex) (host : String) :
    apiMatch.Satisfied rx (getRequest host "/api") where
  path := (@segments_iff "/api" "/api").2 ⟨by decide, by decide⟩
  method x hx := by cases hx
  headers h hh := by cases hh
  queryParams q hq := by cases hq

theorem secondHost_not_routed :
    apiRule ["a.example.com", "b.example.com"] ∈
        liveRules (apiState ["a.example.com", "b.example.com"]) ∧
      apiMatch ∈ (apiRule ["a.example.com", "b.example.com"]).rule.matches_ ∧
      (apiRule ["a.example.com", "b.example.com"]).HostCovered .ascii
        (getRequest "b.example.com" "/api") ∧
      (∀ rx, apiMatch.Satisfied rx (getRequest "b.example.com" "/api")) ∧
      ¬Routed .ascii (apiState ["a.example.com", "b.example.com"])
        (getRequest "b.example.com" "/api") := by
  refine ⟨List.mem_singleton.2 rfl, List.mem_singleton.2 rfl,
    Or.inr ⟨"b.example.com", by simp [apiRule], "b.example.com", rfl, by decide⟩,
    fun rx => apiMatch_satisfied rx _, ?_⟩
  rw [routed_iff_exists]
  rintro ⟨-, -, r, hr, m, hm, hreq⟩
  obtain rfl := List.mem_singleton.1 hr
  -- the route was given the first host name only
  obtain ⟨h, hh, haccepts⟩ := hreq.host "a.example.com" rfl
  cases hh
  exact absurd haccepts (by decide)

theorem firstHost_routed :
    apiRule ["a.example.com", "b.example.com"] ∈
        liveRules (apiState ["a.example.com", "b.example.com"]) ∧
      Routed .ascii (apiState ["a.example.com", "b.example.com"])
        (getRequest "a.example.com" "/api") := by
  refine ⟨List.mem_singleton.2 rfl, (routed_iff (List.mem_singleton.2 rfl)
    (List.mem_singleton.2 rfl) (by decide) (apiMatch_satisfied (fun _ _ => false) _)).2
    ⟨splittable_apiState _, hostsCompile_apiState (by decide), Or.inl ⟨?_, ?_⟩⟩⟩
  · intro p hp
    cases hp
    exact ⟨_, rfl, by decide⟩
  · intro name value h
    cases h

end Wicket
