/-
**The HTTP router.**

Routes are compiled in order, and the first whose matchers all accept a request serves it.  Letter
case beyond ASCII is a parameter.
-/

import Wicket.Config

namespace Wicket

open KeyMap Option List
open Text
open Check

/-! ### Matchers -/

structure HostPatternError where
  pattern : String
  deriving DecidableEq

def HostPatternError.text (e : HostPatternError) : String :=
  "Invalid host pattern '" ++ e.pattern ++
    "': only prefix wildcards (*.example.com) are supported"

inductive HostMatcher
  | Exact (expected : String)
  | WildcardPrefix (suffix : String)
  deriving DecidableEq

def HostMatcher.compile (cm : CaseMapping) (pattern : String) :
    Except HostPatternError HostMatcher :=
  match stripPrefix pattern "*." with
  | some suffix => .ok (.WildcardPrefix ("." ++ cm.toLowercase suffix))
  | none =>
    if hasChar pattern '*' then .error ⟨pattern⟩
    else .ok (.Exact (cm.toLowercase pattern))

/-- The host in lower case, without its port. -/
def hostName (cm : CaseMapping) (host : String) : String :=
  beforeFirst (cm.toLowercase host) ':'

def HostMatcher.matches_ (cm : CaseMapping) (m : HostMatcher) (host : String) : Bool :=
  let hostWithoutPort := hostName cm host
  match m with
  | .Exact expected => hostWithoutPort == expected
  | .WildcardPrefix suffix =>
    if !endsWith hostWithoutPort suffix then false
    else
      let prefixLen := hostWithoutPort.utf8ByteSize - suffix.utf8ByteSize
      if prefixLen = 0 then false
      else
        -- the wildcard stands for exactly one label; the slice ends where the suffix starts
        match bytePrefix hostWithoutPort prefixLen with
        | some label => !hasChar label '.'
        | none => false

inductive PathMatcher
  | Exact (expected : String)
  | Prefix (pre : String)
  deriving DecidableEq

def PathMatcher.matches_ (m : PathMatcher) (path : String) : Bool :=
  match m with
  | .Exact expected => path == expected
  | .Prefix pre => startsWith path pre || stripSuffix pre "/" == some path

/-! ### Routes -/

structure CompiledRoute where
  name : Option String
  upstream : String
  hostMatcher : Option HostMatcher
  pathMatcher : Option PathMatcher
  methods : List String
  headers : HashMap String String
  urlRewrite : Option UrlRewriteFilter

/-- What is known about a request once a route has been chosen for it. -/
structure MatchedRoute where
  routeName : Option String
  upstream : String
  urlRewrite : Option UrlRewriteFilter
  matchedPathPrefix : String
  deriving DecidableEq

def RouteMatch.pathMatcher (m : RouteMatch) : Option PathMatcher :=
  match m.path with
  | some exact => some (.Exact exact)
  | none => m.pathPrefix.map .Prefix

def compileHost (cm : CaseMapping) : Option String → Except HostPatternError (Option HostMatcher)
  | some h => (HostMatcher.compile cm h).map some
  | none => .ok none

def CompiledRoute.compile (cm : CaseMapping) (config : RouteConfig) :
    Except HostPatternError CompiledRoute :=
  (compileHost cm config.matchRules.host).map fun hostMatcher =>
    { name := config.name
      upstream := config.upstream
      hostMatcher := hostMatcher
      pathMatcher := config.matchRules.pathMatcher
      methods := config.matchRules.methods.map cm.toUppercase
      headers := collect config.matchRules.headers.toList
      urlRewrite := config.filters.bind RouteFilters.urlRewrite }

/-- The host condition of a route; a route with one accepts no request without a host. -/
def matchesHost (cm : CaseMapping) : Option HostMatcher → Option String → Bool
  | some m, some h => m.matches_ cm h
  | some _, none => false
  | none, _ => true

/-- What a route requires of a request besides its host. -/
def CompiledRoute.matchesRest (cm : CaseMapping) (route : CompiledRoute) (path method : String)
    (headers : HashMap String String) : Bool :=
  (match route.pathMatcher with
    | some m => m.matches_ path
    | none => true) &&
  (route.methods.isEmpty || route.methods.contains (cm.toUppercase method)) &&
  (entries route.headers).all fun e => headers.lookup e.1 == some e.2

def CompiledRoute.matches_ (cm : CaseMapping) (route : CompiledRoute) (host : Option String)
    (path method : String) (headers : HashMap String String) : Bool :=
  matchesHost cm route.hostMatcher host && route.matchesRest cm path method headers

def CompiledRoute.matchedPathPrefix (route : CompiledRoute) (path : String) : String :=
  match route.pathMatcher with
  | some (.Exact exact) => exact
  | some (.Prefix pre) => pre
  | none => path

/-- What `match_request` returns for a route. -/
def CompiledRoute.matched (route : CompiledRoute) (path : String) : MatchedRoute where
  routeName := route.name
  upstream := route.upstream
  urlRewrite := route.urlRewrite
  matchedPathPrefix := route.matchedPathPrefix path

structure Router where
  routes : List CompiledRoute

def Router.build (cm : CaseMapping) (routes : List RouteConfig) : Except HostPatternError Router :=
  (compileAll (CompiledRoute.compile cm) routes).map Router.mk

def Router.hasHeaderMatchers (router : Router) : Bool :=
  router.routes.any fun r => !(entries r.headers).isEmpty

/-- The route that serves a request, the first that accepts it. -/
def Router.findRoute (cm : CaseMapping) (router : Router) (host : Option String)
    (path method : String) (headers : HashMap String String) : Option CompiledRoute :=
  router.routes.find? fun route => route.matches_ cm host path method headers

def Router.matchRequest (cm : CaseMapping) (router : Router) (host : Option String)
    (path method : String) (headers : HashMap String String) : Option MatchedRoute :=
  (router.findRoute cm host path method headers).map (·.matched path)

/-! ### The header map of a request -/

/-- A header line of a request.  Names are ASCII; the value is its sequence of bytes. -/
structure HeaderLine where
  name : String
  value : String
  nameAscii : isAscii name = true

/-- The value as a text, if all of its bytes are visible ASCII characters or tabs. -/
def HeaderLine.toStr (line : HeaderLine) : Option String :=
  if line.value.toList.all fun c => (32 ≤ c.toNat && c.toNat < 127) || c == '\t' then
    some line.value
  else none

theorem HeaderLine.value_of_toStr {line : HeaderLine} {v : String}
    (h : line.toStr = some v) : line.value = v := by
  rw [HeaderLine.toStr] at h
  split at h
  · exact some.inj h
  · cases h

/-- The entries of the header map: lower-cased names with readable values. -/
def headerEntries (cm : CaseMapping) (lines : List HeaderLine) : List (String × String) :=
  lines.filterMap fun line => line.toStr.map fun v => (cm.toLowercase line.name, v)

def requestHeaders (cm : CaseMapping) (router : Router) (lines : List HeaderLine) :
    HashMap String String :=
  if router.hasHeaderMatchers then collect (headerEntries cm lines) else ∅

/-- **The header map may be left out** when no route has header conditions: the route that is chosen
is the one for the whole map. -/
theorem Router.matchRequest_requestHeaders (cm : CaseMapping) (router : Router)
    (host : Option String) (path method : String) (lines : List HeaderLine) :
    router.matchRequest cm host path method (requestHeaders cm router lines) =
      router.matchRequest cm host path method (collect (headerEntries cm lines)) := by
  rw [requestHeaders]
  split
  case isTrue => rfl
  case isFalse hnone =>
    have hmatches : ∀ route ∈ router.routes, route.matches_ cm host path method ∅ =
        route.matches_ cm host path method (collect (headerEntries cm lines)) := by
      intro route hroute
      have hempty : entries route.headers = [] := by
        simp only [hasHeaderMatchers, List.any_eq_true, not_exists, not_and] at hnone
        simpa using hnone route hroute
      simp [CompiledRoute.matches_, CompiledRoute.matchesRest, hempty]
    rw [matchRequest, matchRequest, findRoute, findRoute, ← head?_filter, filter_congr hmatches,
      head?_filter]

/-! ### When a pattern accepts a host -/

/-- A wildcard stands for one label, which is not empty. -/
theorem HostMatcher.matches_wildcard {cm : CaseMapping} {suffix host : String} :
    (HostMatcher.WildcardPrefix suffix).matches_ cm host = true ↔
      ∃ label, hostName cm host = label ++ suffix ∧ label ≠ "" ∧ '.' ∉ label.toList := by
  simp only [matches_]
  cases hends : endsWith (hostName cm host) suffix with
  | false =>
    refine iff_of_false (by simp) ?_
    rintro ⟨label, hname, -⟩
    rw [endsWith_iff.2 ⟨label, hname⟩] at hends
    cases hends
  | true =>
    obtain ⟨label, hname⟩ := endsWith_iff.1 hends
    have hlen : (label ++ suffix).utf8ByteSize - suffix.utf8ByteSize = label.utf8ByteSize := by
      rw [String.utf8ByteSize_append, Nat.add_sub_cancel]
    have hslice : bytePrefix (label ++ suffix) label.utf8ByteSize = some label :=
      bytePrefix_eq_some.2 ⟨rfl, suffix, rfl⟩
    simp only [hname, hlen, hslice, Bool.not_true, Bool.false_eq_true, if_false]
    constructor
    · intro h
      refine ⟨label, rfl, ?_, ?_⟩
      · rintro rfl
        simp at h
      · split at h
        · cases h
        · simpa [hasChar] using h
    · rintro ⟨label', heq, hne, hdot⟩
      obtain rfl := (String.append_left_inj suffix).1 heq
      simpa [hasChar, hdot] using hne

/-! ### When the router is built -/

def HostMatcher.compiles (pattern : String) : Bool :=
  startsWith pattern "*." || !hasChar pattern '*'

variable {cm : CaseMapping}

theorem HostMatcher.exists_compile {pattern : String} :
    (∃ m, HostMatcher.compile cm pattern = .ok m) ↔ HostMatcher.compiles pattern = true := by
  rw [HostMatcher.compile, HostMatcher.compiles]
  cases hstrip : stripPrefix pattern "*." with
  | some suffix =>
    have hstarts : startsWith pattern "*." = true :=
      startsWith_iff.2 ⟨suffix, stripPrefix_eq_some.1 hstrip⟩
    simp [hstarts]
  | none =>
    rw [stripPrefix_eq_none.1 hstrip]
    cases hstar : hasChar pattern '*' <;> simp

theorem exists_compileHost {host : Option String} :
    (∃ o, compileHost cm host = .ok o) ↔ ∀ h ∈ host, HostMatcher.compiles h = true := by
  cases host with
  | none => simp [compileHost]
  | some h =>
    simp [compileHost, exists_map_eq_ok, HostMatcher.exists_compile]

theorem CompiledRoute.exists_compile {config : RouteConfig} :
    (∃ r, CompiledRoute.compile cm config = .ok r) ↔
      ∀ h ∈ config.matchRules.host, HostMatcher.compiles h = true := by
  rw [← @exists_compileHost cm]
  exact exists_map_eq_ok

variable {cm : CaseMapping} {host : Option String}

theorem Router.exists_build {routes : List RouteConfig} :
    (∃ router, Router.build cm routes = .ok router) ↔
      ∀ r ∈ routes, ∀ h ∈ r.matchRules.host, HostMatcher.compiles h = true := by
  simp only [Router.build, exists_map_eq_ok, exists_compileAll, CompiledRoute.exists_compile]

/-! ### When a route accepts a request -/

def hostAccepts (cm : CaseMapping) (pattern host : String) : Bool :=
  match HostMatcher.compile cm pattern with
  | .ok m => m.matches_ cm host
  | .error _ => false

structure RouteConfig.Accepts (cm : CaseMapping) (config : RouteConfig) (host : Option String)
    (path method : String) (headers : HashMap String String) : Prop where
  host : ∀ p ∈ config.matchRules.host, ∃ h ∈ host, hostAccepts cm p h = true
  path : ∀ m ∈ config.matchRules.pathMatcher, m.matches_ path = true
  method : config.matchRules.methods = [] ∨
    cm.toUppercase method ∈ config.matchRules.methods.map cm.toUppercase
  headers : ∀ k v : String, config.matchRules.headers[k]? = some v → headers.lookup k = some v

theorem matchesHost_iff {pattern : Option String} {o : Option HostMatcher}
    (h : compileHost cm pattern = .ok o) :
    matchesHost cm o host = true ↔ ∀ p ∈ pattern, ∃ h ∈ host, hostAccepts cm p h = true := by
  cases pattern with
  | none =>
    simp only [compileHost, Except.ok.injEq] at h
    subst h
    simp [matchesHost]
  | some p =>
    obtain ⟨m, hm, rfl⟩ := map_eq_ok.1 h
    cases host with
    | none => simp [matchesHost]
    | some h => simp [matchesHost, hostAccepts, hm]

theorem CompiledRoute.matches_iff {config : RouteConfig} {route : CompiledRoute}
    (h : CompiledRoute.compile cm config = .ok route) {path method : String}
    {headers : HashMap String String} :
    route.matches_ cm host path method headers = true ↔
      config.Accepts cm host path method headers := by
  obtain ⟨o, ho, rfl⟩ := map_eq_ok.1 h
  simp only [CompiledRoute.matches_, CompiledRoute.matchesRest, Bool.and_eq_true]
  constructor
  · rintro ⟨hhost, ⟨hpath, hmethod⟩, hheaders⟩
    refine ⟨(matchesHost_iff ho).1 hhost, ?_, by simpa using hmethod, ?_⟩
    · intro m hm
      rw [mem_def] at hm
      simpa [hm] using hpath
    · intro k v hkv
      have hmem : (k, v) ∈ entries (collect config.matchRules.headers.toList) := by
        rw [mem_entries, lookup_collect_toList, hkv]
      simpa using all_eq_true.1 hheaders _ hmem
  · rintro ⟨hhost, hpath, hmethod, hheaders⟩
    refine ⟨(matchesHost_iff ho).2 hhost, ⟨?_, by simpa using hmethod⟩, ?_⟩
    · cases hm : config.matchRules.pathMatcher with
      | none => rfl
      | some m => exact hpath m hm
    · rw [List.all_eq_true]
      rintro ⟨k, v⟩ hmem
      rw [mem_entries, lookup_collect_toList] at hmem
      simpa using hheaders k v hmem

/-! ### The chosen route -/

section Built

variable {cm : CaseMapping} {routes : List RouteConfig} {router : Router} {host : Option String}
  {path method : String} {headers : HashMap String String}

theorem Router.compileAll_of_build (h : Router.build cm routes = .ok router) :
    compileAll (CompiledRoute.compile cm) routes = .ok router.routes := by
  obtain ⟨compiled, hc, rfl⟩ := map_eq_ok.1 h
  exact hc

theorem find?_compiled {compiled : List CompiledRoute}
    (h : List.Forall₂ (fun c r => CompiledRoute.compile cm c = .ok r) routes compiled)
    {route : CompiledRoute}
    (hfind : compiled.find? (fun r => r.matches_ cm host path method headers) = some route) :
    ∃ before config after, routes = before ++ config :: after ∧
      CompiledRoute.compile cm config = .ok route ∧
      config.Accepts cm host path method headers ∧
      ∀ c ∈ before, ¬c.Accepts cm host path method headers := by
  induction h with
  | nil => simp at hfind
  | @cons c r cs rs hcr hrest ih =>
    rw [find?_cons] at hfind
    split at hfind
    · rename_i hmatch
      cases hfind
      exact ⟨[], c, cs, rfl, hcr, (CompiledRoute.matches_iff hcr).1 hmatch, by simp⟩
    · rename_i hmatch
      obtain ⟨before, config, after, rfl, hcompile, haccepts, hbefore⟩ := ih hfind
      refine ⟨c :: before, config, after, rfl, hcompile, haccepts, ?_⟩
      refine forall_mem_cons.2 ⟨?_, hbefore⟩
      intro hc
      rw [(CompiledRoute.matches_iff hcr).2 hc] at hmatch
      cases hmatch

theorem Router.exists_of_matchRequest (h : Router.build cm routes = .ok router) {m : MatchedRoute}
    (hm : router.matchRequest cm host path method headers = some m) :
    ∃ before config after, routes = before ++ config :: after ∧
      config.Accepts cm host path method headers ∧
      (∀ c ∈ before, ¬c.Accepts cm host path method headers) ∧
      m.routeName = config.name ∧ m.upstream = config.upstream := by
  obtain ⟨route, hfind, rfl⟩ := map_eq_some_iff.1 hm
  obtain ⟨before, config, after, hroutes, hcompile, haccepts, hbefore⟩ :=
    find?_compiled (compileAll_eq_ok.1 (Router.compileAll_of_build h)) hfind
  obtain ⟨o, -, rfl⟩ := map_eq_ok.1 hcompile
  exact ⟨before, config, after, hroutes, haccepts, hbefore, rfl, rfl⟩

theorem Router.isSome_matchRequest (h : Router.build cm routes = .ok router) :
    (router.matchRequest cm host path method headers).isSome = true ↔
      ∃ c ∈ routes, c.Accepts cm host path method headers := by
  constructor
  · intro hsome
    obtain ⟨m, hm⟩ := isSome_iff_exists.1 hsome
    obtain ⟨before, config, after, rfl, haccepts, -⟩ := Router.exists_of_matchRequest h hm
    exact ⟨config, by simp, haccepts⟩
  · rintro ⟨c, hc, haccepts⟩
    obtain ⟨r, hr, hcompile⟩ := exists_mem_of_compileAll (Router.compileAll_of_build h) hc
    rw [Router.matchRequest, isSome_map, Router.findRoute, find?_isSome]
    exact ⟨r, hr, (CompiledRoute.matches_iff hcompile).2 haccepts⟩

theorem Router.accepts_requestHeaders (h : Router.build cm routes = .ok router)
    {lines : List HeaderLine} {c : RouteConfig} (hc : c ∈ routes) :
    c.Accepts cm host path method (requestHeaders cm router lines) ↔
      c.Accepts cm host path method (collect (headerEntries cm lines)) := by
  rw [requestHeaders]
  split
  · rfl
  · rename_i hnone
    have hempty : ∀ k v : String, c.matchRules.headers[k]? ≠ some v := by
      intro k v hkv
      obtain ⟨r, hr, hcompile⟩ := exists_mem_of_compileAll (Router.compileAll_of_build h) hc
      obtain ⟨o, -, rfl⟩ := map_eq_ok.1 hcompile
      refine hnone (any_eq_true.2 ⟨_, hr, ?_⟩)
      have hmem : (k, v) ∈ entries (collect c.matchRules.headers.toList) := by
        rw [mem_entries, lookup_collect_toList, hkv]
      simpa using ne_nil_of_mem hmem
    constructor
    · rintro ⟨hhost, hpath, hmethod, -⟩
      exact ⟨hhost, hpath, hmethod, fun k v hkv => absurd hkv (hempty k v)⟩
    · rintro ⟨hhost, hpath, hmethod, -⟩
      exact ⟨hhost, hpath, hmethod, fun k v hkv => absurd hkv (hempty k v)⟩

end Built

end Wicket
