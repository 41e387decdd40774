/-
**The host of a request against the host of its connection.**

`request_filter` compares the `Host` header with the negotiated name after a normalisation that
drops final dots and brackets; the router then uses one that does not.
-/

import Wicket.Routing

namespace Wicket

open KeyMap (HashMap)
open Bool List Text HostMatcher CompiledRoute
open Check

/-! ### The check of `request_filter` -/

structure Authority where
  text : String
  ascii : isAscii text = true

def requestHost (cm : CaseMapping) (lines : List HeaderLine) (authority : Option Authority) :
    Option String :=
  ((lines.find? fun line => cm.toLowercase line.name == "host").bind HeaderLine.toStr).or
    (authority.map (·.text))

/-- What stands in brackets, if the host starts with them, and what stands before the port
otherwise. -/
def stripHostname (host : String) : String :=
  match stripPrefix host "[" with
  | some rest =>
    if hasChar rest ']' then beforeFirst rest ']' else beforeFirst host ':'
  | none => beforeFirst host ':'

def normalizeHostname (cm : CaseMapping) (host : String) : String :=
  stripHostname (cm.toLowercase (trimEnd host '.'))

def sameHostname (cm : CaseMapping) (host sni : String) : Bool :=
  normalizeHostname cm host == normalizeHostname cm sni

/-- `request_filter` answers 421: the names are both there, and they differ. -/
def isMisdirected (cm : CaseMapping) (sni host : Option String) : Bool :=
  match sni, host with
  | some sni, some host => !sameHostname cm host sni
  | _, _ => false

structure TlsName where
  name : String
  ascii : isAscii name = true
  noPort : ':' ∉ name.toList
  noBracket : '[' ∉ name.toList
  noDot : endsWith name "." = false

/-! ### What the check lets through -/

theorem HeaderLine.isAscii_toStr {line : HeaderLine} {v : String} (h : line.toStr = some v) :
    isAscii v = true := by
  rw [HeaderLine.toStr] at h
  split at h
  case isTrue hall =>
    cases h
    rw [isAscii, all_eq_true]
    intro c hc
    have hvisible := all_eq_true.1 hall c hc
    simp only [or_eq_true, and_eq_true, decide_eq_true_eq, beq_iff_eq] at hvisible ⊢
    rcases hvisible with ⟨-, hlt⟩ | rfl
    · omega
    · decide
  case isFalse => cases h

theorem isAscii_requestHost {cm : CaseMapping} {lines : List HeaderLine}
    {authority : Option Authority} {host : String}
    (h : requestHost cm lines authority = some host) : isAscii host = true := by
  rcases Option.or_eq_some_iff.1 h with hline | ⟨-, hauthority⟩
  · obtain ⟨line, -, hv⟩ := Option.bind_eq_some_iff.1 hline
    exact HeaderLine.isAscii_toStr hv
  · obtain ⟨a, -, rfl⟩ := Option.map_eq_some_iff.1 hauthority
    exact a.ascii

section Names

variable {cm : CaseMapping} {s host : String}

theorem toList_toLowercase (h : isAscii s = true) :
    (cm.toLowercase s).toList = s.toList.map Char.toLower := by
  rw [cm.toLowercase_ascii s h, toAsciiLowercase, String.toList_ofList]

theorem toList_hostName (h : isAscii s = true) :
    (hostName cm s).toList = (s.toList.map Char.toLower).takeWhile (· ≠ ':') := by
  rw [hostName, beforeFirst, String.toList_ofList, toList_toLowercase h]

theorem TlsName.toList_hostName (sni : TlsName) :
    (hostName cm sni.name).toList = sni.name.toList.map Char.toLower := by
  rw [Wicket.toList_hostName sni.ascii, takeWhile_eq_self_iff]
  intro c hc
  obtain ⟨a, ha, rfl⟩ := mem_map.1 hc
  have hne : a.toLower ≠ ':' := fun heq => sni.noPort (toLower_eq (by decide) heq ▸ ha)
  simpa using hne

theorem isAscii_trimEnd (h : isAscii s = true) (c : Char) : isAscii (trimEnd s c) = true := by
  rw [isAscii, all_eq_true] at h ⊢
  intro a ha
  rw [trimEnd, String.toList_ofList] at ha
  exact h a ((List.rdropWhile_prefix _ _).subset ha)

theorem TlsName.toList_normalizeHostname (sni : TlsName) :
    (normalizeHostname cm sni.name).toList = sni.name.toList.map Char.toLower := by
  have htrim : trimEnd sni.name '.' = sni.name := by
    rw [trimEnd, rdropWhile_eq_self_iff.2, String.ofList_toList]
    intro hne hlast
    have hdot := sni.noDot
    rw [endsWith, eq_false_iff, ne_eq, isSuffixOf_iff_suffix] at hdot
    refine hdot ⟨sni.name.toList.dropLast, ?_⟩
    have hlast' : sni.name.toList.getLast hne = '.' := by simpa using hlast
    rw [show "." = String.singleton '.' from rfl, String.toList_singleton, ← hlast']
    exact dropLast_append_getLast hne
  have hbracket : stripPrefix (cm.toLowercase sni.name) "[" = none := by
    rw [stripPrefix_eq_none, eq_false_iff, ne_eq, startsWith_iff]
    rintro ⟨t, ht⟩
    have hmem : '[' ∈ (cm.toLowercase sni.name).toList := by simp [ht]
    rw [toList_toLowercase sni.ascii] at hmem
    obtain ⟨a, ha, heq⟩ := mem_map.1 hmem
    exact sni.noBracket (toLower_eq (by decide) heq ▸ ha)
  simp only [normalizeHostname, stripHostname, htrim, hbracket]
  exact sni.toList_hostName

/-- The text is the name with something around it: what stands before is no part of a name, and
there is nothing before without something after. -/
def Surrounds (text name : List Char) : Prop :=
  ∃ before after : List Char, '.' ∉ before ∧ (after = [] → before = []) ∧
    text = before ++ name ++ after

variable {text pattern suffix : String}

theorem beforePort_surrounds {s : List Char} (h : (beforeFirst text ':').toList = s)
    (dots : List Char) :
    Surrounds ((text.toList ++ dots).takeWhile (· ≠ ':')) s := by
  rw [beforeFirst, String.toList_ofList] at h
  rw [takeWhile_append, h]
  split
  case isTrue hall =>
    refine ⟨[], dots.takeWhile (· ≠ ':'), by simp, fun _ => rfl, ?_⟩
    have htext : s = text.toList := by
      rw [← h] at hall ⊢
      exact (List.takeWhile_prefix _).eq_of_length hall
    rw [htext, nil_append]
  case isFalse => exact ⟨[], [], by simp, fun _ => rfl, by simp⟩

theorem bracketed_surrounds {rest : String} {s : List Char} (hport : ':' ∉ s)
    (hclosed : hasChar rest ']' = true) (h : (beforeFirst rest ']').toList = s)
    (dots : List Char) :
    Surrounds ((("[" ++ rest).toList ++ dots).takeWhile (· ≠ ':')) s := by
  obtain ⟨inner, tail, htail, hinner⟩ : ∃ inner tail, rest.toList = inner ++ ']' :: tail ∧
      ']' ∉ inner := eq_append_cons_of_mem (by simpa [hasChar] using hclosed)
  have hs : inner = s := by
    rw [beforeFirst, String.toList_ofList, htail, takeWhile_append_of_pos] at h
    · simpa using h
    · exact fun c hc => by simpa using ne_of_mem_of_not_mem hc hinner
  rw [hs] at htail
  refine ⟨['['], ']' :: (tail ++ dots).takeWhile (· ≠ ':'), by decide, by simp, ?_⟩
  have hall : ∀ c ∈ '[' :: (s ++ [']']), decide (c ≠ ':') = true := by
    have hs' : ∀ c ∈ s, c ≠ ':' := fun c hc => ne_of_mem_of_not_mem hc hport
    simpa [or_imp, forall_and] using hs'
  have hsplit : ("[" ++ rest).toList ++ dots = '[' :: (s ++ [']']) ++ (tail ++ dots) := by
    simp [htail]
  rw [hsplit, takeWhile_append_of_pos hall]
  simp

theorem stripHostname_surrounds {s : List Char} (hport : ':' ∉ s)
    (h : (stripHostname text).toList = s) (dots : List Char) :
    Surrounds ((text.toList ++ dots).takeWhile (· ≠ ':')) s := by
  rw [stripHostname] at h
  split at h
  case h_1 rest hrest =>
    split at h
    case isTrue hclosed =>
      obtain rfl : text = "[" ++ rest := stripPrefix_eq_some.1 hrest
      exact bracketed_surrounds hport hclosed h dots
    case isFalse => exact beforePort_surrounds h dots
  case h_2 => exact beforePort_surrounds h dots

/-- **What the check lets through is the negotiated name with something around it.** -/
theorem hostName_surrounds (hascii : isAscii host = true) (sni : TlsName)
    (hsame : sameHostname cm host sni.name = true) :
    Surrounds (hostName cm host).toList (hostName cm sni.name).toList := by
  rw [sameHostname, beq_iff_eq] at hsame
  have hname : (normalizeHostname cm host).toList = (hostName cm sni.name).toList := by
    rw [hsame, sni.toList_normalizeHostname, sni.toList_hostName]
  have hport : ':' ∉ (hostName cm sni.name).toList := by
    intro hmem
    rw [toList_hostName sni.ascii] at hmem
    simpa using mem_takeWhile_imp hmem
  -- the host is what is left of it without its final dots, and these dots
  obtain ⟨dots, hdots⟩ : ∃ dots, host.toList.rdropWhile (· == '.') ++ dots = host.toList :=
    rdropWhile_prefix _ _
  have hhost : (hostName cm host).toList =
      ((cm.toLowercase (trimEnd host '.')).toList ++ dots.map Char.toLower).takeWhile
        (· ≠ ':') := by
    rw [toList_hostName hascii, toList_toLowercase (isAscii_trimEnd hascii '.'), trimEnd,
      String.toList_ofList, ← map_append, hdots]
  rw [hhost]
  exact stripHostname_surrounds hport hname _

/-! ### Host patterns -/

theorem HostMatcher.matches_congr (m : HostMatcher) {a b : String}
    (h : hostName cm a = hostName cm b) : m.matches_ cm a = m.matches_ cm b := by
  simp only [matches_, h]

theorem HostMatcher.suffix_of_compile (h : compile cm pattern = .ok (.WildcardPrefix suffix)) :
    ∃ rest, suffix.toList = '.' :: rest := by
  rw [compile] at h
  split at h
  case h_1 =>
    cases h
    exact ⟨_, by rw [String.toList_append]; rfl⟩
  case h_2 =>
    split at h <;> cases h

theorem HostMatcher.label_of_matches
    (h : (HostMatcher.WildcardPrefix suffix).matches_ cm host = true) :
    ∃ label, (hostName cm host).toList = label ++ suffix.toList ∧ '.' ∉ label := by
  obtain ⟨label, hname, -, hdot⟩ := matches_wildcard.1 h
  exact ⟨label.toList, by rw [hname, String.toList_append], hdot⟩

theorem HostMatcher.not_both {m : HostMatcher} (hm : compile cm pattern = .ok m)
    (hascii : isAscii host = true) (sni : TlsName)
    (hsame : sameHostname cm host sni.name = true) (hhost : m.matches_ cm host = true)
    (hsni : m.matches_ cm sni.name = true) :
    hostName cm host = hostName cm sni.name := by
  cases m with
  | Exact expected =>
    have h₁ : hostName cm host = expected := beq_iff_eq.1 hhost
    have h₂ : hostName cm sni.name = expected := beq_iff_eq.1 hsni
    rw [h₁, h₂]
  | WildcardPrefix suffix =>
    obtain ⟨rest, hrest⟩ := suffix_of_compile hm
    obtain ⟨label, hlabel, hdot⟩ := label_of_matches hhost
    obtain ⟨label', hlabel', hdot'⟩ := label_of_matches hsni
    obtain ⟨before, after, hbefore, hnone, hname⟩ := hostName_surrounds hascii sni hsame
    -- the first dot ends the label on both sides, so nothing can follow the name
    have heq : label ++ '.' :: rest = (before ++ label') ++ '.' :: (rest ++ after) := by
      rw [← hrest, ← hlabel, hname, hlabel', hrest]
      simp
    have htail := append_cons_inj_left hdot (by simp [hbefore, hdot']) heq
    have hafter : after = [] := by simpa using htail.2
    rw [hafter, hnone hafter, nil_append, append_nil] at hname
    exact String.toList_inj.1 hname

end Names

/-! ### The chosen route -/

/-- The first route that accepts the request under one of two hosts. -/
def Router.findEither (cm : CaseMapping) (router : Router) (host host' : Option String)
    (path method : String) (headers : HashMap String String) : Option CompiledRoute :=
  router.routes.find? fun route =>
    route.matchesRest cm path method headers &&
      (matchesHost cm route.hostMatcher host || matchesHost cm route.hostMatcher host')

section Chosen

variable {cm : CaseMapping} {routes : List RouteConfig} {router : Router} {path method : String}
  {headers : HashMap String String}

theorem compile_of_mem_routes (hbuild : Router.build cm routes = .ok router) {route : CompiledRoute}
    (hroute : route ∈ router.routes) {m : HostMatcher} (hm : route.hostMatcher = some m) :
    ∃ pattern, HostMatcher.compile cm pattern = .ok m := by
  obtain ⟨config, -, hcompile⟩ :=
    exists_of_mem_compileAll (Router.compileAll_of_build hbuild) hroute
  obtain ⟨o, ho, rfl⟩ := map_eq_ok.1 hcompile
  subst hm
  cases hpattern : config.matchRules.host with
  | none =>
    rw [hpattern] at ho
    cases ho
  | some pattern =>
    rw [hpattern] at ho
    obtain ⟨m', hm', heq⟩ := map_eq_ok.1 ho
    cases heq
    exact ⟨pattern, hm'⟩

theorem Router.findRoute_congr {a b : String} (h : hostName cm a = hostName cm b) :
    router.findRoute cm (some a) path method headers =
      router.findRoute cm (some b) path method headers := by
  have hmatch : ∀ route : CompiledRoute, route.matches_ cm (some a) path method headers =
      route.matches_ cm (some b) path method headers := by
    intro route
    rw [CompiledRoute.matches_, CompiledRoute.matches_]
    cases route.hostMatcher with
    | none => rfl
    | some m => rw [matchesHost, matchesHost, m.matches_congr h]
  simp only [Router.findRoute, hmatch]

/-- **The two names lead to the same route** exactly when they are the same to the matchers, or the
first route that accepts either has no host pattern. -/
theorem sameRoute_iff (hbuild : Router.build cm routes = .ok router) (sni : TlsName)
    {lines : List HeaderLine} {authority : Option Authority} {host : String}
    (hhost : requestHost cm lines authority = some host)
    (hpass : isMisdirected cm (some sni.name) (some host) = false) :
    router.findRoute cm (some host) path method headers =
        router.findRoute cm (some sni.name) path method headers ↔
      hostName cm host = hostName cm sni.name ∨
        ∀ route, router.findEither cm (some host) (some sni.name) path method headers = some route →
          route.hostMatcher = none := by
  have hsame : sameHostname cm host sni.name = true := by simpa [isMisdirected] using hpass
  have hascii := isAscii_requestHost hhost
  have heither : router.findEither cm (some host) (some sni.name) path method headers =
      router.routes.find? fun route =>
        route.matches_ cm (some host) path method headers ||
          route.matches_ cm (some sni.name) path method headers := by
    simp only [Router.findEither, CompiledRoute.matches_, ← Bool.and_or_distrib_right,
      Bool.and_comm]
  constructor
  · intro h
    rw [Router.findRoute, Router.findRoute, find?_eq_find?_iff] at h
    by_cases hname : hostName cm host = hostName cm sni.name
    · exact .inl hname
    · refine .inr ?_
      intro route hroute
      rw [heither] at hroute
      obtain ⟨h₁, h₂⟩ := h route hroute
      cases hm : route.hostMatcher with
      | none => rfl
      | some m =>
        -- a pattern would have told the two names apart
        obtain ⟨pattern, hcompile⟩ :=
          compile_of_mem_routes hbuild (List.mem_of_find?_eq_some hroute) hm
        rw [CompiledRoute.matches_, hm, matchesHost, Bool.and_eq_true] at h₁ h₂
        exact absurd (HostMatcher.not_both hcompile hascii sni hsame h₁.1 h₂.1) hname
  · rintro (hname | hopen)
    · exact Router.findRoute_congr hname
    · rw [Router.findRoute, Router.findRoute, find?_eq_find?_iff]
      intro route hroute
      have hnone : route.hostMatcher = none := hopen route (heither.trans hroute)
      have hhit := List.find?_some hroute
      simp only [CompiledRoute.matches_, hnone, matchesHost, Bool.or_self] at hhit ⊢
      exact ⟨hhit, hhit⟩

end Chosen

/-! ### A route for one host, and one for all others -/

def shopRoutes : List RouteConfig :=
  [{ upstream := "shop", matchRules := { host := some "shop.example.com" } },
   { upstream := "fallback", matchRules := { pathPrefix := some "/" } }]

def shopName : TlsName where
  name := "shop.example.com"
  ascii := by decide
  noPort := by decide
  noBracket := by decide
  noDot := by decide

def hostLine (value : String) : HeaderLine where
  name := "Host"
  value := value
  nameAscii := by decide

def shopRouter : Router :=
  ⟨[{ name := none, upstream := "shop", hostMatcher := some (.Exact "shop.example.com"),
      pathMatcher := none, methods := [], headers := ∅, urlRewrite := none },
    { name := none, upstream := "fallback", hostMatcher := none,
      pathMatcher := some (.Prefix "/"), methods := [], headers := ∅, urlRewrite := none }]⟩

theorem build_shopRoutes : Router.build .ascii shopRoutes = .ok shopRouter := by
  rfl

theorem shopPort_sameRoute :
    requestHost .ascii [hostLine "Shop.Example.com:8443"] none = some "Shop.Example.com:8443" ∧
    isMisdirected .ascii (some shopName.name) (some "Shop.Example.com:8443") = false ∧
    shopRouter.findRoute .ascii (some "Shop.Example.com:8443") "/" "GET" ∅ =
      shopRouter.findRoute .ascii (some shopName.name) "/" "GET" ∅ :=
  have hhost : requestHost .ascii [hostLine "Shop.Example.com:8443"] none =
      some "Shop.Example.com:8443" := by decide
  have hpass : isMisdirected .ascii (some shopName.name) (some "Shop.Example.com:8443") =
      false := by decide +kernel
  ⟨hhost, hpass, (sameRoute_iff build_shopRoutes shopName hhost hpass).2 (.inl (by decide +kernel))⟩

theorem shopDot_otherRoute : Router.build .ascii shopRoutes = .ok shopRouter ∧
    requestHost .ascii [hostLine "shop.example.com."] none = some "shop.example.com." ∧
    isMisdirected .ascii (some shopName.name) (some "shop.example.com.") = false ∧
    (shopRouter.matchRequest .ascii (some "shop.example.com.") "/" "GET" ∅).map (·.upstream) =
      some "fallback" ∧
    (shopRouter.matchRequest .ascii (some shopName.name) "/" "GET" ∅).map (·.upstream) =
      some "shop" :=
  ⟨build_shopRoutes, by decide, by decide +kernel, by decide +kernel, by decide +kernel⟩

end Wicket
