/-
**Whether the order of the patterns matters.**

The map of the patterns tells apart what differs in letter case, and the patterns are compared in
lower case: only then can the order of the map decide.
-/

import Mathlib.Algebra.Order.BigOperators.Group.List
import Wicket.SniPatterns

namespace Wicket

open Option Text CompiledPattern SniRouter List
open KeyMap

/-- Every server name is routed alike, in whatever order the map of the patterns is iterated. -/
def OrderFree (sniRoutes : HashMap String String) (defaultUpstream : Option String) : Prop :=
  ∀ sniRoutes' : HashMap String String, sniRoutes'.entries.Perm sniRoutes.entries →
    ∀ sni, (SniRouter.new sniRoutes' defaultUpstream).matchSni sni =
      (SniRouter.new sniRoutes defaultUpstream).matchSni sni

/-- Patterns that differ in letter case only have the same upstream. -/
def AgreeingPatterns (sniRoutes : HashMap String String) : Prop :=
  ∀ p q up up', sniRoutes.lookup p = some up → sniRoutes.lookup q = some up' →
    toAsciiLowercase p = toAsciiLowercase q → up = up'

section Patterns

variable {sniRoutes : HashMap String String} {defaultUpstream : Option String}
  {p q hostname upstream : String}

/-- The pattern can decide about the name: it is exact, or a wildcard while there is no exact
one. -/
def CanDecide (sniRoutes : HashMap String String) (p hostname : String) : Prop :=
  IsExactFor p hostname ∨ IsWildcardFor p hostname ∧
    ∀ q, (sniRoutes.lookup q).isSome = true → ¬IsExactFor q hostname

theorem CanDecide.accepts (h : CanDecide sniRoutes p hostname) :
    IsExactFor p hostname ∨ IsWildcardFor p hostname := by
  rcases h with hexact | hwild
  · exact Or.inl hexact
  · exact Or.inr hwild.1

theorem CanDecide.congr (h : CanDecide sniRoutes p hostname)
    (heq : toAsciiLowercase p = toAsciiLowercase q) :
    CanDecide sniRoutes q hostname := by
  unfold CanDecide IsExactFor IsWildcardFor at h ⊢
  rwa [← heq]

theorem CanDecide.unique (hp : (sniRoutes.lookup p).isSome = true)
    (hq : (sniRoutes.lookup q).isSome = true) (h : CanDecide sniRoutes p hostname)
    (h' : CanDecide sniRoutes q hostname) :
    toAsciiLowercase p = toAsciiLowercase q := by
  rcases h with hexact | hwild
  · rcases h' with hexact' | hwild'
    · exact hexact.1.trans hexact'.1.symm
    · exact absurd hexact (hwild'.2 p hp)
  · rcases h' with hexact' | hwild'
    · exact absurd hexact' (hwild.2 q hq)
    · exact hwild.1.unique hwild'.1

/-! ### Agreeing patterns -/

theorem AgreeingPatterns.matchSni_eq (hagree : AgreeingPatterns sniRoutes)
    (hp : sniRoutes.lookup p = some upstream) (h : CanDecide sniRoutes p hostname) :
    (new sniRoutes defaultUpstream).matchSni (some hostname) = some upstream := by
  refine matchSni_of_agree defaultUpstream hp h.accepts ?_
  intro q up hq hways
  have hsame := CanDecide.unique (isSome_of_mem hq) (isSome_of_mem hp) hways h
  exact hagree q p up upstream hq hp hsame

theorem exists_canDecide (hp : (sniRoutes.lookup p).isSome = true)
    (h : IsExactFor p hostname ∨ IsWildcardFor p hostname) :
    ∃ q up, sniRoutes.lookup q = some up ∧ CanDecide sniRoutes q hostname := by
  by_cases hexact : ∃ q, (sniRoutes.lookup q).isSome = true ∧ IsExactFor q hostname
  · obtain ⟨q, hq, hqexact⟩ := hexact
    obtain ⟨up, hup⟩ := isSome_iff_exists.1 hq
    exact ⟨q, up, hup, Or.inl hqexact⟩
  · have hno : ∀ q, (sniRoutes.lookup q).isSome = true → ¬IsExactFor q hostname :=
      fun q hq hqexact => hexact ⟨q, hq, hqexact⟩
    obtain ⟨up, hup⟩ := isSome_iff_exists.1 hp
    exact ⟨p, up, hup, Or.inr ⟨h.resolve_left (hno p hp), hno⟩⟩

theorem AgreeingPatterns.matchSni_congr {sniRoutes' : HashMap String String}
    (hagree : AgreeingPatterns sniRoutes)
    (hsame : ∀ p, sniRoutes'.lookup p = sniRoutes.lookup p) (sni : Option String) :
    (new sniRoutes' defaultUpstream).matchSni sni =
      (new sniRoutes defaultUpstream).matchSni sni := by
  have hagree' : AgreeingPatterns sniRoutes' := by
    unfold AgreeingPatterns
    simp only [hsame]
    exact hagree
  cases sni with
  | none => rfl
  | some hostname =>
    by_cases hsome : ∃ p, (sniRoutes.lookup p).isSome = true ∧
        (IsExactFor p hostname ∨ IsWildcardFor p hostname)
    · obtain ⟨p, hp, haccepts⟩ := hsome
      obtain ⟨q, up, hq, hdecides⟩ := exists_canDecide hp haccepts
      have hdecides' : CanDecide sniRoutes' q hostname := by
        unfold CanDecide
        simp only [hsame]
        exact hdecides
      rw [hagree.matchSni_eq hq hdecides, hagree'.matchSni_eq ((hsame q).trans hq) hdecides']
    · -- no pattern accepts the name, so both routers take the default
      have hnone : ∀ p, (sniRoutes.lookup p).isSome = true →
          ¬IsExactFor p hostname ∧ ¬IsWildcardFor p hostname := by
        intro p hp
        exact not_or.1 fun haccepts => hsome ⟨p, hp, haccepts⟩
      rw [matchSni_some, matchSni_some, find_eq_none hnone,
        find_eq_none fun p hp => hnone p (by rwa [← hsame p])]
      rfl

theorem SniRouter.matchSni_insert (h : CanDecide sniRoutes p hostname) :
    (new (sniRoutes.insert p upstream) defaultUpstream).matchSni (some hostname) =
      some upstream := by
  have hentries : entries (sniRoutes.insert p upstream) =
      (p, upstream) :: entries (sniRoutes.erase p) := rfl
  have hfind : (new (sniRoutes.insert p upstream) defaultUpstream).findRoute hostname =
      some (parse p, upstream) := by
    rw [findRoute, new]
    dsimp only
    rw [hentries, map_cons]
    dsimp only
    have haccepts := matches_parse.2 h.accepts
    refine Check.find?_insertionSort_cons haccepts ?_
    intro r hr hmatch
    obtain ⟨⟨q, up⟩, hmem, rfl⟩ := mem_map.1 hr
    dsimp only at hmatch
    have hq := lookup_of_lookup_erase (mem_entries.1 hmem)
    rcases h with hexact | hwild
    · -- an exact pattern may stand before everything
      rw [parse_of_exact hexact.2]
      rfl
    · -- another pattern that accepts the name is the same wildcard
      rcases matches_parse.1 hmatch with hexact | hwild'
      · exact absurd hexact (hwild.2 q (isSome_of_mem hq))
      · obtain ⟨label, suffix, hlower, -⟩ := hwild.1
        have hlower' := (hwild'.unique hwild.1).trans hlower
        rw [parse_of_wildcard hlower, parse_of_wildcard hlower']
        simp [le]
  rw [matchSni_some, hfind]
  rfl

theorem perm_insert (hp : sniRoutes.lookup p = some upstream) :
    (sniRoutes.insert p upstream).entries.Perm sniRoutes.entries := by
  refine perm_entries_of_lookup ?_
  intro k v
  by_cases hk : k = p
  · rw [hk, AList.lookup_insert, hp]
  · rw [AList.lookup_insert_ne hk]

/-! ### A name for a pattern -/

theorem exists_canDecide_name (p : String) : ∃ hostname, CanDecide sniRoutes p hostname := by
  cases hstar : startsWith (toAsciiLowercase p) "*." with
  | false => exact ⟨p, Or.inl ⟨rfl, hstar⟩⟩
  | true =>
    obtain ⟨suffix, hlower⟩ := startsWith_iff.1 hstar
    let label := String.ofList (replicate ((sniRoutes.keys.map String.length).sum + 1) 'a')
    have hlabel : label.toList = replicate
        ((sniRoutes.keys.map String.length).sum + 1) 'a' := String.toList_ofList
    have hlabelLower : toAsciiLowercase label = label := by
      rw [toAsciiLowercase, hlabel, map_replicate]
      rfl
    have hsuffix : toAsciiLowercase suffix = suffix := by
      have hidem := toAsciiLowercase_idem p
      rw [hlower, toAsciiLowercase_append] at hidem
      exact (String.append_right_inj "*.").1 hidem
    have hname : toAsciiLowercase (label ++ "." ++ suffix) = label ++ "." ++ suffix := by
      rw [toAsciiLowercase_append, toAsciiLowercase_append, hlabelLower, hsuffix]
      rfl
    refine ⟨label ++ "." ++ suffix, Or.inr ⟨⟨label, suffix, hlower, hname, ?_, ?_⟩, ?_⟩⟩
    · intro hempty
      have hlist := congrArg String.toList hempty
      rw [hlabel] at hlist
      cases hlist
    · rw [hlabel, mem_replicate, not_and]
      intro _
      decide
    · -- an exact pattern would be as long as the name
      intro q hq hexact
      have hlength := congrArg String.length (hexact.1.trans hname)
      have hkey : q.length ≤ (sniRoutes.keys.map String.length).sum :=
        le_sum_of_mem (mem_map_of_mem (AList.lookup_isSome.1 hq))
      have hlabelLength : label.length = (sniRoutes.keys.map String.length).sum + 1 := by
        rw [← String.length_toList, hlabel, length_replicate]
      rw [length_toAsciiLowercase, String.length_append, String.length_append] at hlength
      omega

end Patterns

/-- **A name is routed alike for every order of the map exactly when patterns that differ in letter
case only have the same upstream.** -/
theorem orderFree_iff {sniRoutes : HashMap String String} {defaultUpstream : Option String} :
    OrderFree sniRoutes defaultUpstream ↔ AgreeingPatterns sniRoutes := by
  constructor
  · intro h p q up up' hp hq heq
    -- each of the two decides when it stands first
    obtain ⟨hostname, hdecides⟩ := @exists_canDecide_name sniRoutes p
    have hfirst := h _ (perm_insert hp) (some hostname)
    have hsecond := h _ (perm_insert hq) (some hostname)
    rw [SniRouter.matchSni_insert hdecides] at hfirst
    rw [SniRouter.matchSni_insert (hdecides.congr heq)] at hsecond
    exact Option.some.inj (hfirst.trans hsecond.symm)
  · intro hagree sniRoutes' hperm sni
    refine hagree.matchSni_congr ?_ sni
    intro p
    exact AList.perm_lookup hperm

def casePatterns : HashMap String String :=
  collect [("api.example.com", "blue"), ("API.example.com", "green")]

def caseStream : StreamConfig where
  name := "tls"
  listen := "0.0.0.0:443"
  sniRoutes := casePatterns
  upstreams := [{ name := "blue", servers := ["10.0.0.1:443"] },
    { name := "green", servers := ["10.0.0.2:443"] }]

theorem caseStream_not_orderFree :
    Config.validate { Config.default with streams := [caseStream] } = .ok () ∧
      (SniRouter.new caseStream.sniRoutes none).matchSni (some "api.example.com") =
        some "green" ∧
      (SniRouter.new (reverse caseStream.sniRoutes) none).matchSni
        (some "api.example.com") = some "blue" ∧
      ¬OrderFree caseStream.sniRoutes caseStream.defaultUpstream := by
  have hgreen : (SniRouter.new caseStream.sniRoutes none).matchSni (some "api.example.com") =
      some "green" := by decide
  have hblue : (SniRouter.new (reverse caseStream.sniRoutes) none).matchSni
      (some "api.example.com") = some "blue" := by decide
  refine ⟨rfl, hgreen, hblue, ?_⟩
  intro h
  have hsame := h (reverse caseStream.sniRoutes) (List.reverse_perm _)
    (some "api.example.com")
  exact absurd hsame (by decide)

end Wicket
