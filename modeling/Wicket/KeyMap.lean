/-
**Keyed maps: hash maps with an iteration order, and writes where the last one wins.**

A hash map is the list of its entries in the order an iteration visits them: the association lists
of Mathlib.
-/

import Mathlib.Data.Finset.Lattice.Lemmas
import Mathlib.Data.List.AList
import Mathlib.Data.List.Sort
import Mathlib.Data.String.Basic

namespace KeyMap

open List AList Std.TreeMap Prod

variable {K V : Type}

/-! ### Hash maps -/

/-- A hash map: its entries in the order an iteration visits them, with no key twice. -/
abbrev HashMap (K V : Type) : Type := AList fun _ : K => V

def entries (m : HashMap K V) : List (K × V) := m.entries.map fun e => (e.1, e.2)

def values (m : HashMap K V) : List V := (entries m).map Prod.snd

def sortedEntries [LinearOrder K] (m : HashMap K V) : List (K × V) :=
  (entries m).insertionSort fun a b => a.1 ≤ b.1

def filterValues (p : V → Bool) (m : HashMap K V) : HashMap K V where
  entries := m.entries.filter fun e => p e.2
  nodupKeys := m.nodupKeys.sublist List.filter_sublist

def reverse (m : HashMap K V) : HashMap K V where
  entries := m.entries.reverse
  nodupKeys := (List.perm_nodupKeys (List.reverse_perm _)).2 m.nodupKeys

theorem map_fst_entries (m : HashMap K V) : (entries m).map Prod.fst = m.keys := by
  simp [entries, AList.keys, List.keys, Function.comp_def]

variable {m m' : HashMap K V} {k k' : K} {v : V}

theorem mem_entries [DecidableEq K] : (k, v) ∈ entries m ↔ m.lookup k = some v := by
  rw [← Option.mem_def, mem_lookup_iff]
  constructor
  · intro h
    obtain ⟨⟨k', v'⟩, he, heq⟩ := mem_map.1 h
    obtain ⟨rfl, rfl⟩ := heq
    exact he
  · intro h
    exact mem_map.2 ⟨⟨k, v⟩, h, rfl⟩

theorem mem_values [DecidableEq K] : v ∈ values m ↔ ∃ k, m.lookup k = some v := by
  simp [values, mem_entries]

@[simp] theorem mem_sortedEntries [LinearOrder K] :
    (k, v) ∈ sortedEntries m ↔ m.lookup k = some v := by
  rw [sortedEntries, mem_insertionSort, mem_entries]

theorem nodup_keys_sortedEntries [LinearOrder K] (m : HashMap K V) :
    ((sortedEntries m).map fst).Nodup := by
  have hperm := (perm_insertionSort (fun a b : K × V => a.1 ≤ b.1) (entries m)).map fst
  rw [sortedEntries, hperm.nodup_iff, map_fst_entries]
  exact m.keys_nodup

theorem pairwise_sortedEntries [LinearOrder K] (m : HashMap K V) :
    (sortedEntries m).Pairwise fun a b => a.1 < b.1 := by
  have hsorted : (sortedEntries m).Pairwise fun a b => a.1 ≤ b.1 :=
    pairwise_insertionSort (fun a b : K × V => a.1 ≤ b.1) (entries m)
  have hne := pairwise_map.1 (nodup_keys_sortedEntries m)
  exact hsorted.imp₂ (fun _ _ hle hne => lt_of_le_of_ne hle hne) hne

theorem perm_entries_of_lookup [DecidableEq K]
    (h : ∀ k v, m.lookup k = some v ↔ m'.lookup k = some v) : m.entries.Perm m'.entries :=
  lookup_ext m.nodupKeys m'.nodupKeys h

theorem findSome?_sortedEntries {W : Type} [LinearOrder K] {f : K × V → Option W} {w : W} :
    (sortedEntries m).findSome? f = some w ↔ ∃ k v, m.lookup k = some v ∧ f (k, v) = some w ∧
      ∀ k' v', m.lookup k' = some v' → f (k', v') ≠ none → k ≤ k' := by
  rw [findSome?_eq_some_iff]
  constructor
  · rintro ⟨before, ⟨k, v⟩, after, hsplit, hf, hbefore⟩
    have hsorted := pairwise_sortedEntries m
    rw [hsplit, pairwise_append, pairwise_cons] at hsorted
    refine ⟨k, v, mem_sortedEntries.1 (by simp [hsplit]), hf, fun k' v' hlookup hne => ?_⟩
    have hmem : (k', v') ∈ before ++ (k, v) :: after := hsplit ▸ mem_sortedEntries.2 hlookup
    rcases mem_append.1 hmem with hmem | hmem
    · exact absurd (hbefore _ hmem) hne
    · rcases mem_cons.1 hmem with heq | hmem
      · exact (congrArg fst heq).ge
      · exact (hsorted.2.1.1 _ hmem).le
  · rintro ⟨k, v, hlookup, hf, hleast⟩
    obtain ⟨before, after, hsplit⟩ := append_of_mem (mem_sortedEntries.2 hlookup)
    have hsorted := pairwise_sortedEntries m
    rw [hsplit, pairwise_append] at hsorted
    refine ⟨before, (k, v), after, hsplit, hf, ?_⟩
    rintro ⟨k', v'⟩ hmem
    by_contra hne
    have hle := hleast k' v' (mem_sortedEntries.1 (by simp [hsplit, hmem])) hne
    exact absurd (hsorted.2.2 _ hmem _ mem_cons_self) (not_lt.2 hle)

theorem sortedEntries_congr [LinearOrder K]
    (h : ∀ k v, m.lookup k = some v ↔ m'.lookup k = some v) :
    sortedEntries m = sortedEntries m' := by
  have hperm : (sortedEntries m).Perm (sortedEntries m') :=
    (perm_insertionSort _ _).trans <|
      ((perm_entries_of_lookup h).map _).trans (perm_insertionSort _ _).symm
  exact hperm.eq_of_pairwise (fun a b _ _ hab hba => absurd hab (lt_asymm hba))
    (pairwise_sortedEntries m) (pairwise_sortedEntries m')

theorem eq_of_perm [DecidableEq K] (hperm : m'.entries.Perm m.entries)
    (hone : ∀ k k', (m.lookup k).isSome = true → (m.lookup k').isSome = true → k = k') :
    m' = m := by
  have hsame : ∀ a b, a ∈ m'.entries → b ∈ m.entries → True → True → a = b := by
    rintro ⟨k, v⟩ ⟨k', v'⟩ ha hb - -
    have ha' := mem_lookup_iff.2 (hperm.mem_iff.1 ha)
    have hb' := mem_lookup_iff.2 hb
    obtain rfl := hone k k' (Option.isSome_of_mem ha') (Option.isSome_of_mem hb')
    rw [Option.mem_unique ha' hb']
  exact ext (hperm.eq_of_pairwise hsame (pairwise_of_forall fun _ _ => trivial)
    (pairwise_of_forall fun _ _ => trivial))

theorem eq_of_reverse_eq [DecidableEq K] (h : entries (reverse m) = entries m)
    (hk : (m.lookup k).isSome = true) (hk' : (m.lookup k').isSome = true) : k = k' := by
  have hkeys : m.keys.reverse = m.keys :=
    calc m.keys.reverse = (entries (reverse m)).map Prod.fst := by
          simp [map_fst_entries, AList.keys, List.keys, reverse]
      _ = m.keys := by rw [h, map_fst_entries]
  have hnodup := m.keys_nodup
  rw [AList.lookup_isSome, AList.mem_keys] at hk hk'
  generalize m.keys = l at *
  cases l with
  | nil => cases hk
  | cons a l =>
    -- the last key would be the first one again
    rcases eq_nil_or_concat l with rfl | ⟨l', b, rfl⟩
    · rw [mem_singleton.1 hk, mem_singleton.1 hk']
    · simp only [concat_eq_append, reverse_cons, reverse_append,
        reverse_nil, nil_append, cons_append, cons.injEq] at hkeys
      rw [hkeys.1] at hnodup
      simp at hnodup

theorem lookup_filterValues [DecidableEq K] {p : V → Bool} :
    (filterValues p m).lookup k = some v ↔ m.lookup k = some v ∧ p v = true := by
  simp [← Option.mem_def, mem_lookup_iff, filterValues]

/-! ### Writing one entry -/

theorem lookup_insert_cases [DecidableEq K] {v' : V} (h : (m.insert k v).lookup k' = some v') :
    k' = k ∧ v' = v ∨ m.lookup k' = some v' := by
  by_cases hk : k' = k
  · subst hk
    rw [lookup_insert] at h
    exact Or.inl ⟨rfl, (Option.some_inj.1 h).symm⟩
  · rw [lookup_insert_ne hk] at h
    exact Or.inr h

theorem isSome_lookup_insert [DecidableEq K] (m : HashMap K V) (k k' : K) (v : V) :
    ((m.insert k v).lookup k').isSome = (k' == k || (m.lookup k').isSome) := by
  by_cases h : k' = k
  · subst h
    simp
  · simp [lookup_insert_ne h, h]

theorem isSome_lookup_erase [DecidableEq K] (m : HashMap K V) (k k' : K) :
    ((m.erase k).lookup k').isSome = (k' != k && (m.lookup k').isSome) := by
  by_cases h : k' = k
  · subst h
    simp
  · simp [lookup_erase_ne h, h]

theorem lookup_of_lookup_erase [DecidableEq K] (h : (m.erase k).lookup k' = some v) :
    m.lookup k' = some v := by
  by_cases hk : k' = k
  · subst hk
    rw [lookup_erase] at h
    cases h
  · rwa [lookup_erase_ne hk] at h

/-! ### Lists without repetitions -/

section Distinct

variable {α β : Type} [DecidableEq α] [DecidableEq β]

theorem eraseDups_concat (l : List α) (a : α) :
    (l ++ [a]).eraseDups = if a ∈ l then l.eraseDups else l.eraseDups ++ [a] := by
  rw [eraseDups_append, removeAll, filter_singleton]
  by_cases h : a ∈ l <;> simp [h, eraseDups_cons]

theorem nodup_eraseDups (l : List α) : l.eraseDups.Nodup := by
  induction l using reverseRecOn with
  | nil => simp
  | append_singleton l a ih =>
    rw [eraseDups_concat]
    split
    · exact ih
    · rename_i h
      refine List.Nodup.append ih (nodup_singleton a) ?_
      simpa using h

theorem eraseDups_map {f : α → β} (hf : Function.Injective f) (l : List α) :
    (l.map f).eraseDups = l.eraseDups.map f := by
  induction l using reverseRecOn with
  | nil => simp
  | append_singleton l a ih =>
    rw [map_append, map_singleton, eraseDups_concat, eraseDups_concat, ih]
    simp only [mem_map_of_injective hf]
    split <;> simp

theorem eraseDups_cons_eraseDups (a : α) (l : List α) :
    (a :: l.eraseDups).eraseDups = (a :: l).eraseDups := by
  induction l using reverseRecOn with
  | nil => simp
  | append_singleton l b ih =>
    have hmem : b ∈ a :: l.eraseDups ↔ b ∈ a :: l := by simp
    rw [eraseDups_concat, ← cons_append, eraseDups_concat]
    split
    · rename_i hb
      rw [if_pos (mem_cons_of_mem _ hb), ih]
    · rw [← cons_append, eraseDups_concat, ih]
      simp only [hmem]

end Distinct
/-! ### The last write wins -/

section LastWrite

variable [DecidableEq K]

def lastWrite (l : List (K × V)) (k : K) : Option V :=
  l.findSomeRev? fun e => if e.1 = k then some e.2 else none

def collect (l : List (K × V)) : HashMap K V :=
  l.foldl (fun m e => m.insert e.1 e.2) ∅

theorem lastWrite_cons (e : K × V) (l : List (K × V)) (k : K) :
    lastWrite (e :: l) k = (lastWrite l k).or (if e.1 = k then some e.2 else none) := by
  simp [lastWrite, findSome?_append]

variable {l : List (K × V)} {k : K} {v : V} {W : Type}

theorem lastWrite_eq_some :
    lastWrite l k = some v ↔
      ∃ before after, l = before ++ (k, v) :: after ∧ ∀ e ∈ after, e.1 ≠ k := by
  induction l with
  | nil => simp [lastWrite]
  | cons e l ih =>
    rw [lastWrite_cons, Option.or_eq_some_iff, ih]
    constructor
    · rintro (⟨before, after, rfl, hafter⟩ | ⟨hnone, he⟩)
      · exact ⟨e :: before, after, rfl, hafter⟩
      · split at he
        · rename_i hk
          refine ⟨[], l, ?_, ?_⟩
          · rw [← hk, ← Option.some_inj.1 he, nil_append]
          · intro e' he' hk'
            simp only [lastWrite, findSomeRev?_eq_findSome?_reverse,
              findSome?_eq_none_iff, mem_reverse] at hnone
            simpa [hk'] using hnone e' he'
        · cases he
    · rintro ⟨before, after, heq, hafter⟩
      cases before with
      | nil =>
        obtain ⟨rfl, rfl⟩ := heq
        refine Or.inr ⟨?_, by simp⟩
        simp only [lastWrite, findSomeRev?_eq_findSome?_reverse, findSome?_eq_none_iff, mem_reverse]
        intro e' he'
        simp [hafter e' he']
      | cons e' before =>
        rw [cons_append, cons.injEq] at heq
        exact Or.inl ⟨before, after, heq.2, hafter⟩

theorem lastWrite_eq_none : lastWrite l k = none ↔ ∀ e ∈ l, e.1 ≠ k := by
  simp only [lastWrite, findSomeRev?_eq_findSome?_reverse, findSome?_eq_none_iff, mem_reverse]
  constructor
  · intro h e he hk
    simpa [hk] using h e he
  · intro h e he
    simp [h e he]

theorem mem_of_lastWrite (h : lastWrite l k = some v) : (k, v) ∈ l := by
  obtain ⟨before, after, rfl, _⟩ := lastWrite_eq_some.1 h
  simp

theorem lastWrite_of_forall (hmem : (k, v) ∈ l) (hall : ∀ v', (k, v') ∈ l → v' = v) :
    lastWrite l k = some v := by
  cases hw : lastWrite l k with
  | none => exact absurd rfl (lastWrite_eq_none.1 hw _ hmem)
  | some v' => rw [hall v' (mem_of_lastWrite hw)]

theorem lastWrite_of_pairwise {R : V → V → Prop} (hasymm : ∀ a b, R a b → ¬R b a)
    (hl : l.Pairwise fun a b => R a.2 b.2) :
    lastWrite l k = some v ↔ (k, v) ∈ l ∧ ∀ v', (k, v') ∈ l → ¬R v v' := by
  -- what is written under the key before the last write is smaller, and nothing comes after it
  have hlast : ∀ v, lastWrite l k = some v → ∀ v', (k, v') ∈ l → R v' v ∨ v' = v := by
    intro v hv v' hmem
    obtain ⟨before, after, rfl, hafter⟩ := lastWrite_eq_some.1 hv
    rcases mem_append.1 hmem with hbefore | hrest
    · exact Or.inl ((pairwise_append.1 hl).2.2 _ hbefore _ mem_cons_self)
    · rcases mem_cons.1 hrest with heq | hmem
      · exact Or.inr (mk.inj heq).2
      · exact absurd rfl (hafter _ hmem)
  constructor
  · intro hv
    refine ⟨mem_of_lastWrite hv, ?_⟩
    intro v' hmem hR
    rcases hlast v hv v' hmem with hR' | rfl
    · exact hasymm _ _ hR hR'
    · exact hasymm _ _ hR hR
  · rintro ⟨hmem, hmax⟩
    cases hv : lastWrite l k with
    | none => exact absurd rfl (lastWrite_eq_none.1 hv _ hmem)
    | some w =>
      rcases hlast w hv v hmem with hR | rfl
      · exact absurd hR (hmax w (mem_of_lastWrite hv))
      · rfl

theorem lastWrite_forall₂ {R : V → W → Prop} {l' : List (K × W)}
    (h : List.Forall₂ (fun a b => a.1 = b.1 ∧ R a.2 b.2) l l') (k : K) :
    Option.Rel R (lastWrite l k) (lastWrite l' k) := by
  induction h with
  | nil => exact Option.Rel.none
  | @cons a b l l' hab _ ih =>
    rw [lastWrite_cons, lastWrite_cons, hab.1]
    generalize lastWrite l k = x, lastWrite l' k = y at ih
    cases ih with
    | some hr => exact Option.Rel.some hr
    | none =>
      by_cases hk : b.1 = k
      · simpa [hk] using Option.Rel.some hab.2
      · simp [hk]

theorem lastWrite_map (g : V → W) (l : List (K × V)) (k : K) :
    lastWrite (l.map fun e => (e.1, g e.2)) k = (lastWrite l k).map g := by
  induction l with
  | nil => simp [lastWrite]
  | cons e l ih =>
    rw [map_cons, lastWrite_cons, lastWrite_cons, ih, Option.map_or]
    by_cases hk : e.1 = k <;> simp [hk]

theorem exists_of_rel_some {R : V → W → Prop} {o : Option W} (h : Option.Rel R (some v) o) :
    ∃ w, o = some w ∧ R v w := by
  cases h with
  | some hr => exact ⟨_, rfl, hr⟩

theorem lastWrite_append_singleton (l : List (K × V)) (e : K × V) (k : K) :
    lastWrite (l ++ [e]) k = if e.1 = k then some e.2 else lastWrite l k := by
  simp only [lastWrite, findSomeRev?_eq_findSome?_reverse, reverse_append,
    reverse_singleton, singleton_append, findSome?_cons]
  by_cases h : e.1 = k <;> simp [h]

/-- **Reading a hash map filled by insertions yields the last write.** -/
theorem lookup_collect (l : List (K × V)) (k : K) : (collect l).lookup k = lastWrite l k := by
  -- insertions happen at the end of the list
  induction l using reverseRecOn with
  | nil => simp [collect, lastWrite]
  | append_singleton l e ih =>
    rw [lastWrite_append_singleton, ← ih, collect, foldl_append]
    by_cases h : e.1 = k
    · subst h
      simp
    · rw [if_neg h]
      exact lookup_insert_ne (Ne.symm h)

theorem length_keys_collect {l : List (K × V)} (h : (l.map fst).Nodup) :
    (collect l).keys.length = l.length := by
  have hmem : ∀ k, k ∈ (collect l).keys ↔ k ∈ l.map fst := by
    intro k
    rw [← AList.mem_keys, ← AList.lookup_isSome, lookup_collect, Option.isSome_iff_ne_none, Ne,
      lastWrite_eq_none]
    simp
  rw [((perm_ext_iff_of_nodup (AList.keys_nodup _) h).2 hmem).length_eq, length_map]

end LastWrite

/-! ### Maps to sets -/

section Sets

variable {U : Type} [DecidableEq K]

/-- The set under a key; empty where the map has none. -/
def setAt (m : HashMap K (Finset U)) (k : K) : Finset U := (m.lookup k).getD ∅

/-- Adds elements to the set under a key, which is created when there is none. -/
def extend [DecidableEq U] (m : HashMap K (Finset U)) (k : K) (us : Finset U) :
    HashMap K (Finset U) :=
  m.insert k (setAt m k ∪ us)

@[simp] theorem setAt_empty (k : K) : setAt (∅ : HashMap K (Finset U)) k = ∅ := by
  simp [setAt]

theorem mem_setAt_extend [DecidableEq U] {m : HashMap K (Finset U)} {k k' : K} {us : Finset U}
    {u : U} : u ∈ setAt (extend m k us) k' ↔ u ∈ setAt m k' ∨ k = k' ∧ u ∈ us := by
  by_cases hk : k = k'
  · subst hk
    simp [setAt, extend]
  · have hne : (extend m k us).lookup k' = m.lookup k' := lookup_insert_ne (Ne.symm hk)
    simp [setAt, hne, hk]

theorem mem_setAt_collect {l : List (K × Finset U)}
    (hsame : ∀ e ∈ l, ∀ e' ∈ l, e.1 = e'.1 → e.2 = e'.2) {k : K} {u : U} :
    u ∈ setAt (collect l) k ↔ ∃ e ∈ l, e.1 = k ∧ u ∈ e.2 := by
  rw [setAt, lookup_collect]
  cases hw : lastWrite l k with
  | none =>
    constructor
    · intro h
      simp at h
    · rintro ⟨e, he, rfl, -⟩
      exact absurd rfl (lastWrite_eq_none.1 hw e he)
  | some us =>
    have hmem := mem_of_lastWrite hw
    constructor
    · intro h
      exact ⟨(k, us), hmem, rfl, h⟩
    · rintro ⟨e, he, rfl, hu⟩
      rw [hsame _ he _ hmem rfl] at hu
      exact hu

/-- The sets under the keys have grown by the added elements; the keys are the same. -/
def Grows (added : K → U → Prop) (m m' : HashMap K (Finset U)) : Prop :=
  ∀ k, Option.Rel (fun us us' => ∀ u, u ∈ us' ↔ u ∈ us ∨ added k u) (m.lookup k) (m'.lookup k)

theorem Grows.refl (m : HashMap K (Finset U)) : Grows (fun _ _ => False) m m := by
  intro k
  cases m.lookup k with
  | none => exact .none
  | some us => exact .some fun u => (or_iff_left id).symm

theorem Grows.congr {added added' : K → U → Prop} {m m' : HashMap K (Finset U)}
    (h : Grows added m m') (hsame : ∀ k u, added k u ↔ added' k u) : Grows added' m m' := by
  intro k
  simp only [← hsame]
  exact h k

theorem Grows.trans {added added' : K → U → Prop} {m m' m'' : HashMap K (Finset U)}
    (h : Grows added m m') (h' : Grows added' m' m'') :
    Grows (fun k u => added k u ∨ added' k u) m m'' := by
  intro k
  have hfirst := h k
  have hsecond := h' k
  generalize m.lookup k = o at hfirst ⊢
  generalize m'.lookup k = o' at hfirst hsecond
  generalize m''.lookup k = o'' at hsecond ⊢
  cases hfirst with
  | none =>
    cases hsecond with
    | none => exact .none
  | some hus =>
    cases hsecond with
    | some hus' =>
      refine .some ?_
      intro u
      rw [hus', hus, or_assoc]

theorem Grows.foldl {α : Type} {step : HashMap K (Finset U) → α → HashMap K (Finset U)}
    {added : α → K → U → Prop} (l : List α) (h : ∀ a ∈ l, ∀ m, Grows (added a) m (step m a))
    (m : HashMap K (Finset U)) : Grows (fun k u => ∃ a ∈ l, added a k u) m (l.foldl step m) := by
  induction l generalizing m with
  | nil => exact (Grows.refl m).congr (by simp)
  | cons a l ih =>
    have hfirst := h a mem_cons_self m
    have hrest := ih (fun b hb => h b (mem_cons_of_mem a hb)) (step m a)
    refine (hfirst.trans hrest).congr ?_
    intro k u
    rw [exists_mem_cons_iff]

end Sets

/-- **Reading an ordered map filled by insertions yields the last write.** -/
theorem getElem?_ofList [Ord K] [Std.TransOrd K] [Std.LawfulEqOrd K] [DecidableEq K]
    {l : List (K × V)} : (ofList l)[k]? = lastWrite l k := by
  rw [ofList_eq_insertMany_empty, getElem?_insertMany_list]
  simp [lastWrite]

theorem lookup_collect_toList [Ord K] [Std.TransOrd K] [Std.LawfulEqOrd K] [DecidableEq K]
    {m : Std.TreeMap K V} : (collect m.toList).lookup k = m[k]? := by
  rw [lookup_collect]
  cases hm : m[k]? with
  | none =>
    rw [lastWrite_eq_none]
    rintro ⟨k', v⟩ hmem rfl
    rw [mem_toList_iff_getElem?_eq_some, hm] at hmem
    cases hmem
  | some v =>
    refine lastWrite_of_forall (mem_toList_iff_getElem?_eq_some.2 hm) ?_
    intro v' hmem
    rw [mem_toList_iff_getElem?_eq_some, hm] at hmem
    exact (Option.some_inj.1 hmem).symm

theorem toList_eq_filterMap [Ord K] [Std.TransOrd K] [Std.LawfulEqOrd K]
    {m : Std.TreeMap K V} {f : K → Option V} (hread : ∀ k, m[k]? = f k) {keys : List K}
    (hsorted : keys.Pairwise fun a b => compare a b = .lt)
    (hkeys : ∀ k v, f k = some v → k ∈ keys) :
    m.toList = keys.filterMap fun k => (f k).map fun v => (k, v) := by
  have hmem : ∀ e : K × V, e ∈ m.toList ↔
      e ∈ keys.filterMap fun k => (f k).map fun v => (k, v) := by
    rintro ⟨k, v⟩
    rw [mem_toList_iff_getElem?_eq_some, hread]
    simp only [mem_filterMap, Option.map_eq_some_iff, Prod.mk.injEq]
    constructor
    · intro h
      exact ⟨k, hkeys k v h, v, h, rfl, rfl⟩
    · rintro ⟨k', -, v', h, rfl, rfl⟩
      exact h
  have hleft : m.toList.Pairwise fun a b => compare a.1 b.1 = .lt :=
    ordered_keys_toList
  have hright : (keys.filterMap fun k => (f k).map fun v => (k, v)).Pairwise
      fun a b => compare a.1 b.1 = .lt := by
    refine List.Pairwise.filterMap _ ?_ hsorted
    intro a b hab e he e' he'
    obtain ⟨v, -, rfl⟩ := Option.map_eq_some_iff.1 he
    obtain ⟨v', -, rfl⟩ := Option.map_eq_some_iff.1 he'
    exact hab
  have hnodup : ∀ {l : List (K × V)}, (l.Pairwise fun a b => compare a.1 b.1 = .lt) → l.Nodup := by
    intro l hl
    refine hl.imp ?_
    rintro a b hab rfl
    rw [Std.ReflOrd.compare_self] at hab
    cases hab
  have hperm := (perm_ext_iff_of_nodup (hnodup hleft) (hnodup hright)).2 hmem
  refine hperm.eq_of_pairwise ?_ hleft hright
  intro a b _ _ hab hba
  exact absurd hba (Std.OrientedCmp.not_lt_of_lt hab)

end KeyMap
