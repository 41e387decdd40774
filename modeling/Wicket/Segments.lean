/-
**The segments of a path.**

The non-empty parts between separators.  At a separator the segments of two texts stand one after
the other; without one, two of them become one.
-/

import Mathlib.Data.List.Chain
import Wicket.Text

namespace Text

open List

/-! ### Parts of a list -/

section Parts

variable {α : Type} [DecidableEq α] {c : α}

def parts (c : α) (l : List α) : List (List α) := (l.splitOn c).filter fun part => !part.isEmpty

theorem parts_nil (c : α) : parts c [] = [] := by simp [parts]

theorem parts_append_cons (l m : List α) : parts c (l ++ c :: m) = parts c l ++ parts c m := by
  rw [parts, splitOn_eq_splitOnP, splitOnP_append_cons l m (by simp), filter_append]
  rfl

theorem parts_cons_self (l : List α) : parts c (c :: l) = parts c l := by
  have h := @parts_append_cons α _ c [] l
  rwa [parts_nil, nil_append, nil_append] at h

theorem parts_concat_self (l : List α) : parts c (l ++ [c]) = parts c l := by
  rw [parts_append_cons, parts_nil, append_nil]

theorem parts_rdropWhile (l : List α) : parts c (l.rdropWhile (· == c)) = parts c l := by
  induction l using reverseRecOn with
  | nil => rfl
  | append_singleton l a ih =>
    rw [rdropWhile_concat]
    by_cases ha : a = c
    · rw [if_pos (beq_iff_eq.2 ha), ih, ha, parts_concat_self]
    · rw [if_neg (by rwa [beq_iff_eq])]

variable {a : α} {l m : List α}

theorem parts_singleton (ha : a ≠ c) : parts c [a] = [[a]] := by
  rw [parts, splitOn_cons_of_ne ha]
  simp

theorem length_parts_cons_sep (ha : a ≠ c) (l : List α) :
    (parts c (a :: c :: l)).length = (parts c l).length + 1 := by
  have h := @parts_append_cons α _ c [a] l
  rw [singleton_append] at h
  rw [h, parts_singleton ha, length_append, length_singleton, Nat.add_comm]

theorem length_parts_cons_cons {b : α} (ha : a ≠ c) (hb : b ≠ c) (l : List α) :
    (parts c (a :: b :: l)).length = (parts c (b :: l)).length := by
  obtain ⟨part, rest, hl⟩ := exists_splitOn_eq_cons c l
  rw [parts, parts, splitOn_cons_of_ne ha, splitOn_cons_of_ne hb, hl]
  simp

theorem length_parts_append (hl : l ≠ []) (hlast : l.getLast? ≠ some c) (hm : m ≠ [])
    (hhead : m.head? ≠ some c) :
    (parts c (l ++ m)).length + 1 = (parts c l).length + (parts c m).length := by
  induction l with
  | nil => exact absurd rfl hl
  | cons a l ih =>
    cases l with
    | nil =>
      have ha : a ≠ c := by simpa using hlast
      obtain ⟨b, m, rfl⟩ := exists_cons_of_ne_nil hm
      have hb : b ≠ c := by simpa using hhead
      rw [singleton_append, length_parts_cons_cons ha hb, parts_singleton ha,
        length_singleton, Nat.add_comm]
    | cons b l =>
      have hih := ih (cons_ne_nil b l) (by rwa [getLast?_cons_cons] at hlast)
      rw [cons_append] at hih ⊢
      by_cases ha : a = c
      · rw [ha, parts_cons_self, parts_cons_self, cons_append, hih]
      · by_cases hb : b = c
        · rw [hb, parts_cons_self] at hih
          rw [hb, cons_append, length_parts_cons_sep ha, length_parts_cons_sep ha]
          rw [parts_cons_self] at hih
          omega
        · rw [cons_append, length_parts_cons_cons ha hb, length_parts_cons_cons ha hb, hih]

theorem parts_append_iff :
    parts c (l ++ m) = parts c l ++ parts c m ↔
      l = [] ∨ m = [] ∨ l.getLast? = some c ∨ m.head? = some c := by
  constructor
  · intro h
    by_contra hno
    simp only [not_or] at hno
    have hlength := length_parts_append hno.1 hno.2.2.1 hno.2.1 hno.2.2.2
    rw [h, length_append] at hlength
    omega
  · intro h
    rcases h with rfl | rfl | hlast | hhead
    · rw [parts_nil, nil_append, nil_append]
    · rw [parts_nil, append_nil, append_nil]
    · obtain ⟨l, rfl⟩ := getLast?_eq_some_iff.1 hlast
      rw [append_assoc, singleton_append, parts_append_cons, parts_concat_self]
    · obtain ⟨m, rfl⟩ := head?_eq_some_iff.1 hhead
      rw [parts_append_cons, parts_cons_self]

/-! ### Parts that are joined -/

theorem parts_ne_nil (ha : a ∈ l) (hne : a ≠ c) : parts c l ≠ [] := by
  obtain ⟨part, hpart, hmem⟩ := (eq_or_mem_splitOn (c := a) ha).resolve_left hne
  refine ne_nil_of_mem (mem_filter.2 ⟨hpart, ?_⟩)
  cases part with
  | nil => cases hmem
  | cons b part => rfl

theorem exists_parts_cons_cons {b : α} (ha : a ≠ c) (hb : b ≠ c) (l : List α) :
    ∃ part rest, parts c (b :: l) = part :: rest ∧ parts c (a :: b :: l) = (a :: part) :: rest := by
  obtain ⟨part, rest, hl⟩ := exists_splitOn_eq_cons c l
  refine ⟨b :: part, rest.filter fun part => !part.isEmpty, ?_, ?_⟩
  · rw [parts, splitOn_cons_of_ne hb, hl]
    rfl
  · rw [parts, splitOn_cons_of_ne ha, splitOn_cons_of_ne hb, hl]
    rfl

/-- The list has no separator at its beginning, and no two in a row. -/
structure NoGap (c : α) (l : List α) : Prop where
  head : l.head? ≠ some c
  chain : l.IsChain fun a b => ¬(a = c ∧ b = c)

omit [DecidableEq α] in
theorem NoGap.of_isPrefix {l' : List α} (h : NoGap c l) (hle : l' <+: l) : NoGap c l' := by
  obtain ⟨t, rfl⟩ := hle
  refine ⟨?_, h.chain.left_of_append⟩
  intro hhead
  obtain ⟨m, rfl⟩ := head?_eq_some_iff.1 hhead
  exact h.head rfl

theorem intercalate_parts {l : List α} (h : NoGap c l) (hlast : l.getLast? ≠ some c) :
    [c].intercalate (parts c l) = l := by
  match l with
  | [] =>
    rfl
  | [a] =>
    rw [parts_singleton (by simpa using hlast)]
    exact intercalate_singleton
  | a :: b :: l =>
    have ha : a ≠ c := by simpa using h.head
    have htail := (isChain_cons_cons.1 h.chain).2
    by_cases hb : b = c
    · -- a separator, so a letter has to follow
      rw [hb] at htail hlast ⊢
      cases l with
      | nil => exact absurd rfl hlast
      | cons d l =>
        have hd : d ≠ c := by
          intro hd
          exact (isChain_cons_cons.1 htail).1 ⟨rfl, hd⟩
        have hgap : NoGap c (d :: l) :=
          ⟨by simpa using hd, (isChain_cons_cons.1 htail).2⟩
        have hjoin := intercalate_parts hgap (by simpa using hlast)
        have hparts : parts c (a :: c :: d :: l) = [a] :: parts c (d :: l) := by
          rw [← singleton_append (l := parts c (d :: l)), ← parts_singleton ha]
          exact parts_append_cons [a] (d :: l)
        rw [hparts, intercalate_cons_of_ne_nil (parts_ne_nil mem_cons_self hd), hjoin]
        rfl
    · have hgap : NoGap c (b :: l) := ⟨by simpa using hb, htail⟩
      have hjoin := intercalate_parts hgap (by simpa using hlast)
      obtain ⟨part, rest, hbl, habl⟩ := exists_parts_cons_cons ha hb l
      rw [habl, intercalate_cons_cons_left, ← hbl, hjoin]

omit [DecidableEq α] in
theorem intercalate_append {xs ys : List (List α)} (hxs : xs ≠ []) (hys : ys ≠ []) :
    [c].intercalate (xs ++ ys) = [c].intercalate xs ++ c :: [c].intercalate ys := by
  induction xs with
  | nil => exact absurd rfl hxs
  | cons x xs ih =>
    cases xs with
    | nil =>
      rw [singleton_append, intercalate_cons_of_ne_nil hys, intercalate_singleton]
      simp
    | cons x' xs =>
      rw [cons_append, intercalate_cons_of_ne_nil (by simp),
        ih (cons_ne_nil _ _), intercalate_cons_of_ne_nil (cons_ne_nil _ _)]
      simp

structure Joined (c : α) (l : List α) : Prop where
  joined : [c].intercalate (parts c l) = l
  ne_nil : parts c l ≠ []

/-- **Two joined lists with a separator between them** are known by their parts together. -/
theorem Joined.append_inj {l' m' : List α} (hl : Joined c l) (hm : Joined c m) (hl' : Joined c l')
    (hm' : Joined c m') :
    l ++ c :: m = l' ++ c :: m' ↔ parts c l ++ parts c m = parts c l' ++ parts c m' := by
  constructor
  · intro h
    have hparts := congrArg (parts c) h
    rwa [parts_append_cons, parts_append_cons] at hparts
  · intro h
    have hjoin := congrArg [c].intercalate h
    rwa [intercalate_append hl.ne_nil hm.ne_nil, intercalate_append hl'.ne_nil hm'.ne_nil,
      hl.joined, hm.joined, hl'.joined, hm'.joined] at hjoin

theorem NoGap.joined_rdropWhile (h : NoGap c l) (hne : l ≠ []) :
    Joined c (l.rdropWhile (· == c)) := by
  obtain ⟨a, m, rfl⟩ := exists_cons_of_ne_nil hne
  have ha : a ≠ c := by simpa using h.head
  constructor
  · refine intercalate_parts (h.of_isPrefix (List.rdropWhile_prefix _ _)) ?_
    intro hlast
    obtain ⟨l, hl⟩ := getLast?_eq_some_iff.1 hlast
    have hnot := rdropWhile_last_not (· == c) (a :: m) (by rw [hl]; simp)
    simp [hl] at hnot
  · rw [parts_rdropWhile]
    exact parts_ne_nil mem_cons_self ha

end Parts

/-! ### Segments of a text -/

/-- The non-empty parts of a text between the occurrences of `c`. -/
def segments (s : String) (c : Char) : List String := (split s c).filter fun part => part != ""

theorem segments_eq_map (s : String) (c : Char) :
    segments s c = (parts c s.toList).map String.ofList := by
  have hempty : ((fun part => part != "") ∘ String.ofList) =
      fun part : List Char => !part.isEmpty := by
    funext part
    cases part with
    | nil => rfl
    | cons a part => simp
  rw [segments, split, parts, filter_map, hempty]

/-- **The segments of a concatenation** are those of the two texts exactly when a separator stands
between them or one of them is empty. -/
theorem segments_append_iff {s t : String} {c : Char} :
    segments (s ++ t) c = segments s c ++ segments t c ↔
      s = "" ∨ t = "" ∨ endsWith s (String.singleton c) = true ∨
        startsWith t (String.singleton c) = true := by
  have hinj : Function.Injective (map String.ofList) :=
    map_injective_iff.2 fun _ _ h => String.ofList_injective h
  rw [segments_eq_map, segments_eq_map, segments_eq_map, ← map_append, hinj.eq_iff,
    String.toList_append, parts_append_iff, endsWith, startsWith, String.toList_singleton,
    isSuffixOf_iff_suffix, isPrefixOf_iff_prefix, String.toList_eq_nil_iff,
    String.toList_eq_nil_iff, singleton_suffix_iff_getLast?_eq_some,
    singleton_prefix_iff_head?_eq_some]

theorem segments_append_singleton (s : String) (c : Char) :
    segments (s ++ String.singleton c) c = segments s c := by
  rw [segments_eq_map, segments_eq_map, String.toList_append, String.toList_singleton,
    parts_concat_self]

theorem segments_trimEnd (s : String) (c : Char) : segments (trimEnd s c) c = segments s c := by
  rw [segments_eq_map, segments_eq_map, trimEnd, String.toList_ofList, parts_rdropWhile]

theorem mem_segments_iff {s : String} {a c : Char} (ha : a ≠ c) :
    a ∈ s.toList ↔ ∃ segment ∈ segments s c, a ∈ segment.toList := by
  simp only [segments, split, mem_filter, mem_map]
  constructor
  · intro h
    obtain ⟨part, hpart, hmem⟩ := (eq_or_mem_splitOn h).resolve_left ha
    refine ⟨String.ofList part, ⟨⟨part, hpart, rfl⟩, ?_⟩, by rwa [String.toList_ofList]⟩
    cases part with
    | nil => cases hmem
    | cons b part => simp
  · intro h
    obtain ⟨segment, ⟨⟨part, hpart, rfl⟩, -⟩, hmem⟩ := h
    rw [String.toList_ofList] at hmem
    exact mem_of_mem_splitOn hpart hmem

end Text
