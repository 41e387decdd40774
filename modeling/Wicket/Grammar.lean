/-
**Regular grammars of names.**

A name is described by a regular expression, and recognised by splitting it at the separators and
scanning the parts.
-/

import Mathlib.Computability.Language
import Wicket.Text

namespace Grammar

open List Computability Language Text

variable {α : Type} {p q : α → Bool} {w : List α} {sep : α} {L : Language α}

def letter (p : α → Bool) : Language α := {w | ∃ a, p a = true ∧ w = [a]}

def ended (p q : α → Bool) : Language α := letter p * ((letter q)∗ * letter p + 1)

/-- The words of a language, one or more, with a separator between any two: `L(sep L)*`. -/
def separated (sep : α) (L : Language α) : Language α := L * ({[sep]} * L)∗

theorem mem_kstar_letter : w ∈ (letter p)∗ ↔ w.all p = true := by
  rw [mem_kstar, all_eq_true]
  constructor
  · rintro ⟨parts, rfl, hparts⟩ a ha
    obtain ⟨part, hpart, hmem⟩ := mem_flatten.1 ha
    obtain ⟨b, hb, rfl⟩ := hparts part hpart
    rwa [mem_singleton.1 hmem]
  · intro h
    refine ⟨w.map fun a => [a], by rw [← flatMap_def, flatMap_singleton'], ?_⟩
    intro part hpart
    obtain ⟨a, ha, rfl⟩ := mem_map.1 hpart
    exact ⟨a, h a ha, rfl⟩

theorem mem_ended_iff (hpq : ∀ a, p a = true → q a = true) :
    w ∈ ended p q ↔ w.head?.any p = true ∧ w.getLast?.any p = true ∧ w.all q = true := by
  constructor
  · intro h
    obtain ⟨_, ⟨a, ha, rfl⟩, rest, hrest, rfl⟩ := mem_mul.1 h
    rcases (mem_add _ _ _).1 hrest with hinner | hnil
    · obtain ⟨inner, hall, _, ⟨b, hb, rfl⟩, rfl⟩ := mem_mul.1 hinner
      rw [mem_kstar_letter] at hall
      rw [← append_assoc, getLast?_concat]
      simp [ha, hb, hpq, hall]
    · rw [(mem_one _).1 hnil]
      simp [ha, hpq]
  · rintro ⟨hhead, hlast, hall⟩
    cases w with
    | nil => cases hhead
    | cons a rest =>
      refine mem_mul.2 ⟨[a], ⟨a, hhead, rfl⟩, rest, ?_, rfl⟩
      rcases rest.eq_nil_or_concat' with rfl | ⟨inner, b, rfl⟩
      · exact .inr rfl
      · rw [← cons_append, getLast?_concat] at hlast
        simp only [all_cons, all_append, Bool.and_eq_true] at hall
        have hinner := mem_kstar_letter.2 hall.2.1
        exact .inl (mem_mul.2 ⟨inner, hinner, [b], ⟨b, hlast, rfl⟩, rfl⟩)

theorem intercalate_cons (sep : α) (part : List α) (parts : List (List α)) :
    [sep].intercalate (part :: parts) = part ++ parts.flatMap (cons sep) := by
  induction parts generalizing part with
  | nil => simp
  | cons next parts ih =>
    rw [intercalate_cons_cons, ih, flatMap_cons]
    simp

theorem mem_separated :
    w ∈ separated sep L ↔ ∃ parts : List (List α), parts ≠ [] ∧ (∀ part ∈ parts, part ∈ L) ∧
      w = [sep].intercalate parts := by
  constructor
  · rintro ⟨part, hpart, rest, hrest, rfl⟩
    obtain ⟨tails, rfl, htails⟩ := mem_kstar.1 hrest
    have hcons : ∀ t ∈ tails, t.tail ∈ L ∧ sep :: t.tail = t := by
      intro t ht
      obtain ⟨_, rfl, next, hnext, rfl⟩ := mem_mul.1 (htails t ht)
      exact ⟨hnext, rfl⟩
    have hmap : (tails.map tail).flatMap (cons sep) = tails.flatten := by
      rw [flatMap_map, flatMap_def, map_congr_left fun t ht => (hcons t ht).2, map_id']
    refine ⟨part :: tails.map tail, cons_ne_nil _ _, ?_, ?_⟩
    · rw [forall_mem_cons, forall_mem_map]
      exact ⟨hpart, fun t ht => (hcons t ht).1⟩
    · rw [intercalate_cons, hmap]
  · rintro ⟨_ | ⟨part, parts⟩, hne, hparts, rfl⟩
    · exact absurd rfl hne
    rw [forall_mem_cons] at hparts
    refine ⟨part, hparts.1, _, mem_kstar.2 ⟨_, flatMap_def .., ?_⟩, (intercalate_cons ..).symm⟩
    intro t ht
    obtain ⟨next, hnext, rfl⟩ := mem_map.1 ht
    exact mem_mul.2 ⟨[sep], rfl, next, hparts.2 next hnext, rfl⟩

theorem mem_separated_iff [DecidableEq α] (hL : ∀ part ∈ L, sep ∉ part) :
    w ∈ separated sep L ↔ ∀ part ∈ w.splitOn sep, part ∈ L := by
  rw [mem_separated]
  constructor
  · rintro ⟨parts, hne, hparts, rfl⟩
    rwa [splitOn_intercalate sep (fun part hpart => hL part (hparts part hpart)) hne]
  · intro h
    exact ⟨w.splitOn sep, splitOnP_ne_nil _ w, h, (intercalate_splitOn sep).symm⟩

theorem splitOn_append_of_notMem [DecidableEq α] {u : List α} (h : sep ∉ u) :
    (u ++ w).splitOn sep = (w.splitOn sep).modifyHead (u ++ ·) := by
  obtain ⟨part, parts, hw⟩ := exists_splitOn_eq_cons sep w
  induction u with
  | nil => simp [hw]
  | cons a u ih =>
    rw [mem_cons, not_or] at h
    rw [cons_append, splitOn_cons_of_ne (Ne.symm h.1), ih h.2, hw]
    rfl

theorem splitOn_flatMap {β : Type} [DecidableEq α] [DecidableEq β] {f : α → List β} {sep' : β}
    (hsep : f sep = [sep']) (hf : ∀ a, sep' ∈ f a → a = sep) :
    (w.flatMap f).splitOn sep' = (w.splitOn sep).map (flatMap f) := by
  induction w with
  | nil => rfl
  | cons a w ih =>
    by_cases ha : a = sep
    · rw [ha, flatMap_cons, hsep, singleton_append, splitOn_cons_self, ih,
        splitOn_cons_self, map_cons, flatMap_nil]
    · obtain ⟨part, parts, hw⟩ := exists_splitOn_eq_cons sep w
      rw [flatMap_cons, splitOn_append_of_notMem (mt (hf a) ha), ih, splitOn_cons_of_ne ha, hw]
      rfl

end Grammar
