/-
**Vectors inside vectors.**

A strict reader takes a vector off the front of its bytes and looks for the contents among these
only, so nothing it finds lies outside a vector around it.
-/

import Wicket.ByteReader

namespace Bytes

open List

/-! ### Taking parts off the front -/

def takeBytes (n : ℕ) (bytes : List UInt8) : Option (List UInt8 × List UInt8) :=
  if bytes.length < n then none else some (bytes.take n, bytes.drop n)

/-- Takes a number of `width` bytes off the front. -/
def takeBe (width : ℕ) (bytes : List UInt8) : Option (ℕ × List UInt8) :=
  (takeBytes width bytes).map fun r => (beNat r.1, r.2)

/-- Takes bytes off the front that stand behind their number. -/
def takeCounted (width : ℕ) (bytes : List UInt8) : Option (List UInt8 × List UInt8) :=
  (takeBe width bytes).bind fun r => takeBytes r.1 r.2

variable {n width : ℕ} {bytes x rest : List UInt8}

theorem takeBytes_eq_some_iff :
    takeBytes n bytes = some (x, rest) ↔ x.length = n ∧ bytes = x ++ rest := by
  unfold takeBytes
  constructor
  · intro h
    split at h
    case isTrue => cases h
    case isFalse hlen =>
      cases h
      exact ⟨by rw [length_take]; omega, (take_append_drop n bytes).symm⟩
  · intro h
    obtain ⟨rfl, rfl⟩ := h
    rw [if_neg (by rw [length_append]; omega), take_left, drop_left]

theorem takeBe_eq_some_iff :
    takeBe width bytes = some (n, rest) ↔ n < 256 ^ width ∧ bytes = be width n ++ rest := by
  rw [takeBe, Option.map_eq_some_iff]
  constructor
  · intro h
    obtain ⟨⟨x, rest'⟩, htake, heq⟩ := h
    cases heq
    obtain ⟨rfl, rfl⟩ := takeBytes_eq_some_iff.1 htake
    exact ⟨beNat_lt x, by rw [be_beNat]⟩
  · intro h
    obtain ⟨hlt, rfl⟩ := h
    exact ⟨(be width n, rest), takeBytes_eq_some_iff.2 ⟨length_be width n, rfl⟩,
      by rw [beNat_be hlt]⟩

/-- **What is taken off is what stands there behind its number.** -/
theorem takeCounted_eq_some_iff :
    takeCounted width bytes = some (x, rest) ↔
      x.length < 256 ^ width ∧ bytes = counted width x ++ rest := by
  rw [takeCounted, Option.bind_eq_some_iff]
  constructor
  · intro h
    obtain ⟨⟨n, rest'⟩, hbe, htake⟩ := h
    obtain ⟨hlt, rfl⟩ := takeBe_eq_some_iff.1 hbe
    obtain ⟨rfl, hrest⟩ := takeBytes_eq_some_iff.1 htake
    exact ⟨hlt, by rw [counted, append_assoc, ← hrest]⟩
  · intro h
    obtain ⟨hlt, rfl⟩ := h
    refine ⟨(x.length, x ++ rest), takeBe_eq_some_iff.2 ⟨hlt, ?_⟩,
      takeBytes_eq_some_iff.2 ⟨rfl, rfl⟩⟩
    rw [counted, append_assoc]

theorem takeBytes_append (h : x.length = n) (rest : List UInt8) :
    takeBytes n (x ++ rest) = some (x, rest) := takeBytes_eq_some_iff.2 ⟨h, rfl⟩

theorem takeBe_append (h : n < 256 ^ width) (rest : List UInt8) :
    takeBe width (be width n ++ rest) = some (n, rest) := takeBe_eq_some_iff.2 ⟨h, rfl⟩

theorem takeCounted_append (h : x.length < 256 ^ width) (rest : List UInt8) :
    takeCounted width (counted width x ++ rest) = some (x, rest) :=
  takeCounted_eq_some_iff.2 ⟨h, rfl⟩

/-- The contents of the first entry with the tag, in a list of entries with a tag of `width` bytes
and contents behind their number. -/
def findTagged (width tag : ℕ) (bytes : List UInt8) : Option (List UInt8) :=
  match _htag : takeBe width bytes with
  | none => none
  | some (t, rest) =>
    match _hcontents : takeCounted 2 rest with
    | none => none
    | some (x, rest') => if t = tag then some x else findTagged width tag rest'
termination_by bytes.length
decreasing_by
  have htag := congrArg List.length (takeBe_eq_some_iff.1 _htag).2
  have hcontents := congrArg List.length (takeCounted_eq_some_iff.1 _hcontents).2
  rw [List.length_append, length_counted] at hcontents
  rw [List.length_append] at htag
  omega

theorem findTagged_cons {tag t : ℕ} (ht : t < 256 ^ width) (hx : x.length < 65536) :
    findTagged width tag (be width t ++ (counted 2 x ++ rest)) =
      if t = tag then some x else findTagged width tag rest := by
  have htake := takeBe_append ht (counted 2 x ++ rest)
  have hcounted : takeCounted 2 (counted 2 x ++ rest) = some (x, rest) := takeCounted_append hx rest
  rw [findTagged]
  split
  case h_1 hnone => rw [htake] at hnone; cases hnone
  case h_2 t' rest' htake' =>
    rw [htake] at htake'
    cases htake'
    split
    case h_1 hnone => rw [hcounted] at hnone; cases hnone
    case h_2 x' rest' hcounted' =>
      rw [hcounted] at hcounted'
      cases hcounted'
      rfl

section Tagged

variable {ε : Type} (encode : ε → List UInt8) (tagOf : ε → ℕ) {width tag : ℕ}

/-- **The first entry with the tag**, behind entries with other tags. -/
theorem findTagged_eq_some_iff
    (hencode : ∀ e, tagOf e < 256 ^ width ∧
      ∃ x, x.length < 65536 ∧ encode e = be width (tagOf e) ++ counted 2 x)
    (hentry : ∀ t x, t < 256 ^ width → x.length < 65536 →
      ∃ e, tagOf e = t ∧ encode e = be width t ++ counted 2 x)
    (htag : tag < 256 ^ width) {bytes x : List UInt8} :
    findTagged width tag bytes = some x ↔
      ∃ (others : List ε) (rest : List UInt8), (∀ o ∈ others, tagOf o ≠ tag) ∧ x.length < 65536 ∧
        bytes = others.flatMap encode ++ (be width tag ++ (counted 2 x ++ rest)) := by
  constructor
  · intro h
    fun_induction findTagged width tag bytes with
    | case1 => cases h
    | case2 => cases h
    | case3 bytes rest x' rest' hcontents ht =>
      cases h
      obtain ⟨-, rfl⟩ := takeBe_eq_some_iff.1 ht
      obtain ⟨hx, rfl⟩ := takeCounted_eq_some_iff.1 hcontents
      exact ⟨[], rest', by simp, hx, rfl⟩
    | case4 bytes t rest ht x' rest' hcontents hother ih =>
      obtain ⟨hlt, rfl⟩ := takeBe_eq_some_iff.1 ht
      obtain ⟨hx', rfl⟩ := takeCounted_eq_some_iff.1 hcontents
      obtain ⟨o, ho, hencoded⟩ := hentry t x' hlt hx'
      obtain ⟨others, tail, hothers, hx, rfl⟩ := ih h
      refine ⟨o :: others, tail, ?_, hx, ?_⟩
      · intro o' ho'
        rcases mem_cons.1 ho' with rfl | ho'
        · rw [ho]
          exact hother
        · exact hothers o' ho'
      · rw [flatMap_cons, hencoded, append_assoc, append_assoc]
  · intro h
    obtain ⟨others, rest, hothers, hx, rfl⟩ := h
    induction others with
    | nil => rw [flatMap_nil, nil_append, findTagged_cons htag hx, if_pos rfl]
    | cons o others ih =>
      obtain ⟨ho, x', hx', heq⟩ := hencode o
      rw [flatMap_cons, heq, append_assoc, append_assoc, findTagged_cons ho hx',
        if_neg (hothers o mem_cons_self)]
      exact ih fun o' ho' => hothers o' (mem_cons_of_mem _ ho')

end Tagged

end Bytes
