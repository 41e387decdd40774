/-
**Reading bytes at a position.**

The buffer is described by what stands at the position: reading a field that stands there returns it
and leaves the position at what follows.
-/

import Mathlib.Algebra.Group.Nat.Defs
import Mathlib.Data.List.Basic
import Mathlib.Data.List.Induction

namespace Bytes

open List

/-! ### Numbers -/

/-- The last `width` bytes of a number, the most significant first. -/
def be : ℕ → ℕ → List UInt8
  | 0, _ => []
  | width + 1, n => be width (n / 256) ++ [UInt8.ofNat n]

def beNat (bytes : List UInt8) : ℕ := bytes.foldl (fun n b => n * 256 + b.toNat) 0

@[simp] theorem length_be (width n : ℕ) : (be width n).length = width := by
  induction width generalizing n with
  | zero => rfl
  | succ width ih => simp [be, ih]

variable {width n pos p : ℕ} {buf x : List UInt8}

theorem beNat_be (h : n < 256 ^ width) : beNat (be width n) = n := by
  induction width generalizing n with
  | zero =>
    have hzero : n = 0 := by omega
    rw [hzero]
    rfl
  | succ width ih =>
    have hdiv : n / 256 < 256 ^ width := by
      omega
    have hlast : (UInt8.ofNat n).toNat = n % 256 := by simp
    rw [be, beNat, foldl_append, ← beNat, ih hdiv, foldl_cons, foldl_nil, hlast]
    omega

variable (bytes : List UInt8)

theorem beNat_append_singleton (b : UInt8) :
    beNat (bytes ++ [b]) = beNat bytes * 256 + b.toNat := by
  rw [beNat, foldl_append]
  rfl

theorem be_beNat : be bytes.length (beNat bytes) = bytes := by
  induction bytes using reverseRecOn with
  | nil => rfl
  | append_singleton bytes b ih =>
    have hlt := b.toNat_lt
    have hdiv : (beNat bytes * 256 + b.toNat) / 256 = beNat bytes := by omega
    have hmod : (beNat bytes * 256 + b.toNat) % 256 = b.toNat := by omega
    have hlast : UInt8.ofNat (beNat bytes * 256 + b.toNat) = b := by
      rw [← UInt8.toNat_inj, UInt8.toNat_ofNat']
      exact hmod
    rw [length_append, length_singleton, beNat_append_singleton, be, hdiv, ih, hlast]

theorem beNat_lt : beNat bytes < 256 ^ bytes.length := by
  induction bytes using reverseRecOn with
  | nil => exact Nat.one_pos
  | append_singleton bytes b ih =>
    have hlt := b.toNat_lt
    rw [length_append, length_singleton, pow_succ, beNat_append_singleton]
    omega

theorem exists_be {bytes : List UInt8} (h : bytes.length = width) :
    ∃ n, n < 256 ^ width ∧ bytes = be width n := by
  subst h
  exact ⟨beNat bytes, beNat_lt bytes, (be_beNat bytes).symm⟩

def counted (width : ℕ) (bytes : List UInt8) : List UInt8 := be width bytes.length ++ bytes

@[simp] theorem length_counted (width : ℕ) (bytes : List UInt8) :
    (counted width bytes).length = width + bytes.length := by
  rw [counted, length_append, length_be]

/-! ### Reading -/

def readBe (width : ℕ) (buf : List UInt8) (pos : ℕ) : Option (ℕ × ℕ) :=
  if buf.length < pos + width then none
  else some (beNat ((buf.drop pos).take width), pos + width)

def skip (buf : List UInt8) (pos n : ℕ) : Option ℕ :=
  if buf.length < pos + n then none else some (pos + n)

def slice (buf : List UInt8) (start stop : ℕ) : List UInt8 := (buf.drop start).take (stop - start)

theorem readBe_pos (h : readBe width buf pos = some (n, p)) : p = pos + width := by
  unfold readBe at h
  split at h
  · cases h
  · cases h
    rfl

theorem skip_pos (h : skip buf pos n = some p) : p = pos + n := by
  unfold skip at h
  split at h
  · cases h
  · cases h
    rfl

theorem readBe_extend {buf' : List UInt8} (hpre : buf <+: buf') {r : ℕ × ℕ}
    (h : readBe width buf pos = some r) : readBe width buf' pos = some r := by
  obtain ⟨tail, rfl⟩ := hpre
  unfold readBe at h ⊢
  split at h
  case isTrue => cases h
  case isFalse hlen =>
    rw [if_neg (by rw [length_append]; omega), ← h, drop_append_of_le_length (by omega),
      take_append_of_le_length (by rw [length_drop]; omega)]

/-! ### What stands at a position -/

def At (buf : List UInt8) (pos : ℕ) (tail : List UInt8) : Prop :=
  ∃ front, front.length = pos ∧ buf = front ++ tail

theorem at_zero (buf : List UInt8) : At buf 0 buf := ⟨[], rfl, rfl⟩

variable {buf tail : List UInt8} {pos : ℕ}

theorem At.length (h : At buf pos tail) : buf.length = pos + tail.length := by
  obtain ⟨front, rfl, rfl⟩ := h
  exact length_append

theorem At.append (h : At buf pos (x ++ tail)) : At buf (pos + x.length) tail := by
  obtain ⟨front, rfl, rfl⟩ := h
  exact ⟨front ++ x, length_append, (append_assoc ..).symm⟩

/-- **A number that stands at the position is read.** -/
theorem At.readBe (h : At buf pos (be width n ++ tail)) (hn : n < 256 ^ width) :
    Bytes.readBe width buf pos = some (n, pos + width) := by
  have hlen := h.length
  rw [length_append, length_be] at hlen
  obtain ⟨front, rfl, rfl⟩ := h
  rw [Bytes.readBe, if_neg (by omega), drop_left, take_left' (length_be width n), beNat_be hn]

theorem At.after_be (h : At buf pos (be width n ++ tail)) : At buf (pos + width) tail := by
  have happend := h.append
  rwa [length_be] at happend

theorem At.skip (h : At buf pos (x ++ tail)) (hn : x.length = n) :
    Bytes.skip buf pos n = some (pos + n) := by
  have hlen := h.length
  rw [length_append] at hlen
  rw [Bytes.skip, if_neg (by omega)]

theorem At.of_counted (h : At buf pos (counted width x ++ tail)) :
    At buf pos (be width x.length ++ (x ++ tail)) := by
  rwa [counted, append_assoc] at h

theorem At.after_counted (h : At buf pos (counted width x ++ tail)) :
    At buf (pos + width + x.length) tail :=
  h.of_counted.after_be.append

theorem At.unique {tail' : List UInt8} (h : At buf pos tail) (h' : At buf pos tail') :
    tail = tail' := by
  obtain ⟨front, rfl, rfl⟩ := h
  obtain ⟨front', hlen, heq⟩ := h'
  exact (append_inj heq hlen.symm).2

/-- **A number that was read stands at the position.** -/
theorem at_of_readBe (h : readBe width buf pos = some (n, p)) :
    n < 256 ^ width ∧ p = pos + width ∧ ∃ tail, At buf pos (be width n ++ tail) := by
  unfold readBe at h
  split at h
  case isTrue => cases h
  case isFalse hlen =>
    cases h
    have htake : ((buf.drop pos).take width).length = width := by
      rw [length_take, length_drop]
      omega
    have hlt := beNat_lt ((buf.drop pos).take width)
    have hbe := be_beNat ((buf.drop pos).take width)
    rw [htake] at hlt hbe
    refine ⟨hlt, rfl, (buf.drop pos).drop width, buf.take pos, ?_, ?_⟩
    · rw [length_take]
      omega
    · rw [hbe, take_append_drop, take_append_drop]

theorem readBe_le (h : readBe width buf pos = some (n, p)) : p ≤ buf.length ∧ n < 256 ^ width := by
  obtain ⟨hlt, rfl, tail, hat⟩ := at_of_readBe h
  rw [hat.length, length_append, length_be]
  omega

theorem skip_le (h : skip buf pos n = some p) : p ≤ buf.length := by
  unfold skip at h
  split at h
  case isTrue => cases h
  case isFalse hle =>
    cases h
    omega

theorem At.readBe_inv (h : At buf pos tail) (hread : Bytes.readBe width buf pos = some (n, p)) :
    n < 256 ^ width ∧ ∃ tail', tail = be width n ++ tail' ∧ At buf p tail' := by
  obtain ⟨hlt, rfl, tail', hat⟩ := at_of_readBe hread
  exact ⟨hlt, tail', h.unique hat, hat.after_be⟩

/-- **What was passed over stands at the position.** -/
theorem At.skip_inv (h : At buf pos tail) (hskip : Bytes.skip buf pos n = some p) :
    ∃ x tail', x.length = n ∧ tail = x ++ tail' ∧ At buf p tail' := by
  have hlen := h.length
  unfold Bytes.skip at hskip
  split at hskip
  case isTrue => cases hskip
  case isFalse hle =>
    cases hskip
    have htake : (tail.take n).length = n := by
      rw [length_take]
      omega
    have hsplit : At buf pos (tail.take n ++ tail.drop n) := by rwa [take_append_drop]
    have hdrop := hsplit.append
    rw [htake] at hdrop
    exact ⟨tail.take n, tail.drop n, htake, (take_append_drop n tail).symm, hdrop⟩

theorem At.counted_inv {q : ℕ} (h : At buf pos tail)
    (hread : Bytes.readBe width buf pos = some (n, p)) (hskip : Bytes.skip buf p n = some q) :
    ∃ x tail', x.length = n ∧ x.length < 256 ^ width ∧ tail = counted width x ++ tail' ∧
      At buf q tail' := by
  obtain ⟨hlt, tail₁, rfl, h₁⟩ := h.readBe_inv hread
  obtain ⟨x, tail', rfl, rfl, h'⟩ := h₁.skip_inv hskip
  exact ⟨x, tail', rfl, hlt, (append_assoc ..).symm, h'⟩

theorem At.slice_eq (h : At buf pos (x ++ tail)) (hn : x.length = n) :
    slice buf pos (pos + n) = x := by
  obtain ⟨front, rfl, rfl⟩ := h
  rw [slice, drop_left, Nat.add_sub_cancel_left, take_left' hn]

/-! ### Behind a list of entries -/

def Behind {ε : Type} (encode : ε → List UInt8) (passed : ε → Prop)
    (found : ℕ → List UInt8 → Prop) (pos : ℕ) (tail : List UInt8) : Prop :=
  ∃ entries : List ε, (∀ e ∈ entries, passed e) ∧
    ∃ rest, tail = entries.flatMap encode ++ rest ∧
      found (pos + (entries.flatMap encode).length) rest

section Behind

variable {ε : Type} {encode : ε → List UInt8} {passed : ε → Prop}
  {found : ℕ → List UInt8 → Prop} {pos : ℕ} {tail : List UInt8}

theorem Behind.here (h : found pos tail) : Behind encode passed found pos tail :=
  ⟨[], by simp, tail, rfl, h⟩

theorem Behind.cons {e : ε} (he : passed e)
    (h : Behind encode passed found (pos + (encode e).length) tail) :
    Behind encode passed found pos (encode e ++ tail) := by
  obtain ⟨entries, hentries, rest, rfl, hfound⟩ := h
  refine ⟨e :: entries, forall_mem_cons.2 ⟨he, hentries⟩, rest, ?_, ?_⟩
  · rw [flatMap_cons, append_assoc]
  · rwa [flatMap_cons, length_append, ← Nat.add_assoc]

end Behind

end Bytes
