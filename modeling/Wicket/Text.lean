/-
**Text operations: stripping, splitting, and joining with separators.**

The operations are those a systems language offers on borrowed text; the results say when a
concatenation with separators is injective, and what can be read back from it.
-/

import Mathlib.Algebra.Group.Nat.Defs
import Mathlib.Data.List.DropRight

namespace Text

open Nat List Char

/-! ### Prefixes and suffixes -/

def startsWith (s p : String) : Bool := p.toList.isPrefixOf s.toList

def endsWith (s p : String) : Bool := p.toList.isSuffixOf s.toList

def stripPrefix (s p : String) : Option String := (p.toList.isPrefixOf? s.toList).map String.ofList

def stripSuffix (s p : String) : Option String := (p.toList.isSuffixOf? s.toList).map String.ofList

def hasChar (s : String) (c : Char) : Bool := s.toList.contains c

variable {s p t : String} {c : Char} {n bound : ℕ} {ds : List Char}

theorem startsWith_iff : startsWith s p = true ↔ ∃ t, s = p ++ t := by
  rw [startsWith, isPrefixOf_iff_prefix]
  constructor
  · rintro ⟨t, ht⟩
    exact ⟨String.ofList t, String.toList_inj.1 (by simp [ht])⟩
  · rintro ⟨t, rfl⟩
    exact ⟨t.toList, by simp⟩

theorem endsWith_iff : endsWith s p = true ↔ ∃ t, s = t ++ p := by
  rw [endsWith, isSuffixOf_iff_suffix]
  constructor
  · rintro ⟨t, ht⟩
    exact ⟨String.ofList t, String.toList_inj.1 (by simp [ht])⟩
  · rintro ⟨t, rfl⟩
    exact ⟨t.toList, by simp⟩

theorem stripPrefix_eq_some : stripPrefix s p = some t ↔ s = p ++ t := by
  simp only [stripPrefix, Option.map_eq_some_iff, isPrefixOf?_eq_some_iff_append_eq]
  constructor
  · rintro ⟨l, hl, rfl⟩
    exact String.toList_inj.1 (by simp [← hl])
  · rintro rfl
    exact ⟨t.toList, by simp⟩

theorem stripSuffix_eq_some : stripSuffix s p = some t ↔ s = t ++ p := by
  simp only [stripSuffix, Option.map_eq_some_iff, isSuffixOf?_eq_some_iff_append_eq]
  constructor
  · rintro ⟨l, hl, rfl⟩
    exact String.toList_inj.1 (by simp [← hl])
  · rintro rfl
    exact ⟨t.toList, by simp⟩

theorem stripPrefix_eq_none : stripPrefix s p = none ↔ startsWith s p = false := by
  rw [← Bool.not_eq_true, startsWith_iff, Option.eq_none_iff_forall_ne_some]
  simp [stripPrefix_eq_some]

theorem startsWith_append_left (p s q : String) :
    startsWith (p ++ s) (p ++ q) = startsWith s q := by
  rw [Bool.eq_iff_iff, startsWith, startsWith, isPrefixOf_iff_prefix, isPrefixOf_iff_prefix,
    String.toList_append, String.toList_append, prefix_append_right_inj]

theorem startsWith_of_append {q : String} (h : startsWith s (p ++ q) = true) :
    startsWith s p = true := by
  obtain ⟨t, rfl⟩ := startsWith_iff.1 h
  exact startsWith_iff.2 ⟨q ++ t, String.append_assoc⟩

variable {a b : String} {α : Type} {q : Int} {cs : List Char}

theorem startsWith_append_singleton (hc : c ∉ p.toList) :
    startsWith (a ++ String.singleton c ++ b) p = startsWith a p := by
  rw [Bool.eq_iff_iff, startsWith, startsWith, isPrefixOf_iff_prefix, isPrefixOf_iff_prefix]
  simp only [String.toList_append, String.toList_singleton, append_assoc, singleton_append]
  constructor
  · rintro ⟨t, ht⟩
    rcases append_eq_append_iff.1 ht with ⟨as, ha, -⟩ | ⟨cs, hp, hcs⟩
    · exact ⟨as, ha.symm⟩
    · cases cs with
      | nil => exact ⟨[], by simp [hp]⟩
      | cons c' cs =>
        rw [cons_append, cons.injEq] at hcs
        exact absurd (by simp [hp, hcs.1]) hc
  · intro h
    exact h.trans (prefix_append _ _)

/-! ### Joining with a separator -/

private theorem append_cons_inj {α : Type} {c : α} {xs ys ds es : List α} (hd : c ∉ ds)
    (he : c ∉ es) (h : xs ++ c :: ds = ys ++ c :: es) : xs = ys ∧ ds = es := by
  rcases append_eq_append_iff.1 h with ⟨as, rfl, has⟩ | ⟨as, rfl, has⟩
  · cases as with
    | nil => simpa using has
    | cons a as =>
      rw [cons_append, cons.injEq] at has
      exact absurd (by simp [has.2] : c ∈ ds) hd
  · cases as with
    | nil => simpa [eq_comm] using has
    | cons a as =>
      rw [cons_append, cons.injEq] at has
      exact absurd (by simp [has.2] : c ∈ es) he

theorem append_cons_inj_left {c : α} {xs ys ds es : List α} (hx : c ∉ xs) (hy : c ∉ ys)
    (h : xs ++ c :: ds = ys ++ c :: es) : xs = ys ∧ ds = es := by
  have hrev := congrArg reverse h
  simp only [reverse_append, reverse_cons, append_assoc, singleton_append] at hrev
  obtain ⟨hd, hxy⟩ := append_cons_inj (by simpa using hx) (by simpa using hy) hrev
  exact ⟨reverse_injective hxy, reverse_injective hd⟩

/-- **Joining is injective when the last parts avoid the separator.** -/
theorem join_inj (hs : c ∉ s.toList) (ht : c ∉ t.toList) :
    a ++ String.singleton c ++ s = b ++ String.singleton c ++ t ↔ a = b ∧ s = t := by
  constructor
  · intro h
    have hl := congrArg String.toList h
    simp only [String.toList_append, String.toList_singleton, append_assoc, singleton_append] at hl
    obtain ⟨hab, hst⟩ := append_cons_inj hs ht hl
    exact ⟨String.toList_inj.1 hab, String.toList_inj.1 hst⟩
  · rintro ⟨rfl, rfl⟩
    rfl

theorem takeWhile_append_of_head {α : Type} {p : α → Bool} {rest : List α}
    (hrest : ∀ r ∈ rest.head?, p r = false) (l : List α) :
    (l ++ rest).takeWhile p = l.takeWhile p ∧ (l ++ rest).dropWhile p = l.dropWhile p ++ rest := by
  induction l with
  | nil =>
    cases rest with
    | nil => simp
    | cons r rest => simp [hrest r (by simp)]
  | cons a l ih =>
    rw [cons_append, takeWhile_cons, takeWhile_cons, dropWhile_cons, dropWhile_cons, ih.1, ih.2]
    split <;> exact ⟨rfl, rfl⟩

theorem takeWhile_append_stop {α : Type} {p : α → Bool} {ds rest : List α}
    (hds : ∀ d ∈ ds, p d = true) (hrest : ∀ r ∈ rest.head?, p r = false) :
    (ds ++ rest).takeWhile p = ds ∧ (ds ++ rest).dropWhile p = rest := by
  obtain ⟨htake, hdrop⟩ := takeWhile_append_of_head hrest ds
  rw [htake, hdrop, takeWhile_eq_self_iff.2 hds, dropWhile_eq_nil_iff.2 hds]
  exact ⟨rfl, rfl⟩

/-! ### Decimal numerals -/

theorem isDigit_of_mem_toString {n : ℕ} {c : Char} (h : c ∈ (toString n).toList) :
    c.isDigit = true := by
  rw [toString_eq_repr, toList_repr] at h
  exact isDigit_of_mem_toDigits (by decide) (by decide) h

theorem notMem_toString (hc : c.isDigit = false) : c ∉ (toString n).toList := by
  intro h
  rw [isDigit_of_mem_toString h] at hc
  cases hc

theorem toString_ne_empty (n : ℕ) : (toString n).toList ≠ [] := by
  rw [toString_eq_repr, toList_repr]
  exact ne_nil_of_length_pos length_toDigits_pos

theorem toString_inj {m : ℕ} : toString n = toString m ↔ n = m := by
  constructor
  · intro h
    have hd := congrArg (fun s : String => ofDigitChars 10 s.toList 0) h
    simpa [toString_eq_repr, toList_repr] using hd
  · rintro rfl
    rfl

theorem intToString_eq (q : Int) :
    toString q = if 0 ≤ q then toString q.toNat else "-" ++ toString (-q).toNat := by
  rw [Int.toString_eq_repr, Int.repr_eq_if]
  rfl

theorem notMem_intToString (hc : c.isDigit = false) (hminus : c ≠ '-') :
    c ∉ (toString q).toList := by
  rw [intToString_eq]
  split
  · exact notMem_toString hc
  · rw [String.toList_append, mem_append, not_or]
    exact ⟨by simpa using hminus, notMem_toString hc⟩

theorem intToString_inj {r : Int} : toString q = toString r ↔ q = r := by
  have hminus : ∀ n m : ℕ, toString n ≠ "-" ++ toString m := by
    intro n m h
    have hmem : '-' ∈ (toString n).toList := by simp [h]
    exact notMem_toString rfl hmem
  constructor
  · intro h
    rw [intToString_eq, intToString_eq] at h
    -- only negative numbers have a minus sign
    split at h <;> split at h
    · rw [toString_inj] at h
      omega
    · exact absurd h (hminus _ _)
    · exact absurd h.symm (hminus _ _)
    · rw [String.append_right_inj, toString_inj] at h
      omega
  · rintro rfl
    rfl

/-! ### Splitting at a character -/

def split (s : String) (c : Char) : List String := (s.toList.splitOn c).map String.ofList

theorem split_append (s t : String) (c : Char) :
    split (s ++ String.singleton c ++ t) c = split s c ++ split t c := by
  have hlist : (s ++ String.singleton c ++ t).toList = s.toList ++ c :: t.toList := by simp
  rw [split, hlist, splitOn_eq_splitOnP, splitOnP_append_cons _ _ (by simp), map_append]
  rfl

theorem split_of_notMem {s : String} {c : Char} (h : c ∉ s.toList) : split s c = [s] := by
  rw [split, splitOn_eq_singleton h, map_singleton, String.ofList_toList]

/-- The part of `s` before the first `c`: the whole of `s` when `c` does not occur. -/
def beforeFirst (s : String) (c : Char) : String := String.ofList (s.toList.takeWhile (· ≠ c))

def afterFirst (s : String) (c : Char) : Option String :=
  (s.toList.dropWhile (· ≠ c)).tail?.map String.ofList

private theorem forall_ne_of_notMem {c : Char} {l : List Char} (h : c ∉ l) :
    ∀ a ∈ l, decide (a ≠ c) = true := by
  intro a ha
  rw [decide_eq_true_eq]
  rintro rfl
  exact h ha

theorem afterFirst_append {p : String} {c : Char} (hp : c ∉ p.toList) (t : String) :
    afterFirst (p ++ String.singleton c ++ t) c = some t := by
  have hlist : (p ++ String.singleton c ++ t).toList = p.toList ++ c :: t.toList := by simp
  rw [afterFirst, hlist, dropWhile_append_of_pos (forall_ne_of_notMem hp),
    dropWhile_cons_of_neg (by simp), tail?_cons, Option.map_some, String.ofList_toList]

theorem afterFirst_eq_none (hs : c ∉ s.toList) : afterFirst s c = none := by
  rw [afterFirst, dropWhile_eq_nil_iff.2 (forall_ne_of_notMem hs), tail?_nil, Option.map_none]

theorem beforeFirst_of_notMem (hs : c ∉ s.toList) : beforeFirst s c = s := by
  rw [beforeFirst, takeWhile_eq_self_iff.2 (forall_ne_of_notMem hs), String.ofList_toList]

theorem afterFirst_eq_some :
    afterFirst s c = some t ↔ ∃ p : String, c ∉ p.toList ∧ s = p ++ String.singleton c ++ t := by
  constructor
  · intro h
    by_cases hc : c ∈ s.toList
    · obtain ⟨as, bs, hs, has⟩ := eq_append_cons_of_mem hc
      have hsplit : s = String.ofList as ++ String.singleton c ++ String.ofList bs := by
        rw [← String.toList_inj, hs]
        simp
      have hnot : c ∉ (String.ofList as).toList := by rwa [String.toList_ofList]
      rw [hsplit, afterFirst_append hnot, Option.some_inj] at h
      rw [h] at hsplit
      exact ⟨_, hnot, hsplit⟩
    · rw [afterFirst_eq_none hc] at h
      cases h
  · rintro ⟨p, hp, rfl⟩
    exact afterFirst_append hp t

section SplitOn

variable {α : Type} [DecidableEq α]

theorem exists_splitOn_eq_cons (c : α) (l : List α) : ∃ part parts, l.splitOn c = part :: parts :=
  exists_cons_of_ne_nil (splitOnP_ne_nil _ l)

theorem splitOn_cons_self (c : α) (l : List α) : (c :: l).splitOn c = [] :: l.splitOn c := by
  simp [splitOn, splitOnP_cons_eq_if_modifyHead]

theorem splitOn_cons_of_ne {c a : α} (h : a ≠ c) (l : List α) :
    (a :: l).splitOn c = (l.splitOn c).modifyHead (cons a) := by
  simp [splitOn, splitOnP_cons_eq_if_modifyHead, h]

theorem eq_or_mem_splitOn {c sep : α} {l : List α} (h : c ∈ l) :
    c = sep ∨ ∃ part ∈ l.splitOn sep, c ∈ part := by
  induction l with
  | nil => cases h
  | cons a l ih =>
    obtain ⟨part, parts, hl⟩ := exists_splitOn_eq_cons sep l
    rw [hl] at ih
    by_cases ha : a = sep
    · rw [ha, splitOn_cons_self, hl]
      rcases mem_cons.1 h with rfl | hc
      · exact .inl ha
      · rcases ih hc with hsep | ⟨p, hp, hcp⟩
        · exact .inl hsep
        · exact .inr ⟨p, mem_cons_of_mem _ hp, hcp⟩
    · rw [splitOn_cons_of_ne ha, hl, modifyHead_cons]
      rcases mem_cons.1 h with rfl | hc
      · exact .inr ⟨_, mem_cons_self, mem_cons_self⟩
      · rcases ih hc with hsep | ⟨p, hp, hcp⟩
        · exact .inl hsep
        · rcases mem_cons.1 hp with rfl | hp
          · exact .inr ⟨_, mem_cons_self, mem_cons_of_mem _ hcp⟩
          · exact .inr ⟨p, mem_cons_of_mem _ hp, hcp⟩

theorem mem_of_mem_splitOn {part l : List α} {a c : α} (h : part ∈ l.splitOn c) (ha : a ∈ part) :
    a ∈ l := by
  induction l generalizing part with
  | nil =>
    rw [splitOn_nil, mem_singleton] at h
    rwa [h] at ha
  | cons b l ih =>
    obtain ⟨first, rest, hl⟩ := exists_splitOn_eq_cons c l
    rw [hl] at ih
    by_cases hb : b = c
    · rw [hb, splitOn_cons_self, hl, mem_cons] at h
      rcases h with rfl | h
      · cases ha
      · exact mem_cons_of_mem b (ih h ha)
    · rw [splitOn_cons_of_ne hb, hl, modifyHead_cons, mem_cons] at h
      rcases h with rfl | h
      · rcases mem_cons.1 ha with rfl | ha
        · exact mem_cons_self
        · exact mem_cons_of_mem b (ih mem_cons_self ha)
      · exact mem_cons_of_mem b (ih (mem_cons_of_mem first h) ha)

theorem splitOn_prefix_iff {c : α} {l m : List α} :
    l.splitOn c <+: m.splitOn c ↔ m = l ∨ l ++ [c] <+: m := by
  induction l generalizing m with
  | nil =>
    cases m with
    | nil => simp
    | cons b m =>
      by_cases hb : b = c
      · subst hb
        simp [splitOn_cons_self, cons_prefix_cons]
      · obtain ⟨part, parts, hm⟩ := exists_splitOn_eq_cons c m
        simp [splitOn_cons_of_ne hb, hm, cons_prefix_cons, Ne.symm hb]
  | cons a l ih =>
    obtain ⟨part, parts, hl⟩ := exists_splitOn_eq_cons c l
    cases m with
    | nil =>
      by_cases ha : a = c
      · subst ha
        simp [splitOn_cons_self, hl, cons_prefix_cons]
      · simp [splitOn_cons_of_ne ha, hl, cons_prefix_cons]
    | cons b m =>
      obtain ⟨part', parts', hm⟩ := exists_splitOn_eq_cons c m
      -- a separator closes the first part on its side, any other character extends it
      have hih := @ih m
      rw [hl, hm, cons_prefix_cons] at hih
      by_cases ha : a = c <;> by_cases hb : b = c
      · subst ha hb
        simp [splitOn_cons_self, hl, hm, cons_prefix_cons, hih]
      · subst ha
        simp [splitOn_cons_self, splitOn_cons_of_ne hb, hm, cons_prefix_cons, hb, Ne.symm hb]
      · subst hb
        simp [splitOn_cons_self, splitOn_cons_of_ne ha, hl, cons_prefix_cons, ha, Ne.symm ha]
      · simp [splitOn_cons_of_ne ha, splitOn_cons_of_ne hb, hl, hm, and_assoc, hih, ← and_or_left,
          eq_comm]

end SplitOn

theorem split_prefix_iff :
    split s c <+: split t c ↔ t = s ∨ startsWith t (s ++ String.singleton c) = true := by
  have hinj : Function.Injective (map String.ofList) :=
    map_injective_iff.2 fun _ _ h => String.ofList_injective h
  have hlists : split s c <+: split t c ↔ s.toList.splitOn c <+: t.toList.splitOn c := by
    rw [split, split, prefix_map_iff]
    constructor
    · rintro ⟨l, hl, heq⟩
      rw [hinj heq]
      exact hl
    · intro h
      exact ⟨_, h, rfl⟩
  rw [hlists, splitOn_prefix_iff, startsWith, isPrefixOf_iff_prefix, String.toList_inj,
    String.toList_append, String.toList_singleton]

/-! ### Letter case -/

def isAscii (s : String) : Bool := s.toList.all fun c => decide (c.toNat < 128)

/-- ASCII letters in lower case, everything else as it is. -/
def toAsciiLowercase (s : String) : String := String.ofList (s.toList.map Char.toLower)

/-- ASCII letters in upper case, everything else as it is. -/
def toAsciiUppercase (s : String) : String := String.ofList (s.toList.map Char.toUpper)

theorem toLower_toLower (c : Char) : c.toLower.toLower = c.toLower := by
  delta toLower
  grind

theorem toLower_eq {d : Char} (hd : d.isLower = false) (h : c.toLower = d) : c = d := by
  delta toLower at h
  split at h
  case isTrue hupper =>
    subst h
    have hlower : ¬ (97 ≤ c.val + 32 ∧ c.val + 32 ≤ 122) := by
      delta isLower at hd
      simpa using hd
    have hupper' : 65 ≤ c.val ∧ c.val ≤ 90 := hupper
    simp only [UInt32.le_iff_toNat_le, UInt32.toNat_add, UInt32.reduceToNat] at hupper' hlower
    omega
  case isFalse => exact h

theorem toAsciiLowercase_idem (s : String) :
    toAsciiLowercase (toAsciiLowercase s) = toAsciiLowercase s := by
  have hcomp : toLower ∘ toLower = toLower := funext toLower_toLower
  rw [toAsciiLowercase, toAsciiLowercase, String.toList_ofList, map_map, hcomp]

theorem toAsciiLowercase_append (s t : String) :
    toAsciiLowercase (s ++ t) = toAsciiLowercase s ++ toAsciiLowercase t := by
  rw [toAsciiLowercase, String.toList_append, map_append, String.ofList_append]
  rfl

theorem length_toAsciiLowercase (s : String) : (toAsciiLowercase s).length = s.length := by
  rw [toAsciiLowercase, String.length_ofList, length_map, String.length_toList]

theorem mem_toAsciiLowercase (hc : c.isLower = false) (hself : c.toLower = c) :
    c ∈ (toAsciiLowercase s).toList ↔ c ∈ s.toList := by
  rw [toAsciiLowercase, String.toList_ofList, mem_map]
  constructor
  · rintro ⟨d, hd, heq⟩
    rwa [← toLower_eq hc heq]
  · intro h
    exact ⟨c, h, hself⟩

def trimEnd (s : String) (c : Char) : String := String.ofList (s.toList.rdropWhile (· == c))

/-- A mapping of whole texts to lower and upper case.  The tables for the letters beyond ASCII are
left open. -/
structure CaseMapping where
  toLowercase : String → String
  toUppercase : String → String
  toLowercase_ascii : ∀ s, isAscii s = true → toLowercase s = toAsciiLowercase s
  toUppercase_ascii : ∀ s, isAscii s = true → toUppercase s = toAsciiUppercase s

def CaseMapping.ascii : CaseMapping where
  toLowercase := toAsciiLowercase
  toUppercase := toAsciiUppercase
  toLowercase_ascii _ _ := rfl
  toUppercase_ascii _ _ := rfl

/-! ### White space and numbers -/

/-- The code points with the Unicode property `White_Space`. -/
def isWhitespace (c : Char) : Bool :=
  let n := c.toNat
  (0x9 ≤ n && n ≤ 0xD) || n == 0x20 || n == 0x85 || n == 0xA0 || n == 0x1680 ||
    (0x2000 ≤ n && n ≤ 0x200A) || n == 0x2028 || n == 0x2029 || n == 0x202F || n == 0x205F ||
    n == 0x3000

/-- `s` without the white space at its two ends. -/
def trim (s : String) : String :=
  String.ofList (((s.toList.dropWhile isWhitespace).reverse.dropWhile isWhitespace).reverse)

theorem mem_dropWhile {p : α → Bool} {l : List α} {x : α} (hx : x ∈ l) (hp : p x = false) :
    x ∈ l.dropWhile p := by
  rw [← takeWhile_append_dropWhile (p := p) (l := l), mem_append] at hx
  rcases hx with hx | hx
  · rw [all_eq_true.1 all_takeWhile x hx] at hp
    cases hp
  · exact hx

theorem trim_ne_empty (hc : c ∈ s.toList) (hw : isWhitespace c = false) :
    trim s ≠ "" := by
  have hmem : c ∈ ((s.toList.dropWhile isWhitespace).reverse.dropWhile isWhitespace).reverse :=
    mem_reverse.2 (mem_dropWhile (mem_reverse.2 (mem_dropWhile hc hw)) hw)
  intro h
  rw [trim, ← String.toList_inj, String.toList_ofList] at h
  rw [h] at hmem
  cases hmem

/-- Reads an unsigned decimal number below `bound`: an optional plus sign and at least one
digit. -/
def parseUnsigned (bound : ℕ) (s : String) : Option ℕ :=
  let ds := match s.toList with
    | '+' :: ds => ds
    | ds => ds
  if ds.isEmpty || !ds.all Char.isDigit then none
  else
    let n := Nat.ofDigitChars 10 ds 0
    if n < bound then some n else none

theorem isWhitespace_of_isDigit (h : c.isDigit = true) : isWhitespace c = false := by
  simp only [isDigit, Bool.and_eq_true, decide_eq_true_eq, ge_iff_le, UInt32.le_iff_toNat_le] at h
  have hlow : 48 ≤ c.toNat := h.1
  have hhigh : c.toNat ≤ 57 := h.2
  simp only [isWhitespace, Bool.or_eq_false_iff, Bool.and_eq_false_iff, decide_eq_false_iff_not,
    beq_eq_false_iff_ne]
  omega

theorem trim_of_forall (h : ∀ c ∈ s.toList, isWhitespace c = false) : trim s = s := by
  have hdrop : ∀ {l : List Char}, (∀ c ∈ l, isWhitespace c = false) →
      l.dropWhile isWhitespace = l := by
    intro l hl
    cases l with
    | nil => rfl
    | cons c l => rw [dropWhile_cons, hl c mem_cons_self, if_neg Bool.false_ne_true]
  have hreverse : ∀ c ∈ s.toList.reverse, isWhitespace c = false :=
    fun c hc => h c (mem_reverse.1 hc)
  rw [trim, hdrop h, hdrop hreverse, reverse_reverse, String.ofList_toList]

theorem ofDigitChars_lt (h : ∀ c ∈ ds, c.isDigit = true) (n : ℕ) :
    ofDigitChars 10 ds n < (n + 1) * 10 ^ ds.length := by
  induction ds generalizing n with
  | nil => simp
  | cons c ds ih =>
    have hc := h c mem_cons_self
    simp only [isDigit, Bool.and_eq_true, decide_eq_true_eq, ge_iff_le,
      UInt32.le_iff_toNat_le] at hc
    have hhigh : c.toNat ≤ 57 := hc.2
    have hzero : '0'.toNat = 48 := rfl
    rw [ofDigitChars_cons, length_cons, pow_succ']
    refine (ih (fun c' hc' => h c' (mem_cons_of_mem _ hc')) _).trans_le ?_
    rw [← mul_assoc]
    refine mul_le_mul_right _ ?_
    omega

theorem parseUnsigned_lt (h : parseUnsigned bound s = some n) : n < bound := by
  rw [parseUnsigned] at h
  dsimp only at h
  split_ifs at h with hdigits hlt
  rwa [← Option.some.inj h]

theorem parseUnsigned_of_digits (h : ∀ c ∈ ds, c.isDigit = true) (hne : ds ≠ [])
    (hbound : 10 ^ ds.length ≤ bound) :
    parseUnsigned bound (String.ofList ds) = some (ofDigitChars 10 ds 0) := by
  have hlt := ofDigitChars_lt h 0
  have hall : ds.all isDigit = true := all_eq_true.2 h
  have hplus : ∀ ds', ds ≠ '+' :: ds' := by
    intro ds' heq
    have hdigit := h '+' (by rw [heq]; exact mem_cons_self)
    cases hdigit
  rw [parseUnsigned, String.toList_ofList]
  split
  · exact absurd rfl (hplus _)
  · rw [if_neg (by simp [hall, hne])]
    exact if_pos (by omega)

theorem parseUnsigned_eq_none (hc : c ∈ cs) (hdigit : c.isDigit = false) (hplus : c ≠ '+') :
    parseUnsigned bound (String.ofList cs) = none := by
  have hall : ∀ {l : List Char}, c ∈ l → l.all isDigit = false := by
    intro l hl
    rw [all_eq_false]
    exact ⟨c, hl, by simp [hdigit]⟩
  rw [parseUnsigned, String.toList_ofList]
  split
  · rw [hall ((mem_cons.1 hc).resolve_left hplus)]
    simp
  · rw [hall hc]
    simp

/-- The first `n` bytes of a text, unless the text is shorter or they end inside a character. -/
def takeBytes : ℕ → List Char → Option (List Char)
  | 0, _ => some []
  | _ + 1, [] => none
  | n + 1, c :: cs =>
    if c.utf8Size ≤ n + 1 then (takeBytes (n + 1 - c.utf8Size) cs).map (c :: ·) else none

def bytePrefix (s : String) (n : ℕ) : Option String := (takeBytes n s.toList).map String.ofList

theorem utf8ByteSize_ofList_cons (c : Char) (cs : List Char) :
    (String.ofList (c :: cs)).utf8ByteSize = c.utf8Size + (String.ofList cs).utf8ByteSize := by
  rw [String.ofList_cons, String.utf8ByteSize_append, String.utf8ByteSize_singleton]

theorem utf8Size_of_isAlphanum {c : Char} (h : c.isAlphanum = true) : c.utf8Size = 1 := by
  rw [utf8Size_eq_one_iff]
  delta isAlphanum isAlpha isUpper isLower isDigit at h
  simp only [Bool.or_eq_true, Bool.and_eq_true, decide_eq_true_eq] at h
  obtain (⟨-, h⟩ | ⟨-, h⟩) | ⟨-, h⟩ := h
  all_goals exact UInt32.le_trans h (by decide)

theorem utf8ByteSize_of_forall {l : List Char} (h : ∀ c ∈ l, c.utf8Size = 1) :
    (String.ofList l).utf8ByteSize = l.length := by
  induction l with
  | nil => rfl
  | cons c l ih =>
    rw [forall_mem_cons] at h
    rw [utf8ByteSize_ofList_cons, h.1, ih h.2, length_cons]
    omega

theorem takeBytes_append (cs ds : List Char) (n : ℕ) :
    takeBytes ((String.ofList cs).utf8ByteSize + n) (cs ++ ds) =
      (takeBytes n ds).map (cs ++ ·) := by
  induction cs with
  | nil => simp
  | cons c cs ih =>
    have hpos := c.utf8Size_pos
    obtain ⟨m, hm⟩ : ∃ m, (String.ofList (c :: cs)).utf8ByteSize + n = m + 1 := by
      rw [utf8ByteSize_ofList_cons]
      exact ⟨c.utf8Size + (String.ofList cs).utf8ByteSize + n - 1, by omega⟩
    have hle : c.utf8Size ≤ m + 1 := by
      rw [← hm, utf8ByteSize_ofList_cons]
      omega
    have hrest : m + 1 - c.utf8Size = (String.ofList cs).utf8ByteSize + n := by
      rw [← hm, utf8ByteSize_ofList_cons]
      omega
    rw [hm, cons_append, takeBytes, if_pos hle, hrest, ih, Option.map_map]
    rfl

theorem takeBytes_eq_some :
    takeBytes n cs = some ds ↔ (String.ofList ds).utf8ByteSize = n ∧ ds <+: cs := by
  constructor
  · intro h
    fun_induction takeBytes n cs generalizing ds with
    | case1 =>
      obtain rfl := Option.some_inj.1 h
      exact ⟨rfl, nil_prefix⟩
    | case2 => cases h
    | case3 n c cs hle ih =>
      obtain ⟨es, hes, rfl⟩ := Option.map_eq_some_iff.1 h
      obtain ⟨hsize, hpre⟩ := ih hes
      rw [utf8ByteSize_ofList_cons, hsize]
      exact ⟨by omega, cons_prefix_cons.2 ⟨rfl, hpre⟩⟩
    | case4 => cases h
  · rintro ⟨rfl, rest, rfl⟩
    rw [← add_zero (String.ofList ds).utf8ByteSize, takeBytes_append, takeBytes,
      Option.map_some, append_nil]

theorem bytePrefix_eq_some : bytePrefix s n = some t ↔ t.utf8ByteSize = n ∧ ∃ r, s = t ++ r := by
  rw [bytePrefix, Option.map_eq_some_iff]
  constructor
  · rintro ⟨ds, hds, rfl⟩
    obtain ⟨hsize, rest, hrest⟩ := takeBytes_eq_some.1 hds
    refine ⟨hsize, String.ofList rest, ?_⟩
    rw [← String.ofList_append, hrest, String.ofList_toList]
  · rintro ⟨hsize, r, rfl⟩
    refine ⟨t.toList, takeBytes_eq_some.2 ⟨?_, ?_⟩, String.ofList_toList⟩
    · rw [String.ofList_toList, hsize]
    · rw [String.toList_append]
      exact prefix_append _ _

theorem bytePrefix_append (p s : String) (n : ℕ) :
    bytePrefix (p ++ s) (p.utf8ByteSize + n) = (bytePrefix s n).map (p ++ ·) := by
  have htake := takeBytes_append p.toList s.toList n
  rw [String.ofList_toList] at htake
  rw [bytePrefix, bytePrefix, String.toList_append, htake, Option.map_map, Option.map_map]
  congr 1
  funext ds
  simp

end Text
