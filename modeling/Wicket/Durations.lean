/-
**Timeouts as texts.**

A duration is one to four pairs of a number and a unit.  The generator takes the last byte for the
unit and the rest for the number, which is right for a single pair in hours, minutes or seconds.
-/

import Wicket.Generator

namespace Wicket

open Option List Text

/-! ### Durations -/

inductive DurationUnit
  | h
  | m
  | s
  | ms
  deriving DecidableEq

def DurationUnit.text : DurationUnit → List Char
  | .h => ['h']
  | .m => ['m']
  | .s => ['s']
  | .ms => ['m', 's']

def DurationUnit.millis : DurationUnit → ℕ
  | .h => 3600000
  | .m => 60000
  | .s => 1000
  | .ms => 1

structure DurationPair where
  digits : List Char
  unit : DurationUnit
  isDigit : ∀ c ∈ digits, c.isDigit = true
  length_pos : 1 ≤ digits.length
  length_le : digits.length ≤ 5

def DurationPair.number (p : DurationPair) : ℕ := Nat.ofDigitChars 10 p.digits 0

def DurationPair.text (p : DurationPair) : List Char := p.digits ++ p.unit.text

structure GatewayDuration where
  pairs : List DurationPair
  length_pos : 1 ≤ pairs.length
  length_le : pairs.length ≤ 4

namespace GatewayDuration

def text (d : GatewayDuration) : String := String.ofList (d.pairs.flatMap DurationPair.text)

def millis (d : GatewayDuration) : ℕ := (d.pairs.map fun p => p.number * p.unit.millis).sum

def wholeSeconds (d : GatewayDuration) : Option UInt64 :=
  if 1000 ∣ d.millis then some (UInt64.ofNat (d.millis / 1000)) else none

end GatewayDuration

/-! ### What is multiplied -/

def unitFactor (unit : Char) : Option ℕ :=
  if unit = 's' then some 1 else if unit = 'm' then some 60 else if unit = 'h' then some 3600
  else none

/-- The number before the last character and the factor of this character, if it is read that
far. -/
def durationFactors (duration : String) : Option (ℕ × ℕ) :=
  (trim duration).toList.getLast?.bind fun unit =>
    (parseUnsigned (2 ^ 64) (String.ofList (trim duration).toList.dropLast)).bind
      fun num => (unitFactor unit).map fun factor => (num, factor)

theorem parseDurationToSecs_eq (duration : String) :
    parseDurationToSecs duration =
      if (trim duration).toList.getLast?.any (fun c => c.utf8Size != 1) then
        .error .splitInsideCharacter
      else .ok ((durationFactors duration).map fun e => UInt64.ofNat (e.1 * e.2)) := by
  rw [parseDurationToSecs, durationFactors]
  cases (trim duration).toList.getLast? with
  | none => simp
  | some unit =>
    by_cases hsize : unit.utf8Size = 1
    · have hone : ¬(some unit).any (fun c => c.utf8Size != 1) = true := by simpa using hsize
      rw [if_neg hone, bind_some]
      simp only [hsize, ne_eq, not_true_eq_false, if_false]
      cases parseUnsigned (2 ^ 64) (String.ofList (trim duration).toList.dropLast) with
      | none => rfl
      | some num =>
        simp only [unitFactor]
        split_ifs <;> simp [UInt64.ofNat_mul]
    · simp [hsize]

/-! ### How a duration is read -/

def DurationUnit.last : DurationUnit → Char
  | .h => 'h'
  | .m => 'm'
  | .s | .ms => 's'

def DurationUnit.before : DurationUnit → List Char
  | .h | .m | .s => []
  | .ms => ['m']

theorem DurationUnit.text_eq (u : DurationUnit) : u.text = u.before ++ [u.last] := by
  cases u <;> rfl

theorem DurationUnit.letter {u : DurationUnit} {c : Char} (hc : c ∈ u.text) :
    c.isDigit = false ∧ c ≠ '+' ∧ isWhitespace c = false ∧ c.utf8Size = 1 := by
  cases u <;> simp only [text, mem_cons, not_mem_nil, or_false] at hc
  case h | m | s =>
    subst hc
    decide
  case ms =>
    obtain rfl | rfl := hc <;> decide

variable (d : GatewayDuration)

theorem GatewayDuration.trim_text : trim d.text = d.text := by
  apply trim_of_forall
  intro c hc
  rw [text, String.toList_ofList] at hc
  obtain ⟨p, -, hc⟩ := mem_flatMap.1 hc
  obtain hc | hc := mem_append.1 hc
  · exact isWhitespace_of_isDigit (p.isDigit c hc)
  · exact (DurationUnit.letter hc).2.2.1

theorem GatewayDuration.exists_last : ∃ init p, d.pairs = init ++ [p] := by
  have hne : d.pairs ≠ [] := ne_nil_of_length_pos d.length_pos
  exact ⟨d.pairs.dropLast, d.pairs.getLast hne, (dropLast_append_getLast hne).symm⟩

theorem parseUnsigned_before_last (init : List DurationPair) (p : DurationPair) :
    parseUnsigned (2 ^ 64)
        (String.ofList (init.flatMap DurationPair.text ++ (p.digits ++ p.unit.before))) =
      if init = [] ∧ p.unit ≠ .ms then some p.number else none := by
  by_cases hms : p.unit = .ms
  · -- the letter before the last is no digit
    rw [if_neg (fun h => h.2 hms), hms]
    exact parseUnsigned_eq_none (c := 'm') (by simp [DurationUnit.before]) rfl (by decide)
  · have hbefore : p.unit.before = [] := by
      cases hunit : p.unit with
      | ms => exact absurd hunit hms
      | _ => rfl
    cases init with
    | nil =>
      have hne : p.digits ≠ [] := ne_nil_of_length_pos p.length_pos
      have hbound : 10 ^ p.digits.length ≤ 2 ^ 64 :=
        (Nat.pow_le_pow_right (by decide) p.length_le).trans (by decide)
      rw [if_pos ⟨rfl, hms⟩, hbefore, flatMap_nil, nil_append, append_nil]
      exact parseUnsigned_of_digits p.isDigit hne hbound
    | cons q init =>
      -- the unit of the first pair is in the way
      have hlast : q.unit.last ∈ q.unit.text := by
        rw [q.unit.text_eq]
        exact mem_concat_self
      obtain ⟨hdigit, hplus, -⟩ := DurationUnit.letter hlast
      exact parseUnsigned_eq_none (by simp [DurationPair.text, hlast]) hdigit hplus

theorem DurationUnit.unitFactor_last {u : DurationUnit} (hu : u ≠ .ms) :
    ∃ factor, unitFactor u.last = some factor ∧ u.millis = factor * 1000 := by
  cases u with
  | h => exact ⟨3600, rfl, rfl⟩
  | m => exact ⟨60, rfl, rfl⟩
  | s => exact ⟨1, rfl, rfl⟩
  | ms => exact absurd rfl hu

/-- **How a duration is read**: a single pair that is not in milliseconds as its seconds, any other
as no timeout. -/
theorem parseDurationToSecs_text {d : GatewayDuration} {init : List DurationPair}
    {p : DurationPair} (hpairs : d.pairs = init ++ [p]) :
    parseDurationToSecs d.text = .ok
      (if init = [] ∧ p.unit ≠ .ms then some (UInt64.ofNat (p.number * p.unit.millis / 1000))
      else none) := by
  have hchars : d.text.toList =
      init.flatMap DurationPair.text ++ (p.digits ++ p.unit.before) ++ [p.unit.last] := by
    rw [GatewayDuration.text, String.toList_ofList, hpairs, flatMap_append,
      flatMap_singleton, DurationPair.text, p.unit.text_eq]
    simp
  have hlast : d.text.toList.getLast? = some p.unit.last := by
    rw [hchars, getLast?_concat]
  have hbyte : ¬d.text.toList.getLast?.any (fun c => c.utf8Size != 1) = true := by
    rw [hlast]
    have hmem : p.unit.last ∈ p.unit.text := by
      rw [p.unit.text_eq]
      exact mem_concat_self
    simpa using (DurationUnit.letter hmem).2.2.2
  rw [parseDurationToSecs_eq, d.trim_text, if_neg hbyte, durationFactors, d.trim_text, hlast,
    bind_some, hchars, dropLast_concat, parseUnsigned_before_last]
  split_ifs with hsingle
  · obtain ⟨factor, hfactor, hmillis⟩ := DurationUnit.unitFactor_last hsingle.2
    rw [bind_some, hfactor, hmillis, ← Nat.mul_assoc, Nat.mul_div_left _ (by decide)]
    rfl
  · rfl

theorem parseDurationToSecs_text_iff :
    parseDurationToSecs d.text = .ok d.wholeSeconds ↔
      (∃ p, d.pairs = [p] ∧ p.unit ≠ .ms) ∨ ¬1000 ∣ d.millis := by
  obtain ⟨init, p, hpairs⟩ := d.exists_last
  rw [parseDurationToSecs_text hpairs, Except.ok.injEq, GatewayDuration.wholeSeconds]
  by_cases hsingle : init = [] ∧ p.unit ≠ .ms
  · obtain ⟨rfl, hunit⟩ := hsingle
    have hmillis : d.millis = p.number * p.unit.millis := by
      rw [GatewayDuration.millis, hpairs]
      exact sum_singleton
    have hwhole : 1000 ∣ p.number * p.unit.millis := by
      obtain ⟨factor, -, hfactor⟩ := DurationUnit.unitFactor_last hunit
      rw [hfactor, ← Nat.mul_assoc]
      exact Nat.dvd_mul_left _ _
    rw [if_pos ⟨rfl, hunit⟩, hmillis, if_pos hwhole]
    exact iff_of_true rfl (.inl ⟨p, hpairs, hunit⟩)
  · have hnot : ¬∃ p, d.pairs = [p] ∧ p.unit ≠ .ms := by
      intro h
      obtain ⟨p', hpair, hunit⟩ := h
      rw [hpairs] at hpair
      obtain ⟨hinit, hp⟩ := append_inj' (hpair.trans (nil_append [p']).symm) rfl
      cases hp
      exact hsingle ⟨hinit, hunit⟩
    rw [if_neg hsingle, or_iff_right hnot]
    split_ifs with hwhole
    · simp [hwhole]
    · simp [hwhole]

/-! ### Which texts are safe -/

/-- The text is read without a panic, and the product fits into 64 bits. -/
def DurationSafe (text : String) : Prop :=
  (∃ seconds, parseDurationToSecs text = .ok seconds) ∧
    ∀ num factor, durationFactors text = some (num, factor) → num * factor < 2 ^ 64

theorem durationFactors_eq_some {text : String} {num factor : ℕ}
    (h : durationFactors text = some (num, factor)) :
    num < 2 ^ 64 ∧ (factor = 1 ∨ factor = 60 ∨ factor = 3600) := by
  obtain ⟨unit, -, h⟩ := bind_eq_some_iff.1 h
  obtain ⟨num', hnum, h⟩ := bind_eq_some_iff.1 h
  obtain ⟨factor', hfactor, heq⟩ := map_eq_some_iff.1 h
  cases heq
  refine ⟨parseUnsigned_lt hnum, ?_⟩
  rw [unitFactor] at hfactor
  split_ifs at hfactor <;> cases hfactor <;> simp

theorem durationSafe_iff (text : String) :
    DurationSafe text ↔ (∀ c ∈ (trim text).toList.getLast?, c.utf8Size = 1) ∧
      ∀ num factor, durationFactors text = some (num, factor) →
        (factor = 60 → num ≤ 307445734561825860) ∧ (factor = 3600 → num ≤ 5124095576030431) := by
  refine and_congr ?_ ?_
  · rw [parseDurationToSecs_eq]
    split_ifs with hbytes
    · refine iff_of_false (by simp) ?_
      intro hone
      obtain ⟨c, hc, hsize⟩ := (any_eq_true _ _).1 hbytes
      exact bne_iff_ne.1 hsize (hone c hc)
    · refine iff_of_true ⟨_, rfl⟩ ?_
      intro c hc
      by_contra hsize
      exact hbytes ((any_eq_true _ _).2 ⟨c, hc, bne_iff_ne.2 hsize⟩)
  · refine forall_congr' fun num => forall_congr' fun factor => forall_congr' fun hfactors => ?_
    obtain ⟨hnum, hfactor⟩ := durationFactors_eq_some hfactors
    obtain rfl | rfl | rfl := hfactor <;> omega

/-- **Which durations are read right**: a single pair that is not in milliseconds, and what is not a
whole number of seconds. A text is safe when its last character has one byte and its seconds fit. -/
theorem parseDurationToSecs_right_iff (text : String) :
    (parseDurationToSecs d.text = .ok d.wholeSeconds ↔
      (∃ p, d.pairs = [p] ∧ p.unit ≠ .ms) ∨ ¬1000 ∣ d.millis) ∧
    (DurationSafe text ↔ (∀ c ∈ (trim text).toList.getLast?, c.utf8Size = 1) ∧
      ∀ num factor, durationFactors text = some (num, factor) →
        (factor = 60 → num ≤ 307445734561825860) ∧ (factor = 3600 → num ≤ 5124095576030431)) :=
  ⟨parseDurationToSecs_text_iff d, durationSafe_iff text⟩

def hourAndHalf : GatewayDuration where
  pairs :=
    [⟨['1'], .h, List.all_eq_true.1 rfl, by decide, by decide⟩,
      ⟨['3', '0'], .m, List.all_eq_true.1 rfl, by decide, by decide⟩]
  length_pos := by decide
  length_le := by decide

def thousandMillis : GatewayDuration where
  pairs := [⟨['1', '0', '0', '0'], .ms, List.all_eq_true.1 rfl, by decide, by decide⟩]
  length_pos := by decide
  length_le := by decide

/-- **Durations and texts that are not read right**: two pairs and milliseconds are read as no
timeout, a last character of two bytes is a panic, and a large number of hours overflows. -/
theorem hourAndHalf_unread :
    hourAndHalf.text = "1h30m" ∧ hourAndHalf.wholeSeconds = some 5400 ∧
      parseDurationToSecs "1h30m" = .ok none ∧
    thousandMillis.text = "1000ms" ∧ thousandMillis.wholeSeconds = some 1 ∧
      parseDurationToSecs "1000ms" = .ok none ∧
    parseDurationToSecs "5é" = .error .splitInsideCharacter ∧
    durationFactors "18446744073709551615h" = some (18446744073709551615, 3600) ∧
      parseDurationToSecs "18446744073709551615h" = .ok (some 18446744073709548016) := by
  refine ⟨by decide, by decide, by decide, by decide, by decide, by decide, by decide, by decide,
    by decide⟩

end Wicket
