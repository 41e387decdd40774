/-
**Compact JSON texts.**

A text is written part by part, without blanks between the parts.

Main definitions:

* `quote`, `number`, `array`, `object` — the texts of values;
* `IsJson` — the texts that are put together in this way;
* `Ends` — what may follow such a text inside a longer one.
-/

import Wicket.Text

namespace JsonText

open List Text

/-! ### The writer -/

/-- The characters with an escape of one letter. -/
def shortEscapes : List (Char × Char) :=
  [('"', '"'), ('\\', '\\'), ('\x08', 'b'), ('\x0c', 'f'), ('\n', 'n'), ('\r', 'r'), ('\t', 't')]

/-- A character inside a quoted text. -/
def escapeChar (c : Char) : List Char :=
  match shortEscapes.lookup c with
  | some e => ['\\', e]
  | none =>
    if c.toNat < 32 then
      ['\\', 'u', '0', '0', Nat.digitChar (c.toNat / 16), Nat.digitChar (c.toNat % 16)]
    else [c]

/-- The text of a string. -/
def quote (s : String) : List Char := '"' :: (s.toList.flatMap escapeChar ++ ['"'])

/-- The text of a number. -/
def number (n : ℕ) : List Char := (toString n).toList

/-- The texts with commas between them. -/
def commas : List (List Char) → List Char
  | [] => []
  | t :: ts => t ++ ts.flatMap fun u => ',' :: u

/-- The text of an array, from those of its items. -/
def array (ts : List (List Char)) : List Char := '[' :: (commas ts ++ [']'])

/-- The text of a member of an object. -/
def member (m : String × List Char) : List Char := quote m.1 ++ ':' :: m.2

/-- The text of an object, from those of its members. -/
def object (ms : List (String × List Char)) : List Char := '{' :: (commas (ms.map member) ++ ['}'])

/-- The texts of this writer. -/
inductive IsJson : List Char → Prop
  | quote (s : String) : IsJson (quote s)
  | number (n : ℕ) : IsJson (number n)
  | array {ts : List (List Char)} (h : ∀ t ∈ ts, IsJson t) : IsJson (array ts)
  | object {ms : List (String × List Char)} (h : ∀ m ∈ ms, IsJson m.2) : IsJson (object ms)

attribute [simp] IsJson.quote IsJson.number

/-! ### Quoted texts -/

theorem escapeChar_cases (c : Char) : (∃ e, (c, e) ∈ shortEscapes ∧ escapeChar c = ['\\', e]) ∨
    (c.toNat < 32 ∧ escapeChar c =
      ['\\', 'u', '0', '0', Nat.digitChar (c.toNat / 16), Nat.digitChar (c.toNat % 16)]) ∨
    (c ≠ '\\' ∧ c ≠ '"' ∧ escapeChar c = [c]) := by
  rw [escapeChar]
  cases hlookup : shortEscapes.lookup c with
  | some e =>
    obtain ⟨before, after, heq, -⟩ := lookup_eq_some_iff.1 hlookup
    exact .inl ⟨e, by rw [heq]; simp, rfl⟩
  | none =>
    by_cases hc : c.toNat < 32
    · exact .inr (.inl ⟨hc, if_pos hc⟩)
    · refine .inr (.inr ⟨?_, ?_, if_neg hc⟩)
      · rintro rfl
        cases hlookup
      · rintro rfl
        cases hlookup

@[simp] theorem number_inj {n m : ℕ} : number n = number m ↔ n = m := by
  rw [number, number, String.toList_inj, toString_inj]

theorem number_eq_cons (n : ℕ) : ∃ d ds, number n = d :: ds ∧ d.isDigit = true := by
  obtain ⟨d, ds, hcons⟩ := exists_cons_of_ne_nil (show number n ≠ [] from toString_ne_empty n)
  exact ⟨d, ds, hcons, isDigit_of_mem_toString (n := n) (by rw [← number, hcons]; simp)⟩

/-! ### What follows a text -/

/-- What may follow a JSON text: a comma, a closing bracket, or nothing. -/
def Ends (r : List Char) : Prop := ∀ c ∈ r.head?, c = ',' ∨ c = ']' ∨ c = '}'

theorem Ends.isDigit {r : List Char} (h : Ends r) : ∀ c ∈ r.head?, c.isDigit = false := by
  intro c hc
  rcases h c hc with rfl | rfl | rfl <;> rfl

end JsonText
