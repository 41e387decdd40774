/-
**A reader of JSON texts, and why a text determines its value.**

The reader follows the grammar of JSON, with depth and length bounded by those of the text.  A text
put together from parts is read part by part, each up to a comma, a closing bracket or the end.  So
where a part ends inside a longer text can be seen from the left, and equal texts have equal parts.

Main definitions:

* `Value`, `read` — the value of a JSON text;
* `IsEscaping` — the ways of writing a character that the reader undoes;
* `Reads` — what a reader makes of a text, whatever follows.

Main results:

* `reads_quoted`, `reads_number`, `reads_items`, `reads_object` — how the parts are read;
* `IsJson.reads` — every text of the writer is read;
* `array_inj`, `object_inj` — the texts of the items are determined by the whole.
-/

import Wicket.JsonText
import Wicket.Net

namespace JsonText

open Nat List Option

open Net (Reader)

/-! ### Values and the reader -/

/-- The value of a JSON text.  A number is its mantissa with a power of ten. -/
inductive Value where
  | null
  | bool (b : Bool)
  | number (mantissa exponent : ℤ)
  | string (s : String)
  | array (items : List Value)
  | object (members : List (String × Value))
  deriving Inhabited

def isWs (c : Char) : Bool := c == ' ' || c == '\t' || c == '\n' || c == '\r'

def skipWs (cs : List Char) : List Char := cs.dropWhile isWs

/-- A part of a quoted text: a character, or a unit of UTF-16 in hexadecimal. -/
inductive Piece where
  | char (c : Char)
  | unit (u : ℕ)

def unescape (e : Char) : Option Char :=
  if e = '/' then some '/' else (shortEscapes.map Prod.swap).lookup e

def hexUnit (ds : List Char) : Option ℕ :=
  (ds.mapM (Net.toDigit 16)).map fun vs => vs.foldl (fun n v => 16 * n + v) 0

/-- The parts of a text up to its closing quote. -/
def readPieces : Reader (List Piece)
  | [] => none
  | '"' :: cs => some ([], cs)
  | '\\' :: 'u' :: a :: b :: c :: d :: cs =>
    (hexUnit [a, b, c, d]).bind fun u => (readPieces cs).map (Prod.map (.unit u :: ·) id)
  | '\\' :: e :: cs => (unescape e).bind fun c => (readPieces cs).map (Prod.map (.char c :: ·) id)
  | c :: cs => if c.toNat < 32 then none else (readPieces cs).map (Prod.map (.char c :: ·) id)

/-- The characters of the parts.  Two units may form one character; half of such a pair stands for
no character and is replaced. -/
def joinPieces : List Piece → List Char
  | [] => []
  | .char c :: ps => c :: joinPieces ps
  | .unit u :: .unit v :: ps =>
    if 0xD800 ≤ u ∧ u < 0xDC00 ∧ 0xDC00 ≤ v ∧ v < 0xE000 then
      Char.ofNat (0x10000 + (u - 0xD800) * 0x400 + (v - 0xDC00)) :: joinPieces ps
    else unitChar u :: joinPieces (.unit v :: ps)
  | .unit u :: ps => unitChar u :: joinPieces ps
where
  unitChar (u : ℕ) : Char := if 0xD800 ≤ u ∧ u < 0xE000 then '�' else Char.ofNat u

def readString : Reader String := fun cs =>
  (readPieces cs).map (Prod.map (fun ps => String.ofList (joinPieces ps)) id)

def readDigits : Reader (List Char) := fun cs =>
  if (cs.takeWhile Char.isDigit).isEmpty then none
  else some (cs.takeWhile Char.isDigit, cs.dropWhile Char.isDigit)

def readFraction : Reader (List Char)
  | '.' :: cs => readDigits cs
  | cs => some ([], cs)

def readExponent : Reader ℤ
  | [] => some (0, [])
  | c :: cs =>
    if c = 'e' ∨ c = 'E' then
      match cs with
      | '-' :: cs => (readDigits cs).map (Prod.map (fun ds => -Nat.ofDigitChars 10 ds 0) id)
      | '+' :: cs => (readDigits cs).map (Prod.map (fun ds => Nat.ofDigitChars 10 ds 0) id)
      | cs => (readDigits cs).map (Prod.map (fun ds => Nat.ofDigitChars 10 ds 0) id)
    else some (0, c :: cs)

def readUnsigned (sign : ℤ) : Reader Value := fun cs =>
  (readDigits cs).bind fun (int, cs) =>
    if int.head? = some '0' ∧ int ≠ ['0'] then none
    else (readFraction cs).bind fun (frac, cs) => (readExponent cs).map fun (exp, cs) =>
      (.number (sign * Nat.ofDigitChars 10 (int ++ frac) 0) (exp - frac.length), cs)

def readNumber : Reader Value
  | '-' :: cs => readUnsigned (-1) cs
  | cs => readUnsigned 1 cs

def readLiteral (word : List Char) (v : Value) : Reader Value := fun cs =>
  if cs.take word.length = word then some (v, cs.drop word.length) else none

/-- Items with commas between them, up to a closing bracket. -/
def readList {α : Type} (item : Reader α) (close : Char) : ℕ → Reader (List α)
  | 0, _ => none
  | n + 1, cs => (item cs).bind fun (a, cs) =>
    match skipWs cs with
    | [] => none
    | c :: rest =>
      if c = close then some ([a], rest)
      else if c = ',' then (readList item close n rest).map (Prod.map (a :: ·) id)
      else none

def readItems {α : Type} (item : Reader α) (close : Char) : Reader (List α) := fun cs =>
  match skipWs cs with
  | [] => none
  | c :: rest => if c = close then some ([], rest) else readList item close cs.length cs

def readMember {α : Type} (value : Reader α) : Reader (String × α) := fun cs =>
  match skipWs cs with
  | '"' :: cs => (readString cs).bind fun (name, cs) =>
    match skipWs cs with
    | ':' :: cs => (value cs).map (Prod.map (name, ·) id)
    | _ => none
  | _ => none

def readValue : ℕ → Reader Value
  | 0, _ => none
  | depth + 1, cs =>
    match skipWs cs with
    | '"' :: cs => (readString cs).map (Prod.map .string id)
    | '[' :: cs => (readItems (readValue depth) ']' cs).map (Prod.map .array id)
    | '{' :: cs => (readItems (readMember (readValue depth)) '}' cs).map (Prod.map .object id)
    | 't' :: cs => readLiteral ['r', 'u', 'e'] (.bool true) cs
    | 'f' :: cs => readLiteral ['a', 'l', 's', 'e'] (.bool false) cs
    | 'n' :: cs => readLiteral ['u', 'l', 'l'] .null cs
    | cs => readNumber cs

def read (s : String) : Option Value :=
  (readValue (s.length + 1) s.toList).bind fun (v, rest) =>
    if (skipWs rest).isEmpty then some v else none

/-! ### Quoted texts -/

theorem skipWs_cons {c : Char} (h : isWs c = false) (cs : List Char) :
    skipWs (c :: cs) = c :: cs := by
  simp [skipWs, h]

theorem joinPieces_unit {c : Char} (h : c.toNat < 0xD800) (ps : List Piece) :
    joinPieces (.unit c.toNat :: ps) = c :: joinPieces ps := by
  have hc : joinPieces.unitChar c.toNat = c := by
    rw [joinPieces.unitChar, if_neg (by omega), Char.ofNat_toNat]
  rw [joinPieces.eq_def]
  split <;> simp_all

theorem readPieces_escape {c e : Char} (h : unescape e = some c) (cs : List Char) :
    readPieces ('\\' :: e :: cs) = (readPieces cs).map (Prod.map (.char c :: ·) id) := by
  have hu : e ≠ 'u' := by
    rintro rfl
    have hnone : unescape 'u' = none := by decide
    exact absurd (hnone.symm.trans h) nofun
  rw [readPieces.eq_4 _ _ fun _ _ _ _ _ he _ => hu he, h, bind_some]

theorem readPieces_plain {c : Char} (hquote : c ≠ '"') (hslash : c ≠ '\\') (cs : List Char) :
    readPieces (c :: cs) =
      if c.toNat < 32 then none else (readPieces cs).map (Prod.map (.char c :: ·) id) := by
  rw [readPieces.eq_def]
  split <;> simp_all

/-- A way of writing characters: each is escaped by one letter, by its number, or stands for
itself. -/
def IsEscaping (esc : Char → List Char) : Prop :=
  ∀ c, (∃ e, esc c = ['\\', e] ∧ unescape e = some c) ∨
    (∃ ds, hexUnit ds = some c.toNat ∧ ds.length = 4 ∧ c.toNat < 0xD800 ∧
      esc c = '\\' :: 'u' :: ds) ∨
    (esc c = [c] ∧ c ≠ '"' ∧ c ≠ '\\')

variable {esc : Char → List Char}

/-- Only a control character that stands for itself cannot be read back. -/
def Plain (esc : Char → List Char) (cs : List Char) : Prop :=
  ∀ c ∈ cs, esc c = [c] → 32 ≤ c.toNat

instance (cs : List Char) : Decidable (Plain esc cs) :=
  List.decidableBAll (fun c => esc c = [c] → 32 ≤ c.toNat) cs

theorem plain_cons {c : Char} {cs : List Char} :
    Plain esc (c :: cs) ↔ (esc c = [c] → 32 ≤ c.toNat) ∧ Plain esc cs := forall_mem_cons

theorem readPieces_flatMap (hesc : IsEscaping esc) (cs rest : List Char) :
    if Plain esc cs then
      ∃ ps, readPieces (cs.flatMap esc ++ '"' :: rest) = some (ps, rest) ∧ joinPieces ps = cs
    else readPieces (cs.flatMap esc ++ '"' :: rest) = none := by
  induction cs with
  | nil => exact ⟨[], rfl, rfl⟩
  | cons c cs ih =>
    -- what is read of the first character is put before what is read of the others
    have hcons : (esc c = [c] → 32 ≤ c.toNat) → ∀ p,
        readPieces (esc c ++ (cs.flatMap esc ++ '"' :: rest)) =
          (readPieces (cs.flatMap esc ++ '"' :: rest)).map (Prod.map (p :: ·) id) →
        (∀ ps, joinPieces (p :: ps) = c :: joinPieces ps) →
        if Plain esc (c :: cs) then ∃ ps, readPieces (esc c ++ (cs.flatMap esc ++ '"' :: rest)) =
            some (ps, rest) ∧ joinPieces ps = c :: cs
          else readPieces (esc c ++ (cs.flatMap esc ++ '"' :: rest)) = none := by
      intro hplain p hread hjoin
      rw [hread]
      by_cases hcs : Plain esc cs
      · rw [if_pos hcs] at ih
        obtain ⟨ps, hps, hjoined⟩ := ih
        rw [if_pos (plain_cons.2 ⟨hplain, hcs⟩), hps]
        exact ⟨p :: ps, rfl, by rw [hjoin, hjoined]⟩
      · rw [if_neg hcs] at ih
        rw [if_neg fun h => hcs (plain_cons.1 h).2, ih]
        rfl
    rw [flatMap_cons, append_assoc]
    rcases hesc c with ⟨e, hc, he⟩ | ⟨ds, hds, hlen, hlow, hc⟩ | ⟨hc, hquote, hslash⟩
    · refine hcons (by simp [hc]) (.char c) ?_ fun ps => rfl
      rw [hc, cons_append, cons_append, nil_append, readPieces_escape he]
    · refine hcons (by simp [hc]) (.unit c.toNat) ?_ (joinPieces_unit hlow)
      obtain ⟨a, b, x, y, rfl⟩ := length_eq_four.1 hlen
      simp only [hc, cons_append, nil_append, readPieces, hds, bind_some]
    · by_cases hlow : c.toNat < 32
      · rw [if_neg fun h => absurd ((plain_cons.1 h).1 hc) (by omega), hc, cons_append, nil_append,
          readPieces_plain hquote hslash, if_pos hlow]
      · refine hcons (fun _ => by omega) (.char c) ?_ fun ps => rfl
        rw [hc, cons_append, nil_append, readPieces_plain hquote hslash, if_neg hlow]

theorem readString_flatMap (hesc : IsEscaping esc) (s : String) (rest : List Char) :
    readString (s.toList.flatMap esc ++ '"' :: rest) =
      if Plain esc s.toList then some (s, rest) else none := by
  have hread := readPieces_flatMap hesc s.toList rest
  rw [readString]
  split at hread
  case isTrue hplain =>
    obtain ⟨ps, hps, hjoin⟩ := hread
    rw [hps, if_pos hplain]
    simp [hjoin]
  case isFalse hplain =>
    rw [hread, if_neg hplain]
    rfl

/-! ### Parts of a text -/

section Parts

variable {α β : Type}

/-- What a reader makes of a text, whatever comes after it. -/
def Reads (r : Reader α) (t : List Char) (a : Option α) : Prop :=
  ∀ rest, Ends rest → r (t ++ rest) = a.map (·, rest)

theorem reads_quoted (hesc : IsEscaping esc) (s : String) (depth : ℕ) :
    Reads (readValue (depth + 1)) ('"' :: (s.toList.flatMap esc ++ ['"']))
      (if Plain esc s.toList then some (.string s) else none) := by
  intro rest _
  have htext : '"' :: (s.toList.flatMap esc ++ ['"']) ++ rest =
      '"' :: (s.toList.flatMap esc ++ '"' :: rest) := by simp
  rw [htext, readValue, skipWs_cons rfl]
  show (readString _).map _ = _
  rw [readString_flatMap hesc]
  split <;> rfl

theorem ne_of_isDigit {d c : Char} (hd : d.isDigit = true) (hc : c.isDigit = false) : d ≠ c := by
  rintro rfl
  rw [hc] at hd
  cases hd

theorem isWs_of_isDigit {d : Char} (hd : d.isDigit = true) : isWs d = false := by
  simp [isWs, ne_of_isDigit hd]

theorem reads_number (n depth : ℕ) :
    Reads (readValue (depth + 1)) (number n) (some (.number n 0)) := by
  intro rest hrest
  have hnumber : number n = toDigits 10 n := by
    rw [number, toString_eq_repr, toList_repr]
  have hdigits : ∀ c ∈ number n, c.isDigit = true := fun c => Text.isDigit_of_mem_toString
  obtain ⟨htake, hdrop⟩ := Text.takeWhile_append_stop hdigits hrest.isDigit
  have hread : readDigits (number n ++ rest) = some (number n, rest) := by
    simp [readDigits, htake, hdrop, show number n ≠ [] from Text.toString_ne_empty n]
  have hafter : readFraction rest = some ([], rest) ∧ readExponent rest = some (0, rest) := by
    cases rest with
    | nil => exact ⟨rfl, rfl⟩
    | cons c rest => rcases hrest c rfl with rfl | rfl | rfl <;> exact ⟨rfl, rfl⟩
  have hzero : ¬((number n).head? = some '0' ∧ number n ≠ ['0']) := by
    rintro ⟨hhead, hne⟩
    rw [hnumber] at hhead
    rw [Net.eq_zero_of_head?_toDigits (by decide) (by decide) hhead] at hne
    exact hne rfl
  have hvalue : ofDigitChars 10 (number n) 0 = n := by
    simp [hnumber]
  have hunsigned : readUnsigned 1 (number n ++ rest) = some (.number n 0, rest) := by
    simp [readUnsigned, hread, hzero, hafter, hvalue]
  -- the first character of a number is a digit, so no other case of the reader applies
  obtain ⟨d, ds, hcons, hd⟩ := number_eq_cons n
  rw [hcons, cons_append] at hunsigned ⊢
  rw [readValue, skipWs_cons (isWs_of_isDigit hd)]
  split
  any_goals exact absurd (cons.inj ‹_ :: _ = _ :: _›).1 (ne_of_isDigit hd rfl)
  rwa [readNumber.eq_2 _ fun cs h => ne_of_isDigit hd (c := '-') rfl (cons.inj h).1]

theorem reads_member {value : Reader α} {t : List Char} {v : Option α} (hvalue : Reads value t v)
    (hesc : IsEscaping esc) {name : String} (hname : Plain esc name.toList) :
    Reads (readMember value) ('"' :: (name.toList.flatMap esc ++ '"' :: ':' :: t))
      (v.map (name, ·)) := by
  intro rest hrest
  have hread := readString_flatMap hesc name (':' :: (t ++ rest))
  rw [if_pos hname] at hread
  simp only [cons_append, append_assoc, readMember]
  rw [skipWs_cons rfl]
  simp only [hread, bind_some, skipWs_cons (c := ':') rfl, hvalue rest hrest]
  cases v <;> rfl

theorem ends_cons {c : Char} (h : c = ',' ∨ c = ']' ∨ c = '}') (rest : List Char) :
    Ends (c :: rest) := by
  simpa [Ends] using h

variable {item : Reader α} {close : Char} {text : β → List Char} {val : β → Option α}

theorem readList_commas (hclose : close = ']' ∨ close = '}') {n : ℕ} {b : β} {bs : List β}
    (hitems : ∀ b' ∈ b :: bs, Reads item (text b') (val b')) (hn : bs.length < n)
    (rest : List Char) :
    readList item close n (text b ++ bs.flatMap (fun b => ',' :: text b) ++ close :: rest) =
      ((b :: bs).mapM val).map (·, rest) := by
  have hws : isWs close = false := by rcases hclose with rfl | rfl <;> rfl
  have hcomma : close ≠ ',' := by rcases hclose with rfl | rfl <;> decide
  induction bs generalizing n b with
  | nil =>
    obtain ⟨n, rfl⟩ := exists_eq_add_one.2 hn
    rw [flatMap_nil, append_nil, readList, hitems b mem_cons_self _ (ends_cons (.inr hclose) rest)]
    cases hb : val b with
    | none => simp [hb]
    | some a => simp [hb, skipWs_cons hws]
  | cons b' bs ih =>
    obtain ⟨n, rfl⟩ := exists_eq_add_one.2 (zero_lt_of_lt hn)
    have hrest := ih (forall_mem_of_forall_mem_cons hitems) (lt_of_succ_lt_succ hn)
    rw [flatMap_cons, append_assoc, append_assoc, readList, cons_append,
      hitems b mem_cons_self _ (ends_cons (.inl rfl) _), mapM_cons]
    cases hb : val b with
    | none => rfl
    | some a =>
      have hne : ',' ≠ close := hcomma.symm
      simp only [map_some, bind_some, skipWs_cons (c := ',') rfl, if_neg hne, if_true]
      rw [← append_assoc, hrest]
      cases (b' :: bs).mapM val <;> rfl

theorem reads_items (hclose : close = ']' ∨ close = '}') {bs : List β}
    (hitems : ∀ b ∈ bs, Reads item (text b) (val b))
    (hstart : ∀ b ∈ bs, ∃ c cs, text b = c :: cs ∧ isWs c = false ∧ c ≠ close)
    (rest : List Char) :
    readItems item close (commas (bs.map text) ++ close :: rest) = (bs.mapM val).map (·, rest) := by
  have hws : isWs close = false := by rcases hclose with rfl | rfl <;> rfl
  cases bs with
  | nil => simp [readItems, commas, skipWs_cons hws]
  | cons b bs =>
    obtain ⟨c, cs, htext, hc, hne⟩ := hstart b mem_cons_self
    rw [map_cons, commas, flatMap_map, readItems]
    have hskip : skipWs (text b ++ bs.flatMap (fun b => ',' :: text b) ++ close :: rest) =
        c :: (cs ++ bs.flatMap (fun b => ',' :: text b) ++ close :: rest) := by
      rw [htext, cons_append, cons_append, skipWs_cons hc]
    rw [hskip]
    simp only [if_neg hne]
    refine readList_commas hclose hitems ?_ rest
    have hlen : bs.length ≤ (bs.flatMap fun b => ',' :: text b).length := by
      rw [length_flatMap]
      refine (length_map (f := fun b => (',' :: text b).length)).symm.trans_le ?_
      exact length_le_sum_of_one_le _ (by simp)
    simp only [length_append, length_cons]
    omega

end Parts

section Brackets

variable {β : Type} {text : β → List Char} {bs : List β} {depth : ℕ}

theorem reads_array {val : β → Option Value}
    (hitems : ∀ b ∈ bs, Reads (readValue depth) (text b) (val b))
    (hstart : ∀ b ∈ bs, ∃ c cs, text b = c :: cs ∧ isWs c = false ∧ c ≠ ']') :
    Reads (readValue (depth + 1)) (array (bs.map text)) ((bs.mapM val).map .array) := by
  intro rest _
  have htext : array (bs.map text) ++ rest = '[' :: (commas (bs.map text) ++ ']' :: rest) := by
    simp [array]
  rw [htext, readValue, skipWs_cons rfl]
  show (readItems _ _ _).map _ = _
  rw [reads_items (.inl rfl) hitems hstart]
  cases bs.mapM val <;> rfl

theorem reads_object {val : β → Option (String × Value)}
    (hitems : ∀ b ∈ bs, Reads (readMember (readValue depth)) (text b) (val b))
    (hstart : ∀ b ∈ bs, (text b).head? = some '"') :
    Reads (readValue (depth + 1)) ('{' :: (commas (bs.map text) ++ ['}']))
      ((bs.mapM val).map .object) := by
  intro rest _
  have htext : '{' :: (commas (bs.map text) ++ ['}']) ++ rest =
      '{' :: (commas (bs.map text) ++ '}' :: rest) := by simp
  have hquote : ∀ b ∈ bs, ∃ c cs, text b = c :: cs ∧ isWs c = false ∧ c ≠ '}' := by
    intro b hb
    obtain ⟨cs, hcs⟩ := head?_eq_some_iff.1 (hstart b hb)
    exact ⟨_, cs, hcs, rfl, by decide⟩
  rw [htext, readValue, skipWs_cons rfl]
  show (readItems _ _ _).map _ = _
  rw [reads_items (.inr rfl) hitems hquote]
  cases bs.mapM val <;> rfl

end Brackets

theorem mapM_some {α β : Type} (f : α → β) (l : List α) :
    (l.mapM fun a => some (f a)) = some (l.map f) := mapM_pure

theorem mapM_ite {α β : Type} {p : α → Prop} [DecidablePred p] (f : α → β) (l : List α) :
    (l.mapM fun a => if p a then some (f a) else none) =
      if ∀ a ∈ l, p a then some (l.map f) else none := by
  induction l with
  | nil => simp
  | cons a l ih =>
    rw [mapM_cons, ih]
    by_cases ha : p a
    · simp only [ha, if_true, forall_mem_cons, true_and]
      split <;> rfl
    · simp [ha]

theorem read_ofList {t : List Char} {v : Option Value}
    (h : Reads (readValue (t.length + 1)) t v) : read (String.ofList t) = v := by
  have ht := h [] (by simp [Ends])
  rw [append_nil] at ht
  rw [read, String.length_ofList, String.toList_ofList, ht]
  cases v <;> rfl

/-! ### The texts of the writer -/

theorem isEscaping_escapeChar : IsEscaping escapeChar := by
  have hshort : ∀ p ∈ shortEscapes, unescape p.2 = some p.1 := by decide
  have hhex : ∀ n < 32, hexUnit ['0', '0', digitChar (n / 16), digitChar (n % 16)] = some n := by
    decide
  intro c
  rcases escapeChar_cases c with ⟨e, he, hc⟩ | ⟨hlow, hc⟩ | ⟨hslash, hquote, hc⟩
  · exact .inl ⟨e, hc, hshort _ he⟩
  · exact .inr (.inl ⟨_, hhex _ hlow, rfl, by omega, hc⟩)
  · exact .inr (.inr ⟨hc, hquote, hslash⟩)

theorem plain_escapeChar (cs : List Char) : Plain escapeChar cs := by
  intro c _ hc
  rw [escapeChar] at hc
  split at hc
  · cases hc
  · split at hc
    · cases hc
    · omega

theorem reads_quote (s : String) (depth : ℕ) :
    Reads (readValue (depth + 1)) (quote s) (some (.string s)) := by
  have hread := reads_quoted isEscaping_escapeChar s depth
  rwa [if_pos (plain_escapeChar _)] at hread

@[simp] theorem quote_inj {a b : String} : quote a = quote b ↔ a = b := by
  constructor
  · intro h
    have ha := reads_quote a 0 [] nofun
    rw [h, reads_quote b 0 [] nofun] at ha
    simpa using ha.symm
  · rintro rfl
    rfl

theorem reads_writtenMember {α : Type} {value : Reader α} {m : String × List Char} {v : α}
    (hvalue : Reads value m.2 (some v)) : Reads (readMember value) (member m) (some (m.1, v)) := by
  have hread := reads_member hvalue isEscaping_escapeChar (plain_escapeChar m.1.toList)
  simpa [member, quote] using hread

theorem IsJson.start {t : List Char} (h : IsJson t) {close : Char}
    (hclose : close = ']' ∨ close = '}') : ∃ c cs, t = c :: cs ∧ isWs c = false ∧ c ≠ close := by
  cases h with
  | quote _ | array _ | object _ =>
    exact ⟨_, _, rfl, rfl, by rcases hclose with rfl | rfl <;> decide⟩
  | number n =>
    obtain ⟨d, ds, hcons, hd⟩ := number_eq_cons n
    exact ⟨d, ds, hcons, isWs_of_isDigit hd,
      ne_of_isDigit hd (by rcases hclose with rfl | rfl <;> rfl)⟩

theorem length_le_commas {ts : List (List Char)} {t : List Char} (h : t ∈ ts) :
    t.length ≤ (commas ts).length := by
  cases ts with
  | nil => cases h
  | cons u ts =>
    rw [commas, length_append]
    rcases mem_cons.1 h with rfl | h
    · omega
    · obtain ⟨before, after, rfl⟩ := append_of_mem h
      simp only [flatMap_append, flatMap_cons, length_append, length_cons]
      omega

theorem length_lt_array {ts : List (List Char)} {t : List Char} (h : t ∈ ts) :
    t.length < (array ts).length := by
  have hle := length_le_commas h
  simp only [array, length_cons, length_append]
  omega

theorem length_lt_object {ms : List (String × List Char)} {m : String × List Char} (h : m ∈ ms) :
    m.2.length < (object ms).length := by
  have hle := length_le_commas (mem_map_of_mem (f := member) h)
  simp only [member, object, length_cons, length_append] at hle ⊢
  omega

/-- **The reader reads every text of the writer.** -/
theorem IsJson.reads {t : List Char} (h : IsJson t) {depth : ℕ} (hdepth : t.length < depth) :
    ∃ v, Reads (readValue depth) t (some v) := by
  induction h generalizing depth with
  | quote s =>
    obtain ⟨depth, rfl⟩ := exists_eq_add_one.2 (zero_lt_of_lt hdepth)
    exact ⟨_, reads_quote s depth⟩
  | number n =>
    obtain ⟨depth, rfl⟩ := exists_eq_add_one.2 (zero_lt_of_lt hdepth)
    exact ⟨_, reads_number n depth⟩
  | array hts ih =>
    obtain ⟨depth, rfl⟩ := exists_eq_add_one.2 (zero_lt_of_lt hdepth)
    choose! v hv using fun t ht => @ih t ht depth (by have := length_lt_array ht; omega)
    have hread := @reads_array _ id _ depth _ hv fun t ht => (hts t ht).start (.inl rfl)
    rw [List.map_id, mapM_some] at hread
    exact ⟨_, hread⟩
  | object hms ih =>
    obtain ⟨depth, rfl⟩ := exists_eq_add_one.2 (zero_lt_of_lt hdepth)
    choose! v hv using fun m hm => @ih m hm depth (by have := length_lt_object hm; omega)
    have hread := @reads_object _ member _ depth _ (fun m hm => reads_writtenMember (hv m hm))
      fun m _ => rfl
    rw [mapM_some] at hread
    exact ⟨_, hread⟩

/-- A reader that gives the text it has read instead of its value. -/
def spanned {α : Type} (r : Reader α) : Reader (List Char) := fun cs =>
  (r cs).map fun p => (cs.take (cs.length - p.2.length), p.2)

theorem Reads.spanned {α : Type} {r : Reader α} {t : List Char} {a : α} (h : Reads r t (some a)) :
    Reads (spanned r) t (some t) := by
  intro rest hrest
  simp [JsonText.spanned, h rest hrest]

theorem IsJson.reads_spanned {t : List Char} (h : IsJson t) {depth : ℕ}
    (hdepth : t.length < depth) :
    Reads (spanned (readValue depth)) t (some t) := by
  obtain ⟨v, hv⟩ := h.reads hdepth
  exact hv.spanned

theorem array_inj {ts us : List (List Char)} (hts : ∀ t ∈ ts, IsJson t) (hus : ∀ u ∈ us, IsJson u)
    (h : array ts = array us) : ts = us := by
  have hread : ∀ vs, (∀ t ∈ vs, IsJson t) → array vs = array ts →
      readItems (spanned (readValue (array ts).length)) ']' ((array ts).drop 1) =
        some (vs, []) := by
    intro vs hvs heq
    have hitems := @reads_items _ _ _ ']' id _ (.inl rfl) _ (fun t ht =>
      (hvs t ht).reads_spanned (heq ▸ length_lt_array ht))
      (fun t ht => (hvs t ht).start (.inl rfl)) []
    rw [List.map_id, mapM_some, List.map_id_fun'] at hitems
    rwa [show (array ts).drop 1 = commas vs ++ [']'] by rw [← heq]; rfl]
  simpa using (hread ts hts rfl).symm.trans (hread us hus h.symm)

theorem object_inj {ms ns : List (String × List Char)} (hms : ∀ m ∈ ms, IsJson m.2)
    (hns : ∀ n ∈ ns, IsJson n.2) (h : object ms = object ns) : ms = ns := by
  have hread : ∀ ks, (∀ k ∈ ks, IsJson k.2) → object ks = object ms →
      readItems (readMember (spanned (readValue (object ms).length))) '}' ((object ms).drop 1) =
        some (ks, []) := by
    intro ks hks heq
    have hitems := @reads_items _ _ _ '}' member _ (.inr rfl) _ (fun k hk =>
      reads_writtenMember ((hks k hk).reads_spanned (heq ▸ length_lt_object hk)))
      (fun k _ => ⟨_, _, rfl, rfl, by decide⟩) []
    rw [mapM_some, List.map_id_fun'] at hitems
    rwa [show (object ms).drop 1 = commas (ks.map member) ++ ['}'] by rw [← heq]; rfl]
  simpa using (hread ms hms rfl).symm.trans (hread ns hns h.symm)

theorem array_map_injective {α : Type} {f : α → List Char} (hjson : ∀ a, IsJson (f a))
    (hf : Function.Injective f) : Function.Injective fun l : List α => array (l.map f) := by
  intro l l' h
  exact map_injective_iff.2 hf <|
    array_inj (forall_mem_map.2 fun a _ => hjson a) (forall_mem_map.2 fun a _ => hjson a) h

theorem texts_inj {l l' : List (String × String)}
    (h : object (l.map fun e => (e.1, quote e.2)) = object (l'.map fun e => (e.1, quote e.2))) :
    l = l' := by
  have hpairs : Function.Injective fun e : String × String => (e.1, quote e.2) := by
    intro a b hab
    simpa [Prod.ext_iff] using hab
  exact map_injective_iff.2 hpairs <|
    object_inj (forall_mem_map.2 fun e _ => .quote e.2) (forall_mem_map.2 fun e _ => .quote e.2) h

example : (read " [1, -2.50e+3, \"\\u00e9\\ud83d\\ude00\", true, \x7b\"a\": null\x7d] ").isSome :=
  by decide +kernel
example : (read "[01]").isNone ∧ (read "\"\t\"").isNone ∧ (read "[1,]").isNone := by
  decide +kernel

end JsonText
