/-
**The reader of the server name, operation by operation.**

With checked operations and a number of turns the reader is the one of `Wicket.Sni`: nothing
overflows, no index is outside, and a third of the length of the buffer is enough turns.
-/

import Wicket.Checked
import Wicket.SniSpans

namespace Wicket

open List Bytes SniLayout

open Bytes (slice)
open Checked (UsizeWidth Run ofOption ofOption_bind value_bind add_value index_value range_value)

structure Slice (w : UsizeWidth) where
  bytes : List UInt8
  length_lt : bytes.length < 2 ^ (w.bits - 1)

theorem Slice.room {w : UsizeWidth} (buf : Slice w) : buf.bytes.length + 2147483648 ≤ w.limit := by
  have hlt := buf.length_lt
  cases w with
  | w32 =>
    simp only [UsizeWidth.limit, UsizeWidth.bits] at hlt ⊢
    omega
  | w64 =>
    simp only [UsizeWidth.limit, UsizeWidth.bits] at hlt ⊢
    omega

/-! ### The reader -/

namespace Machine

def readU8 (limit : ℕ) (buf : List UInt8) (pos : ℕ) : Run (ℕ × ℕ) := do
  if buf.length ≤ pos then .early
  else
    let val ← Checked.index buf pos
    let next ← Checked.add limit pos 1
    pure (val.toNat, next)

def readU16 (limit : ℕ) (buf : List UInt8) (pos : ℕ) : Run (ℕ × ℕ) := do
  let stop ← Checked.add limit pos 2
  if buf.length < stop then .early
  else
    let b₀ ← Checked.index buf pos
    let i₁ ← Checked.add limit pos 1
    let b₁ ← Checked.index buf i₁
    let next ← Checked.add limit pos 2
    pure (b₀.toNat * 256 + b₁.toNat, next)

def readU24 (limit : ℕ) (buf : List UInt8) (pos : ℕ) : Run (ℕ × ℕ) := do
  let stop ← Checked.add limit pos 3
  if buf.length < stop then .early
  else
    let b₀ ← Checked.index buf pos
    let i₁ ← Checked.add limit pos 1
    let b₁ ← Checked.index buf i₁
    let i₂ ← Checked.add limit pos 2
    let b₂ ← Checked.index buf i₂
    let next ← Checked.add limit pos 3
    pure ((b₀.toNat * 256 + b₁.toNat) * 256 + b₂.toNat, next)

def skip (limit : ℕ) (buf : List UInt8) (pos n : ℕ) : Run ℕ := do
  let stop ← Checked.add limit pos n
  if buf.length < stop then .early
  else
    let next ← Checked.add limit pos n
    pure next

def serverNameLoop (limit : ℕ) (buf : List UInt8) (listEnd : ℕ) : ℕ → ℕ → Run String
  | 0, pos => if pos < listEnd then .stopped .outOfTurns else .early
  | turns + 1, pos => do
    if pos < listEnd then
      let (nameType, pos) ← readU8 limit buf pos
      let (nameLen, nameStart) ← readU16 limit buf pos
      if nameType = nameTypeHostname then
        if maxHostnameLen < nameLen then .early
        else
          let nameEnd ← Checked.add limit nameStart nameLen
          if buf.length < nameEnd then .early
          else
            let hostname ← Checked.range buf nameStart nameEnd
            ofOption (fromUtf8 hostname)
      else
        let pos ← skip limit buf nameStart nameLen
        serverNameLoop limit buf listEnd turns pos
    else .early

def extensionLoop (limit : ℕ) (buf : List UInt8) (extensionsEnd : ℕ) : ℕ → ℕ → Run String
  | 0, pos => if pos < extensionsEnd then .stopped .outOfTurns else .early
  | turns + 1, pos => do
    if pos < extensionsEnd then
      let (extType, pos) ← readU16 limit buf pos
      let (extLen, extStart) ← readU16 limit buf pos
      if extType = extServerName then
        let (listLen, pos) ← readU16 limit buf extStart
        let listEnd ← Checked.add limit pos listLen
        serverNameLoop limit buf listEnd turns pos
      else
        let pos ← Checked.add limit extStart extLen
        extensionLoop limit buf extensionsEnd turns pos
    else .early

/-- The part of `extract_sni` that goes over the fields of the ClientHello. -/
def extractFromHello (limit : ℕ) (buf : List UInt8) (turns handshakeStart handshakeLen : ℕ) :
    Run String := do
  let pos ← skip limit buf handshakeStart 2
  let pos ← skip limit buf pos 32
  let (sessionIdLen, pos) ← readU8 limit buf pos
  let pos ← skip limit buf pos sessionIdLen
  let (cipherSuitesLen, pos) ← readU16 limit buf pos
  let pos ← skip limit buf pos cipherSuitesLen
  let (compressionLen, pos) ← readU8 limit buf pos
  let pos ← skip limit buf pos compressionLen
  let handshakeEnd ← Checked.add limit handshakeStart handshakeLen
  if handshakeEnd ≤ pos then .early
  else
    let (extensionsLen, pos) ← readU16 limit buf pos
    let extensionsEnd ← Checked.add limit pos extensionsLen
    extensionLoop limit buf extensionsEnd turns pos

def extractFromHandshake (limit : ℕ) (buf : List UInt8) (turns pos : ℕ) : Run String := do
  let (handshakeType, pos) ← readU8 limit buf pos
  if handshakeType ≠ handshakeClientHello then .early
  else
    let (handshakeLen, handshakeStart) ← readU24 limit buf pos
    let handshakeEnd ← Checked.add limit handshakeStart handshakeLen
    if buf.length < handshakeEnd then .early
    else extractFromHello limit buf turns handshakeStart handshakeLen

/-- `extract_sni` with checked operations; its loops take at most `turns` turns together. -/
def extractSni (limit : ℕ) (buf : List UInt8) (turns : ℕ) : Run String := do
  let (contentType, pos) ← readU8 limit buf 0
  if contentType ≠ tlsHandshake then .early
  else
    let pos ← skip limit buf pos 2
    let (recordLen, pos) ← readU16 limit buf pos
    let recordEnd ← Checked.add limit pos recordLen
    if buf.length < recordEnd then .early
    else extractFromHandshake limit buf turns pos

/-! ### Single operations -/

section Operations

variable {limit pos : ℕ} {buf : List UInt8}

theorem take_two {i : ℕ} (h : i + 1 < buf.length) :
    (buf.drop i).take 2 = [buf.get ⟨i, by omega⟩, buf.get ⟨i + 1, h⟩] := by
  rw [drop_eq_getElem_cons (by omega), take_succ_cons,
    drop_eq_getElem_cons (by omega), take_succ_cons, take_zero]
  rfl

theorem take_three {i : ℕ} (h : i + 2 < buf.length) :
    (buf.drop i).take 3 =
      [buf.get ⟨i, by omega⟩, buf.get ⟨i + 1, by omega⟩, buf.get ⟨i + 2, h⟩] := by
  rw [drop_eq_getElem_cons (by omega), take_succ_cons, take_two (by omega)]
  rfl

theorem readU8_eq (h : pos + 1 < limit) :
    readU8 limit buf pos = ofOption (Wicket.readU8 buf pos) := by
  unfold readU8 Wicket.readU8 readBe
  by_cases hlen : buf.length ≤ pos
  · rw [if_pos hlen, if_pos (by omega)]
    rfl
  · have htake : (buf.drop pos).take 1 = [buf.get ⟨pos, by omega⟩] := by
      rw [drop_eq_getElem_cons (by omega), take_succ_cons, take_zero]
      rfl
    have hnat : beNat [buf.get ⟨pos, by omega⟩] = (buf.get ⟨pos, by omega⟩).toNat :=
      Nat.zero_add _
    rw [if_neg hlen, if_neg (by omega), index_value (by omega), value_bind, add_value h, value_bind,
      htake, hnat]
    rfl

theorem readU16_eq (h : pos + 2 < limit) :
    readU16 limit buf pos = ofOption (Wicket.readU16 buf pos) := by
  unfold readU16 Wicket.readU16 readBe
  rw [add_value h, value_bind]
  by_cases hlen : buf.length < pos + 2
  · rw [if_pos hlen, if_pos hlen]
    rfl
  · have hnat : beNat [buf.get ⟨pos, by omega⟩, buf.get ⟨pos + 1, by omega⟩] =
        (buf.get ⟨pos, by omega⟩).toNat * 256 + (buf.get ⟨pos + 1, by omega⟩).toNat := by
      rw [beNat, foldl_cons, foldl_cons, foldl_nil, Nat.zero_mul, Nat.zero_add]
    rw [if_neg hlen, if_neg hlen, index_value (by omega), value_bind, add_value (by omega),
      value_bind, index_value (by omega), value_bind, value_bind, take_two (by omega), hnat]
    rfl

theorem readU24_eq (h : pos + 3 < limit) :
    readU24 limit buf pos = ofOption (Wicket.readU24 buf pos) := by
  unfold readU24 Wicket.readU24 readBe
  rw [add_value h, value_bind]
  by_cases hlen : buf.length < pos + 3
  · rw [if_pos hlen, if_pos hlen]
    rfl
  · have hnat : beNat [buf.get ⟨pos, by omega⟩, buf.get ⟨pos + 1, by omega⟩,
        buf.get ⟨pos + 2, by omega⟩] =
        ((buf.get ⟨pos, by omega⟩).toNat * 256 + (buf.get ⟨pos + 1, by omega⟩).toNat) * 256 +
          (buf.get ⟨pos + 2, by omega⟩).toNat := by
      rw [beNat, foldl_cons, foldl_cons, foldl_cons, foldl_nil, Nat.zero_mul, Nat.zero_add]
    rw [if_neg hlen, if_neg hlen, index_value (by omega), value_bind, add_value (by omega),
      value_bind, index_value (by omega), value_bind, add_value (by omega), value_bind,
      index_value (by omega), value_bind, value_bind, take_three (by omega), hnat]
    rfl

theorem skip_eq {n : ℕ} (h : pos + n < limit) :
    skip limit buf pos n = ofOption (Bytes.skip buf pos n) := by
  unfold skip Bytes.skip
  rw [add_value h, value_bind]
  by_cases hlen : buf.length < pos + n
  · rw [if_pos hlen, if_pos hlen]
    rfl
  · rw [if_neg hlen, if_neg hlen]
    rfl

end Operations

/-! ### The loops -/

section Loops

variable {limit : ℕ} {buf : List UInt8}

theorem serverNameLoop_eq (hroom : buf.length + 2147483648 ≤ limit) {listEnd turns pos : ℕ}
    (hpos : pos ≤ buf.length) (hturns : buf.length - pos + 3 ≤ 3 * turns) :
    serverNameLoop limit buf listEnd turns pos =
      ofOption (Wicket.serverNameLoop buf listEnd pos) := by
  induction turns generalizing pos with
  | zero => omega
  | succ turns ih =>
    rw [Machine.serverNameLoop, Wicket.serverNameLoop]
    by_cases hlt : pos < listEnd
    · rw [if_pos hlt, walkNames_step hlt, readU8_eq (by omega)]
      refine ofOption_bind ?_
      rintro ⟨nameType, pos₁⟩ htype
      have hpos₁ := readBe_pos htype
      simp only
      rw [readU16_eq (by omega)]
      refine ofOption_bind ?_
      rintro ⟨nameLen, pos₂⟩ hlen
      obtain ⟨hle₂, hsize⟩ := readBe_le hlen
      have hpos₂ := readBe_pos hlen
      by_cases hhost : nameType = nameTypeHostname
      · rw [if_pos hhost, if_pos hhost]
        by_cases hlong : maxHostnameLen < nameLen
        · rw [if_pos hlong, if_pos hlong]
          rfl
        · rw [if_neg hlong, if_neg hlong, add_value (by omega), value_bind]
          by_cases hcut : buf.length < pos₂ + nameLen
          · rw [if_pos hcut, if_pos hcut]
            rfl
          · rw [if_neg hcut, if_neg hcut, range_value (by omega) (by omega), value_bind]
            rfl
      · rw [if_neg hhost, if_neg hhost, skip_eq (by omega)]
        refine ofOption_bind ?_
        intro pos₃ hskip
        have hle₃ := skip_le hskip
        have hpos₃ := skip_pos hskip
        rw [ih hle₃ (by omega), Wicket.serverNameLoop]
    · rw [if_neg hlt, walkNames, if_neg hlt]
      rfl

theorem extensionLoop_eq (hroom : buf.length + 2147483648 ≤ limit) {extensionsEnd turns pos : ℕ}
    (hpos : pos < buf.length + 65536) (hturns : buf.length - pos + 3 ≤ 3 * turns) :
    extensionLoop limit buf extensionsEnd turns pos =
      ofOption (Wicket.extensionLoop buf extensionsEnd pos) := by
  induction turns generalizing pos with
  | zero => omega
  | succ turns ih =>
    rw [Machine.extensionLoop, Wicket.extensionLoop]
    by_cases hlt : pos < extensionsEnd
    · rw [if_pos hlt, walkExtensions_step hlt, readU16_eq (by omega)]
      refine ofOption_bind ?_
      rintro ⟨extType, pos₁⟩ htype
      have hpos₁ := readBe_pos htype
      simp only
      rw [readU16_eq (by omega)]
      refine ofOption_bind ?_
      rintro ⟨extLen, extStart⟩ hlen
      obtain ⟨hle₂, hsize⟩ := readBe_le hlen
      have hpos₂ := readBe_pos hlen
      by_cases hname : extType = extServerName
      · rw [if_pos hname, if_pos hname, readU16_eq (by omega)]
        refine ofOption_bind ?_
        rintro ⟨listLen, pos₃⟩ hlist
        obtain ⟨hle₃, hlistLen⟩ := readBe_le hlist
        have hpos₃ := readBe_pos hlist
        rw [add_value (by omega), value_bind, serverNameLoop_eq hroom hle₃ (by omega)]
      · rw [if_neg hname, if_neg hname, add_value (by omega), value_bind,
          ih (by omega) (by omega), Wicket.extensionLoop]
    · rw [if_neg hlt, walkExtensions, if_neg hlt]
      rfl

end Loops

/-! ### The whole reader -/

section Whole

variable {limit : ℕ} {buf : List UInt8}

theorem extractFromHello_eq (hroom : buf.length + 2147483648 ≤ limit)
    {turns handshakeStart handshakeLen : ℕ} (hpos : handshakeStart ≤ buf.length)
    (hlen : handshakeLen < 16777216) (hturns : buf.length / 3 ≤ turns) :
    extractFromHello limit buf turns handshakeStart handshakeLen =
      ofOption (walkFields buf (extractFromExtensions buf) (handshakeStart + handshakeLen)
        handshakeStart) := by
  rw [extractFromHello, skip_eq (by omega)]
  refine ofOption_bind ?_
  intro pos₁ h₁
  have hle₁ := skip_le h₁
  rw [skip_eq (by omega)]
  refine ofOption_bind ?_
  intro pos₂ h₂
  have hle₂ := skip_le h₂
  rw [readU8_eq (by omega)]
  refine ofOption_bind ?_
  rintro ⟨sessionIdLen, pos₃⟩ h₃
  obtain ⟨hle₃, hsession⟩ := readBe_le h₃
  simp only
  rw [skip_eq (by omega)]
  refine ofOption_bind ?_
  intro pos₄ h₄
  have hle₄ := skip_le h₄
  rw [readU16_eq (by omega)]
  refine ofOption_bind ?_
  rintro ⟨cipherSuitesLen, pos₅⟩ h₅
  obtain ⟨hle₅, hciphers⟩ := readBe_le h₅
  have hpos₅ := readBe_pos h₅
  rw [skip_eq (by omega)]
  refine ofOption_bind ?_
  intro pos₆ h₆
  have hpos₆ := skip_pos h₆
  rw [readU8_eq (by omega)]
  refine ofOption_bind ?_
  rintro ⟨compressionLen, pos₇⟩ h₇
  obtain ⟨hle₇, hmethods⟩ := readBe_le h₇
  have hpos₇ := readBe_pos h₇
  rw [skip_eq (by omega)]
  refine ofOption_bind ?_
  intro pos₈ h₈
  have hpos₈ := skip_pos h₈
  rw [add_value (by omega), value_bind]
  by_cases hend : handshakeStart + handshakeLen ≤ pos₈
  · rw [if_pos hend, if_pos hend]
    rfl
  · rw [if_neg hend, if_neg hend, readU16_eq (by omega)]
    refine ofOption_bind ?_
    rintro ⟨extensionsLen, pos⟩ h
    obtain ⟨hle, hextensions⟩ := readBe_le h
    have hpos' := readBe_pos h
    rw [add_value (by omega), value_bind, extensionLoop_eq hroom (by omega) (by omega)]

theorem extractFromHandshake_eq (hroom : buf.length + 2147483648 ≤ limit) {turns pos : ℕ}
    (hpos : pos ≤ buf.length) (hturns : buf.length / 3 ≤ turns) :
    extractFromHandshake limit buf turns pos =
      ofOption (walkHandshake buf (fun _ => extractFromExtensions buf) pos) := by
  rw [extractFromHandshake, readU8_eq (by omega)]
  refine ofOption_bind ?_
  rintro ⟨handshakeType, pos₁⟩ h₁
  obtain ⟨hle₁, -⟩ := readBe_le h₁
  simp only
  by_cases htype : handshakeType ≠ handshakeClientHello
  · rw [if_pos htype, if_pos htype]
    rfl
  · rw [if_neg htype, if_neg htype, readU24_eq (by omega)]
    refine ofOption_bind ?_
    rintro ⟨handshakeLen, pos₂⟩ h₂
    obtain ⟨hle₂, hlen⟩ := readBe_le h₂
    rw [add_value (by omega), value_bind]
    by_cases hcut : buf.length < pos₂ + handshakeLen
    · rw [if_pos hcut, if_pos hcut]
      rfl
    · rw [if_neg hcut, if_neg hcut, extractFromHello_eq hroom hle₂ hlen hturns]

theorem extractSni_eq (hroom : buf.length + 2147483648 ≤ limit) {turns : ℕ}
    (hturns : buf.length / 3 ≤ turns) :
    extractSni limit buf turns = ofOption (Wicket.extractSni buf) := by
  rw [extractSni, readU8_eq (by omega)]
  refine ofOption_bind ?_
  rintro ⟨contentType, pos₁⟩ h₁
  obtain ⟨hle₁, -⟩ := readBe_le h₁
  simp only
  by_cases htype : contentType ≠ tlsHandshake
  · rw [if_pos htype, if_pos htype]
    rfl
  · rw [if_neg htype, if_neg htype, skip_eq (by omega)]
    refine ofOption_bind ?_
    intro pos₂ h₂
    have hle₂ := skip_le h₂
    rw [readU16_eq (by omega)]
    refine ofOption_bind ?_
    rintro ⟨recordLen, pos₃⟩ h₃
    obtain ⟨hle₃, hlen⟩ := readBe_le h₃
    rw [add_value (by omega), value_bind]
    by_cases hcut : buf.length < pos₃ + recordLen
    · rw [if_pos hcut, if_pos hcut]
      rfl
    · rw [if_neg hcut, if_neg hcut, extractFromHandshake_eq hroom hle₃ hturns]

end Whole

end Machine

/-! ### More bytes -/

theorem extractSni_append {buf : List UInt8} {name : String} (h : extractSni buf = some name)
    (more : List UInt8) : extractSni (buf ++ more) = some name := by
  obtain ⟨l, hreadable, rfl, rfl⟩ := extractSni_eq_some_iff.1 h
  let l' : SniLayout := { l with rest := l.rest ++ more }
  have hbytes : l'.bytes = l.bytes ++ more := by
    simp [l', bytes, extensionBytes, entryBytes, HelloHead.bytes]
  have hlen : l'.bytes.length = l.bytes.length + more.length := by
    rw [hbytes, length_append]
  obtain ⟨hname, hext, hextensions, hhandshake, hrecord⟩ := hreadable
  have hreadable' : l'.Readable := by
    refine ⟨hname, hext, hextensions, ?_, ?_⟩
    · rw [hlen]
      exact Nat.le_trans hhandshake (Nat.le_add_right ..)
    · rw [hlen]
      exact Nat.le_trans hrecord (Nat.le_add_right ..)
  rw [← hbytes]
  exact extractSni_layout l' hreadable'

/-- **The reader ends, stops at nothing, and is not misled by later bytes.** -/
theorem extractSni_runs {w : UsizeWidth} (buf : Slice w) :
    (∀ turns, buf.bytes.length / 3 ≤ turns →
      Machine.extractSni w.limit buf.bytes turns = Checked.ofOption (extractSni buf.bytes)) ∧
    ∀ more name, extractSni buf.bytes = some name → extractSni (buf.bytes ++ more) = some name := by
  constructor
  · intro turns hturns
    exact Machine.extractSni_eq buf.room hturns
  · intro more name hname
    exact extractSni_append hname more

theorem mailHello_runs : mailHello.record.length / 3 ≤ 40 ∧
    Machine.extractSni UsizeWidth.w32.limit mailHello.record 40 =
      Checked.ofOption (extractSni mailHello.record) :=
  ⟨by decide, (extractSni_runs (w := .w32) ⟨mailHello.record, by decide⟩).1 40 (by decide)⟩

end Wicket
