/-
**A strict reader of the server name.**

It takes each vector out of the bytes of the vector around it.  The reader of the proxy agrees with
it exactly on the buffers whose vectors are nested.
-/

import Wicket.ByteVectors
import Wicket.SniSpans

namespace Wicket

open Option List Bytes SniLayout NameEntry

/-! ### The strict reader -/

/-- Takes the given number off the front. -/
def takeTag (width n : ℕ) (bytes : List UInt8) : Option (List UInt8) :=
  (takeBe width bytes).bind fun r => if r.1 = n then some r.2 else none

def strictExtensions (message : List UInt8) : Option (List UInt8) := do
  let (_, message) ← takeBytes 2 message
  let (_, message) ← takeBytes 32 message
  let (_, message) ← takeCounted 1 message
  let (_, message) ← takeCounted 2 message
  let (_, message) ← takeCounted 1 message
  let (extensions, _) ← takeCounted 2 message
  some extensions

def strictMessage (buf : List UInt8) : Option (List UInt8) := do
  let buf ← takeTag 1 tlsHandshake buf
  let (_, buf) ← takeBytes 2 buf
  let (record, _) ← takeCounted 2 buf
  let record ← takeTag 1 handshakeClientHello record
  let (message, _) ← takeCounted 3 record
  some message

def strictHostName (extensions : List UInt8) : Option (List UInt8) := do
  let ext ← findTagged 2 extServerName extensions
  let (list, _) ← takeCounted 2 ext
  findTagged 1 nameTypeHostname list

/-- The server name as a strict reader finds it: every vector is cut out of the vector around it. -/
def strictSni (buf : List UInt8) : Option String := do
  let message ← strictMessage buf
  let extensions ← strictExtensions message
  let name ← strictHostName extensions
  if maxHostnameLen < name.length then none else fromUtf8 name

/-- The buffer is made of vectors each of which fits into the one around it, down to a name. -/
def NestedSni (buf : List UInt8) : Prop := ∃ l : SniLayout, l.Nested ∧ l.bytes = buf

/-- The name that was read from the buffer lies inside the five vectors around it, and a strict
reader reads it there. -/
structure ReadsStrictly (buf : List UInt8) (name : String) : Prop where
  inside : ∃ s, sniSpans buf = some s ∧ s.text buf = some name ∧ s.Inside
  strict : strictSni buf = some name

/-! ### What the strict reader reads -/

section Reads

variable {buf message extensions data : List UInt8} {name : String}

theorem takeTag_eq_some_iff {width n : ℕ} {bytes rest : List UInt8} (hn : n < 256 ^ width) :
    takeTag width n bytes = some rest ↔ bytes = be width n ++ rest := by
  rw [takeTag, bind_eq_some_iff]
  constructor
  · intro h
    obtain ⟨⟨m, rest'⟩, htake, hif⟩ := h
    obtain ⟨-, rfl⟩ := takeBe_eq_some_iff.1 htake
    split at hif
    case isTrue heq =>
      cases hif
      cases heq
      rfl
    case isFalse => cases hif
  · intro h
    exact ⟨(n, rest), takeBe_eq_some_iff.2 ⟨hn, h⟩, if_pos rfl⟩

theorem takeTag_append {width n : ℕ} (hn : n < 256 ^ width) (rest : List UInt8) :
    takeTag width n (be width n ++ rest) = some rest := (takeTag_eq_some_iff hn).2 rfl

theorem findTagged_extensions {ext : List UInt8} :
    findTagged 2 extServerName extensions = some ext ↔
      ∃ (before : List RawExtension) (rest : List UInt8),
        (∀ e ∈ before, e.extType.toNat ≠ extServerName) ∧ ext.length < 65536 ∧
        extensions = before.flatMap RawExtension.encode ++
          (be 2 extServerName ++ (counted 2 ext ++ rest)) := by
  refine findTagged_eq_some_iff RawExtension.encode (fun e => e.extType.toNat) ?_ ?_ (by decide)
  · intro e
    exact ⟨e.extType.toNat_lt, e.data, e.data_length, rfl⟩
  · intro t x ht hx
    have htoNat : (UInt16.ofNat t).toNat = t := UInt16.toNat_ofNat_of_lt' ht
    exact ⟨⟨UInt16.ofNat t, x, hx⟩, htoNat, by rw [RawExtension.encode, htoNat]⟩

theorem findTagged_names {list : List UInt8} :
    findTagged 1 nameTypeHostname list = some data ↔
      ∃ (others : List NameEntry) (rest : List UInt8),
        (∀ o ∈ others, o.nameType.toNat ≠ nameTypeHostname) ∧ data.length < 65536 ∧
        list = others.flatMap encode ++ (be 1 nameTypeHostname ++ (counted 2 data ++ rest)) := by
  refine findTagged_eq_some_iff encode (fun o => o.nameType.toNat) ?_ ?_ (by decide)
  · intro o
    exact ⟨o.nameType.toNat_lt, o.data, o.data_length, rfl⟩
  · intro t x ht hx
    have htoNat : (UInt8.ofNat t).toNat = t := UInt8.toNat_ofNat_of_lt' ht
    exact ⟨⟨UInt8.ofNat t, x, hx⟩, htoNat, by rw [encode, htoNat]⟩

theorem strictMessage_eq_some_iff :
    strictMessage buf = some message ↔
      ∃ (recordVersion : UInt16) (recordLen handshakeLen : ℕ) (recordRest rest : List UInt8),
        recordLen < 65536 ∧ handshakeLen < 16777216 ∧ message.length = handshakeLen ∧
        4 + handshakeLen + recordRest.length = recordLen ∧
        buf = be 1 tlsHandshake ++ (be 2 recordVersion.toNat ++ (be 2 recordLen ++
          (be 1 handshakeClientHello ++ (be 3 handshakeLen ++ (message ++
            (recordRest ++ rest)))))) := by
  constructor
  · intro h
    obtain ⟨buf₁, htype, h⟩ := bind_eq_some_iff.1 h
    obtain ⟨⟨version, buf₂⟩, hversion, h⟩ := bind_eq_some_iff.1 h
    obtain ⟨⟨record, rest⟩, hrecord, h⟩ := bind_eq_some_iff.1 h
    obtain ⟨record₁, hhandshake, h⟩ := bind_eq_some_iff.1 h
    obtain ⟨⟨message', recordRest⟩, hmessage, h⟩ := bind_eq_some_iff.1 h
    cases h
    obtain rfl := (takeTag_eq_some_iff (by decide)).1 htype
    obtain ⟨hlen, rfl⟩ := takeBytes_eq_some_iff.1 hversion
    obtain ⟨hrecordLen, rfl⟩ := takeCounted_eq_some_iff.1 hrecord
    obtain rfl := (takeTag_eq_some_iff (by decide)).1 hhandshake
    obtain ⟨hmessageLen, rfl⟩ := takeCounted_eq_some_iff.1 hmessage
    obtain ⟨recordVersion, rfl⟩ := exists_uint16 hlen
    refine ⟨recordVersion, _, message.length, recordRest, rest, hrecordLen, hmessageLen, rfl, ?_,
      ?_⟩
    · simp only [length_append, length_be, length_counted]
      omega
    · simp [counted]
  · intro h
    obtain ⟨recordVersion, recordLen, handshakeLen, recordRest, rest, hrecord, hhandshake, rfl,
      hlen, rfl⟩ := h
    have hlen' : (be 1 handshakeClientHello ++ (counted 3 message ++ recordRest)).length =
        recordLen := by
      simp only [length_append, length_be, length_counted]
      omega
    have hvector : be 2 recordLen ++ (be 1 handshakeClientHello ++
        (be 3 message.length ++ (message ++ (recordRest ++ rest)))) =
        counted 2 (be 1 handshakeClientHello ++ (counted 3 message ++ recordRest)) ++ rest := by
      rw [counted, hlen']
      simp [counted]
    rw [hvector]
    simp only [strictMessage, bind_eq_bind]
    rw [takeTag_append (by decide), bind_some, takeBytes_append (length_be ..),
      bind_some, takeCounted_append (hlen'.symm ▸ hrecord), bind_some,
      takeTag_append (by decide), bind_some, takeCounted_append hhandshake, bind_some]

theorem strictExtensions_eq_some_iff (recordVersion : UInt16) :
    strictExtensions message = some extensions ↔
      ∃ (head : HelloHead) (extensionsLen : ℕ) (rest : List UInt8),
        head.recordVersion = recordVersion ∧ extensionsLen < 65536 ∧
        extensions.length = extensionsLen ∧
        message = head.fields ++ (be 2 extensionsLen ++ (extensions ++ rest)) := by
  constructor
  · intro h
    obtain ⟨⟨version, m₁⟩, hversion, h⟩ := bind_eq_some_iff.1 h
    obtain ⟨⟨random, m₂⟩, hrandom, h⟩ := bind_eq_some_iff.1 h
    obtain ⟨⟨sessionId, m₃⟩, hsession, h⟩ := bind_eq_some_iff.1 h
    obtain ⟨⟨ciphers, m₄⟩, hciphers, h⟩ := bind_eq_some_iff.1 h
    obtain ⟨⟨methods, m₅⟩, hmethods, h⟩ := bind_eq_some_iff.1 h
    obtain ⟨⟨extensions', rest⟩, hextensions, h⟩ := bind_eq_some_iff.1 h
    cases h
    obtain ⟨hlen, rfl⟩ := takeBytes_eq_some_iff.1 hversion
    obtain ⟨hrandomLen, rfl⟩ := takeBytes_eq_some_iff.1 hrandom
    obtain ⟨hsessionLen, rfl⟩ := takeCounted_eq_some_iff.1 hsession
    obtain ⟨hciphersLen, rfl⟩ := takeCounted_eq_some_iff.1 hciphers
    obtain ⟨hmethodsLen, rfl⟩ := takeCounted_eq_some_iff.1 hmethods
    obtain ⟨hextensionsLen, rfl⟩ := takeCounted_eq_some_iff.1 hextensions
    obtain ⟨version, rfl⟩ := exists_uint16 hlen
    refine ⟨⟨recordVersion, version, random, sessionId, ciphers, methods, hrandomLen, hsessionLen,
      hciphersLen, hmethodsLen⟩, extensions.length, rest, rfl, hextensionsLen, rfl, ?_⟩
    simp [HelloHead.fields, counted]
  · intro h
    obtain ⟨head, extensionsLen, rest, -, hextensions, rfl, rfl⟩ := h
    rw [← append_assoc (be 2 extensions.length), ← counted]
    simp only [strictExtensions, bind_eq_bind, HelloHead.fields, append_assoc]
    rw [takeBytes_append (length_be ..), bind_some, takeBytes_append head.random_length,
      bind_some, takeCounted_append head.sessionId_length, bind_some,
      takeCounted_append head.cipherSuites_length, bind_some,
      takeCounted_append head.compressionMethods_length, bind_some,
      takeCounted_append hextensions, bind_some]

theorem strictHostName_eq_some_iff :
    strictHostName extensions = some data ↔
      ∃ (before : List RawExtension) (others : List NameEntry) (extLen listLen : ℕ)
        (listRest extRest rest : List UInt8),
        (∀ e ∈ before, e.extType.toNat ≠ extServerName) ∧
        (∀ o ∈ others, o.nameType.toNat ≠ nameTypeHostname) ∧
        data.length < 65536 ∧ listLen < 65536 ∧ extLen < 65536 ∧
        (others.flatMap encode).length + 3 + data.length + listRest.length = listLen ∧
        2 + listLen + extRest.length = extLen ∧
        extensions = before.flatMap RawExtension.encode ++ (be 2 extServerName ++ (be 2 extLen ++
          (be 2 listLen ++ (others.flatMap encode ++ (be 1 nameTypeHostname ++
            (counted 2 data ++ (listRest ++ (extRest ++ rest)))))))) := by
  constructor
  · intro h
    obtain ⟨ext, hext, h⟩ := bind_eq_some_iff.1 h
    obtain ⟨⟨list, extRest⟩, hlist, hname⟩ := bind_eq_some_iff.1 h
    obtain ⟨others, listRest, hothers, hdata, rfl⟩ := findTagged_names.1 hname
    obtain ⟨hlistLen, rfl⟩ := takeCounted_eq_some_iff.1 hlist
    obtain ⟨before, rest, hbefore, hextLen, rfl⟩ := findTagged_extensions.1 hext
    refine ⟨before, others, _, _, listRest, extRest, rest, hbefore, hothers, hdata, hlistLen,
      hextLen, ?_, ?_, ?_⟩
    · simp only [length_append, length_be, length_counted]
      omega
    · simp
    · simp [counted]
  · intro h
    obtain ⟨before, others, extLen, listLen, listRest, extRest, rest, hbefore, hothers, hdata,
      hlistLen, hextLen, hlist, hext, rfl⟩ := h
    -- the two inner vectors, without and with what is left behind them
    obtain ⟨list, hlistEq⟩ : ∃ list, list = others.flatMap encode ++
        (be 1 nameTypeHostname ++ (counted 2 data ++ listRest)) := ⟨_, rfl⟩
    have hlen : list.length = listLen := by
      rw [← hlist, hlistEq]
      simp only [length_append, length_be, length_counted]
      omega
    have hlen' : (counted 2 list ++ extRest).length = extLen := by
      rw [length_append, length_counted]
      omega
    refine bind_eq_some_iff.2 ⟨counted 2 list ++ extRest,
      findTagged_extensions.2 ⟨before, rest, hbefore, by omega, ?_⟩, ?_⟩
    · have hext' : counted 2 (counted 2 list ++ extRest) =
          be 2 extLen ++ (be 2 listLen ++ (list ++ extRest)) := by
        rw [counted, hlen', counted, hlen, append_assoc]
      rw [hext', hlistEq]
      simp
    · rw [takeCounted_append (by omega)]
      exact findTagged_names.2 ⟨others, listRest, hothers, hdata, hlistEq⟩

theorem exists_nested_of_strictSni (h : strictSni buf = some name) :
    ∃ l : SniLayout, l.Nested ∧ l.bytes = buf ∧ l.name = name := by
  obtain ⟨message, hmessage, h⟩ := bind_eq_some_iff.1 h
  obtain ⟨extensions, hextensions, h⟩ := bind_eq_some_iff.1 h
  obtain ⟨data, hdata, h⟩ := bind_eq_some_iff.1 h
  split at h
  case isTrue => cases h
  case isFalse hshort =>
    obtain rfl := utf8Bytes_of_fromUtf8 h
    obtain ⟨recordVersion, recordLen, handshakeLen, recordRest, rest, hrecordLen, hhandshakeLen,
      hmessageLen, hrecord, rfl⟩ := strictMessage_eq_some_iff.1 hmessage
    obtain ⟨head, extensionsLen, messageRest, rfl, hextensionsLen, hblockLen, rfl⟩ :=
      (strictExtensions_eq_some_iff recordVersion).1 hextensions
    obtain ⟨before, others, extLen, listLen, listRest, extRest, extensionsRest, hbefore, hothers, -,
      hlistLen, hextLen, hlist, hext, rfl⟩ := strictHostName_eq_some_iff.1 hdata
    simp only [length_append, length_be, length_counted] at hmessageLen hblockLen
    let l : SniLayout := ⟨head, recordLen, handshakeLen, extensionsLen, before, extLen, listLen,
      others, name, listRest ++ (extRest ++ (extensionsRest ++ (messageRest ++
        (recordRest ++ rest)))), hrecordLen, hhandshakeLen, hextensionsLen, hextLen, hlistLen,
      hbefore, hothers, Nat.not_lt.1 hshort⟩
    refine ⟨l, ?_, ?_, rfl⟩
    · have hlen := l.length_bytes
      simp only [l, fieldsLen, beforeLen, othersLen, nameLen, length_append] at hlen
      constructor
      all_goals simp only [l, fieldsLen, beforeLen, othersLen, nameLen] at hlen ⊢
      all_goals omega
    · simp [l, bytes, extensionBytes, entryBytes, HelloHead.bytes]

theorem exists_append_of_le (bytes : List UInt8) {n : ℕ} (h : n ≤ bytes.length) :
    ∃ x rest, x.length = n ∧ bytes = x ++ rest :=
  ⟨bytes.take n, bytes.drop n, by rw [length_take]; omega, (take_append_drop n bytes).symm⟩

theorem SniLayout.Nested.exists_rests {l : SniLayout} (h : l.Nested) :
    ∃ listRest extRest extensionsRest messageRest recordRest rest : List UInt8,
      l.rest = listRest ++ (extRest ++ (extensionsRest ++ (messageRest ++ (recordRest ++ rest)))) ∧
      l.othersLen + 3 + l.nameLen + listRest.length = l.listLen ∧
      2 + l.listLen + extRest.length = l.extLen ∧
      l.beforeLen + 4 + l.extLen + extensionsRest.length = l.extensionsLen ∧
      l.fieldsLen + 2 + l.extensionsLen + messageRest.length = l.handshakeLen ∧
      4 + l.handshakeLen + recordRest.length = l.recordLen := by
  have hlen := l.length_bytes
  obtain ⟨hname, hlist, hext, hextensions, hhandshake, hrecord⟩ := h
  obtain ⟨r₁, t₁, h₁, hrest⟩ := exists_append_of_le l.rest
    (show l.listLen - (l.othersLen + 3 + l.nameLen) ≤ _ by omega)
  have hsum := congrArg length hrest
  rw [length_append] at hsum
  obtain ⟨r₂, t₂, h₂, rfl⟩ := exists_append_of_le t₁
    (show l.extLen - (2 + l.listLen) ≤ _ by omega)
  rw [length_append] at hsum
  obtain ⟨r₃, t₃, h₃, rfl⟩ := exists_append_of_le t₂
    (show l.extensionsLen - (l.beforeLen + 4 + l.extLen) ≤ _ by omega)
  rw [length_append] at hsum
  obtain ⟨r₄, t₄, h₄, rfl⟩ := exists_append_of_le t₃
    (show l.handshakeLen - (l.fieldsLen + 2 + l.extensionsLen) ≤ _ by omega)
  rw [length_append] at hsum
  obtain ⟨r₅, t₅, h₅, rfl⟩ := exists_append_of_le t₄
    (show l.recordLen - (4 + l.handshakeLen) ≤ _ by omega)
  exact ⟨r₁, r₂, r₃, r₄, r₅, t₅, hrest, by omega, by omega, by omega, by omega, by omega⟩

theorem strictSni_layout (l : SniLayout) (h : l.Nested) : strictSni l.bytes = some l.name := by
  have hlt : (utf8Bytes l.name).length < 65536 := by
    have hname : (utf8Bytes l.name).length ≤ 253 := l.name_length
    omega
  obtain ⟨listRest, extRest, extensionsRest, messageRest, recordRest, rest, hrest, hlist, hext,
    hextensions, hmessage, hrecord⟩ := h.exists_rests
  obtain ⟨extensions, hextensionsEq⟩ : ∃ extensions, extensions =
      l.before.flatMap RawExtension.encode ++ (be 2 extServerName ++ (be 2 l.extLen ++
        (be 2 l.listLen ++ (l.others.flatMap encode ++ (be 1 nameTypeHostname ++
          (counted 2 (utf8Bytes l.name) ++ (listRest ++ (extRest ++ extensionsRest)))))))) :=
    ⟨_, rfl⟩
  have hextensionsLen : extensions.length = l.extensionsLen := by
    simp only [othersLen, beforeLen, nameLen] at hlist hextensions
    rw [hextensionsEq]
    simp only [length_append, length_be, length_counted]
    omega
  have hmessageLen : (l.head.fields ++
      (be 2 l.extensionsLen ++ (extensions ++ messageRest))).length = l.handshakeLen := by
    simp only [length_append, length_be, hextensionsLen, ← hmessage, fieldsLen]
    omega
  have hbytes : strictMessage l.bytes =
      some (l.head.fields ++ (be 2 l.extensionsLen ++ (extensions ++ messageRest))) := by
    refine strictMessage_eq_some_iff.2 ⟨l.head.recordVersion, l.recordLen, l.handshakeLen,
      recordRest, rest, l.recordLen_lt, l.handshakeLen_lt, hmessageLen, hrecord, ?_⟩
    simp [bytes, extensionBytes, entryBytes, HelloHead.bytes, hextensionsEq, hrest]
  have hblock := (strictExtensions_eq_some_iff l.head.recordVersion).2 ⟨l.head, l.extensionsLen,
    messageRest, rfl, l.extensionsLen_lt, hextensionsLen, rfl⟩
  have hhost := strictHostName_eq_some_iff.2 ⟨l.before, l.others, l.extLen, l.listLen, listRest,
    extRest, extensionsRest, l.before_other, l.others_other, hlt, l.listLen_lt, l.extLen_lt, hlist,
    hext, hextensionsEq⟩
  simp only [strictSni, bind_eq_bind]
  rw [hbytes, bind_some, hblock, bind_some, hhost, bind_some,
    if_neg (Nat.not_lt.2 l.name_length), fromUtf8_utf8Bytes]

/-- **The buffers from which the strict reader gets a name** are the nested ones. -/
theorem strictSni_eq_some_iff :
    strictSni buf = some name ↔ ∃ l : SniLayout, l.Nested ∧ l.bytes = buf ∧ l.name = name := by
  constructor
  · exact exists_nested_of_strictSni
  · intro h
    obtain ⟨l, hnested, rfl, rfl⟩ := h
    exact strictSni_layout l hnested

/-- **The proxy reads what a strict reader does exactly when the vectors are nested.** -/
theorem readsStrictly_iff_nested (hread : extractSni buf = some name) :
    ReadsStrictly buf name ↔ NestedSni buf := by
  constructor
  · intro h
    obtain ⟨l, hnested, hbytes, -⟩ := strictSni_eq_some_iff.1 h.strict
    exact ⟨l, hnested, hbytes⟩
  · intro h
    obtain ⟨l, hnested, rfl⟩ := h
    have hspans := sniSpans_layout l hnested.readable
    have hname : l.name = name := by
      rw [extractSni_layout l hnested.readable] at hread
      exact Option.some_inj.1 hread
    rw [extractSni_eq_spans, hspans, Option.bind_some] at hread
    exact ⟨⟨l.spans, hspans, hread, hnested.inside⟩, hname ▸ strictSni_layout l hnested⟩

end Reads

def namedHello (listLen : ℕ) (hlt : listLen < 65536) : SniLayout where
  head := .plain
  recordLen := 62
  handshakeLen := 58
  extensionsLen := 15
  before := []
  extLen := 11
  listLen := listLen
  others := []
  name := "a.test"
  rest := []
  recordLen_lt := by decide
  handshakeLen_lt := by decide
  extensionsLen_lt := by decide
  extLen_lt := by decide
  listLen_lt := hlt
  before_other := by decide
  others_other := by decide
  name_length := by decide

theorem namedHello_readsStrictly :
    extractSni (namedHello 9 (by decide)).bytes = some "a.test" ∧
      ReadsStrictly (namedHello 9 (by decide)).bytes "a.test" := by
  have hnested : (namedHello 9 (by decide)).Nested := by
    constructor
    all_goals decide
  have hread := extractSni_layout _ hnested.readable
  exact ⟨hread, (readsStrictly_iff_nested hread).2 ⟨_, hnested, rfl⟩⟩

/-- A list of names that declares one byte does not enclose the name behind it. -/
theorem shortList_not_readsStrictly :
    extractSni (namedHello 1 (by decide)).bytes = some "a.test" ∧
      ¬ReadsStrictly (namedHello 1 (by decide)).bytes "a.test" := by
  have hreadable : (namedHello 1 (by decide)).Readable := by
    constructor
    all_goals decide
  refine ⟨extractSni_layout _ hreadable, ?_⟩
  intro h
  obtain ⟨s, hs, -, hinside⟩ := h.inside
  rw [sniSpans_layout _ hreadable] at hs
  cases hs
  exact absurd hinside.list (by decide)

end Wicket
