/-
**What a backend reads from the header of the PROXY protocol.**

A backend reads by the specification of the version.  Both versions give it the client as it is, and
the proxy in the client's family.
-/

import Wicket.ByteVectors
import Wicket.ProxyProtocol

namespace Wicket

open Nat List Text
open Bytes
open Net
open ProxyProtocolEncoder (encodeV1 encodeV2)

/-! ### What a header says -/

/-- The two ends of a connection. -/
structure Endpoints (A : Type) where
  src : A
  dst : A
  srcPort : UInt16
  dstPort : UInt16
  deriving DecidableEq

inductive Transport
  | stream
  | dgram
  deriving DecidableEq

inductive ProxyHeader
  | inet (transport : Transport) (ends : Endpoints Ipv4Addr)
  | inet6 (transport : Transport) (ends : Endpoints Ipv6Addr)
  | noAddress
  deriving DecidableEq

def proxyHeader (clientAddr proxyAddr : SocketAddr) : ProxyHeader :=
  match clientAddr with
  | .v4 ip port => .inet .stream ⟨ip, proxyAddr.asIpv4, port, proxyAddr.port⟩
  | .v6 ip port _ _ => .inet6 .stream ⟨ip, proxyAddr.asIpv6, port, proxyAddr.port⟩

/-! ### Version 2 -/

/-- Reads two addresses and two ports, and what is left. -/
def takeEndpoints {A : Type} (width : ℕ) (ofBytes : List UInt8 → Option A) (block : List UInt8) :
    Option (Endpoints A × List UInt8) := do
  let (src, rest) ← takeBytes width block
  let (dst, rest) ← takeBytes width rest
  let (srcPort, rest) ← takeBe 2 rest
  let (dstPort, rest) ← takeBe 2 rest
  let src ← ofBytes src
  let dst ← ofBytes dst
  some (⟨src, dst, UInt16.ofNat srcPort, UInt16.ofNat dstPort⟩, rest)

/-- A local connection says nothing; a value that is not specified is refused. -/
def decodeBlock (versionCommand familyTransport : ℕ) (block : List UInt8) :
    Option (ProxyHeader × List UInt8) :=
  match versionCommand, familyTransport with
  | 0x20, _ => some (.noAddress, block)
  | 0x21, 0x00 => some (.noAddress, block)
  | 0x21, 0x11 => (takeEndpoints 4 Ipv4Addr.ofBytes block).map (Prod.map (.inet .stream) id)
  | 0x21, 0x12 => (takeEndpoints 4 Ipv4Addr.ofBytes block).map (Prod.map (.inet .dgram) id)
  | 0x21, 0x21 => (takeEndpoints 16 Ipv6Addr.ofBytes block).map (Prod.map (.inet6 .stream) id)
  | 0x21, 0x22 => (takeEndpoints 16 Ipv6Addr.ofBytes block).map (Prod.map (.inet6 .dgram) id)
  -- two paths of 108 bytes each
  | 0x21, 0x31 => (takeBytes 216 block).map (Prod.map (fun _ => .noAddress) id)
  | 0x21, 0x32 => (takeBytes 216 block).map (Prod.map (fun _ => .noAddress) id)
  | _, _ => none

/-- Reads a header in version 2: what it says, what the declared bytes hold besides, and what
follows the header. -/
def decodeV2 (bytes : List UInt8) : Option (ProxyHeader × List UInt8 × List UInt8) := do
  let (signature, rest) ← takeBytes 12 bytes
  if signature = proxyV2Signature then
    let (versionCommand, rest) ← takeBe 1 rest
    let (familyTransport, rest) ← takeBe 1 rest
    let (block, rest) ← takeCounted 2 rest
    let (header, besides) ← decodeBlock versionCommand familyTransport block
    some (header, besides, rest)
  else none

variable {A : Type} {block : List UInt8} {words : List String}

theorem takeEndpoints_append {width : ℕ} {ofBytes : List UInt8 → Option A} {x y : List UInt8}
    {src dst : A} (hx : x.length = width) (hy : y.length = width) (hsrc : ofBytes x = some src)
    (hdst : ofBytes y = some dst) (srcPort dstPort : UInt16) (rest : List UInt8) :
    takeEndpoints width ofBytes (x ++ (y ++ (be 2 srcPort.toNat ++ (be 2 dstPort.toNat ++ rest)))) =
      some (⟨src, dst, srcPort, dstPort⟩, rest) := by
  have hport : ∀ port : UInt16, port.toNat < 256 ^ 2 := fun port => port.toNat_lt
  simp [takeEndpoints, takeBytes_append hx, takeBytes_append hy,
    takeBe_append (hport srcPort), takeBe_append (hport dstPort), hsrc, hdst]

def frameV2 (versionCommand familyTransport : ℕ) (block : List UInt8) : List UInt8 :=
  proxyV2Signature ++ (be 1 versionCommand ++ (be 1 familyTransport ++ counted 2 block))

variable {versionCommand familyTransport : ℕ} {c : Char} {s : String} {x : A}

theorem decodeV2_frame (hcommand : versionCommand < 256 ^ 1) (hfamily : familyTransport < 256 ^ 1)
    (hblock : block.length < 256 ^ 2) (rest : List UInt8) :
    decodeV2 (frameV2 versionCommand familyTransport block ++ rest) =
      (decodeBlock versionCommand familyTransport block).map fun r => (r.1, r.2, rest) := by
  have hsignature : proxyV2Signature.length = 12 := rfl
  simp only [decodeV2, frameV2, append_assoc, takeBytes_append hsignature, if_true,
    takeBe_append hcommand, takeBe_append hfamily, takeCounted_append hblock,
    Option.bind_eq_bind, Option.bind_some]
  cases decodeBlock versionCommand familyTransport block <;> rfl

theorem takeBe_frame (hblock : block.length < 256 ^ 2) :
    takeBe 2 ((frameV2 versionCommand familyTransport block).drop 14) =
      some (((frameV2 versionCommand familyTransport block).drop 16).length,
        (frameV2 versionCommand familyTransport block).drop 16) :=
  takeBe_append hblock block

theorem counted_two {n : ℕ} (h : block.length = n) :
    counted 2 block = UInt8.ofNat (n / 256) :: UInt8.ofNat n :: block := by
  rw [counted, h]
  rfl

theorem exists_frameV2 (clientAddr proxyAddr : SocketAddr) :
    ∃ familyTransport block, familyTransport < 256 ^ 1 ∧ block.length < 256 ^ 2 ∧
      encodeV2 clientAddr proxyAddr = frameV2 0x21 familyTransport block ∧
      decodeBlock 0x21 familyTransport block = some (proxyHeader clientAddr proxyAddr, []) := by
  cases clientAddr with
  | v4 ip port =>
    have hends := takeEndpoints_append ip.length_bytes proxyAddr.asIpv4.length_bytes
      ip.ofBytes_bytes proxyAddr.asIpv4.ofBytes_bytes port proxyAddr.port []
    refine ⟨0x11, ip.bytes ++ (proxyAddr.asIpv4.bytes ++ (be 2 port.toNat ++
      (be 2 proxyAddr.port.toNat ++ []))), by decide, by simp, ?_, ?_⟩
    case refine_2 =>
      rw [decodeBlock, hends]
      rfl
    rw [frameV2, counted_two (n := 12) (by simp)]
    rfl
  | v6 ip port flowinfo scopeId =>
    have hends := takeEndpoints_append ip.length_bytes proxyAddr.asIpv6.length_bytes
      ip.ofBytes_bytes proxyAddr.asIpv6.ofBytes_bytes port proxyAddr.port []
    refine ⟨0x21, ip.bytes ++ (proxyAddr.asIpv6.bytes ++ (be 2 port.toNat ++
      (be 2 proxyAddr.port.toNat ++ []))), by decide, by simp, ?_, ?_⟩
    case refine_2 =>
      rw [decodeBlock, hends]
      rfl
    rw [frameV2, counted_two (n := 36) (by simp)]
    rfl

/-- **A header in version 2 is read back**: all of it is used, and it holds nothing else. -/
theorem decodeV2_encodeV2 (clientAddr proxyAddr : SocketAddr) :
    decodeV2 (encodeV2 clientAddr proxyAddr) = some (proxyHeader clientAddr proxyAddr, [], []) := by
  obtain ⟨familyTransport, block, hfamily, hblock, hframe, hdecode⟩ :=
    exists_frameV2 clientAddr proxyAddr
  have hread := decodeV2_frame (by decide : 0x21 < 256 ^ 1) hfamily hblock []
  rw [append_nil, hdecode] at hread
  rw [hframe, hread]
  rfl

/-! ### Version 1 -/

/-- A whole text as a value. -/
def readAll {α : Type} (reader : Reader α) (s : String) : Option α :=
  match reader s.toList with
  | some (x, []) => some x
  | _ => none

/-- A port in decimal, without leading zeros. -/
def readPortNumber : Reader ℕ := readNumber 10 (some 5) false 65536

def readEndpoints {A : Type} (readIp : Reader A) (src dst srcPort dstPort : String) :
    Option (Endpoints A) := do
  let src ← readAll readIp src
  let dst ← readAll readIp dst
  let srcPort ← readAll readPortNumber srcPort
  let dstPort ← readAll readPortNumber dstPort
  some ⟨src, dst, UInt16.ofNat srcPort, UInt16.ofNat dstPort⟩

def parseWords : List String → Option ProxyHeader
  | ["PROXY", "TCP4", src, dst, srcPort, dstPort] =>
    (readEndpoints readIpv4Addr src dst srcPort dstPort).map (.inet .stream)
  | ["PROXY", "TCP6", src, dst, srcPort, dstPort] =>
    (readEndpoints readIpv6Addr src dst srcPort dstPort).map (.inet6 .stream)
  | "PROXY" :: "UNKNOWN" :: _ => some .noAddress
  | _ => none

/-- Reads a header in version 1: a line of at most 107 bytes whose words have one space between
them. -/
def parseV1 (bytes : List UInt8) : Option ProxyHeader :=
  if 107 < bytes.length then none
  else do
    let text ← fromUtf8 bytes
    let line ← stripSuffix text "\r\n"
    if hasChar line '\r' || hasChar line '\n' then none
    else parseWords (split line ' ')

structure WordChar (c : Char) : Prop where
  size : c.utf8Size = 1
  space : c ≠ ' '
  cr : c ≠ '\r'
  lf : c ≠ '\n'

def lineOf (words : List String) : String :=
  String.ofList ([' '].intercalate (words.map String.toList))

theorem split_lineOf (hne : words ≠ []) (hwords : ∀ w ∈ words, ∀ c ∈ w.toList, WordChar c) :
    split (lineOf words) ' ' = words := by
  have hspace : ∀ l ∈ words.map String.toList, ' ' ∉ l := by
    intro l hl hc
    obtain ⟨w, hw, rfl⟩ := mem_map.1 hl
    exact (hwords w hw ' ' hc).space rfl
  rw [split, lineOf, String.toList_ofList,
    splitOn_intercalate ' ' hspace (by simpa using hne), map_map]
  conv_rhs => rw [← map_id words]
  exact map_congr_left fun w _ => String.ofList_toList

theorem mem_lineOf {words : List String} {c : Char} (hc : c ∈ (lineOf words).toList) :
    c = ' ' ∨ ∃ w ∈ words, c ∈ w.toList := by
  rw [lineOf, String.toList_ofList] at hc
  induction words with
  | nil => simp at hc
  | cons w words ih =>
    cases words with
    | nil => exact .inr ⟨w, by simp, by simpa using hc⟩
    | cons w' words =>
      rcases mem_append.1 hc with hc | hc
      · exact .inr ⟨w, by simp, hc⟩
      · rcases mem_append.1 hc with hc | hc
        · exact .inl (mem_singleton.1 hc)
        · rcases ih hc with hspace | ⟨v, hv, hcv⟩
          · exact .inl hspace
          · exact .inr ⟨v, mem_cons_of_mem _ hv, hcv⟩

theorem parseV1_lineOf (hne : words ≠ []) (hwords : ∀ w ∈ words, ∀ c ∈ w.toList, WordChar c)
    (hlen : (utf8Bytes (lineOf words ++ "\r\n")).length ≤ 107) :
    parseV1 (utf8Bytes (lineOf words ++ "\r\n")) = parseWords words := by
  have hno : ∀ c, c ≠ ' ' → (∀ d, WordChar d → d ≠ c) → hasChar (lineOf words) c = false := by
    intro c hspace hword
    rw [hasChar, ← Bool.not_eq_true, contains_iff_mem]
    intro hc
    rcases mem_lineOf hc with hc | ⟨w, hw, hcw⟩
    · exact hspace hc
    · exact hword c (hwords w hw c hcw) rfl
  have hcr := hno '\r' (by decide) fun _ hd => hd.cr
  have hlf := hno '\n' (by decide) fun _ hd => hd.lf
  have hstrip : stripSuffix (lineOf words ++ "\r\n") "\r\n" = some (lineOf words) :=
    stripSuffix_eq_some.2 rfl
  simp [parseV1, if_neg (not_lt.2 hlen), fromUtf8_utf8Bytes, hstrip, hcr, hlf,
    split_lineOf hne hwords]

theorem utf8Bytes_append (s t : String) : utf8Bytes (s ++ t) = utf8Bytes s ++ utf8Bytes t := by
  simp [utf8Bytes]

theorem length_lineOf (hwords : ∀ w ∈ words, ∀ c ∈ w.toList, WordChar c) :
    (utf8Bytes (lineOf words ++ "\r\n")).length =
      ([' '].intercalate (words.map String.toList)).length + 2 := by
  have hsize : (lineOf words).utf8ByteSize =
      ([' '].intercalate (words.map String.toList)).length := by
    refine utf8ByteSize_of_forall fun c hc => ?_
    rcases @mem_lineOf words c (by rwa [lineOf, String.toList_ofList]) with rfl | ⟨w, hw, hcw⟩
    · rfl
    · exact (hwords w hw c hcw).size
  have hbytes : ∀ s : String, (utf8Bytes s).length = s.utf8ByteSize := fun _ => rfl
  rw [hbytes, String.utf8ByteSize_append, hsize]
  rfl

theorem wordChar_of_addrChar (h : addrChar c = true) : WordChar c := by
  have hascii := toNat_le_of_addrChar h
  refine ⟨Char.utf8Size_eq_one_iff.2 (UInt32.le_iff_toNat_le.2 hascii), ?_, ?_, ?_⟩
  · rintro rfl
    cases h
  · rintro rfl
    cases h
  · rintro rfl
    cases h

theorem wordChar_of_isDigit (h : c.isDigit = true) : WordChar c := by
  refine wordChar_of_addrChar (addrChar_of_toDigit (by decide : 10 ≤ 16) ?_)
  rw [toDigit_ten h]
  rfl

structure AddrText (s : String) : Prop where
  chars : ∀ c ∈ s.toList, addrChar c = true
  length : s.length ≤ 39

theorem AddrText.of_uses {reader : Reader A} (huses : Uses reader)
    (hread : reader s.toList = some (x, [])) (hlen : s.length ≤ 39) :
    AddrText s := by
  obtain ⟨used, hused, hchars⟩ := huses _ _ _ hread
  rw [append_nil] at hused
  exact ⟨by rwa [hused], hlen⟩

def wordsOf (protocol src dst : String) (srcPort dstPort : UInt16) : List String :=
  ["PROXY", protocol, src, dst, toString srcPort.toNat, toString dstPort.toNat]

section Words

variable {protocol src dst : String} (hprotocol : protocol = "TCP4" ∨ protocol = "TCP6")
  (hsrc : AddrText src) (hdst : AddrText dst) (srcPort dstPort : UInt16)

include hprotocol hsrc hdst

theorem wordChar_of_mem_wordsOf {w : String} (hw : w ∈ wordsOf protocol src dst srcPort dstPort) :
    ∀ c ∈ w.toList, WordChar c := by
  have hfixed : ∀ w ∈ ["PROXY", "TCP4", "TCP6"], ∀ c ∈ w.toList, WordChar c := by
    have hall : ∀ w ∈ ["PROXY", "TCP4", "TCP6"], w.toList.all (fun c =>
        c.utf8Size == 1 && (c != ' ' && (c != '\r' && c != '\n'))) = true := by decide
    intro w hw c hc
    have hchar := all_eq_true.1 (hall w hw) c hc
    simp only [Bool.and_eq_true, beq_iff_eq, bne_iff_ne] at hchar
    exact ⟨hchar.1, hchar.2.1, hchar.2.2.1, hchar.2.2.2⟩
  have hport : ∀ port : UInt16, ∀ c ∈ (toString port.toNat).toList, WordChar c :=
    fun _ _ hc => wordChar_of_isDigit (isDigit_of_mem_toString hc)
  intro c hc
  simp only [wordsOf, mem_cons, not_mem_nil, or_false] at hw
  rcases hw with rfl | rfl | rfl | rfl | rfl | rfl
  · exact hfixed _ (by simp) c hc
  · exact hfixed _ (by rcases hprotocol with rfl | rfl <;> simp) c hc
  · exact wordChar_of_addrChar (hsrc.chars c hc)
  · exact wordChar_of_addrChar (hdst.chars c hc)
  · exact hport srcPort c hc
  · exact hport dstPort c hc

theorem length_wordsOf :
    (utf8Bytes (lineOf (wordsOf protocol src dst srcPort dstPort) ++ "\r\n")).length ≤ 107 := by
  have hport : ∀ port : UInt16, (toString port.toNat).toList.length ≤ 5 := by
    intro port
    rw [toString_eq_repr, toList_repr]
    exact (length_toDigits_le_iff (by decide) (by decide)).2 (lt_trans port.toNat_lt (by decide))
  have hsrcPort := hport srcPort
  have hdstPort := hport dstPort
  have hsrcLen := hsrc.length
  have hdstLen := hdst.length
  have hname : protocol.toList.length = 4 := by rcases hprotocol with rfl | rfl <;> rfl
  have hproxy : "PROXY".toList.length = 5 := rfl
  rw [← String.length_toList] at hsrcLen hdstLen
  rw [length_lineOf fun w => wordChar_of_mem_wordsOf hprotocol hsrc hdst srcPort dstPort]
  simp only [wordsOf, map_cons, map_nil, intercalate_cons_cons,
    intercalate_singleton, length_append, length_singleton]
  omega

end Words

theorem lineOf_wordsOf (protocol src dst : String) (srcPort dstPort : UInt16) :
    lineOf (wordsOf protocol src dst srcPort dstPort) =
      "PROXY " ++ protocol ++ " " ++ src ++ " " ++ dst ++ " " ++ toString srcPort.toNat ++ " " ++
        toString dstPort.toNat := by
  rw [← String.toList_inj]
  simp [lineOf, wordsOf, intercalate_cons_cons]

theorem readAll_of_eq {α : Type} {reader : Reader α} {x : α} (h : reader s.toList = some (x, [])) :
    readAll reader s = some x := by
  rw [readAll, h]

theorem readAll_port (port : UInt16) :
    readAll readPortNumber (toString port.toNat) = some port.toNat := by
  have hlen : (toDigits 10 port.toNat).length ≤ 5 :=
    (length_toDigits_le_iff (by decide) (by decide)).2 (lt_trans port.toNat_lt (by decide))
  have hread := @readNumber_toDigits 10 (by decide) (by decide) port.toNat 65536 (some 5) false
    [] port.toNat_lt (fun m hm => Option.some.inj hm ▸ hlen) (by simp)
  rw [append_nil] at hread
  refine readAll_of_eq ?_
  rw [toString_eq_repr, toList_repr]
  exact hread

theorem readEndpoints_eq {readIp : Reader A} {src dst : String} {y : A}
    (hsrc : readIp src.toList = some (x, [])) (hdst : readIp dst.toList = some (y, []))
    (srcPort dstPort : UInt16) :
    readEndpoints readIp src dst (toString srcPort.toNat) (toString dstPort.toNat) =
      some ⟨x, y, srcPort, dstPort⟩ := by
  simp only [readEndpoints, readAll_of_eq hsrc, readAll_of_eq hdst, readAll_port,
    Option.bind_eq_bind, Option.bind_some, UInt16.ofNat_toNat]

section RoundTrip

variable {fmt : IpFormat} (hfmt : fmt.RoundTrips) (clientAddr proxyAddr : SocketAddr)

include hfmt

theorem exists_wordsOf :
    ∃ protocol src dst, (protocol = "TCP4" ∨ protocol = "TCP6") ∧ AddrText src ∧ AddrText dst ∧
      encodeV1 fmt clientAddr proxyAddr =
        utf8Bytes (lineOf (wordsOf protocol src dst clientAddr.port proxyAddr.port) ++ "\r\n") ∧
      parseWords (wordsOf protocol src dst clientAddr.port proxyAddr.port) =
        some (proxyHeader clientAddr proxyAddr) := by
  cases clientAddr with
  | v4 ip port =>
    have htext : ∀ ip, AddrText (fmt.v4 ip) := fun ip =>
      .of_uses uses_readIpv4Addr (hfmt.v4 ip) (hfmt.length_v4 ip)
    have hends := readEndpoints_eq (hfmt.v4 ip) (hfmt.v4 proxyAddr.asIpv4) port proxyAddr.port
    refine ⟨"TCP4", fmt.v4 ip, fmt.v4 proxyAddr.asIpv4, .inl rfl, htext ip,
      htext proxyAddr.asIpv4, ?_, congrArg (Option.map (ProxyHeader.inet .stream)) hends⟩
    rw [lineOf_wordsOf]
    rfl
  | v6 ip port flowinfo scopeId =>
    have htext : ∀ ip, AddrText (fmt.v6 ip) := fun ip =>
      .of_uses uses_readIpv6Addr (hfmt.v6 ip) (hfmt.length_v6 ip)
    have hends := readEndpoints_eq (hfmt.v6 ip) (hfmt.v6 proxyAddr.asIpv6) port proxyAddr.port
    refine ⟨"TCP6", fmt.v6 ip, fmt.v6 proxyAddr.asIpv6, .inr rfl, htext ip,
      htext proxyAddr.asIpv6, ?_, congrArg (Option.map (ProxyHeader.inet6 .stream)) hends⟩
    rw [lineOf_wordsOf]
    rfl

/-- **A header in version 1 is read back**, whenever the written addresses are: it is a line of at
most 107 bytes. -/
theorem parseV1_encodeV1 :
    parseV1 (encodeV1 fmt clientAddr proxyAddr) = some (proxyHeader clientAddr proxyAddr) ∧
      [0x0D, 0x0A] <:+ encodeV1 fmt clientAddr proxyAddr ∧
      (encodeV1 fmt clientAddr proxyAddr).length ≤ 107 := by
  obtain ⟨protocol, src, dst, hprotocol, hsrc, hdst, hline, hparse⟩ :=
    exists_wordsOf hfmt clientAddr proxyAddr
  have hlen := length_wordsOf hprotocol hsrc hdst clientAddr.port proxyAddr.port
  have hcrlf : utf8Bytes "\r\n" = [0x0D, 0x0A] := by decide
  rw [hline]
  refine ⟨?_, ⟨_, by rw [utf8Bytes_append, hcrlf]⟩, hlen⟩
  rw [parseV1_lineOf (by simp [wordsOf])
    (fun w => wordChar_of_mem_wordsOf hprotocol hsrc hdst clientAddr.port proxyAddr.port) hlen,
    hparse]

end RoundTrip

end Wicket
