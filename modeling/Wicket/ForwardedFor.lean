/-
**The forwarding list of a request.**

The elements of `X-Forwarded-For` may stand on several lines.  The proxy reads the first line only,
takes it as empty when it is not visible ASCII, and replaces all lines.
-/

import Wicket.IpText
import Wicket.Routing

namespace Wicket

open List Net
open Text

/-! ### Lists in headers -/

/-- The white space that may stand around an element. -/
def isOws (c : Char) : Bool := c == ' ' || c == '\t'

def trimOws (s : String) : String :=
  String.ofList ((s.toList.dropWhile isOws).rdropWhile isOws)

/-- The elements of a list in a header; empty ones do not count. -/
def listElements (value : String) : List String :=
  ((split value ',').map trimOws).filter (· != "")

theorem listElements_append_comma (s t : String) :
    listElements (s ++ "," ++ t) = listElements s ++ listElements t := by
  have hsplit : split (s ++ "," ++ t) ',' = split s ',' ++ split t ',' :=
    split_append s t ','
  rw [listElements, hsplit, map_append, filter_append]
  rfl

theorem listElements_empty : listElements "" = [] := by decide

theorem listElements_word {s space : String} (hne : s ≠ "")
    (hword : ∀ c ∈ s.toList, c ≠ ',' ∧ isOws c = false)
    (hspace : ∀ c ∈ space.toList, isOws c = true) : listElements (space ++ s) = [s] := by
  have hcomma : ',' ∉ (space ++ s).toList := by
    rw [String.toList_append, mem_append]
    rintro (h | h)
    · exact absurd (hspace _ h) (by decide)
    · exact (hword _ h).1 rfl
  have hstart : (space ++ s).toList.dropWhile isOws = s.toList := by
    rw [String.toList_append, dropWhile_append_of_pos hspace, dropWhile_eq_self_iff]
    exact fun hl => by simp [(hword _ (getElem_mem hl)).2]
  have hend : s.toList.rdropWhile isOws = s.toList := by
    rw [rdropWhile_eq_self_iff]
    exact fun hl => by simp [(hword _ (getLast_mem hl)).2]
  have htrim : trimOws (space ++ s) = s := by
    rw [trimOws, hstart, hend, String.ofList_toList]
  rw [listElements, split_of_notMem hcomma, map_singleton, htrim]
  simp [hne]

/-! ### The lines of a header -/

section Lines

variable {cm : CaseMapping} {name : String}

def headerLines (cm : CaseMapping) (name : String) (lines : List HeaderLine) : List HeaderLine :=
  lines.filter fun line => cm.toLowercase line.name == name

def insertHeader (cm : CaseMapping) (lines : List HeaderLine) (line : HeaderLine) :
    List HeaderLine :=
  (lines.filter fun l => cm.toLowercase l.name != cm.toLowercase line.name) ++ [line]

theorem headerLines_insertHeader_self {line : HeaderLine} (hname : cm.toLowercase line.name = name)
    (lines : List HeaderLine) : headerLines cm name (insertHeader cm lines line) = [line] := by
  rw [headerLines, insertHeader, filter_append, filter_filter, hname, filter_eq_nil_iff.2 (by simp)]
  simp [hname]

theorem headerLines_insertHeader_of_ne {line : HeaderLine}
    (hname : cm.toLowercase line.name ≠ name) (lines : List HeaderLine) :
    headerLines cm name (insertHeader cm lines line) = headerLines cm name lines := by
  rw [headerLines, insertHeader, filter_append, filter_filter]
  have hlast : [line].filter (fun l => cm.toLowercase l.name == name) = [] := by simp [hname]
  rw [hlast, append_nil, headerLines]
  refine filter_congr fun l _ => ?_
  rw [Bool.and_eq_left_iff_imp, beq_iff_eq, bne_iff_ne]
  rintro rfl
  exact hname.symm

end Lines

/-! ### The headers of the upstream request -/

def requestIdLine (requestId : String) : HeaderLine := ⟨"x-request-id", requestId, rfl⟩

def forwardedForLine (value : String) : HeaderLine := ⟨"x-forwarded-for", value, rfl⟩

def clientIp : SocketAddr → String
  | .v4 ip _ => IpFormat.std.v4 ip
  | .v6 ip _ _ _ => IpFormat.std.v6 ip

/-- The value of the header for a client: a line that is not visible ASCII is taken as empty. -/
def xffValue (cm : CaseMapping) (lines : List HeaderLine) (addr : SocketAddr) : String :=
  match lines.find? fun line => cm.toLowercase line.name == "x-forwarded-for" with
  | some existing => existing.toStr.getD "" ++ ", " ++ clientIp addr
  | none => clientIp addr

def upstreamHeaders (cm : CaseMapping) (requestId : String) (client : Option SocketAddr)
    (lines : List HeaderLine) : List HeaderLine :=
  let lines := insertHeader cm lines (requestIdLine requestId)
  match client with
  | some addr => insertHeader cm lines (forwardedForLine (xffValue cm lines addr))
  | none => lines

def forwardingList (cm : CaseMapping) (lines : List HeaderLine) : List String :=
  (headerLines cm "x-forwarded-for" lines).flatMap fun line => listElements line.value

variable {cm : CaseMapping}

theorem toLowercase_forwardedFor (cm : CaseMapping) :
    cm.toLowercase "x-forwarded-for" = "x-forwarded-for" := by
  rw [cm.toLowercase_ascii _ rfl]
  decide

theorem toLowercase_requestId (cm : CaseMapping) :
    cm.toLowercase "x-request-id" ≠ "x-forwarded-for" := by
  rw [cm.toLowercase_ascii _ rfl]
  decide

theorem addrChar_of_read {A : Type} {reader : Reader A} {x : A} {s : String}
    (huses : Uses reader) (hempty : reader [] = none)
    (hread : reader s.toList = some (x, [])) :
    s ≠ "" ∧ ∀ c ∈ s.toList, addrChar c = true := by
  constructor
  · rintro rfl
    exact absurd (hempty.symm.trans hread) nofun
  · obtain ⟨used, hused, hchars⟩ := huses _ _ _ hread
    rw [append_nil] at hused
    rwa [hused]

theorem listElements_clientIp (addr : SocketAddr) {space : String}
    (hspace : ∀ c ∈ space.toList, isOws c = true) :
    listElements (space ++ clientIp addr) = [clientIp addr] := by
  have hstd := IpFormat.std_roundTrips
  have hchars : clientIp addr ≠ "" ∧ ∀ c ∈ (clientIp addr).toList, addrChar c = true := by
    cases addr with
    | v4 ip port => exact addrChar_of_read uses_readIpv4Addr rfl (hstd.v4 ip)
    | v6 ip port flow scope => exact addrChar_of_read uses_readIpv6Addr rfl (hstd.v6 ip)
  refine listElements_word hchars.1 (fun c hc => ⟨?_, ?_⟩) hspace
  · rintro rfl
    exact absurd (hchars.2 _ hc) (by decide)
  · by_contra hows
    simp only [isOws, Bool.not_eq_false, Bool.or_eq_true, beq_iff_eq] at hows
    rcases hows with rfl | rfl <;> exact absurd (hchars.2 _ hc) (by decide)

theorem listElements_xffValue (lines : List HeaderLine) (addr : SocketAddr) :
    listElements (xffValue cm lines addr) =
      ((headerLines cm "x-forwarded-for" lines).head?.elim []
        fun line => listElements (line.toStr.getD "")) ++ [clientIp addr] := by
  rw [xffValue, headerLines, head?_filter]
  cases lines.find? fun line => cm.toLowercase line.name == "x-forwarded-for" with
  | none => exact @listElements_clientIp addr "" (forall_mem_nil _)
  | some existing =>
    have htext : existing.toStr.getD "" ++ ", " ++ clientIp addr =
        existing.toStr.getD "" ++ "," ++ (" " ++ clientIp addr) := by
      rw [← String.toList_inj]
      simp [String.toList_append]
    show listElements (existing.toStr.getD "" ++ ", " ++ clientIp addr) = _
    rw [htext, listElements_append_comma, listElements_clientIp addr (all_eq_true.1 rfl)]
    rfl

/-- **The forwarding list arrives** exactly when no line after the first holds an element, and the
first holds none or is visible ASCII. -/
theorem forwardingList_upstreamHeaders_iff (cm : CaseMapping) (requestId : String)
    (addr : SocketAddr) (lines : List HeaderLine) :
    forwardingList cm (upstreamHeaders cm requestId (some addr) lines) =
        forwardingList cm lines ++ [clientIp addr] ↔
      (∀ line ∈ (headerLines cm "x-forwarded-for" lines).head?,
          line.toStr = none → listElements line.value = []) ∧
        ∀ line ∈ (headerLines cm "x-forwarded-for" lines).tail, listElements line.value = [] := by
  have hlines : headerLines cm "x-forwarded-for"
      (insertHeader cm lines (requestIdLine requestId)) = headerLines cm "x-forwarded-for" lines :=
    headerLines_insertHeader_of_ne (toLowercase_requestId cm) lines
  simp only [forwardingList, upstreamHeaders]
  rw [headerLines_insertHeader_self (toLowercase_forwardedFor cm), List.flatMap_singleton]
  simp only [forwardedForLine]
  rw [listElements_xffValue, hlines, List.append_left_inj]
  cases headerLines cm "x-forwarded-for" lines with
  | nil => simp
  | cons first others =>
    simp only [List.head?_cons, Option.elim_some, List.flatMap_cons, Option.mem_some_iff,
      forall_eq', List.tail_cons]
    cases hstr : first.toStr with
    | none => simp [listElements_empty, eq_comm (a := ([] : List String))]
    | some value =>
      rw [Option.getD_some, HeaderLine.value_of_toStr hstr, List.self_eq_append_right]
      simp

/-- Of two lines the second is lost, and a line with a byte above ASCII is lost altogether. -/
theorem forwardingList_loses_hops :
    forwardingList .ascii [forwardedForLine "203.0.113.7", forwardedForLine "198.51.100.2"] =
        ["203.0.113.7", "198.51.100.2"] ∧
      forwardingList .ascii (upstreamHeaders .ascii "req_1" (some (.v4 ⟨![10, 0, 0, 7]⟩ 4711))
        [forwardedForLine "203.0.113.7", forwardedForLine "198.51.100.2"]) =
        ["203.0.113.7", "10.0.0.7"] ∧
      forwardingList .ascii (upstreamHeaders .ascii "req_1" (some (.v4 ⟨![10, 0, 0, 7]⟩ 4711))
        [forwardedForLine "203.0.113.7, \xe9"]) = ["10.0.0.7"] := by
  decide +kernel

end Wicket
