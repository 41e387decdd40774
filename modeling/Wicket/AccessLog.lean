/-
**What can be read from a line of the access log.**

Both formats make the same five replacements.  In the combined format every quoted field can then be
found and unescaped; in JSON the other characters below the space have to be escaped too.
-/

import Wicket.JsonReader

namespace Wicket

open List JsonText

structure AccessLogEntry where
  remoteAddr : String
  timeLocal : String
  method : String
  requestUri : String
  protocol : String
  status : UInt16
  bytesSent : UInt64
  referer : String
  userAgent : String
  requestId : String
  route : String
  upstream : String
  durationMs : UInt64

/-! ### Escaping -/

def replaceChar (s : String) (c : Char) (new : String) : String :=
  String.ofList (s.toList.flatMap fun d => if d = c then new.toList else [d])

def replacements : List (Char × String) :=
  [('\\', "\\\\"), ('"', "\\\""), ('\n', "\\n"), ('\r', "\\r"), ('\t', "\\t")]

def replaceEach (rs : List (Char × String)) (value : String) : String :=
  rs.foldl (fun s r => replaceChar s r.1 r.2) value

def escapeAccessField (value : String) : String := replaceEach replacements value

def escapeJson (value : String) : String := replaceEach replacements value

def letters : List (Char × Char) :=
  [('\\', '\\'), ('"', '"'), ('\n', 'n'), ('\r', 'r'), ('\t', 't')]

def escaped (c : Char) : List Char :=
  match letters.lookup c with
  | some e => ['\\', e]
  | none => [c]

theorem mem_letters {c e : Char} :
    (c, e) ∈ letters ↔ c = '\\' ∧ e = '\\' ∨ c = '"' ∧ e = '"' ∨ c = '\n' ∧ e = 'n' ∨
      c = '\r' ∧ e = 'r' ∨ c = '\t' ∧ e = 't' := by
  simp [letters]

theorem escaped_cases (c : Char) :
    (∃ e, (c, e) ∈ letters ∧ escaped c = ['\\', e]) ∨
      ((c ≠ '\\' ∧ c ≠ '"' ∧ c ≠ '\n' ∧ c ≠ '\r' ∧ c ≠ '\t') ∧ escaped c = [c]) := by
  rw [escaped]
  cases hlookup : letters.lookup c with
  | some e =>
    obtain ⟨before, after, heq, -⟩ := lookup_eq_some_iff.1 hlookup
    exact .inl ⟨e, by rw [heq]; simp, rfl⟩
  | none =>
    simpa [letters, lookup_eq_none_iff] using hlookup

theorem toList_replaceEach (value : String) :
    (replaceEach replacements value).toList = value.toList.flatMap escaped := by
  simp only [replaceEach, replacements, foldl_cons, foldl_nil, replaceChar,
    String.toList_ofList, flatMap_assoc]
  refine flatMap_congr fun c _ => ?_
  rcases escaped_cases c with ⟨e, he, -⟩ | ⟨hc, hself⟩
  · obtain ⟨rfl, -⟩ | ⟨rfl, -⟩ | ⟨rfl, -⟩ | ⟨rfl, -⟩ | ⟨rfl, -⟩ := mem_letters.1 he <;> decide
  · simp [hself, hc]

/-! ### The JSON format -/

/-- A member of the object that is written. -/
inductive LogField where
  | text (name value : String)
  | number (name : String) (n : ℕ)

def LogField.name : LogField → String
  | .text name _ | .number name _ => name

def LogField.valueText : LogField → List Char
  | .text _ value => '"' :: ((escapeJson value).toList ++ ['"'])
  | .number _ n => JsonText.number n

def LogField.memberText (f : LogField) : List Char :=
  '"' :: (f.name.toList ++ '"' :: ':' :: f.valueText)

def LogField.value : LogField → JsonText.Value
  | .text _ value => .string value
  | .number _ n => .number n 0

def AccessLogEntry.fields (entry : AccessLogEntry) : List LogField :=
  [.text "remote_addr" entry.remoteAddr, .text "time_local" entry.timeLocal,
    .text "method" entry.method, .text "request_uri" entry.requestUri,
    .text "protocol" entry.protocol, .number "status" entry.status.toNat,
    .number "bytes_sent" entry.bytesSent.toNat, .text "referer" entry.referer,
    .text "user_agent" entry.userAgent, .text "request_id" entry.requestId,
    .text "route" entry.route, .text "upstream" entry.upstream,
    .number "duration_ms" entry.durationMs.toNat]

def formatJsonAccessLog (entry : AccessLogEntry) : String :=
  String.ofList ('{' :: (JsonText.commas (entry.fields.map LogField.memberText) ++ ['}']))

/-- The record a reader should get. -/
def AccessLogEntry.json (entry : AccessLogEntry) : JsonText.Value :=
  .object (entry.fields.map fun f => (f.name, f.value))

/-- No character below the space but line feed, carriage return and tab. -/
def NoControl (s : String) : Prop := ∀ c ∈ s.toList, 32 ≤ c.toNat ∨ c ∈ ['\n', '\r', '\t']

instance : DecidablePred NoControl := fun s =>
  inferInstanceAs (Decidable (∀ c ∈ s.toList, 32 ≤ c.toNat ∨ c ∈ ['\n', '\r', '\t']))

def AccessLogEntry.texts (entry : AccessLogEntry) : List String :=
  [entry.remoteAddr, entry.timeLocal, entry.method, entry.requestUri, entry.protocol,
    entry.referer, entry.userAgent, entry.requestId, entry.route, entry.upstream]

theorem isEscaping_escaped : JsonText.IsEscaping escaped := by
  intro c
  rcases escaped_cases c with ⟨e, he, hc⟩ | ⟨hne, hc⟩
  · refine .inl ⟨e, hc, ?_⟩
    obtain ⟨rfl, rfl⟩ | ⟨rfl, rfl⟩ | ⟨rfl, rfl⟩ | ⟨rfl, rfl⟩ | ⟨rfl, rfl⟩ := mem_letters.1 he <;>
      rfl
  · exact .inr (.inr ⟨hc, hne.2.1, hne.1⟩)

theorem plain_escaped_iff {s : String} : Plain escaped s.toList ↔ NoControl s := by
  refine forall₂_congr fun c _ => ?_
  rcases escaped_cases c with ⟨e, he, hc⟩ | ⟨hne, hc⟩
  · obtain ⟨rfl, -⟩ | ⟨rfl, -⟩ | ⟨rfl, -⟩ | ⟨rfl, -⟩ | ⟨rfl, -⟩ := mem_letters.1 he <;> decide
  · simp [hc, hne]

def LogField.Readable : LogField → Prop
  | .text _ value => NoControl value
  | .number _ _ => True

instance : DecidablePred LogField.Readable
  | .text _ value => inferInstanceAs (Decidable (NoControl value))
  | .number _ _ => inferInstanceAs (Decidable True)

theorem LogField.reads_memberText (f : LogField) (depth : ℕ)
    (hname : f.name.toList.flatMap escapeChar = f.name.toList) :
    JsonText.Reads (readMember (readValue (depth + 1))) f.memberText
      (if f.Readable then some (f.name, f.value) else none) := by
  have hmember : ∀ {t v}, JsonText.Reads (readValue (depth + 1)) t v → _ := fun hvalue =>
    reads_member hvalue isEscaping_escapeChar (plain_escapeChar f.name.toList)
  rw [hname] at hmember
  cases f with
  | text name value =>
    have hread := hmember (reads_quoted isEscaping_escaped value depth)
    simp only [plain_escaped_iff, apply_ite (Option.map (Prod.mk _)), Option.map_some,
      Option.map_none] at hread
    rw [LogField.memberText, LogField.valueText, escapeJson, toList_replaceEach]
    exact hread
  | number name n => exact hmember (reads_number n depth)

variable (entry : AccessLogEntry)

theorem AccessLogEntry.readable_iff :
    (∀ f ∈ entry.fields, f.Readable) ↔ ∀ s ∈ entry.texts, NoControl s := by
  simp [AccessLogEntry.fields, AccessLogEntry.texts, LogField.Readable]

theorem read_formatJsonAccessLog :
    read (formatJsonAccessLog entry) =
      if ∀ s ∈ entry.texts, NoControl s then some entry.json else none := by
  have hnames : ∀ name ∈ entry.fields.map LogField.name,
      name.toList.flatMap escapeChar = name.toList := by
    simp only [AccessLogEntry.fields, map_cons, map_nil, LogField.name]
    decide
  refine read_ofList ?_
  have hobject := fun depth => reads_object
    (fun f hf => LogField.reads_memberText f depth (hnames _ (mem_map_of_mem hf))) fun f _ => by
      rw [LogField.memberText, head?_cons]
  simp only [mapM_ite, entry.readable_iff, apply_ite (Option.map JsonText.Value.object),
    Option.map_some, Option.map_none] at hobject
  exact hobject _

/-- **Which lines are JSON**: those whose texts have no control character but the three that are
replaced. -/
theorem read_formatJsonAccessLog_iff :
    JsonText.read (formatJsonAccessLog entry) = some entry.json ↔
      ∀ s ∈ entry.texts, NoControl s := by
  rw [read_formatJsonAccessLog]
  split
  · exact iff_of_true rfl ‹_›
  · exact iff_of_false nofun ‹_›

/-- A request for a route whose name in the configuration has a backspace in it. -/
def controlEntry : AccessLogEntry where
  remoteAddr := "10.0.0.7"
  timeLocal := "01/Jan/2026:00:00:00 +0000"
  method := "GET"
  requestUri := "/a"
  protocol := "HTTP/1.1"
  status := 200
  bytesSent := 5
  referer := "-"
  userAgent := "curl/8.5.0"
  requestId := "req_1"
  route := "a\x08pi"
  upstream := "web"
  durationMs := 3

theorem read_controlEntry :
    ¬NoControl controlEntry.route ∧
      JsonText.read (formatJsonAccessLog controlEntry) = none := by
  have hcontrol : ¬NoControl controlEntry.route := by
    intro h
    exact absurd (h '\x08' (by decide)) (by decide)
  refine ⟨hcontrol, ?_⟩
  rw [read_formatJsonAccessLog, if_neg]
  exact fun h => hcontrol (h _ (by simp [AccessLogEntry.texts]))

/-! ### The combined format -/

def formatCombinedAccessLog (entry : AccessLogEntry) : String :=
  escapeAccessField entry.remoteAddr ++ " - - [" ++ entry.timeLocal ++ "] \"" ++
    escapeAccessField entry.method ++ " " ++ escapeAccessField entry.requestUri ++ " " ++
    escapeAccessField entry.protocol ++ "\" " ++ toString entry.status.toNat ++ " " ++
    toString entry.bytesSent.toNat ++ " \"" ++ escapeAccessField entry.referer ++ "\" \"" ++
    escapeAccessField entry.userAgent ++ "\" \"" ++ escapeAccessField entry.requestId ++
    "\" \"" ++ escapeAccessField entry.route ++ "\" \"" ++ escapeAccessField entry.upstream ++
    "\" " ++ toString entry.durationMs.toNat

def unescapedQuotes : List Char → ℕ
  | [] => 0
  | '\\' :: _ :: cs => unescapedQuotes cs
  | '"' :: cs => unescapedQuotes cs + 1
  | _ :: cs => unescapedQuotes cs

def splitQuotes : List Char → List (List Char)
  | [] => [[]]
  | '\\' :: c :: cs => (splitQuotes cs).modifyHead fun part => '\\' :: c :: part
  | '"' :: cs => [] :: splitQuotes cs
  | c :: cs => (splitQuotes cs).modifyHead (c :: ·)

def unescapeField : List Char → List Char
  | [] => []
  | '\\' :: e :: cs => ((letters.map Prod.swap).lookup e).getD e :: unescapeField cs
  | c :: cs => c :: unescapeField cs

def everySecond {α : Type} : List α → List α
  | _ :: a :: as => a :: everySecond as
  | _ => []

/-- What a reader takes from a line: the unescaped texts between quotes. -/
def quotedFields (line : String) : List String :=
  (everySecond (splitQuotes line.toList)).map fun part => String.ofList (unescapeField part)

def AccessLogEntry.requestLine (entry : AccessLogEntry) : String :=
  entry.method ++ " " ++ entry.requestUri ++ " " ++ entry.protocol

theorem length_splitQuotes (cs : List Char) : (splitQuotes cs).length = unescapedQuotes cs + 1 := by
  fun_induction splitQuotes cs <;> simp_all [unescapedQuotes]

theorem unescapeField_escaped (cs rest : List Char) :
    unescapeField (cs.flatMap escaped ++ rest) = cs ++ unescapeField rest := by
  induction cs with
  | nil => rfl
  | cons c cs ih =>
    rw [flatMap_cons, append_assoc]
    rcases escaped_cases c with ⟨e, he, hc⟩ | ⟨hne, hc⟩
    · obtain ⟨rfl, rfl⟩ | ⟨rfl, rfl⟩ | ⟨rfl, rfl⟩ | ⟨rfl, rfl⟩ | ⟨rfl, rfl⟩ := mem_letters.1 he <;>
        exact congrArg (_ :: ·) ih
    · rw [hc, cons_append, nil_append, unescapeField.eq_3 _ _ (by simp [hne.1]), ih]
      rfl

/-- A text that neither holds a quote to split at nor hides the next one. -/
def Closed (part : List Char) : Prop :=
  ∀ rest, splitQuotes (part ++ rest) = (splitQuotes rest).modifyHead (part ++ ·)

structure OneLine (part : List Char) : Prop where
  closed : Closed part
  noBreak : ∀ c ∈ part, c ≠ '\n' ∧ c ≠ '\r'

theorem oneLine_nil : OneLine [] :=
  ⟨fun rest => (congrFun modifyHead_id (splitQuotes rest)).symm, by simp⟩

theorem OneLine.append {part part' : List Char} (h : OneLine part) (h' : OneLine part') :
    OneLine (part ++ part') := by
  refine ⟨fun rest => ?_, fun c hc => ?_⟩
  · rw [append_assoc, h.closed, h'.closed, modifyHead_modifyHead]
    simp [Function.comp_def]
  · exact (mem_append.1 hc).elim (h.noBreak c) (h'.noBreak c)

theorem oneLine_flatMap {f : Char → List Char} {cs : List Char} (h : ∀ c ∈ cs, OneLine (f c)) :
    OneLine (cs.flatMap f) := by
  induction cs with
  | nil => exact oneLine_nil
  | cons c cs ih =>
    exact (h c mem_cons_self).append (ih fun c hc => h c (mem_cons_of_mem _ hc))

def isPlain (c : Char) : Bool := c != '\\' && (c != '"' && (c != '\n' && c != '\r'))

theorem oneLine_singleton {c : Char} (h : isPlain c = true) : OneLine [c] := by
  simp only [isPlain, Bool.and_eq_true, bne_iff_ne] at h
  refine ⟨fun rest => ?_, by simp [h]⟩
  rw [cons_append, nil_append, splitQuotes.eq_4 _ _ (by simp [h]) h.2.1]
  rfl

theorem oneLine_of_all {part : List Char} (h : part.all isPlain = true) : OneLine part := by
  have hpart := oneLine_flatMap fun c hc => oneLine_singleton (all_eq_true.1 h c hc)
  rwa [flatMap_singleton'] at hpart

theorem oneLine_number (n : ℕ) : OneLine (toString n).toList := by
  refine oneLine_of_all (all_eq_true.2 fun c hc => ?_)
  have hdigit := Text.isDigit_of_mem_toString hc
  have hne : ∀ d : Char, d.isDigit = false → c ≠ d := by
    rintro d hd rfl
    rw [hd] at hdigit
    cases hdigit
  simp [isPlain, hne '\\' rfl, hne '"' rfl, hne '\n' rfl, hne '\r' rfl]

theorem oneLine_escapeAccessField (value : String) : OneLine (escapeAccessField value).toList := by
  rw [escapeAccessField, toList_replaceEach]
  refine oneLine_flatMap fun c _ => ?_
  rcases escaped_cases c with ⟨e, he, hc⟩ | ⟨hne, hc⟩
  · have hbreak : e ≠ '\n' ∧ e ≠ '\r' := by
      obtain ⟨-, rfl⟩ | ⟨-, rfl⟩ | ⟨-, rfl⟩ | ⟨-, rfl⟩ | ⟨-, rfl⟩ := mem_letters.1 he <;> decide
    rw [hc]
    exact ⟨fun rest => rfl, by simp [hbreak]⟩
  · rw [hc]
    exact oneLine_singleton (by simp [isPlain, hne])

theorem splitQuotes_intercalate {parts : List (List Char)} (hne : parts ≠ [])
    (h : ∀ part ∈ parts, OneLine part) :
    splitQuotes (['"'].intercalate parts) = parts ∧
      ∀ c ∈ ['"'].intercalate parts, c ≠ '\n' ∧ c ≠ '\r' := by
  induction parts with
  | nil => exact absurd rfl hne
  | cons part parts ih =>
    have hpart := h part mem_cons_self
    cases parts with
    | nil =>
      have hsplit := hpart.closed []
      rw [intercalate_singleton]
      exact ⟨by simpa [splitQuotes] using hsplit, hpart.noBreak⟩
    | cons next parts =>
      obtain ⟨hsplit, hbreak⟩ := ih nofun fun p hp => h p (mem_cons_of_mem _ hp)
      rw [intercalate_cons_cons, append_assoc, cons_append, nil_append]
      refine ⟨?_, fun c hc => ?_⟩
      · rw [hpart.closed, splitQuotes, hsplit]
        simp
      · rcases mem_append.1 hc with hc | hc
        · exact hpart.noBreak c hc
        · rcases mem_cons.1 hc with rfl | hc
          · decide
          · exact hbreak c hc

def AccessLogEntry.parts (entry : AccessLogEntry) : List (List Char) :=
  [(escapeAccessField entry.remoteAddr).toList ++
      (" - - [".toList ++ (entry.timeLocal.toList ++ "] ".toList)),
    (escapeAccessField entry.method).toList ++ (" ".toList ++
      ((escapeAccessField entry.requestUri).toList ++
        (" ".toList ++ (escapeAccessField entry.protocol).toList))),
    " ".toList ++ ((toString entry.status.toNat).toList ++
      (" ".toList ++ ((toString entry.bytesSent.toNat).toList ++ " ".toList))),
    (escapeAccessField entry.referer).toList, " ".toList,
    (escapeAccessField entry.userAgent).toList, " ".toList,
    (escapeAccessField entry.requestId).toList, " ".toList,
    (escapeAccessField entry.route).toList, " ".toList,
    (escapeAccessField entry.upstream).toList,
    " ".toList ++ (toString entry.durationMs.toNat).toList]

variable {entry : AccessLogEntry}

theorem toList_formatCombinedAccessLog :
    (formatCombinedAccessLog entry).toList = ['"'].intercalate entry.parts := by
  unfold formatCombinedAccessLog AccessLogEntry.parts
  simp

theorem AccessLogEntry.oneLine_of_mem_parts
    (htime : ∀ c ∈ entry.timeLocal.toList, c ≠ '"' ∧ c ≠ '\\' ∧ c ≠ '\n' ∧ c ≠ '\r') :
    ∀ part ∈ entry.parts, OneLine part := by
  have htimeLocal : OneLine entry.timeLocal.toList := by
    refine oneLine_of_all (all_eq_true.2 fun c hc => ?_)
    simp [isPlain, htime c hc]
  have hspace : OneLine " ".toList := oneLine_of_all (by decide)
  have hopen : OneLine " - - [".toList := oneLine_of_all (by decide)
  have hclose : OneLine "] ".toList := oneLine_of_all (by decide)
  have hfield := oneLine_escapeAccessField
  have hnumber := oneLine_number
  simp only [AccessLogEntry.parts, forall_mem_cons]
  exact ⟨(hfield _).append (hopen.append (htimeLocal.append hclose)),
    (hfield _).append (hspace.append ((hfield _).append (hspace.append (hfield _)))),
    hspace.append ((hnumber _).append (hspace.append ((hnumber _).append hspace))),
    hfield _, hspace, hfield _, hspace, hfield _, hspace, hfield _, hspace, hfield _,
    hspace.append (hnumber _), forall_mem_nil _⟩

/-- **No field of a line is forged**, unless the time holds quotes, backslashes or line breaks. -/
theorem formatCombinedAccessLog_fields (entry : AccessLogEntry)
    (htime : ∀ c ∈ entry.timeLocal.toList, c ≠ '"' ∧ c ≠ '\\' ∧ c ≠ '\n' ∧ c ≠ '\r') :
    '\n' ∉ (formatCombinedAccessLog entry).toList ∧ '\r' ∉ (formatCombinedAccessLog entry).toList ∧
      unescapedQuotes (formatCombinedAccessLog entry).toList = 12 ∧
      quotedFields (formatCombinedAccessLog entry) =
        [entry.requestLine, entry.referer, entry.userAgent, entry.requestId, entry.route,
          entry.upstream] := by
  obtain ⟨hsplit, hbreak⟩ := splitQuotes_intercalate (by simp [AccessLogEntry.parts])
    (AccessLogEntry.oneLine_of_mem_parts htime)
  rw [← toList_formatCombinedAccessLog] at hsplit hbreak
  have hquotes := length_splitQuotes (formatCombinedAccessLog entry).toList
  rw [hsplit] at hquotes
  refine ⟨fun h => (hbreak _ h).1 rfl, fun h => (hbreak _ h).2 rfl, Nat.succ.inj hquotes.symm, ?_⟩
  have hrest : ∀ (value : String) (rest : List Char), unescapeField
      ((escapeAccessField value).toList ++ rest) = value.toList ++ unescapeField rest := by
    intro value rest
    rw [escapeAccessField, toList_replaceEach, unescapeField_escaped]
  have hfield : ∀ value, unescapeField (escapeAccessField value).toList = value.toList := by
    intro value
    have hself := hrest value []
    rwa [List.append_nil, unescapeField, List.append_nil] at hself
  have hspace : ∀ rest : List Char, unescapeField (" ".toList ++ rest) =
      " ".toList ++ unescapeField rest := fun _ => rfl
  rw [quotedFields, hsplit]
  simp only [AccessLogEntry.parts, everySecond, List.map_cons, List.map_nil, hrest, hspace, hfield]
  simp [AccessLogEntry.requestLine, String.append_assoc]

theorem formatCombinedAccessLog_fields_quote :
    quotedFields (formatCombinedAccessLog
        { controlEntry with referer := "\" \"forged", userAgent := "a\nb\\" }) =
      ["GET /a HTTP/1.1", "\" \"forged", "a\nb\\", "req_1", "a\x08pi", "web"] :=
  (formatCombinedAccessLog_fields
    { controlEntry with referer := "\" \"forged", userAgent := "a\nb\\" } (by
      have hplain : controlEntry.timeLocal.toList.all isPlain = true := by decide
      intro c hc
      have hc := List.all_eq_true.1 hplain c hc
      simp only [isPlain, Bool.and_eq_true, bne_iff_ne] at hc
      exact ⟨hc.2.1, hc.1, hc.2.2⟩)).2.2.2

end Wicket
