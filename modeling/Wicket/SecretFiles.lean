/-
**The files of two Secrets.**

Files are named after namespace and name, each as its words joined by hyphens, with a hyphen between
them: where the words of the namespace end is lost.
-/

import Wicket.Secret
import Wicket.Segments

namespace Wicket

open KeyMap (HashMap)
open String List Text AList

/-! ### Hyphens -/

theorem head?_collapseHyphens_true (l : List Char) : (collapseHyphens true l).head? ≠ some '-' := by
  induction l with
  | nil => simp [collapseHyphens]
  | cons c l ih =>
    rw [collapseHyphens]
    by_cases hc : c = '-'
    · rw [if_pos (beq_iff_eq.2 hc), if_pos rfl]
      exact ih
    · rw [if_neg (by simpa using hc)]
      simpa using hc

theorem isChain_collapseHyphens (prevHyphen : Bool) (l : List Char) :
    (collapseHyphens prevHyphen l).IsChain fun a b => ¬(a = '-' ∧ b = '-') := by
  induction l generalizing prevHyphen with
  | nil =>
    exact .nil
  | cons c l ih =>
    rw [collapseHyphens]
    split
    · split
      · exact ih true
      · refine isChain_cons.2 ⟨?_, ih true⟩
        intro b hb hboth
        rw [hboth.2] at hb
        exact head?_collapseHyphens_true l hb
    · rename_i hc
      refine isChain_cons.2 ⟨?_, ih false⟩
      intro b _ hboth
      exact hc (beq_iff_eq.2 hboth.1)

theorem noGap_collapseHyphens (l : List Char) : NoGap '-' (collapseHyphens true l) :=
  ⟨head?_collapseHyphens_true l, isChain_collapseHyphens true l⟩

theorem parts_collapseHyphens (l : List Char) :
    parts '-' (collapseHyphens true l) = parts '-' l ∧
      ∀ before, parts '-' (before ++ collapseHyphens false l) = parts '-' (before ++ l) := by
  induction l with
  | nil => exact ⟨rfl, fun before => rfl⟩
  | cons c l ih =>
    obtain ⟨ihtrue, ihfalse⟩ := ih
    rw [collapseHyphens, collapseHyphens]
    by_cases hc : c = '-'
    · rw [if_pos (beq_iff_eq.2 hc), if_pos rfl, if_pos (beq_iff_eq.2 hc),
        if_neg Bool.false_ne_true, hc, parts_cons_self]
      refine ⟨ihtrue, ?_⟩
      intro before
      rw [parts_append_cons, parts_append_cons, ihtrue]
    · rw [if_neg (by simpa using hc), if_neg (by simpa using hc)]
      refine ⟨ihfalse [c], ?_⟩
      intro before
      rw [append_cons, ihfalse, ← append_cons]

theorem dropLast_eq_rdropWhile {l : List Char} (h : NoGap '-' l) :
    (if l.getLast? == some '-' then l.dropLast else l) = l.rdropWhile (· == '-') := by
  induction l using reverseRecOn with
  | nil => rfl
  | append_singleton l a _ =>
    rw [getLast?_concat, dropLast_concat, rdropWhile_concat]
    by_cases ha : a = '-'
    · subst ha
      -- the character before the last is no hyphen
      refine (rdropWhile_eq_self_iff.2 ?_).symm
      intro hne hlast
      have hrel := (isChain_append.1 h.chain).2.2 (l.getLast hne)
        (getLast?_eq_some_getLast hne) '-' rfl
      exact hrel ⟨beq_iff_eq.1 hlast, rfl⟩
    · rw [if_neg (by simpa using ha), if_neg (by simpa using ha)]

/-! ### Words -/

/-- A name with hyphens in the place of everything but letters and digits. -/
def hyphenate (s : String) : List Char :=
  s.toList.map fun c => if c.isAlphanum || c == '-' then c else '-'

/-- The words of a name: its longest parts of letters and digits. -/
def words (s : String) : List (List Char) := parts '-' (hyphenate s)

def fileWords (s : String) : List (List Char) :=
  parts '-' ((['-'].intercalate (words s)).take maxComponentLen)

theorem sanitizeFilenameComponent_eq (s : String) :
    sanitizeFilenameComponent s =
      if (((collapseHyphens true (hyphenate s)).rdropWhile (· == '-')).take
          maxComponentLen).rdropWhile (· == '-') = [] then "unnamed"
      else ofList ((((collapseHyphens true (hyphenate s)).rdropWhile (· == '-')).take
        maxComponentLen).rdropWhile (· == '-')) := by
  have hcut : ∀ l : List Char, (if maxComponentLen < (l.rdropWhile (· == '-')).length then
      popHyphens ((l.rdropWhile (· == '-')).take maxComponentLen) else l.rdropWhile (· == '-')) =
        ((l.rdropWhile (· == '-')).take maxComponentLen).rdropWhile (· == '-') := by
    intro l
    split
    · rfl
    · rw [take_of_length_le (by omega), rdropWhile_idempotent]
  rw [← hcut, ← dropLast_eq_rdropWhile (noGap_collapseHyphens _), sanitizeFilenameComponent]
  simp only [List.isEmpty_iff]
  rfl

/-! ### What is fit for a file name -/

/-- A text that is fit for a file name. -/
structure IsComponent (s : String) : Prop where
  ne_empty : s ≠ ""
  bytes : s.utf8ByteSize ≤ maxComponentLen
  chars : ∀ c ∈ s.toList, c.isAlphanum = true ∨ c = '-'
  first : s.toList.head? ≠ some '-'
  last : s.toList.getLast? ≠ some '-'
  inner : s.toList.IsChain fun a b => ¬(a = '-' ∧ b = '-')

theorem collapseHyphens_eq_self {l : List Char} {prevHyphen : Bool}
    (hfirst : prevHyphen = true → l.head? ≠ some '-')
    (hchain : l.IsChain fun a b => ¬(a = '-' ∧ b = '-')) : collapseHyphens prevHyphen l = l := by
  induction l generalizing prevHyphen with
  | nil => rfl
  | cons c l ih =>
    obtain ⟨hnext, hrest⟩ := isChain_cons.1 hchain
    rw [collapseHyphens]
    split
    · rename_i hc
      obtain rfl := beq_iff_eq.1 hc
      rw [if_neg fun hprev => hfirst hprev rfl, ih ?_ hrest]
      intro _ hhead
      exact hnext '-' hhead ⟨rfl, rfl⟩
    · rw [ih (fun h => absurd h Bool.false_ne_true) hrest]

theorem collapseHyphens_sublist (prevHyphen : Bool) (l : List Char) :
    (collapseHyphens prevHyphen l).Sublist l := by
  induction l generalizing prevHyphen with
  | nil => exact .slnil
  | cons c l ih =>
    rw [collapseHyphens]
    split_ifs
    · exact (ih true).cons c
    · exact (ih true).cons_cons c
    · exact (ih false).cons_cons c

theorem utf8Size_of_isComponent {c : Char} (h : c.isAlphanum = true ∨ c = '-') :
    c.utf8Size = 1 := by
  obtain halnum | rfl := h
  · exact utf8Size_of_isAlphanum halnum
  · rfl

theorem isComponent_sanitizeFilenameComponent (s : String) :
    IsComponent (sanitizeFilenameComponent s) := by
  rw [sanitizeFilenameComponent_eq]
  generalize hcollapsed : collapseHyphens true (hyphenate s) = collapsed
  -- what is kept stands at the front of the collapsed text
  have hkept : ((collapsed.rdropWhile (· == '-')).take maxComponentLen).rdropWhile (· == '-') <+:
      collapsed :=
    ((List.rdropWhile_prefix _ _).trans (List.take_prefix _ _)).trans (List.rdropWhile_prefix _ _)
  have hlength := (List.rdropWhile_prefix (· == '-')
    ((collapsed.rdropWhile (· == '-')).take maxComponentLen)).length_le.trans (length_take_le _ _)
  have hlast := rdropWhile_last_not (p := (· == '-'))
    (l := (collapsed.rdropWhile (· == '-')).take maxComponentLen)
  generalize ((collapsed.rdropWhile (· == '-')).take maxComponentLen).rdropWhile (· == '-') = kept
    at hkept hlength hlast
  split
  · have hletters : "unnamed".toList.all Char.isAlphanum = true := by decide
    exact ⟨by decide, by decide, fun c hc => .inl (all_eq_true.1 hletters c hc), by decide,
      by decide, by decide⟩
  · rename_i hne
    have hchars : ∀ c ∈ kept, c.isAlphanum = true ∨ c = '-' := by
      intro c hc
      rw [← hcollapsed] at hkept
      obtain ⟨a, -, rfl⟩ := mem_map.1
        ((collapseHyphens_sublist true (hyphenate s)).subset (hkept.subset hc))
      split
      · rename_i ha
        simpa using ha
      · exact .inr rfl
    have hgap : NoGap '-' kept :=
      (hcollapsed ▸ noGap_collapseHyphens (hyphenate s)).of_isPrefix hkept
    constructor
    · simpa using hne
    · rw [utf8ByteSize_of_forall fun c hc => utf8Size_of_isComponent (hchars c hc)]
      exact hlength
    all_goals rw [toList_ofList]
    · exact hchars
    · exact hgap.head
    · rw [getLast?_eq_some_getLast hne]
      simpa using hlast hne
    · exact hgap.chain

theorem sanitizeFilenameComponent_eq_self {s : String} (h : IsComponent s) :
    sanitizeFilenameComponent s = s := by
  have hhyphenate : hyphenate s = s.toList := by
    refine (map_congr_left fun c hc => ?_).trans (map_id _)
    rw [if_pos (by simpa using h.chars c hc), id]
  have hdrop : s.toList.rdropWhile (· == '-') = s.toList := by
    refine rdropWhile_eq_self_iff.2 fun hne hlast => ?_
    exact h.last (by rw [getLast?_eq_some_getLast hne, beq_iff_eq.1 hlast])
  have hlength : s.toList.length ≤ maxComponentLen := by
    have hbytes := h.bytes
    rwa [← ofList_toList (s := s), utf8ByteSize_of_forall fun c hc =>
      utf8Size_of_isComponent (h.chars c hc)] at hbytes
  rw [sanitizeFilenameComponent_eq, hhyphenate, collapseHyphens_eq_self (fun _ => h.first) h.inner,
    hdrop, take_of_length_le hlength, hdrop, ofList_toList, if_neg]
  simpa using h.ne_empty

/-- **What is made fit for a file name is fit for it**, and what is fit stays as it is. -/
theorem sanitizeFilenameComponent_spec (s : String) :
    IsComponent (sanitizeFilenameComponent s) ∧
      sanitizeFilenameComponent (sanitizeFilenameComponent s) = sanitizeFilenameComponent s ∧
      (sanitizeFilenameComponent s = s ↔ IsComponent s) := by
  have hfit := isComponent_sanitizeFilenameComponent s
  refine ⟨hfit, sanitizeFilenameComponent_eq_self hfit, ?_, sanitizeFilenameComponent_eq_self⟩
  intro h
  rwa [h] at hfit

/-! ### The words of a file name -/

variable {s : String}

theorem parts_sanitizeFilenameComponent (h : words s ≠ []) :
    Joined '-' (sanitizeFilenameComponent s).toList ∧
      parts '-' (sanitizeFilenameComponent s).toList = fileWords s := by
  have hgap := noGap_collapseHyphens (hyphenate s)
  have hparts : parts '-' (collapseHyphens true (hyphenate s)) = words s :=
    (parts_collapseHyphens _).1
  have hne : collapseHyphens true (hyphenate s) ≠ [] := by
    intro hnil
    rw [hnil, parts_nil] at hparts
    exact h hparts.symm
  have hjoined := hgap.joined_rdropWhile hne
  -- the text before it is cut
  have htext : (collapseHyphens true (hyphenate s)).rdropWhile (· == '-') =
      ['-'].intercalate (words s) := by
    rw [← hjoined.joined, parts_rdropWhile, hparts]
  have hcut : NoGap '-' ((['-'].intercalate (words s)).take maxComponentLen) := by
    rw [← htext]
    exact (hgap.of_isPrefix (List.rdropWhile_prefix _ _)).of_isPrefix (List.take_prefix _ _)
  have hcutne : (['-'].intercalate (words s)).take maxComponentLen ≠ [] := by
    rw [ne_eq, take_eq_nil_iff, ← htext]
    refine not_or.2 ⟨by decide, ?_⟩
    intro hnil
    rw [hnil] at hjoined
    exact hjoined.ne_nil (parts_nil _)
  have hfile := hcut.joined_rdropWhile hcutne
  have hsanitize : (sanitizeFilenameComponent s).toList =
      ((['-'].intercalate (words s)).take maxComponentLen).rdropWhile (· == '-') := by
    have hkept : ((['-'].intercalate (words s)).take maxComponentLen).rdropWhile (· == '-') ≠
        [] := by
      intro hnil
      rw [hnil] at hfile
      exact hfile.ne_nil (parts_nil _)
    rw [sanitizeFilenameComponent_eq, htext, if_neg hkept, toList_ofList]
  rw [hsanitize]
  exact ⟨hfile, parts_rdropWhile _⟩

theorem words_ne_nil {c : Char} (hc : c ∈ s.toList) (halnum : isAlnum c = true) : words s ≠ [] := by
  refine parts_ne_nil (a := c) ?_ ?_
  · exact mem_map.2 ⟨c, hc, by rw [isAlphanum_of_isAlnum halnum]; rfl⟩
  · intro heq
    rw [heq] at halnum
    cases halnum

theorem exists_isAlnum_of_isLabelText (h : isLabelText s = true) :
    ∃ c ∈ s.toList, isAlnum c = true := by
  simp only [isLabelText, Bool.and_eq_true] at h
  obtain ⟨c, hc, halnum⟩ := (Option.any_eq_true _ _).1 h.1.2
  exact ⟨c, mem_of_head? hc, halnum⟩

theorem words_ne_nil_of_validNamespace (h : validNamespace s = true) : words s ≠ [] := by
  rw [validNamespace, Bool.and_eq_true] at h
  obtain ⟨c, hc, halnum⟩ := exists_isAlnum_of_isLabelText h.1
  exact words_ne_nil hc halnum

theorem words_ne_nil_of_validName (h : validName s = true) : words s ≠ [] := by
  simp only [validName, Bool.and_eq_true, all_eq_true] at h
  obtain ⟨part, rest, hsplit⟩ := exists_splitOn_eq_cons '.' s.toList
  have hpart : part ∈ s.toList.splitOn '.' := by
    rw [hsplit]
    exact mem_cons_self
  obtain ⟨c, hc, halnum⟩ :=
    exists_isAlnum_of_isLabelText (h.1 (ofList part) (mem_map_of_mem hpart))
  rw [toList_ofList] at hc
  exact words_ne_nil (mem_of_mem_splitOn hpart hc) halnum

/-! ### Names of files -/

structure SecretName where
  ns : String
  name : String
  validNs : validNamespace ns = true
  validName : validName name = true

def SecretName.fileWords (k : SecretName) : List (List Char) :=
  Wicket.fileWords k.ns ++ Wicket.fileWords k.name

/-- **When two Secrets have the same file**: when the words of their namespaces and names are the
same together. -/
theorem tlsFileName_eq_iff (k k' : SecretName) (ext : String) :
    tlsFileName k.ns k.name ext = tlsFileName k'.ns k'.name ext ↔ k.fileWords = k'.fileWords := by
  have hchars : ∀ k : SecretName,
      (sanitizeFilenameComponent k.ns ++ "-" ++ sanitizeFilenameComponent k.name).toList =
        (sanitizeFilenameComponent k.ns).toList ++ '-' ::
          (sanitizeFilenameComponent k.name).toList := by
    simp [toList_append]
  obtain ⟨hns, hnsWords⟩ :=
    parts_sanitizeFilenameComponent (words_ne_nil_of_validNamespace k.validNs)
  obtain ⟨hname, hnameWords⟩ :=
    parts_sanitizeFilenameComponent (words_ne_nil_of_validName k.validName)
  obtain ⟨hns', hnsWords'⟩ :=
    parts_sanitizeFilenameComponent (words_ne_nil_of_validNamespace k'.validNs)
  obtain ⟨hname', hnameWords'⟩ :=
    parts_sanitizeFilenameComponent (words_ne_nil_of_validName k'.validName)
  rw [tlsFileName, tlsFileName, String.append_left_inj, String.append_left_inj, ← String.toList_inj,
    hchars, hchars, hns.append_inj hname hns' hname', hnsWords, hnameWords, hnsWords', hnameWords']
  rfl

/-- The two files of a Secret. -/
def tlsExts : List String := ["crt", "key"]

theorem tlsFileName_ne_of_ext {ns name ns' name' ext ext' : String} {c c' : Char}
    (hext : ext.toList.getLast? = some c) (hext' : ext'.toList.getLast? = some c') (hne : c ≠ c') :
    tlsFileName ns name ext ≠ tlsFileName ns' name' ext' := by
  intro h
  have hlast := congrArg (fun s : String => s.toList.getLast?) h
  simp only [tlsFileName, toList_append, getLast?_append, hext, hext', Option.some_or] at hlast
  exact hne (Option.some.inj hlast)

theorem tlsPath_ne_iff (ctx : SecretContext) (k k' : SecretName) :
    (∀ ext ∈ tlsExts, ∀ ext' ∈ tlsExts, ctx.tlsPath k.ns k.name ext ≠
        ctx.tlsPath k'.ns k'.name ext') ↔ k.fileWords ≠ k'.fileWords := by
  simp only [SecretContext.tlsPath, ne_eq, joinPath_inj]
  constructor
  · intro h hwords
    exact h "crt" (by decide) "crt" (by decide) ((tlsFileName_eq_iff k k' "crt").2 hwords)
  · intro hwords ext hext ext' hext'
    simp only [tlsExts, mem_cons, not_mem_nil, or_false] at hext hext'
    obtain rfl | rfl := hext <;> obtain rfl | rfl := hext'
    · exact (tlsFileName_eq_iff k k' _).not.2 hwords
    · exact tlsFileName_ne_of_ext (rfl : _ = some 't') (rfl : _ = some 'y') (by decide)
    · exact tlsFileName_ne_of_ext (rfl : _ = some 'y') (rfl : _ = some 't') (by decide)
    · exact (tlsFileName_eq_iff k k' _).not.2 hwords

/-! ### What a reconcile touches -/

/-- The file is none of those that a reconcile of the Secret writes or deletes. -/
structure Untouched (ctx : SecretContext) (ns name path : String) : Prop where
  tls : ∀ ext ∈ tlsExts, path ≠ ctx.tlsPath ns name ext
  temp : ∀ ext ∈ tlsExts, path ≠ ctx.tempPath ns name ext

section Touches

variable {ctx : SecretContext} {ns name path : String} (h : Untouched ctx ns name path)

include h

theorem lookup_writeTlsFile {ext : String} (hext : ext ∈ tlsExts) (data : List UInt8)
    (files : HashMap String (List UInt8)) :
    (writeTlsFile ctx ns name ext data files).1.lookup path = files.lookup path := by
  have htls := h.tls ext hext
  have htemp := h.temp ext hext
  unfold writeTlsFile
  dsimp only
  split
  · rfl
  · rfl
  · split
    · rfl
    · split
      · exact lookup_insert_ne htemp
      · split
        · exact lookup_insert_ne htemp
        · rw [lookup_insert_ne htls, lookup_erase_ne htemp, lookup_insert_ne htemp]

omit h in
theorem writeTlsFile_path {ext written : String} {data : List UInt8}
    {files files' : HashMap String (List UInt8)}
    (hwrite : writeTlsFile ctx ns name ext data files = (files', .ok written)) :
    written = ctx.tlsPath ns name ext := by
  unfold writeTlsFile at hwrite
  dsimp only at hwrite
  split at hwrite
  · cases hwrite
  · cases hwrite
    rfl
  · split at hwrite
    · cases hwrite
    · split at hwrite
      · cases hwrite
      · split at hwrite <;> cases hwrite
        rfl

omit h in
theorem lookup_deleteFiles {paths : List String} (hpath : path ∉ paths)
    (files : HashMap String (List UInt8)) :
    (deleteFiles ctx paths files).lookup path = files.lookup path := by
  refine foldlRecOn
    (motive := fun files' : HashMap String (List UInt8) => files'.lookup path = files.lookup path)
    paths _ rfl ?_
  intro files' hfiles deleted hdeleted
  split
  · rw [lookup_erase_ne, hfiles]
    intro heq
    exact hpath (heq ▸ hdeleted)
  · exact hfiles

theorem notMem_tlsPaths : path ∉ [ctx.tlsPath ns name "crt", ctx.tlsPath ns name "key"] := by
  simp only [mem_cons, not_mem_nil, or_false, not_or]
  exact ⟨h.tls "crt" (by decide), h.tls "key" (by decide)⟩

theorem lookup_extractTlsFiles (cert key : List UInt8) (st : SecretState) :
    (extractTlsFiles ctx ns name cert key st).1.files.lookup path = st.files.lookup path := by
  have hcert := lookup_writeTlsFile h (by decide : "crt" ∈ tlsExts) cert st.files
  unfold extractTlsFiles
  split
  · rename_i files e hwrite
    rw [hwrite] at hcert
    exact hcert
  · rename_i files certPath hwrite
    rw [hwrite] at hcert
    obtain rfl := writeTlsFile_path hwrite
    have hkey := lookup_writeTlsFile h (by decide : "key" ∈ tlsExts) key files
    split
    · rename_i files' e hwrite'
      rw [hwrite'] at hkey
      exact hkey.trans hcert
    · rename_i files' keyPath hwrite'
      rw [hwrite'] at hkey
      obtain rfl := writeTlsFile_path hwrite'
      split
      · -- files that cannot be loaded are deleted again
        exact (lookup_deleteFiles (notMem_tlsPaths h) files').trans (hkey.trans hcert)
      · exact hkey.trans hcert

theorem lookup_reconcileSecret {secret : Secret} (hns : secret.metadata.ns = some ns)
    (hname : secret.metadata.name = some name) (st : SecretState) :
    (reconcileSecret ctx secret st).1.files.lookup path = st.files.lookup path := by
  unfold reconcileSecret
  rw [hns, hname]
  dsimp only [Option.getD_some]
  split
  · exact lookup_deleteFiles (notMem_tlsPaths h) st.files
  · split
    · rfl
    · split
      · rfl
      · split
        · rfl
        · split
          · rfl
          · exact lookup_extractTlsFiles h _ _ st

end Touches

/-! ### Two Secrets -/

/-- Whatever happens to the first Secret, the files of the second stay as they are. -/
def SecretName.Spares (ctx : SecretContext) (k k' : SecretName) : Prop :=
  ∀ (secret : Secret) (st : SecretState), secret.metadata.ns = some k.ns →
    secret.metadata.name = some k.name → ∀ ext ∈ tlsExts,
      (reconcileSecret ctx secret st).1.files.lookup (ctx.tlsPath k'.ns k'.name ext) =
        st.files.lookup (ctx.tlsPath k'.ns k'.name ext)

/-- **The files of two Secrets are kept apart** exactly when the words of their namespaces and names
are not the same together. -/
theorem secretFiles_apart_iff (ctx : SecretContext) (k k' : SecretName) :
    (∀ ext ∈ tlsExts, ∀ ext' ∈ tlsExts, ctx.tlsPath k.ns k.name ext ≠
        ctx.tlsPath k'.ns k'.name ext') ∧ k.Spares ctx k' ↔
      k.fileWords ≠ k'.fileWords := by
  rw [tlsPath_ne_iff, and_iff_left_iff_imp]
  intro hwords secret st hns hname ext hext
  refine lookup_reconcileSecret ⟨?_, ?_⟩ hns hname st
  · intro ext' hext'
    exact ((tlsPath_ne_iff ctx k k').2 hwords ext' hext' ext hext).symm
  · intro ext' _
    -- a temporary file ends in a digit
    simp only [tlsExts, List.mem_cons, List.not_mem_nil, or_false] at hext
    obtain rfl | rfl := hext
    · exact (tempPath_ne_tlsPath ctx _ _ ext' (c := 't') rfl rfl).symm
    · exact (tempPath_ne_tlsPath ctx _ _ ext' (c := 'y') rfl rfl).symm

def hyphenInNamespace : SecretName := ⟨"a-b", "c", by decide, by decide⟩

def hyphenInName : SecretName := ⟨"a", "b-c", by decide, by decide⟩

def workingContext : SecretContext where
  api :=
    { listGateways := .ok []
      getGatewayClass := fun _ => .error "not found"
      listReferenceGrants := fun _ => .ok [] }
  disk :=
    { createDirAll := .ready
      write := fun _ => .ok ()
      setPermissions := fun _ => .ok ()
      rename := fun _ => .ok ()
      removeFile := fun _ => true }
  tlsCertDir := "/etc/wicket/tls"
  processId := 1
  loadCertifiedKey _ _ _ := .ok ()

/-- **Two Secrets with the same files.**  The certificate of the second replaces that of the first,
and deleting the second Secret deletes it. -/
theorem hyphens_share_files :
    (hyphenInNamespace.ns, hyphenInNamespace.name) ≠ (hyphenInName.ns, hyphenInName.name) ∧
    workingContext.tlsPath "a-b" "c" "crt" = "/etc/wicket/tls/a-b-c.crt" ∧
    workingContext.tlsPath "a" "b-c" "crt" = "/etc/wicket/tls/a-b-c.crt" ∧
    (∀ cert cert' files, (writeTlsFile workingContext "a" "b-c" "crt" cert'
        (writeTlsFile workingContext "a-b" "c" "crt" cert files).1).1.lookup
          "/etc/wicket/tls/a-b-c.crt" = some cert') ∧
    ∀ cert, (reconcileSecret workingContext
        { metadata := { ns := some "a", name := some "b-c" }
          deletionTimestamp := some "2026-01-01T00:00:00Z" }
        { files := (writeTlsFile workingContext "a-b" "c" "crt" cert ∅).1 }).1.files.lookup
          "/etc/wicket/tls/a-b-c.crt" = none := by
  have hworks : workingContext.disk.Works :=
    ⟨rfl, fun _ => rfl, fun _ => rfl, fun _ => rfl⟩
  have hpath : workingContext.tlsPath "a" "b-c" "crt" = "/etc/wicket/tls/a-b-c.crt" := by decide
  have hkey : workingContext.tlsPath "a" "b-c" "key" = "/etc/wicket/tls/a-b-c.key" := by decide
  refine ⟨by decide, by decide, hpath, ?_, ?_⟩
  · intro cert cert' files
    exact AList.lookup_insert _
  · intro cert
    have hne : "/etc/wicket/tls/a-b-c.crt" ≠ "/etc/wicket/tls/a-b-c.key" := by decide
    show ((AList.erase (workingContext.tlsPath "a" "b-c" "crt") _).erase
      (workingContext.tlsPath "a" "b-c" "key")).lookup _ = _
    rw [hpath, hkey, AList.lookup_erase_ne hne, AList.lookup_erase]

end Wicket
