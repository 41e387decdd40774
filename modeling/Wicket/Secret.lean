/-
**TLS Secrets.**

References from other namespaces are checked against the ReferenceGrants, but the verdict is only
logged: certificate and key are written to files, and their paths are stored.
-/

import Wicket.Generator

namespace Wicket

open String AList

open KeyMap (HashMap)

/-! ### Surroundings -/

structure Secret where
  metadata : ObjectMeta
  deletionTimestamp : Option String := none
  type : Option String := none
  data : Option (HashMap String (List UInt8)) := none

inductive SecretError
  | KubeError (e : String)
  | WriteFile (text : String)
  | InvalidTlsMaterial (text : String)
  deriving DecidableEq

/-- What the controller does next with an object. -/
inductive Action
  | awaitChange
  | requeue (seconds : ℕ)
  deriving DecidableEq

structure KubeApi where
  listGateways : Except String (List Gateway)
  getGatewayClass : String → Except String GatewayClass
  listReferenceGrants : String → Except String (List ReferenceGrant)

/-- What creating the directory for the files comes to. -/
inductive DirOutcome
  | ready
  | notWritable
  | failed (e : String)
  deriving DecidableEq

structure Disk where
  createDirAll : DirOutcome
  write : String → Except String Unit
  setPermissions : String → Except String Unit
  rename : String → Except String Unit
  removeFile : String → Bool

structure SecretContext where
  api : KubeApi
  disk : Disk
  tlsCertDir : String
  processId : ℕ
  loadCertifiedKey : HashMap String (List UInt8) → String → String → Except String Unit

structure SecretState where
  files : HashMap String (List UInt8) := ∅
  tlsSecrets : HashMap String (String × String) := ∅

/-! ### Files -/

/-- Drops hyphens that follow a hyphen; the flag says whether one came just before. -/
def collapseHyphens : Bool → List Char → List Char
  | _, [] => []
  | prevHyphen, c :: cs =>
    if c == '-' then
      if prevHyphen then collapseHyphens true cs else c :: collapseHyphens true cs
    else c :: collapseHyphens false cs

def popHyphens (cs : List Char) : List Char := (cs.reverse.dropWhile (· == '-')).reverse

def maxComponentLen : ℕ := 63

/-- Makes a text fit for a file name. -/
def sanitizeFilenameComponent (s : String) : String :=
  let sanitized := s.toList.map fun c => if c.isAlphanum || c == '-' then c else '-'
  let collapsed := collapseHyphens true sanitized
  let result := if collapsed.getLast? == some '-' then collapsed.dropLast else collapsed
  let result :=
    if maxComponentLen < result.length then popHyphens (result.take maxComponentLen) else result
  if result.isEmpty then "unnamed" else String.ofList result

def joinPath (dir name : String) : String :=
  if dir == "" || Text.endsWith dir "/" then dir ++ name else dir ++ "/" ++ name

def tlsFileName (ns name ext : String) : String :=
  sanitizeFilenameComponent ns ++ "-" ++ sanitizeFilenameComponent name ++ "." ++ ext

def SecretContext.tlsPath (ctx : SecretContext) (ns name ext : String) : String :=
  joinPath ctx.tlsCertDir (tlsFileName ns name ext)

def SecretContext.tempPath (ctx : SecretContext) (ns name ext : String) : String :=
  joinPath ctx.tlsCertDir ("." ++ tlsFileName ns name ext ++ ".tmp." ++ toString ctx.processId)

/-- Writes to a temporary file, which then replaces the file.  When the directory cannot be written
nothing is, and the path is returned all the same. -/
def writeTlsFile (ctx : SecretContext) (ns name ext : String) (data : List UInt8)
    (files : HashMap String (List UInt8)) :
    HashMap String (List UInt8) × Except SecretError String :=
  let path := ctx.tlsPath ns name ext
  let tempPath := ctx.tempPath ns name ext
  match ctx.disk.createDirAll with
  | .failed e => (files, .error (.WriteFile ("Failed to create dir: " ++ e)))
  -- managed-runtime mode, where the proxy gets its certificates from mounted Secrets
  | .notWritable => (files, .ok path)
  | .ready =>
    match ctx.disk.write tempPath with
    | .error e => (files, .error (.WriteFile ("Failed to write temp file: " ++ e)))
    | .ok () =>
      match ctx.disk.setPermissions tempPath with
      | .error e =>
        (files.insert tempPath data,
          .error (.WriteFile ("Failed to set permissions: " ++ e)))
      | .ok () =>
        match ctx.disk.rename path with
        | .error e =>
          (files.insert tempPath data,
            .error (.WriteFile ("Failed to rename temp file: " ++ e)))
        | .ok () => (((files.insert tempPath data).erase tempPath).insert path data, .ok path)

def deleteFiles (ctx : SecretContext) (paths : List String)
    (files : HashMap String (List UInt8)) : HashMap String (List UInt8) :=
  paths.foldl (fun files path => if ctx.disk.removeFile path then files.erase path else files) files

/-! ### References -/

def Listener.refersTo (l : Listener) (gwNs secretNs secretName : String) : Bool :=
  l.certificateRefs.any fun ref => ref.ns.getD gwNs == secretNs && ref.name == secretName

def findReferencingGateways (api : KubeApi) (secretNs secretName : String) :
    Except SecretError (List (String × String)) :=
  match api.listGateways with
  | .error e => .error (.KubeError e)
  | .ok gateways => .ok <| gateways.flatMap fun g =>
    let gwNs := g.metadata.ns.getD ""
    let isWicket := match api.getGatewayClass g.spec.gatewayClassName with
      | .ok gc => gc.isWicketManaged
      | .error _ => false
    if !isWicket then []
    else (g.spec.listeners.filter fun l => l.refersTo gwNs secretNs secretName).map fun _ =>
      (gwNs, g.metadata.name.getD "")

def validateReferenceGrant (api : KubeApi) (secretNs gatewayNs secretName : String) :
    Except SecretError Bool :=
  match api.listReferenceGrants secretNs with
  | .error e => .error (.KubeError e)
  | .ok grants => .ok <| grants.any fun g =>
    g.allowsTlsSecretReference gatewayNs (some secretName) ||
      g.allowsTlsSecretReference gatewayNs none

def checkReferences (api : KubeApi) (secretNs secretName : String) :
    List (String × String) → Except SecretError Unit
  | [] => .ok ()
  | (gwNs, _) :: rest =>
    if gwNs != secretNs then
      match validateReferenceGrant api secretNs gwNs secretName with
      | .error e => .error e
      -- a reference that is not permitted is logged and the loop goes on
      | .ok _permitted => checkReferences api secretNs secretName rest
    else checkReferences api secretNs secretName rest

/-! ### The reconciler -/

def Secret.tlsData (secret : Secret) : Option (List UInt8 × List UInt8) :=
  if secret.type.getD "" != "kubernetes.io/tls" && secret.type.getD "" != "Opaque" then none
  else secret.data.bind fun d =>
    (d.lookup "tls.crt").bind fun cert => (d.lookup "tls.key").map fun key => (cert, key)

/-- Writes the files of a Secret and records them in the store, unless the key material cannot be
loaded. -/
def extractTlsFiles (ctx : SecretContext) (ns name : String) (cert key : List UInt8)
    (st : SecretState) : SecretState × Except SecretError Action :=
  let secretKey := GatewayState.key ns name
  match writeTlsFile ctx ns name "crt" cert st.files with
  | (files, .error e) => ({ st with files := files }, .error e)
  | (files, .ok certPath) =>
    match writeTlsFile ctx ns name "key" key files with
    | (files, .error e) => ({ st with files := files }, .error e)
    | (files, .ok keyPath) =>
      match ctx.loadCertifiedKey files certPath keyPath with
      | .error e =>
        ({ files := deleteFiles ctx [certPath, keyPath] files
           tlsSecrets := st.tlsSecrets.erase secretKey }, .error (.InvalidTlsMaterial e))
      | .ok () =>
        ({ files := files
           tlsSecrets := (st.tlsSecrets.insert secretKey (certPath, keyPath)).insert secretKey
             (certPath, keyPath) }, .ok (.requeue 300))

def reconcileSecret (ctx : SecretContext) (secret : Secret) (st : SecretState) :
    SecretState × Except SecretError Action :=
  let ns := secret.metadata.ns.getD ""
  let name := secret.metadata.name.getD ""
  if secret.deletionTimestamp.isSome then
    ({ files := deleteFiles ctx [ctx.tlsPath ns name "crt", ctx.tlsPath ns name "key"] st.files
       tlsSecrets := st.tlsSecrets.erase (GatewayState.key ns name) }, .ok .awaitChange)
  else
    match secret.tlsData with
    | none => (st, .ok .awaitChange)
    | some (cert, key) =>
      match findReferencingGateways ctx.api ns name with
      | .error e => (st, .error e)
      | .ok gateways =>
        if gateways.isEmpty then (st, .ok .awaitChange)
        else
          match checkReferences ctx.api ns name gateways with
          | .error e => (st, .error e)
          | .ok () => extractTlsFiles ctx ns name cert key st

theorem checkReferences_eq_ok {api : KubeApi} {secretNs : String} {grants : List ReferenceGrant}
    (h : api.listReferenceGrants secretNs = .ok grants) (secretName : String)
    (gateways : List (String × String)) :
    checkReferences api secretNs secretName gateways = .ok () := by
  induction gateways with
  | nil => rfl
  | cons g gateways ih =>
    simp only [checkReferences, validateReferenceGrant, h, ih, ite_self]

variable {ctx : SecretContext} {name ns : String}

/-! ### Extraction -/

/-- Every file operation succeeds. -/
structure Disk.Works (disk : Disk) : Prop where
  createDirAll : disk.createDirAll = .ready
  write : ∀ path, disk.write path = .ok ()
  setPermissions : ∀ path, disk.setPermissions path = .ok ()
  rename : ∀ path, disk.rename path = .ok ()

theorem joinPath_inj {dir name' : String} :
    joinPath dir name = joinPath dir name' ↔ name = name' := by
  rw [joinPath, joinPath]
  split <;> rw [append_right_inj]

theorem tlsPath_inj {ext ext' : String} :
    ctx.tlsPath ns name ext = ctx.tlsPath ns name ext' ↔ ext = ext' := by
  rw [SecretContext.tlsPath, SecretContext.tlsPath, joinPath_inj, tlsFileName, tlsFileName,
    append_right_inj]

theorem tempPath_ne_tlsPath (ctx : SecretContext) (ns name ext : String) {ns' name' ext' : String}
    {c : Char} (hext : ext'.toList.getLast? = some c) (hc : c.isDigit = false) :
    ctx.tempPath ns name ext ≠ ctx.tlsPath ns' name' ext' := by
  rw [SecretContext.tempPath, SecretContext.tlsPath, ne_eq, joinPath_inj]
  intro h
  have hlast := congrArg (fun s : String => s.toList.getLast?) h
  simp only [tlsFileName, toList_append, List.getLast?_append, hext, Option.some_or] at hlast
  have hd := List.getLast?_eq_some_getLast (Text.toString_ne_empty ctx.processId)
  rw [hd, Option.some_or, Option.some.injEq] at hlast
  have hdigit := Text.isDigit_of_mem_toString (List.mem_of_getLast? hd)
  rw [hlast, hc] at hdigit
  cases hdigit

theorem writeTlsFile_eq (h : ctx.disk.Works) (ns name ext : String) (data : List UInt8)
    (files : HashMap String (List UInt8)) :
    writeTlsFile ctx ns name ext data files =
      (((files.insert (ctx.tempPath ns name ext) data).erase (ctx.tempPath ns name ext)).insert
        (ctx.tlsPath ns name ext) data, .ok (ctx.tlsPath ns name ext)) := by
  simp only [writeTlsFile, h.createDirAll, h.write, h.setPermissions, h.rename]

structure Extracted (ctx : SecretContext) (ns name : String) (cert key : List UInt8)
    (st : SecretState) : Prop where
  cert : st.files.lookup (ctx.tlsPath ns name "crt") = some cert
  key : st.files.lookup (ctx.tlsPath ns name "key") = some key
  stored : st.tlsSecrets.lookup (GatewayState.key ns name) =
    some (ctx.tlsPath ns name "crt", ctx.tlsPath ns name "key")

theorem extractTlsFiles_extracted (h : ctx.disk.Works) {cert key : List UInt8} {st : SecretState}
    (hload : ∀ files : HashMap String (List UInt8),
      files.lookup (ctx.tlsPath ns name "crt") = some cert →
      files.lookup (ctx.tlsPath ns name "key") = some key →
      ctx.loadCertifiedKey files (ctx.tlsPath ns name "crt") (ctx.tlsPath ns name "key") = .ok ()) :
    Extracted ctx ns name cert key (extractTlsFiles ctx ns name cert key st).1 := by
  have hne : ctx.tlsPath ns name "crt" ≠ ctx.tlsPath ns name "key" := by
    rw [ne_eq, tlsPath_inj]
    decide
  have htemp : ctx.tlsPath ns name "crt" ≠ ctx.tempPath ns name "key" :=
    (tempPath_ne_tlsPath ctx ns name "key" rfl rfl).symm
  simp only [extractTlsFiles, writeTlsFile_eq h]
  rw [hload]
  · refine ⟨?_, lookup_insert _, lookup_insert _⟩
    rw [lookup_insert_ne hne, lookup_erase_ne htemp, lookup_insert_ne htemp]
    exact lookup_insert _
  · rw [lookup_insert_ne hne, lookup_erase_ne htemp, lookup_insert_ne htemp]
    exact lookup_insert _
  · exact lookup_insert _

/-- **A Secret with TLS data that some managed Gateway refers to is extracted.** -/
theorem reconcileSecret_extracts {secret : Secret} {cert key : List UInt8}
    {gateways : List (String × String)} {grants : List ReferenceGrant}
    (hns : secret.metadata.ns = some ns) (hname : secret.metadata.name = some name)
    (hlive : secret.deletionTimestamp = none) (hdata : secret.tlsData = some (cert, key))
    (hgateways : findReferencingGateways ctx.api ns name = .ok gateways) (hne : gateways ≠ [])
    (hgrants : ctx.api.listReferenceGrants ns = .ok grants) (hdisk : ctx.disk.Works)
    (hload : ∀ files : HashMap String (List UInt8),
      files.lookup (ctx.tlsPath ns name "crt") = some cert →
      files.lookup (ctx.tlsPath ns name "key") = some key →
      ctx.loadCertifiedKey files (ctx.tlsPath ns name "crt") (ctx.tlsPath ns name "key") = .ok ())
    (st : SecretState) : Extracted ctx ns name cert key (reconcileSecret ctx secret st).1 := by
  have hextract : reconcileSecret ctx secret st = extractTlsFiles ctx ns name cert key st := by
    simp [reconcileSecret, hns, hname, hlive, hdata, hgateways, hne, checkReferences_eq_ok hgrants]
  rw [hextract]
  exact extractTlsFiles_extracted hdisk hload

end Wicket
