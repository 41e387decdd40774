/-
**Two Gateways and the objects they own.**

A long name is cut after 35 bytes and marked with six digits of a hash, a short one is kept, and
nothing tells the two forms apart.
-/

import Wicket.KubeNames

namespace Wicket

open Function List ManagedFields.Object

open GatewayRuntimePlanner (plan plan_eq_ok)

/-! ### Names that become the same -/

def cutName (lib : Libraries) (name : String) : String :=
  String.ofList (name.toList.take 35) ++ "-" ++ hex6 lib (objectNamePrefix ++ name)

def IsLong (name : String) : Prop := maxBaseNameLen < (objectNamePrefix ++ name).utf8ByteSize

instance (name : String) : Decidable (IsLong name) :=
  inferInstanceAs (Decidable (_ < _))

def gatewayPart (lib : Libraries) (name : String) : String :=
  if IsLong name then cutName lib name else name

/-- The second name is what the first one becomes, which is too long. -/
def IsCutForm (lib : Libraries) (long short : String) : Prop :=
  IsLong long ∧ short = cutName lib long

section Names

variable {lib : Libraries} {a b : String}

theorem isLong_iff : IsLong a ↔ 42 < a.utf8ByteSize := by
  have hpre : objectNamePrefix.utf8ByteSize = 10 := rfl
  rw [IsLong, maxBaseNameLen, String.utf8ByteSize_append, hpre]
  omega

theorem length_of_validName (h : validName a = true) : a.toList.length = a.utf8ByteSize := by
  have hsize := Text.utf8ByteSize_of_forall (utf8Size_of_validName h)
  rw [String.ofList_toList] at hsize
  exact hsize.symm

theorem ownedObjectBaseName_of_validName (h : validName a = true) :
    ownedObjectBaseName lib a = .ok (objectNamePrefix ++ gatewayPart lib a) := by
  rw [ownedObjectBaseName, gatewayPart]
  by_cases hlong : IsLong a
  · have hcut : Text.bytePrefix a (maxBaseNameLen - 7 - objectNamePrefix.utf8ByteSize) =
        some (String.ofList (a.toList.take 35)) :=
      bytePrefix_of_validName h (by have := isLong_iff.1 hlong; change 35 ≤ _; omega)
    simp only [if_neg (not_le.2 hlong), hcut, if_pos hlong, cutName, String.append_assoc]
  · simp only [if_pos (not_lt.1 hlong), if_neg hlong]

theorem not_isLong_cutName (hhex : lib.HexHash) (h : validName a = true) :
    ¬IsLong (cutName lib a) := by
  have hhash := utf8ByteSize_hex6_le hhex (objectNamePrefix ++ a)
  have hdash : "-".utf8ByteSize = 1 := rfl
  rw [isLong_iff, cutName, String.utf8ByteSize_append, String.utf8ByteSize_append, hdash,
    Text.utf8ByteSize_of_forall fun c hc => utf8Size_of_validName h c (mem_of_mem_take hc),
    length_take]
  omega

theorem hex6_eq_of_cutName_eq (ha : validName a = true) (hb : validName b = true)
    (hlong : IsLong a) (hlong' : IsLong b) (h : cutName lib a = cutName lib b) :
    hex6 lib (objectNamePrefix ++ a) = hex6 lib (objectNamePrefix ++ b) := by
  have hsize := isLong_iff.1 hlong
  have hsize' := isLong_iff.1 hlong'
  rw [← length_of_validName ha] at hsize
  rw [← length_of_validName hb] at hsize'
  have hchars := congrArg String.toList h
  simp only [cutName, String.toList_append, String.toList_ofList, append_assoc] at hchars
  have hcuts : (a.toList.take 35).length = (b.toList.take 35).length := by
    rw [length_take, length_take]
    omega
  have hrest := (append_inj hchars hcuts).2
  exact String.toList_inj.1 (append_cancel_left hrest)

theorem gatewayPart_eq_iff (hhex : lib.HexHash) (ha : validName a = true)
    (hb : validName b = true) (hab : a ≠ b)
    (hinj : hex6 lib (objectNamePrefix ++ a) = hex6 lib (objectNamePrefix ++ b) → a = b) :
    gatewayPart lib a = gatewayPart lib b ↔ IsCutForm lib a b ∨ IsCutForm lib b a := by
  rw [gatewayPart, gatewayPart, IsCutForm, IsCutForm]
  by_cases hlong : IsLong a <;> by_cases hlong' : IsLong b
  · -- a cut form is short, so neither is the other's
    rw [if_pos hlong, if_pos hlong']
    constructor
    · intro h
      exact absurd (hinj (hex6_eq_of_cutName_eq ha hb hlong hlong' h)) hab
    · intro h
      obtain ⟨-, h⟩ | ⟨-, h⟩ := h
      · exact absurd (h ▸ hlong') (not_isLong_cutName hhex ha)
      · exact absurd (h ▸ hlong) (not_isLong_cutName hhex hb)
  · rw [if_pos hlong, if_neg hlong']
    constructor
    · intro h
      exact .inl ⟨hlong, h.symm⟩
    · intro h
      obtain ⟨-, h⟩ | ⟨h, -⟩ := h
      · exact h.symm
      · exact absurd h hlong'
  · rw [if_neg hlong, if_pos hlong']
    constructor
    · intro h
      exact .inr ⟨hlong', h⟩
    · intro h
      obtain ⟨h, -⟩ | ⟨-, h⟩ := h
      · exact absurd h hlong
      · exact h
  · rw [if_neg hlong, if_neg hlong']
    constructor
    · intro h
      exact absurd h hab
    · intro h
      obtain ⟨h, -⟩ | ⟨h, -⟩ := h
      · exact absurd h hlong
      · exact absurd h hlong'

end Names

/-! ### The objects of a plan -/

def ownedKeys (ns base : String) : List OwnedKey :=
  [(.ServiceAccount, ns, serviceAccountName base), (.ConfigMap, ns, configMapName base),
    (.Service, ns, serviceName base), (.Deployment, ns, deploymentName base)]

def IsPlanOf (lib : Libraries) (ns name : String) (p : GatewayRuntimePlan) : Prop :=
  ∃ order input, input.gatewayNamespace = ns ∧ input.gatewayName = name ∧
    plan lib order input = .ok p

structure PlanNames (lib : Libraries) (ns name : String) (p : GatewayRuntimePlan) : Prop where
  gatewayName : p.gatewayName = name
  base : ownedObjectBaseName lib name = .ok p.ownedObjectBaseName
  serviceAccount : p.serviceAccountKey =
    (.ServiceAccount, ns, serviceAccountName p.ownedObjectBaseName)
  configMap : p.configMapKey = (.ConfigMap, ns, configMapName p.ownedObjectBaseName)
  service : p.serviceKey = (.Service, ns, serviceName p.ownedObjectBaseName)
  deployment : p.deploymentKey = (.Deployment, ns, deploymentName p.ownedObjectBaseName)

variable {lib : Libraries} {ns name : String} {p : GatewayRuntimePlan} {key : OwnedKey}
  {fields : Fields} {path : Path}

theorem IsPlanOf.names (h : IsPlanOf lib ns name p) : PlanNames lib ns name p := by
  obtain ⟨order, input, rfl, rfl, hplan⟩ := h
  obtain ⟨parts, rfl⟩ := plan_eq_ok.1 hplan
  exact ⟨rfl, parts.baseName_eq, rfl, rfl, rfl, rfl⟩

abbrev Objects : Type := OwnedKey → Option KubeObject

inductive PatchOf (p : GatewayRuntimePlan) : OwnedKey → Fields → Prop
  | serviceAccount : PatchOf p p.serviceAccountKey (serviceAccountFields p)
  | configMap : PatchOf p p.configMapKey (configMapFields p)
  | service : PatchOf p p.serviceKey (serviceFields p)
  | deployment {fields : Fields} (h : deploymentFields p = .ok fields) :
      PatchOf p p.deploymentKey fields

def patchedObjects (objects : Objects) (key : OwnedKey) (fields : Fields) : Objects :=
  Function.update objects key (some (((objects key).getD {}).apply fields))

theorem patchedObjects_self (objects : Objects) (key : OwnedKey) (fields : Fields) :
    patchedObjects objects key fields key = some (((objects key).getD {}).apply fields) :=
  update_self _ _ _

def Patched (p : GatewayRuntimePlan) (before after : Objects) : Prop :=
  ∃ key fields, PatchOf p key fields ∧ after = patchedObjects before key fields

theorem PatchOf.mem_ownedKeys (hp : PlanNames lib ns name p) (h : PatchOf p key fields) :
    key ∈ ownedKeys ns p.ownedObjectBaseName := by
  cases h with
  | serviceAccount => simp [ownedKeys, hp.serviceAccount]
  | configMap => simp [ownedKeys, hp.configMap]
  | service => simp [ownedKeys, hp.service]
  | deployment _ => simp [ownedKeys, hp.deployment]

theorem base_eq_of_mem_ownedKeys {ns' base base' : String} (h : key ∈ ownedKeys ns base)
    (h' : key ∈ ownedKeys ns' base') : base = base' := by
  simp only [ownedKeys, mem_cons, not_mem_nil, or_false] at h h'
  have hboth : ns = ns' ∧ base = base' := by
    rcases h with rfl | rfl | rfl | rfl <;>
      simpa [serviceAccountName, configMapName, serviceName, deploymentName] using h'
  exact hboth.2

/-! ### A run of the applier is a sequence of patches -/

/-- The step changes the objects only by a sequence of the given changes, also when it fails. -/
def Writes {α : Type} (R : Objects → Objects → Prop) (x : ApplyM α) : Prop :=
  ∀ st, Relation.ReflTransGen R st.objects (exec x st).2.objects

section Writes

variable {α β : Type} {R : Objects → Objects → Prop}

theorem Writes.bind {x : ApplyM α} {f : α → ApplyM β} (hx : Writes R x)
    (hf : ∀ a, (∃ st st₁, exec x st = (.ok a, st₁)) → Writes R (f a)) : Writes R (x >>= f) := by
  intro st
  have hfirst := hx st
  rw [exec_bind]
  rcases hexec : exec x st with ⟨e | a, st₁⟩
  · rw [hexec] at hfirst
    exact hfirst
  · rw [hexec] at hfirst
    exact hfirst.trans (hf a ⟨st, st₁, hexec⟩ st₁)

theorem Writes.pure (a : α) : Writes R (pure a : ApplyM α) := fun _ => .refl

theorem Writes.throw (e : Failure ApplyError) : Writes R (throw e : ApplyM α) := fun _ => .refl

theorem Writes.ofExcept (r : Except (Failure ApplyError) α) : Writes R (ApplyM.ofExcept r) := by
  cases r with
  | ok a => exact .pure a
  | error e => exact .throw e

theorem Writes.setConfig (c : Config) :
    Writes R (modify fun st => { st with inMemoryConfig := c } : ApplyM Unit) := fun _ => .refl

variable (api : ApiFaults)

theorem Writes.getOpt (key : OwnedKey) : Writes R (getOpt api key) := by
  unfold Wicket.getOpt
  split
  · exact .throw _
  · exact fun _ => .refl

theorem Writes.preflight (key : OwnedKey) : Writes R (preflight api key) := by
  refine .bind (.getOpt api key) ?_
  intro obj _
  cases obj with
  | none => exact .pure _
  | some obj =>
    cases hmanaged : isManagedByController obj with
    | false =>
      simp only [hmanaged, Bool.false_eq_true, if_false]
      exact .throw _
    | true =>
      simp only [hmanaged, if_true]
      exact .pure _

theorem Writes.patch {key : OwnedKey} {fields : Fields}
    (h : ∀ objects, R objects (patchedObjects objects key fields)) :
    Writes R (patch api key fields) := by
  unfold Wicket.patch
  split
  · exact .throw _
  · split
    · exact fun st => .single (h st.objects)
    · exact .throw _

variable {lib : Libraries} {api : ApiFaults} {p : GatewayRuntimePlan}

theorem writes_applyServiceAccount
    (h : ∀ objects, R objects
      (patchedObjects objects p.serviceAccountKey (serviceAccountFields p))) :
    Writes R (applyServiceAccount api p) :=
  .bind (.preflight _ _) fun _ _ => .bind (.patch api h) fun _ _ => .pure _

theorem writes_applyManagedConfigmap
    (h : ∀ objects, R objects (patchedObjects objects p.configMapKey (configMapFields p))) :
    Writes R (applyManagedConfigmap lib api p) := by
  refine .bind (.preflight _ _) fun _ _ => .bind (.ofExcept _) fun c _ => ?_
  cases hchanged : p.configChanged with
  | false =>
    exact .bind (.setConfig c) fun _ _ => .pure _
  | true =>
    exact .bind (.patch api h) fun _ _ => .bind (.setConfig c) fun _ _ => .pure _

theorem writes_applyService
    (h : ∀ objects, R objects (patchedObjects objects p.serviceKey (serviceFields p))) :
    Writes R (applyService api p) :=
  .bind (.preflight _ _) fun _ _ => .bind (.patch api h) fun _ _ => .pure _

theorem writes_applyDeployment
    (h : ∀ fields, deploymentFields p = .ok fields →
      ∀ objects, R objects (patchedObjects objects p.deploymentKey fields)) :
    Writes R (applyDeployment api p) := by
  refine .bind (.preflight _ _) fun _ _ => .bind (.ofExcept _) ?_
  intro fields hrendered
  obtain ⟨st, st₁, hexec⟩ := hrendered
  exact .bind (.patch api (h fields (exec_ofExcept_ok.1 hexec).1)) fun _ _ => .pure _

theorem exec_applyRuntimePlan_patched : Writes (Patched p) (applyRuntimePlan lib api p) :=
  .bind (writes_applyServiceAccount fun _ => ⟨_, _, .serviceAccount, rfl⟩) fun _ _ =>
    .bind (writes_applyManagedConfigmap fun _ => ⟨_, _, .configMap, rfl⟩) fun _ _ =>
      .bind (writes_applyService fun _ => ⟨_, _, .service, rfl⟩) fun _ _ =>
        .bind (writes_applyDeployment fun _ h _ => ⟨_, _, .deployment h, rfl⟩) fun _ _ => .pure _

end Writes

theorem patched_frame (hp : PlanNames lib ns name p) {before after : Objects}
    (h : Relation.ReflTransGen (Patched p) before after)
    (hkey : key ∉ ownedKeys ns p.ownedObjectBaseName) : after key = before key := by
  induction h with
  | refl => rfl
  | tail _ hstep ih =>
    obtain ⟨key', fields, hpatch, rfl⟩ := hstep
    have hne : key ≠ key' := by
      intro heq
      exact hkey (heq ▸ hpatch.mem_ownedKeys hp)
    rw [patchedObjects, update_of_ne hne, ih]

/-! ### Which Gateway an object names -/

def ownerNamePath (uid : String) : Path :=
  [.field "metadata", .field "ownerReferences", .item [uid], .field "name"]

inductive GatewayPath : Path → Prop
  | instanceLabel : GatewayPath (labelPath "app.kubernetes.io/instance")
  | nameLabel : GatewayPath (labelPath "wicket.io/gateway-name")
  | owner (uid : String) : GatewayPath (ownerNamePath uid)

def NamesGateway (obj : KubeObject) (name : String) : Prop :=
  ∃ path, GatewayPath path ∧ obj.value path = some (.text name)

theorem head_of_mem_structField {fs : Fields} {v : Leaf} (h : (path, v) ∈ structField name fs) :
    path.head? = some (.field name) := by
  obtain ⟨f, _, heq⟩ := mem_map.1 h
  rw [← (Prod.mk.inj heq).1]
  rfl

theorem gatewayName_of_mem_meta {objectName : String}
    {annotations : Option (List (String × String))} (hpath : GatewayPath path)
    (h : (path, .text name) ∈ (ownedObjectMeta objectName p annotations).fields) :
    name = p.gatewayName := by
  cases annotations <;> cases hpath <;>
    simp [OwnedObjectMeta.fields, ownedObjectMeta, structField, mapField, listField, leafField,
      optField, Fields.under, managedLabels, labelManagedBy, labelPath, ownerNamePath,
      gatewayOwnerRef, OwnerReference.fields] at h <;>
    simp only [h]

theorem PatchOf.gatewayName (h : PatchOf p key fields) (hpath : GatewayPath path)
    (hmem : (path, .text name) ∈ fields) : name = p.gatewayName := by
  have hhead : path.head? = some (.field "metadata") := by cases hpath <;> rfl
  -- what is not metadata is under another field
  have hother : ∀ {field fs}, field ≠ "metadata" → (path, .text name) ∉ structField field fs := by
    intro field fs hne hfield
    have heq := (head_of_mem_structField hfield).symm.trans hhead
    cases heq
    exact hne rfl
  cases h with
  | serviceAccount => exact gatewayName_of_mem_meta hpath hmem
  | configMap =>
    rcases mem_append.1 hmem with hmeta | hdata
    · exact gatewayName_of_mem_meta hpath hmeta
    · exact absurd hdata (hother (by decide))
  | service =>
    rcases mem_append.1 hmem with hmeta | hspec
    · exact gatewayName_of_mem_meta hpath hmeta
    · exact absurd hspec (hother (by decide))
  | deployment hfields =>
    obtain ⟨_, _, hfields⟩ := Check.bind_eq_ok.1 hfields
    obtain ⟨_, _, hfields⟩ := Check.bind_eq_ok.1 hfields
    obtain rfl := Except.ok.inj hfields
    rcases mem_append.1 hmem with hmeta | hspec
    · exact gatewayName_of_mem_meta hpath hmeta
    · exact absurd hspec (hother (by decide))

variable {obj : KubeObject} {a b : String} {p' : GatewayRuntimePlan}

theorem NamesGateway.of_apply (h : NamesGateway (obj.apply fields) name) :
    NamesGateway obj name ∨ ∃ path, GatewayPath path ∧ (path, .text name) ∈ fields := by
  obtain ⟨path, hpath, hvalue⟩ := h
  rcases value_of_value_apply hvalue with hbefore | hmem
  · exact .inl ⟨path, hpath, hbefore⟩
  · exact .inr ⟨path, hpath, hmem⟩

def WrittenByPlans (lib : Libraries) (objects : Objects) : Prop :=
  Relation.ReflTransGen (fun before after => ∃ ns name p, IsPlanOf lib ns name p ∧
    Patched p before after) (fun _ => none) objects

theorem WrittenByPlans.owned {objects : Objects} (h : WrittenByPlans lib objects)
    (hobj : objects key = some obj) (hnames : NamesGateway obj name) :
    ∃ ns base, ownedObjectBaseName lib name = .ok base ∧ key ∈ ownedKeys ns base := by
  induction h generalizing key obj with
  | refl => cases hobj
  | @tail objects _ _ hstep ih =>
    obtain ⟨ns, planName, p, hplan, key', fields, hpatch, rfl⟩ := hstep
    by_cases hkey : key = key'
    · subst hkey
      rw [patchedObjects_self] at hobj
      obtain rfl := Option.some.inj hobj
      rcases hnames.of_apply with hbefore | ⟨path, hpath, hmem⟩
      · cases hold : objects key with
        | none =>
          rw [hold] at hbefore
          obtain ⟨path, _, hvalue⟩ := hbefore
          cases hvalue
        | some old =>
          rw [hold] at hbefore
          exact ih hold hbefore
      · obtain rfl := hpatch.gatewayName hpath hmem
        have hp := hplan.names
        exact ⟨ns, _, hp.gatewayName ▸ hp.base, hpatch.mem_ownedKeys hp⟩
    · rw [patchedObjects, update_of_ne hkey] at hobj
      exact ih hobj hnames

/-! ### Two Gateways -/

structure NamesDiffer (p p' : GatewayRuntimePlan) : Prop where
  configMap : p.configMapName ≠ p'.configMapName
  deployment : p.deploymentName ≠ p'.deploymentName
  service : p.serviceName ≠ p'.serviceName
  serviceAccount : p.serviceAccountName ≠ p'.serviceAccountName

theorem namesDiffer_iff (hp : PlanNames lib ns a p) (hp' : PlanNames lib ns b p') :
    NamesDiffer p p' ↔ p.ownedObjectBaseName ≠ p'.ownedObjectBaseName := by
  have hnames : ∀ {name} {q : GatewayRuntimePlan}, PlanNames lib ns name q →
      q.configMapName = configMapName q.ownedObjectBaseName ∧
      q.deploymentName = deploymentName q.ownedObjectBaseName ∧
      q.serviceName = serviceName q.ownedObjectBaseName ∧
      q.serviceAccountName = serviceAccountName q.ownedObjectBaseName := by
    intro name q hq
    exact ⟨congrArg (·.2.2) hq.configMap, congrArg (·.2.2) hq.deployment,
      congrArg (·.2.2) hq.service, congrArg (·.2.2) hq.serviceAccount⟩
  obtain ⟨hconfig, hdeploy, hservice, haccount⟩ := hnames hp
  obtain ⟨hconfig', hdeploy', hservice', haccount'⟩ := hnames hp'
  constructor
  · intro h heq
    exact h.configMap (by rw [hconfig, hconfig', heq])
  · intro h
    refine ⟨?_, ?_, ?_, ?_⟩
    · rw [hconfig, hconfig']
      simpa [configMapName] using h
    · rw [hdeploy, hdeploy']
      simpa [deploymentName] using h
    · rw [hservice, hservice']
      simpa [serviceName] using h
    · rw [haccount, haccount']
      simpa [serviceAccountName] using h

def SparesGateway (lib : Libraries) (p : GatewayRuntimePlan) (name : String) : Prop :=
  ∀ (api : ApiFaults) (st : RuntimeState), WrittenByPlans lib st.objects →
    ∀ key obj, st.objects key = some obj → NamesGateway obj name →
      (exec (applyRuntimePlan lib api p) st).2.objects key = some obj

theorem sparesGateway_of_base_ne (hp : PlanNames lib ns a p) (hp' : PlanNames lib ns b p')
    (hne : p.ownedObjectBaseName ≠ p'.ownedObjectBaseName) : SparesGateway lib p b := by
  intro api st hwritten key obj hobj hnames
  obtain ⟨ns', base, hbase, hkey⟩ := hwritten.owned hobj hnames
  obtain rfl := Except.ok.inj (hbase.symm.trans hp'.base)
  rw [patched_frame hp (exec_applyRuntimePlan_patched st), hobj]
  intro hmem
  exact hne (base_eq_of_mem_ownedKeys hmem hkey)

/-- **Two Gateways of a namespace have different objects** exactly when neither name is the cut form
of the other. -/
theorem ownedObjects_apart_iff {lib : Libraries} (hhex : lib.HexHash) {ns a b : String}
    (ha : validName a = true) (hb : validName b = true) (hab : a ≠ b)
    (hinj : hex6 lib (objectNamePrefix ++ a) = hex6 lib (objectNamePrefix ++ b) → a = b)
    {p p' : GatewayRuntimePlan} (hp : IsPlanOf lib ns a p) (hp' : IsPlanOf lib ns b p') :
    NamesDiffer p p' ∧ SparesGateway lib p b ∧ SparesGateway lib p' a ↔
      ¬IsCutForm lib a b ∧ ¬IsCutForm lib b a := by
  have hbase := Except.ok.inj (hp.names.base.symm.trans (ownedObjectBaseName_of_validName ha))
  have hbase' := Except.ok.inj (hp'.names.base.symm.trans (ownedObjectBaseName_of_validName hb))
  have hne : p.ownedObjectBaseName ≠ p'.ownedObjectBaseName ↔
      ¬IsCutForm lib a b ∧ ¬IsCutForm lib b a := by
    rw [hbase, hbase', ← not_or, ← gatewayPart_eq_iff hhex ha hb hab hinj, ne_eq,
      String.append_right_inj]
  rw [← hne, namesDiffer_iff hp.names hp'.names]
  constructor
  · intro h
    exact h.1
  · intro h
    exact ⟨h, sparesGateway_of_base_ne hp.names hp'.names h,
      sparesGateway_of_base_ne hp'.names hp.names (Ne.symm h)⟩

/-! ### A Gateway with the cut form as its name -/

def storefront : String := "payments-gateway-for-the-storefront-production-eu"

def storefrontCut : String := "payments-gateway-for-the-storefront-a5fac4"

theorem validName_storefront : validName storefront = true := by decide

def storefrontDigest : String := "a5fac4b6e43535beb2fa646154136a6a53736c975611f9dbc3d8c0730fdcd8db"

def cutDigest : String := "0b239a62295b54e37cd1d223727940db3d451adffcb2dca5e7cdd8ceb455cdc8"

def digestLibraries : Libraries :=
  { orderedLibraries with
    sha256Hex := fun s =>
      if s = objectNamePrefix ++ storefront then storefrontDigest else cutDigest }

theorem digestLibraries_hexHash : digestLibraries.HexHash := by
  have hall : ∀ digest ∈ [storefrontDigest, cutDigest], (digest.toList.all fun c =>
      decide (c.isDigit = true ∨ c ∈ ['a', 'b', 'c', 'd', 'e', 'f'])) = true := by decide
  intro s c hc
  have hdigest : digestLibraries.sha256Hex s ∈ [storefrontDigest, cutDigest] := by
    unfold digestLibraries
    dsimp only
    split <;> simp
  exact of_decide_eq_true (all_eq_true.1 (hall _ hdigest) c hc)

theorem exists_isPlanOf {name : String} (hname : validName name = true) :
    ∃ p, IsPlanOf digestLibraries "team" name p := by
  obtain ⟨_, _, parts, _⟩ := @exists_soloPlan digestLibraries (fun _ => ⟨_, rfl⟩) name [] rfl
    ⟨_, ownedObjectBaseName_of_validName hname⟩
  exact ⟨parts.plan, .asListed, soloInput name [], rfl, rfl, plan_eq_ok.2 ⟨parts, rfl⟩⟩

theorem storefront_edge_apart : ∃ p p', IsPlanOf digestLibraries "team" storefront p ∧
    IsPlanOf digestLibraries "team" "edge" p' ∧ NamesDiffer p p' ∧
      SparesGateway digestLibraries p "edge" ∧ SparesGateway digestLibraries p' storefront := by
  have hedge : validName "edge" = true := by decide
  obtain ⟨p, hp⟩ := exists_isPlanOf validName_storefront
  obtain ⟨p', hp'⟩ := exists_isPlanOf hedge
  refine ⟨p, p', hp, hp', ?_⟩
  refine (ownedObjects_apart_iff digestLibraries_hexHash validName_storefront hedge (by decide)
    (fun h => absurd h (by decide)) hp hp').2 ⟨?_, ?_⟩
  · intro h
    exact absurd h.2 (by decide)
  · intro h
    exact absurd h.1 (by decide)

/-! ### What the applier then does -/

section ServiceAccount

variable {lib : Libraries} {p : GatewayRuntimePlan}

theorem nodup_serviceAccountFields : ((serviceAccountFields p).map Prod.fst).Nodup := by
  simp [serviceAccountFields, OwnedObjectMeta.fields, ownedObjectMeta, structField, mapField,
    listField, leafField, optField, Fields.under, managedLabels, labelManagedBy, gatewayOwnerRef,
    OwnerReference.fields]

theorem value_label_serviceAccount (obj : KubeObject) {e : String × String}
    (he : e ∈ managedLabels p) :
    (obj.apply (serviceAccountFields p)).value (labelPath e.1) = some (.text e.2) := by
  refine value_apply_of_mem nodup_serviceAccountFields ?_
  have hlabel : ([.field "labels", .field e.1], .text e.2) ∈
      mapField "labels" (managedLabels p) :=
    mem_map.2 ⟨([.field e.1], .text e.2), mem_flatMap.2 ⟨e, he, mem_singleton.2 rfl⟩, rfl⟩
  refine mem_map.2 ⟨([.field "labels", .field e.1], .text e.2), ?_, rfl⟩
  simp only [ownedObjectMeta, mem_append]
  exact .inl (.inl (.inr hlabel))

theorem value_apply_serviceAccountFields (obj : KubeObject) :
    (obj.apply (serviceAccountFields p)).value (labelPath "wicket.io/gateway-name") =
        some (.text p.gatewayName) ∧
      isManagedByController (obj.apply (serviceAccountFields p)) = true := by
  refine ⟨@value_label_serviceAccount p obj ("wicket.io/gateway-name", p.gatewayName)
    (by simp [managedLabels]), ?_⟩
  rfl

theorem serviceAccount_rewritten {st : RuntimeState} {obj : KubeObject}
    (hobj : st.objects p.serviceAccountKey = some obj)
    (hmanaged : isManagedByController obj = true) :
    (exec (applyRuntimePlan lib {} p) st).2.objects p.serviceAccountKey =
      some (obj.apply (serviceAccountFields p)) := by
  have hfirst : exec (applyServiceAccount {} p) st =
      (.ok false, st.patched p.serviceAccountKey (serviceAccountFields p)) := by
    have hcheck : exec (preflightServiceAccount {} p.gatewayNamespace p.serviceAccountName) st =
        (.ok true, st) := by
      change exec (getOpt {} p.serviceAccountKey >>= _) st = _
      rw [exec_bind, show exec (getOpt {} p.serviceAccountKey) st = (.ok (some obj), st) by
        rw [← hobj]; rfl]
      simp only [hmanaged, if_true]
      rfl
    have hpatch : exec (patch {} p.serviceAccountKey (serviceAccountFields p)) st =
        (.ok (), st.patched p.serviceAccountKey (serviceAccountFields p)) := by
      unfold patch
      simp only [if_pos nodup_serviceAccountFields]
      rfl
    rw [applyServiceAccount, exec_bind, hcheck]
    dsimp only
    rw [exec_bind, hpatch]
    rfl
  -- the other steps write objects of other kinds
  have hother : ∀ {key : OwnedKey} (fields : Fields), key.1 ≠ .ServiceAccount →
      ∀ objects, patchedObjects objects key fields p.serviceAccountKey =
        objects p.serviceAccountKey := by
    intro key fields hkey objects
    exact update_of_ne (fun heq => hkey (congrArg Prod.fst heq.symm)) _ _
  let R : Objects → Objects → Prop := fun before after =>
    after p.serviceAccountKey = before p.serviceAccountKey
  have hrest : ∀ (x : ApplyM RuntimeApplyResult), Writes R x → ∀ st₁ : RuntimeState,
      (exec x st₁).2.objects p.serviceAccountKey = st₁.objects p.serviceAccountKey := by
    intro x hx st₁
    refine Relation.ReflTransGen.head_induction_on (hx st₁) rfl ?_
    intro before after hstep _ ih
    exact ih.trans hstep
  rw [applyRuntimePlan, exec_bind, hfirst]
  rw [hrest _ (.bind (writes_applyManagedConfigmap (hother _ nofun)) fun _ _ =>
    .bind (writes_applyService (hother _ nofun)) fun _ _ =>
      .bind (writes_applyDeployment fun _ _ => hother _ nofun) fun _ _ => .pure _),
    objects_patched_self, hobj]
  rfl

end ServiceAccount

theorem cutForm_shares_objects :
    digestLibraries.HexHash ∧ validName storefront = true ∧ validName storefrontCut = true ∧
      hex6 digestLibraries (objectNamePrefix ++ storefront) ≠
        hex6 digestLibraries (objectNamePrefix ++ storefrontCut) ∧
      storefront ≠ storefrontCut ∧
      ∃ p p', IsPlanOf digestLibraries "team" storefront p ∧
        IsPlanOf digestLibraries "team" storefrontCut p' ∧
        ¬NamesDiffer p p' ∧ ¬SparesGateway digestLibraries p storefrontCut := by
  have hvalid := validName_storefront
  have hvalid' : validName storefrontCut = true := by decide
  obtain ⟨p, hp⟩ := exists_isPlanOf hvalid
  obtain ⟨p', hp'⟩ := exists_isPlanOf hvalid'
  have hbase := Except.ok.inj (hp.names.base.symm.trans (ownedObjectBaseName_of_validName hvalid))
  have hbase' := Except.ok.inj
    (hp'.names.base.symm.trans (ownedObjectBaseName_of_validName hvalid'))
  have hsame : p.ownedObjectBaseName = p'.ownedObjectBaseName := by
    rw [hbase, hbase']
    decide
  refine ⟨digestLibraries_hexHash, hvalid, hvalid', by decide, by decide, p, p', hp, hp', ?_, ?_⟩
  · rw [namesDiffer_iff hp.names hp'.names]
    exact fun hne => hne hsame
  · intro hspares
    have hkey : p'.serviceAccountKey = p.serviceAccountKey := by
      rw [hp.names.serviceAccount, hp'.names.serviceAccount, hsame]
    -- the cluster after the other Gateway's first patch
    have hwritten : WrittenByPlans digestLibraries
        (patchedObjects (fun _ => none) p'.serviceAccountKey (serviceAccountFields p')) :=
      .single ⟨_, _, p', hp', _, _, .serviceAccount, rfl⟩
    have hobj := patchedObjects_self (fun _ => none) p'.serviceAccountKey (serviceAccountFields p')
    rw [hkey, Option.getD_none] at hobj
    rw [hkey] at hwritten
    obtain ⟨hlabel, hmanaged⟩ := @value_apply_serviceAccountFields p' {}
    rw [hp'.names.gatewayName] at hlabel
    have hspared := hspares {} ⟨_, Config.default⟩ hwritten _ _ hobj ⟨_, .nameLabel, hlabel⟩
    rw [serviceAccount_rewritten hobj hmanaged] at hspared
    have hafter := (@value_apply_serviceAccountFields p
      (ManagedFields.Object.apply ({} : KubeObject) (serviceAccountFields p'))).1
    rw [Option.some.inj hspared, hlabel, hp.names.gatewayName] at hafter
    exact absurd hafter (by decide)

end Wicket
