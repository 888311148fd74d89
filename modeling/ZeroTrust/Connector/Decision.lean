/-
# `ZeroTrust.Connector.Decision` — the cache decides the policy it was given

What a snapshot *means* is said here without indexes: a resource is an internet,
a network or a host resource; a destination has candidates, in three tiers; the
policy grants a request if some candidate admits its protocol and port and lists
the identity (`Grants`).  The theorem is that `PolicyCache.allowed` answers
exactly that.

    index soundness and completeness      one equation for each index
      (`internetIds_index`, `cidrList_index`, `byDns_index`, `byIp_index`,
       `byId_index`, `mem_aclTable_index`)
    the loop over ids has no early deny    (`firstAllowed_first`, `firstAllowed_isSome`)
    the joined ACL key is injective        (`aclKey_injective`)
    all of it together                     (`decideOn_index`)

The list-valued indexes all grow by appending what one resource contributes, so
their equations are one lemma about folds (`foldl_collect`) at four projections.
-/
import ZeroTrust.Connector.PolicyCache

namespace ZeroTrust.Connector

/-! ## The policy of a snapshot -/

section Policy

variable (L : Libraries)

def IsInternet (r : PolicyResource) : Prop := normalize L r.resourceType = "internet"

def IsCidr (r : PolicyResource) : Prop := normalize L r.resourceType = "cidr"

/-- Neither an internet nor a network resource. -/
def IsHost (r : PolicyResource) : Prop := ¬ IsInternet L r ∧ ¬ IsCidr L r

/-- The network of a cidr resource contains the address. -/
def NetworkContains (ip : L.IpAddr) (r : PolicyResource) : Prop :=
  ∃ net ∈ L.parseIpNet (normalize L r.address), L.contains net ip = true

instance (r : PolicyResource) : Decidable (IsInternet L r) := inferInstanceAs (Decidable (_ = _))
instance (r : PolicyResource) : Decidable (IsCidr L r) := inferInstanceAs (Decidable (_ = _))
instance (r : PolicyResource) : Decidable (IsHost L r) := inferInstanceAs (Decidable (_ ∧ _))
instance (ip : L.IpAddr) (r : PolicyResource) : Decidable (NetworkContains L ip r) :=
  decidable_of_iff ((L.parseIpNet (normalize L r.address)).any (L.contains · ip) = true) (by
    simp [NetworkContains, Option.any_eq_true])

/-- Tier one: hosts with that address, and networks that contain it. -/
def candidatesByAddress (resources : List PolicyResource) (dest : String) :
    List PolicyResource :=
  match L.parseIpAddr (normalize L dest) with
  | some ip =>
      resources.filter (fun r => IsHost L r ∧ L.parseIpAddr (normalize L r.address) = some ip) ++
        resources.filter (fun r => IsCidr L r ∧ NetworkContains L ip r)
  | none => []

/-- Tier two: hosts with that name. -/
def candidatesByName (resources : List PolicyResource) (dest : String) : List PolicyResource :=
  if normalize L dest = "" then []
  else resources.filter fun r => IsHost L r ∧ normalize L r.address = normalize L dest

/-- Tier three: the internet resources. -/
def candidatesInternet (resources : List PolicyResource) : List PolicyResource :=
  resources.filter fun r => IsInternet L r

/-- The first tier that is not empty. -/
def candidates (resources : List PolicyResource) (dest : String) : List PolicyResource :=
  if candidatesByAddress L resources dest ≠ [] then candidatesByAddress L resources dest
  else if candidatesByName L resources dest ≠ [] then candidatesByName L resources dest
  else candidatesInternet L resources

end Policy

/-- The protocols agree, ignoring ASCII case; an empty one on either side agrees
with any. -/
def ProtocolAdmits (r : PolicyResource) (protocol : String) : Prop :=
  r.protocol = "" ∨ protocol = "" ∨
    r.protocol.toList.map Char.toLower = protocol.toList.map Char.toLower

/-- The port is granted: no bound means every port, one lower bound means that
port, an upper bound closes a range, and a zero bound is no bound. -/
def PortAdmits (r : PolicyResource) (port : UInt16) : Prop :=
  match r.portFrom, r.portTo with
  | none, none => r.port = 0 ∨ port = r.port
  | some start, none => start = 0 ∨ port = start
  | none, some stop => stop = 0 ∨ port ≤ stop
  | some start, some stop =>
      (start = 0 ∧ stop = 0) ∨ if stop = 0 then port = start else start ≤ port ∧ port ≤ stop

/-- The policy grants the request through resource `r`. -/
structure GrantedBy (r : PolicyResource) (identity protocol : String) (port : UInt16) : Prop where
  protocol : ProtocolAdmits r protocol
  port : PortAdmits r port
  identity : identity ∈ r.allowedIdentities

/-- An identity that cannot be confused with a part of a joined key. -/
structure PlainIdentity (identity : String) : Prop where
  noSeparator : ¬ [':', ':'] <:+: identity.toList
  noTrailingColon : identity.toList.getLast? ≠ some ':'

instance (identity : String) : Decidable (PlainIdentity identity) :=
  decidable_of_iff (¬ [':', ':'] <:+: identity.toList ∧ identity.toList.getLast? ≠ some ':')
    ⟨fun h => ⟨h.1, h.2⟩, fun h => ⟨h.noSeparator, h.noTrailingColon⟩⟩

namespace PolicyCache

variable {L : Libraries}

theorem portMatches_iff (r : PolicyResource) (port : UInt16) :
    portMatches r port = true ↔ PortAdmits r port := by
  unfold portMatches PortAdmits
  cases hfrom : r.portFrom with
  | none =>
      cases hto : r.portTo with
      | none => simp
      | some stop => by_cases hstop : stop = 0 <;> simp [hstop]
  | some start =>
      cases hto : r.portTo with
      | none =>
          by_cases hstart : start = 0
          · simp [hstart]
          · simp only [hstart, Option.getD_some, Option.getD_none, decide_false, Bool.and_self,
              Bool.false_eq_true, if_false, Bool.and_eq_true, decide_eq_true_eq, false_or]
            exact ⟨fun h => UInt16.le_antisymm h.2 h.1, fun h => ⟨h ▸ UInt16.le_refl _,
              h ▸ UInt16.le_refl _⟩⟩
      | some stop =>
          by_cases hstop : stop = 0
          · by_cases hstart : start = 0
            · simp [hstart, hstop]
            · simp only [hstart, hstop, Option.getD_some, decide_false, decide_true,
                Bool.and_true, Bool.false_eq_true, if_false, if_true, Bool.and_eq_true,
                decide_eq_true_eq, false_and, false_or]
              exact ⟨fun h => UInt16.le_antisymm h.2 h.1, fun h => ⟨h ▸ UInt16.le_refl _,
                h ▸ UInt16.le_refl _⟩⟩
          · simp [hstop]

theorem resourceMatches_iff (r : PolicyResource) (protocol : String) (port : UInt16) :
    resourceMatches r protocol port = true ↔ ProtocolAdmits r protocol ∧ PortAdmits r port := by
  simp only [resourceMatches, Bool.and_eq_true, portMatches_iff, Bool.or_eq_true,
    String.isEmpty_iff, eqIgnoreAsciiCase, decide_eq_true_eq, ProtocolAdmits, or_assoc]

/-! ## The joined key -/

theorem separator_unique {a b ra rb : List Char} (ha : ¬ [':', ':'] <:+: a)
    (ha' : a.getLast? ≠ some ':') (hb : ¬ [':', ':'] <:+: b) (hb' : b.getLast? ≠ some ':')
    (h : a ++ ':' :: ':' :: ra = b ++ ':' :: ':' :: rb) : a = b := by
  -- the shorter of two different prefixes would leave a colon at the end of the longer one
  have key : ∀ {x y c rx ry : List Char}, y = x ++ c → ¬ [':', ':'] <:+: y →
      y.getLast? ≠ some ':' → ':' :: ':' :: rx = c ++ ':' :: ':' :: ry → c = [] := by
    intro x y c rx ry hy hinfix hlast hsplit
    match c with
    | [] => rfl
    | [d] =>
        have hd : ':' = d := (List.cons.inj hsplit).1
        rw [hy, ← hd] at hlast
        exact absurd (List.getLast?_concat ..) hlast
    | d :: e :: c' =>
        obtain ⟨hd, htail⟩ := List.cons.inj hsplit
        have he : ':' = e := (List.cons.inj htail).1
        refine absurd ⟨x, c', ?_⟩ hinfix
        rw [hy, ← hd, ← he]
        simp
  rcases List.append_eq_append_iff.mp h with ⟨c, hy, hsplit⟩ | ⟨c, hy, hsplit⟩
  · rw [hy, key hy hb hb' hsplit, List.append_nil]
  · rw [hy, key hy ha ha' hsplit, List.append_nil]

/-- The joined key determines its two parts. -/
theorem aclKey_injective {i j rid sid : String} (hi : PlainIdentity i) (hj : PlainIdentity j)
    (h : aclKey i rid = aclKey j sid) : i = j ∧ rid = sid := by
  have hlist : i.toList ++ ':' :: ':' :: rid.toList = j.toList ++ ':' :: ':' :: sid.toList := by
    have := congrArg String.toList h
    simpa [aclKey, String.toList_append] using this
  have hij : i = j :=
    String.toList_inj.mp (separator_unique hi.noSeparator hi.noTrailingColon hj.noSeparator
      hj.noTrailingColon hlist)
  subst hij
  have hrest := List.append_cancel_left hlist
  exact ⟨rfl, String.toList_inj.mp (List.cons.inj (List.cons.inj hrest).2).2⟩

/-! ## The indexes of a snapshot -/

/-- A projection that grows by what each element contributes. -/
theorem foldl_collect {σ α β : Type} {step : σ → α → σ} (proj : σ → List β) {part : α → List β}
    (h : ∀ w x, proj (step w x) = proj w ++ part x) (xs : List α) :
    ∀ w, proj (xs.foldl step w) = proj w ++ xs.flatMap part := by
  induction xs with
  | nil => intro w; simp
  | cons x xs ih => intro w; simp [ih, h]

/-- A projection that no element changes. -/
theorem foldl_frame {σ α τ : Type} {step : σ → α → σ} (proj : σ → τ)
    (h : ∀ w x, proj (step w x) = proj w) (xs : List α) :
    ∀ w, proj (xs.foldl step w) = proj w := by
  induction xs with
  | nil => intro w; rfl
  | cons x xs ih => intro w; rw [List.foldl_cons, ih, h]

theorem map_filter_eq_flatMap {α β : Type} (p : α → Prop) [DecidablePred p] (f : α → β)
    (xs : List α) : (xs.filter p).map f = xs.flatMap fun x => if p x then [f x] else [] := by
  induction xs with
  | nil => rfl
  | cons x xs ih => by_cases hx : p x <;> simp [hx, ih]

theorem lookup_pushEntry {κ : Type} [DecidableEq κ] (m : AList fun _ : κ => List String)
    (k k' : κ) (v : String) :
    ((pushEntry m k v).lookup k').getD [] =
      (m.lookup k').getD [] ++ if k = k' then [v] else [] := by
  by_cases h : k = k'
  · subst h
    simp [pushEntry, AList.lookup_insert]
  · have hne : k' ≠ k := fun h' => h h'.symm
    simp [pushEntry, AList.lookup_insert_ne hne, h]

/-- The loop over the identities touches the ACL table only. -/
theorem indexResource_frame {τ : Type} (proj : Inner L → τ)
    (h : ∀ (w : Inner L) (t : Finset String), proj { w with aclTable := t } = proj w)
    (w : Inner L) (r : PolicyResource) :
    proj (indexResource w r) =
      proj (indexAddress { w with byId := w.byId.insert r.resourceId r } r) := by
  refine foldl_frame proj ?_ r.allowedIdentities _
  intro w identity
  split
  · rfl
  · exact h w _

/-- What one resource does to the address indexes. -/
theorem indexAddress_cases (w : Inner L) (r : PolicyResource) :
    (IsInternet L r ∧ ¬ IsCidr L r ∧
      indexAddress w r = { w with internetIds := w.internetIds ++ [r.resourceId] }) ∨
    (∃ net, IsCidr L r ∧ ¬ IsInternet L r ∧ L.parseIpNet (normalize L r.address) = some net ∧
      indexAddress w r = { w with cidrList := w.cidrList ++ [(net, [r.resourceId])] }) ∨
    (IsCidr L r ∧ ¬ IsInternet L r ∧ L.parseIpNet (normalize L r.address) = none ∧
      indexAddress w r = w) ∨
    (IsHost L r ∧ normalize L r.address = "" ∧ indexAddress w r = w) ∨
    (∃ ip, IsHost L r ∧ normalize L r.address ≠ "" ∧
      L.parseIpAddr (normalize L r.address) = some ip ∧
      indexAddress w r = { w with
        byDns := pushEntry w.byDns (normalize L r.address) r.resourceId
        byIp := pushEntry w.byIp ip r.resourceId }) ∨
    (IsHost L r ∧ normalize L r.address ≠ "" ∧ L.parseIpAddr (normalize L r.address) = none ∧
      indexAddress w r =
        { w with byDns := pushEntry w.byDns (normalize L r.address) r.resourceId }) := by
  by_cases hinternet : IsInternet L r
  · have hcidr : ¬ IsCidr L r := fun h =>
      absurd (hinternet.symm.trans h) (by decide)
    refine Or.inl ⟨hinternet, hcidr, ?_⟩
    rw [IsInternet] at hinternet
    simp only [indexAddress, hinternet, if_true]
  have htype : normalize L r.resourceType ≠ "internet" := hinternet
  by_cases hcidr : IsCidr L r
  · have htype' : normalize L r.resourceType = "cidr" := hcidr
    cases hnet : L.parseIpNet (normalize L r.address) with
    | some net =>
        refine Or.inr (Or.inl ⟨net, hcidr, hinternet, rfl, ?_⟩)
        simp only [indexAddress, if_neg htype, if_pos htype', hnet]
    | none =>
        refine Or.inr (Or.inr (Or.inl ⟨hcidr, hinternet, rfl, ?_⟩))
        simp only [indexAddress, if_neg htype, if_pos htype', hnet]
  have htype' : normalize L r.resourceType ≠ "cidr" := hcidr
  have hhost : IsHost L r := ⟨hinternet, hcidr⟩
  by_cases haddr : normalize L r.address = ""
  · refine Or.inr (Or.inr (Or.inr (Or.inl ⟨hhost, haddr, ?_⟩)))
    simp only [indexAddress, if_neg htype, if_neg htype', if_pos (String.isEmpty_iff.mpr haddr)]
  · have hne : ¬ (normalize L r.address).isEmpty = true := fun h =>
      haddr (String.isEmpty_iff.mp h)
    cases hip : L.parseIpAddr (normalize L r.address) with
    | some ip =>
        refine Or.inr (Or.inr (Or.inr (Or.inr (Or.inl ⟨ip, hhost, haddr, rfl, ?_⟩))))
        simp only [indexAddress, if_neg htype, if_neg htype', if_neg hne, hip]
    | none =>
        refine Or.inr (Or.inr (Or.inr (Or.inr (Or.inr ⟨hhost, haddr, rfl, ?_⟩))))
        simp only [indexAddress, if_neg htype, if_neg htype', if_neg hne, hip]

theorem internetIds_indexAddress (w : Inner L) (r : PolicyResource) :
    (indexAddress w r).internetIds =
      w.internetIds ++ if IsInternet L r then [r.resourceId] else [] := by
  rcases indexAddress_cases w r with ⟨h, -, heq⟩ | ⟨_, -, h, -, heq⟩ | ⟨-, h, -, heq⟩ |
    ⟨h, -, heq⟩ | ⟨_, h, -, -, heq⟩ | ⟨h, -, -, heq⟩
  · simp [heq, h]
  · simp [heq, h]
  · simp [heq, h]
  · simp [heq, h.1]
  · simp [heq, h.1]
  · simp [heq, h.1]

/-- The networks a resource contributes, with its id. -/
def networkEntries (L : Libraries) (r : PolicyResource) : List (L.IpNet × List String) :=
  if IsCidr L r then
    ((L.parseIpNet (normalize L r.address)).map fun net => (net, [r.resourceId])).toList
  else []

theorem cidrList_indexAddress (w : Inner L) (r : PolicyResource) :
    (indexAddress w r).cidrList = w.cidrList ++ networkEntries L r := by
  unfold networkEntries
  rcases indexAddress_cases w r with ⟨-, h, heq⟩ | ⟨_, h, -, hnet, heq⟩ | ⟨h, -, hnet, heq⟩ |
    ⟨h, -, heq⟩ | ⟨_, h, -, -, heq⟩ | ⟨h, -, -, heq⟩
  · simp [heq, h]
  · simp [heq, h, hnet]
  · simp [heq, h, hnet]
  · simp [heq, h.2]
  · simp [heq, h.2]
  · simp [heq, h.2]

theorem byDns_indexAddress (w : Inner L) (r : PolicyResource) {key : String} (hkey : key ≠ "") :
    ((indexAddress w r).byDns.lookup key).getD [] = (w.byDns.lookup key).getD [] ++
      if IsHost L r ∧ normalize L r.address = key then [r.resourceId] else [] := by
  rcases indexAddress_cases w r with ⟨h, -, heq⟩ | ⟨_, h, -, -, heq⟩ | ⟨h, -, -, heq⟩ |
    ⟨h, haddr, heq⟩ | ⟨_, h, -, -, heq⟩ | ⟨h, -, -, heq⟩
  · simp [heq, IsHost, h]
  · simp [heq, IsHost, h]
  · simp [heq, IsHost, h]
  · simp [heq, haddr, hkey.symm]
  · simp [heq, h, lookup_pushEntry]
  · simp [heq, h, lookup_pushEntry]

theorem byIp_indexAddress (w : Inner L) (r : PolicyResource) (ip : L.IpAddr) :
    ((indexAddress w r).byIp.lookup ip).getD [] = (w.byIp.lookup ip).getD [] ++
      if IsHost L r ∧ L.parseIpAddr (normalize L r.address) = some ip then [r.resourceId]
      else [] := by
  rcases indexAddress_cases w r with ⟨h, -, heq⟩ | ⟨_, h, -, -, heq⟩ | ⟨h, -, -, heq⟩ |
    ⟨h, haddr, heq⟩ | ⟨ip', h, -, hip, heq⟩ | ⟨h, -, hip, heq⟩
  · simp [heq, IsHost, h]
  · simp [heq, IsHost, h]
  · simp [heq, IsHost, h]
  · simp [heq, haddr, L.parseIpAddr_empty]
  · simp [heq, h, hip, lookup_pushEntry]
  · simp [heq, hip]

section Index

variable (w : Inner L) (resources : List PolicyResource)

theorem internetIds_index : (resources.foldl indexResource w).internetIds =
    w.internetIds ++ (candidatesInternet L resources).map PolicyResource.resourceId := by
  rw [candidatesInternet, map_filter_eq_flatMap]
  refine foldl_collect Inner.internetIds ?_ resources w
  intro w r
  rw [indexResource_frame Inner.internetIds (fun _ _ => rfl), internetIds_indexAddress]

theorem cidrList_index : (resources.foldl indexResource w).cidrList =
    w.cidrList ++ resources.flatMap (networkEntries L) := by
  refine foldl_collect Inner.cidrList ?_ resources w
  intro w r
  rw [indexResource_frame Inner.cidrList (fun _ _ => rfl), cidrList_indexAddress]

theorem byDns_index {key : String} (hkey : key ≠ "") :
    ((resources.foldl indexResource w).byDns.lookup key).getD [] =
      (w.byDns.lookup key).getD [] ++
        (resources.filter fun r => IsHost L r ∧ normalize L r.address = key).map
          PolicyResource.resourceId := by
  rw [map_filter_eq_flatMap]
  refine foldl_collect (fun w : Inner L => (w.byDns.lookup key).getD []) ?_ resources w
  intro w r
  rw [indexResource_frame (fun w : Inner L => (w.byDns.lookup key).getD []) (fun _ _ => rfl),
    byDns_indexAddress _ _ hkey]

theorem byIp_index (ip : L.IpAddr) :
    ((resources.foldl indexResource w).byIp.lookup ip).getD [] =
      (w.byIp.lookup ip).getD [] ++
        (resources.filter fun r =>
          IsHost L r ∧ L.parseIpAddr (normalize L r.address) = some ip).map
          PolicyResource.resourceId := by
  rw [map_filter_eq_flatMap]
  refine foldl_collect (fun w : Inner L => (w.byIp.lookup ip).getD []) ?_ resources w
  intro w r
  rw [indexResource_frame (fun w : Inner L => (w.byIp.lookup ip).getD []) (fun _ _ => rfl),
    byIp_indexAddress]

end Index

/-- The address indexes are all that the resource's type decides. -/
theorem indexAddress_frame {τ : Type} (proj : Inner L → τ)
    (h : ∀ (w : Inner L) internetIds cidrList byDns byIp,
      proj { w with internetIds, cidrList, byDns, byIp } = proj w)
    (w : Inner L) (r : PolicyResource) : proj (indexAddress w r) = proj w := by
  rcases indexAddress_cases w r with ⟨-, -, heq⟩ | ⟨_, -, -, -, heq⟩ | ⟨-, -, -, heq⟩ |
    ⟨-, -, heq⟩ | ⟨_, -, -, -, heq⟩ | ⟨-, -, -, heq⟩ <;> rw [heq] <;> exact h w _ _ _ _

/-! ### The resources by id -/

theorem byId_indexResource (w : Inner L) (r : PolicyResource) :
    (indexResource w r).byId = w.byId.insert r.resourceId r := by
  rw [indexResource_frame Inner.byId (fun _ _ => rfl),
    indexAddress_frame Inner.byId (fun _ _ _ _ _ => rfl)]

theorem byId_index_of_notMem {id : String} : ∀ {resources : List PolicyResource} {w : Inner L},
    id ∉ resources.map PolicyResource.resourceId →
      (resources.foldl indexResource w).byId.lookup id = w.byId.lookup id
  | [], _, _ => rfl
  | r :: resources, w, h => by
      rw [List.map_cons, List.mem_cons, not_or] at h
      rw [List.foldl_cons, byId_index_of_notMem h.2, byId_indexResource,
        AList.lookup_insert_ne h.1]

/-- With distinct ids, a resource is found under its own. -/
theorem byId_index : ∀ {resources : List PolicyResource} {w : Inner L},
    (resources.map PolicyResource.resourceId).Nodup → ∀ r ∈ resources,
      (resources.foldl indexResource w).byId.lookup r.resourceId = some r
  | [], _, _, _, hr => absurd hr List.not_mem_nil
  | s :: resources, w, hnodup, r, hr => by
      rw [List.map_cons, List.nodup_cons] at hnodup
      rcases List.mem_cons.mp hr with rfl | hr
      · rw [List.foldl_cons, byId_index_of_notMem hnodup.1, byId_indexResource,
          AList.lookup_insert]
      · exact byId_index hnodup.2 r hr

/-! ### The validity fields -/

theorem hasSnapshot_indexSnapshot (snap : PolicySnapshot) (validUntil : SystemTime) :
    (indexSnapshot L snap validUntil).hasSnapshot = true := by
  refine foldl_frame Inner.hasSnapshot ?_ snap.resources _
  intro w r
  rw [indexResource_frame Inner.hasSnapshot (fun _ _ => rfl),
    indexAddress_frame Inner.hasSnapshot (fun _ _ _ _ _ => rfl)]

theorem validUntil_indexSnapshot (snap : PolicySnapshot) (validUntil : SystemTime) :
    (indexSnapshot L snap validUntil).validUntil = some validUntil := by
  refine foldl_frame Inner.validUntil ?_ snap.resources _
  intro w r
  rw [indexResource_frame Inner.validUntil (fun _ _ => rfl),
    indexAddress_frame Inner.validUntil (fun _ _ _ _ _ => rfl)]

/-! ### The ACL table -/

theorem mem_aclTable_identities {k rid : String} : ∀ (identities : List String) (w : Inner L),
    k ∈ (identities.foldl (fun w identity =>
        if identity.isEmpty then w
        else { w with aclTable := insert (aclKey identity rid) w.aclTable }) w).aclTable ↔
      k ∈ w.aclTable ∨ ∃ i ∈ identities, i ≠ "" ∧ k = aclKey i rid
  | [], w => by simp
  | i :: identities, w => by
      rw [List.foldl_cons, mem_aclTable_identities identities]
      by_cases hi : i = ""
      · simp [hi]
      · have hne : ¬ i.isEmpty = true := fun h => hi (String.isEmpty_iff.mp h)
        simp only [if_neg hne, Finset.mem_insert, List.mem_cons, exists_eq_or_imp, hi, ne_eq,
          not_false_eq_true, true_and]
        tauto

theorem mem_aclTable_indexResource {k : String} (w : Inner L) (r : PolicyResource) :
    k ∈ (indexResource w r).aclTable ↔
      k ∈ w.aclTable ∨ ∃ i ∈ r.allowedIdentities, i ≠ "" ∧ k = aclKey i r.resourceId := by
  unfold indexResource
  rw [mem_aclTable_identities, indexAddress_frame Inner.aclTable (fun _ _ _ _ _ => rfl)]

theorem mem_aclTable_index {k : String} : ∀ (resources : List PolicyResource) (w : Inner L),
    k ∈ (resources.foldl indexResource w).aclTable ↔
      k ∈ w.aclTable ∨ ∃ r ∈ resources, ∃ i ∈ r.allowedIdentities,
        i ≠ "" ∧ k = aclKey i r.resourceId
  | [], w => by simp
  | r :: resources, w => by
      rw [List.foldl_cons, mem_aclTable_index resources, mem_aclTable_indexResource, or_assoc]
      simp only [List.mem_cons, exists_eq_or_imp]

/-- The ACL table holds a plain identity's key for a resource exactly when the
resource lists the identity. -/
theorem aclKey_mem_index {resources : List PolicyResource} {w : Inner L} {identity : String}
    (hw : w.aclTable = ∅) (hnodup : (resources.map PolicyResource.resourceId).Nodup)
    (hplain : ∀ r ∈ resources, ∀ i ∈ r.allowedIdentities, PlainIdentity i)
    (hid : identity ≠ "") (hidPlain : PlainIdentity identity) {r : PolicyResource}
    (hr : r ∈ resources) :
    aclKey identity r.resourceId ∈ (resources.foldl indexResource w).aclTable ↔
      identity ∈ r.allowedIdentities := by
  rw [mem_aclTable_index, hw]
  constructor
  · rintro (h | ⟨s, hs, i, hi, -, heq⟩)
    · exact absurd h (Finset.notMem_empty _)
    · obtain ⟨rfl, hrs⟩ := aclKey_injective hidPlain (hplain s hs i hi) heq
      have hsame : r = s := List.inj_on_of_nodup_map hnodup hr hs hrs
      exact hsame ▸ hi
  · intro hmem
    exact Or.inr ⟨r, hr, identity, hmem, hid, rfl⟩

/-! ## The candidates -/

theorem networkEntries_containing (L : Libraries) (ip : L.IpAddr) (r : PolicyResource) :
    ((networkEntries L r).flatMap fun entry => if L.contains entry.1 ip then entry.2 else []) =
      if IsCidr L r ∧ NetworkContains L ip r then [r.resourceId] else [] := by
  by_cases hcidr : IsCidr L r
  · rcases Option.eq_none_or_eq_some (L.parseIpNet (normalize L r.address)) with hnet | ⟨net, hnet⟩
    · have hno : ¬ NetworkContains L ip r := by simp [NetworkContains, hnet]
      simp [networkEntries, hcidr, hnet, hno]
    · have hiff : NetworkContains L ip r ↔ L.contains net ip = true := by
        simp [NetworkContains, hnet]
      simp [networkEntries, hcidr, hnet, hiff]
  · simp [networkEntries, hcidr]

/-- The ids the cache considers are those of the candidates, in order. -/
theorem resourceIdsFor_index (resources : List PolicyResource) (w : Inner L)
    (hdns : w.byDns = ∅) (hip : w.byIp = ∅) (hcidr : w.cidrList = [])
    (hinternet : w.internetIds = []) (dest : String) :
    resourceIdsFor (resources.foldl indexResource w) dest =
      (candidates L resources dest).map PolicyResource.resourceId := by
  have hbyAddress : idsByAddress (resources.foldl indexResource w) (normalize L dest) =
      (candidatesByAddress L resources dest).map PolicyResource.resourceId := by
    unfold idsByAddress candidatesByAddress
    cases L.parseIpAddr (normalize L dest) with
    | none => rfl
    | some ip =>
        simp only [byIp_index, hip, cidrList_index, hcidr, List.nil_append, AList.lookup_empty,
          Option.getD_none, List.map_append, List.flatMap_assoc, networkEntries_containing]
        rw [map_filter_eq_flatMap fun r => IsCidr L r ∧ NetworkContains L ip r]
  have hbyName : normalize L dest ≠ "" →
      ((resources.foldl indexResource w).byDns.lookup (normalize L dest)).getD [] =
        (candidatesByName L resources dest).map PolicyResource.resourceId := by
    intro hkey
    rw [byDns_index w resources hkey, hdns, candidatesByName, if_neg hkey]
    rfl
  have hthird := internetIds_index w resources
  rw [hinternet, List.nil_append] at hthird
  unfold resourceIdsFor candidates
  simp only [hbyAddress, hthird]
  by_cases hfirst : candidatesByAddress L resources dest = []
  · by_cases hkey : normalize L dest = ""
    · have hsecond : candidatesByName L resources dest = [] := by simp [candidatesByName, hkey]
      by_cases hlast : candidatesInternet L resources = [] <;>
        simp [hfirst, hkey, hsecond, hlast]
    · simp only [hbyName hkey]
      by_cases hsecond : candidatesByName L resources dest = []
      · by_cases hlast : candidatesInternet L resources = [] <;>
          simp [hfirst, hkey, hsecond, hlast]
      · simp [hfirst, hkey, hsecond]
  · simp [hfirst]

/-! ## The loop over the ids -/

section Loop

variable {w : Inner L} {identity protocol : String} {port : UInt16}

/-- The entry for `id` matches and the ACL table lists the identity for it. -/
def Admits (w : Inner L) (identity protocol : String) (port : UInt16) (id : String) : Prop :=
  ∃ res, w.byId.lookup id = some res ∧ resourceMatches res protocol port = true ∧
    aclKey identity id ∈ w.aclTable

/-- The loop stops at the first id that admits the caller. -/
theorem firstAllowed_first {ids : List String} {seen : Finset String} {id : String}
    (hseen : ∀ x ∈ seen, ¬ Admits w identity protocol port x)
    (h : firstAllowed w identity protocol port seen ids = some id) :
    ∃ before after, ids = before ++ id :: after ∧ Admits w identity protocol port id ∧
      ∀ x ∈ before, ¬ Admits w identity protocol port x := by
  induction ids generalizing seen with
  | nil => cases h
  | cons i ids ih =>
      have later : ∀ {seen' : Finset String}, ¬ Admits w identity protocol port i →
          (∀ x ∈ seen', ¬ Admits w identity protocol port x) →
          firstAllowed w identity protocol port seen' ids = some id →
          ∃ before after, i :: ids = before ++ id :: after ∧
            Admits w identity protocol port id ∧
            ∀ x ∈ before, ¬ Admits w identity protocol port x := by
        intro seen' hi hseen' hrest
        obtain ⟨before, after, rfl, hok, hbefore⟩ := ih hseen' hrest
        exact ⟨i :: before, after, rfl, hok, List.forall_mem_cons.mpr ⟨hi, hbefore⟩⟩
      have hinsert : ¬ Admits w identity protocol port i →
          ∀ x ∈ insert i seen, ¬ Admits w identity protocol port x := by
        intro hi x hx
        rcases Finset.mem_insert.mp hx with rfl | hx
        · exact hi
        · exact hseen x hx
      unfold firstAllowed at h
      split at h
      next hmem => exact later (hseen i hmem) hseen h
      split at h
      next hnone =>
        have hi : ¬ Admits w identity protocol port i := by
          rintro ⟨res, hres, -⟩
          rw [hnone] at hres
          cases hres
        exact later hi (hinsert hi) h
      next res hres =>
        split at h
        next hcond =>
          obtain rfl := Option.some.inj h
          rw [Bool.and_eq_true, decide_eq_true_eq] at hcond
          exact ⟨[], ids, rfl, ⟨res, hres, hcond.1, hcond.2⟩,
            fun x hx => absurd hx List.not_mem_nil⟩
        next hcond =>
          have hi : ¬ Admits w identity protocol port i := by
            rintro ⟨res', hres', hmatch, hacl⟩
            rw [hres, Option.some.injEq] at hres'
            subst hres'
            rw [hmatch, decide_eq_true hacl] at hcond
            exact hcond rfl
          exact later hi (hinsert hi) h

/-- No resource before an admitting one makes the loop deny. -/
theorem firstAllowed_isSome : ∀ {ids : List String} {seen : Finset String} {id : String},
    id ∈ ids → id ∉ seen → Admits w identity protocol port id →
      (firstAllowed w identity protocol port seen ids).isSome = true
  | i :: ids, seen, id, hmem, hseen, hok => by
      unfold firstAllowed
      by_cases hi : id = i
      · obtain ⟨res, hres, hmatch, hacl⟩ := hok
        subst hi
        simp [hseen, hres, hmatch, hacl]
      · have hrest : id ∈ ids := (List.mem_cons.mp hmem).resolve_left hi
        have hseen' : id ∉ insert i seen := by simp [hi, hseen]
        split
        · exact firstAllowed_isSome hrest hseen hok
        split
        · exact firstAllowed_isSome hrest hseen' hok
        split
        · rfl
        · exact firstAllowed_isSome hrest hseen' hok

end Loop

/-- A positive answer names the first id that it found admitting. -/
theorem decideOn_yes {w : Inner L} {identity dest protocol rid reason : String} {port : UInt16}
    (h : decideOn w identity dest protocol port = (true, rid, reason)) :
    ∃ before after, resourceIdsFor w dest = before ++ rid :: after ∧
      Admits w identity protocol port rid ∧
      ∀ x ∈ before, ¬ Admits w identity protocol port x := by
  simp only [decideOn] at h
  split at h
  · cases h
  split at h
  next id hsome =>
    obtain ⟨-, rfl, -⟩ : True ∧ id = rid ∧ "allowed" = reason := by simpa using h
    exact firstAllowed_first (fun x hx => absurd hx (Finset.notMem_empty x)) hsome
  · cases h

theorem decideOn_id {w : Inner L} {identity dest protocol rid reason : String} {port : UInt16}
    (h : decideOn w identity dest protocol port = (true, rid, reason)) :
    rid ∈ resourceIdsFor w dest ∧ Admits w identity protocol port rid := by
  obtain ⟨before, after, hsplit, hadmits, -⟩ := decideOn_yes h
  refine ⟨?_, hadmits⟩
  rw [hsplit]
  exact List.mem_append_right before List.mem_cons_self

/-- The decision is the one the ids and the entries admit. -/
theorem decideOn_eq_true {w : Inner L} {identity dest protocol : String} {port : UInt16} :
    (decideOn w identity dest protocol port).1 = true ↔
      ∃ id ∈ resourceIdsFor w dest, Admits w identity protocol port id := by
  constructor
  · intro h
    exact ⟨_, decideOn_id (Prod.ext h rfl)⟩
  · rintro ⟨id, hmem, hok⟩
    have hne : (resourceIdsFor w dest).isEmpty = false := by
      rw [List.isEmpty_eq_false_iff]
      exact List.ne_nil_of_mem hmem
    obtain ⟨id', hsome⟩ := Option.isSome_iff_exists.mp
      (firstAllowed_isSome hmem (Finset.notMem_empty _) hok)
    simp [decideOn, hne, hsome]

/-! ## The decision is the policy -/

/-- On the indexes of a snapshot with distinct ids, an admitting id is the id of
a candidate that grants the request. -/
theorem admits_index {resources : List PolicyResource} {w : Inner L} {identity protocol : String}
    {port : UInt16} (hw : w.aclTable = ∅)
    (hnodup : (resources.map PolicyResource.resourceId).Nodup)
    (hplain : ∀ r ∈ resources, ∀ i ∈ r.allowedIdentities, PlainIdentity i)
    (hid : identity ≠ "") (hidPlain : PlainIdentity identity) {r : PolicyResource}
    (hr : r ∈ resources) :
    Admits (resources.foldl indexResource w) identity protocol port r.resourceId ↔
      GrantedBy r identity protocol port := by
  unfold Admits
  simp only [byId_index hnodup r hr, Option.some.injEq, exists_eq_left',
    resourceMatches_iff, aclKey_mem_index hw hnodup hplain hid hidPlain hr]
  exact ⟨fun ⟨⟨hprotocol, hport⟩, hmem⟩ => ⟨hprotocol, hport, hmem⟩,
    fun h => ⟨⟨h.protocol, h.port⟩, h.identity⟩⟩

theorem candidates_subset (resources : List PolicyResource) (dest : String) :
    ∀ r ∈ candidates L resources dest, r ∈ resources := by
  have hname : ∀ r ∈ candidatesByName L resources dest, r ∈ resources := by
    unfold candidatesByName
    split
    · simp
    · exact fun r hr => List.mem_of_mem_filter hr
  have haddress : ∀ r ∈ candidatesByAddress L resources dest, r ∈ resources := by
    unfold candidatesByAddress
    split
    · intro r hr
      rcases List.mem_append.mp hr with hr | hr <;> exact List.mem_of_mem_filter hr
    · simp
  unfold candidates
  split
  · exact haddress
  split
  · exact hname
  · exact fun r hr => List.mem_of_mem_filter hr

/-- The decision on a snapshot's indexes is that of its policy. -/
theorem decideOn_index (snap : PolicySnapshot) (validUntil : SystemTime)
    (hnodup : (snap.resources.map PolicyResource.resourceId).Nodup)
    (hplain : ∀ r ∈ snap.resources, ∀ i ∈ r.allowedIdentities, PlainIdentity i)
    {identity : String} (hid : identity ≠ "") (hidPlain : PlainIdentity identity)
    (dest protocol : String) (port : UInt16) {ok : Bool} {rid reason : String}
    (h : decideOn (indexSnapshot L snap validUntil) identity dest protocol port =
      (ok, rid, reason)) :
    (ok = true ↔ ∃ r ∈ candidates L snap.resources dest, GrantedBy r identity protocol port) ∧
      (ok = true → ∃ r ∈ candidates L snap.resources dest,
        GrantedBy r identity protocol port ∧ r.resourceId = rid) := by
  have hids : resourceIdsFor (indexSnapshot L snap validUntil) dest =
      (candidates L snap.resources dest).map PolicyResource.resourceId :=
    resourceIdsFor_index snap.resources _ rfl rfl rfl rfl dest
  have hadmits : ∀ r ∈ candidates L snap.resources dest,
      (Admits (indexSnapshot L snap validUntil) identity protocol port r.resourceId ↔
        GrantedBy r identity protocol port) := fun r hr =>
    admits_index rfl hnodup hplain hid hidPlain (candidates_subset _ _ r hr)
  have hok : ok = (decideOn (indexSnapshot L snap validUntil) identity dest protocol port).1 := by
    rw [h]
  constructor
  · rw [hok, decideOn_eq_true, hids]
    simp only [List.mem_map, exists_exists_and_eq_and]
    exact exists_congr fun r => and_congr_right fun hr => hadmits r hr
  · rintro rfl
    obtain ⟨hmem, hadm⟩ := decideOn_id h
    rw [hids] at hmem
    obtain ⟨r, hr, rfl⟩ := List.mem_map.mp hmem
    exact ⟨r, hr, (hadmits r hr).mp hadm, rfl⟩

/-- **Decision theorem.**  After a snapshot with distinct ids and plain
identities was accepted, and for as long as it is current, a query by a plain
identity is answered, and the answer is yes exactly when a candidate for the
destination grants the request; the answer then names such a candidate. -/
theorem allowed_iff_granted (c c' : PolicyCache L) (snap : PolicySnapshot)
    (received now validUntil : SystemTime)
    (haccepted : c.replaceSnapshot snap received = some (c', true))
    (hnodup : (snap.resources.map PolicyResource.resourceId).Nodup)
    (hplain : ∀ r ∈ snap.resources, ∀ i ∈ r.allowedIdentities, PlainIdentity i)
    {identity : String} (hid : identity ≠ "") (hidPlain : PlainIdentity identity)
    (hvalid : parseRfc3339 snap.snapshotMeta.validUntil = some validUntil)
    (hnow : now ≤ validUntil + c.staleGrace) (dest protocol : String) (port : UInt16) :
    ∃ ok rid reason, c'.allowed identity dest protocol port now = some (ok, rid, reason) ∧
      (ok = true ↔ ∃ r ∈ candidates L snap.resources dest, GrantedBy r identity protocol port) ∧
      (ok = true → ∃ r ∈ candidates L snap.resources dest,
        GrantedBy r identity protocol port ∧ r.resourceId = rid) := by
  rcases replaceSnapshot_cases haccepted with ⟨hfalse, -⟩ | ⟨-, t, haccepts, rfl⟩
  · cases hfalse
  obtain rfl : t = validUntil := Option.some.inj (haccepts.parsed.symm.trans hvalid)
  rcases hdecision : decideOn (indexSnapshot L snap t) identity dest protocol port with
    ⟨ok, rid, reason⟩
  refine ⟨ok, rid, reason, ?_, decideOn_index snap t hnodup hplain hid hidPlain dest protocol
    port hdecision⟩
  have hlate : ¬ now > t + c.staleGrace := Int.not_lt.mpr hnow
  simp only [allowed, hasSnapshot_indexSnapshot, validUntil_indexSnapshot, haccepts.fits,
    if_neg hlate, hdecision, Bool.not_true, Bool.false_eq_true, if_false]

/-- One host, granted to one identity, under the key `k`. -/
def hostSnapshot : PolicySnapshot where
  snapshotMeta := {
    connectorId := "con_1"
    policyVersion := 1
    compiledAt := "2025-01-01T00:00:00Z"
    validUntil := "2025-01-01T00:10:00Z"
    signature := "c04e849b3e4a5ed7b8469025bbfc1103d83b047d430fa3b56a176180427a0b60" }
  resources := [{
    resourceId := "res_db"
    resourceType := "dns"
    address := "db.internal"
    port := 0
    protocol := "TCP"
    portFrom := none
    portTo := none
    allowedIdentities := ["identity-1"]
    firewallStatus := "unprotected" }]

/-- HMAC-SHA256 of `hostSnapshot` without its signature, under the key `k`. -/
def hostSnapshotDigest : List UInt8 :=
  [192, 78, 132, 155, 62, 74, 94, 215, 184, 70, 144, 37, 187, 252, 17, 3,
    216, 59, 4, 125, 67, 15, 163, 181, 106, 23, 97, 128, 66, 122, 11, 96]

def hostCache : PolicyCache (.recorded hostSnapshotDigest) := new _ [107] (300 * nanosPerSec)

/-- `hostCache` once `hostSnapshot` was accepted. -/
def hostCacheLoaded : PolicyCache (.recorded hostSnapshotDigest) :=
  { hostCache with inner := indexSnapshot _ hostSnapshot (1735690200 * nanosPerSec) }

theorem replaceSnapshot_hostSnapshot :
    hostCache.replaceSnapshot hostSnapshot (1735689600 * nanosPerSec) =
      some (hostCacheLoaded, true) :=
  replaceSnapshot_of_accepts ⟨by decide, by decide, by decide, by decide⟩

theorem allowed_hostCacheLoaded :
    hostCacheLoaded.allowed "identity-1" "DB.internal " "tcp" 5432 (1735690500 * nanosPerSec) =
      some (true, "res_db", "allowed") := by
  decide

theorem hostSnapshot_granted :
    ∃ r ∈ candidates (.recorded hostSnapshotDigest) hostSnapshot.resources "DB.internal ",
      GrantedBy r "identity-1" "tcp" 5432 ∧ r.resourceId = "res_db" := by
  obtain ⟨ok, rid, reason, hanswer, -, hgranted⟩ :=
    allowed_iff_granted hostCache hostCacheLoaded hostSnapshot (1735689600 * nanosPerSec)
      (1735690500 * nanosPerSec) (1735690200 * nanosPerSec) replaceSnapshot_hostSnapshot
      (by decide) (by decide) (by decide : "identity-1" ≠ "") (by decide) (by decide) (by decide)
      "DB.internal " "tcp" 5432
  rw [allowed_hostCacheLoaded] at hanswer
  cases hanswer
  exact hgranted rfl

end PolicyCache

end ZeroTrust.Connector
