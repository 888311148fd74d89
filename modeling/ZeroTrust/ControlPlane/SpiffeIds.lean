/-
# `ZeroTrust.ControlPlane.SpiffeIds` — the names of the workloads, minted and parsed

Enrolment (`api/enroll.go`) gives a workload the SPIFFE ID `spiffe://domain/role/id`.
It is read again by hand in several places:

    controller   `extractAndVerifySPIFFE`           scheme, host and path of the URL
                 `identityFromContextMultiDomain`   split at every slash
                 `parseConnectorID`                 split at every slash
    connector    `verify_spiffe_uri`                first slash, then one more
                 `agent_id_from_spiffe`,
                 `connector_id_from_spiffe`         first slash, then two more

The results: each reader gets back what was minted (`spiffe_ids_round_trip`), and the two
readers of a connector's id agree on every SPIFFE ID whatsoever
(`parseConnectorID_eq_iff`); both sides use that id to derive the policy key.

`net/url` is outside the repository: `NetUrl` stands for it, and `Keeps` for what the
code expects of it on the minted URIs.
-/
import ZeroTrust.ControlPlane.Clients
import ZeroTrust.Controller.EnrolmentTokens

namespace ZeroTrust.ControlPlane.SpiffeIds

open Clients (parseConnectorID)
open Controller.EnrolmentTokens (validId)

/-! ## Minting -/

/-- The roles of the enrolled workloads. -/
inductive Role where
  | connector
  | tunneler
  deriving DecidableEq

def Role.name : Role → String
  | .connector => "connector"
  | .tunneler => "tunneler"

/-- `fmt.Sprintf("spiffe://%s/connector/%s", trustDomain, id)`, and with `tunneler`. -/
def spiffeID (trustDomain : String) (role : Role) (id : String) : String :=
  "spiffe://" ++ trustDomain ++ "/" ++ role.name ++ "/" ++ id

/-- ASCII letters, digits, dashes and dots, and at least one of them. -/
def validDomain (domain : String) : Bool :=
  domain ≠ "" && domain.toList.all fun c =>
    ('a' ≤ c && c ≤ 'z') || ('A' ≤ c && c ≤ 'Z') || ('0' ≤ c && c ≤ '9') || c = '-' || c = '.'

/-! ## The controller's readers -/

/-- The parts of a `url.URL` that are looked at. -/
structure Url where
  scheme : String
  host : String
  path : String

structure NetUrl where
  parse : String → Option Url
  string : Url → String

/-- `net/url` takes the minted URIs apart, and prints them as they were. -/
def NetUrl.Keeps (N : NetUrl) : Prop :=
  ∀ (domain : String) (role : Role) (id : String), validDomain domain = true →
    validId id = true → ∃ url, N.parse (spiffeID domain role id) = some url ∧
      url.scheme = "spiffe" ∧ url.host = domain ∧ url.path = "/" ++ role.name ++ "/" ++ id ∧
      N.string url = spiffeID domain role id

/-- The URI SANs of a peer certificate. -/
structure Certificate where
  uris : List Url

/-- What `peer.FromContext` finds: the peer, its TLS state, the certificates. -/
structure PeerContext where
  hasPeer : Bool
  isTls : Bool
  peerCertificates : List Certificate

def newTrustDomainValidator (globalTrustDomain systemDomain domain : String) : Bool :=
  domain = globalTrustDomain ||
    (systemDomain ≠ "" && ("." ++ systemDomain).toList.isSuffixOf domain.toList)

def extractAndVerifySPIFFE (N : NetUrl) (validator : Option (String → Bool)) (ctx : PeerContext)
    (trustDomain : String) (allowedRoles : List String) : Except String (String × String) :=
  if !ctx.hasPeer then .error "missing peer information"
  else if !ctx.isTls then .error "connection is not using TLS"
  else
    match ctx.peerCertificates with
    | [] => .error "no peer certificates presented"
    | cert :: _ =>
        match cert.uris with
        | [uri] =>
            if uri.scheme ≠ "spiffe" then .error "SPIFFE ID must use spiffe:// scheme"
            -- Accept global trust domain or any workspace trust domain.
            else if !(uri.host = trustDomain || validator.any (· uri.host)) then
              .error "SPIFFE trust domain mismatch"
            else
              match (dropLeading "/" uri.path).toList.splitOn '/' with
              | [role, _] =>
                  if allowedRoles ≠ [] ∧ String.ofList role ∉ allowedRoles then
                    .error "invalid SPIFFE role"
                  else .ok (N.string uri, String.ofList role)
              | _ => .error "invalid SPIFFE path format"
        | _ => .error "exactly one SPIFFE ID is required"

/-- The values the interceptor left in the context. -/
structure IdentityContext where
  spiffeID : Option String
  role : Option String

def identityFromContextMultiDomain (ctx : IdentityContext) : Except String (String × String) :=
  match ctx.spiffeID with
  | none => .error "missing SPIFFE identity"
  | some spiffeID =>
      match ctx.role with
      | none => .error "missing SPIFFE role"
      | some role =>
          -- Parse ID from spiffe://DOMAIN/ROLE/ID
          match (dropLeading "spiffe://" spiffeID).toList.splitOn '/' with
          | _ :: _ :: id :: _ =>
              if id = [] then .error "invalid SPIFFE id" else .ok (role, String.ofList id)
          | _ => .error "invalid SPIFFE id"

/-! ## The connector's readers -/

def verifySpiffeUri (uri trustDomain expectedRole : String) : Except String String :=
  match stripLeading "spiffe://" uri with
  | none => .error "SPIFFE ID must use spiffe:// scheme"
  | some rest =>
      match cut '/' rest.toList with
      | none => .error "invalid SPIFFE ID format"
      | some (host, path) =>
          if String.ofList host ≠ trustDomain then
            .error ("SPIFFE trust domain mismatch: got '" ++ String.ofList host ++ "', want '" ++
              trustDomain ++ "'")
          else
            let role := String.ofList ((splitn '/' 2 path).headD [])
            if expectedRole ≠ "" ∧ role ≠ expectedRole then
              .error ("unexpected SPIFFE role: got '" ++ role ++ "', want '" ++ expectedRole ++ "'")
            else .ok uri

/-- `agent_id_from_spiffe` and `connector_id_from_spiffe`, which differ in the role. -/
def idFromSpiffe (role spiffeId : String) : Option String := do
  let rest ← stripLeading "spiffe://" spiffeId
  let (_, path) ← cut '/' rest.toList
  match splitn '/' 3 path with
  | r :: id :: _ => if r ≠ role.toList then none else some (String.ofList id)
  | _ => none

def agentIdFromSpiffe : String → Option String := idFromSpiffe "tunneler"

def connectorIdFromSpiffe : String → Option String := idFromSpiffe "connector"

/-! ## Slashes -/

theorem slash_not_mem_of_validDomain {domain : String} (h : validDomain domain = true) :
    '/' ∉ domain.toList := by
  intro hmem
  rw [validDomain, Bool.and_eq_true, List.all_eq_true] at h
  exact absurd (h.2 '/' hmem) (by decide)

theorem slash_not_mem_of_validId {id : String} (h : validId id = true) : '/' ∉ id.toList := by
  intro hmem
  rw [validId, Bool.and_eq_true, List.all_eq_true] at h
  exact absurd (h.2 '/' hmem) (by decide)

theorem slash_not_mem_name (role : Role) : '/' ∉ role.name.toList := by
  cases role <;> decide

theorem validId_ne_empty {id : String} (h : validId id = true) : id ≠ "" := by
  rintro rfl
  cases h

/-- What follows the scheme. -/
def afterScheme (domain : String) (role : Role) (id : String) : List Char :=
  domain.toList ++ '/' :: (role.name.toList ++ '/' :: id.toList)

theorem toList_spiffeID (domain : String) (role : Role) (id : String) :
    (spiffeID domain role id).toList = "spiffe://".toList ++ afterScheme domain role id := by
  simp only [spiffeID, afterScheme, String.toList_append, List.append_assoc]
  rfl

theorem stripLeading_append (p : String) {s : String} {rest : List Char}
    (h : s.toList = p.toList ++ rest) : stripLeading p s = some (String.ofList rest) := by
  have hleading : p.toList <+: s.toList := h ▸ List.prefix_append _ _
  rw [stripLeading, if_pos hleading, h, List.drop_left]

theorem dropLeading_eq_getD (p s : String) : dropLeading p s = (stripLeading p s).getD s := by
  unfold dropLeading stripLeading
  split <;> rfl

theorem stripLeading_spiffeID (domain : String) (role : Role) (id : String) :
    stripLeading "spiffe://" (spiffeID domain role id) =
      some (String.ofList (afterScheme domain role id)) :=
  stripLeading_append _ (toList_spiffeID domain role id)

section Minted

variable {domain id : String} {role : Role}

theorem splitOn_afterScheme (hdomain : validDomain domain = true) (hid : validId id = true) :
    (afterScheme domain role id).splitOn '/' =
      [domain.toList, role.name.toList, id.toList] := by
  rw [afterScheme, List.splitOn_append_cons_self_of_not_mem (slash_not_mem_of_validDomain hdomain),
    List.splitOn_append_cons_self_of_not_mem (slash_not_mem_name role),
    List.splitOn_eq_singleton (slash_not_mem_of_validId hid)]

theorem cut_afterScheme (hdomain : validDomain domain = true) :
    cut '/' (afterScheme domain role id) =
      some (domain.toList, role.name.toList ++ '/' :: id.toList) :=
  cut_append (slash_not_mem_of_validDomain hdomain)

/-- The path falls into role and id, whatever the limit on the pieces. -/
theorem splitn_path (hid : validId id = true) (n : Nat) :
    splitn '/' (n + 2) (role.name.toList ++ '/' :: id.toList) =
      [role.name.toList, id.toList] := by
  rw [splitn, cut_append (slash_not_mem_name role)]
  cases n with
  | zero => rfl
  | succ n => simp only [splitn, cut_eq_none (slash_not_mem_of_validId hid)]

/-! ## Each reader, on what was minted -/

theorem parseConnectorID_spiffeID (hdomain : validDomain domain = true)
    (hid : validId id = true) :
    parseConnectorID (spiffeID domain role id) = if role = .connector then id else "" := by
  have hne : spiffeID domain role id ≠ "" := by
    intro h
    have hlist := toList_spiffeID domain role id
    rw [h] at hlist
    cases hlist
  rw [parseConnectorID, if_neg hne, dropLeading_eq_getD, stripLeading_spiffeID, Option.getD_some,
    String.toList_ofList, splitOn_afterScheme hdomain hid]
  cases role with
  | connector => simp [Role.name, String.ofList_toList]
  | tunneler => simp [Role.name]

theorem idFromSpiffe_spiffeID (wanted : Role) (hdomain : validDomain domain = true)
    (hid : validId id = true) :
    idFromSpiffe wanted.name (spiffeID domain role id) =
      if role = wanted then some id else none := by
  simp only [idFromSpiffe, stripLeading_spiffeID, Option.bind_eq_bind, Option.bind_some,
    String.toList_ofList, cut_afterScheme hdomain, splitn_path hid 1]
  cases role <;> cases wanted <;> simp [Role.name, String.ofList_toList]

theorem identityFromContextMultiDomain_spiffeID (hdomain : validDomain domain = true)
    (hid : validId id = true) :
    identityFromContextMultiDomain ⟨some (spiffeID domain role id), some role.name⟩ =
      .ok (role.name, id) := by
  have hchars : id.toList ≠ [] := fun h => validId_ne_empty hid (String.toList_eq_nil_iff.mp h)
  simp only [identityFromContextMultiDomain, dropLeading_eq_getD, stripLeading_spiffeID,
    Option.getD_some, String.toList_ofList, splitOn_afterScheme hdomain hid, hchars, if_false,
    String.ofList_toList]

theorem verifySpiffeUri_spiffeID (hdomain : validDomain domain = true) (hid : validId id = true)
    (trustDomain expectedRole : String) :
    verifySpiffeUri (spiffeID domain role id) trustDomain expectedRole =
        .ok (spiffeID domain role id) ↔
      trustDomain = domain ∧ (expectedRole = role.name ∨ expectedRole = "") := by
  simp only [verifySpiffeUri, stripLeading_spiffeID, String.toList_ofList,
    cut_afterScheme hdomain, splitn_path hid 0, String.ofList_toList, List.headD_cons]
  by_cases htrust : domain = trustDomain
  · by_cases hempty : expectedRole = ""
    · simp [htrust, hempty]
    · by_cases hrole : role.name = expectedRole
      · simp [htrust, hrole]
      · have hrole' : expectedRole ≠ role.name := fun h => hrole h.symm
        simp [htrust, hempty, hrole, hrole']
  · have htrust' : trustDomain ≠ domain := fun h => htrust h.symm
    simp [htrust, htrust']

/-- A URL of the minted form, in the certificate of a TLS peer. -/
theorem extractAndVerifySPIFFE_minted (N : NetUrl) (hid : validId id = true) {url : Url}
    (hscheme : url.scheme = "spiffe") (hhost : url.host = domain)
    (hpath : url.path = "/" ++ role.name ++ "/" ++ id) (validator : Option (String → Bool))
    (chain : List Certificate) (trustDomain : String) (allowedRoles : List String) :
    extractAndVerifySPIFFE N validator ⟨true, true, ⟨[url]⟩ :: chain⟩ trustDomain allowedRoles =
        .ok (N.string url, role.name) ↔
      (domain = trustDomain ∨ validator.any (· domain) = true) ∧
        (allowedRoles = [] ∨ role.name ∈ allowedRoles) := by
  have hchars : url.path.toList = "/".toList ++ (role.name.toList ++ '/' :: id.toList) := by
    simp only [hpath, String.toList_append, List.append_assoc]
    rfl
  have hparts : (dropLeading "/" url.path).toList.splitOn '/' =
      [role.name.toList, id.toList] := by
    rw [dropLeading_eq_getD, stripLeading_append _ hchars, Option.getD_some, String.toList_ofList,
      List.splitOn_append_cons_self_of_not_mem (slash_not_mem_name role),
      List.splitOn_eq_singleton (slash_not_mem_of_validId hid)]
  have htrusted : (decide (domain = trustDomain) || validator.any (· domain)) = true ↔
      domain = trustDomain ∨ validator.any (· domain) = true := by
    rw [Bool.or_eq_true, decide_eq_true_eq]
  simp only [extractAndVerifySPIFFE, hscheme, hhost, hparts, String.ofList_toList]
  by_cases hdomain : domain = trustDomain ∨ validator.any (· domain) = true
  · by_cases hroles : allowedRoles = [] ∨ role.name ∈ allowedRoles
    · have hallowed : ¬ (allowedRoles ≠ [] ∧ role.name ∉ allowedRoles) := by tauto
      simp [htrusted.mpr hdomain, hdomain, hroles, hallowed]
    · have hrefused : allowedRoles ≠ [] ∧ role.name ∉ allowedRoles := by tauto
      simp [htrusted.mpr hdomain, hrefused]
  · have hmismatch := Bool.eq_false_iff.mpr (mt htrusted.mp hdomain)
    simp [hmismatch, hdomain]

theorem spiffeID_inj {domain' id' : String} {role' : Role} (hdomain : validDomain domain = true)
    (hid : validId id = true) (hdomain' : validDomain domain' = true)
    (hid' : validId id' = true) (h : spiffeID domain role id = spiffeID domain' role' id') :
    domain = domain' ∧ role = role' ∧ id = id' := by
  have hlist := congrArg String.toList h
  rw [toList_spiffeID, toList_spiffeID, List.append_cancel_left_eq] at hlist
  have hparts := congrArg (List.splitOn '/') hlist
  rw [splitOn_afterScheme hdomain hid, splitOn_afterScheme hdomain' hid'] at hparts
  simp only [List.cons.injEq, and_true, String.toList_inj] at hparts
  obtain ⟨hd, hrole, hi⟩ := hparts
  refine ⟨hd, ?_, hi⟩
  cases role <;> cases role' <;> first | rfl | exact absurd hrole (by decide)

end Minted

/-! ## The two readers of a connector's id -/

/-- The first piece of a string is what stands before the first slash, also when
the number of pieces is limited. -/
theorem splitOn_head (s : List Char) :
    ∃ first more more', s.splitOn '/' = first :: more ∧ splitn '/' 2 s = first :: more' := by
  rcases cut_cases '/' s with ⟨hmem, hcut⟩ | ⟨a, b, rfl, ha, hcut⟩
  · exact ⟨s, [], [], List.splitOn_eq_singleton hmem, by simp only [splitn, hcut]⟩
  · exact ⟨a, b.splitOn '/', [b], List.splitOn_append_cons_self_of_not_mem ha b,
      by simp only [splitn, hcut]⟩

theorem parseConnectorID_eq_iff {s x : String} (hs : "spiffe://".toList <+: s.toList)
    (hx : x ≠ "") : parseConnectorID s = x ↔ connectorIdFromSpiffe s = some x := by
  obtain ⟨rest, hrest⟩ := hs
  have hne : s ≠ "" := by
    rintro rfl
    cases hrest
  have hstrip := stripLeading_append "spiffe://" hrest.symm
  simp only [parseConnectorID, if_neg hne, dropLeading_eq_getD, hstrip, Option.getD_some,
    String.toList_ofList, connectorIdFromSpiffe, idFromSpiffe, Option.bind_eq_bind,
    Option.bind_some]
  -- the first two slashes decide; what is left is one piece on one side and all on the other
  rcases cut_cases '/' rest with ⟨hmem, hcut⟩ | ⟨host, path, rfl, hhost, hcut⟩
  · simp only [List.splitOn_eq_singleton hmem, hcut, Option.bind_none, hx.symm, reduceCtorEq]
  · rw [List.splitOn_append_cons_self_of_not_mem hhost, hcut]
    rcases cut_cases '/' path with ⟨hmem, hcut'⟩ | ⟨role, more, rfl, hrole, hcut'⟩
    · simp only [List.splitOn_eq_singleton hmem, Option.bind_some, splitn, hcut', hx.symm,
        reduceCtorEq]
    · obtain ⟨first, tail, tail', hall, hlimited⟩ := splitOn_head more
      have hpieces : splitn '/' 3 (role ++ '/' :: more) = role :: first :: tail' := by
        rw [splitn, hcut', ← hlimited]
      rw [List.splitOn_append_cons_self_of_not_mem hrole, hall]
      simp only [Option.bind_some, hpieces]
      by_cases hconnector : role = "connector".toList
      · simp only [ne_eq, hconnector, not_true_eq_false, if_false, Option.some.injEq]
      · simp only [ne_eq, hconnector, not_false_eq_true, if_true]
        exact ⟨fun h => absurd h.symm hx, fun h => by cases h⟩

/-- **Minted and read back.**  The URI minted for a workload passes the controller's check
iff its domain is trusted and its role allowed, and the connector's iff it is asked for in
its own domain, under its own role or under no role; the readers get back role and id;
different workloads have different URIs; and the two readers of a connector's id agree on
every SPIFFE ID. -/
theorem spiffe_ids_round_trip (N : NetUrl) (hN : N.Keeps) (domain : String) (role : Role)
    (id : String) (hdomain : validDomain domain = true) (hid : validId id = true) :
    (∃ url, N.parse (spiffeID domain role id) = some url ∧
      ∀ validator chain trustDomain allowedRoles,
        extractAndVerifySPIFFE N validator ⟨true, true, ⟨[url]⟩ :: chain⟩ trustDomain
            allowedRoles = .ok (spiffeID domain role id, role.name) ↔
          (domain = trustDomain ∨ validator.any (· domain) = true) ∧
            (allowedRoles = [] ∨ role.name ∈ allowedRoles)) ∧
    (∀ trustDomain expectedRole,
      verifySpiffeUri (spiffeID domain role id) trustDomain expectedRole =
          .ok (spiffeID domain role id) ↔
        trustDomain = domain ∧ (expectedRole = role.name ∨ expectedRole = "")) ∧
    (role = .connector → parseConnectorID (spiffeID domain role id) = id ∧
      connectorIdFromSpiffe (spiffeID domain role id) = some id) ∧
    (role = .tunneler → agentIdFromSpiffe (spiffeID domain role id) = some id) ∧
    identityFromContextMultiDomain ⟨some (spiffeID domain role id), some role.name⟩ =
      .ok (role.name, id) ∧
    (∀ domain' role' id', validDomain domain' = true → validId id' = true →
      spiffeID domain role id = spiffeID domain' role' id' →
        domain = domain' ∧ role = role' ∧ id = id') ∧
    ∀ s x, "spiffe://".toList <+: s.toList → x ≠ "" →
      (parseConnectorID s = x ↔ connectorIdFromSpiffe s = some x) := by
  refine ⟨?_, verifySpiffeUri_spiffeID hdomain hid, ?_, ?_,
    identityFromContextMultiDomain_spiffeID hdomain hid, ?_, ?_⟩
  · obtain ⟨url, hparse, hscheme, hhost, hpath, hstring⟩ := hN domain role id hdomain hid
    refine ⟨url, hparse, ?_⟩
    intro validator chain trustDomain allowedRoles
    rw [← hstring]
    exact extractAndVerifySPIFFE_minted N hid hscheme hhost hpath validator chain trustDomain
      allowedRoles
  · rintro rfl
    refine ⟨(parseConnectorID_spiffeID hdomain hid).trans (if_pos rfl), ?_⟩
    exact (idFromSpiffe_spiffeID .connector hdomain hid).trans (if_pos rfl)
  · rintro rfl
    exact (idFromSpiffe_spiffeID .tunneler hdomain hid).trans (if_pos rfl)
  · intro domain' role' id' hdomain' hid' heq
    exact spiffeID_inj hdomain hid hdomain' hid' heq
  · intro s x hs hx
    exact parseConnectorID_eq_iff hs hx

/-- `net/url` on URLs of a scheme, a host and a path, without anything to escape. -/
def NetUrl.plain : NetUrl where
  parse s := do
    let rest ← stripLeading "spiffe://" s
    let (host, path) ← cut '/' rest.toList
    some ⟨"spiffe", String.ofList host, String.ofList ('/' :: path)⟩
  string url := url.scheme ++ "://" ++ url.host ++ url.path

theorem NetUrl.plain_keeps : NetUrl.plain.Keeps := by
  intro domain role id hdomain hid
  refine ⟨⟨"spiffe", domain, "/" ++ role.name ++ "/" ++ id⟩, ?_, rfl, rfl, rfl, ?_⟩
  · simp only [NetUrl.plain, stripLeading_spiffeID, Option.bind_eq_bind, Option.bind_some,
      String.toList_ofList, cut_afterScheme hdomain, String.ofList_toList, Option.some.injEq,
      Url.mk.injEq, true_and]
    rw [← String.toList_inj]
    simp only [String.toList_ofList, String.toList_append, List.append_assoc]
    rfl
  · rw [← String.toList_inj, toList_spiffeID, afterScheme]
    simp only [NetUrl.plain, String.toList_append, List.append_assoc]
    rfl

/-- An agent of a workspace whose trust domain lies under the system domain. -/
theorem workspace_agent_round_trips :
    verifySpiffeUri (spiffeID "acme.zt.example" .tunneler "agent-1") "acme.zt.example" "tunneler" =
        .ok (spiffeID "acme.zt.example" .tunneler "agent-1") ∧
      agentIdFromSpiffe (spiffeID "acme.zt.example" .tunneler "agent-1") = some "agent-1" ∧
      ∃ url, NetUrl.plain.parse (spiffeID "acme.zt.example" .tunneler "agent-1") = some url ∧
        extractAndVerifySPIFFE NetUrl.plain
            (some (newTrustDomainValidator "corp.internal" "zt.example"))
            ⟨true, true, [⟨[url]⟩]⟩ "corp.internal" ["connector", "tunneler"] =
          .ok (spiffeID "acme.zt.example" .tunneler "agent-1", "tunneler") := by
  obtain ⟨⟨url, hparse, hextract⟩, hverify, -, hagent, -⟩ :=
    spiffe_ids_round_trip .plain NetUrl.plain_keeps "acme.zt.example" .tunneler "agent-1"
      (by decide) (by decide)
  refine ⟨(hverify _ _).mpr ⟨rfl, Or.inl rfl⟩, hagent rfl, url, hparse, ?_⟩
  exact (hextract _ [] _ _).mpr ⟨Or.inr (by decide), Or.inr (by decide)⟩

/-- The connector's check takes an empty expected role for any role. -/
theorem empty_role_is_accepted :
    ¬ ∀ (domain : String) (role : Role) (id : String), validDomain domain = true →
      validId id = true → ∀ trustDomain expectedRole,
        (verifySpiffeUri (spiffeID domain role id) trustDomain expectedRole =
            .ok (spiffeID domain role id) ↔
          trustDomain = domain ∧ expectedRole = role.name) := by
  intro h
  have hverify : verifySpiffeUri (spiffeID "corp.internal" .connector "con-1") "corp.internal" "" =
      .ok (spiffeID "corp.internal" .connector "con-1") :=
    (verifySpiffeUri_spiffeID (by decide) (by decide) _ _).mpr ⟨rfl, Or.inr rfl⟩
  have hrole := ((h "corp.internal" .connector "con-1" (by decide) (by decide) _ _).mp hverify).2
  exact absurd hrole (by decide)

end ZeroTrust.ControlPlane.SpiffeIds
