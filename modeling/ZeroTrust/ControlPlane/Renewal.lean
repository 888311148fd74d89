/-
# `ZeroTrust.ControlPlane.Renewal` — which CA renews a certificate

`api/enroll.go`.  Enrolment takes the CA from the token: the workspace's, if the token has
a workspace, or else the global one.  Renewal has no token.  It looks the workspace up again,

    role connector → entry in the registry → its workspace → the workspace's row → its CA

and wherever this breaks off the global CA signs.  It breaks off for every tunneler.  For a
connector it depends on the entry, which other things write:

    enrolment             the workspace of the latest token used for the id
    deletion              no entry
    heartbeat             keeps the workspace, or makes an entry without one
    restart               the entry is the row, which the latest heartbeat wrote

Who calls has been through TLS before, with the certificate of its enrolment or one from the
same CA.  A renewal agrees with the enrolment if the entry still has the enrolment's workspace
(`renewal_stays`), and, where CAs can be told apart, only then (`stays_iff_asEnrolled`).
`renewal_stays_of_steady` says which runs keep all entries so.
-/
import ZeroTrust.ControlPlane.Revocation
import ZeroTrust.ControlPlane.SpiffeIds

namespace ZeroTrust.ControlPlane.Renewal

open Lib
open Controller.EnrolmentTokens (Tokens TokenRow validId)
open Revocation (Registry ConnectorRecord)
open SpiffeIds (NetUrl Url Role IdentityContext spiffeID identityFromContextMultiDomain)

/-! ## Certificates -/

structure WorkloadCert (CA Key : Type) where
  issuer : CA
  commonName : String
  uris : List Url
  dnsNames : List String
  ipAddresses : List String
  notBefore : SystemTime
  notAfter : SystemTime
  publicKey : Key

structure EnrollRequest where
  id : String
  publicKey : ByteArray := .empty
  token : String := ""
  privateIp : String := ""
  version : String := ""

structure EnrollResponse (CA Key : Type) where
  certificate : WorkloadCert CA Key
  caCertificate : String

inductive Code where
  | invalidArgument
  | unauthenticated
  | permissionDenied
  | internal
  deriving DecidableEq

/-- The enrolment server and the libraries it uses. -/
structure Settings (CA Key : Type) where
  ca : CA
  caPEM : String
  /-- The CAs whose leaf certificates the controller's TLS takes: in `main.go` only `ca`. -/
  clientCAs : CA → Bool
  trustDomain : String
  net : NetUrl
  /-- `ca.LoadCA`, from the PEM texts of certificate and key. -/
  loadCA : String → String → Except String CA
  parsePublicKey : ByteArray → Except String Key
  /-- The address that `net.ParseIP` reads, if it does. -/
  parseIP : String → Option String
  /-- `x509.CreateCertificate` fails on the template with this error. -/
  createError : WorkloadCert CA Key → Option String

/-! ## The state -/

structure WorkspaceRow where
  id : String
  trustDomain : String
  caCertPEM : String
  caKeyPEM : String

/-- An enrolment that succeeded. -/
structure Enrolment (CA Key : Type) where
  role : Role
  id : String
  /-- The token's. -/
  workspaceID : String
  spiffeID : String
  response : EnrollResponse CA Key

structure State (CA Key : Type) where
  control : Revocation.State
  tokens : Tokens
  workspaces : Table WorkspaceRow.id
  /-- All of them, the earliest first. -/
  enrolments : List (Enrolment CA Key)

/-- Before the first enrolment. -/
def State.start {CA Key : Type} (control : Revocation.State) (tokens : Tokens)
    (workspaces : Table WorkspaceRow.id) : State CA Key := ⟨control, tokens, workspaces, []⟩

def registerWithWorkspace (r : Registry) (id privateIP version workspaceID : String)
    (now : SystemTime) : Registry :=
  r.put { id, privateIP, version, lastSeen := now, workspaceID }

/-- `ConsumeTokenWithWorkspace`, from lock to unlock. -/
def consumeTokenWithWorkspace (tokens : Tokens) (token connectorID : String) (now : SystemTime) :
    Tokens × Option String :=
  match tokens.get token with
  | none => (tokens, none)
  | some row =>
      if now / nanosPerSec > row.expiresAt then (tokens, none)
      else if row.consumed then
        -- Allow re-enrollment if the token was already consumed by the same ID.
        (tokens, if row.connectorId = connectorID then some row.workspaceId else none)
      else
        (tokens.update (TokenRow.consume ⟨token, connectorID⟩)
          (TokenRow.consume_token ⟨token, connectorID⟩), some row.workspaceId)

/-- The entry that `LoadConnectorsFromDB` makes of a row. -/
def loadedRecord (c : Revocation.State) (row : Controller.ConnectorRow) : ConnectorRecord where
  id := row.id
  privateIP := (c.columns row.id).privateIp
  version := (c.columns row.id).version
  lastSeen := (c.columns row.id).lastSeen * nanosPerSec
  workspaceID := (c.columns row.id).workspaceId

theorem ids_loaded (c : Revocation.State) :
    ((c.db.connectors.rows.map (loadedRecord c)).map ConnectorRecord.id).Nodup := by
  rw [List.map_map]
  exact c.db.connectors.keys_nodup

def loadConnectorsFromDB (c : Revocation.State) : Registry :=
  ⟨c.db.connectors.rows.map (loadedRecord c), ids_loaded c⟩

/-! ## The handlers -/

section Handlers

variable {CA Key : Type} (cfg : Settings CA Key)

/-- `ca.IssueWorkloadCert`. -/
def issueWorkloadCert (ca : CA) (spiffeID : String) (pubKey : Key) (ttl : Duration)
    (dnsNames ipAddrs : List String) (now : SystemTime) :
    Except String (WorkloadCert CA Key) :=
  match cfg.net.parse spiffeID with
  | none => .error "invalid SPIFFE ID"
  | some url =>
      let template : WorkloadCert CA Key :=
        { issuer := ca, commonName := spiffeID, uris := [url], dnsNames, ipAddresses := ipAddrs
          notBefore := now - 60 * nanosPerSec, notAfter := now + ttl, publicKey := pubKey }
      match cfg.createError template with
      | none => .ok template
      | some e => .error e

/-- 5 minutes. -/
def workloadTTL : Duration := 5 * 60 * nanosPerSec

/-- CA, its certificate and the trust domain for an enrolment. -/
def enrolmentIssuer (s : State CA Key) (workspaceID : String) :
    Except String (CA × String × String) :=
  if workspaceID = "" then .ok (cfg.ca, cfg.caPEM, cfg.trustDomain)
  else
    match s.workspaces.get workspaceID with
    | none => .error "workspace lookup failed: sql: no rows in result set"
    | some ws =>
        match cfg.loadCA ws.caCertPEM ws.caKeyPEM with
        | .error e => .error ("workspace CA load failed: " ++ e)
        | .ok ca => .ok (ca, ws.caCertPEM, ws.trustDomain)

/-- What both enrolments do from the token on. -/
def enrol (s : State CA Key) (role : Role) (req : EnrollRequest) (pubKey : Key)
    (ipAddrs : List String) (now : SystemTime) :
    State CA Key × Except (Code × String) (Enrolment CA Key) :=
  match consumeTokenWithWorkspace s.tokens req.token req.id now with
  | (tokens, none) =>
      ({ s with tokens }, .error (.permissionDenied, "invalid enrollment token"))
  | (tokens, some workspaceID) =>
      let s := { s with tokens }
      match enrolmentIssuer cfg s workspaceID with
      | .error e => (s, .error (.internal, e))
      | .ok (issuerCA, issuerCAPEM, trustDomain) =>
          let spiffeID := spiffeID trustDomain role req.id
          match issueWorkloadCert cfg issuerCA spiffeID pubKey workloadTTL [] ipAddrs now with
          | .error e => (s, .error (.internal, "certificate issuance failed: " ++ e))
          | .ok certificate =>
              let e : Enrolment CA Key :=
                { role, id := req.id, workspaceID, spiffeID
                  response := { certificate, caCertificate := issuerCAPEM } }
              ({ s with enrolments := s.enrolments ++ [e] }, .ok e)

def enrollConnector (s : State CA Key) (req : EnrollRequest) (now : SystemTime) :
    State CA Key × Except (Code × String) (EnrollResponse CA Key) :=
  if !validId req.id then (s, .error (.invalidArgument, "missing connector id"))
  else if req.privateIp = "" then (s, .error (.invalidArgument, "missing private ip"))
  else if req.version = "" then (s, .error (.invalidArgument, "missing version"))
  else
    match cfg.parsePublicKey req.publicKey with
    | .error e => (s, .error (.invalidArgument, "invalid public key: " ++ e))
    | .ok pubKey =>
        match enrol cfg s .connector req pubKey (cfg.parseIP req.privateIp).toList now with
        | (s, .error e) => (s, .error e)
        | (s, .ok e) =>
            let registry := registerWithWorkspace s.control.registry req.id req.privateIp
              req.version e.workspaceID now
            ({ s with control := { s.control with registry } }, .ok e.response)

def enrollTunneler (s : State CA Key) (req : EnrollRequest) (now : SystemTime) :
    State CA Key × Except (Code × String) (EnrollResponse CA Key) :=
  if !validId req.id then (s, .error (.invalidArgument, "missing tunneler id"))
  else if req.token = "" then (s, .error (.invalidArgument, "missing enrollment token"))
  else
    match cfg.parsePublicKey req.publicKey with
    | .error e => (s, .error (.invalidArgument, "invalid public key: " ++ e))
    | .ok pubKey =>
        match enrol cfg s .tunneler req pubKey [] now with
        | (s, .error e) => (s, .error e)
        | (s, .ok e) => (s, .ok e.response)

/-- The CA for a renewal, and its certificate. -/
def renewalIssuer (s : State CA Key) (role id : String) : CA × String :=
  if role = "connector" then
    match s.control.registry.get id with
    | some r =>
        if r.workspaceID ≠ "" then
          match s.workspaces.get r.workspaceID with
          | some ws =>
              match cfg.loadCA ws.caCertPEM ws.caKeyPEM with
              | .ok ca => (ca, ws.caCertPEM)
              | .error _ => (cfg.ca, cfg.caPEM)
          | none => (cfg.ca, cfg.caPEM)
        else (cfg.ca, cfg.caPEM)
    | none => (cfg.ca, cfg.caPEM)
  else (cfg.ca, cfg.caPEM)

def renew (s : State CA Key) (ctx : IdentityContext) (req : EnrollRequest) (now : SystemTime) :
    Except (Code × String) (EnrollResponse CA Key) :=
  if !validId req.id then .error (.invalidArgument, "missing id")
  else
    match cfg.parsePublicKey req.publicKey with
    | .error e => .error (.invalidArgument, "invalid public key: " ++ e)
    | .ok pubKey =>
        match identityFromContextMultiDomain ctx with
        | .error e => .error (.unauthenticated, e)
        | .ok (role, id) =>
            if id ≠ req.id then .error (.permissionDenied, "id mismatch for renewal")
            else
              -- Use the same trust domain from the caller's existing SPIFFE ID.
              let spiffeID := ctx.spiffeID.getD ""
              let (issuerCA, issuerCAPEM) := renewalIssuer cfg s role req.id
              let ipAddrs :=
                if role = "connector" then
                  ((s.control.registry.get req.id).bind fun r => cfg.parseIP r.privateIP).toList
                else []
              match issueWorkloadCert cfg issuerCA spiffeID pubKey workloadTTL [] ipAddrs now with
              | .error e => .error (.internal, "certificate renewal failed: " ++ e)
              | .ok certificate => .ok { certificate, caCertificate := issuerCAPEM }

/-! ## Runs -/

inductive Event where
  | enrollConnector (req : EnrollRequest) (now : SystemTime)
  | enrollTunneler (req : EnrollRequest) (now : SystemTime)
  | heartbeat (connectorID privateIP : String) (now : SystemTime)
  /-- Among them the requests that delete an entry of the registry. -/
  | request (e : Revocation.Request)
  /-- `DELETE /api/remote-networks/{id}`. -/
  | deleteNetwork (networkID : String)
  | restart
  | createToken (row : TokenRow)
  | deleteTokens (connectorID : String)
  | createWorkspace (ws : WorkspaceRow)
  /-- The workload of the enrolment with this number renews its certificate. -/
  | renew (caller : Nat) (req : EnrollRequest) (now : SystemTime)

/-- The connectors of the network leave the registry and the table. -/
def deleteNetwork (c : Revocation.State) (networkID : String) : Revocation.State :=
  let connectorIDs := (c.db.connectors.rows.filter fun row => row.remoteNetworkId = networkID).map
    Controller.ConnectorRow.id
  { c with
    registry := c.registry.filter fun r => r.id ∉ connectorIDs
    db.connectors := c.db.connectors.filter fun row => row.remoteNetworkId ≠ networkID }

def step (s : State CA Key) : Event → Option (State CA Key)
  | .enrollConnector req now => some (enrollConnector cfg s req now).1
  | .enrollTunneler req now => some (enrollTunneler cfg s req now).1
  | .heartbeat connectorID privateIP now =>
      some { s with control := s.control.heartbeat connectorID privateIP now }
  | .request e => some { s with control := Revocation.requestStep s.control e }
  | .deleteNetwork networkID => some { s with control := deleteNetwork s.control networkID }
  | .restart =>
      let registry := loadConnectorsFromDB s.control
      some { s with control := .start s.control.db s.control.columns registry }
  | .createToken row => some { s with tokens := (s.tokens.insert row).getD s.tokens }
  | .deleteTokens connectorID =>
      some { s with tokens := s.tokens.filter fun row => row.connectorId ≠ connectorID }
  | .createWorkspace ws => some { s with workspaces := (s.workspaces.insert ws).getD s.workspaces }
  | .renew caller _ _ =>
      match s.enrolments[caller]? with
      | some e => if cfg.clientCAs e.response.certificate.issuer then some s else none
      | none => none

theorem renew_step {cfg : Settings CA Key} {s s' : State CA Key} {caller : Nat}
    {req : EnrollRequest} {now : SystemTime} (h : step cfg s (.renew caller req now) = some s') :
    s' = s := by
  simp only [step] at h
  split at h
  · exact (Option.some.inj (Option.ite_none_right_eq_some.mp h).2).symm
  · cases h

/-- What the interceptor finds in the certificate of an enrolled workload. -/
def Enrolment.context (e : Enrolment CA Key) : IdentityContext := ⟨some e.spiffeID, some e.role.name⟩

/-! ## What a renewal is to keep -/

/-- The certificate is for the caller's SPIFFE ID and from the CA of its enrolment, and so is
the CA certificate that comes with it. -/
structure Stays (e : Enrolment CA Key) (resp : EnrollResponse CA Key) : Prop where
  commonName : resp.certificate.commonName = e.spiffeID
  uris : resp.certificate.uris = e.response.certificate.uris
  issuer : resp.certificate.issuer = e.response.certificate.issuer
  caCertificate : resp.caCertificate = e.response.caCertificate

/-- If the step is a renewal and succeeds, it stays with the CA of the enrolment. -/
def RenewsInPlace (s : State CA Key) : Event → Prop
  | .renew caller req now => ∀ e, s.enrolments[caller]? = some e →
      ∀ resp, renew cfg s e.context req now = .ok resp → Stays e resp
  | _ => True

/-- What the registry says of the id is what the enrolment says. -/
structure AsEnrolled (s : State CA Key) (e : Enrolment CA Key) (id : String) : Prop where
  workspace : e.workspaceID ≠ "" → e.role = .connector ∧
    ∃ r, s.control.registry.get id = some r ∧ r.workspaceID = e.workspaceID
  /-- No entry, or one without a workspace, or without one whose CA loads. -/
  global : e.workspaceID = "" → e.role = .connector →
    ∀ r, s.control.registry.get id = some r → r.workspaceID ≠ "" →
      ∀ ws, s.workspaces.get r.workspaceID = some ws →
        ∀ ca, cfg.loadCA ws.caCertPEM ws.caKeyPEM ≠ .ok ca

/-- A workload renews only while the registry has it as it was enrolled. -/
def RenewsAsEnrolled (s : State CA Key) : Event → Prop
  | .renew caller req _ => ∀ e, s.enrolments[caller]? = some e → AsEnrolled cfg s e req.id
  | _ => True

end Handlers

/-! ## What an enrolment records -/

section Enrolments

variable {CA Key : Type} {cfg : Settings CA Key} {s s' : State CA Key}

/-- The certificate of the enrolment is for its SPIFFE ID and from the CA that its token
asked for. -/
structure Issued (cfg : Settings CA Key) (workspaces : Table WorkspaceRow.id)
    (e : Enrolment CA Key) : Prop where
  uris : ∃ url, cfg.net.parse e.spiffeID = some url ∧ e.response.certificate.uris = [url]
  global : e.workspaceID = "" →
    e.response.certificate.issuer = cfg.ca ∧ e.response.caCertificate = cfg.caPEM
  workspace : e.workspaceID ≠ "" → ∃ ws, workspaces.get e.workspaceID = some ws ∧
    cfg.loadCA ws.caCertPEM ws.caKeyPEM = .ok e.response.certificate.issuer ∧
    e.response.caCertificate = ws.caCertPEM

theorem issueWorkloadCert_ok {ca : CA} {spiffeID : String} {pubKey : Key} {ttl : Duration}
    {dnsNames ipAddrs : List String} {now : SystemTime} {cert : WorkloadCert CA Key}
    (h : issueWorkloadCert cfg ca spiffeID pubKey ttl dnsNames ipAddrs now = .ok cert) :
    cert.issuer = ca ∧ cert.commonName = spiffeID ∧
      ∃ url, cfg.net.parse spiffeID = some url ∧ cert.uris = [url] := by
  unfold issueWorkloadCert at h
  split at h
  · cases h
  next url hparse =>
    simp only at h
    split at h
    · cases h
      exact ⟨rfl, rfl, url, hparse, rfl⟩
    · cases h

theorem enrolmentIssuer_ok {workspaceID : String} {issuer : CA × String × String}
    (h : enrolmentIssuer cfg s workspaceID = .ok issuer) :
    (workspaceID = "" → issuer.1 = cfg.ca ∧ issuer.2.1 = cfg.caPEM) ∧
      (workspaceID ≠ "" → ∃ ws, s.workspaces.get workspaceID = some ws ∧
        cfg.loadCA ws.caCertPEM ws.caKeyPEM = .ok issuer.1 ∧ issuer.2.1 = ws.caCertPEM) := by
  unfold enrolmentIssuer at h
  split at h
  next hglobal =>
    cases h
    exact ⟨fun _ => ⟨rfl, rfl⟩, fun hne => absurd hglobal hne⟩
  next hne =>
    refine ⟨fun hglobal => absurd hglobal hne, fun _ => ?_⟩
    split at h
    · cases h
    next ws hws =>
      split at h
      · cases h
      next ca hca =>
        cases h
        exact ⟨ws, hws, hca, rfl⟩

variable (cfg) in
/-- What an enrolment changes: the tokens, and the list if it succeeds. -/
theorem enrol_spec (s : State CA Key) (role : Role) (req : EnrollRequest) (pubKey : Key)
    (ipAddrs : List String) (now : SystemTime) :
    (enrol cfg s role req pubKey ipAddrs now).1.control = s.control ∧
    (enrol cfg s role req pubKey ipAddrs now).1.workspaces = s.workspaces ∧
    ((∃ err, (enrol cfg s role req pubKey ipAddrs now).2 = .error err ∧
        (enrol cfg s role req pubKey ipAddrs now).1.enrolments = s.enrolments) ∨
      ∃ e, (enrol cfg s role req pubKey ipAddrs now).2 = .ok e ∧
        (enrol cfg s role req pubKey ipAddrs now).1.enrolments = s.enrolments ++ [e] ∧
        e.role = role ∧ e.id = req.id ∧ Issued cfg s.workspaces e ∧
        (consumeTokenWithWorkspace s.tokens req.token req.id now).2 = some e.workspaceID) := by
  unfold enrol
  split
  · exact ⟨rfl, rfl, Or.inl ⟨_, rfl, rfl⟩⟩
  next tokens workspaceID htoken =>
    simp only
    split
    · exact ⟨rfl, rfl, Or.inl ⟨_, rfl, rfl⟩⟩
    next issuerCA issuerCAPEM trustDomain hissuer =>
      split
      · exact ⟨rfl, rfl, Or.inl ⟨_, rfl, rfl⟩⟩
      next certificate hcert =>
        refine ⟨rfl, rfl, Or.inr ⟨_, rfl, rfl, rfl, rfl, ?_, congrArg Prod.snd htoken⟩⟩
        obtain ⟨rfl, -, huris⟩ := issueWorkloadCert_ok hcert
        obtain ⟨hglobal, hworkspace⟩ := enrolmentIssuer_ok hissuer
        exact ⟨huris, hglobal, hworkspace⟩

variable (cfg) in
theorem enrollConnector_spec (s : State CA Key) (req : EnrollRequest) (now : SystemTime) :
    (enrollConnector cfg s req now).1.workspaces = s.workspaces ∧
    (((enrollConnector cfg s req now).1.enrolments = s.enrolments ∧
        (enrollConnector cfg s req now).1.control = s.control) ∨
      ∃ e, (enrollConnector cfg s req now).1.enrolments = s.enrolments ++ [e] ∧
        e.role = .connector ∧ e.id = req.id ∧ Issued cfg s.workspaces e ∧
        (consumeTokenWithWorkspace s.tokens req.token req.id now).2 = some e.workspaceID ∧
        (enrollConnector cfg s req now).1.control.registry =
          registerWithWorkspace s.control.registry req.id req.privateIp req.version
            e.workspaceID now) := by
  unfold enrollConnector
  split
  · exact ⟨rfl, Or.inl ⟨rfl, rfl⟩⟩
  split
  · exact ⟨rfl, Or.inl ⟨rfl, rfl⟩⟩
  split
  · exact ⟨rfl, Or.inl ⟨rfl, rfl⟩⟩
  split
  · exact ⟨rfl, Or.inl ⟨rfl, rfl⟩⟩
  next pubKey hkey =>
    obtain ⟨hcontrol, hworkspaces, henrol⟩ := enrol_spec cfg s .connector req pubKey
      (cfg.parseIP req.privateIp).toList now
    split
    next s₁ err hresult =>
      rw [hresult] at hcontrol hworkspaces henrol
      obtain ⟨_, -, henrolments⟩ | ⟨_, hok, -⟩ := henrol
      · exact ⟨hworkspaces, Or.inl ⟨henrolments, hcontrol⟩⟩
      · cases hok
    next s₁ e hresult =>
      rw [hresult] at hcontrol hworkspaces henrol
      obtain ⟨_, herror, -⟩ | ⟨e', hok, henrolments, hrole, hid, hissued, htoken⟩ := henrol
      · cases herror
      · obtain rfl := Except.ok.inj hok
        refine ⟨hworkspaces, Or.inr ⟨e, henrolments, hrole, hid, hissued, htoken, ?_⟩⟩
        simp only at hcontrol ⊢
        rw [hcontrol]

variable (cfg) in
theorem enrollTunneler_spec (s : State CA Key) (req : EnrollRequest) (now : SystemTime) :
    (enrollTunneler cfg s req now).1.workspaces = s.workspaces ∧
    (enrollTunneler cfg s req now).1.control = s.control ∧
    ((enrollTunneler cfg s req now).1.enrolments = s.enrolments ∨
      ∃ e, (enrollTunneler cfg s req now).1.enrolments = s.enrolments ++ [e] ∧
        e.role = .tunneler ∧ Issued cfg s.workspaces e ∧
        (consumeTokenWithWorkspace s.tokens req.token req.id now).2 = some e.workspaceID) := by
  unfold enrollTunneler
  split
  · exact ⟨rfl, rfl, Or.inl rfl⟩
  split
  · exact ⟨rfl, rfl, Or.inl rfl⟩
  split
  · exact ⟨rfl, rfl, Or.inl rfl⟩
  next pubKey hkey =>
    obtain ⟨hcontrol, hworkspaces, henrol⟩ := enrol_spec cfg s .tunneler req pubKey [] now
    split
    next s₁ err hresult =>
      rw [hresult] at hcontrol hworkspaces henrol
      obtain ⟨_, -, henrolments⟩ | ⟨_, hok, -⟩ := henrol
      · exact ⟨hworkspaces, hcontrol, Or.inl henrolments⟩
      · cases hok
    next s₁ e hresult =>
      rw [hresult] at hcontrol hworkspaces henrol
      obtain ⟨_, herror, -⟩ | ⟨e', -, henrolments, hrole, -, hissued, htoken⟩ := henrol
      · cases herror
      · exact ⟨hworkspaces, hcontrol, Or.inr ⟨e', henrolments, hrole, hissued, htoken⟩⟩

/-- A workspace's row is written once. -/
theorem workspaces_step {ev : Event} (h : step cfg s ev = some s') {id : String}
    {ws : WorkspaceRow} (hws : s.workspaces.get id = some ws) :
    s'.workspaces.get id = some ws := by
  cases ev with
  | enrollConnector req now =>
      cases h
      rw [(enrollConnector_spec cfg s req now).1]
      exact hws
  | enrollTunneler req now =>
      cases h
      rw [(enrollTunneler_spec cfg s req now).1]
      exact hws
  | createWorkspace row =>
      cases h
      show ((s.workspaces.insert row).getD s.workspaces).get id = some ws
      cases hinsert : s.workspaces.insert row with
      | none => exact hws
      | some workspaces =>
          obtain ⟨hfree, rfl⟩ := Table.insert_eq_some hinsert
          have hne : id ≠ row.id := by
            rintro rfl
            rw [hws] at hfree
            cases hfree
          rw [Option.getD_some, Table.get_put, if_neg hne]
          exact hws
  | renew caller req now =>
      obtain rfl := renew_step h
      exact hws
  | heartbeat | request | deleteNetwork | restart | createToken | deleteTokens =>
      cases h
      exact hws

theorem enrolments_step {ev : Event} (h : step cfg s ev = some s') :
    ∀ e ∈ s'.enrolments, e ∈ s.enrolments ∨ Issued cfg s.workspaces e := by
  cases ev with
  | enrollConnector req now =>
      cases h
      rcases (enrollConnector_spec cfg s req now).2 with ⟨hsame, -⟩ | ⟨e, hnew, -, -, hissued, -⟩
      · intro e he
        exact Or.inl (hsame ▸ he)
      · intro e' he'
        rw [hnew, List.mem_append, List.mem_singleton] at he'
        exact he'.imp_right fun (heq : e' = e) => heq ▸ hissued
  | enrollTunneler req now =>
      cases h
      rcases (enrollTunneler_spec cfg s req now).2.2 with hsame | ⟨e, hnew, -, hissued, -⟩
      · intro e he
        exact Or.inl (hsame ▸ he)
      · intro e' he'
        rw [hnew, List.mem_append, List.mem_singleton] at he'
        exact he'.imp_right fun (heq : e' = e) => heq ▸ hissued
  | renew caller req now =>
      obtain rfl := renew_step h
      exact fun e he => Or.inl he
  | heartbeat | request | deleteNetwork | restart | createToken | deleteTokens | createWorkspace =>
      cases h
      exact fun e he => Or.inl he

/-- Every enrolment is from the CA of its workspace, as the workspace is now. -/
def AllIssued (cfg : Settings CA Key) (s : State CA Key) : Prop :=
  ∀ e ∈ s.enrolments, Issued cfg s.workspaces e

theorem allIssued_step {ev : Event} (hs : AllIssued cfg s) (h : step cfg s ev = some s') :
    AllIssued cfg s' := by
  intro e he
  obtain ⟨huris, hglobal, hworkspace⟩ := (enrolments_step h e he).elim (hs e) id
  refine ⟨huris, hglobal, fun hne => ?_⟩
  obtain ⟨ws, hws, hissuer⟩ := hworkspace hne
  exact ⟨ws, workspaces_step h hws, hissuer⟩

end Enrolments

/-! ## What a renewal gives -/

section Renewals

variable {CA Key : Type} {cfg : Settings CA Key} {s : State CA Key} {e : Enrolment CA Key}

theorem identityFromContextMultiDomain_role {ctx : IdentityContext} {role id : String}
    (h : identityFromContextMultiDomain ctx = .ok (role, id)) : ctx.role = some role := by
  unfold identityFromContextMultiDomain at h
  split at h
  · cases h
  · split at h
    · cases h
    next hrole =>
      split at h
      · split at h
        · cases h
        · cases h
          exact hrole
      · cases h

/-- A renewal that succeeds is for the caller's SPIFFE ID and from the CA looked up. -/
theorem renew_ok {req : EnrollRequest} {now : SystemTime} {resp : EnrollResponse CA Key}
    (h : renew cfg s e.context req now = .ok resp) :
    resp.certificate.commonName = e.spiffeID ∧
    (∃ url, cfg.net.parse e.spiffeID = some url ∧ resp.certificate.uris = [url]) ∧
    (resp.certificate.issuer, resp.caCertificate) =
      renewalIssuer cfg s e.role.name req.id := by
  unfold renew at h
  split at h
  · cases h
  split at h
  · cases h
  split at h
  · cases h
  next role id hidentity =>
    split at h
    · cases h
    obtain rfl : e.role.name = role :=
      Option.some.inj (identityFromContextMultiDomain_role hidentity)
    simp only at h
    split at h
    · cases h
    next certificate hcert =>
      cases h
      obtain ⟨hissuer, hname, huris⟩ := issueWorkloadCert_ok hcert
      exact ⟨hname, huris, by rw [hissuer]⟩

theorem renewalIssuer_of_entry {id : String} {r : ConnectorRecord} {ws : WorkspaceRow} {ca : CA}
    (hr : s.control.registry.get id = some r) (hnamed : r.workspaceID ≠ "")
    (hws : s.workspaces.get r.workspaceID = some ws)
    (hca : cfg.loadCA ws.caCertPEM ws.caKeyPEM = .ok ca) :
    renewalIssuer cfg s Role.connector.name id = (ca, ws.caCertPEM) := by
  have hconnector : Role.connector.name = "connector" := rfl
  simp only [renewalIssuer, hconnector, if_true, hr, if_pos hnamed, hws, hca]

/-- The lookup breaks off, or ends at the CA of the entry's workspace. -/
theorem renewalIssuer_cases (cfg : Settings CA Key) (s : State CA Key) (role : Role)
    (id : String) :
    renewalIssuer cfg s role.name id = (cfg.ca, cfg.caPEM) ∨
      role = .connector ∧ ∃ r ws ca, s.control.registry.get id = some r ∧ r.workspaceID ≠ "" ∧
        s.workspaces.get r.workspaceID = some ws ∧
        cfg.loadCA ws.caCertPEM ws.caKeyPEM = .ok ca := by
  cases role with
  | tunneler => exact Or.inl (if_neg (by decide))
  | connector =>
      have hconnector : Role.connector.name = "connector" := rfl
      simp only [renewalIssuer, hconnector, if_true]
      split
      next r hr =>
        split
        next hnamed =>
          split
          next ws hws =>
            split
            next ca hca => exact Or.inr ⟨trivial, r, ws, ca, hr, hnamed, hws, hca⟩
            · exact Or.inl rfl
          · exact Or.inl rfl
        · exact Or.inl rfl
      · exact Or.inl rfl

/-- Where the registry has the id as it was enrolled, the CA looked up is the one of the
enrolment. -/
theorem renewalIssuer_eq (hissued : Issued cfg s.workspaces e) {id : String}
    (h : AsEnrolled cfg s e id) :
    renewalIssuer cfg s e.role.name id =
      (e.response.certificate.issuer, e.response.caCertificate) := by
  by_cases hglobal : e.workspaceID = ""
  · obtain ⟨hissuer, hpem⟩ := hissued.global hglobal
    rw [hissuer, hpem]
    rcases renewalIssuer_cases cfg s e.role id with hbroken |
      ⟨hrole, r, ws, ca, hr, hnamed, hws, hca⟩
    · exact hbroken
    · exact absurd hca (h.global hglobal hrole r hr hnamed ws hws ca)
  · obtain ⟨hrole, r, hr, hworkspace⟩ := h.workspace hglobal
    obtain ⟨ws, hws, hca, hpem⟩ := hissued.workspace hglobal
    rw [← hworkspace] at hglobal hws
    rw [hrole, hpem]
    exact renewalIssuer_of_entry hr hglobal hws hca

theorem stays_of_asEnrolled (hissued : Issued cfg s.workspaces e) {req : EnrollRequest}
    (henrolled : AsEnrolled cfg s e req.id) {now : SystemTime} {resp : EnrollResponse CA Key}
    (hresp : renew cfg s e.context req now = .ok resp) : Stays e resp := by
  obtain ⟨hname, ⟨url, hparse, huris⟩, hissuer⟩ := renew_ok hresp
  obtain ⟨url', hparse', huris'⟩ := hissued.uris
  rw [renewalIssuer_eq hissued henrolled] at hissuer
  obtain rfl := Option.some.inj (hparse.symm.trans hparse')
  exact ⟨hname, huris.trans huris'.symm, congrArg Prod.fst hissuer, congrArg Prod.snd hissuer⟩

theorem renewal_in_place (hs : AllIssued cfg s) {ev : Event} (h : RenewsAsEnrolled cfg s ev) :
    RenewsInPlace cfg s ev := by
  cases ev with
  | renew caller req now =>
      intro e he resp hresp
      exact stays_of_asEnrolled (hs e (List.mem_of_getElem? he)) (h e he) hresp
  | _ => trivial

/-- Different workspaces have different CA certificates, and none has the global one. -/
structure DistinctCAs (cfg : Settings CA Key) (workspaces : Table WorkspaceRow.id) : Prop where
  global : ∀ ws ∈ workspaces.rows, ws.caCertPEM ≠ cfg.caPEM
  workspace : ∀ ws ∈ workspaces.rows, ∀ ws' ∈ workspaces.rows,
    ws.caCertPEM = ws'.caCertPEM → ws = ws'

/-- The condition is exact where CAs can be told apart. -/
theorem stays_iff_asEnrolled (hissued : Issued cfg s.workspaces e)
    (hdistinct : DistinctCAs cfg s.workspaces) {req : EnrollRequest} {now : SystemTime}
    {resp : EnrollResponse CA Key} (hresp : renew cfg s e.context req now = .ok resp) :
    Stays e resp ↔ AsEnrolled cfg s e req.id := by
  obtain ⟨-, -, hissuer⟩ := renew_ok hresp
  constructor
  · intro hstays
    have hpem : (renewalIssuer cfg s e.role.name req.id).2 = e.response.caCertificate :=
      (congrArg Prod.snd hissuer).symm.trans hstays.caCertificate
    refine ⟨fun hnamed => ?_, fun hglobal hrole r hr hworkspace ws hws ca hca => ?_⟩
    · obtain ⟨ws, hws, -, hcert⟩ := hissued.workspace hnamed
      obtain ⟨hmem, hid⟩ := Table.mem_of_get hws
      rcases renewalIssuer_cases cfg s e.role req.id with hbroken |
        ⟨hrole, r, ws', ca, hr, hnamed', hws', hca⟩
      · rw [hbroken, hcert] at hpem
        exact absurd hpem.symm (hdistinct.global ws hmem)
      · obtain ⟨hmem', hid'⟩ := Table.mem_of_get hws'
        rw [hrole, renewalIssuer_of_entry hr hnamed' hws' hca, hcert] at hpem
        obtain rfl := hdistinct.workspace ws' hmem' ws hmem hpem
        exact ⟨hrole, r, hr, hid'.symm.trans hid⟩
    · rw [hrole, renewalIssuer_of_entry hr hworkspace hws hca, (hissued.global hglobal).2] at hpem
      exact hdistinct.global ws (Table.mem_of_get hws).1 hpem
  · exact fun henrolled => stays_of_asEnrolled hissued henrolled hresp

end Renewals

/-- **When renewal stays with the CA of the enrolment.** -/
theorem renewal_stays {CA Key : Type} (cfg : Settings CA Key) (control : Revocation.State)
    (tokens : Tokens) (workspaces : Table WorkspaceRow.id) (es : List Event)
    (s : State CA Key) (h : run (step cfg) (.start control tokens workspaces) es = some s)
    (hmeets : Meets (step cfg) (RenewsAsEnrolled cfg) (.start control tokens workspaces) es) :
    Meets (step cfg) (RenewsInPlace cfg) (.start control tokens workspaces) es := by
  refine meets_imp_of_inv (motive := AllIssued cfg) ?_ ?_ ?_ h hmeets
  · intro s e s' hs _ hstep
    exact allIssued_step hs hstep
  · intro s e s' hs _ hok
    exact renewal_in_place hs hok
  · intro e he
    exact absurd he List.not_mem_nil

/-! ## Runs that keep the entries -/

/-- The workspace of the entry, and none where there is no entry. -/
def entryWorkspace (r : Registry) (id : String) : String :=
  ((r.get id).map ConnectorRecord.workspaceID).getD ""

/-- The ids that leave the registry. -/
def deletes : Revocation.Request → List String
  | .revoke id => [id]
  | .uiDelete id => [id]
  | .adminDelete id => [id]
  | _ => []

section Entries

theorem entryWorkspace_delete (r : Registry) (id q : String) :
    entryWorkspace (r.delete id) q = if q = id then "" else entryWorkspace r q := by
  unfold entryWorkspace Registry.delete
  rw [Table.get_filter_ne]
  split <;> rfl

theorem entryWorkspace_register (r : Registry) (id privateIP version workspaceID : String)
    (now : SystemTime) (q : String) :
    entryWorkspace (registerWithWorkspace r id privateIP version workspaceID now) q =
      if q = id then workspaceID else entryWorkspace r q := by
  unfold entryWorkspace registerWithWorkspace
  rw [Table.get_put]
  split <;> rfl

/-- A heartbeat keeps the workspace of its entry, or makes an entry without one. -/
theorem entryWorkspace_heartbeat (c : Revocation.State) (connectorID privateIP : String)
    (now : SystemTime) (q : String) :
    entryWorkspace (c.heartbeat connectorID privateIP now).registry q =
      entryWorkspace c.registry q := by
  unfold entryWorkspace
  rw [Revocation.registry_heartbeat]
  split
  next hq =>
    subst hq
    show (c.registry.entry q).workspaceID = _
    unfold Registry.entry
    cases c.registry.get q <;> rfl
  · rfl

theorem entryWorkspace_request (c : Revocation.State) (e : Revocation.Request) (q : String) :
    entryWorkspace (Revocation.requestStep c e).registry q =
      if q ∈ deletes e then "" else entryWorkspace c.registry q := by
  have hdelete : ∀ id, entryWorkspace (c.registry.delete id) q =
      if q ∈ [id] then "" else entryWorkspace c.registry q := by
    intro id
    simp only [entryWorkspace_delete, List.mem_singleton]
  cases e with
  | revoke id => exact hdelete id
  | uiDelete id => exact hdelete id
  | adminDelete id => exact hdelete id
  | create id remoteNetworkId lastSeenAt workspaceId now =>
      have hkept : (Revocation.requestStep c
          (.create id remoteNetworkId lastSeenAt workspaceId now)).registry = c.registry := by
        unfold Revocation.requestStep
        simp only
        split <;> rfl
      rw [hkept]
      exact (if_neg List.not_mem_nil).symm
  | grant | assignConnector | removeConnector => exact (if_neg List.not_mem_nil).symm

theorem entryWorkspace_deleteNetwork (c : Revocation.State) (networkID q : String) :
    entryWorkspace (deleteNetwork c networkID).registry q =
      if ∃ row ∈ c.db.connectors.rows, row.remoteNetworkId = networkID ∧ row.id = q then ""
      else entryWorkspace c.registry q := by
  unfold entryWorkspace deleteNetwork
  simp only
  rw [Table.get_filter]
  cases hget : c.registry.get q with
  | none => simp
  | some r =>
      obtain ⟨-, rfl⟩ := Table.mem_of_get hget
      by_cases hrow : ∃ row ∈ c.db.connectors.rows, row.remoteNetworkId = networkID ∧ row.id = r.id
      · have hmem : r.id ∈ (c.db.connectors.rows.filter fun row =>
            row.remoteNetworkId = networkID).map Controller.ConnectorRow.id := by
          obtain ⟨row, hmem, hnetwork, hid⟩ := hrow
          refine List.mem_map.mpr ⟨row, List.mem_filter.mpr ⟨hmem, ?_⟩, hid⟩
          exact decide_eq_true hnetwork
        simp [Option.filter, hmem, hrow]
      · have hmem : r.id ∉ (c.db.connectors.rows.filter fun row =>
            row.remoteNetworkId = networkID).map Controller.ConnectorRow.id := by
          intro hmem
          obtain ⟨row, hfound, hid⟩ := List.mem_map.mp hmem
          obtain ⟨hmem, hnetwork⟩ := List.mem_filter.mp hfound
          exact hrow ⟨row, hmem, of_decide_eq_true hnetwork, hid⟩
        simp [Option.filter, hmem, hrow]

/-- The workspace that the row of a connector has. -/
def storedWorkspace (c : Revocation.State) (id : String) : String :=
  ((c.db.connectors.get id).map fun _ => (c.columns id).workspaceId).getD ""

theorem entryWorkspace_loaded (c : Revocation.State) (q : String) :
    entryWorkspace (loadConnectorsFromDB c) q = storedWorkspace c q := by
  have hloaded : (loadConnectorsFromDB c).get q =
      (c.db.connectors.get q).map (loadedRecord c) := by
    simp only [loadConnectorsFromDB, Table.get, List.find?_map]
    rfl
  unfold entryWorkspace storedWorkspace
  rw [hloaded]
  cases hget : c.db.connectors.get q with
  | none => rfl
  | some row =>
      obtain ⟨-, rfl⟩ := Table.mem_of_get hget
      rfl

end Entries

section Steady

variable {CA Key : Type} {cfg : Settings CA Key} {s s' : State CA Key}

/-- No connector was enrolled under the id in a workspace. -/
def Unassigned (s : State CA Key) (id : String) : Prop :=
  ∀ e ∈ s.enrolments, e.role = .connector → e.id = id → e.workspaceID = ""

/-- The step disturbs no entry of an enrolled connector, and who renews asks for its own id. -/
def Steady (s : State CA Key) : Event → Prop
  -- an id is enrolled in one workspace only
  | .enrollConnector req now =>
      ∀ workspaceID, (consumeTokenWithWorkspace s.tokens req.token req.id now).2 =
        some workspaceID →
      ∀ e ∈ s.enrolments, e.role = .connector → e.id = req.id → e.workspaceID = workspaceID
  -- a tunneler in none
  | .enrollTunneler req now =>
      ∀ workspaceID, (consumeTokenWithWorkspace s.tokens req.token req.id now).2 =
        some workspaceID → workspaceID = ""
  -- connectors of a workspace are not deleted
  | .request e => ∀ id ∈ deletes e, Unassigned s id
  | .deleteNetwork networkID =>
      ∀ row ∈ s.control.db.connectors.rows, row.remoteNetworkId = networkID → Unassigned s row.id
  -- nor forgotten: each had a heartbeat since its enrolment
  | .restart => ∀ e ∈ s.enrolments, e.role = .connector →
      storedWorkspace s.control e.id = e.workspaceID
  | .renew caller req _ => ∀ e, s.enrolments[caller]? = some e → req.id = e.id
  | _ => True

/-- The entries are as the connectors were enrolled, and no tunneler was in a workspace. -/
structure Kept (s : State CA Key) : Prop where
  connectors : ∀ e ∈ s.enrolments, e.role = .connector →
    entryWorkspace s.control.registry e.id = e.workspaceID
  tunnelers : ∀ e ∈ s.enrolments, e.role = .tunneler → e.workspaceID = ""

theorem kept_of_entries (hs : Kept s) (henrolments : s'.enrolments = s.enrolments)
    (hentries : ∀ e ∈ s.enrolments, e.role = .connector →
      entryWorkspace s'.control.registry e.id = e.workspaceID) : Kept s' := by
  refine ⟨?_, ?_⟩
  · rw [henrolments]
    exact hentries
  · rw [henrolments]
    exact hs.tunnelers

theorem kept_of_append (hs : Kept s) {new : Enrolment CA Key}
    (henrolments : s'.enrolments = s.enrolments ++ [new])
    (hold : ∀ e ∈ s.enrolments, e.role = .connector →
      entryWorkspace s'.control.registry e.id = e.workspaceID)
    (hconnector : new.role = .connector →
      entryWorkspace s'.control.registry new.id = new.workspaceID)
    (htunneler : new.role = .tunneler → new.workspaceID = "") : Kept s' := by
  constructor
  · intro e he
    rw [henrolments, List.mem_append, List.mem_singleton] at he
    rcases he with he | rfl
    · exact hold e he
    · exact hconnector
  · intro e he
    rw [henrolments, List.mem_append, List.mem_singleton] at he
    rcases he with he | rfl
    · exact hs.tunnelers e he
    · exact htunneler

theorem kept_step {ev : Event} (hs : Kept s) (hsteady : Steady s ev)
    (h : step cfg s ev = some s') : Kept s' := by
  cases ev with
  | enrollConnector req now =>
      cases h
      rcases (enrollConnector_spec cfg s req now).2 with ⟨hsame, hcontrol⟩ |
        ⟨new, hnew, hrole, hid, -, htoken, hregistry⟩
      · refine kept_of_entries hs hsame ?_
        rw [hcontrol]
        exact hs.connectors
      · refine kept_of_append hs hnew ?_ ?_ ?_
        · intro e he hconnector
          rw [hregistry, entryWorkspace_register]
          split
          next hsame => exact (hsteady _ htoken e he hconnector hsame).symm
          · exact hs.connectors e he hconnector
        · intro _
          rw [hregistry, entryWorkspace_register]
          exact if_pos hid
        · intro htunneler
          rw [hrole] at htunneler
          cases htunneler
  | enrollTunneler req now =>
      cases h
      obtain ⟨-, hcontrol, hsame | ⟨new, hnew, hrole, -, htoken⟩⟩ :=
        enrollTunneler_spec cfg s req now
      · refine kept_of_entries hs hsame ?_
        rw [hcontrol]
        exact hs.connectors
      · refine kept_of_append hs hnew ?_ ?_ fun _ => hsteady _ htoken
        · rw [hcontrol]
          exact hs.connectors
        · intro hconnector
          rw [hrole] at hconnector
          cases hconnector
  | heartbeat connectorID privateIP now =>
      cases h
      refine kept_of_entries hs rfl fun e he hconnector => ?_
      exact (entryWorkspace_heartbeat _ _ _ _ _).trans (hs.connectors e he hconnector)
  | request req =>
      cases h
      refine kept_of_entries hs rfl fun e he hconnector => ?_
      refine (entryWorkspace_request _ _ _).trans ?_
      split
      next hdeleted => exact (hsteady e.id hdeleted e he hconnector rfl).symm
      · exact hs.connectors e he hconnector
  | deleteNetwork networkID =>
      cases h
      refine kept_of_entries hs rfl fun e he hconnector => ?_
      refine (entryWorkspace_deleteNetwork _ _ _).trans ?_
      split
      next hdeleted =>
        obtain ⟨row, hrow, hnetwork, hid⟩ := hdeleted
        exact (hsteady row hrow hnetwork e he hconnector hid.symm).symm
      · exact hs.connectors e he hconnector
  | restart =>
      cases h
      refine kept_of_entries hs rfl fun e he hconnector => ?_
      exact (entryWorkspace_loaded _ _).trans (hsteady e he hconnector)
  | renew caller req now =>
      obtain rfl := renew_step h
      exact hs
  | createToken | deleteTokens | createWorkspace =>
      cases h
      exact kept_of_entries hs rfl hs.connectors

theorem asEnrolled_of_kept (hs : Kept s) {e : Enrolment CA Key} (he : e ∈ s.enrolments) :
    AsEnrolled cfg s e e.id := by
  constructor
  · intro hnamed
    have hconnector : e.role = .connector := by
      cases hrole : e.role with
      | connector => rfl
      | tunneler => exact absurd (hs.tunnelers e he hrole) hnamed
    have hentry := hs.connectors e he hconnector
    unfold entryWorkspace at hentry
    cases hget : s.control.registry.get e.id with
    | none =>
        rw [hget] at hentry
        exact absurd hentry.symm hnamed
    | some r =>
        rw [hget] at hentry
        exact ⟨hconnector, r, rfl, hentry⟩
  · intro hglobal hconnector r hr hnamed
    have hentry := hs.connectors e he hconnector
    rw [entryWorkspace, hr, hglobal] at hentry
    exact absurd hentry hnamed

end Steady

/-- In a steady run every renewal stays with its CA. -/
theorem renewal_stays_of_steady {CA Key : Type} (cfg : Settings CA Key)
    (control : Revocation.State) (tokens : Tokens) (workspaces : Table WorkspaceRow.id)
    (es : List Event) (s : State CA Key)
    (h : run (step cfg) (.start control tokens workspaces) es = some s)
    (hmeets : Meets (step cfg) Steady (.start control tokens workspaces) es) :
    Meets (step cfg) (RenewsInPlace cfg) (.start control tokens workspaces) es := by
  have hinit : AllIssued cfg (State.start control tokens workspaces) ∧
      Kept (.start control tokens workspaces : State CA Key) := by
    refine ⟨fun e he => absurd he List.not_mem_nil, ?_, ?_⟩
    · exact fun e he => absurd he List.not_mem_nil
    · exact fun e he => absurd he List.not_mem_nil
  refine meets_imp_of_inv (motive := fun s => AllIssued cfg s ∧ Kept s) ?_ ?_ hinit h hmeets
  · rintro s e s' ⟨hissued, hkept⟩ hsteady hstep
    exact ⟨allIssued_step hissued hstep, kept_step hkept hsteady hstep⟩
  · rintro s e s' ⟨hissued, hkept⟩ - hsteady
    cases e with
    | renew caller req now =>
        refine renewal_in_place hissued fun e he => ?_
        rw [hsteady e he]
        exact asEnrolled_of_kept hkept (List.mem_of_getElem? he)
    | _ => trivial

/-! ## A connector with a row -/

/-- A CA is its certificate, and certificates are issued to everybody. -/
def exampleSettings : Settings String Unit where
  ca := "global CA"
  caPEM := "global CA"
  clientCAs ca := ca = "global CA"
  trustDomain := "corp.internal"
  net := .plain
  loadCA cert _ := .ok cert
  parsePublicKey _ := .ok ()
  parseIP _ := none
  createError _ := none

def noTables : Revocation.State := .start ⟨∅, ∅, ∅, ∅, ∅, ∅, ∅, ∅⟩ (fun _ => {}) ∅

def acme : WorkspaceRow := ⟨"ws_1", "acme.zt.example", "acme CA", "key"⟩

def connectorRequest : EnrollRequest :=
  { id := "con_1", token := "t", privateIp := "10.0.0.2", version := "1.0.0" }

/-- A connector enrols without a workspace, and renews. -/
def connectorRun : List Event :=
  [.createToken ⟨"t", "", 3600, false, ""⟩, .enrollConnector connectorRequest 0,
    .heartbeat "con_1" "10.0.0.2" 1, .renew 0 connectorRequest 1]

theorem connector_renews_in_place :
    Meets (step exampleSettings) (RenewsInPlace exampleSettings) (.start noTables ∅ ∅)
      connectorRun := by
  refine renewal_stays exampleSettings noTables ∅ ∅ connectorRun _ rfl ?_
  refine meets_cons trivial rfl (meets_cons trivial rfl (meets_cons trivial rfl
    (meets_cons ?_ rfl trivial)))
  intro e he
  cases he
  refine ⟨fun hnamed => absurd rfl hnamed, fun _ _ r hr hnamed => ?_⟩
  cases hr
  exact absurd rfl hnamed

/-- The same, but the connector has a row from the UI, in a workspace, and the controller is
restarted before its first heartbeat. -/
def restartedRun : List Event :=
  [.createWorkspace acme, .request (.create "con_1" "net_1" "" "ws_1" 0),
    .createToken ⟨"t", "", 3600, false, ""⟩, .enrollConnector connectorRequest 0, .restart,
    .renew 0 connectorRequest 1]

/-- The connector's certificate was from the global CA; the new one is from acme's CA. -/
theorem connector_renews_elsewhere :
    ¬ ∀ (CA Key : Type) (cfg : Settings CA Key) (control : Revocation.State) (tokens : Tokens)
      (workspaces : Table WorkspaceRow.id) (es : List Event) (s : State CA Key),
      run (step cfg) (.start control tokens workspaces) es = some s →
        Meets (step cfg) (RenewsInPlace cfg) (.start control tokens workspaces) es := by
  intro hall
  have hmeets := hall String Unit exampleSettings noTables ∅ ∅ restartedRun _ rfl
  obtain ⟨-, hmeets⟩ := hmeets
  obtain ⟨-, hmeets⟩ := hmeets _ rfl
  obtain ⟨-, hmeets⟩ := hmeets _ rfl
  obtain ⟨-, hmeets⟩ := hmeets _ rfl
  obtain ⟨-, hmeets⟩ := hmeets _ rfl
  obtain ⟨hrenews, -⟩ := hmeets _ rfl
  have hstays := hrenews _ rfl _ rfl
  exact absurd hstays.caCertificate (by decide)

end ZeroTrust.ControlPlane.Renewal
