/-
# `ZeroTrust.Admin.IdentityProviders` — the secrets of the identity providers

A provider's client secret is kept encrypted, AES-GCM behind a fresh nonce and in base64, in a
column of its row.  The requests on providers, and what they do to the column:

    POST     the secret, which is required, encrypted
    PUT      the secret encrypted; without one, the empty string
    DELETE   the row goes

The handler of PUT says that it re-encrypts only when there is a new secret, and fills in the
column of a fresh record only then; but `Update` writes every column.  The empty string is no
nonce and ciphertext, so the provider has no secret from then on.

    `decryptSecret_encryptSecret`   what is encrypted is decrypted
    `secrets_kept_iff`              every provider has the last secret that was given for it iff
                                      no PUT without one meets a stored provider
-/
import ZeroTrust.Lib.Run
import ZeroTrust.Lib.Table
import ZeroTrust.Lib.Hex

namespace ZeroTrust.Admin.IdentityProviders

open Lib

abbrev Bytes := List UInt8

/-- `[]byte(s)`. -/
def bytes (s : String) : Bytes := s.toUTF8.toList

/-- `gcm.NonceSize()`. -/
def nonceSize : Nat := 12

/-- What is used of the cryptographic packages; an error is its text. -/
structure Cryptography where
  sha256 : Bytes → Bytes
  length_sha256 : ∀ b, (sha256 b).length = 32
  /-- `gcm.Seal` and `gcm.Open`, of a key, a nonce and the text. -/
  gcmSeal : Bytes → Bytes → Bytes → Bytes
  gcmOpen : Bytes → Bytes → Bytes → Except String Bytes
  open_seal : ∀ key nonce plaintext, gcmOpen key nonce (gcmSeal key nonce plaintext) =
    .ok plaintext
  encodeToString : Bytes → String
  decodeString : String → Except String Bytes
  decode_encode : ∀ b, decodeString (encodeToString b) = .ok b
  encode_nil : encodeToString [] = ""

/-- `aes.NewCipher`. -/
def newCipher (key : Bytes) : Except String Unit :=
  if key.length = 16 ∨ key.length = 24 ∨ key.length = 32 then .ok ()
  else .error ("crypto/aes: invalid key size " ++ toString key.length)

structure IdentityProviderStore where
  encKey : Bytes
  length_encKey : encKey.length = 32

def newIdentityProviderStore (C : Cryptography) (encKey : Bytes) : IdentityProviderStore :=
  if h : encKey.length = 32 then ⟨encKey, h⟩ else ⟨C.sha256 encKey, C.length_sha256 encKey⟩

structure IdentityProvider where
  id : String
  workspaceId : String
  providerType : String
  clientId : String
  clientSecretEncrypted : String
  redirectUri : String
  issuerUrl : String
  enabled : Bool
  createdAt : String
  updatedAt : String
  deriving DecidableEq

/-! ## Secrets -/

section Secrets

variable (C : Cryptography) (store : IdentityProviderStore)

/-- `nonce` is what `rand.Reader` gives, or its error. -/
def encryptSecret (nonce : Except String { n : Bytes // n.length = nonceSize })
    (idp : IdentityProvider) (plaintext : String) : Except String IdentityProvider := do
  let _ ← newCipher store.encKey
  let nonce ← nonce
  let ciphertext := nonce.val ++ C.gcmSeal store.encKey nonce.val (bytes plaintext)
  .ok { idp with clientSecretEncrypted := C.encodeToString ciphertext }

def decryptSecret (idp : IdentityProvider) : Except String Bytes :=
  match C.decodeString idp.clientSecretEncrypted with
  | .error e => .error ("invalid encrypted secret: " ++ e)
  | .ok data => do
      let _ ← newCipher store.encKey
      if data.length < nonceSize then .error "ciphertext too short"
      else
        match C.gcmOpen store.encKey (data.take nonceSize) (data.drop nonceSize) with
        | .error e => .error ("decrypt failed: " ++ e)
        | .ok plaintext => .ok plaintext

variable {C store}

theorem newCipher_encKey : newCipher store.encKey = .ok () :=
  if_pos (Or.inr (Or.inr store.length_encKey))

/-- Only the column is written: the nonce and the sealed text behind it. -/
theorem encryptSecret_ok {nonce : Except String { n : Bytes // n.length = nonceSize }}
    {idp idp' : IdentityProvider} {plaintext : String}
    (h : encryptSecret C store nonce idp plaintext = .ok idp') :
    ∃ n : Bytes, n.length = nonceSize ∧ idp' = { idp with
      clientSecretEncrypted :=
        C.encodeToString (n ++ C.gcmSeal store.encKey n (bytes plaintext)) } := by
  unfold encryptSecret at h
  rw [newCipher_encKey] at h
  cases nonce with
  | error e => cases h
  | ok nonce => exact ⟨nonce.val, nonce.property, (Except.ok.inj h).symm⟩

/-- **Round trip.** -/
theorem decryptSecret_encryptSecret {nonce : Except String { n : Bytes // n.length = nonceSize }}
    {idp idp' : IdentityProvider} {plaintext : String}
    (h : encryptSecret C store nonce idp plaintext = .ok idp') :
    decryptSecret C store idp' = .ok (bytes plaintext) := by
  obtain ⟨n, hn, rfl⟩ := encryptSecret_ok h
  have hlong : ¬ (n ++ C.gcmSeal store.encKey n (bytes plaintext)).length < nonceSize := by
    rw [List.length_append, hn]
    omega
  have htake : (n ++ C.gcmSeal store.encKey n (bytes plaintext)).take nonceSize = n :=
    List.take_left' hn
  have hdrop : (n ++ C.gcmSeal store.encKey n (bytes plaintext)).drop nonceSize =
      C.gcmSeal store.encKey n (bytes plaintext) := List.drop_left' hn
  simp only [decryptSecret, C.decode_encode, newCipher_encKey, htake, hdrop, C.open_seal]
  exact if_neg hlong

theorem decryptSecret_empty {idp : IdentityProvider} (h : idp.clientSecretEncrypted = "") :
    decryptSecret C store idp = .error "ciphertext too short" := by
  have hnil : C.decodeString "" = .ok [] := by
    rw [← C.encode_nil]
    exact C.decode_encode []
  simp only [decryptSecret, h, hnil, newCipher_encKey]
  rfl

end Secrets

/-! ## The requests -/

/-- The body of POST and of PUT, as the JSON decoder leaves it. -/
structure Body where
  providerType : String
  clientId : String
  clientSecret : String
  redirectUri : String
  issuerUrl : String
  enabled : Bool

/-- What a request takes from outside: the random id and nonce, the time, and the error of its
statement, if that is refused. -/
structure Env where
  id : String
  nonce : Except String { n : Bytes // n.length = nonceSize }
  now : String
  refused : Option String

structure State where
  providers : Table IdentityProvider.id
  /-- Not kept anywhere: the last secret that was given for each provider. -/
  given : String → Option String

def State.init : State := ⟨∅, fun _ => none⟩

def State.give (s : State) (id secret : String) : State :=
  { s with given := fun id' => if id' = id then some secret else s.given id' }

/-- A status code with its text, or the fields of the reply. -/
abbrev Reply := Except (Nat × String) (List (String × String))

section Requests

variable (C : Cryptography) (store : IdentityProviderStore)

/-- `Create`; the id is always empty. -/
def create (s : State) (env : Env) (idp : IdentityProvider) :
    Except String (Table IdentityProvider.id) :=
  let idp := { idp with id := env.id, createdAt := env.now, updatedAt := env.now }
  match env.refused with
  | some e => .error e
  | none =>
      match s.providers.insert idp with
      | none => .error "duplicate key value violates unique constraint"
      | some providers => .ok providers

/-- `POST /api/admin/identity-providers`. -/
def handlePost (s : State)
    (wsID : String) (body : Option Body) (env : Env) : State × Reply :=
  if wsID = "" then (s, .error (400, "workspace context required"))
  else
    match body with
    | none => (s, .error (400, "invalid json"))
    | some req =>
        if req.providerType = "" ∨ req.clientId = "" ∨ req.clientSecret = "" then
          (s, .error (400, "provider_type, client_id, and client_secret are required"))
        else
          let idp : IdentityProvider :=
            { id := "", workspaceId := wsID, providerType := req.providerType
              clientId := req.clientId, clientSecretEncrypted := ""
              redirectUri := req.redirectUri, issuerUrl := req.issuerUrl, enabled := req.enabled
              createdAt := "", updatedAt := "" }
          match encryptSecret C store env.nonce idp req.clientSecret with
          | .error _ => (s, .error (500, "failed to encrypt client secret"))
          | .ok idp =>
              match create s env idp with
              | .error e => (s, .error (500, "failed to create identity provider: " ++ e))
              | .ok providers =>
                  ({ s with providers }.give env.id req.clientSecret,
                    .ok [("id", env.id), ("status", "created")])

/-- The columns that `UPDATE` writes. -/
def setColumns (idp : IdentityProvider) (now : String) (row : IdentityProvider) :
    IdentityProvider :=
  if row.id = idp.id then
    { row with
      providerType := idp.providerType, clientId := idp.clientId
      clientSecretEncrypted := idp.clientSecretEncrypted, redirectUri := idp.redirectUri
      issuerUrl := idp.issuerUrl, enabled := idp.enabled, updatedAt := now }
  else row

theorem setColumns_id (idp : IdentityProvider) (now : String) (row : IdentityProvider) :
    (setColumns idp now row).id = row.id := by
  unfold setColumns
  split <;> rfl

/-- `Update`. -/
def update (s : State) (env : Env) (idp : IdentityProvider) :
    Except String (Table IdentityProvider.id) :=
  match env.refused with
  | some e => .error e
  | none => .ok (s.providers.update (setColumns idp env.now) (setColumns_id idp env.now))

/-- The record that PUT fills in. -/
def putRecord (id : String) (req : Body) (env : Env) : Except String IdentityProvider :=
  let idp : IdentityProvider :=
    { id, workspaceId := "", providerType := req.providerType, clientId := req.clientId
      clientSecretEncrypted := "", redirectUri := req.redirectUri, issuerUrl := req.issuerUrl
      enabled := req.enabled, createdAt := "", updatedAt := "" }
  -- Only re-encrypt if a new secret is provided
  if req.clientSecret ≠ "" then encryptSecret C store env.nonce idp req.clientSecret
  else .ok idp

/-- `PUT /api/admin/identity-providers/{id}`. -/
def handlePut (s : State) (id : String) (body : Option Body) (env : Env) : State × Reply :=
  if id = "" then (s, .error (400, "identity provider id required"))
  else
    match body with
    | none => (s, .error (400, "invalid json"))
    | some req =>
        match putRecord C store id req env with
        | .error _ => (s, .error (500, "failed to encrypt client secret"))
        | .ok idp =>
            match update s env idp with
            | .error e => (s, .error (500, "failed to update identity provider: " ++ e))
            | .ok providers =>
                let s := { s with providers }
                (if req.clientSecret ≠ "" then s.give id req.clientSecret else s,
                  .ok [("status", "updated")])

/-- `DELETE /api/admin/identity-providers/{id}`. -/
def handleDelete (s : State) (id : String) (env : Env) : State × Reply :=
  if id = "" then (s, .error (400, "identity provider id required"))
  else
    match env.refused with
    | some e => (s, .error (500, "failed to delete identity provider: " ++ e))
    | none =>
        ({ s with providers := s.providers.filter fun p => p.id ≠ id },
          .ok [("status", "deleted")])

inductive Request where
  | post (wsID : String) (body : Option Body) (env : Env)
  | put (id : String) (body : Option Body) (env : Env)
  | delete (id : String) (env : Env)

def handle (s : State) : Request → State
  | .post wsID body env => (handlePost C store s wsID body env).1
  | .put id body env => (handlePut C store s id body env).1
  | .delete id env => (handleDelete s id env).1

/-- No request is refused for good: each leads to a state. -/
def step (s : State) (r : Request) : Option State := some (handle C store s r)

/-- Each provider decrypts to the last secret that was given for it. -/
def Kept (s : State) : Prop :=
  ∀ p ∈ s.providers.rows, ∃ secret, s.given p.id = some secret ∧ secret ≠ "" ∧
    decryptSecret C store p = .ok (bytes secret)

/-- A PUT without a secret changes only other fields, and those of one provider. -/
def OtherFieldsOnly (s : State) : Request → Prop
  | .put id (some req) env => req.clientSecret = "" → ∀ p ∈ s.providers.rows,
      ∃ p', (handle C store s (.put id (some req) env)).providers.get p.id = some p' ∧
        p'.clientSecretEncrypted = p.clientSecretEncrypted ∧ (p.id ≠ id → p' = p)
  | _ => True

end Requests

/-- A PUT has a secret, or is not carried out, or there is no provider with the id. -/
def SecretGiven (s : State) : Request → Prop
  | .put id (some req) env =>
      req.clientSecret ≠ "" ∨ id = "" ∨ env.refused ≠ none ∨ s.providers.get id = none
  | _ => True

/-! ## What the requests do to the secrets -/

section Steps

variable {C : Cryptography} {store : IdentityProviderStore} {s : State} {id wsID : String}
  {body : Option Body} {req : Body} {env : Env} {idp p row : IdentityProvider} {r : Request}

theorem decryptSecret_congr (h : p.clientSecretEncrypted = row.clientSecretEncrypted) :
    decryptSecret C store p = decryptSecret C store row := by
  rw [decryptSecret, decryptSecret, h]

theorem create_ok {providers : Table IdentityProvider.id} (h : create s env idp = .ok providers) :
    s.providers.get env.id = none ∧ providers =
      s.providers.put { idp with id := env.id, createdAt := env.now, updatedAt := env.now } := by
  unfold create at h
  dsimp only at h
  split at h
  · cases h
  · split at h
    · cases h
    next providers' hinsert =>
      obtain rfl := Except.ok.inj h
      exact Table.insert_eq_some hinsert

/-- A POST does nothing, or adds a provider that has the secret. -/
theorem handlePost_cases (C : Cryptography) (store : IdentityProviderStore) (s : State)
    (wsID : String) (body : Option Body) (env : Env) :
    (handlePost C store s wsID body env).1 = s ∨ ∃ row secret, row.id = env.id ∧ secret ≠ "" ∧
      decryptSecret C store row = .ok (bytes secret) ∧
      (handlePost C store s wsID body env).1 =
        { s with providers := s.providers.put row }.give env.id secret := by
  unfold handlePost
  split
  · exact Or.inl rfl
  · split
    · exact Or.inl rfl
    next req =>
      split
      · exact Or.inl rfl
      next hfields =>
        dsimp only
        split
        · exact Or.inl rfl
        next idp hencrypt =>
          split
          · exact Or.inl rfl
          next providers hcreate =>
            obtain ⟨-, rfl⟩ := create_ok hcreate
            refine Or.inr ⟨_, req.clientSecret, rfl, fun hempty => ?_, ?_, rfl⟩
            · exact hfields (Or.inr (Or.inr hempty))
            · have hdecrypt := decryptSecret_encryptSecret hencrypt
              rw [← hdecrypt]
              exact decryptSecret_congr rfl

/-- The rows after `Update` of a record. -/
def updated (s : State) (now : String) (idp : IdentityProvider) : State :=
  { s with providers := s.providers.update (setColumns idp now) (setColumns_id idp now) }

theorem get_updated {now id' : String} :
    (updated s now idp).providers.get id' = (s.providers.get id').map (setColumns idp now) :=
  Table.get_update s.providers (setColumns_id idp now) id'

/-- A PUT does nothing, or updates the rows with the record. -/
theorem handlePut_cases (C : Cryptography) (store : IdentityProviderStore) (s : State)
    (id : String) (req : Body) (env : Env) :
    (handlePut C store s id (some req) env).1 = s ∨
      ∃ idp, putRecord C store id req env = .ok idp ∧ id ≠ "" ∧ env.refused = none ∧
        (handlePut C store s id (some req) env).1 =
          if req.clientSecret ≠ "" then (updated s env.now idp).give id req.clientSecret
          else updated s env.now idp := by
  unfold handlePut
  split
  · exact Or.inl rfl
  next hid =>
    dsimp only
    split
    · exact Or.inl rfl
    next idp hrecord =>
      unfold update
      cases hrefused : env.refused with
      | some e => exact Or.inl rfl
      | none => exact Or.inr ⟨idp, hrecord, hid, rfl, rfl⟩

theorem putRecord_id (h : putRecord C store id req env = .ok idp) : idp.id = id := by
  unfold putRecord at h
  dsimp only at h
  split at h
  · obtain ⟨n, -, rfl⟩ := encryptSecret_ok h
    rfl
  · rw [← Except.ok.inj h]

/-- Of the columns that are written the secret is what was given, or empty. -/
theorem putRecord_secret (h : putRecord C store id req env = .ok idp) :
    (req.clientSecret = "" → idp.clientSecretEncrypted = "") ∧
      (req.clientSecret ≠ "" → decryptSecret C store idp = .ok (bytes req.clientSecret)) := by
  unfold putRecord at h
  dsimp only at h
  split at h
  next hgiven =>
    exact ⟨fun hempty => absurd hempty hgiven, fun _ => decryptSecret_encryptSecret h⟩
  next hempty =>
    obtain rfl := Except.ok.inj h
    exact ⟨fun _ => rfl, fun hgiven => absurd hgiven hempty⟩

theorem kept_post (h : Kept C store s) : Kept C store (handlePost C store s wsID body env).1 := by
  rcases handlePost_cases C store s wsID body env with
    hsame | ⟨row, secret, hid, hne, hdecrypt, heq⟩
  · rwa [hsame]
  · rw [heq]
    intro p hp
    rcases Table.mem_rows_put.mp hp with rfl | ⟨hold, hother⟩
    · exact ⟨secret, if_pos hid, hne, hdecrypt⟩
    · obtain ⟨old, hgiven, hkept⟩ := h p hold
      refine ⟨old, ?_, hkept⟩
      rw [← hgiven]
      exact if_neg (hid ▸ hother)

theorem kept_delete (h : Kept C store s) : Kept C store (handleDelete s id env).1 := by
  unfold handleDelete
  split
  · exact h
  · split
    · exact h
    · intro p hp
      exact h p (List.mem_filter.mp hp).1

/-- A PUT with a secret gives it to the provider it names. -/
theorem kept_updated {secret : String} (h : Kept C store s) (hid : idp.id = id) (hne : secret ≠ "")
    (hdecrypt : decryptSecret C store idp = .ok (bytes secret)) :
    Kept C store ((updated s env.now idp).give id secret) := by
  intro p hp
  obtain ⟨row, hrow, rfl⟩ := List.mem_map.mp hp
  obtain ⟨old, hgiven, hkept⟩ := h row hrow
  by_cases heq : row.id = idp.id
  · refine ⟨secret, if_pos ?_, hne, ?_⟩
    · rw [setColumns_id, heq, hid]
    · rw [← hdecrypt]
      refine decryptSecret_congr ?_
      rw [setColumns, if_pos heq]
  · have hsame : setColumns idp env.now row = row := if_neg heq
    rw [hsame]
    refine ⟨old, ?_, hkept⟩
    rw [← hgiven]
    exact if_neg fun hrow => heq (hrow.trans hid.symm)

/-- Without a provider to update, nothing is. -/
theorem updated_of_get_none {now : String} (h : s.providers.get idp.id = none) :
    updated s now idp = s := by
  have hrow : ∀ row ∈ s.providers.rows, setColumns idp now row = row := by
    intro row hrow
    exact if_neg (Table.get_eq_none.mp h row hrow)
  have hsame : s.providers.update (setColumns idp now) (setColumns_id idp now) = s.providers :=
    Table.ext_rows ((List.map_congr_left hrow).trans (List.map_id' _))
  rw [updated, hsame]

/-- A PUT without a secret that meets no provider leaves everything as it was. -/
theorem handlePut_unchanged (hempty : req.clientSecret = "")
    (hok : SecretGiven s (.put id (some req) env)) :
    (handlePut C store s id (some req) env).1 = s := by
  rcases handlePut_cases C store s id req env with
    hsame | ⟨idp, hrecord, hid, hrefused, heq⟩
  · exact hsame
  · have hnone : s.providers.get id = none := by
      rcases hok with hgiven | hid' | hrefused' | hnone
      · exact absurd hempty hgiven
      · exact absurd hid' hid
      · exact absurd hrefused hrefused'
      · exact hnone
    rw [heq, if_neg (not_not.mpr hempty)]
    exact updated_of_get_none (putRecord_id hrecord ▸ hnone)

theorem kept_put (h : Kept C store s) (hok : SecretGiven s (.put id (some req) env)) :
    Kept C store (handlePut C store s id (some req) env).1 := by
  by_cases hempty : req.clientSecret = ""
  · rwa [handlePut_unchanged hempty hok]
  · rcases handlePut_cases C store s id req env with
      hsame | ⟨idp, hrecord, -, -, heq⟩
    · rwa [hsame]
    · rw [heq, if_pos hempty]
      exact kept_updated h (putRecord_id hrecord) hempty ((putRecord_secret hrecord).2 hempty)

theorem kept_step (h : Kept C store s) (hok : SecretGiven s r) :
    Kept C store (handle C store s r) := by
  cases r with
  | post wsID body env => exact kept_post h
  | put id body env =>
      cases body with
      | none =>
          have hsame : handle C store s (.put id none env) = s := by
            simp only [handle, handlePut]
            split <;> rfl
          rwa [hsame]
      | some req => exact kept_put h hok
  | delete id env => exact kept_delete h

theorem handlePut_blank (C : Cryptography) (store : IdentityProviderStore) (s : State)
    (hempty : req.clientSecret = "") (hid : id ≠ "")
    (hrefused : env.refused = none) :
    ∃ idp, idp.id = id ∧ idp.clientSecretEncrypted = "" ∧
      (handlePut C store s id (some req) env).1 = updated s env.now idp := by
  simp only [handlePut, putRecord, update, hempty, hid, hrefused, ne_eq, not_true_eq_false,
    if_false]
  exact ⟨_, rfl, rfl, rfl⟩

/-- A PUT without a secret that meets a stored provider blanks its column. -/
theorem secretGiven_of_kept (h : Kept C store (handle C store s r)) : SecretGiven s r := by
  cases r with
  | post wsID body env => trivial
  | delete id env => trivial
  | put id body env =>
      cases body with
      | none => trivial
      | some req =>
          by_contra hnot
          simp only [SecretGiven, not_or, not_not] at hnot
          obtain ⟨hempty, hid, hrefused, hstored⟩ := hnot
          obtain ⟨row, hrow⟩ := Option.ne_none_iff_exists'.mp hstored
          obtain ⟨idp, hidp, hblank, heq⟩ :=
            handlePut_blank C store s hempty hid hrefused
          have hget : (updated s env.now idp).providers.get id =
              some (setColumns idp env.now row) := by
            rw [get_updated, hrow, Option.map_some]
          rw [handle, heq] at h
          obtain ⟨secret, -, -, hdecrypt⟩ := h _ (Table.mem_of_get hget).1
          have hcolumn : (setColumns idp env.now row).clientSecretEncrypted = "" := by
            rw [setColumns, if_pos ((Table.mem_of_get hrow).2.trans hidp.symm)]
            exact hblank
          rw [decryptSecret_empty hcolumn] at hdecrypt
          cases hdecrypt

theorem otherFieldsOnly_of_secretGiven (hok : SecretGiven s r) : OtherFieldsOnly C store s r := by
  cases r with
  | post wsID body env => trivial
  | delete id env => trivial
  | put id body env =>
      cases body with
      | none => trivial
      | some req =>
          intro hempty p hp
          rw [handle, handlePut_unchanged hempty hok]
          exact ⟨p, Table.get_of_mem hp, rfl, fun _ => rfl⟩

/-- **When the providers keep their secrets.**  In every state of a run each provider decrypts
to the last secret that was given for it, and a PUT without one changes other fields only, iff
no PUT without one is carried out on a stored provider. -/
theorem secrets_kept_iff (C : Cryptography) (store : IdentityProviderStore) (rs : List Request) :
    ((∀ pre, pre <+: rs → ∀ s, run (step C store) .init pre = some s → Kept C store s) ∧
        Meets (step C store) (OtherFieldsOnly C store) .init rs) ↔
      Meets (step C store) SecretGiven .init rs := by
  have hrun : run (step C store) .init rs = some (rs.foldl (handle C store) .init) :=
    run_foldl rs State.init
  have hinit : Kept C store .init := fun p hp => absurd hp List.not_mem_nil
  have hkept : (∀ pre, pre <+: rs → ∀ s, run (step C store) .init pre = some s →
      Kept C store s) ↔ Meets (step C store) SecretGiven .init rs := by
    have htrue : ∀ (s : State) (r : Request) (s' : State), True →
        step C store s r = some s' → True := fun _ _ _ _ _ => trivial
    refine forall_prefix_iff_meets htrue ?_ ?_ trivial hinit hrun
    · intro s r s' _ h hok hstep
      obtain rfl := Option.some.inj hstep
      exact kept_step h hok
    · intro s r s' _ hstep h
      obtain rfl := Option.some.inj hstep
      exact secretGiven_of_kept h
  constructor
  · exact fun h => hkept.mp h.1
  · intro h
    refine ⟨hkept.mpr h, ?_⟩
    refine meets_imp_of_inv (motive := fun _ => True) (fun _ _ _ _ _ _ => trivial) ?_ trivial hrun h
    exact fun _ _ _ _ _ hok => otherFieldsOnly_of_secretGiven hok

/-! An administrator renames the client of a provider, and leaves its secret as it is. -/

/-- Hexadecimal for base64, and sixteen zero bytes for the tag of an unencrypted text. -/
def plainCryptography : Cryptography where
  sha256 _ := List.replicate 32 0
  length_sha256 _ := List.length_replicate
  gcmSeal _ _ plaintext := plaintext ++ List.replicate 16 0
  gcmOpen _ _ ciphertext := .ok (ciphertext.take (ciphertext.length - 16))
  open_seal _ _ plaintext := by
    rw [List.length_append, List.length_replicate, Nat.add_sub_cancel, List.take_left]
  encodeToString b := String.ofList (hexEncode b)
  decodeString s :=
    match hexDecode s.toList with
    | some b => .ok b
    | none => .error "illegal base64 data"
  decode_encode b := by rw [String.toList_ofList, hexDecode_hexEncode]
  encode_nil := rfl

def googleStore : IdentityProviderStore := newIdentityProviderStore plainCryptography []

def googleBody : Body := ⟨"google", "client-1", "s3cr3t", "https://app.example/callback", "", true⟩

def googleEnv : Env :=
  ⟨"idp-1", .ok ⟨List.replicate 12 7, List.length_replicate⟩, "2025-01-01T00:00:00Z", none⟩

def googlePost : Request := .post "ws-1" (some googleBody) googleEnv

def googlePut : Request :=
  .put "idp-1" (some { googleBody with clientId := "client-2", clientSecret := "" }) googleEnv

theorem renamed_client_loses_secret :
    ¬ ((∀ pre, pre <+: [googlePost, googlePut] → ∀ s,
          run (step plainCryptography googleStore) .init pre = some s →
            Kept plainCryptography googleStore s) ∧
        Meets (step plainCryptography googleStore)
          (OtherFieldsOnly plainCryptography googleStore) .init [googlePost, googlePut]) := by
  intro h
  have hlast : SecretGiven (handle plainCryptography googleStore .init googlePost) googlePut :=
    secretGiven_of_kept (h.1 _ (List.prefix_refl _) _ rfl)
  rcases hlast with hgiven | hid | hrefused | hnone
  · exact hgiven rfl
  · exact absurd hid (by decide)
  · exact hrefused rfl
  · cases hnone

end Steps

end ZeroTrust.Admin.IdentityProviders
