/-
# `ZeroTrust.Connector.SavedEnrollment` — credentials on disk

Connector and agent keep what the last enrolment or renewal has given them in three files, and
read them when they start.  `save_enrollment` overwrites the files one after another:

    written      on disk                  after a crash here
    nothing      the last save            is read
    cert.pem     new certificate, old     is read too: the key is not the certificate's
                   key and CA
    key.der      the same, and the key    is read too: the CA may be an old one
    ca.pem       the new save             is read

The loader looks whether all three are there and whether the certificate has expired.  Only
before the first save is complete there is no `ca.pem`, and nothing is read.

The two programs have the same code but for the directory.

    `progress_step`   what is on disk, by what is still to be written
    `unmixed_iff`     no start reads files of two saves iff no save is cut short over the
                        files of another
-/
import ZeroTrust.Lib.Run
import ZeroTrust.Text

namespace ZeroTrust.Connector.SavedEnrollment

open Lib

abbrev Bytes := List UInt8

structure EnrollResult where
  certDer : Bytes
  certPem : Bytes
  caPem : Bytes
  keyDer : Bytes
  spiffeId : String
  deriving DecidableEq

/-! ## The files -/

inductive FileName where
  | cert
  | key
  | ca
  deriving DecidableEq

/-- `CERT_FILE`, `KEY_FILE` and `CA_FILE`. -/
def FileName.path : FileName → String
  | .cert => "cert.pem"
  | .key => "key.der"
  | .ca => "ca.pem"

/-- What the files of the state directory hold. -/
abbrev Files := FileName → Option Bytes

/-- `std::fs::write`. -/
def Files.write (files : Files) (w : FileName × Bytes) : Files :=
  fun name => if name = w.1 then some w.2 else files name

/-- A variable of the environment that is not blank. -/
def nonBlank (env : String → Option String) (name : String) : Option String :=
  ((env name).map trim).filter fun dir => dir ≠ ""

/-- The connector's `state_dir`. -/
def connectorStateDir (env : String → Option String) : Option String :=
  nonBlank env "STATE_DIRECTORY"

/-- `PathBuf::join` with a relative path. -/
def join (dir path : String) : String :=
  if dir.toList.getLast? = some '/' then dir ++ path else dir ++ "/" ++ path

/-- The agent's. -/
def agentStateDir (env : String → Option String) : Option String :=
  ((nonBlank env "STATE_DIRECTORY").orElse fun _ =>
    (nonBlank env "XDG_STATE_HOME").map fun dir => join dir "ztna-agent").orElse fun _ =>
      (nonBlank env "HOME").map fun home => join home ".local/state/ztna-agent"

/-- A blank variable does not count, and the next one is taken. -/
example : agentStateDir (fun name => if name = "HOME" then some "/home/alice/\n" else some " ") =
    some "/home/alice/.local/state/ztna-agent" := by decide

/-- What the two programs use of the certificate parsers; an error is its text. -/
structure CertLibrary where
  pemCertToDer : Bytes → Except String Bytes
  certValidity : Bytes → Except String (Int × Int)
  extractSpiffeId : Bytes → Except String String

/-- What a start meets: the time, and files that cannot be read. -/
structure Startup where
  now : Int
  unreadable : FileName → Option String

/-- `std::fs::read` of a file that exists. -/
def readFile (start : Startup) (name : FileName) (what : String) (bytes : Bytes) :
    Except String Bytes :=
  match start.unreadable name with
  | some e => .error ("failed to read saved " ++ what ++ ": " ++ e)
  | none => .ok bytes

section

variable (L : CertLibrary) (dir : Option String)

def loadSavedEnrollment (files : Files) (start : Startup) :
    Except String (Option EnrollResult) :=
  match dir, files .cert, files .key, files .ca with
  | some _, some cert, some key, some ca => do
      let certPem ← readFile start .cert "cert" cert
      let keyDer ← readFile start .key "key" key
      let caPem ← readFile start .ca "CA" ca
      let certDer ← L.pemCertToDer certPem
      -- Check if cert is still valid (not expired)
      let (_, notAfter) ← L.certValidity certDer
      if start.now ≥ notAfter then .ok none
      else
        let spiffeId ← L.extractSpiffeId certDer
        .ok (some { certDer, certPem, caPem, keyDer, spiffeId })
  | _, _, _, _ => .ok none

/-- What `save_enrollment` writes, in order. -/
def writes (result : EnrollResult) : List (FileName × Bytes) :=
  [(.cert, result.certPem), (.key, result.keyDer), (.ca, result.caPem)]

/-! ## Runs -/

structure State where
  files : Files
  /-- What the save in progress has still to write. -/
  pending : List (FileName × Bytes)
  /-- All results that were handed to `save_enrollment`, the last one first. -/
  saved : List EnrollResult

inductive Event where
  /-- `save_enrollment` is called, after an enrolment or a renewal. -/
  | save (result : EnrollResult)
  /-- Its next file is written. -/
  | write
  /-- The process dies, and another one starts and loads. -/
  | crash (start : Startup)

def State.init : State := ⟨fun _ => none, [], []⟩

def step (s : State) : Event → Option State
  | .save result =>
      if s.pending ≠ [] then none
      else
        match dir with
        | none => some s
        | some _ => some { s with pending := writes result, saved := result :: s.saved }
  | .write =>
      match s.pending with
      | [] => none
      | w :: rest => some { s with files := s.files.write w, pending := rest }
  | .crash _ => some { s with pending := [] }

/-- What is loaded after a crash was saved together. -/
def Unmixed (s : State) : Event → Prop
  | .crash start => ∀ loaded, loadSavedEnrollment L dir s.files start = .ok (some loaded) →
      ∃ r ∈ s.saved, loaded.certPem = r.certPem ∧ loaded.keyDer = r.keyDer ∧
        loaded.caPem = r.caPem
  | _ => True

end

/-- A crash finds a save that has not begun to write, or the first one, or one that would only
write what is on disk anyway; a save that is complete is one of the last kind. -/
def Harmless (s : State) : Event → Prop
  | .crash _ => s.pending.length = 3 ∨ s.files .ca = none ∨
      ∀ w ∈ s.pending, s.files w.1 = some w.2
  | _ => True

/-- Each save has a certificate and a key of its own, and at a start the certificates of all
saves so far can be read and are valid. -/
def Fresh (L : CertLibrary) (s : State) : Event → Prop
  | .save result => ∀ r ∈ s.saved, r.certPem ≠ result.certPem ∧ r.keyDer ≠ result.keyDer
  | .write => True
  | .crash start => (∀ name, start.unreadable name = none) ∧ ∀ r ∈ s.saved,
      ∃ certDer notBefore notAfter spiffeId, L.pemCertToDer r.certPem = .ok certDer ∧
        L.certValidity certDer = .ok (notBefore, notAfter) ∧ start.now < notAfter ∧
        L.extractSpiffeId certDer = .ok spiffeId

/-! ## Loading -/

section Loading

variable {L : CertLibrary} {dir : Option String} {files : Files} {start : Startup}
  {loaded : EnrollResult}

theorem readFile_ok {name : FileName} {what : String} {bytes bytes' : Bytes}
    (h : readFile start name what bytes = .ok bytes') : bytes' = bytes := by
  unfold readFile at h
  split at h
  · cases h
  · exact (Except.ok.inj h).symm

theorem bind_ok {α β : Type} {x : Except String α} {f : α → Except String β} {b : β}
    (h : (x >>= f) = .ok b) : ∃ a, x = .ok a ∧ f a = .ok b := by
  cases x with
  | error e => cases h
  | ok a => exact ⟨a, rfl, h⟩

/-- What is loaded is what is in the files. -/
theorem files_of_load (h : loadSavedEnrollment L dir files start = .ok (some loaded)) :
    files .cert = some loaded.certPem ∧ files .key = some loaded.keyDer ∧
      files .ca = some loaded.caPem := by
  unfold loadSavedEnrollment at h
  split at h
  next cert key ca hcert hkey hca =>
    obtain ⟨certPem, hcertPem, hkeyRead⟩ := bind_ok h
    obtain ⟨keyDer, hkeyDer, hcaRead⟩ := bind_ok hkeyRead
    obtain ⟨caPem, hcaPem, hparse⟩ := bind_ok hcaRead
    obtain ⟨certDer, -, hvalidity⟩ := bind_ok hparse
    obtain ⟨⟨notBefore, notAfter⟩, -, hexpiry⟩ := bind_ok hvalidity
    dsimp only at hexpiry
    split at hexpiry
    · cases hexpiry
    · obtain ⟨spiffeId, -, hresult⟩ := bind_ok hexpiry
      obtain rfl := Option.some.inj (Except.ok.inj hresult)
      rw [hcert, hkey, hca, readFile_ok hcertPem, readFile_ok hkeyDer, readFile_ok hcaPem]
      exact ⟨rfl, rfl, rfl⟩
  · cases h

theorem load_of_files {d : String} {cert key ca certDer : Bytes} {notBefore notAfter : Int}
    {spiffeId : String} (hcert : files .cert = some cert) (hkey : files .key = some key)
    (hca : files .ca = some ca) (hreadable : ∀ name, start.unreadable name = none)
    (hpem : L.pemCertToDer cert = .ok certDer)
    (hvalidity : L.certValidity certDer = .ok (notBefore, notAfter)) (hnow : start.now < notAfter)
    (hspiffe : L.extractSpiffeId certDer = .ok spiffeId) :
    loadSavedEnrollment L (some d) files start = .ok (some ⟨certDer, cert, ca, key, spiffeId⟩) := by
  have hread : ∀ name what bytes, readFile start name what bytes = .ok bytes := by
    intro name what bytes
    rw [readFile, hreadable]
  simp only [loadSavedEnrollment, hcert, hkey, hca, hread, bind, Except.bind, hpem, hvalidity,
    hspiffe]
  exact if_neg (Int.not_le.mpr hnow)

end Loading

/-! ## What is on disk -/

/-- The files are those of a save, or there is no `ca.pem` yet. -/
def Settled (s : State) : Prop :=
  s.files .ca = none ∨ ∃ r ∈ s.saved, s.files .cert = some r.certPem ∧
    s.files .key = some r.keyDer ∧ s.files .ca = some r.caPem

/-- What a run without harmful crashes leaves, by what is still to be written. -/
inductive Progress (s : State) : Prop
  | idle : s.pending = [] → Settled s → Progress s
  | begun (r : EnrollResult) : r ∈ s.saved → s.pending = writes r → Settled s → Progress s
  | certWritten (r : EnrollResult) : r ∈ s.saved → s.pending = (writes r).tail →
      s.files .cert = some r.certPem →
      (s.files .ca = none ∨ ∃ old ∈ s.saved, s.files .key = some old.keyDer ∧
        s.files .ca = some old.caPem) → Progress s
  | keyWritten (r : EnrollResult) : r ∈ s.saved → s.pending = (writes r).tail.tail →
      s.files .cert = some r.certPem → s.files .key = some r.keyDer → Progress s

section Disk

variable {L : CertLibrary} {dir : Option String} {s s' : State} {e : Event}

theorem progress_init : Progress .init := .idle rfl (Or.inl rfl)

theorem Settled.save (h : Settled s) (r : EnrollResult) :
    Settled { s with pending := writes r, saved := r :: s.saved } := by
  refine h.imp_right ?_
  rintro ⟨old, hold, hfiles⟩
  exact ⟨old, List.mem_cons_of_mem r hold, hfiles⟩

/-- The three files, written one after the other. -/
theorem progress_write {w : FileName × Bytes} {rest : List (FileName × Bytes)} (h : Progress s)
    (hpending : s.pending = w :: rest) :
    Progress { s with files := s.files.write w, pending := rest } := by
  cases h with
  | idle hidle _ =>
      rw [hidle] at hpending
      cases hpending
  | begun r hr hbegun hsettled =>
      rw [hbegun, writes] at hpending
      cases hpending
      refine .certWritten r hr rfl rfl (hsettled.imp_right ?_)
      rintro ⟨old, hold, -, hkey, hca⟩
      exact ⟨old, hold, hkey, hca⟩
  | certWritten r hr hwritten hcert _ =>
      rw [hwritten, writes] at hpending
      cases hpending
      exact .keyWritten r hr rfl hcert rfl
  | keyWritten r hr hwritten hcert hkey =>
      rw [hwritten, writes] at hpending
      cases hpending
      exact .idle rfl (Or.inr ⟨r, hr, hcert, hkey, rfl⟩)

/-- A crash that does no harm leaves the files of one save, or no `ca.pem`. -/
theorem settled_of_harmless {start : Startup} (h : Progress s) (hok : Harmless s (.crash start)) :
    Settled s := by
  cases h with
  | idle _ hsettled => exact hsettled
  | begun _ _ _ hsettled => exact hsettled
  | certWritten r hr hwritten hcert _ =>
      rcases hok with hlength | hca | hondisk
      · rw [hwritten, writes] at hlength
        cases hlength
      · exact Or.inl hca
      · rw [hwritten] at hondisk
        refine Or.inr ⟨r, hr, hcert, hondisk (.key, r.keyDer) ?_, hondisk (.ca, r.caPem) ?_⟩
        · exact List.mem_cons_self
        · exact List.mem_cons_of_mem _ List.mem_cons_self
  | keyWritten r hr hwritten hcert hkey =>
      rcases hok with hlength | hca | hondisk
      · rw [hwritten, writes] at hlength
        cases hlength
      · exact Or.inl hca
      · rw [hwritten] at hondisk
        exact Or.inr ⟨r, hr, hcert, hkey, hondisk (.ca, r.caPem) List.mem_cons_self⟩

theorem progress_step (h : Progress s) (hok : Harmless s e) (hstep : step dir s e = some s') :
    Progress s' := by
  cases e with
  | save result =>
      simp only [step] at hstep
      split at hstep
      · cases hstep
      next hidle =>
        split at hstep
        · cases hstep
          exact h
        · cases hstep
          have hnothing : Harmless s (.crash ⟨0, fun _ => none⟩) := by
            refine Or.inr (Or.inr ?_)
            rw [not_not.mp hidle]
            exact fun w hw => absurd hw List.not_mem_nil
          have hsettled := (settled_of_harmless h hnothing).save result
          exact .begun result List.mem_cons_self rfl hsettled
  | write =>
      rw [step] at hstep
      split at hstep
      · cases hstep
      next w rest hpending =>
        cases hstep
        exact progress_write h hpending
  | crash start =>
      have hsettled := settled_of_harmless h hok
      cases hstep
      exact .idle rfl hsettled

theorem unmixed_of_harmless (h : Progress s) (hok : Harmless s e) : Unmixed L dir s e := by
  cases e with
  | save _ => trivial
  | write => trivial
  | crash start =>
      intro loaded hload
      obtain ⟨hcert, hkey, hca⟩ := files_of_load hload
      rcases settled_of_harmless h hok with hnone | ⟨r, hr, hcert', hkey', hca'⟩
      · rw [hnone] at hca
        cases hca
      · rw [hcert'] at hcert
        rw [hkey'] at hkey
        rw [hca'] at hca
        exact ⟨r, hr, (Option.some.inj hcert).symm, (Option.some.inj hkey).symm,
          (Option.some.inj hca).symm⟩

/-! ## Saves of their own -/

/-- Certificates and keys tell the saves apart; without a directory nothing is written. -/
structure Distinct (dir : Option String) (s : State) : Prop where
  certs : ∀ a ∈ s.saved, ∀ b ∈ s.saved, a.certPem = b.certPem → a = b
  keys : ∀ a ∈ s.saved, ∀ b ∈ s.saved, a.keyDer = b.keyDer → a = b
  noDir : dir = none → s.pending = []

theorem told_apart_cons {field : EnrollResult → Bytes} {saved : List EnrollResult}
    {result : EnrollResult} (h : ∀ a ∈ saved, ∀ b ∈ saved, field a = field b → a = b)
    (hnew : ∀ r ∈ saved, field r ≠ field result) :
    ∀ a ∈ result :: saved, ∀ b ∈ result :: saved, field a = field b → a = b := by
  intro a ha b hb heq
  rcases List.mem_cons.mp ha with rfl | hold
  · rcases List.mem_cons.mp hb with rfl | hold'
    · rfl
    · exact absurd heq.symm (hnew b hold')
  · rcases List.mem_cons.mp hb with rfl | hold'
    · exact absurd heq (hnew a hold)
    · exact h a hold b hold' heq

theorem distinct_init : Distinct dir .init :=
  ⟨fun _ ha => absurd ha List.not_mem_nil, fun _ ha => absurd ha List.not_mem_nil, fun _ => rfl⟩

theorem distinct_step (h : Distinct dir s) (hfresh : Fresh L s e)
    (hstep : step dir s e = some s') : Distinct dir s' := by
  cases e with
  | save result =>
      simp only [step] at hstep
      split at hstep
      · cases hstep
      · split at hstep
        · cases hstep
          exact h
        next d =>
          cases hstep
          refine ⟨?_, ?_, fun hnone => by cases hnone⟩
          · exact told_apart_cons h.certs fun r hr => (hfresh r hr).1
          · exact told_apart_cons h.keys fun r hr => (hfresh r hr).2
  | write =>
      simp only [step] at hstep
      split at hstep
      · cases hstep
      next w rest hpending =>
        cases hstep
        refine ⟨h.certs, h.keys, fun hnone => ?_⟩
        rw [h.noDir hnone] at hpending
        cases hpending
  | crash start =>
      cases hstep
      exact ⟨h.certs, h.keys, fun _ => rfl⟩

/-- Where the certificate on disk is that of one save and the key that of another, or the CA
is, the start reads them. -/
theorem harmless_of_unmixed (h : Progress s) (hdistinct : Distinct dir s) (hfresh : Fresh L s e)
    (hunmixed : Unmixed L dir s e) : Harmless s e := by
  cases e with
  | save _ => trivial
  | write => trivial
  | crash start =>
      obtain ⟨hreadable, hcerts⟩ := hfresh
      have hloads : ∀ r ∈ s.saved, ∀ key ca, s.files .cert = some r.certPem →
          s.files .key = some key → s.files .ca = some ca → s.pending ≠ [] →
          ∃ x ∈ s.saved, r.certPem = x.certPem ∧ key = x.keyDer ∧ ca = x.caPem := by
        intro r hr key ca hcert hkey hca hpending
        obtain ⟨certDer, notBefore, notAfter, spiffeId, hpem, hvalidity, hnow, hspiffe⟩ :=
          hcerts r hr
        obtain ⟨d, rfl⟩ := Option.ne_none_iff_exists'.mp (mt hdistinct.noDir hpending)
        exact hunmixed _ (load_of_files hcert hkey hca hreadable hpem hvalidity hnow hspiffe)
      cases h with
      | idle hidle _ =>
          refine Or.inr (Or.inr ?_)
          rw [hidle]
          exact fun w hw => absurd hw List.not_mem_nil
      | begun r _ hbegun _ =>
          refine Or.inl ?_
          rw [hbegun]
          rfl
      | certWritten r hr hwritten hcert hold =>
          rcases hold with hnone | ⟨old, hold, hkey, hca⟩
          · exact Or.inr (Or.inl hnone)
          · have hpending : s.pending ≠ [] := by simp [hwritten, writes]
            obtain ⟨x, hx, hcert', hkey', hca'⟩ := hloads r hr _ _ hcert hkey hca hpending
            -- the certificate is this save's and the key the old one's, so they are one
            obtain rfl := hdistinct.certs r hr x hx hcert'
            obtain rfl := hdistinct.keys old hold r hx hkey'
            refine Or.inr (Or.inr ?_)
            rw [hwritten]
            simp [writes, hkey, hca]
      | keyWritten r hr hwritten hcert hkey =>
          cases hca : s.files .ca with
          | none => exact Or.inr (Or.inl hca)
          | some ca =>
              have hpending : s.pending ≠ [] := by simp [hwritten, writes]
              obtain ⟨x, hx, hcert', -, rfl⟩ := hloads r hr _ _ hcert hkey hca hpending
              obtain rfl := hdistinct.certs r hr x hx hcert'
              refine Or.inr (Or.inr ?_)
              rw [hwritten]
              simp [writes, hca]

/-- **When no start reads files of two saves.**  It does not in a run in which no save is cut
short over the files of another; and in a run in which every save has its own certificate and
key, and the certificates can be read, it does not only then. -/
theorem unmixed_iff (L : CertLibrary) (dir : Option String) (es : List Event) (s : State)
    (hrun : run (step dir) .init es = some s) :
    (Meets (step dir) Harmless .init es → Meets (step dir) (Unmixed L dir) .init es) ∧
      (Meets (step dir) (Fresh L) .init es →
        (Meets (step dir) (Unmixed L dir) .init es ↔ Meets (step dir) Harmless .init es)) := by
  constructor
  · intro hmeets
    refine meets_imp_of_inv (motive := Progress) ?_ ?_ progress_init hrun hmeets
    · exact fun _ _ _ h hok hstep => progress_step h hok hstep
    · exact fun _ _ _ h _ hok => unmixed_of_harmless h hok
  · intro hfresh
    refine meets_iff_of_inv (motive := fun s => Progress s ∧ Distinct dir s) ?_ ?_
      ⟨progress_init, distinct_init⟩ hrun hfresh
    · exact fun _ _ _ h hbase hok hstep =>
        ⟨progress_step h.1 hok hstep, distinct_step h.2 hbase hstep⟩
    · exact fun _ _ h hbase =>
        ⟨harmless_of_unmixed h.1 h.2 hbase, unmixed_of_harmless h.1⟩

end Disk

/-- A certificate is stood for by its serial number; all are valid until noon. -/
def exampleLibrary : CertLibrary where
  pemCertToDer pem := .ok pem
  certValidity _ := .ok (0, 43200)
  extractSpiffeId _ := .ok "spiffe://acme.io/connector/c1"

def enrolled (serial key ca : UInt8) : EnrollResult :=
  ⟨[serial], [serial], [ca], [key], "spiffe://acme.io/connector/c1"⟩

def morning : Startup := ⟨3600, fun _ => none⟩

/-- The enrolment, and a renewal that is cut short after `written` files. -/
def renewed (written : Nat) (ca : UInt8) : List Event :=
  [.save (enrolled 1 11 7), .write, .write, .write, .save (enrolled 2 12 ca)] ++
    List.replicate written .write ++ [.crash morning]

/-- The CA is the same: no harm is done once the key is written. -/
theorem same_ca_unmixed :
    Meets (step (some "/var/lib/connector")) (Unmixed exampleLibrary (some "/var/lib/connector"))
      .init (renewed 2 7) := by
  refine (unmixed_iff exampleLibrary (some "/var/lib/connector") (renewed 2 7) _ rfl).1 ?_
  iterate 7 refine meets_cons trivial rfl ?_
  exact meets_cons (Or.inr (Or.inr (by decide))) rfl trivial

/-- The renewed certificate with the key of the former one. -/
theorem renewal_mixed :
    ¬ Meets (step (some "/var/lib/connector"))
      (Unmixed exampleLibrary (some "/var/lib/connector")) .init (renewed 1 7) := by
  intro h
  have hcrash := ((((((h.2 _ rfl).2 _ rfl).2 _ rfl).2 _ rfl).2 _ rfl).2 _ rfl).1
  obtain ⟨r, hr, hcert, hkey, -⟩ :=
    hcrash ⟨[2], [2], [7], [11], "spiffe://acme.io/connector/c1"⟩ rfl
  rcases List.mem_pair.mp hr with rfl | rfl
  · exact absurd hkey (by decide)
  · exact absurd hcert (by decide)

end ZeroTrust.Connector.SavedEnrollment
