import PigweedExperimental.Foundation.MachineInt

namespace PigweedExperimental.Tls

/-! # Loading certificates

The picotls and the boringssl backend load certificates and revocation lists
with the same two helpers, one for each encoding. What OpenSSL makes of a buffer
comes from outside.
-/

/-- An entry of a PEM buffer, `X509_INFO`. It may be neither, such as a key. -/
structure X509Info (Certificate : Type u) (Crl : Type v) where
  x509 : Option Certificate
  crl : Option Crl
  deriving DecidableEq, Repr

/-- The functions of OpenSSL. `bioForPem` and `bioForDer` say whether
`BIO_new_mem_buf` succeeds in either helper. -/
structure OpenSsl (Store : Type w) (Certificate : Type u) (Crl : Type v) where
  clearCheckTime : Store → Store
  bioForPem : List UInt8 → Bool
  bioForDer : List UInt8 → Bool
  readPem : List UInt8 → Option (List (X509Info Certificate Crl))
  readDer : List UInt8 → Option Certificate
  addCert : Store → Certificate → Option Store
  addCrl : Store → Crl → Option Store

/-- A store during a call, with what the call has added to it. -/
structure Loaded (Store : Type w) (Certificate : Type u) (Crl : Type v) where
  store : Store
  added : List (Certificate ⊕ Crl)
  deriving DecidableEq, Repr

inductive X509LoadFormat where
  | pem
  | der
  | tryAll
  deriving DecidableEq, Repr

namespace OpenSsl

variable (openssl : OpenSsl Store Certificate Crl)

/-- `X509_STORE_add_cert`, which leaves the store as it is when it fails. -/
def add (loaded : Loaded Store Certificate Crl) (certificate : Certificate) :
    Except (Loaded Store Certificate Crl) (Loaded Store Certificate Crl) :=
  match openssl.addCert loaded.store certificate with
  | none => .error loaded
  | some store => .ok ⟨store, loaded.added ++ [.inl certificate]⟩

/-- `X509_STORE_add_crl` -/
def addList (loaded : Loaded Store Certificate Crl) (crl : Crl) :
    Except (Loaded Store Certificate Crl) (Loaded Store Certificate Crl) :=
  match openssl.addCrl loaded.store crl with
  | none => .error loaded
  | some store => .ok ⟨store, loaded.added ++ [.inr crl]⟩

def addEntry (loaded : Loaded Store Certificate Crl) (info : X509Info Certificate Crl) :
    Except (Loaded Store Certificate Crl) (Loaded Store Certificate Crl) := do
  let withCert ← info.x509.elim (.ok loaded) (openssl.add loaded)
  info.crl.elim (.ok withCert) (openssl.addList withCert)

/-- The loop over the entries, up to the first that cannot be added. -/
def addEntries (loaded : Loaded Store Certificate Crl) :
    List (X509Info Certificate Crl) →
    Except (Loaded Store Certificate Crl) (Loaded Store Certificate Crl)
  | [] => .ok loaded
  | info :: infos => (openssl.addEntry loaded info).bind (addEntries · infos)

/-- The number of entries, or a negative value. -/
def loadCACertCrlsPEMFormat (buffer : List UInt8) (loaded : Loaded Store Certificate Crl) :
    Int × Loaded Store Certificate Crl :=
  if ¬openssl.bioForPem buffer then
    (-1, loaded)
  else
    match openssl.readPem buffer with
    | none => (-1, loaded)
    | some infos =>
        match openssl.addEntries loaded infos with
        | .error left => (-1, left)
        | .ok left => (staticCastInt infos.length, left)

/-- Zero, or a negative value. -/
def loadCACertCrlDERFormat (buffer : List UInt8) (loaded : Loaded Store Certificate Crl) :
    Int × Loaded Store Certificate Crl :=
  if ¬openssl.bioForDer buffer then
    (-1, loaded)
  else
    match openssl.readDer buffer with
    | none => (-1, loaded)
    | some x509 =>
        match openssl.add loaded x509 with
        | .error left => (-1, left)
        | .ok left => (0, left)

/-- The first block of `LoadCACert`: it returns, or leaves a store to go on
with. -/
def tryPem (pemLoaded : Int → Bool) (buffer : List UInt8) (format : X509LoadFormat)
    (loaded : Loaded Store Certificate Crl) :
    Except (Int × Loaded Store Certificate Crl) (Loaded Store Certificate Crl) :=
  if format = .pem ∨ format = .tryAll then
    let ret := openssl.loadCACertCrlsPEMFormat buffer loaded
    if pemLoaded ret.1 then
      .error (0, ret.2)
    else if format = .pem then
      .error ret
    else
      .ok ret.2
  else
    .ok loaded

/-- The second block. -/
def tryDer (buffer : List UInt8) (format : X509LoadFormat)
    (loaded : Loaded Store Certificate Crl) :
    Except (Int × Loaded Store Certificate Crl) (Loaded Store Certificate Crl) :=
  if format = .der ∨ format = .tryAll then
    let ret := openssl.loadCACertCrlDERFormat buffer loaded
    if ret.1 = 0 then
      .error (0, ret.2)
    else if format = .der then
      .error ret
    else
      .ok ret.2
  else
    .ok loaded

/-- `LoadCACert` on a store, where `pemLoaded` is the backend's test of the PEM
helper's result. -/
def loadCACert (pemLoaded : Int → Bool) (buffer : List UInt8) (format : X509LoadFormat)
    (store : Store) : Int × Loaded Store Certificate Crl :=
  let attempts := do
    let afterPem ← openssl.tryPem pemLoaded buffer format ⟨openssl.clearCheckTime store, []⟩
    openssl.tryDer buffer format afterPem
  match attempts with
  | .error returned => returned
  | .ok left => (-1, left)

end OpenSsl

/-- `PicotlsBackend::LoadCACert`; the store is created with the first call. -/
def PicotlsBackend.loadCACert (openssl : OpenSsl Store Certificate Crl)
    (trustedStore created : Option Store) (buffer : List UInt8) (format : X509LoadFormat) :
    Int × Option (Loaded Store Certificate Crl) :=
  match trustedStore.or created with
  | none => (-1, none)
  | some store =>
      let ret := openssl.loadCACert (fun ret => ret = 0) buffer format store
      (ret.1, some ret.2)

/-- `BoringsslBackend::LoadCACert`, on the store of its context. -/
def BoringsslBackend.loadCACert (openssl : OpenSsl Store Certificate Crl) (store : Store)
    (buffer : List UInt8) (format : X509LoadFormat) : Int × Loaded Store Certificate Crl :=
  openssl.loadCACert (fun ret => 0 < ret) buffer format store

end PigweedExperimental.Tls
