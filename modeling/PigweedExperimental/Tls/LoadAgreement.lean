import Mathlib.Data.List.Basic
import PigweedExperimental.Tls.CertificateLoading

namespace PigweedExperimental.Tls

/-! # Two backends loading the same certificates

The backends differ in what they take for a success of the PEM helper.
-/

/-- The backends come to the same verdict and the same store, and report a
success only if something of the buffer was added. -/
structure Agree (picotls : Int × Option (Loaded Store Certificate Crl))
    (boringssl : Int × Loaded Store Certificate Crl) : Prop where
  verdict : picotls.1 < 0 ↔ boringssl.1 < 0
  store : picotls.2.map Loaded.store = some boringssl.2.store
  picotlsAdds : 0 ≤ picotls.1 → ∃ loaded ∈ picotls.2, loaded.added ≠ []
  boringsslAdds : 0 ≤ boringssl.1 → boringssl.2.added ≠ []

/-- What an entry brings to a store. -/
def X509Info.items (info : X509Info Certificate Crl) : List (Certificate ⊕ Crl) :=
  info.x509.toList.map .inl ++ info.crl.toList.map .inr

namespace OpenSsl

variable (openssl : OpenSsl Store Certificate Crl)

/-- The store as the helpers get it. -/
def opened (store : Store) : Loaded Store Certificate Crl :=
  ⟨openssl.clearCheckTime store, []⟩

/-- The PEM helper reads these entries and adds them all. Their number, as an
`int`, is not negative. -/
structure PemLoads (buffer : List UInt8) (loaded : Loaded Store Certificate Crl)
    (infos : List (X509Info Certificate Crl)) (left : Loaded Store Certificate Crl) :
    Prop where
  bio : openssl.bioForPem buffer
  read : openssl.readPem buffer = some infos
  added : openssl.addEntries loaded infos = .ok left
  counts : 0 ≤ staticCastInt infos.length

/-- The buffer is a certificate in DER as well, which a store that has the PEM
entries takes without a change. -/
def DerKeeps (buffer : List UInt8) (store : Store) : Prop :=
  openssl.bioForDer buffer ∧
    ∃ x509, openssl.readDer buffer = some x509 ∧ openssl.addCert store x509 = some store

/-- When the backends agree on a buffer: whenever the PEM helper succeeds, an
entry must bring something, and if the picotls backend then goes on, it must do
no more than that. -/
def Agreeing (buffer : List UInt8) (format : X509LoadFormat) (store : Store) : Prop :=
  match format with
  | .der => True
  | .pem => ∀ infos left, openssl.PemLoads buffer (openssl.opened store) infos left →
      ∃ info ∈ infos, info.items ≠ []
  | .tryAll => ∀ infos left, openssl.PemLoads buffer (openssl.opened store) infos left →
      (∃ info ∈ infos, info.items ≠ []) ∧ openssl.DerKeeps buffer left.store

variable {openssl} {buffer : List UInt8} {loaded left : Loaded Store Certificate Crl}

section Helpers

theorem add_added {certificate : Certificate}
    (added : openssl.add loaded certificate = .ok left) :
    left.added = loaded.added ++ [.inl certificate] := by
  rw [add] at added
  split at added
  · cases added
  · cases added
    rfl

theorem addList_added {crl : Crl} (added : openssl.addList loaded crl = .ok left) :
    left.added = loaded.added ++ [.inr crl] := by
  rw [addList] at added
  split at added
  · cases added
  · cases added
    rfl

theorem addEntry_added {info : X509Info Certificate Crl}
    (added : openssl.addEntry loaded info = .ok left) :
    left.added = loaded.added ++ info.items := by
  rw [addEntry] at added
  cases withCert : info.x509.elim (.ok loaded) (openssl.add loaded) with
  | error =>
      rw [withCert] at added
      cases added
  | ok next =>
      rw [withCert] at added
      have certificate : next.added = loaded.added ++ info.x509.toList.map .inl := by
        cases x509 : info.x509 with
        | none =>
            rw [x509] at withCert
            cases withCert
            exact (List.append_nil _).symm
        | some certificate =>
            rw [x509] at withCert
            exact add_added withCert
      have list : left.added = next.added ++ info.crl.toList.map .inr := by
        cases crl : info.crl with
        | none =>
            rw [crl] at added
            cases added
            exact (List.append_nil _).symm
        | some list =>
            rw [crl] at added
            exact addList_added added
      rw [list, certificate, List.append_assoc]
      rfl

theorem addEntries_added {infos : List (X509Info Certificate Crl)}
    (added : openssl.addEntries loaded infos = .ok left) :
    left.added = loaded.added ++ infos.flatMap X509Info.items := by
  induction infos generalizing loaded with
  | nil =>
      cases added
      exact (List.append_nil _).symm
  | cons info infos induction =>
      rw [addEntries] at added
      cases first : openssl.addEntry loaded info with
      | error =>
          rw [first] at added
          cases added
      | ok next =>
          rw [first] at added
          rw [induction added, addEntry_added first, List.append_assoc, List.flatMap_cons]

theorem PemLoads.added_ne_nil {store : Store} {infos : List (X509Info Certificate Crl)}
    (loads : openssl.PemLoads buffer (openssl.opened store) infos left) :
    left.added ≠ [] ↔ ∃ info ∈ infos, info.items ≠ [] := by
  have added := addEntries_added loads.added
  rw [opened, List.nil_append] at added
  rw [added, ne_eq, List.flatMap_eq_nil_iff]
  simp only [not_forall, exists_prop, ne_eq]

theorem PemLoads.returns {infos : List (X509Info Certificate Crl)}
    (loads : openssl.PemLoads buffer loaded infos left) :
    openssl.loadCACertCrlsPEMFormat buffer loaded = (staticCastInt infos.length, left) := by
  rw [loadCACertCrlsPEMFormat, if_neg (not_not.mpr loads.bio), loads.read]
  dsimp only
  rw [loads.added]

/-- There is only one way in which the helper succeeds. -/
theorem PemLoads.forall_iff {infos : List (X509Info Certificate Crl)}
    (loads : openssl.PemLoads buffer loaded infos left)
    {property : List (X509Info Certificate Crl) → Loaded Store Certificate Crl → Prop} :
    (∀ infos left, openssl.PemLoads buffer loaded infos left → property infos left) ↔
      property infos left := by
  constructor
  · exact fun all => all infos left loads
  · intro holds otherInfos otherLeft otherLoads
    cases loads.read.symm.trans otherLoads.read
    cases loads.added.symm.trans otherLoads.added
    exact holds

/-- Otherwise the PEM helper reports a failure. -/
theorem pem_negative
    (fails : ∀ infos left, ¬openssl.PemLoads buffer loaded infos left) :
    (openssl.loadCACertCrlsPEMFormat buffer loaded).1 < 0 := by
  have negative : (-1 : Int) < 0 := by decide
  rw [loadCACertCrlsPEMFormat]
  split
  · exact negative
  · rename_i bio
    cases read : openssl.readPem buffer with
    | none => exact negative
    | some infos =>
        dsimp only
        cases added : openssl.addEntries loaded infos with
        | error => exact negative
        | ok left =>
            dsimp only
            rcases Decidable.em (0 ≤ staticCastInt infos.length) with counts | overflows
            · exact absurd ⟨not_not.mp bio, read, added, counts⟩ (fails infos left)
            · exact Int.not_le.mp overflows

/-- The DER helper adds its certificate, or fails and leaves the store. -/
theorem der_cases (openssl : OpenSsl Store Certificate Crl) (buffer : List UInt8)
    (loaded : Loaded Store Certificate Crl) :
    (∃ x509 store, openssl.bioForDer buffer ∧ openssl.readDer buffer = some x509 ∧
      openssl.addCert loaded.store x509 = some store ∧
      openssl.loadCACertCrlDERFormat buffer loaded =
        (0, ⟨store, loaded.added ++ [.inl x509]⟩)) ∨
    (¬openssl.DerKeeps buffer loaded.store ∧
      openssl.loadCACertCrlDERFormat buffer loaded = (-1, loaded)) := by
  rw [loadCACertCrlDERFormat]
  split
  · rename_i noBio
    exact .inr ⟨fun keeps => noBio keeps.1, rfl⟩
  · rename_i bio
    cases read : openssl.readDer buffer with
    | none =>
        right
        refine ⟨?_, rfl⟩
        rintro ⟨_, x509, isRead, _⟩
        cases read.symm.trans isRead
    | some x509 =>
        cases added : openssl.addCert loaded.store x509 with
        | none =>
            right
            constructor
            · rintro ⟨_, other, isRead, kept⟩
              cases read.symm.trans isRead
              cases added.symm.trans kept
            · dsimp only
              rw [add, added]
        | some store =>
            left
            refine ⟨x509, store, not_not.mp bio, rfl, added, ?_⟩
            dsimp only
            rw [add, added]

end Helpers

section Formats

variable {pemLoaded : Int → Bool} {store : Store}

theorem tryPem_der (loaded : Loaded Store Certificate Crl) :
    openssl.tryPem pemLoaded buffer .der loaded = .ok loaded := by
  rw [tryPem, if_neg (by decide)]

theorem tryPem_pem (loaded : Loaded Store Certificate Crl) :
    openssl.tryPem pemLoaded buffer .pem loaded =
      .error (if pemLoaded (openssl.loadCACertCrlsPEMFormat buffer loaded).1 then
        (0, (openssl.loadCACertCrlsPEMFormat buffer loaded).2)
      else
        openssl.loadCACertCrlsPEMFormat buffer loaded) := by
  rw [tryPem, if_pos (by decide)]
  dsimp only
  rw [if_pos rfl]
  split <;> rfl

theorem tryPem_tryAll (loaded : Loaded Store Certificate Crl) :
    openssl.tryPem pemLoaded buffer .tryAll loaded =
      if pemLoaded (openssl.loadCACertCrlsPEMFormat buffer loaded).1 then
        .error (0, (openssl.loadCACertCrlsPEMFormat buffer loaded).2)
      else
        .ok (openssl.loadCACertCrlsPEMFormat buffer loaded).2 := by
  rw [tryPem, if_pos (by decide)]
  dsimp only
  rw [if_neg (by decide : ¬X509LoadFormat.tryAll = .pem)]

/-- The DER block of a call that has come as far as that; its own result stands
for what the call returns. -/
theorem tryDer_returns {format : X509LoadFormat} (tried : format ≠ .pem)
    (loaded : Loaded Store Certificate Crl) :
    (match openssl.tryDer buffer format loaded with
      | .error returned => returned
      | .ok left => (-1, left)) = openssl.loadCACertCrlDERFormat buffer loaded := by
  have isTried : format = .der ∨ format = .tryAll := by
    cases format with
    | pem => exact absurd rfl tried
    | der => exact .inl rfl
    | tryAll => exact .inr rfl
  rw [tryDer, if_pos isTried]
  dsimp only
  rcases der_cases openssl buffer loaded with ⟨x509, next, _, _, _, returns⟩ | ⟨_, returns⟩
  · rw [returns]
    rfl
  · rw [returns]
    rw [if_neg (by decide : ¬(-1 : Int) = 0)]
    cases format with
    | pem => exact absurd rfl tried
    | der => rfl
    | tryAll => rfl

theorem loadCACert_der :
    openssl.loadCACert pemLoaded buffer .der store =
      openssl.loadCACertCrlDERFormat buffer (openssl.opened store) := by
  rw [loadCACert, tryPem_der]
  exact tryDer_returns (by decide : X509LoadFormat.der ≠ .pem) _

theorem loadCACert_pem :
    openssl.loadCACert pemLoaded buffer .pem store =
      if pemLoaded (openssl.loadCACertCrlsPEMFormat buffer (openssl.opened store)).1 then
        (0, (openssl.loadCACertCrlsPEMFormat buffer (openssl.opened store)).2)
      else
        openssl.loadCACertCrlsPEMFormat buffer (openssl.opened store) := by
  rw [loadCACert, tryPem_pem]
  rfl

theorem loadCACert_tryAll :
    openssl.loadCACert pemLoaded buffer .tryAll store =
      if pemLoaded (openssl.loadCACertCrlsPEMFormat buffer (openssl.opened store)).1 then
        (0, (openssl.loadCACertCrlsPEMFormat buffer (openssl.opened store)).2)
      else
        openssl.loadCACertCrlDERFormat buffer
          (openssl.loadCACertCrlsPEMFormat buffer (openssl.opened store)).2 := by
  rw [loadCACert, tryPem_tryAll, ← opened]
  rcases Decidable.em (pemLoaded
      (openssl.loadCACertCrlsPEMFormat buffer (openssl.opened store)).1) with isLoaded | fails
  · rw [if_pos isLoaded, if_pos isLoaded]
    rfl
  · rw [if_neg fails, if_neg fails]
    exact tryDer_returns (by decide : X509LoadFormat.tryAll ≠ .pem) _

end Formats

end OpenSsl

section Agreement

variable {openssl : OpenSsl Store Certificate Crl} {buffer : List UInt8}
  {first second : Loaded Store Certificate Crl} {ret other : Int}

theorem agree_of_successes (success : 0 ≤ ret) (otherSuccess : 0 ≤ other) :
    Agree (ret, some first) (other, second) ↔
      first.store = second.store ∧ first.added ≠ [] ∧ second.added ≠ [] := by
  constructor
  · intro agree
    rcases agree.picotlsAdds success with ⟨loaded, isFirst, adds⟩
    cases Option.mem_some.mp isFirst
    exact ⟨Option.some.inj agree.store, adds, agree.boringsslAdds otherSuccess⟩
  · rintro ⟨sameStore, firstAdds, secondAdds⟩
    constructor
    case verdict => exact iff_of_false (Int.not_lt.mpr success) (Int.not_lt.mpr otherSuccess)
    case store => exact congrArg some sameStore
    case picotlsAdds => exact fun _ => ⟨first, rfl, firstAdds⟩
    case boringsslAdds => exact fun _ => secondAdds

theorem agree_of_failures (failure : ret < 0) (otherFailure : other < 0)
    (sameStore : first.store = second.store) : Agree (ret, some first) (other, second) where
  verdict := iff_of_true failure otherFailure
  store := congrArg some sameStore
  picotlsAdds := fun success => absurd failure (Int.not_lt.mpr success)
  boringsslAdds := fun success => absurd otherFailure (Int.not_lt.mpr success)

/-- Both backends return what the DER helper returns. -/
theorem agree_der (openssl : OpenSsl Store Certificate Crl) (buffer : List UInt8)
    (loaded : Loaded Store Certificate Crl) :
    Agree ((openssl.loadCACertCrlDERFormat buffer loaded).1,
        some (openssl.loadCACertCrlDERFormat buffer loaded).2)
      (openssl.loadCACertCrlDERFormat buffer loaded) := by
  rcases openssl.der_cases buffer loaded with ⟨x509, store, _, _, _, returns⟩ | ⟨_, returns⟩
  · rw [returns, agree_of_successes (Int.le_refl 0) (Int.le_refl 0)]
    exact ⟨rfl, by simp, by simp⟩
  · have failure : (-1 : Int) < 0 := by decide
    rw [returns]
    exact agree_of_failures failure failure rfl

/-- One backend returns after the PEM helper, the other goes on to the DER
helper. -/
theorem agree_pem_der_iff (success : 0 ≤ ret) :
    (Agree (ret, some first) (openssl.loadCACertCrlDERFormat buffer first) ↔
        first.added ≠ [] ∧ openssl.DerKeeps buffer first.store) ∧
      (Agree ((openssl.loadCACertCrlDERFormat buffer first).1,
          some (openssl.loadCACertCrlDERFormat buffer first).2) (ret, first) ↔
        first.added ≠ [] ∧ openssl.DerKeeps buffer first.store) := by
  rcases openssl.der_cases buffer first with ⟨x509, store, bio, read, added, returns⟩ |
    ⟨notKept, returns⟩
  · have keeps : openssl.DerKeeps buffer first.store ↔ store = first.store := by
      constructor
      · rintro ⟨_, other, isRead, kept⟩
        cases read.symm.trans isRead
        exact Option.some.inj (added.symm.trans kept)
      · intro kept
        exact ⟨bio, x509, read, added.trans (congrArg some kept)⟩
    have addsMore : first.added ++ [Sum.inl x509] ≠ [] := by simp
    rw [returns, keeps, agree_of_successes success (Int.le_refl 0),
      agree_of_successes (Int.le_refl 0) success]
    constructor
    · constructor
      · exact fun agree => ⟨agree.2.1, agree.1.symm⟩
      · exact fun both => ⟨both.2.symm, both.1, addsMore⟩
    · constructor
      · exact fun agree => ⟨agree.2.2, agree.1⟩
      · exact fun both => ⟨both.2, addsMore, both.1⟩
  · have notFailure : ¬ret < 0 := Int.not_lt.mpr success
    have failure : (-1 : Int) < 0 := by decide
    rw [returns]
    constructor
    · refine iff_of_false (fun agree => ?_) (fun both => notKept both.2)
      exact notFailure (agree.verdict.mpr failure)
    · refine iff_of_false (fun agree => ?_) (fun both => notKept both.2)
      exact notFailure (agree.verdict.mp failure)

/-- The PEM helper succeeds: both backends return its success. -/
theorem agree_pem_of_loads {store : Store} {infos : List (X509Info Certificate Crl)}
    (loads : openssl.PemLoads buffer (openssl.opened store) infos first) :
    Agree ((openssl.loadCACert (fun ret => ret = 0) buffer .pem store).1,
        some (openssl.loadCACert (fun ret => ret = 0) buffer .pem store).2)
        (openssl.loadCACert (fun ret => 0 < ret) buffer .pem store) ↔
      ∃ info ∈ infos, info.items ≠ [] := by
  have counts := loads.counts
  have zero : (0 : Int) ≤ 0 := Int.le_refl 0
  have sameAdded : (first.store = first.store ∧ first.added ≠ [] ∧ first.added ≠ []) ↔
      first.added ≠ [] := by simp
  rw [OpenSsl.loadCACert_pem, OpenSsl.loadCACert_pem, loads.returns, ← loads.added_ne_nil]
  generalize staticCastInt infos.length = count at counts ⊢
  split
  · split
    · exact (agree_of_successes zero zero).trans sameAdded
    · exact (agree_of_successes zero counts).trans sameAdded
  · split
    · exact (agree_of_successes counts zero).trans sameAdded
    · exact (agree_of_successes counts counts).trans sameAdded

/-- When all formats are tried, a success of the PEM helper ends the call of one
backend only: for the picotls backend if there are no entries, for the boringssl
backend otherwise. -/
theorem agree_tryAll_of_loads {store : Store} {infos : List (X509Info Certificate Crl)}
    (loads : openssl.PemLoads buffer (openssl.opened store) infos first) :
    Agree ((openssl.loadCACert (fun ret => ret = 0) buffer .tryAll store).1,
        some (openssl.loadCACert (fun ret => ret = 0) buffer .tryAll store).2)
        (openssl.loadCACert (fun ret => 0 < ret) buffer .tryAll store) ↔
      (∃ info ∈ infos, info.items ≠ []) ∧ openssl.DerKeeps buffer first.store := by
  have counts := loads.counts
  rw [OpenSsl.loadCACert_tryAll, OpenSsl.loadCACert_tryAll, loads.returns, ← loads.added_ne_nil]
  dsimp only
  generalize staticCastInt infos.length = count at counts ⊢
  rcases Decidable.em (count = 0) with none | some
  · simp only [none, decide_true, if_true, Int.lt_irrefl, decide_false, Bool.false_eq_true,
      if_false]
    exact (agree_pem_der_iff (Int.le_refl 0)).1
  · have positive : 0 < count := by omega
    simp only [some, positive, decide_false, decide_true, Bool.false_eq_true, if_false, if_true]
    exact (agree_pem_der_iff (Int.le_refl 0)).2

/-- The backends agree on a buffer exactly if the PEM helper's success, should
it have one, comes from entries that were added, and trying all formats ends
with the same store. -/
theorem loadCACert_agree_iff (openssl : OpenSsl Store Certificate Crl)
    {trustedStore created : Option Store} {store : Store}
    (isStore : trustedStore.or created = some store) (buffer : List UInt8)
    (format : X509LoadFormat) :
    Agree (PicotlsBackend.loadCACert openssl trustedStore created buffer format)
        (BoringsslBackend.loadCACert openssl store buffer format) ↔
      openssl.Agreeing buffer format store := by
  rw [PicotlsBackend.loadCACert, isStore, BoringsslBackend.loadCACert]
  dsimp only
  have afterFailure (neverLoads : ¬∃ infos left, openssl.PemLoads buffer
      (openssl.opened store) infos left) :
      (openssl.loadCACertCrlsPEMFormat buffer (openssl.opened store)).1 < 0 :=
    OpenSsl.pem_negative fun infos left loads => neverLoads ⟨infos, left, loads⟩
  cases format with
  | der =>
      rw [OpenSsl.loadCACert_der, OpenSsl.loadCACert_der]
      exact iff_of_true (agree_der openssl buffer _) trivial
  | pem =>
      rcases Classical.em (∃ infos left, openssl.PemLoads buffer (openssl.opened store) infos
        left) with ⟨infos, left, loads⟩ | neverLoads
      · rw [OpenSsl.Agreeing, loads.forall_iff]
        exact agree_pem_of_loads loads
      · have negative := afterFailure neverLoads
        rw [OpenSsl.loadCACert_pem, OpenSsl.loadCACert_pem]
        simp only [Int.ne_of_lt negative, Int.not_lt.mpr (Int.le_of_lt negative), decide_false,
          Bool.false_eq_true, if_false]
        refine iff_of_true (agree_of_failures negative negative rfl) ?_
        exact fun infos left loads => absurd ⟨infos, left, loads⟩ neverLoads
  | tryAll =>
      rcases Classical.em (∃ infos left, openssl.PemLoads buffer (openssl.opened store) infos
        left) with ⟨infos, left, loads⟩ | neverLoads
      · rw [OpenSsl.Agreeing, loads.forall_iff]
        exact agree_tryAll_of_loads loads
      · have negative := afterFailure neverLoads
        rw [OpenSsl.loadCACert_tryAll, OpenSsl.loadCACert_tryAll]
        simp only [Int.ne_of_lt negative, Int.not_lt.mpr (Int.le_of_lt negative), decide_false,
          Bool.false_eq_true, if_false]
        refine iff_of_true (agree_der openssl buffer _) ?_
        exact fun infos left loads => absurd ⟨infos, left, loads⟩ neverLoads

end Agreement

/-- OpenSSL on a buffer with one certificate, in PEM. Stores are lists of
numbered certificates. -/
def oneCertificate : OpenSsl (List Nat) Nat Nat where
  clearCheckTime := id
  bioForPem := fun _ => true
  bioForDer := fun _ => true
  readPem := fun _ => some [⟨some 7, none⟩]
  readDer := fun _ => none
  addCert := fun store certificate =>
    some (if certificate ∈ store then store else store ++ [certificate])
  addCrl := fun store _ => some store

theorem loadCACert_agree_iff_oneCertificate :
    Agree (PicotlsBackend.loadCACert oneCertificate none (some []) [45] .tryAll)
        (BoringsslBackend.loadCACert oneCertificate [] [45] .tryAll) ↔
      oneCertificate.Agreeing [45] .tryAll [] :=
  loadCACert_agree_iff oneCertificate rfl [45] .tryAll

/-- The picotls backend takes one entry for a failure and returns a negative
value, though the certificate is in the store. -/
theorem oneCertificate_differs :
    ¬(∀ (openssl : OpenSsl (List Nat) Nat Nat) (trustedStore created : Option (List Nat))
      (store : List Nat) (buffer : List UInt8) (format : X509LoadFormat),
      trustedStore.or created = some store →
      Agree (PicotlsBackend.loadCACert openssl trustedStore created buffer format)
        (BoringsslBackend.loadCACert openssl store buffer format)) := by
  intro all
  have agree := all oneCertificate none (some []) [] [45] .tryAll rfl
  have picotls :
      (PicotlsBackend.loadCACert oneCertificate none (some []) [45] .tryAll).1 = -1 := by
    decide
  have boringssl :
      (BoringsslBackend.loadCACert oneCertificate [] [45] .tryAll).1 = 0 := by
    decide
  have verdict := agree.verdict
  rw [picotls, boringssl] at verdict
  exact absurd verdict (by decide)

end PigweedExperimental.Tls
