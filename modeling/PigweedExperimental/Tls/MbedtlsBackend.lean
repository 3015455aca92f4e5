import PigweedExperimental.Tls.ClientSession

namespace PigweedExperimental.Tls

/-! # `MbedtlsBackend` -/

/-- The functions of mbedtls that the backend calls. -/
inductive MbedtlsCall where
  | sslSetHostname (host : String)
  | entropyAddSource
  | ctrDrbgSeed (custom : List UInt8)
  | sslConfigDefaults
  | sslConfAuthmode
  | sslConfCaChain
  | sslConfRng
  | sslSetup
  | sslHandshake
  | sslGetVerifyResult
  | sslWrite (bytes : List UInt8)
  | sslRead (size : Nat)
  | x509CrtParse (buffer : List UInt8)
  | x509CrtParseDer (buffer : List UInt8)
  | x509CrlParse (buffer : List UInt8)
  | x509CrlParseDer (buffer : List UInt8)
  deriving Repr, DecidableEq

namespace Mbedtls

section Functions

def setHostName (host : String) : ClientSession MbedtlsCall Int := do
  let ret ← library (.sslSetHostname host)
  if ret.value ≠ 0 then pure (-1) else pure 0

/-- The part of `personalization_string` that is used. `sizeof` counts the bytes of the
pointer, of which there are four. -/
def personalization : List UInt8 :=
  ("ssl_client".toList.map fun c => UInt8.ofNat c.toNat).take (4 - 1)

def setup : ClientSession MbedtlsCall Int := do
  let _ ← library .entropyAddSource
  let seeded ← library (.ctrDrbgSeed personalization)
  if seeded.value ≠ 0 then
    pure (-1)
  else do
    let configured ← library .sslConfigDefaults
    if configured.value ≠ 0 then
      pure (-1)
    else do
      let _ ← library .sslConfAuthmode
      let _ ← library .sslConfCaChain
      let _ ← library .sslConfRng
      let ret ← library .sslSetup
      if ret.value ≠ 0 then pure (-1) else pure 0

/-- The two blocks of `LoadCACert` and of `LoadCrl`. -/
def loadDer (parseDer : List UInt8 → MbedtlsCall) (buffer : List UInt8)
    (format : X509LoadFormat) : ClientSession MbedtlsCall Int :=
  if format = .der ∨ format = .tryAll then do
    let ret ← library (parseDer buffer)
    if ret.value = 0 then
      pure 0
    else if format = .der then
      pure ret.value
    else
      pure (-1)
  else
    pure (-1)

def load (parse parseDer : List UInt8 → MbedtlsCall) (buffer : List UInt8)
    (format : X509LoadFormat) : ClientSession MbedtlsCall Int :=
  if format = .pem ∨ format = .tryAll then do
    let ret ← library (parse buffer)
    if ret.value = 0 then
      pure 0
    else if format = .pem then
      pure ret.value
    else
      loadDer parseDer buffer format
  else
    loadDer parseDer buffer format

def loadCACert (buffer : List UInt8) (format : X509LoadFormat) : ClientSession MbedtlsCall Int :=
  load .x509CrtParse .x509CrtParseDer buffer format

def loadCrl (buffer : List UInt8) (format : X509LoadFormat) : ClientSession MbedtlsCall Int :=
  load .x509CrlParse .x509CrlParseDer buffer format

/-- `MBEDTLS_ERR_SSL_WANT_READ` and `MBEDTLS_ERR_SSL_WANT_WRITE`, which ask for the
same call once more. -/
structure Wants where
  read : Int
  write : Int

variable (wants : Wants)

def handshakeRound : ClientSession MbedtlsCall (Option Int) := do
  let ret ← library .sslHandshake
  if ret.value = 0 then
    pure (some 0)
  else if ret.value ≠ wants.read ∧ ret.value ≠ wants.write then
    pure (some (-1))
  else
    pure none

/-- The end of the handshake. -/
def checkVerification : ClientSession MbedtlsCall Int := do
  let flags ← library .sslGetVerifyResult
  if flags.value ≠ 0 then pure (-1) else pure 0

def handshake : ClientSession MbedtlsCall Int := do
  let isSetUp ← setup
  if isSetUp < 0 then
    pure (-1)
  else do
    let ret ← .loop (handshakeRound wants)
    if ret < 0 then pure (-1) else checkVerification

def writeRound (bytes : List UInt8) : ClientSession MbedtlsCall (Option Int) := do
  let ret ← library (.sslWrite bytes)
  if ret.value ≤ 0 then
    if ret.value ≠ wants.read ∧ ret.value ≠ wants.write then
      pure (some (-1))
    else
      pure none
  else
    pure (some (staticCastInt bytes.length))

def write (bytes : List UInt8) : ClientSession MbedtlsCall Int := .loop (writeRound wants bytes)

def readRound (size : Nat) : ClientSession MbedtlsCall (Option Answer) := do
  let ret ← library (.sslRead size)
  if ret.value < 0 then
    if ret.value = wants.read ∨ ret.value = wants.write then
      pure none
    else
      pure (some { ret with value := -1 })
  else
    pure (some ret)

def read (size : Nat) : ClientSession MbedtlsCall Answer := .loop (readRound wants size)

/-- `MbedtlsBackend` -/
def backend : TlsInterface MbedtlsCall where
  setHostName := setHostName
  handshake := handshake wants
  write := write wants
  read := read wants
  loadCACert := loadCACert
  loadCrl := loadCrl

end Functions

/-- A file in PEM is read with one function, in DER with another. -/
def Parses (parse parseDer : List UInt8 → MbedtlsCall) (buffer : List UInt8)
    (events : History MbedtlsCall) : Prop :=
  ∃ answer, answer.value = 0 ∧
    (events = [(.library (parse buffer), answer)] ∨
      events = [(.library (parseDer buffer), answer)])

def usage (wants : Wants) : Usage MbedtlsCall where
  stage
    | .sslSetHostname _ | .x509CrtParse _ | .x509CrtParseDer _ | .x509CrlParse _
    | .x509CrlParseDer _ => .connected
    | .entropyAddSource | .ctrDrbgSeed _ | .sslConfigDefaults | .sslConfAuthmode
    | .sslConfCaChain | .sslConfRng | .sslSetup | .sslHandshake | .sslGetVerifyResult =>
        .trusting
    | .sslWrite _ => .secured
    | .sslRead _ => .listening
  Fatal
    | .sslSetHostname _, answer | .ctrDrbgSeed _, answer | .sslConfigDefaults, answer
    | .sslSetup, answer | .sslGetVerifyResult, answer | .x509CrtParseDer _, answer
    | .x509CrlParseDer _, answer => answer.value ≠ 0
    | .sslHandshake, answer =>
        answer.value ≠ 0 ∧ answer.value ≠ wants.read ∧ answer.value ≠ wants.write
    | .sslWrite _, answer =>
        answer.value ≤ 0 ∧ answer.value ≠ wants.read ∧ answer.value ≠ wants.write
    | .sslRead _, answer =>
        answer.value < 0 ∧ answer.value ≠ wants.read ∧ answer.value ≠ wants.write
    | .entropyAddSource, _ | .sslConfAuthmode, _ | .sslConfCaChain, _ | .sslConfRng, _
    | .x509CrtParse _, _ | .x509CrlParse _, _ => False
  received
    | .sslRead _, answer => answer.buffer.take answer.value.toNat
    | _, _ => []
  Names host events :=
    ∃ answer, answer.value = 0 ∧ events = [(.library (.sslSetHostname host), answer)]
  Trusts := Parses .x509CrtParse .x509CrtParseDer
  Revokes := Parses .x509CrlParse .x509CrlParseDer
  Verifies events :=
    ∃ finished verified, finished.value = 0 ∧ verified.value = 0 ∧
      events = [(.library .sslHandshake, finished), (.library .sslGetVerifyResult, verified)]
  Sends bytes events := ∃ answer, 0 < answer.value ∧
    events = [(.library (.sslWrite bytes), answer)]

variable {wants : Wants} {certs : List (List UInt8)} {crls : Option (List UInt8)}

theorem meets_setHostName (host : String) :
    Dialogue.Meets ((usage wants).rules certs crls) ((usage wants).Good certs crls .connected)
      (setHostName host)
      ((usage wants).After certs crls .connected ((usage wants).Names host)) := by
  apply (usage wants).meets_checked (.sslSetHostname host) (fun _ => rfl) fun _ => Iff.rfl
  apply Dialogue.meets_pure
  rintro past ⟨good, before, answer, isZero, rfl⟩
  exact Usage.orEnds_of_holds (Int.le_refl 0) ⟨good, happened_last ⟨answer, isZero, rfl⟩⟩

theorem meets_setup :
    Dialogue.Meets ((usage wants).rules certs crls) ((usage wants).Good certs crls .trusting)
      setup ((usage wants).OrEnds ((usage wants).Good certs crls .trusting)) := by
  apply (usage wants).meets_ignored .entropyAddSource (fun _ => rfl) fun _ => id
  apply Dialogue.Meets.weaken _ (fun _ both => both.1) fun _ _ => id
  apply (usage wants).meets_checked (.ctrDrbgSeed personalization) (fun _ => rfl) fun _ => Iff.rfl
  apply Dialogue.Meets.weaken _ (fun _ both => both.1) fun _ _ => id
  apply (usage wants).meets_checked .sslConfigDefaults (fun _ => rfl) fun _ => Iff.rfl
  apply Dialogue.Meets.weaken _ (fun _ both => both.1) fun _ _ => id
  apply (usage wants).meets_ignored .sslConfAuthmode (fun _ => rfl) fun _ => id
  apply Dialogue.Meets.weaken _ (fun _ both => both.1) fun _ _ => id
  apply (usage wants).meets_ignored .sslConfCaChain (fun _ => rfl) fun _ => id
  apply Dialogue.Meets.weaken _ (fun _ both => both.1) fun _ _ => id
  apply (usage wants).meets_ignored .sslConfRng (fun _ => rfl) fun _ => id
  apply Dialogue.Meets.weaken _ (fun _ both => both.1) fun _ _ => id
  apply (usage wants).meets_checked .sslSetup (fun _ => rfl) fun _ => Iff.rfl
  apply Dialogue.meets_pure
  rintro past ⟨good, _⟩
  exact Usage.orEnds_of_holds (Int.le_refl 0) good

/-- The handshake has just been finished. -/
def Finished (past : History MbedtlsCall) : Prop :=
  ∃ before finished, finished.value = 0 ∧ past = before ++ [(.library .sslHandshake, finished)]

theorem meets_handshakeRound :
    Dialogue.Meets ((usage wants).rules certs crls) ((usage wants).Good certs crls .trusting)
      (handshakeRound wants) fun result past =>
        result.elim ((usage wants).Good certs crls .trusting past)
          ((usage wants).OrEnds
            (fun past => (usage wants).Good certs crls .trusting past ∧ Finished past) · past) := by
  apply ((usage wants).meets_call .sslHandshake fun _ => rfl).bind
  intro ret
  split
  · rename_i isZero
    apply Dialogue.meets_pure
    rintro past ⟨_, good, before, isPast⟩
    rw [Option.elim_some]
    exact Usage.orEnds_of_holds (Int.le_refl 0)
      ⟨good fun fatal => fatal.1 isZero, before, ret, isZero, isPast⟩
  · rename_i nonzero
    split
    · rename_i fails
      apply Dialogue.meets_pure
      rintro past ⟨ends, _⟩
      rw [Option.elim_some]
      exact Usage.orEnds_of_ends (by decide) (ends ⟨nonzero, fails⟩)
    · rename_i wanted
      apply Dialogue.meets_pure
      rintro past ⟨_, good, _⟩
      exact good fun fatal => wanted fatal.2

theorem meets_checkVerification :
    Dialogue.Meets ((usage wants).rules certs crls)
      (fun past => (usage wants).Good certs crls .trusting past ∧ Finished past)
      checkVerification
      ((usage wants).After certs crls .trusting (usage wants).Verifies) := by
  apply ((usage wants).meets_call .sslGetVerifyResult fun _ => rfl).before.bind
  intro flags
  split
  · rename_i fails
    apply Dialogue.meets_pure
    rintro past ⟨⟨ends, _⟩, _⟩
    exact Usage.orEnds_of_ends (by decide) (ends fails)
  · rename_i verified
    apply Dialogue.meets_pure
    rintro past ⟨⟨_, good, _⟩, _, ⟨before, finished, isZero, rfl⟩, rfl⟩
    refine Usage.orEnds_of_holds (Int.le_refl 0) ⟨good verified, ?_⟩
    rw [List.append_assoc]
    exact happened_last ⟨finished, flags, isZero, not_not.mp verified, rfl⟩

theorem meets_handshake :
    Dialogue.Meets ((usage wants).rules certs crls) ((usage wants).Good certs crls .trusting)
      (handshake wants) ((usage wants).After certs crls .trusting (usage wants).Verifies) := by
  apply meets_setup.bind
  intro isSetUp
  split
  · rename_i fails
    apply Dialogue.meets_pure
    exact fun past orEnds => Usage.orEnds_of_ends (by decide) (orEnds.ends fails)
  · rename_i succeeds
    have progresses : (handshakeRound wants).Progresses := by
      apply (Dialogue.progresses_ask _).bind
      intro ret
      split
      · exact Dialogue.steady_finish _
      · split <;> exact Dialogue.steady_finish _
    apply ((Dialogue.Meets.loop progresses meets_handshakeRound).weaken
      (fun past orEnds => orEnds.holds succeeds) fun _ _ => id).bind
    intro ret
    split
    · rename_i fails
      apply Dialogue.meets_pure
      exact fun past orEnds => Usage.orEnds_of_ends (by decide) (orEnds.ends fails)
    · rename_i finished
      exact meets_checkVerification.weaken (fun past orEnds => orEnds.holds finished) fun _ _ => id

theorem meets_writeRound {bytes : List UInt8} (fits : 0 ≤ staticCastInt bytes.length) :
    Dialogue.Meets ((usage wants).rules certs crls) ((usage wants).Good certs crls .secured)
      (writeRound wants bytes) fun result past =>
        result.elim ((usage wants).Good certs crls .secured past)
          ((usage wants).After certs crls .secured ((usage wants).Sends bytes) · past) := by
  rw [writeRound]
  generalize staticCastInt bytes.length = status at fits ⊢
  apply ((usage wants).meets_call (.sslWrite bytes) fun _ => rfl).bind
  intro ret
  split
  · rename_i notPositive
    split
    · rename_i fails
      apply Dialogue.meets_pure
      rintro past ⟨ends, _⟩
      rw [Option.elim_some]
      exact Usage.orEnds_of_ends (by decide) (ends ⟨notPositive, fails⟩)
    · rename_i wanted
      apply Dialogue.meets_pure
      rintro past ⟨_, good, _⟩
      exact good fun fatal => wanted fatal.2
  · rename_i positive
    apply Dialogue.meets_pure
    rintro past ⟨_, good, before, isPast⟩
    rw [Option.elim_some]
    apply Usage.orEnds_of_holds fits
    refine ⟨good fun fatal => positive fatal.1, ?_⟩
    rw [isPast]
    exact happened_last ⟨ret, Int.not_le.mp positive, rfl⟩

theorem meets_readRound (size : Nat) :
    Dialogue.Meets ((usage wants).rules certs crls) ((usage wants).Good certs crls .listening)
      (readRound wants size) fun result past =>
        result.elim ((usage wants).Good certs crls .listening past) fun read =>
          (usage wants).OrEnds ((usage wants).Due certs crls .listening
            (read.buffer.take read.value.toNat)) read.value past := by
  apply (@Usage.meets_library _ (usage wants) _ _ (.sslRead size) _ fun _ => id).bind
  intro ret
  split
  · rename_i negative
    split
    · rename_i wanted
      apply Dialogue.meets_pure
      rintro past ⟨_, due, _⟩
      have nothing : ret.buffer.take ret.value.toNat = [] := by
        rw [Int.toNat_of_nonpos (Int.le_of_lt negative), List.take_zero]
      rw [Option.elim_none, Usage.Good, ← nothing]
      exact due fun fatal => wanted.elim fatal.2.1 fatal.2.2
    · rename_i unwanted
      apply Dialogue.meets_pure
      rintro past ⟨ends, _⟩
      have minusOne : (-1 : Int) < 0 := by decide
      rw [Option.elim_some]
      exact Usage.orEnds_of_ends minusOne (ends ⟨negative, not_or.mp unwanted⟩)
  · rename_i positive
    apply Dialogue.meets_pure
    rintro past ⟨_, due, _⟩
    rw [Option.elim_some]
    exact Usage.orEnds_of_holds (Int.not_lt.mp positive) (due fun fatal => positive fatal.1)

theorem meets_loadDer {parseDer : List UInt8 → MbedtlsCall} {buffer : List UInt8}
    {parse : List UInt8 → MbedtlsCall}
    (isStage : (usage wants).stage (parseDer buffer) = .connected)
    (quiet : ∀ answer, (usage wants).received (parseDer buffer) answer = [])
    (fatal_iff : ∀ answer, (usage wants).Fatal (parseDer buffer) answer ↔ answer.value ≠ 0) :
    Dialogue.Meets ((usage wants).rules certs crls) ((usage wants).Good certs crls .connected)
      (loadDer parseDer buffer .tryAll)
      ((usage wants).After certs crls .connected (Parses parse parseDer buffer)) := by
  rw [loadDer, if_pos (.inr rfl), ← isStage]
  apply ((usage wants).meets_call (parseDer buffer) quiet).bind
  intro ret
  split
  · rename_i succeeds
    apply Dialogue.meets_pure
    rintro past ⟨_, good, before, isPast⟩
    refine Usage.orEnds_of_holds (Int.le_refl 0)
      ⟨good fun fatal => (fatal_iff ret).mp fatal succeeds, ?_⟩
    rw [isPast]
    exact happened_last ⟨ret, succeeds, .inr rfl⟩
  · rename_i fails
    apply Dialogue.meets_pure
    rintro past ⟨ends, _⟩
    exact Usage.orEnds_of_ends (by decide) (ends ((fatal_iff ret).mpr fails))

theorem meets_load {parse parseDer : List UInt8 → MbedtlsCall} {buffer : List UInt8}
    (isStage : (usage wants).stage (parse buffer) = .connected)
    (quiet : ∀ answer, (usage wants).received (parse buffer) answer = [])
    (neverFatal : ∀ answer, ¬(usage wants).Fatal (parse buffer) answer)
    (meets : Dialogue.Meets ((usage wants).rules certs crls)
      ((usage wants).Good certs crls .connected) (loadDer parseDer buffer .tryAll)
      ((usage wants).After certs crls .connected (Parses parse parseDer buffer))) :
    Dialogue.Meets ((usage wants).rules certs crls) ((usage wants).Good certs crls .connected)
      (load parse parseDer buffer .tryAll)
      ((usage wants).After certs crls .connected (Parses parse parseDer buffer)) := by
  rw [load, if_pos (.inr rfl)]
  rw [← isStage] at meets ⊢
  apply ((usage wants).meets_call (parse buffer) quiet).bind
  intro ret
  split
  · rename_i succeeds
    apply Dialogue.meets_pure
    rintro past ⟨_, good, before, isPast⟩
    refine Usage.orEnds_of_holds (Int.le_refl 0) ⟨good (neverFatal ret), ?_⟩
    rw [isPast]
    exact happened_last ⟨ret, succeeds, .inl rfl⟩
  · exact meets.weaken (fun past result => result.2.1 (neverFatal ret)) fun _ _ => id

theorem progresses_writeRound (bytes : List UInt8) : (writeRound wants bytes).Progresses := by
  apply (Dialogue.progresses_ask _).bind
  intro ret
  split
  · split <;> exact Dialogue.steady_finish _
  · exact Dialogue.steady_finish _

theorem progresses_readRound (size : Nat) : (readRound wants size).Progresses := by
  apply (Dialogue.progresses_ask _).bind
  intro ret
  split
  · split <;> exact Dialogue.steady_finish _
  · exact Dialogue.steady_finish _

theorem serves : (usage wants).Serves certs crls (backend wants) where
  setHostName := meets_setHostName
  loadCACert _ := meets_load rfl (fun _ => rfl) (fun _ => id)
    (meets_loadDer rfl (fun _ => rfl) fun _ => Iff.rfl)
  loadCrl _ := meets_load rfl (fun _ => rfl) (fun _ => id)
    (meets_loadDer rfl (fun _ => rfl) fun _ => Iff.rfl)
  handshake := meets_handshake
  write := Dialogue.Meets.loop (progresses_writeRound httpsRequest) (meets_writeRound (by decide))
  read size := Dialogue.Meets.loop (progresses_readRound size) (meets_readRound size)
  readProgresses size := Dialogue.progresses_loop (progresses_readRound size)

end Mbedtls

end PigweedExperimental.Tls
