import PigweedExperimental.Tls.ClientSession

namespace PigweedExperimental.Tls

/-! # `BoringsslBackend`

A file is loaded with one of the two helpers, whose results count here. -/

/-- The functions of BoringSSL that the backend calls, with the two helpers. -/
inductive BoringsslCall where
  | setTlsextHostName (host : String)
  | clearCheckTime
  | setCrlCheck
  | loadCACertCrlsPEMFormat (buffer : List UInt8)
  | loadCACertCrlDERFormat (buffer : List UInt8)
  | sslConnect
  | sslGetError (ret : Int)
  | sslGetVerifyResult
  | sslWrite (bytes : List UInt8)
  | sslRead (size : Nat)
  deriving Repr, DecidableEq

namespace Boringssl

section Functions

def setHostName (host : String) : ClientSession BoringsslCall Int := do
  let _ ← library (.setTlsextHostName host)
  pure 0

/-- The second block of `LoadCACert`. -/
def loadDer (buffer : List UInt8) (format : X509LoadFormat) : ClientSession BoringsslCall Int :=
  if format = .der ∨ format = .tryAll then do
    let ret ← library (.loadCACertCrlDERFormat buffer)
    if ret.value = 0 then
      pure 0
    else if format = .der then
      pure ret.value
    else
      pure (-1)
  else
    pure (-1)

def loadCACert (buffer : List UInt8) (format : X509LoadFormat) :
    ClientSession BoringsslCall Int := do
  let _ ← library .clearCheckTime
  if format = .pem ∨ format = .tryAll then do
    let ret ← library (.loadCACertCrlsPEMFormat buffer)
    if 0 < ret.value then
      pure 0
    else if format = .pem then
      pure ret.value
    else
      loadDer buffer format
  else
    loadDer buffer format

def loadCrl (buffer : List UInt8) (format : X509LoadFormat) : ClientSession BoringsslCall Int := do
  let _ ← library .setCrlCheck
  loadCACert buffer format

/-- `SSL_ERROR_WANT_READ`, which asks for the same call once more. -/
structure WantRead where
  error : Int

variable (wantRead : WantRead)

def handshakeRound : ClientSession BoringsslCall (Option Int) := do
  let ret ← library .sslConnect
  if ret.value = 1 then
    pure (some 0)
  else do
    let error ← library (.sslGetError ret.value)
    if error.value ≠ wantRead.error then pure (some (-1)) else pure none

/-- The end of the handshake. -/
def checkVerification : ClientSession BoringsslCall Int := do
  let result ← library .sslGetVerifyResult
  if result.value ≠ 0 then pure (-1) else pure 0

def handshake : ClientSession BoringsslCall Int := do
  let ret ← .loop (handshakeRound wantRead)
  if ret < 0 then pure (-1) else checkVerification

def write (bytes : List UInt8) : ClientSession BoringsslCall Int := do
  let ret ← library (.sslWrite bytes)
  if ret.value ≤ 0 then pure (-1) else pure (staticCastInt bytes.length)

def readRound (size : Nat) : ClientSession BoringsslCall (Option Answer) := do
  let ret ← library (.sslRead size)
  if ret.value < 0 then do
    let error ← library (.sslGetError ret.value)
    if error.value = wantRead.error then pure none else pure (some { ret with value := -1 })
  else
    pure (some ret)

def read (size : Nat) : ClientSession BoringsslCall Answer := .loop (readRound wantRead size)

/-- `BoringsslBackend` -/
def backend : TlsInterface BoringsslCall where
  setHostName := setHostName
  handshake := handshake wantRead
  write := write
  read := read wantRead
  loadCACert := loadCACert
  loadCrl := loadCrl

end Functions

/-- One of the helpers takes a buffer. -/
def Loads (buffer : List UInt8) (events : History BoringsslCall) : Prop :=
  ∃ answer, 0 < answer.value ∧
      events = [(.library (.loadCACertCrlsPEMFormat buffer), answer)] ∨
    answer.value = 0 ∧ events = [(.library (.loadCACertCrlDERFormat buffer), answer)]

/-- Whether the host name was taken is not asked. -/
def usage (wantRead : WantRead) : Usage BoringsslCall where
  stage
    | .setTlsextHostName _ | .clearCheckTime | .setCrlCheck | .loadCACertCrlsPEMFormat _
    | .loadCACertCrlDERFormat _ => .connected
    | .sslConnect | .sslGetError _ | .sslGetVerifyResult => .trusting
    | .sslWrite _ => .secured
    | .sslRead _ => .listening
  Fatal
    | .loadCACertCrlDERFormat _, answer | .sslGetVerifyResult, answer => answer.value ≠ 0
    | .sslGetError _, answer => answer.value ≠ wantRead.error
    | .sslWrite _, answer => answer.value ≤ 0
    | .setTlsextHostName _, _ | .clearCheckTime, _ | .setCrlCheck, _
    | .loadCACertCrlsPEMFormat _, _ | .sslConnect, _ | .sslRead _, _ => False
  received
    | .sslRead _, answer => answer.buffer.take answer.value.toNat
    | _, _ => []
  Names host events := ∃ answer, events = [(.library (.setTlsextHostName host), answer)]
  Trusts := Loads
  Revokes buffer events :=
    (∃ answer, (.library .setCrlCheck, answer) ∈ events) ∧ Happened (Loads buffer) events
  Verifies events :=
    ∃ finished verified, finished.value = 1 ∧ verified.value = 0 ∧
      events = [(.library .sslConnect, finished), (.library .sslGetVerifyResult, verified)]
  Sends bytes events := ∃ answer, 0 < answer.value ∧
    events = [(.library (.sslWrite bytes), answer)]

variable {wantRead : WantRead} {certs : List (List UInt8)} {crls : Option (List UInt8)}

theorem meets_setHostName (host : String) :
    Dialogue.Meets ((usage wantRead).rules certs crls)
      ((usage wantRead).Good certs crls .connected) (setHostName host)
      ((usage wantRead).After certs crls .connected ((usage wantRead).Names host)) := by
  apply (usage wantRead).meets_ignored (.setTlsextHostName host) (fun _ => rfl) fun _ => id
  apply Dialogue.meets_pure
  rintro past ⟨good, before, answer, rfl⟩
  exact Usage.orEnds_of_holds (Int.le_refl 0) ⟨good, happened_last ⟨answer, rfl⟩⟩

theorem meets_loadDer (buffer : List UInt8) :
    Dialogue.Meets ((usage wantRead).rules certs crls)
      ((usage wantRead).Good certs crls .connected) (loadDer buffer .tryAll)
      ((usage wantRead).After certs crls .connected (Loads buffer)) := by
  rw [loadDer, if_pos (.inr rfl)]
  apply ((usage wantRead).meets_call (.loadCACertCrlDERFormat buffer) fun _ => rfl).bind
  intro ret
  split
  · rename_i succeeds
    apply Dialogue.meets_pure
    rintro past ⟨_, good, before, isPast⟩
    refine Usage.orEnds_of_holds (Int.le_refl 0) ⟨good fun fatal => fatal succeeds, ?_⟩
    rw [isPast]
    exact happened_last ⟨ret, .inr ⟨succeeds, rfl⟩⟩
  · rename_i fails
    apply Dialogue.meets_pure
    rintro past ⟨ends, _⟩
    exact Usage.orEnds_of_ends (by decide) (ends fails)

theorem meets_loadCACert (buffer : List UInt8) :
    Dialogue.Meets ((usage wantRead).rules certs crls)
      ((usage wantRead).Good certs crls .connected) (loadCACert buffer .tryAll)
      ((usage wantRead).After certs crls .connected (Loads buffer)) := by
  apply (usage wantRead).meets_ignored .clearCheckTime (fun _ => rfl) fun _ => id
  apply Dialogue.Meets.weaken _ (fun _ both => both.1) fun _ _ => id
  rw [if_pos (.inr rfl)]
  apply ((usage wantRead).meets_call (.loadCACertCrlsPEMFormat buffer) fun _ => rfl).bind
  intro ret
  split
  · rename_i succeeds
    apply Dialogue.meets_pure
    rintro past ⟨_, good, before, isPast⟩
    refine Usage.orEnds_of_holds (Int.le_refl 0) ⟨good id, ?_⟩
    rw [isPast]
    exact happened_last ⟨ret, .inl ⟨succeeds, rfl⟩⟩
  · exact (meets_loadDer buffer).weaken (fun past result => result.2.1 id) fun _ _ => id

theorem meets_loadCrl (buffer : List UInt8) :
    Dialogue.Meets ((usage wantRead).rules certs crls)
      ((usage wantRead).Good certs crls .connected) (loadCrl buffer .tryAll)
      ((usage wantRead).After certs crls .connected ((usage wantRead).Revokes buffer)) := by
  apply (usage wantRead).meets_ignored .setCrlCheck (fun _ => rfl) fun _ => id
  have stays (past more : History BoringsslCall)
      (enabled : ∃ answer, (.library .setCrlCheck, answer) ∈ past) :
      ∃ answer, (.library .setCrlCheck, answer) ∈ past ++ more :=
    enabled.imp fun _ => List.mem_append_left more
  apply ((meets_loadCACert buffer).frame stays).weaken
  · rintro past ⟨good, before, answer, rfl⟩
    exact ⟨good, answer, List.mem_append_right before List.mem_cons_self⟩
  · rintro status past ⟨after, enabled⟩
    apply after.imp
    rintro ⟨good, loads⟩
    exact ⟨good, [], past, [], (List.append_nil past).symm, enabled, loads⟩

/-- The handshake has just been finished. -/
def Finished (past : History BoringsslCall) : Prop :=
  ∃ before finished, finished.value = 1 ∧ past = before ++ [(.library .sslConnect, finished)]

theorem meets_handshakeRound :
    Dialogue.Meets ((usage wantRead).rules certs crls)
      ((usage wantRead).Good certs crls .trusting) (handshakeRound wantRead) fun result past =>
        result.elim ((usage wantRead).Good certs crls .trusting past)
          ((usage wantRead).OrEnds
            (fun past => (usage wantRead).Good certs crls .trusting past ∧ Finished past) ·
            past) := by
  apply ((usage wantRead).meets_call .sslConnect fun _ => rfl).bind
  intro ret
  split
  · rename_i connected
    apply Dialogue.meets_pure
    rintro past ⟨_, good, before, isPast⟩
    rw [Option.elim_some]
    exact Usage.orEnds_of_holds (Int.le_refl 0) ⟨good id, before, ret, connected, isPast⟩
  · apply Dialogue.Meets.weaken _ (fun past result => result.2.1 id) fun _ _ => id
    apply ((usage wantRead).meets_call (.sslGetError ret.value) fun _ => rfl).bind
    intro error
    split
    · rename_i fails
      apply Dialogue.meets_pure
      rintro past ⟨ends, _⟩
      rw [Option.elim_some]
      exact Usage.orEnds_of_ends (by decide) (ends fails)
    · rename_i wanted
      apply Dialogue.meets_pure
      rintro past ⟨_, good, _⟩
      exact good wanted

theorem meets_checkVerification :
    Dialogue.Meets ((usage wantRead).rules certs crls)
      (fun past => (usage wantRead).Good certs crls .trusting past ∧ Finished past)
      checkVerification
      ((usage wantRead).After certs crls .trusting (usage wantRead).Verifies) := by
  apply ((usage wantRead).meets_call .sslGetVerifyResult fun _ => rfl).before.bind
  intro result
  split
  · rename_i fails
    apply Dialogue.meets_pure
    rintro past ⟨⟨ends, _⟩, _⟩
    exact Usage.orEnds_of_ends (by decide) (ends fails)
  · rename_i verified
    apply Dialogue.meets_pure
    rintro past ⟨⟨_, good, _⟩, _, ⟨before, finished, connected, rfl⟩, rfl⟩
    refine Usage.orEnds_of_holds (Int.le_refl 0) ⟨good verified, ?_⟩
    rw [List.append_assoc]
    exact happened_last ⟨finished, result, connected, not_not.mp verified, rfl⟩

theorem progresses_handshakeRound : (handshakeRound wantRead).Progresses := by
  apply (Dialogue.progresses_ask _).bind
  intro ret
  split
  · exact Dialogue.steady_finish _
  · apply (Dialogue.progresses_ask _).steady.bind
    intro error
    split <;> exact Dialogue.steady_finish _

theorem meets_handshake :
    Dialogue.Meets ((usage wantRead).rules certs crls)
      ((usage wantRead).Good certs crls .trusting) (handshake wantRead)
      ((usage wantRead).After certs crls .trusting (usage wantRead).Verifies) := by
  apply (Dialogue.Meets.loop progresses_handshakeRound meets_handshakeRound).bind
  intro ret
  split
  · rename_i fails
    apply Dialogue.meets_pure
    exact fun past orEnds => Usage.orEnds_of_ends (by decide) (orEnds.ends fails)
  · rename_i finished
    exact meets_checkVerification.weaken (fun past orEnds => orEnds.holds finished) fun _ _ => id

theorem meets_write {bytes : List UInt8} (fits : 0 ≤ staticCastInt bytes.length) :
    Dialogue.Meets ((usage wantRead).rules certs crls)
      ((usage wantRead).Good certs crls .secured) (write bytes)
      ((usage wantRead).After certs crls .secured ((usage wantRead).Sends bytes)) := by
  rw [write]
  generalize staticCastInt bytes.length = status at fits ⊢
  apply ((usage wantRead).meets_call (.sslWrite bytes) fun _ => rfl).bind
  intro ret
  split
  · rename_i fails
    apply Dialogue.meets_pure
    rintro past ⟨ends, _⟩
    exact Usage.orEnds_of_ends (by decide) (ends fails)
  · rename_i positive
    apply Dialogue.meets_pure
    rintro past ⟨_, good, before, isPast⟩
    refine Usage.orEnds_of_holds fits ⟨good positive, ?_⟩
    rw [isPast]
    exact happened_last ⟨ret, Int.not_le.mp positive, rfl⟩

theorem meets_readRound (size : Nat) :
    Dialogue.Meets ((usage wantRead).rules certs crls)
      ((usage wantRead).Good certs crls .listening) (readRound wantRead size) fun result past =>
        result.elim ((usage wantRead).Good certs crls .listening past) fun read =>
          (usage wantRead).OrEnds ((usage wantRead).Due certs crls .listening
            (read.buffer.take read.value.toNat)) read.value past := by
  apply (@Usage.meets_library _ (usage wantRead) _ _ (.sslRead size) _ fun _ => id).bind
  intro ret
  split
  · rename_i negative
    have nothing : ret.buffer.take ret.value.toNat = [] := by
      rw [Int.toNat_of_nonpos (Int.le_of_lt negative), List.take_zero]
    have nothingDue (past : History BoringsslCall)
        (due : (usage wantRead).Due certs crls .listening
          (ret.buffer.take ret.value.toNat) past) :
        (usage wantRead).Good certs crls .listening past := by
      rwa [nothing] at due
    have asksError := @Usage.meets_library _ (usage wantRead) certs crls
      (.sslGetError ret.value) .listening fun past reached => reached.1
    apply (asksError.weaken (fun past result => nothingDue past (result.2.1 id))
      fun _ _ => id).bind
    intro error
    split
    · rename_i wanted
      apply Dialogue.meets_pure
      rintro past ⟨_, good, _⟩
      exact good (not_not.mpr wanted)
    · rename_i fails
      apply Dialogue.meets_pure
      rintro past ⟨ends, _⟩
      have minusOne : (-1 : Int) < 0 := by decide
      rw [Option.elim_some]
      exact Usage.orEnds_of_ends minusOne (ends fails)
  · rename_i positive
    apply Dialogue.meets_pure
    rintro past ⟨_, due, _⟩
    rw [Option.elim_some]
    exact Usage.orEnds_of_holds (Int.not_lt.mp positive) (due id)

theorem progresses_readRound (size : Nat) : (readRound wantRead size).Progresses := by
  apply (Dialogue.progresses_ask _).bind
  intro ret
  split
  · apply (Dialogue.progresses_ask _).steady.bind
    intro error
    split <;> exact Dialogue.steady_finish _
  · exact Dialogue.steady_finish _

theorem serves : (usage wantRead).Serves certs crls (backend wantRead) where
  setHostName := meets_setHostName
  loadCACert := meets_loadCACert
  loadCrl := meets_loadCrl
  handshake := meets_handshake
  write := meets_write (by decide)
  read size := Dialogue.Meets.loop (progresses_readRound size) (meets_readRound size)
  readProgresses size := Dialogue.progresses_loop (progresses_readRound size)

end Boringssl

end PigweedExperimental.Tls
