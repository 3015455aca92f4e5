import PigweedExperimental.Foundation.Dialogue
import PigweedExperimental.Tls.CertificateLoading

namespace PigweedExperimental.Tls

/-! # The client example

The example connects, sets its backend up, and then only shows what it reads. Its
backend does with a TLS library what it has to; what the network and the library answer
comes from outside.
-/

/-- What is asked of the transport, of the serial console and of the TLS library. -/
inductive Question (Call : Type) where
  | connect (ip : String) (port : Nat)
  | writeBytes (bytes : List UInt8)
  | library (call : Call)
  deriving Repr, DecidableEq

/-- The result of a call, and what it leaves in the buffer it is given. -/
structure Answer where
  value : Int
  buffer : List UInt8
  deriving Repr, DecidableEq

abbrev ClientSession (Call Result : Type) : Type := Dialogue (Question Call) Answer Result

abbrev History (Call : Type) : Type := List (Question Call × Answer)

/-- A backend. `Read` gives the buffer beside its result. -/
structure TlsInterface (Call : Type) where
  setHostName : String → ClientSession Call Int
  handshake : ClientSession Call Int
  write : List UInt8 → ClientSession Call Int
  read : Nat → ClientSession Call Answer
  loadCACert : List UInt8 → X509LoadFormat → ClientSession Call Int
  loadCrl : List UInt8 → X509LoadFormat → ClientSession Call Int

/-- A call of the library. -/
def library (call : Call) : ClientSession Call Answer := .ask (.library call)

/-- `GOOGLE_IP_ADDRESS` -/
def googleIpAddress : String := "172.217.7.228"

/-- `HTTPS_PORT` -/
def httpsPort : Nat := 443

/-- `GOOGLE_SERVER_NAME` -/
def serverName : String := "www.google.com"

/-- `HTTPS_REQUEST`, with the zero that `sizeof` counts. -/
def httpsRequest : List UInt8 :=
  "GET / HTTP/1.0\r\n\r\n".toList.map (fun c => UInt8.ofNat c.toNat) ++ [0]

/-- A negative status ends the example. -/
def orAbort (call : ClientSession Call Int) : ClientSession Call Unit := do
  let status ← call
  if status < 0 then .stop else pure ()

/-- `TransportInterface::Connect` -/
def connect : ClientSession Call Int := do
  let answer ← .ask (.connect googleIpAddress httpsPort)
  pure answer.value

def loadAll (tls : TlsInterface Call) : List (List UInt8) → ClientSession Call Unit
  | [] => pure ()
  | cert :: certs => do
      orAbort (tls.loadCACert cert .tryAll)
      loadAll tls certs

/-- The block under `CRL_CHECK`. -/
def loadCrls (tls : TlsInterface Call) : Option (List UInt8) → ClientSession Call Unit
  | none => pure ()
  | some crls => orAbort (tls.loadCrl crls .tryAll)

/-- The host name and the trusted certificates. -/
def prepare (tls : TlsInterface Call) (certs : List (List UInt8)) (crls : Option (List UInt8)) :
    ClientSession Call Unit := do
  orAbort (tls.setHostName serverName)
  loadAll tls certs
  loadCrls tls crls

/-- A round of the last loop. -/
def showResponse (tls : TlsInterface Call) : ClientSession Call (Option Empty) := do
  let read ← tls.read 4096
  if read.value < 0 then
    .stop
  else do
    let _ ← .ask (.writeBytes (read.buffer.take read.value.toNat))
    pure none

/-- `TlsClientExample`, with the certificates built in and, under `CRL_CHECK`, the
revocation lists. -/
def tlsClientExample (tls : TlsInterface Call) (certs : List (List UInt8))
    (crls : Option (List UInt8)) : ClientSession Call Empty := do
  orAbort connect
  prepare tls certs crls
  orAbort tls.handshake
  orAbort (tls.write httpsRequest)
  .loop (showResponse tls)

/-- How far the example is when a call is made. -/
inductive Stage where
  | connected
  | trusting
  | secured
  | listening
  deriving Repr, DecidableEq

/-- What the calls of a library are for. The milestones are questions, one after the
other, with their answers. -/
structure Usage (Call : Type) where
  stage : Call → Stage
  /-- There is nothing to be done after this answer. -/
  Fatal : Call → Answer → Prop
  received : Call → Answer → List UInt8
  Names : String → History Call → Prop
  Trusts : List UInt8 → History Call → Prop
  Revokes : List UInt8 → History Call → Prop
  Verifies : History Call → Prop
  Sends : List UInt8 → History Call → Prop

/-- Some milestone is in the past. -/
def Happened (Milestone : History Call → Prop) (past : History Call) : Prop :=
  ∃ before events after, past = before ++ events ++ after ∧ Milestone events

theorem Happened.append {Milestone : History Call → Prop} {past : History Call}
    (happened : Happened Milestone past) (more : History Call) :
    Happened Milestone (past ++ more) := by
  rcases happened with ⟨before, events, after, isPast, milestone⟩
  refine ⟨before, events, after ++ more, ?_, milestone⟩
  rw [isPast, List.append_assoc _ after]

/-- What came last has happened. -/
theorem happened_last {Milestone : History Call → Prop} {before events : History Call}
    (milestone : Milestone events) : Happened Milestone (before ++ events) :=
  ⟨before, events, [], (List.append_nil _).symm, milestone⟩

/-- What the console was given. -/
def shown (past : History Call) : List UInt8 :=
  past.flatMap fun event =>
    match event.1 with
    | .writeBytes bytes => bytes
    | .connect .. | .library _ => []

namespace Usage

variable (usage : Usage Call)

/-- What the calls of the library gave to show. -/
def gotten (past : History Call) : List UInt8 :=
  past.flatMap fun event =>
    match event.1 with
    | .library call => usage.received call event.2
    | .connect .. | .writeBytes _ => []

/-- The answers that end the example. -/
def Ends (event : Question Call × Answer) : Prop :=
  match event.1 with
  | .connect .. => event.2.value < 0
  | .writeBytes _ => False
  | .library call => usage.Fatal call event.2

def Connected (past : History Call) : Prop :=
  Happened (fun events => ∃ answer, 0 ≤ answer.value ∧
    events = [(.connect googleIpAddress httpsPort, answer)]) past

/-- The library knows whom to trust with whose name. -/
structure Trusting (certs : List (List UInt8)) (crls : Option (List UInt8))
    (past : History Call) : Prop where
  connected : Connected past
  names : Happened (usage.Names serverName) past
  trusts : ∀ cert ∈ certs, Happened (usage.Trusts cert) past
  revokes : ∀ crl ∈ crls, Happened (usage.Revokes crl) past

/-- What has to be done before a stage. -/
def Reached (certs : List (List UInt8)) (crls : Option (List UInt8)) (stage : Stage)
    (past : History Call) : Prop :=
  match stage with
  | .connected => Connected past
  | .trusting => usage.Trusting certs crls past
  | .secured => usage.Trusting certs crls past ∧ Happened usage.Verifies past
  | .listening =>
      usage.Trusting certs crls past ∧ Happened usage.Verifies past ∧
        Happened (usage.Sends httpsRequest) past

/-- The example goes on only after good answers. It asks the library only for what the
stage allows, with everything shown that it got before. -/
def rules (certs : List (List UInt8)) (crls : Option (List UInt8)) :
    Dialogue.Rules (Question Call) Answer where
  Allowed past question :=
    (∀ event ∈ past, ¬usage.Ends event) ∧
      match question with
      | .connect .. => past = []
      | .writeBytes bytes => usage.gotten past = shown past ++ bytes
      | .library call =>
          usage.gotten past = shown past ∧ usage.Reached certs crls (usage.stage call) past
  MayStop past := ∃ event ∈ past, usage.Ends event

/-- Every question keeps to the rules, and the example gives up exactly at an answer
that ends it. -/
structure InOrder (certs : List (List UInt8)) (crls : Option (List UInt8))
    (conversation : Conversation (Question Call) Answer Empty) : Prop where
  asks : ∀ before question, conversation.Asks before question →
    (usage.rules certs crls).Allowed before question
  stops_iff : conversation.outcome = .stops ↔ ∃ event ∈ conversation.asked, usage.Ends event

variable {usage : Usage Call} {certs : List (List UInt8)} {crls : Option (List UInt8)}

theorem Trusting.append {past : History Call} (trusting : usage.Trusting certs crls past)
    (more : History Call) : usage.Trusting certs crls (past ++ more) where
  connected := trusting.connected.append more
  names := trusting.names.append more
  trusts cert isCert := (trusting.trusts cert isCert).append more
  revokes crl isCrl := (trusting.revokes crl isCrl).append more

theorem reached_append {stage : Stage} {past : History Call}
    (reached : usage.Reached certs crls stage past) (more : History Call) :
    usage.Reached certs crls stage (past ++ more) := by
  cases stage with
  | connected => exact reached.append more
  | trusting => exact reached.append more
  | secured => exact ⟨reached.1.append more, reached.2.append more⟩
  | listening =>
      exact ⟨reached.1.append more, reached.2.1.append more, reached.2.2.append more⟩

/-- At a stage, with some bytes still to be shown. -/
structure Due (usage : Usage Call) (certs : List (List UInt8)) (crls : Option (List UInt8))
    (stage : Stage) (due : List UInt8) (past : History Call) : Prop where
  goesOn : ∀ event ∈ past, ¬usage.Ends event
  isDue : usage.gotten past = shown past ++ due
  reached : usage.Reached certs crls stage past

/-- The example is in good order at a stage. -/
abbrev Good (usage : Usage Call) (certs : List (List UInt8)) (crls : Option (List UInt8))
    (stage : Stage) : History Call → Prop :=
  usage.Due certs crls stage []

theorem Due.allShown {stage : Stage} {past : History Call}
    (good : usage.Good certs crls stage past) : usage.gotten past = shown past := by
  rw [good.isDue, List.append_nil]

/-- A negative status is for a fatal answer only. -/
def OrEnds (usage : Usage Call) (holds : History Call → Prop) (status : Int)
    (past : History Call) : Prop :=
  if status < 0 then ∃ event ∈ past, usage.Ends event else holds past

/-- The stage goes on, with a milestone passed. -/
def After (usage : Usage Call) (certs : List (List UInt8)) (crls : Option (List UInt8))
    (stage : Stage) (Milestone : History Call → Prop) : Int → History Call → Prop :=
  usage.OrEnds fun past => usage.Good certs crls stage past ∧ Happened Milestone past

theorem orEnds_of_ends {holds : History Call → Prop} {status : Int} {past : History Call}
    (negative : status < 0) (ends : ∃ event ∈ past, usage.Ends event) :
    usage.OrEnds holds status past := by
  rwa [OrEnds, if_pos negative]

theorem orEnds_of_holds {holds : History Call → Prop} {status : Int} {past : History Call}
    (positive : 0 ≤ status) (isHeld : holds past) : usage.OrEnds holds status past := by
  rwa [OrEnds, if_neg (Int.not_lt.mpr positive)]

theorem OrEnds.ends {holds : History Call → Prop} {status : Int} {past : History Call}
    (orEnds : usage.OrEnds holds status past) (negative : status < 0) :
    ∃ event ∈ past, usage.Ends event := by
  rwa [OrEnds, if_pos negative] at orEnds

theorem OrEnds.holds {holds : History Call → Prop} {status : Int} {past : History Call}
    (orEnds : usage.OrEnds holds status past) (positive : ¬status < 0) : holds past := by
  rwa [OrEnds, if_neg positive] at orEnds

theorem OrEnds.imp {holds other : History Call → Prop} {status : Int} {past : History Call}
    (orEnds : usage.OrEnds holds status past) (follows : holds past → other past) :
    usage.OrEnds other status past := by
  rcases Decidable.em (status < 0) with negative | positive
  · exact orEnds_of_ends negative (orEnds.ends negative)
  · exact orEnds_of_holds (Int.not_lt.mp positive) (follows (orEnds.holds positive))

/-- A call, with what it gives to show. -/
theorem meets_library {call : Call} {stage : Stage}
    (isStage : ∀ past, usage.Reached certs crls stage past →
      usage.Reached certs crls (usage.stage call) past) :
    Dialogue.Meets (usage.rules certs crls) (usage.Good certs crls stage) (library call)
      fun answer past => (usage.Fatal call answer → ∃ event ∈ past, usage.Ends event) ∧
        (¬usage.Fatal call answer →
          usage.Due certs crls stage (usage.received call answer) past) ∧
        ∃ before, past = before ++ [(.library call, answer)] := by
  apply (Dialogue.meets_ask _).weaken fun _ => id
  · rintro answer past ⟨before, good, rfl⟩
    refine ⟨?_, ?_, before, rfl⟩
    · intro fatal
      exact ⟨_, List.mem_append_right _ List.mem_cons_self, fatal⟩
    · intro notFatal
      refine ⟨?_, ?_, reached_append good.reached _⟩
      · intro event isEvent
        rcases List.mem_append.mp isEvent with earlier | last
        · exact good.goesOn event earlier
        · cases List.mem_singleton.mp last
          exact notFatal
      · rw [gotten, shown, List.flatMap_append, List.flatMap_append, ← gotten, ← shown,
          good.allShown]
        simp
  · exact fun past good => ⟨good.goesOn, good.allShown, isStage past good.reached⟩

section Calls

variable (usage) (call : Call) (quiet : ∀ answer, usage.received call answer = [])

include quiet

/-- A call in its own stage. -/
theorem meets_call :
    Dialogue.Meets (usage.rules certs crls) (usage.Good certs crls (usage.stage call))
      (library call) fun answer past =>
        (usage.Fatal call answer → ∃ event ∈ past, usage.Ends event) ∧
        (¬usage.Fatal call answer → usage.Good certs crls (usage.stage call) past) ∧
        ∃ before, past = before ++ [(.library call, answer)] := by
  apply (meets_library fun _ => id).weaken fun _ => id
  intro answer past result
  rw [quiet answer] at result
  exact result

/-- A call whose answer does not matter. -/
theorem meets_ignored {next : ClientSession Call Int} {post : Int → History Call → Prop}
    (neverFatal : ∀ answer, ¬usage.Fatal call answer)
    (meets : Dialogue.Meets (usage.rules certs crls)
      (fun past => usage.Good certs crls (usage.stage call) past ∧
        ∃ before answer, past = before ++ [(.library call, answer)]) next post) :
    Dialogue.Meets (usage.rules certs crls) (usage.Good certs crls (usage.stage call))
      (library call >>= fun _ => next) post := by
  apply (usage.meets_call call quiet).bind
  intro answer
  apply meets.weaken _ fun _ _ => id
  rintro past ⟨_, good, before, isPast⟩
  exact ⟨good (neverFatal answer), before, answer, isPast⟩

/-- A call that has to return zero. -/
theorem meets_checked {next : ClientSession Call Int} {holds : History Call → Prop}
    (fatal_iff : ∀ answer, usage.Fatal call answer ↔ answer.value ≠ 0)
    (meets : Dialogue.Meets (usage.rules certs crls)
      (fun past => usage.Good certs crls (usage.stage call) past ∧
        ∃ before answer, answer.value = 0 ∧ past = before ++ [(.library call, answer)])
      next (usage.OrEnds holds)) :
    Dialogue.Meets (usage.rules certs crls) (usage.Good certs crls (usage.stage call))
      (library call >>= fun answer => if answer.value ≠ 0 then pure (-1) else next)
      (usage.OrEnds holds) := by
  apply (usage.meets_call call quiet).bind
  intro answer
  split
  · rename_i fails
    apply Dialogue.meets_pure
    rintro past ⟨ends, _⟩
    exact orEnds_of_ends (by decide) (ends ((fatal_iff answer).mpr fails))
  · rename_i succeeds
    apply meets.weaken _ fun _ _ => id
    rintro past ⟨_, good, before, isPast⟩
    exact ⟨good (succeeds ∘ (fatal_iff answer).mp), before, answer, not_not.mp succeeds, isPast⟩

end Calls

/-- What the example relies on in a backend. -/
structure Serves (usage : Usage Call) (certs : List (List UInt8)) (crls : Option (List UInt8))
    (tls : TlsInterface Call) : Prop where
  setHostName : ∀ host, Dialogue.Meets (usage.rules certs crls) (usage.Good certs crls .connected)
    (tls.setHostName host) (usage.After certs crls .connected (usage.Names host))
  loadCACert : ∀ cert, Dialogue.Meets (usage.rules certs crls)
    (usage.Good certs crls .connected) (tls.loadCACert cert .tryAll)
    (usage.After certs crls .connected (usage.Trusts cert))
  loadCrl : ∀ crl, Dialogue.Meets (usage.rules certs crls)
    (usage.Good certs crls .connected) (tls.loadCrl crl .tryAll)
    (usage.After certs crls .connected (usage.Revokes crl))
  handshake : Dialogue.Meets (usage.rules certs crls) (usage.Good certs crls .trusting)
    tls.handshake (usage.After certs crls .trusting usage.Verifies)
  write : Dialogue.Meets (usage.rules certs crls) (usage.Good certs crls .secured)
    (tls.write httpsRequest)
    (usage.After certs crls .secured (usage.Sends httpsRequest))
  read : ∀ size, Dialogue.Meets (usage.rules certs crls) (usage.Good certs crls .listening)
    (tls.read size) fun read => usage.OrEnds
      (usage.Due certs crls .listening (read.buffer.take read.value.toNat)) read.value
  readProgresses : ∀ size, (tls.read size).Progresses

section Example

variable {tls : TlsInterface Call}

theorem meets_orAbort {call : ClientSession Call Int} {pre holds : History Call → Prop}
    (meets : Dialogue.Meets (usage.rules certs crls) pre call (usage.OrEnds holds)) :
    Dialogue.Meets (usage.rules certs crls) pre (orAbort call) fun _ => holds := by
  apply meets.bind
  intro status
  split
  · rename_i negative
    apply Dialogue.meets_stop
    exact fun past orEnds => orEnds.ends negative
  · rename_i positive
    apply Dialogue.meets_pure
    exact fun past orEnds => orEnds.holds positive

theorem meets_connect :
    Dialogue.Meets (usage.rules certs crls) (fun past => past = []) connect
      (usage.OrEnds (usage.Good certs crls .connected)) := by
  apply (Dialogue.meets_ask _).bind
  · intro answer
    apply Dialogue.meets_pure
    rintro past ⟨before, rfl, rfl⟩
    rcases Decidable.em (answer.value < 0) with negative | positive
    · exact orEnds_of_ends negative ⟨_, List.mem_cons_self, negative⟩
    · apply orEnds_of_holds (Int.not_lt.mp positive)
      refine ⟨?_, rfl, happened_last ⟨answer, Int.not_lt.mp positive, rfl⟩⟩
      intro event isEvent
      cases List.mem_singleton.mp isEvent
      exact positive
  · rintro past rfl
    exact ⟨nofun, rfl⟩

theorem meets_loadAll (serves : usage.Serves certs crls tls) (loaded : List (List UInt8)) :
    Dialogue.Meets (usage.rules certs crls) (usage.Good certs crls .connected)
      (loadAll tls loaded) fun _ past => usage.Good certs crls .connected past ∧
        ∀ cert ∈ loaded, Happened (usage.Trusts cert) past := by
  induction loaded with
  | nil =>
      apply Dialogue.meets_pure
      exact fun past good => ⟨good, nofun⟩
  | cons cert loaded induction =>
      apply (meets_orAbort (serves.loadCACert cert)).bind
      intro _
      apply (induction.frame fun past more (trusted : Happened (usage.Trusts cert) past) =>
        trusted.append more).weaken fun _ => id
      rintro _ past ⟨⟨good, rest⟩, first⟩
      exact ⟨good, List.forall_mem_cons.mpr ⟨first, rest⟩⟩

theorem meets_loadCrls (serves : usage.Serves certs crls tls) :
    Dialogue.Meets (usage.rules certs crls) (usage.Good certs crls .connected)
      (loadCrls tls crls) fun _ past => usage.Good certs crls .connected past ∧
        ∀ crl ∈ crls, Happened (usage.Revokes crl) past := by
  cases crls with
  | none =>
      apply Dialogue.meets_pure
      exact fun past good => ⟨good, nofun⟩
  | some crl =>
      apply (meets_orAbort (serves.loadCrl crl)).weaken fun _ => id
      rintro _ past ⟨good, revokes⟩
      refine ⟨good, ?_⟩
      intro other isCrl
      cases Option.mem_some.mp isCrl
      exact revokes

theorem meets_prepare (serves : usage.Serves certs crls tls) :
    Dialogue.Meets (usage.rules certs crls) (usage.Good certs crls .connected)
      (prepare tls certs crls) fun _ => usage.Good certs crls .trusting := by
  apply (meets_orAbort (serves.setHostName serverName)).bind
  intro _
  apply ((meets_loadAll serves certs).frame fun past more names => names.append more).bind
  intro _
  have stays (past more : History Call)
      (facts : (∀ cert ∈ certs, Happened (usage.Trusts cert) past) ∧
        Happened (usage.Names serverName) past) :
      (∀ cert ∈ certs, Happened (usage.Trusts cert) (past ++ more)) ∧
        Happened (usage.Names serverName) (past ++ more) :=
    ⟨fun cert isCert => (facts.1 cert isCert).append more, facts.2.append more⟩
  apply ((meets_loadCrls serves).frame stays).weaken
  · rintro past ⟨⟨good, trusts⟩, names⟩
    exact ⟨good, trusts, names⟩
  · rintro _ past ⟨⟨good, revokes⟩, trusts, names⟩
    exact ⟨good.goesOn, good.isDue, good.reached, names, trusts, revokes⟩

theorem meets_showResponse (serves : usage.Serves certs crls tls) :
    Dialogue.Meets (usage.rules certs crls) (usage.Good certs crls .listening)
      (showResponse tls) fun _ => usage.Good certs crls .listening := by
  apply (serves.read 4096).bind
  intro read
  split
  · rename_i negative
    apply Dialogue.meets_stop
    exact fun past orEnds => orEnds.ends negative
  · rename_i positive
    apply (Dialogue.meets_ask _).bind
    · intro answer
      apply Dialogue.meets_pure
      rintro past ⟨before, orEnds, rfl⟩
      have got := orEnds.holds positive
      refine ⟨?_, ?_, reached_append got.reached _⟩
      · intro event isEvent
        rcases List.mem_append.mp isEvent with earlier | last
        · exact got.goesOn event earlier
        · cases List.mem_singleton.mp last
          exact id
      · rw [gotten, shown, List.flatMap_append, List.flatMap_append, ← gotten, ← shown,
          got.isDue]
        simp
    · intro past orEnds
      have got := orEnds.holds positive
      exact ⟨got.goesOn, got.isDue⟩

theorem progresses_showResponse (serves : usage.Serves certs crls tls) :
    (showResponse tls).Progresses := by
  apply (serves.readProgresses 4096).bind
  intro read
  split
  · exact Dialogue.steady_stop
  · apply (Dialogue.progresses_ask _).steady.bind
    exact fun _ => Dialogue.steady_finish _

theorem meets_tlsClientExample (serves : usage.Serves certs crls tls) :
    Dialogue.Meets (usage.rules certs crls) (fun past => past = [])
      (tlsClientExample tls certs crls) fun _ _ => True := by
  apply (meets_orAbort meets_connect).bind
  intro _
  apply (meets_prepare serves).bind
  intro _
  apply (meets_orAbort serves.handshake).bind
  intro _
  have securing (past : History Call) (both : usage.Good certs crls .trusting past ∧
      Happened usage.Verifies past) : usage.Good certs crls .secured past :=
    ⟨both.1.goesOn, both.1.isDue, both.1.reached, both.2⟩
  apply ((meets_orAbort serves.write).weaken securing fun _ _ => id).bind
  intro _
  have sending (past : History Call) (both : usage.Good certs crls .secured past ∧
      Happened (usage.Sends httpsRequest) past) : usage.Good certs crls .listening past :=
    ⟨both.1.goesOn, both.1.isDue, both.1.reached.1, both.1.reached.2, both.2⟩
  have listens : Dialogue.Meets (usage.rules certs crls) (usage.Good certs crls .listening)
      (.loop (showResponse tls)) fun _ _ => True := by
    apply Dialogue.Meets.loop (progresses_showResponse serves)
    apply (meets_showResponse serves).weaken fun _ => id
    rintro (_ | result) past good
    · exact good
    · exact result.elim
  exact listens.weaken sending fun _ _ => id

theorem Serves.inOrder (serves : usage.Serves certs crls tls) (answers : List Answer) :
    usage.InOrder certs crls ((tlsClientExample tls certs crls).converse answers) := by
  have keeps := meets_tlsClientExample serves [] answers rfl
  refine ⟨keeps.asks, keeps.stops, ?_⟩
  rintro ⟨event, isEvent, ends⟩
  cases outcome : ((tlsClientExample tls certs crls).converse answers).outcome with
  | stops => rfl
  | returns result => exact result.elim
  | waits question =>
      have allowed := keeps.asks _ question (.inr ⟨rfl, outcome⟩)
      exact absurd ends (allowed.1 event isEvent)

end Example

end Usage

end PigweedExperimental.Tls
