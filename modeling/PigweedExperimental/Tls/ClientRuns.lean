import PigweedExperimental.Tls.BoringsslBackend
import PigweedExperimental.Tls.LoadAgreement
import PigweedExperimental.Tls.MbedtlsBackend

namespace PigweedExperimental.Tls

/-! # The client example with its backends -/

/-- Three bytes come after a read that has to be made once more. -/
example :
    shown ((tlsClientExample (Mbedtls.backend ⟨-0x6900, -0x6880⟩) [[1]] none).converse
      ([0, 0, 0, 0, 0, 0, 0, 0, 0, 0, 0, 0, 19, -0x6900].map (⟨·, []⟩) ++
        [⟨3, [65, 66, 67, 68]⟩, ⟨3, []⟩])).asked = [65, 66, 67] := by
  decide

section Helpers

variable (openssl : OpenSsl Store Certificate Crl) (store : Store) (buffer : List UInt8)

/-- What the helpers answer on a store, of which the second is called if the first adds
nothing. -/
def helperAnswers : List Answer :=
  let pem := openssl.loadCACertCrlsPEMFormat buffer (openssl.opened store)
  let der := openssl.loadCACertCrlDERFormat buffer pem.2
  ⟨0, []⟩ :: ⟨pem.1, []⟩ :: if 0 < pem.1 then [] else [⟨der.1, []⟩]

/-- On the answers of the helpers, `LoadCACert` returns what it returns on the store. -/
theorem Boringssl.loadCACert_returns :
    ((Boringssl.loadCACert buffer .tryAll).converse (helperAnswers openssl store buffer)).outcome =
      .returns (BoringsslBackend.loadCACert openssl store buffer .tryAll).1 [] := by
  rw [BoringsslBackend.loadCACert, OpenSsl.loadCACert_tryAll]
  by_cases loads : 0 < (openssl.loadCACertCrlsPEMFormat buffer (openssl.opened store)).1
  · simp [helperAnswers, Boringssl.loadCACert, bind, pure, Dialogue.andThen, library,
      Dialogue.ask, Dialogue.finish, Conversation.after, loads]
  · rcases openssl.der_cases buffer
      (openssl.loadCACertCrlsPEMFormat buffer (openssl.opened store)).2 with
      ⟨_, _, _, _, _, returns⟩ | ⟨_, returns⟩ <;>
    simp [helperAnswers, Boringssl.loadCACert, Boringssl.loadDer, bind, pure, Dialogue.andThen,
      library, Dialogue.ask, Dialogue.finish, Conversation.after, loads, returns]

end Helpers

end PigweedExperimental.Tls
