import Playback.Text.Base64
import Playback.Text.Quoted

/-!
# Rejected messages
-/

namespace Playback

/-- Why a request or a recorded exchange cannot be understood. -/
inductive Rejection where
  | unsupportedMethod (token : String)
  | malformedUrl (raw reason : String)
  | invalidBase64 (fault : Text.Base64.Fault)
  | unsupportedTextEncoding (name : String)
  | refused (reason : String)
deriving DecidableEq, Repr

namespace Rejection

def message : Rejection → String
  | unsupportedMethod token => "unsupported HTTP method: " ++ token
  | malformedUrl raw reason => "malformed URL " ++ Text.quoted raw ++ ": " ++ reason
  | invalidBase64 fault => "corpus entry rejected: invalid base64 content: " ++ fault.message
  | unsupportedTextEncoding name =>
    "corpus entry rejected: unsupported content text encoding: " ++ name
  | refused reason => "corpus entry rejected: " ++ reason

end Rejection

end Playback
