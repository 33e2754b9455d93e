import Greenhouse.Exchange.Phrase
import Greenhouse.Url

/-!
# Greenhouse.Exchange.Failure

Why a call to a device gave no body.
-/

namespace Greenhouse.Exchange

/-- Why a call gave no body. -/
inductive Failure where
  /-- No request can be addressed to the url, or to where the device sent the client. -/
  | unaddressable (url : String)
  /-- A request was not answered. -/
  | unanswered (url : String)
  /-- The device sent the client on too often. -/
  | tooManyRedirects (url : String)
  /-- The device refused, or failed. -/
  | refused (status : Nat) (phrase : String) (url : String)
  /-- The body did not come whole. -/
  | brokenBody
deriving DecidableEq, Repr

namespace Failure

/-- A url at the end of a message. -/
def forUrl (url : String) : String := " for url (" ++ url ++ ")"

/-- The wording of a failure. -/
def message : Failure → String
  | unaddressable url => "builder error" ++ forUrl url
  | unanswered url => "error sending request" ++ forUrl url
  | tooManyRedirects url => "error following redirect" ++ forUrl url
  | refused status phrase url =>
    "HTTP status " ++ (if status < 500 then "client" else "server") ++ " error (" ++
      Text.Decimal.text status ++ " " ++ Phrase.showText phrase ++ ")" ++ forUrl url
  | brokenBody => "error decoding response body"

end Failure

end Greenhouse.Exchange
