import RiceCooker.Profile.Payload
import RiceCooker.Text.Hex
import RiceCooker.Text.Numeral
import RiceCooker.Text.Quoted

/-! What can go wrong with a profile, a reading or a conversation. An error is
a cause; the sentence shown to a user and the record shown to a developer are
both functions of the cause. -/
namespace RiceCooker
open Text

/-! ## Causes -/

/-- Why a text holds no profile. -/
inductive ProfileDefect where
  /-- The text does not spell bytes. -/
  | notHex (fault : Hex.Fault)
  /-- There are too few bytes to look at the checksum. -/
  | tooShort (size : Nat)
  /-- The checksum is right, but the payload has another size. -/
  | wrongPayloadSize (size : Nat)
  /-- A defect given in words. -/
  | described (reason : String)
deriving DecidableEq

/-- A failure of the library. -/
inductive Error where
  /-- A text holds no profile. -/
  | invalidProfile (defect : ProfileDefect)
  /-- The trailer of a profile differs from the checksum of its payload. -/
  | checksumMismatch (expected actual : UInt16)
  /-- A setting is outside its range. -/
  | invalidParameter (name value : String)
  /-- A fault code has no label. -/
  | unknownFault (code : Int64)
  /-- A property that an answer needs was not reported. -/
  | missingProperty (name : String)
  /-- The cooker refused an action. -/
  | actionFailed (action : String) (code : Int64)
  /-- The cooker answered with something else than was asked for. -/
  | invalidData (context : String)
  /-- No reply came in time. -/
  | timeout (action : String)
  /-- The connection failed. -/
  | transport (text : String)
deriving DecidableEq

/-! ## Sentences -/

/-- A defect in words. -/
def ProfileDefect.message : ProfileDefect → String
  | .notHex fault => "not a hex string: " ++ fault.message
  | .tooShort size =>
    toString size ++ " bytes (need at least " ++ toString Profile.minFrameSize ++ ")"
  | .wrongPayloadSize size =>
    "payload is " ++ toString size ++ " bytes (expected " ++ toString Profile.payloadSize ++ ")"
  | .described reason => reason

/-- The sentence shown to a user. -/
def Error.message : Error → String
  | .invalidProfile defect => "Invalid profile: " ++ defect.message
  | .checksumMismatch expected actual =>
    "Profile checksum error: expected " ++ Hex.markedWord expected ++ ", got " ++
      Hex.markedWord actual
  | .invalidParameter name value => "Invalid parameter: " ++ name ++ " = " ++ value
  | .unknownFault code => "Unknown fault code: " ++ decimal code
  | .missingProperty name => "Missing property: " ++ name
  | .actionFailed action code => "Action " ++ action ++ " failed with code " ++ decimal code
  | .invalidData context => "Invalid data received: " ++ context
  | .timeout action => "Timed out waiting for " ++ action
  | .transport text => "Transport error: " ++ text

/-! ## Records -/

/-- The name of a kind of error. -/
def Error.kind : Error → String
  | .invalidProfile _ => "InvalidProfile"
  | .checksumMismatch _ _ => "ChecksumMismatch"
  | .invalidParameter _ _ => "InvalidParameter"
  | .unknownFault _ => "UnknownFault"
  | .missingProperty _ => "MissingProperty"
  | .actionFailed _ _ => "ActionFailed"
  | .invalidData _ => "InvalidData"
  | .timeout _ => "Timeout"
  | .transport _ => "Transport"

/-- The fields of an error, as they stand behind its kind. -/
def Error.fields : Error → String
  | .invalidProfile defect => named [("reason", Quoted.string defect.message)]
  | .checksumMismatch expected actual =>
    named [("expected", toString expected.toNat), ("actual", toString actual.toNat)]
  | .invalidParameter name value =>
    named [("name", Quoted.string name), ("value", Quoted.string value)]
  | .unknownFault code => named [("code", decimal code)]
  | .missingProperty name => named [("name", Quoted.string name)]
  | .actionFailed action code => named [("action", Quoted.string action), ("code", decimal code)]
  | .invalidData context => named [("context", Quoted.string context)]
  | .timeout action => named [("action", Quoted.string action)]
  | .transport text => "(" ++ Quoted.string text ++ ")"
where
  /-- Named fields between braces. -/
  named (entries : List (String × String)) : String :=
    " \x7b " ++ ", ".intercalate (entries.map fun (name, value) => name ++ ": " ++ value) ++
      " \x7d"

/-- The record shown to a developer: the kind and the fields. -/
def Error.record (error : Error) : String := error.kind ++ error.fields

end RiceCooker
