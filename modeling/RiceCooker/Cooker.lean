import RiceCooker.Clock
import RiceCooker.Config
import RiceCooker.Exchange
import RiceCooker.Profile.Options
import RiceCooker.Status
import RiceCooker.Temperature

/-! What can be asked of a cooker: to start a profile, to stop, and to tell its
status and its temperatures. Nothing is sent for a profile that cannot be
read. -/
namespace RiceCooker

/-! ## Starting -/

/-- Wishes for a cook cycle, in terms of the clock. -/
structure StartOptions where
  /-- How long to cook. -/
  duration : Option Span := none
  /-- When to begin. -/
  scheduleAt : Option Instant := none
  /-- Whether to keep warm after cooking. -/
  autoKeepWarm : Option Bool := none
  /-- The taste. -/
  taste : Option UInt8 := none
deriving DecidableEq

/-- The same wishes in minutes from now. -/
def StartOptions.resolve (options : StartOptions) (now : Instant) : Profile.Options where
  duration := options.duration.map Span.minutes
  schedule := options.scheduleAt.bind fun instant => instant.minutesUntil? now
  autoKeepWarm := options.autoKeepWarm
  taste := options.taste

/-- A cooker within reach. -/
structure Cooker where
  /-- How to talk to it. -/
  config : Config
deriving DecidableEq

namespace Cooker
open Conversation

/-- What is logged before a profile is sent. -/
def startNotice (profile : Profile) : String :=
  "Starting menu " ++ toString profile.payload.menuId.toNat ++ " for " ++
    toString profile.payload.duration.total.toNat ++ " minutes"

/-- Sends a profile that is ready. -/
def send (cooker : Cooker) (profile : Profile) : Conversation Unit := do
  remark [Profile.writingRemark profile.toHex]
  note .info (startNotice profile)
  let action := cooker.config.startAction
  let response ← callAction cooker.config.callTimeout action
    [⟨cooker.config.profileParameterId, .text profile.toHex⟩]
  if response.isSuccess then pure () else throw (.actionFailed action response.code)

/-- Starts a profile with these adjustments. -/
def startProfile (cooker : Cooker) (text : String) (options : Profile.Options) :
    Conversation Unit := do
  remark (Profile.readingRemarks text)
  match Profile.withOptions text options with
  | .ok profile => cooker.send profile
  | .error error => throw error

/-- Starts a profile with wishes in terms of the clock. -/
def start (cooker : Cooker) (now : Instant) (text : String) (options : StartOptions) :
    Conversation Unit :=
  cooker.startProfile text (options.resolve now)

/-! ## Stopping -/

/-- What is logged when a cooker does not stop. -/
def stopNotice (code : Int64) : String :=
  "Failed to stop cooking (code " ++ Text.decimal code ++ ")"

/-- Stops cooking. A cooker that refuses is only worth a warning. -/
def stop (cooker : Cooker) : Conversation Unit := do
  note .info "Stopping cooking"
  let response ← callAction cooker.config.callTimeout cooker.config.cancelAction []
  if response.isSuccess then pure () else note .warn (stopNotice response.code)

/-! ## Asking -/

/-- The text of the temperatures in an answer: its first output must be a text. -/
def historyText (action : String) (response : Response) : Except Error String :=
  if response.isSuccess then
    match response.outputs.head?.bind fun output => output.value.asText? with
    | some text => .ok text
    | none => .error (.invalidData (action ++ " returned no history string"))
  else .error (.actionFailed action response.code)

/-- What is remarked when the temperatures were read from a text. -/
def historyRemark (history : TemperatureHistory) : String :=
  "Temperature history has " ++ toString history.length ++ " samples"

/-- Asks for the temperatures of the cook cycle. -/
def temperatureHistory (cooker : Cooker) : Conversation TemperatureHistory := do
  let action := cooker.config.temperatureHistoryAction
  let response ← callAction cooker.config.callTimeout action []
  match historyText action response with
  | .ok text =>
    let history := TemperatureHistory.ofHex text
    remark (TemperatureHistory.readingRemarks text ++ [historyRemark history])
    pure history
  | .error error => throw error

/-- What is remarked when the properties came. -/
def propertiesRemark (properties : Properties) : String :=
  "Read " ++ toString properties.size ++ " valid properties"

/-- Asks for the properties and then for the temperatures. -/
def status (cooker : Cooker) : Conversation Status := do
  let readings ← readProperties cooker.config.callTimeout
  let properties := Reading.collect readings
  remark [propertiesRemark properties]
  let history ← cooker.temperatureHistory
  pure ⟨properties, history.last?⟩

end Cooker

end RiceCooker
