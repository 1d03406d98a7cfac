/-! How to talk to a cooker: the names of its actions and the patience for a
reply. -/
namespace RiceCooker

/-- The settings of a conversation. -/
structure Config where
  /-- The action that starts a profile. -/
  startAction : String := "custom:cooking-start"
  /-- The action that ends a cook cycle. -/
  cancelAction : String := "cooker:cancel-cooking"
  /-- The action that tells the temperatures. -/
  temperatureHistoryAction : String := "custom:get-temp-history"
  /-- The number of the parameter that carries the profile. -/
  profileParameterId : UInt32 := 10
  /-- Milliseconds to wait for a reply. -/
  callTimeout : Nat := 10000
deriving DecidableEq

/-- The settings that suit an ordinary cooker. -/
def Config.standard : Config := {}

end RiceCooker
