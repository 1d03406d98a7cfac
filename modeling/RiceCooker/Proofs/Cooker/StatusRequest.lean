import RiceCooker.Proofs.Cooker.Answers
import RiceCooker.Proofs.Cooker.Readings
import RiceCooker.Proofs.Temperature.Decoding

/-! Asking for the status. The properties are asked for first and the
temperatures only after the properties came; each of the two requests has the
whole time limit to itself. -/
namespace RiceCooker.Cooker
open Conversation Text

section Run
variable {cooker : Cooker} {exchange : Exchange}

theorem run_status_of_error {error : Error}
    (failed : exchange.readings cooker.config.callTimeout = .error error) :
    run cooker.status exchange = (.error error, exchange.asked .readProperties) := by
  rw [status, run_bind, run_readProperties, failed]

/-- The remark on the properties makes no difference to what the temperatures come to. -/
theorem run_status_of_readings {readings : List Reading}
    (arrived : exchange.readings cooker.config.callTimeout = .ok readings) :
    run cooker.status exchange =
      ((run cooker.temperatureHistory (exchange.asked .readProperties)).1.map fun history =>
          ⟨Reading.collect readings, history.last?⟩,
        (run cooker.temperatureHistory ((exchange.asked .readProperties).remarking
          [propertiesRemark (Reading.collect readings)])).2) := by
  simp only [status, run_bind, run_readProperties, arrived, run_remark, run_temperatureHistory,
    Exchange.response_remarking]
  cases Except.bind _ (historyOf cooker.config.temperatureHistoryAction) <;> rfl

theorem status_eq_error_iff {readings : List Reading}
    (arrived : exchange.readings cooker.config.callTimeout = .ok readings) (error : Error) :
    (run cooker.status exchange).1 = .error error ↔
      (run cooker.temperatureHistory (exchange.asked .readProperties)).1 = .error error := by
  rw [run_status_of_readings arrived]
  cases (run cooker.temperatureHistory (exchange.asked .readProperties)).1 <;> simp [Except.map]

theorem status_eq_ok_iff {readings : List Reading}
    (arrived : exchange.readings cooker.config.callTimeout = .ok readings) (status : Status) :
    (run cooker.status exchange).1 = .ok status ↔
      ∃ history, (run cooker.temperatureHistory (exchange.asked .readProperties)).1 = .ok history ∧
        status = ⟨Reading.collect readings, history.last?⟩ := by
  rw [run_status_of_readings arrived]
  cases (run cooker.temperatureHistory (exchange.asked .readProperties)).1 <;>
    simp [Except.map, eq_comm]

/-- The status depends on the readings only through the properties that they amount to. -/
theorem run_status_congr {first : Delivery} {later : List Delivery} {readings other : List Reading}
    (next : exchange.ahead = first :: later) (inTime : first.delay ≤ cooker.config.callTimeout)
    (arrived : first.reply = .readings readings)
    (same : Reading.collect other = Reading.collect readings) :
    (run cooker.status { exchange with
      ahead := { first with reply := .readings other } :: later }).1 =
        (run cooker.status exchange).1 := by
  obtain ⟨ahead, events⟩ := exchange
  cases next
  have otherArrived : Exchange.readings
      ⟨{ first with reply := .readings other } :: later, events⟩ cooker.config.callTimeout =
        .ok other := Exchange.readings_of_readings rfl inTime rfl
  rw [run_status_of_readings otherArrived,
    run_status_of_readings (Exchange.readings_of_readings rfl inTime arrived), same]
  simp only [run_temperatureHistory]
  rfl

end Run

/-- What a status owes to the readings and to the text of the temperatures. -/
structure Reports (status : Status) (readings : List Reading) (text : String) : Prop where
  /-- Each property has the value of its last reading that did not fail. -/
  property : ∀ name, status.property? name =
    (readings.filter fun reading => reading.name = name ∧ reading.code = 0).getLast?.map
      Reading.value
  /-- The temperature is the last of the bytes that the text spells. -/
  temperature : ∀ sample, status.temperature = some sample ↔
    text ≠ "0000" ∧ ∃ earlier, Hex.Spells text.toList (earlier ++ [sample])
  /-- There is none in the text for no samples, in no text, and in a text that spells no bytes. -/
  noTemperature : status.temperature = none ↔
    text = "0000" ∨ text = "" ∨ ¬∃ samples, Hex.Spells text.toList samples

theorem reports_collect (readings : List Reading) (text : String) :
    Reports ⟨Reading.collect readings, (TemperatureHistory.ofHex text).last?⟩ readings text where
  property := Reading.getElem?_collect readings
  temperature := TemperatureHistory.last?_ofHex_eq_some_iff text
  noTemperature := TemperatureHistory.last?_ofHex_eq_none_iff text

/-- **The status asks for the properties and then, if they came, for the
temperatures.** It fails as the first of the two requests that fails. Otherwise
it holds the last value under each name that did not fail to be read, so that
readings of different names may change places and failed readings may come and
go, and the last sample of the temperatures. -/
theorem status_conversation (cooker : Cooker) {exchange : Exchange} {first second : Delivery}
    {rest : List Delivery} (next : exchange.ahead = first :: second :: rest) :
    (cooker.config.callTimeout < first.delay →
      (run cooker.status exchange).1 = .error (.timeout "get_properties_for_mapping") ∧
      (run cooker.status exchange).2.calls = exchange.calls ++ [.readProperties]) ∧
    (first.delay ≤ cooker.config.callTimeout →
      (∀ error, first.reply = .failed error →
        (run cooker.status exchange).1 = .error error ∧
        (run cooker.status exchange).2.calls = exchange.calls ++ [.readProperties]) ∧
      ∀ readings, first.reply = .readings readings →
        (run cooker.status exchange).2.calls = exchange.calls ++
          [.readProperties, .action cooker.config.temperatureHistoryAction []] ∧
        (∀ error, (run cooker.status exchange).1 = .error error ↔
          (run cooker.temperatureHistory (exchange.asked .readProperties)).1 = .error error) ∧
        (∀ response text, second.delay ≤ cooker.config.callTimeout →
          second.reply = .response response → response.code = 0 → LeadsWith response text →
            ∃ status, (run cooker.status exchange).1 = .ok status ∧
              Reports status readings text) ∧
        (∀ status, (run cooker.status exchange).1 = .ok status →
          second.delay ≤ cooker.config.callTimeout ∧
            ∃ response text, second.reply = .response response ∧ response.code = 0 ∧
              LeadsWith response text ∧ Reports status readings text) ∧
        ∀ other : List Reading,
          ((∀ name, (other.filter fun reading => reading.name = name) =
              readings.filter fun reading => reading.name = name) ∨
            (other.filter fun reading => reading.code = 0) =
              readings.filter fun reading => reading.code = 0) →
          (run cooker.status { exchange with
            ahead := { first with reply := .readings other } :: second :: rest }).1 =
              (run cooker.status exchange).1) := by
  refine ⟨fun late => ?_, fun inTime => ⟨fun error failed => ?_, fun readings arrived => ?_⟩⟩
  · rw [run_status_of_error (Exchange.readings_of_late next late)]
    exact ⟨rfl, Exchange.calls_asked _ _⟩
  · rw [run_status_of_error (Exchange.readings_of_failed next inTime failed)]
    exact ⟨rfl, Exchange.calls_asked _ _⟩
  · have came := Exchange.readings_of_readings next inTime arrived
    have following : (exchange.asked .readProperties).ahead = second :: rest := by
      rw [Exchange.asked, next, List.tail_cons]
    have told := cooker.temperatureHistory_eq_ok_iff following
    refine ⟨?_, status_eq_error_iff came, fun response text secondInTime answered accepted leads => ?_,
      fun status reported => ?_, fun other same => ?_⟩
    · rw [run_status_of_readings came]
      simp [run_temperatureHistory]
    · have history := (told _).mpr ⟨secondInTime, response, answered, accepted, text, leads, rfl⟩
      exact ⟨_, (status_eq_ok_iff came _).mpr ⟨_, history, rfl⟩, reports_collect readings text⟩
    · obtain ⟨history, outcome, rfl⟩ := (status_eq_ok_iff came status).mp reported
      obtain ⟨secondInTime, response, answered, accepted, text, leads, rfl⟩ := (told _).mp outcome
      exact ⟨secondInTime, response, text, answered, accepted, leads,
        reports_collect readings text⟩
    · exact run_status_congr next inTime arrived
        (same.elim Reading.collect_of_order Reading.collect_of_failed)

/-- Two replies of 400 milliseconds with half a second of patience for each,
and a mode that is reported three times, the last time in vain. -/
theorem status_of_slow_replies :
    ∃ status, (run (Cooker.status ⟨{ callTimeout := 500 }⟩)
        ⟨[⟨400, .readings [⟨"status", .int 1, 0⟩, ⟨"menu-id", .int 7, -4001⟩, ⟨"status", .int 2, 0⟩,
            ⟨"status", .int 3, -1⟩]⟩,
          ⟨400, .response ⟨0, [⟨1, .text "2f2e30"⟩]⟩⟩], []⟩).1 = .ok status ∧
      status.property? "status" = some (.int 2) ∧ status.property? "menu-id" = none ∧
      status.temperature = some 0x30 := by
  have next : (⟨[⟨400, .readings [⟨"status", .int 1, 0⟩, ⟨"menu-id", .int 7, -4001⟩,
      ⟨"status", .int 2, 0⟩, ⟨"status", .int 3, -1⟩]⟩,
    ⟨400, .response ⟨0, [⟨1, .text "2f2e30"⟩]⟩⟩], []⟩ : Exchange).ahead = [⟨400, _⟩, ⟨400, _⟩] := rfl
  have spelled : Hex.Spells "2f2e30".toList ([0x2f, 0x2e] ++ [0x30]) :=
    Hex.decode_eq_ok_iff.mp rfl
  obtain ⟨_, inTime⟩ := status_conversation ⟨{ callTimeout := 500 }⟩ next
  obtain ⟨_, _, answered, _⟩ := (inTime (by decide)).2 _ rfl
  obtain ⟨status, told, reports⟩ := answered _ "2f2e30" (by decide) rfl rfl ⟨1, [], rfl⟩
  refine ⟨status, told, (reports.property "status").trans (by decide +kernel),
    (reports.property "menu-id").trans (by decide +kernel),
    (reports.temperature 0x30).mpr ⟨by decide, _, spelled⟩⟩

end RiceCooker.Cooker
