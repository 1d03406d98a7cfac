import RiceCooker.Cooker
import RiceCooker.Inspect
import RiceCooker.Json.Records
import RiceCooker.Main
import RiceCooker.Profile.Edit
import RiceCooker.Proofs.Checksum.Polynomial
import RiceCooker.Proofs.Checksum.Residue
import RiceCooker.Proofs.Text.HexSpelling
import RiceCooker.Proofs.Profile.Acceptance
import RiceCooker.Proofs.Profile.RoundTrip
import RiceCooker.Proofs.Checksum.Order
import RiceCooker.Proofs.Checksum.Damage
import RiceCooker.Proofs.Checksum.Distance
import RiceCooker.Proofs.Profile.DamagedFrame
import RiceCooker.Proofs.Profile.Adjustment
import RiceCooker.Proofs.Profile.Session
import RiceCooker.Proofs.Profile.LastWrite
import RiceCooker.Proofs.Profile.Confinement
import RiceCooker.Proofs.Checksum.Burst
import RiceCooker.Proofs.Checksum.Remainder
import RiceCooker.Proofs.Profile.Staleness
import RiceCooker.Proofs.Cooker.Calling
import RiceCooker.Proofs.Cooker.Starting
import RiceCooker.Proofs.Cooker.Answers
import RiceCooker.Proofs.Cooker.Readings
import RiceCooker.Proofs.Temperature.Decoding
import RiceCooker.Proofs.Clock.Minutes
import RiceCooker.Proofs.Cooker.StatusRequest
import RiceCooker.Proofs.Profile.Delay
import RiceCooker.Proofs.Profile.Settled
import RiceCooker.Proofs.Cooker.DelayedStart
import RiceCooker.Proofs.Profile.Readback
import RiceCooker.Proofs.Text.NumeralSpelling
import RiceCooker.Proofs.Status.Restatement
import RiceCooker.Profile.Checked
import RiceCooker.Proofs.Profile.Checked
import RiceCooker.Proofs.Inspect.Run
import RiceCooker.Proofs.Json.RoundTrip
import RiceCooker.Proofs.Status.Report
