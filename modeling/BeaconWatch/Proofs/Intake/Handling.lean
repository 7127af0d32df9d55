import BeaconWatch.Proofs.Channel
import BeaconWatch.Proofs.Intake.Checked

/-!
How the intakes hand on what they find. On a channel where no send has to wait, suspended and blocked calls answer
alike: a report that carries no sighting, or is malformed, is dropped whatever the channel's state, and a sighting is
queued or refused.
-/

set_option autoImplicit false

namespace BeaconWatch

section

variable {found : Except Error (Option Sighting)} {sighting : Sighting} {channel : Channel Sighting}

theorem screen_eq_some_iff : screen found = some sighting ↔ found = .ok (some sighting) := by
  rcases found with error | _ | other <;> simp [screen]

theorem handleFound_of_silent (silent : screen found = none) (how : Waiting) (channel : Channel Sighting) :
    handleFound found how channel = (.ignored, channel) := by
  rw [handleFound, silent]

end

namespace Intake

variable {intake : Intake} {report : AdvertisementReport} {found : Except Error (Option Sighting)}

end Intake

end BeaconWatch
