/-
# LaneDuel.Effect.Board -- the board as a whole and its signals

The players exchange their lanes, buildings stay.  The skip signal and messages
for the table are only passed on.
-/
import LaneDuel.Effect.Run

namespace LaneDuel.Effect

set_option autoImplicit false

variable {ρ : Type}

def swapBattlefields (b : Binding) (r : Run ρ) : Run ρ :=
  let own := (r.player b.player).battlefield
  let others := (r.player b.opponent).battlefield
  ((r.modifyPlayer b.player fun p => { p with battlefield := others }).modifyPlayer b.opponent
    fun p => { p with battlefield := own }).notice .battlefieldsSwapped

def skipTurn (r : Run ρ) : Run ρ :=
  (r.modifyTable fun t => { t with signals.skipToNextTurn := true }).notice .skipTurn

def uiMessage (message : String) (r : Run ρ) : Run ρ := r.notice (.uiMessage message)

end LaneDuel.Effect
