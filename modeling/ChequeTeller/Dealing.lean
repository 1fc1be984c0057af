import ChequeTeller.Lightning.Dialogue
import ChequeTeller.TellerError

/-!
Dealings: dialogues with the node that may end in an error. The first failed call ends a dealing,
and the error says what the call was for.
-/

namespace ChequeTeller

abbrev Dealing (α : Type) := ExceptT TellerError Lightning.Dialogue α

namespace Dealing

open Lightning

/-- A step that needs no call. -/
def ofExcept {α : Type} (r : Except TellerError α) : Dealing α :=
  ExceptT.mk (.done r)

/-- Makes a call for the purpose of `action`. -/
def perform (action : Action) (c : Call) : Dealing c.Answer :=
  ExceptT.mk (.ask c fun outcome => .done (outcome.mapError (.node action)))

end Dealing

end ChequeTeller
