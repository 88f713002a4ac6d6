import ConfigTimeline.Order.Insertion
import ConfigTimeline.Service.Action

/-!
Pinning environments to blueprints. All targets of a request have to be of its project; whether masks
are allowed is a matter of policy. An environment with a pin keeps it and has it moved; others get a
new pin each.
-/

namespace ConfigTimeline

inductive MaskPolicy
  /-- The request fails. -/
  | reject
  /-- The pin is stored; reading the environment fails. -/
  | defer
deriving DecidableEq

namespace MaskPolicy

def text : MaskPolicy → String
  | .reject => "reject"
  | .defer => "defer"

def ofText? (s : String) : Option MaskPolicy :=
  if s = "reject" then some .reject else if s = "defer" then some .defer else none

def standard : MaskPolicy := .reject

end MaskPolicy

namespace Pinning

/-- The targets of which no kind is known. -/
def missingTargets (wanted : List BlueprintId) (kinds : List (BlueprintId × BlueprintKind)) :
    List BlueprintId :=
  wanted.filter fun id => !kinds.any (·.1 == id)

def maskTargets (wanted : List BlueprintId) (kinds : List (BlueprintId × BlueprintKind)) :
    List BlueprintId :=
  wanted.filter fun id => kinds.any fun k => k.1 == id && k.2 == .mask

/-- Refuses a request with targets that are not of the project, or that the policy does not allow. -/
def checkTargets (policy : MaskPolicy) (workspace : String) (r : PinRequest) : Action Unit := do
  let wanted := r.blueprints
  let kinds ← Action.ask workspace (.kinds r.project wanted)
  if missingTargets wanted kinds ≠ [] then Action.missing (.blueprints (missingTargets wanted kinds))
  else if maskTargets wanted kinds ≠ [] ∧ policy = .reject then
    Action.missing (.masksAsTargets (maskTargets wanted kinds))
  else pure ()

def newPin (who : Identity) (now : Instant) (project : ProjectId) (config : ConfigId)
    (u : Ulid) (t : PinTarget) : Pin :=
  ⟨⟨u⟩, project, config, t.env, t.blueprint, .made who.user now⟩

def insertNew (who : Identity) (now : Instant) (project : ProjectId) (config : ConfigId) :
    List PinTarget → Action Unit
  | [] => pure ()
  | targets => do
      let pins ← Program.freshFor (newPin who now project config) targets
      Action.ask who.workspace (.insertPins pins)

def moveStored (who : Identity) (now : Instant) (project : ProjectId) :
    List PinTarget → Action Unit
  | [] => pure ()
  | targets => do
      let moved ← Action.ask who.workspace (.updatePins project who.user now targets)
      if moved = targets.length then pure ()
      else .fail (.violation (.updateCount targets.length moved))

/-- Pins the environments of a request; the answer is their pins in order of their names. -/
def bind (policy : MaskPolicy) (who : Identity) (now : Instant) (r : PinRequest) :
    Action (List Pin) := do
  let config ← Action.config who.workspace r.project
  checkTargets policy who.workspace r
  let stored ← Action.ask who.workspace (.pins r.project r.names)
  let isStored (t : PinTarget) : Bool := stored.any (·.env == t.env)
  insertNew who now r.project config.id (r.targets.filter fun t => !isStored t)
  moveStored who now r.project (r.targets.filter isStored)
  let pins ← Action.ask who.workspace (.pins r.project r.names)
  pure (sortBy (fun a b => decide (a.env ≤ b.env)) pins)

end Pinning

end ConfigTimeline
