import ConfigTimeline.Service.Action

/-!
Appending a draft to the config of a project. A blueprint ends the open row of each key that it
sets anew and opens one row per value:

    key   B1        B2        B3
    x     [1 ------)[3 ---------
    y     [2 -------------------
    z                         [7

A mask leaves the timeline alone. Its rows have the empty interval from the mask up to itself, so
that they are effective nowhere and are found only as what the mask brought in.
-/

namespace ConfigTimeline.Versioning

/-- How many milliseconds a blueprint id of the caller's choice may be ahead of the clock. -/
def maxSkewMillis : Nat := 60000

/-- A blueprint id is stamped further ahead of the clock than is allowed. -/
def isAhead (now : Instant) (id : BlueprintId) : Bool :=
  decide (now.unixMillis.toNat + maxSkewMillis < id.ulid.millis)

/-- The config of a project, which is made if there is none: with the id of the caller's choice if
there is one and it is not taken, else with a fresh id. -/
def ensureConfig (who : Identity) (now : Instant) (project : ProjectId) (chosen : Option ConfigId) :
    Action Config := do
  match ← Action.ask who.workspace (.configOf project) with
  | some config => pure config
  | none =>
      let id ←
        match chosen with
        | some id => do
            match ← Action.ask who.workspace (.configById id) with
            | some _ => Action.refuse (.configIdTaken id)
            | none => pure id
        | none => do
            let u ← Program.fresh
            pure ⟨u⟩
      let config : Config := ⟨id, project, .made who.user now⟩
      Action.ask who.workspace (.insertConfig config)
      pure config

/-- The id of a draft's blueprint before the timeline is looked at: the one of the caller's choice if
it is not ahead of the clock and not taken, else a fresh one. -/
def offeredId (workspace : String) (now : Instant) (draft : Draft) : Action BlueprintId :=
  match draft.id with
  | some id => do
      if isAhead now id then Action.refuse (.blueprintIdInFuture id maxSkewMillis)
      else
        match ← Action.ask workspace (.blueprintById id) with
        | some _ => Action.refuse (.blueprintIdTaken id)
        | none => pure id
  | none => do
      let u ← Program.fresh
      pure ⟨u⟩

/-- The id of a draft's blueprint. That of a mask may be anywhere. That of a blueprint comes after
the latest one: a chosen id that does not is refused, and a fresh one makes way for the id next to
the latest. -/
def assignId (workspace : String) (now : Instant) (project : ProjectId) (draft : Draft) :
    Action BlueprintId := do
  let id ← offeredId workspace now draft
  match draft.kind with
  | .mask => pure id
  | .blueprint =>
      match ← Action.ask workspace (.latest project .blueprint) with
      | none => pure id
      | some latest =>
          if latest.id < id then pure id
          else if draft.id.isSome then Action.refuse (.blueprintIdNotNewer id latest.id)
          else
            match latest.id.ulid.next? with
            | some next => pure ⟨next⟩
            | none => .fail (.violation (.noIdAfter latest.id))

def rowOf (project : ProjectId) (blueprint : BlueprintId) (validTo : Option BlueprintId)
    (u : Ulid) (v : NewValue) : ValueRow :=
  ⟨⟨u⟩, project, v.key, v.value, v.kind, v.description, blueprint, validTo⟩

def rowsEnd (draft : Draft) (blueprint : BlueprintId) : Option BlueprintId :=
  match draft.kind with
  | .blueprint => none
  | .mask => some blueprint

/-- Ends the open rows of the keys that a draft sets anew. -/
def closeReplaced (workspace : String) (project : ProjectId) (draft : Draft)
    (blueprint : BlueprintId) : Action Unit :=
  match draft.kind with
  | .blueprint => do
      let _ ← Action.ask workspace (.closeValues project blueprint draft.keys)
      pure ()
  | .mask => pure ()

/-- Appends a draft to the config of a project; the answer has the values that were brought in, in
the order submitted. -/
def append (who : Identity) (now : Instant) (project : ProjectId) (chosen : Option ConfigId)
    (draft : Draft) : Action BlueprintView := do
  let config ← ensureConfig who now project chosen
  let id ← assignId who.workspace now project draft
  let blueprint : Blueprint := ⟨id, project, draft.kind, draft.description, .made who.user now⟩
  closeReplaced who.workspace project draft id
  Action.ask who.workspace (.insertBlueprint config.id blueprint)
  let rows ← Program.freshFor (rowOf project id (rowsEnd draft id)) draft.values
  Action.ask who.workspace (.insertValues config.id rows)
  pure ⟨blueprint, [], rows⟩

end ConfigTimeline.Versioning
