import ConfigTimeline.Service.Error
import ConfigTimeline.Store.Program

/-!
Actions: the programs of the service. A call that the store refuses ends the action.
-/

namespace ConfigTimeline

abbrev Action (α : Type) : Type := Program ServiceError α

namespace Action

variable {α : Type}

def ask (workspace : String) (c : Call) : Action c.Answer :=
  Program.ask ServiceError.ofStore workspace c

def missing (what : NotFound) : Action α := .fail (.notFound what)

def refuse (reason : ValidationError) : Action α := .fail (.invalid reason)

/-- What a call finds, or the end of the action if it finds nothing. -/
def found (what : NotFound) : Option α → Action α := Program.orFail (.notFound what)

def config (workspace : String) (project : ProjectId) : Action Config := do
  let config ← ask workspace (.configOf project)
  found (.config project) config

end Action

end ConfigTimeline
