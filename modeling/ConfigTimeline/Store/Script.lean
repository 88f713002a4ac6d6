import ConfigTimeline.Store.Program

/-!
Scripts: lists of programs that are attempted one after another within one unit of work. The answer
of each is kept, whether it ended well or failed. A script either goes on after a failure or stops at
it, and a script that stops fails as a whole.
-/

namespace ConfigTimeline

/-- What a script does after a failure. -/
inductive OnFailure
  | stop
  | proceed
deriving DecidableEq

namespace Script

variable {ε α : Type}

/-- The attempts of a script in turn, after those whose answers are given, newest first. A script
that stops fails with all answers and the failure that stopped it. -/
def attempts (policy : OnFailure) (before : List (Except ε α)) :
    List (Program ε α) → Program (List (Except ε α) × ε) (List (Except ε α))
  | [] => .done before.reverse
  | p :: rest =>
      (p.attempt : Program _ (Except ε α)).bind fun answer =>
        match answer, policy with
        | .error e, .stop => .fail ((answer :: before).reverse, e)
        | _, _ => attempts policy (answer :: before) rest

def program (policy : OnFailure) (steps : List (Program ε α)) :
    Program (List (Except ε α) × ε) (List (Except ε α)) :=
  attempts policy [] steps

end Script

end ConfigTimeline
