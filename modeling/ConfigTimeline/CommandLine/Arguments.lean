import ConfigTimeline.Request.Wire

/-!
The arguments of the command line: options that may stand before or after the name of a command, the
name, and the options and operands of the command. Arguments are taken one by one from the left. An
option takes its value from the rest of its argument or from the next one, which then may not look
like an option; after two hyphens every argument is an operand. A value is checked when the next
option is met, so a request for help does not hide a wrong value before it.
-/

namespace ConfigTimeline.CommandLine

inductive OptionName
  | config
  | db
  | workspace
  | user
  | mask
  | page
  | size
deriving DecidableEq

namespace OptionName

/-- The name of an option after two hyphens. -/
def long : OptionName → String
  | .config => "config"
  | .db => "db"
  | .workspace => "workspace"
  | .user => "user"
  | .mask => "mask"
  | .page => "page"
  | .size => "size"

/-- The letter of an option after one hyphen. -/
def letter? : OptionName → Option Char
  | .config => some 'c'
  | .workspace => some 'w'
  | .user => some 'u'
  | _ => none

def everywhere : List OptionName := [.config, .db, .workspace, .user]

end OptionName

inductive OperandName
  | file
  | project
  | blueprint
  | env
deriving DecidableEq

def OperandName.text : OperandName → String
  | .file => "<FILE>"
  | .project => "<PROJECT>"
  | .blueprint => "<BLUEPRINT>"
  | .env => "<ENV_NAME>"

inductive CommandName
  | create
  | latest
  | get
  | env
  | delta
  | bind
  | history
deriving DecidableEq

namespace CommandName

def all : List CommandName := [.create, .latest, .get, .env, .delta, .bind, .history]

def text : CommandName → String
  | .create => "create"
  | .latest => "latest"
  | .get => "get"
  | .env => "env"
  | .delta => "delta"
  | .bind => "bind"
  | .history => "history"

def ofText? (s : String) : Option CommandName := all.find? (·.text == s)

def options : CommandName → List OptionName
  | .latest | .get | .env => [.mask]
  | .history => [.page, .size]
  | .create | .delta | .bind => []

def operands : CommandName → List OperandName
  | .create | .bind => [.file]
  | .latest | .history => [.project]
  | .get | .delta => [.blueprint]
  | .env => [.project, .env]

end CommandName

inductive UsageError
  | unexpected (arg : String)
  | unknownCommand (arg : String)
  | noCommand
  | noValue (name : OptionName)
  | invalidValue (what value : String)
  | repeated (name : OptionName)
  | missingOperand (name : String)
deriving DecidableEq

def UsageError.message : UsageError → String
  | .unexpected arg => "unexpected argument '" ++ arg ++ "' found"
  | .unknownCommand arg => "unrecognized subcommand '" ++ arg ++ "'"
  | .noCommand => "'agentcfg' requires a subcommand but one was not provided"
  | .noValue name => "a value is required for '--" ++ name.long ++ "' but none was supplied"
  | .invalidValue what value => "invalid value '" ++ value ++ "' for '" ++ what ++ "'"
  | .repeated name => "the argument '--" ++ name.long ++ "' cannot be used multiple times"
  | .missingOperand name => "the following required argument was not provided: " ++ name

/-- Why there is nothing to run. -/
inductive Halt
  | usage (e : UsageError)
  | version
  | help
deriving DecidableEq

/-- A number with or without a sign that fits into 32 bits. -/
def word? (text : String) : Option Nat :=
  match text.toList with
  | '+' :: cs => (Positional.natural? cs).filter (· ≤ Json.maxWord)
  | '-' :: cs => (Positional.natural? cs).filter (· == 0)
  | cs => (Positional.natural? cs).filter (· ≤ Json.maxWord)

/-- The name of a file, which may not be empty. -/
def file? (text : String) : Option String := if text.isEmpty then none else some text

def project? (text : String) : Option ProjectId := (ProjectId.parse text).toOption

def blueprint? (text : String) : Option BlueprintId := (Id.parse .blueprint text).toOption

def OptionName.accepts (name : OptionName) (text : String) : Bool :=
  match name with
  | .config | .db => (file? text).isSome
  | .mask => (blueprint? text).isSome
  | .page | .size => (word? text).isSome
  | .workspace | .user => true

def OperandName.accepts (name : OperandName) (text : String) : Bool :=
  match name with
  | .file => (file? text).isSome
  | .project => (project? text).isSome
  | .blueprint => (blueprint? text).isSome
  | .env => true

structure Taken where
  command : Option CommandName
  /-- The option whose value is the next argument. -/
  pending : Option OptionName
  /-- Two hyphens have been taken. -/
  escaped : Bool
  /-- The options before the command. -/
  outer : List (OptionName × String)
  /-- The options after the command. -/
  inner : List (OptionName × String)
  operands : List String

namespace Taken

def nothing : Taken := ⟨none, none, false, [], [], []⟩

/-- The options that may be given at this point. -/
def allowed (t : Taken) : List OptionName :=
  OptionName.everywhere ++ ((t.command.map CommandName.options).getD [])

/-- The options given on this side of the command. -/
def given (t : Taken) : List (OptionName × String) :=
  if t.command.isSome then t.inner else t.outer

def operandNames (t : Taken) : List OperandName := (t.command.map CommandName.operands).getD []

/-- Refuses a value that is none for its option. -/
def checkOptions (given : List (OptionName × String)) : Except Halt Unit :=
  match given.find? fun (name, text) => !name.accepts text with
  | some (name, text) => .error (.usage (.invalidValue ("--" ++ name.long) text))
  | none => .ok ()

/-- Refuses a value on this side of the command that is none for its option or operand. -/
def check (t : Taken) : Except Halt Unit := do
  checkOptions t.given
  match (t.operandNames.zip t.operands).find? fun (name, text) => !name.accepts text with
  | some (name, text) => .error (.usage (.invalidValue name.text text))
  | none => .ok ()

def set (t : Taken) (name : OptionName) (value : String) : Taken :=
  if t.command.isSome then { t with pending := none, inner := t.inner ++ [(name, value)] }
  else { t with pending := none, outer := t.outer ++ [(name, value)] }

/-- An option with its value in the same argument, or with none so far. An option may be given once
on each side of the command. -/
def option (t : Taken) (name : OptionName) (value? : Option String) : Except Halt Taken := do
  t.check
  if t.given.any (·.1 == name) then .error (.usage (.repeated name))
  else
    match value? with
    | some value =>
        let t := t.set name value
        t.check
        .ok t
    | none => .ok { t with pending := some name }

/-- Stops at a request for what the program says of itself. -/
def halt (t : Taken) (h : Halt) : Except Halt Taken := do
  t.check
  .error h

/-- The name and the value of a long option, cut at the first sign of equality. -/
def cut (cs : List Char) : List Char × Option (List Char) :=
  let name := cs.takeWhile (· != '=')
  match cs.drop name.length with
  | _ :: value => (name, some value)
  | [] => (name, none)

/-- An argument with two hyphens in front; `cs` is what follows them. -/
def long (t : Taken) (arg : String) (cs : List Char) : Except Halt Taken :=
  let (name, value?) := cut cs
  let word := String.ofList name
  match t.allowed.find? (·.long == word) with
  | some name => t.option name (value?.map String.ofList)
  | none =>
      if value?.isSome then .error (.usage (.unexpected arg))
      else if word = "help" then t.halt .help
      else if word = "version" ∧ t.command.isNone then t.halt .version
      else .error (.usage (.unexpected arg))

/-- The value that follows the letter of an option in its argument, without a sign of equality. -/
def attached : List Char → Option String
  | [] => none
  | '=' :: cs => some (String.ofList cs)
  | cs => some (String.ofList cs)

/-- An argument with one hyphen in front of a letter. -/
def short (t : Taken) (arg : String) (letter : Char) (cs : List Char) : Except Halt Taken :=
  match t.allowed.find? fun name => decide (name.letter? = some letter) with
  | some name => t.option name (attached cs)
  | none =>
      if letter = 'h' then t.halt .help
      else if letter = 'V' ∧ t.command.isNone then t.halt .version
      else .error (.usage (.unexpected arg))

/-- An operand: the name of the command, or one of its own. -/
def operand (t : Taken) (arg : String) : Except Halt Taken :=
  match t.command with
  | some _ =>
      if t.operands.length < t.operandNames.length then
        .ok { t with operands := t.operands ++ [arg] }
      else .error (.usage (.unexpected arg))
  | none =>
      if t.escaped then .error (.usage (.unexpected arg))
      else
        match CommandName.ofText? arg with
        | some command => .ok { t with command := some command }
        | none => .error (.usage (.unknownCommand arg))

def next (t : Taken) (arg : String) : Except Halt Taken :=
  if t.escaped then t.operand arg
  else
    match t.pending, arg.toList with
    | some name, '-' :: _ :: _ => .error (.usage (.noValue name))
    | some name, _ => .ok (t.set name arg)
    | none, ['-', '-'] => .ok { t with escaped := true }
    | none, '-' :: '-' :: cs => t.long arg cs
    | none, '-' :: letter :: cs => t.short arg letter cs
    | none, _ => t.operand arg

/-- Whether the next argument is the word for help, in the place of a command. -/
def asksHelp (t : Taken) (arg : String) : Bool :=
  t.command.isNone && t.pending.isNone && !t.escaped && arg == "help"

/-- What the arguments after the word for help lead to: at most one may follow, and it has to be that
word or a command. -/
def helpOn : List String → Halt
  | [] => .help
  | topic :: more =>
      if topic = "help" ∨ (CommandName.ofText? topic).isSome then
        match more with
        | [] => .help
        | other :: _ => .usage (.unknownCommand other)
      else .usage (.unknownCommand topic)

def all (t : Taken) : List String → Except Halt Taken
  | [] => .ok t
  | arg :: args =>
      if t.asksHelp arg then .error (helpOn args)
      else do
        let t ← t.next arg
        t.all args

/-- The value of an option: the one after the command, else the one before it. -/
def value? (t : Taken) (name : OptionName) : Option String :=
  (((t.inner ++ t.outer).find? (·.1 == name))).map (·.2)

end Taken

inductive Command
  | create (file : String)
  | latest (project : ProjectId) (mask : Option BlueprintId)
  | get (blueprint : BlueprintId) (mask : Option BlueprintId)
  | env (project : ProjectId) (env : String) (mask : Option BlueprintId)
  | delta (blueprint : BlueprintId)
  | bind (file : String)
  | history (project : ProjectId) (page size : Nat)

structure Invocation where
  config : Option String
  db : Option String
  who : Identity
  command : Command

def standardIdentity : Identity := ⟨"default", "cli"⟩

/-- The page number and the page size where none is given. -/
def standardPage : PageRequest := ⟨1, 10⟩

/-- A value that is read from a text, or the error that names what the text was for. -/
def readAs {α : Type} (what text : String) : Option α → Except Halt α
  | some a => .ok a
  | none => .error (.usage (.invalidValue what text))

def readOperand {α : Type} (name : OperandName) (read : String → Option α) (text : String) :
    Except Halt α :=
  readAs name.text text (read text)

def readOption {α : Type} (t : Taken) (name : OptionName) (read : String → Option α) :
    Except Halt (Option α) :=
  match t.value? name with
  | none => .ok none
  | some text => (readAs ("--" ++ name.long) text (read text)).map some

def readMask (t : Taken) : Except Halt (Option BlueprintId) := readOption t .mask blueprint?

def readCommand (t : Taken) (name : CommandName) : Except Halt Command :=
  match name, t.operands with
  | .create, [file] => do .ok (.create (← readOperand .file file? file))
  | .latest, [project] => do
      .ok (.latest (← readOperand .project project? project) (← readMask t))
  | .get, [blueprint] => do
      .ok (.get (← readOperand .blueprint blueprint? blueprint) (← readMask t))
  | .env, [project, env] => do
      .ok (.env (← readOperand .project project? project) env (← readMask t))
  | .delta, [blueprint] => do .ok (.delta (← readOperand .blueprint blueprint? blueprint))
  | .bind, [file] => do .ok (.bind (← readOperand .file file? file))
  | .history, [project] => do
      .ok (.history (← readOperand .project project? project)
        ((← readOption t .page word?).getD standardPage.page)
        ((← readOption t .size word?).getD standardPage.size))
  | name, given =>
      .error (.usage (.missingOperand ((name.operands[given.length]?.map OperandName.text).getD "")))

def Taken.finish (t : Taken) : Except Halt Invocation :=
  match t.pending, t.command with
  | some name, _ => .error (.usage (.noValue name))
  | none, none => .error (.usage .noCommand)
  | none, some name => do
      Taken.checkOptions (t.outer ++ t.inner)
      let command ← readCommand t name
      .ok ⟨t.value? .config, t.value? .db,
        ⟨(t.value? .workspace).getD standardIdentity.workspace,
          (t.value? .user).getD standardIdentity.user⟩, command⟩

def Invocation.parse (args : List String) : Except Halt Invocation := do
  let t ← Taken.nothing.all args
  t.finish

end ConfigTimeline.CommandLine
