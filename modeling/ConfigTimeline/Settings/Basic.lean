import ConfigTimeline.Json.Value
import ConfigTimeline.Service.Pinning
import ConfigTimeline.Toml.Parser

/-!
Settings of the service, kept as TOML. Every setting has a default, so an empty document is valid;
tables and keys that are not known are passed over.
-/

namespace ConfigTimeline

inductive LogFormat
  /-- As JSON unless somebody watches. -/
  | auto
  | json
  | text
deriving DecidableEq

namespace LogFormat

def word : LogFormat → String
  | .auto => "auto"
  | .json => "json"
  | .text => "text"

def ofWord? (s : String) : Option LogFormat :=
  if s = "auto" then some .auto
  else if s = "json" then some .json
  else if s = "text" then some .text
  else none

/-- Whether log lines are JSON, where the format alone tells. -/
def usesJson? : LogFormat → Option Bool
  | .auto => none
  | .json => some true
  | .text => some false

end LogFormat

structure LogSettings where
  format : LogFormat
  filter : String
deriving DecidableEq

/-- The settings of a database: the path of its file, and how long to wait for it. -/
structure DatabaseSettings where
  path : String
  busyMillis : Nat
deriving DecidableEq

structure Settings where
  maskPolicy : MaskPolicy
  logging : LogSettings
  database : DatabaseSettings
deriving DecidableEq

namespace LogSettings

def standard : LogSettings := ⟨.auto, "info"⟩

def fields : List String := ["format", "filter"]

def ofToml (v : Toml) : Option LogSettings :=
  match v.slots fields with
  | some [format, filter] => do
      let format ←
        match format with
        | none => some standard.format
        | some v => v.caseName?.bind LogFormat.ofWord?
      let filter ←
        match filter with
        | none => some standard.filter
        | some v => v.text?
      some ⟨format, filter⟩
  | _ => none

def toJson (s : LogSettings) : Json :=
  .record [("format", .text s.format.word), ("filter", .text s.filter)]

end LogSettings

namespace DatabaseSettings

def standard : DatabaseSettings := ⟨"agentcfg.db", 5000⟩

def fields : List String := ["path", "busy_timeout_ms"]

/-- Reads the settings of a database, whose path has the given default if any. -/
def read (path? : Option String) (v : Toml) : Option DatabaseSettings :=
  match v.slots fields with
  | some [path, busy] => do
      let path ←
        match path with
        | none => path?
        | some v => v.text?
      let busyMillis ←
        match busy with
        | none => some standard.busyMillis
        | some v => v.nat?
      some ⟨path, busyMillis⟩
  | _ => none

/-- The settings of a database within those of the service, where the path has a default. -/
def ofToml (v : Toml) : Option DatabaseSettings := read (some standard.path) v

/-- The settings of a database on their own, where the path is required. -/
def ofDocument (s : String) : Option DatabaseSettings := (Toml.parse s).bind (read none)

def toJson (s : DatabaseSettings) : Json :=
  .record [("path", .text s.path), ("busy_timeout_ms", .nat s.busyMillis)]

end DatabaseSettings

def MaskPolicy.ofToml (v : Toml) : Option MaskPolicy :=
  match v.slots ["mask_binding"] with
  | some [none] => some .standard
  | some [some v] => v.caseName?.bind MaskPolicy.ofText?
  | _ => none

namespace Settings

def standard : Settings := ⟨.standard, .standard, .standard⟩

def fields : List String := ["environments", "logging", "store"]

def orStandard {α : Type} (value : α) (read : Toml → Option α) : Option Toml → Option α
  | none => some value
  | some v => read v

def ofToml (v : Toml) : Option Settings :=
  match v.slots fields with
  | some [environments, logging, store] => do
      some ⟨← orStandard .standard MaskPolicy.ofToml environments,
        ← orStandard .standard LogSettings.ofToml logging,
        ← orStandard .standard DatabaseSettings.ofToml store⟩
  | _ => none

def ofDocument (s : String) : Option Settings := (Toml.parse s).bind ofToml

def toJson (s : Settings) : Json :=
  .record [("environments", .record [("mask_binding", .text s.maskPolicy.text)]),
    ("logging", s.logging.toJson), ("store", s.database.toJson)]

end Settings

end ConfigTimeline
