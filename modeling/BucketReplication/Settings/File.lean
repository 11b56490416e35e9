import BucketReplication.Settings.Logging
import BucketReplication.Toml.Document

/-! # Settings files

All settings of the program, and how they are read from a TOML document or from
a file that holds one. -/

namespace BucketReplication

open Document (ReadFault Shape Fields)

structure Settings where
  logging : LoggingSettings
  setup : SetupSettings
deriving DecidableEq, Repr

inductive FileContent where
  | missing
  | directory
  | bytes (content : ByteArray)

namespace Settings

def default : Settings := ⟨.default, .default⟩

def shape : Shape Settings :=
  .converted
    (.record "Config"
      (.field "logging" LoggingSettings.shape (some default.logging)
      (.field "setup" SetupSettings.shape (some default.setup)
      .done)))
    (fun (logging, setup, ()) => ⟨logging, setup⟩)
    (fun settings => (settings.logging, settings.setup, ()))

def lastLine (text : List Char) : List Char :=
  (text.reverse.takeWhile (· ≠ '\n')).reverse

def complaintBeginnings : List String :=
  ["invalid type: ", "invalid value: ", "unknown variant `", "invalid length "]

/-- What a report on a document says in its last line about a value. -/
def complaint? (report : String) : Option String :=
  let line := lastLine report.toList
  if complaintBeginnings.any fun beginning => beginning.toList.isPrefixOf line then
    some (String.ofList line)
  else none

def checked (result : Except ReadFault Settings) : Except SettingsProblem Settings :=
  match result with
  | .error fault => .error (.document (fault.message?.bind complaint?))
  | .ok settings =>
    match settings.setup.problem? with
    | some problem => .error problem
    | none => .ok settings

/-- The settings of a TOML document. What it does not set keeps its default. -/
def ofToml (text : String) : Except SettingsProblem Settings :=
  checked (Toml.read shape text)

def ofFile (content : FileContent) : Except SettingsProblem Settings :=
  match content with
  | .missing => .error (.file .missing)
  | .directory => .error (.file .directory)
  | .bytes content =>
    match String.fromUTF8? content with
    | none => .error (.file .invalidText)
    | some text => ofToml text

end Settings

end BucketReplication
