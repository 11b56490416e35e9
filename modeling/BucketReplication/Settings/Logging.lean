import BucketReplication.Document.Shape
import BucketReplication.Settings.Problem
import BucketReplication.Text.Alphanumeric

/-! # Log settings and log filters

A filter is a list of directives separated by commas. A directive is a level or
a target by itself, or a target and a level joined by an equals sign. -/

namespace BucketReplication

open Document (Shape Fields)

inductive LogFormat where
  | pretty
  | json
deriving DecidableEq, Repr

structure LoggingSettings where
  level : String
  format : LogFormat
deriving DecidableEq, Repr

namespace LogFormat

def name : LogFormat → String
  | .pretty => "pretty"
  | .json => "json"

def shape : Shape LogFormat :=
  .choice [(pretty.name, .pretty), (json.name, .json)] name

end LogFormat

namespace LoggingSettings

def default : LoggingSettings := ⟨"info", .pretty⟩

def shape : Shape LoggingSettings :=
  .converted
    (.record "LoggingConfig"
      (.field "level" .text (some default.level)
      (.field "format" LogFormat.shape (some default.format)
      .done)))
    (fun (level, format, ()) => ⟨level, format⟩)
    (fun settings => (settings.level, settings.format, ()))

end LoggingSettings

namespace LogFilter

def levelNames : List (List Char) :=
  ["off", "error", "warn", "info", "debug", "trace"].map String.toList

/-- A level given as a number from 0 to 5, with any leading zeros and with an
optional plus sign. -/
def isLevelNumber (text : List Char) : Bool :=
  let digits :=
    match text with
    | '+' :: rest => rest
    | _ => text
  !digits.isEmpty && digits.all Char.isDigit && Text.valueOfDigits 10 digits ≤ 5

/-- A level by name or number. The case of a name does not matter, and no level
at all is the highest one. -/
def isLevel (text : List Char) : Bool :=
  text.isEmpty || isLevelNumber text || levelNames.contains (text.map Char.toLower)

def beginsTarget (c : Char) : Bool :=
  Text.isAlphanumeric c || c = '-' || c = ':' || c = '_'

def splitAtCommas : List Char → List (List Char)
  | [] => [[]]
  | c :: rest =>
    match splitAtCommas rest with
    | [] => [[c]]
    | first :: others => if c = ',' then [] :: first :: others else (c :: first) :: others

def trim (text : List Char) : List Char :=
  ((text.dropWhile Text.isWhite).reverse.dropWhile Text.isWhite).reverse

/-- What is wrong with a directive. White space around it does no harm to a
level or a target by itself, but spoils a level behind an equals sign. -/
def directiveProblem? (directive : List Char) : Option FilterProblem :=
  let trimmed := trim directive
  match trimmed with
  | [] => some .directive
  | first :: _ =>
    if !beginsTarget first then some .directive
    else
      match trimmed.dropWhile (· ≠ '=') with
      | [] => none
      | _ :: level => if trimmed = directive && isLevel level then none else some .level

def problem? (filter : String) : Option FilterProblem :=
  ((splitAtCommas filter.toList).filter fun directive => !directive.isEmpty).findSome?
    directiveProblem?

end LogFilter

namespace LoggingSettings

/-- Start the log while another one is in use. A filter from the environment
takes the place of the configured one unless it is refused; that another log is
in use is found after the filter is accepted. -/
def startProblem (settings : LoggingSettings) (environment : Option String) :
    SettingsProblem :=
  let accepted :=
    match environment with
    | none => false
    | some filter => (LogFilter.problem? filter).isNone
  if accepted then .logInUse
  else
    match LogFilter.problem? settings.level with
    | some problem => .logFilter settings.level problem
    | none => .logInUse

end LoggingSettings

end BucketReplication
