import BucketReplication.Proofs.Setup.RulePriority
import BucketReplication.Proofs.Toml.Members

/-! # Settings are the defaults under what a document gives

A document gives some of the settings in its two sections. Every setting is the one
that is given or else its default, whatever else the document holds and wherever the
settings stand in it. -/

namespace BucketReplication

open Document Toml

structure GivenSettings where
  level : Option String
  format : Option LogFormat
  priorityOffset : Option UInt32
  defaultPriority : Option UInt32
  sourceKeySuffix : Option String
  destinationKeySuffix : Option String
  keyNameBucketCharacters : Option UInt64

namespace GivenSettings

variable (given : GivenSettings)

def logging : LoggingSettings :=
  ⟨given.level.getD "info", given.format.getD .pretty⟩

def setup : SetupSettings where
  priorityOffset := given.priorityOffset.getD 5
  defaultPriority := given.defaultPriority.getD 128
  sourceKeySuffix := given.sourceKeySuffix.getD "-replisrc"
  destinationKeySuffix := given.destinationKeySuffix.getD "-replidst"
  keyNameBucketCharacters := given.keyNameBucketCharacters.getD 91

def overlay : Settings :=
  ⟨given.logging, given.setup⟩

end GivenSettings

namespace Toml

def textNode (content : String) : Node :=
  .scalar (.text (some content))

def numberNode (value : Nat) : Node :=
  .scalar (.number (some (.integer value)))

/-- What stands in the section of a name. A section that does not stand in the table is
like an empty one. -/
inductive Table.HasSection (table : Table) (name : String) : Table → Prop
  | absent (missing : table.lookup name = none) : table.HasSection name .opened
  | table {inner : Table} (found : table.lookup name = some (.table inner)) :
      table.HasSection name inner
  | inline {inner : Table} (found : table.lookup name = some (.inline inner)) :
      table.HasSection name inner

end Toml

namespace GivenSettings

structure StandsInLogging (given : GivenSettings) (table : Table) : Prop where
  level : table.lookup "level" = given.level.map textNode
  format : table.lookup "format" = given.format.map fun format => textNode format.name

structure StandsInSetup (given : GivenSettings) (table : Table) : Prop where
  priorityOffset :
    table.lookup "priority_offset" = given.priorityOffset.map fun offset => numberNode offset.toNat
  defaultPriority :
    table.lookup "default_priority" =
      given.defaultPriority.map fun priority => numberNode priority.toNat
  sourceKeySuffix : table.lookup "source_key_suffix" = given.sourceKeySuffix.map textNode
  destinationKeySuffix :
    table.lookup "destination_key_suffix" = given.destinationKeySuffix.map textNode
  keyNameBucketCharacters :
    table.lookup "key_name_bucket_chars" =
      given.keyNameBucketCharacters.map fun count => numberNode count.toNat

/-- The document gives just these settings. What else it holds does not matter. -/
structure StandsIn (given : GivenSettings) (table : Table) : Prop where
  logging : ∃ inner, table.HasSection "logging" inner ∧ given.StandsInLogging inner
  setup : ∃ inner, table.HasSection "setup" inner ∧ given.StandsInSetup inner

end GivenSettings

/-! ## Settings of one section -/

section Reading

variable {α : Type} {shape : Shape α} {table : Table} {name : String} {default : α}

theorem Toml.Table.settles_of_lookup {given : Option α} {node : α → Node}
    (reads : ∀ value, shape.read .toml (node value).value = .ok value)
    (stands : table.lookup name = given.map node) :
    (∃ stored, (name, stored) ∈ table.bindings ∧
        shape.read .toml stored = .ok (given.getD default)) ∨
      (name ∉ table.bindings.map Prod.fst ∧ some default = some (given.getD default)) := by
  cases given with
  | none => exact .inr ⟨Table.not_mem_names stands, rfl⟩
  | some value => exact .inl ⟨(node value).value, Entries.mem_bindings stands, reads value⟩

theorem read_textNode (content : String) :
    Shape.text.read .toml (textNode content).value = .ok content :=
  rfl

theorem read_formatNode (format : LogFormat) :
    LogFormat.shape.read .toml (textNode format.name).value = .ok format := by
  cases format <;> rfl

theorem read_numberNode (range : NaturalRange α) (value : α) :
    (Shape.natural range).read .toml (numberNode (range.toNat value)).value = .ok value := by
  have bounded : (0 : Int) ≤ range.toNat value ∧ (range.toNat value : Int) < range.limit :=
    ⟨Int.natCast_nonneg _, Int.ofNat_lt.2 (range.toNat_lt value)⟩
  rw [Shape.read, numberNode, Node.value, NaturalRange.read, if_pos bounded, Int.toNat_natCast,
    range.ofNat_toNat]

theorem Toml.Table.HasSection.settles {inner : Table} {value : α}
    (has : table.HasSection name inner)
    (found : shape.read .toml (.record inner.members) = .ok value)
    (empty : shape.read .toml (.record Table.opened.members) = .ok default) :
    (∃ stored, (name, stored) ∈ table.bindings ∧ shape.read .toml stored = .ok value) ∨
      (name ∉ table.bindings.map Prod.fst ∧ some default = some value) := by
  cases has with
  | absent missing =>
      rw [empty, Except.ok.injEq] at found
      exact .inr ⟨Table.not_mem_names missing, congrArg some found⟩
  | table stands => exact .inl ⟨_, Entries.mem_bindings stands, found⟩
  | inline stands => exact .inl ⟨_, Entries.mem_bindings stands, found⟩

theorem Toml.Table.HasSection.tidy {inner : Table} (has : table.HasSection name inner)
    (tidy : table.Tidy) : inner.Tidy := by
  cases has with
  | absent => trivial
  | table stands => exact tidy.lookup stands
  | inline stands => exact tidy.lookup stands

end Reading

namespace GivenSettings

variable {given : GivenSettings} {table : Table}

theorem StandsInLogging.read_eq (stands : given.StandsInLogging table) (tidy : table.Tidy) :
    LoggingSettings.shape.read .toml (.record table.members) = .ok given.logging := by
  rw [LoggingSettings.shape, Shape.read, map_eq_ok_iff]
  refine ⟨(given.logging.level, given.logging.format, ()), ?_, rfl⟩
  rw [tidy.read_iff _ (by decide)]
  exact ⟨Table.settles_of_lookup read_textNode stands.level,
    Table.settles_of_lookup read_formatNode stands.format, trivial⟩

theorem StandsInSetup.read_eq (stands : given.StandsInSetup table) (tidy : table.Tidy) :
    SetupSettings.shape.read .toml (.record table.members) = .ok given.setup := by
  rw [SetupSettings.shape, Shape.read, map_eq_ok_iff]
  refine ⟨(given.setup.priorityOffset, given.setup.defaultPriority, given.setup.sourceKeySuffix,
    given.setup.destinationKeySuffix, given.setup.keyNameBucketCharacters, ()), ?_, rfl⟩
  rw [tidy.read_iff _ (by decide)]
  exact ⟨Table.settles_of_lookup (read_numberNode .word32) stands.priorityOffset,
    Table.settles_of_lookup (read_numberNode .word32) stands.defaultPriority,
    Table.settles_of_lookup read_textNode stands.sourceKeySuffix,
    Table.settles_of_lookup read_textNode stands.destinationKeySuffix,
    Table.settles_of_lookup (read_numberNode .size) stands.keyNameBucketCharacters, trivial⟩

theorem StandsIn.read_eq (stands : given.StandsIn table) (tidy : table.Tidy) :
    Settings.shape.read .toml (.record table.members) = .ok given.overlay := by
  rcases stands with ⟨⟨logging, hasLogging, inLogging⟩, ⟨setup, hasSetup, inSetup⟩⟩
  have foundLogging := inLogging.read_eq (hasLogging.tidy tidy)
  have foundSetup := inSetup.read_eq (hasSetup.tidy tidy)
  rw [Settings.shape, Shape.read, map_eq_ok_iff]
  refine ⟨(given.logging, given.setup, ()), ?_, rfl⟩
  rw [tidy.read_iff _ (by decide)]
  exact ⟨hasLogging.settles foundLogging rfl, hasSetup.settles foundSetup rfl, trivial⟩

end GivenSettings

namespace Settings

variable {given : GivenSettings} {text : String} {table : Table}

theorem checked_ok (settings : Settings) :
    checked (.ok settings) =
      if 1 ≤ settings.setup.defaultPriority.toNat ∧ settings.setup.defaultPriority.toNat ≤ 2147483647
      then .ok settings
      else .error (.defaultPriority settings.setup.defaultPriority) := by
  have valid := Rule.isValidPriority_iff settings.setup.defaultPriority
  rw [checked, SetupSettings.problem?, SetupSettings.isValid]
  by_cases inRange : Rule.isValidPriority settings.setup.defaultPriority = true
  · rw [if_pos inRange, if_pos (valid.1 inRange)]
  · rw [if_neg inRange, if_neg (mt valid.2 inRange)]

theorem ofToml_eq (parsed : tableOf? text = some table) (stands : given.StandsIn table) :
    ofToml text = checked (.ok given.overlay) := by
  rw [ofToml, Toml.read, parsed]
  exact congrArg checked (stands.read_eq (tidy_of_tableOf? parsed))

/-- Settings are read just when the default priority, given or not, is one that a rule may
have. They are the given ones and otherwise defaults, and all documents that give them
are read alike. -/
theorem given_settings_overlay_defaults (parsed : tableOf? text = some table)
    (stands : given.StandsIn table) :
    (ofToml text =
      if 1 ≤ given.setup.defaultPriority.toNat ∧ given.setup.defaultPriority.toNat ≤ 2147483647
      then .ok given.overlay
      else .error (.defaultPriority given.setup.defaultPriority)) ∧
    (∀ problem, ofToml text = .error problem →
      ∃ message, problem.toError = .configuration message) ∧
    ∀ text' table', tableOf? text' = some table' → given.StandsIn table' →
      ofToml text' = ofToml text := by
  have result := (ofToml_eq parsed stands).trans (checked_ok given.overlay)
  refine ⟨result, fun problem failed => ?_, fun text' table' parsed' stands' => ?_⟩
  · rw [result] at failed
    split at failed
    · cases failed
    · cases failed
      exact ⟨_, rfl⟩
  · rw [ofToml_eq parsed stands, ofToml_eq parsed' stands']

/-- Two settings beside an array, an unknown setting and a section of dotted keys. -/
def busyText : String :=
  "other = [1]\nsetup.extra = true\nsetup.default_priority = 7\n[logging]\nformat = 'json'"

def busyTable : Table :=
  .mk false false
    (.entry "other" (.array (.node (numberNode 1) .none))
    (.entry "setup" (.table (.mk true true
      (.entry "extra" (.scalar (.flag true))
      (.entry "default_priority" (numberNode 7)
      .none))))
    (.entry "logging" (.table (.mk false false
      (.entry "format" (textNode "json")
      .none)))
    .none)))

def briefText : String :=
  "logging = \x7bformat = \"json\"\x7d\nsetup = \x7bdefault_priority = 0x7\x7d"

def briefTable : Table :=
  .mk false false
    (.entry "logging" (.inline (.mk false false (.entry "format" (textNode "json") .none)))
    (.entry "setup" (.inline (.mk false false (.entry "default_priority" (numberNode 7) .none)))
    .none))

def busySettings : GivenSettings where
  level := none
  format := some .json
  priorityOffset := none
  defaultPriority := some 7
  sourceKeySuffix := none
  destinationKeySuffix := none
  keyNameBucketCharacters := none

theorem given_settings_overlay_defaults_busySettings :
    tableOf? busyText = some busyTable ∧ busySettings.StandsIn busyTable ∧
    tableOf? briefText = some briefTable ∧ busySettings.StandsIn briefTable ∧
    ofToml busyText = .ok ⟨⟨"info", .json⟩, ⟨5, 7, "-replisrc", "-replidst", 91⟩⟩ ∧
    ofToml briefText = ofToml busyText := by
  have busy : busySettings.StandsIn busyTable :=
    ⟨⟨_, .table rfl, ⟨rfl, rfl⟩⟩, ⟨_, .table rfl, ⟨rfl, rfl, rfl, rfl, rfl⟩⟩⟩
  have brief : busySettings.StandsIn briefTable :=
    ⟨⟨_, .inline rfl, ⟨rfl, rfl⟩⟩, ⟨_, .inline rfl, ⟨rfl, rfl, rfl, rfl, rfl⟩⟩⟩
  have parsedBusy : tableOf? busyText = some busyTable := rfl
  have parsedBrief : tableOf? briefText = some briefTable := rfl
  have inRange : 1 ≤ busySettings.setup.defaultPriority.toNat ∧
      busySettings.setup.defaultPriority.toNat ≤ 2147483647 := by
    decide
  rcases given_settings_overlay_defaults parsedBusy busy with ⟨result, -, agree⟩
  rw [if_pos inRange] at result
  exact ⟨parsedBusy, busy, parsedBrief, brief, result, agree _ _ parsedBrief brief⟩

end Settings

end BucketReplication
