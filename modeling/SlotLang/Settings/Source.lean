import SlotLang.Host.File
import SlotLang.Settings.Basic
import SlotLang.Text.Quoted
import SlotLang.Toml.Document

/-!
# Settings as text

A settings text names some of the six settings and leaves the others as they are by default. Keys
are looked at in the order they appear, and the first one that is unknown or whose value is not a
natural number is blamed, with the bytes of the text that are at fault.
-/

namespace SlotLang

/-- The settings, by name. -/
inductive Setting where
  | maxCallDepth
  | stackRedZone
  | stackGrowSize
  | globalCapacity
  | localCapacity
  | objectCapacity
  deriving DecidableEq

namespace Setting

/-- All settings, in the order they are listed to a host. -/
def all : List Setting :=
  [maxCallDepth, stackRedZone, stackGrowSize, globalCapacity, localCapacity, objectCapacity]

/-- The key of a setting. -/
def key : Setting → String
  | maxCallDepth => "max_call_depth"
  | stackRedZone => "stack_red_zone"
  | stackGrowSize => "stack_grow_size"
  | globalCapacity => "global_capacity"
  | localCapacity => "local_capacity"
  | objectCapacity => "object_capacity"

/-- The setting of a key. -/
def ofKey? (name : String) : Option Setting :=
  all.find? (·.key == name)

/-- The value of a setting. -/
def get (setting : Setting) (settings : Settings) : Nat :=
  match setting with
  | maxCallDepth => settings.maxCallDepth
  | stackRedZone => settings.stackRedZone
  | stackGrowSize => settings.stackGrowSize
  | globalCapacity => settings.globalCapacity
  | localCapacity => settings.localCapacity
  | objectCapacity => settings.objectCapacity

/-- The settings with another value of one. -/
def set (setting : Setting) (n : Nat) (settings : Settings) : Settings :=
  match setting with
  | maxCallDepth => { settings with maxCallDepth := n }
  | stackRedZone => { settings with stackRedZone := n }
  | stackGrowSize => { settings with stackGrowSize := n }
  | globalCapacity => { settings with globalCapacity := n }
  | localCapacity => { settings with localCapacity := n }
  | objectCapacity => { settings with objectCapacity := n }

end Setting

namespace Settings

/-- Why a text holds no settings. -/
inductive Offence where
  /-- The text is not of the format at all. -/
  | malformed
  /-- There is no setting of that name. -/
  | unknownKey (name : String) (extent : Toml.Extent)
  /-- A negative number. -/
  | negative (n : Int) (extent : Toml.Extent)
  /-- Something that is no integer. -/
  | wrongType (found : String) (extent : Toml.Extent)
  deriving DecidableEq

/-- What a value that is no integer is called. -/
def describe : Toml.Value → String
  | .string text => "string " ++ Text.quoted text
  | .integer n => "integer `" ++ toString n ++ "`"
  | .real x => "floating point `" ++ x.render ++ "`"
  | .boolean true => "boolean `true`"
  | .boolean false => "boolean `false`"
  | .date => "map"
  | .list => "sequence"
  | .inlineTable => "map"

/-- The number that an entry gives. A table that is nowhere declared is blamed at its key. -/
def number (key : Toml.Key) : Toml.Item → Except Offence Nat
  | .value (.integer n) extent => if n < 0 then .error (.negative n extent) else .ok n.toNat
  | .value v extent => .error (.wrongType (describe v) extent)
  | .table declared _ _ => .error (.wrongType "map" (declared.getD key.extent))
  | .tables extent _ => .error (.wrongType "sequence" extent)

/-- Apply entries to settings, in order. -/
def applyEntries : Toml.Entries → Settings → Except Offence Settings
  | [], settings => .ok settings
  | (key, item) :: rest, settings =>
    match Setting.ofKey? key.name with
    | none => .error (.unknownKey key.name key.extent)
    | some setting => do applyEntries rest (setting.set (← number key item) settings)

/-- The settings that a text gives. -/
def ofText (source : List Char) : Except Offence Settings :=
  match Toml.read? source with
  | none => .error .malformed
  | some entries => applyEntries entries default

namespace Offence

/-- What an offence says. -/
def message : Offence → String
  | malformed => "malformed settings"
  | unknownKey name _ =>
    "unknown field `" ++ name ++ "`, expected one of " ++
      ", ".intercalate (Setting.all.map fun setting => "`" ++ setting.key ++ "`")
  | negative n _ => "invalid value: integer `" ++ toString n ++ "`, expected usize"
  | wrongType found _ => "invalid type: " ++ found ++ ", expected usize"

/-- The part of the text at fault. -/
def extent? : Offence → Option Toml.Extent
  | malformed => none
  | unknownKey _ extent => some extent
  | negative _ extent => some extent
  | wrongType _ extent => some extent

/-- The bytes at fault. -/
def span (source : List Char) (offence : Offence) : Option Span :=
  let place (rest : List Char) := Text.byteLength source - Text.byteLength rest
  offence.extent?.map fun extent => ⟨place extent.start, place extent.stop⟩

/-- An offence as a host is told. -/
def toHostError (source : List Char) (offence : Offence) : HostError :=
  .config offence.message (offence.span source)

end Offence

/-- Read a settings text. -/
def decode (source : String) : Except HostError Settings :=
  (ofText source.toList).mapError (·.toHostError source.toList)

/-- Read a settings file. -/
def load (file : File) : Except HostError Settings := do
  decode (← file.text)

end Settings

end SlotLang
