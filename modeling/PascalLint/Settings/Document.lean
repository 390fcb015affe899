import PascalLint.Decimal.Binary64
import PascalLint.Settings
import PascalLint.Text.Quoted
import PascalLint.Toml.Document

/-! # Settings documents

Settings are read from a document in TOML in which every key is optional. A key that is no setting
is an error, and so is a value that the setting cannot have. Of several errors the one at the first
key is reported, in alphabetical order of the keys.
-/

namespace PascalLint

/-- The settings, by what they are called in a document. -/
inductive SettingKey
  | dialect
  | rule (rule : Rule)
deriving DecidableEq, Repr

namespace SettingKey

/-- All settings, in the order in which messages list them. -/
def all : List SettingKey :=
  [dialect, rule .pairedKeywords, rule .assignment, rule .ranges, rule .undeclaredNames,
   rule .caseLabels, rule .blocks]

/-- The key of a setting. -/
def name : SettingKey → String
  | dialect => "dialect"
  | rule .pairedKeywords => "paired-keywords"
  | rule .assignment => "assignment"
  | rule .ranges => "ranges"
  | rule .undeclaredNames => "unknown-identifiers"
  | rule .caseLabels => "case-labels"
  | rule .blocks => "blocks"

/-- The setting with the given key. -/
def ofName? (key : String) : Option SettingKey :=
  all.find? (·.name == key)

end SettingKey

/-- What may be wrong with a settings document. -/
inductive SettingsError
  /-- It does not follow the grammar, or gives a key twice. -/
  | malformed
  /-- It has a key that is no setting. -/
  | unknownKey (key : String)
  /-- It names a dialect that there is not. -/
  | unknownDialect (name : String)
  /-- It has something other than text for the dialect. -/
  | dialectNotText
  /-- It has a number for a rule that is too large for any type, or that is none. -/
  | unreadableNumber
  /-- It has something other than a truth value for a rule; the description says what. -/
  | notBoolean (found : String)
deriving DecidableEq, Repr

namespace SettingsError

/-- A name between grave accents. -/
def ticked (name : String) : String :=
  "`" ++ name ++ "`"

/-- The wording of an error. -/
def message : SettingsError → String
  | malformed => "invalid document"
  | unknownKey key =>
    "unknown field " ++ ticked key ++ ", expected one of "
      ++ ", ".intercalate (SettingKey.all.map fun setting => ticked setting.name)
  | unknownDialect name =>
    "unknown variant " ++ ticked name ++ ", expected " ++ ticked Dialect.standard.name ++ " or "
      ++ ticked Dialect.extended.name
  | dialectNotText => "wanted string or table"
  | unreadableNumber => "number overflowed"
  | notBoolean found => "invalid type: " ++ found ++ ", expected a boolean"

end SettingsError

namespace Toml

/-- What an integer is called in a message, by the smallest type that it fits into: 64 bits, then
    128 bits, first with a sign, then without. -/
def describeInteger? (n : Int) : Option String :=
  let shown := "integer `" ++ toString n ++ "`"
  if -Int.pow 2 63 ≤ n && n < Int.pow 2 64 then some shown
  else if -Int.pow 2 127 ≤ n && n < Int.pow 2 127 then some (shown ++ " as i128")
  else if 0 ≤ n && n < Int.pow 2 128 then some (shown ++ " as u128")
  else none

/-- The text of a floating point number; none for a finite one that is too large. -/
def FloatLiteral.render? : FloatLiteral → Option String
  | finite negative significand exponent =>
    match Decimal.toBinary significand exponent with
    | .infinite => none
    | magnitude => some ((if negative then "-" else "") ++ magnitude.render)
  | infinite negative => some (if negative then "-inf" else "inf")
  | notANumber => some "NaN"

/-- What a value is called in a message; none for a number that cannot be read. -/
def Value.describe? : Value → Option String
  | string text => some ("string " ++ Text.quoted text)
  | integer n => describeInteger? n
  | brokenInteger => none
  | float literal =>
    literal.render?.map fun text => "floating point `" ++ text ++ "`"
  | boolean b => some ("boolean `" ++ toString b ++ "`")
  | moment | table .. => some "map"
  | array _ | tables _ => some "sequence"

/-- Holds of a table or an array with nothing in it. -/
def Value.isEmptyCollection : Value → Bool
  | table _ [] | array [] => true
  | _ => false

end Toml

namespace Settings

open Toml (Value)

/-- The dialect with the given name. -/
def dialectNamed (name : String) : Except SettingsError Dialect :=
  match Dialect.ofName? name with
  | some dialect => .ok dialect
  | none => .error (.unknownDialect name)

/-- The dialect that a value names. A table with the name as its only key, and nothing under it,
    will do for a name. -/
def readDialect : Value → Except SettingsError Dialect
  | .string name => dialectNamed name
  | .table _ [(name, value)] =>
    match dialectNamed name with
    | .ok dialect => if value.isEmptyCollection then .ok dialect else .error .dialectNotText
    | .error error => .error error
  | _ => .error .dialectNotText

/-- The truth value that a value is. -/
def readBoolean : Value → Except SettingsError Bool
  | .boolean b => .ok b
  | value =>
    match value.describe? with
    | some found => .error (.notBoolean found)
    | none => .error .unreadableNumber

/-- The settings with one of them read from a value. -/
def readMember (settings : Settings) (member : String × Value) : Except SettingsError Settings :=
  match SettingKey.ofName? member.1 with
  | none => .error (.unknownKey member.1)
  | some .dialect => (readDialect member.2).map fun dialect => { settings with dialect }
  | some (.rule rule) => (readBoolean member.2).map fun value =>
    { settings with checks := settings.checks.set value rule }

/-- The settings that the text of a document gives. -/
def parse (text : List Char) : Except SettingsError Settings :=
  match Toml.parse? text with
  | none => .error .malformed
  | some members =>
    (members.mergeSort fun first second => first.1 ≤ second.1).foldlM readMember {}

end Settings

end PascalLint
