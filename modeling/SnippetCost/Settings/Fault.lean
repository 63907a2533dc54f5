import SnippetCost.Text.Printable

/-!
# Faults in settings

What can be wrong with settings, and how each fault is put into words.
-/

namespace SnippetCost

/-- A fault in settings. -/
inductive SettingsFault where
  /-- A number outside its range; the hint says what the number is for. -/
  | outOfRange (field : String) (value least most : Nat) (hint : String)
  /-- A class name that holds a character it may not hold. -/
  | badCharacter (field : String) (char : Char)
  | missingVersion
  | unsupportedVersion (found : Nat) (supported : List Nat)
  | unknownPreset (name : Text)
  /-- A document that cannot be read, or holds other things than settings. -/
  | unreadable
deriving DecidableEq, Repr

namespace SettingsFault

/-- That no preset has a name. -/
def unknownPresetMessage (name : Text) : Text :=
  "Unknown preset '".toList ++ name
    ++ "'. Valid presets: interactive, batch, minimal".toList

/-- A fault in words; a document that cannot be read has none of its own. -/
def message? : SettingsFault → Option Text
  | outOfRange field value least most hint =>
    some <| "Invalid range for field '".toList ++ field.toList ++ "': ".toList ++ Text.ofNat value
      ++ " not in ".toList ++ Text.ofNat least ++ "..=".toList ++ Text.ofNat most ++ ". ".toList
      ++ hint.toList
  | badCharacter field char =>
    some <| "Invalid value for field '".toList ++ field.toList ++ "': character ".toList
      ++ Text.ofChar char ++ " is not allowed in a CSS class name".toList
  | missingVersion =>
    some <| ("Missing 'version' field in configuration file. " ++
      "Add 'version: 1' to the top of your YAML file.").toList
  | unsupportedVersion found supported =>
    some <| "Unsupported configuration version ".toList ++ Text.ofNat found
      ++ ". Supported versions: ".toList
      ++ List.intercalate ", ".toList (supported.map Text.ofNat)
  | unknownPreset name => some (unknownPresetMessage name)
  | unreadable => none

end SettingsFault

/-- A fault of the whole program: settings that are wrong, or a report that cannot be stored. -/
inductive Fault where
  | settings (fault : SettingsFault)
  | report (message : Text)
deriving DecidableEq, Repr

/-- A fault of the whole program in words. -/
def Fault.message? : Fault → Option Text
  | settings fault => fault.message?.map ("Configuration error: ".toList ++ ·)
  | report message => some ("Report error: ".toList ++ message)

end SnippetCost
