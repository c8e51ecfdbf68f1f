import CrateAtlas.Number.Calendar
import CrateAtlas.Number.Digits

/-!
# Tokens of YAML

The tokens into which a YAML text is cut.  Indentation has tokens of its own: a block collection
starts with the first entry that is indented more deeply than what is around it, and ends where the
indentation falls back.
-/

set_option autoImplicit false

namespace CrateAtlas.Yaml

/-- A token of YAML. -/
inductive Token where
  /-- A version, by its major number. -/
  | version (major : Nat)
  /-- A short form of tags, and what it stands for. -/
  | tagDirective (handle expansion : String)
  /-- Any other directive. -/
  | directive
  | documentStart
  | documentEnd
  | blockSequence
  | blockMapping
  | blockEnd
  | flowSequence
  | flowSequenceEnd
  | flowMapping
  | flowMappingEnd
  /-- The dash before an item of a block sequence. -/
  | item
  /-- The comma between entries of a flow collection. -/
  | comma
  | key
  | value
  | reference (anchor : String)
  | anchor (name : String)
  | tag (handle : Option String) (rest : String)
  | scalar (text : String) (isPlain : Bool)
  | streamEnd
deriving DecidableEq, Repr, Inhabited

/-- Why a scalar does not have the form that its tag asks for, or has no written form. -/
inductive ScalarFault where
  | notInteger (base : Nat) (text : String)
  /-- A whole number in decimal notation has more digits than are read. -/
  | tooManyDigits (count : Nat)
  /-- A whole number has more digits than are written in decimal notation. -/
  | unwritable
  | notFloat (text : String)
  | notFlag (text : String)
  | notTimestamp
  | noSuchTime (fault : CalendarFault)
  /-- An offset from universal time, in minutes, that is a day or more. -/
  | wideOffset (minutes : Int)
  | noSuchCharacter
  | nothing
deriving DecidableEq, Repr

/-- A span of time in days and seconds, as it is shown in a fault. -/
def spanText (seconds : Int) : String :=
  let days := seconds.fdiv 86400
  let rest := seconds.fmod 86400
  "datetime.timedelta(" ++ ", ".intercalate
    ((if days = 0 then [] else ["days=" ++ toString days]) ++
      (if rest = 0 then [] else ["seconds=" ++ toString rest])) ++ ")"

/-- The words for what is wrong with a scalar. -/
def ScalarFault.message : ScalarFault → String
  | .notInteger base text =>
    "invalid literal for int() with base " ++ toString base ++ ": " ++ Text.quoted text
  | .tooManyDigits count =>
    "Exceeds the limit (" ++ toString Digits.limit ++
      " digits) for integer string conversion: value has " ++ toString count ++
      " digits; use sys.set_int_max_str_digits() to increase the limit"
  | .unwritable =>
    "Exceeds the limit (" ++ toString Digits.limit ++
      " digits) for integer string conversion; use sys.set_int_max_str_digits() to increase the limit"
  | .notFloat text => "could not convert string to float: " ++ Text.quoted text
  | .notFlag text => Text.quoted text
  | .notTimestamp => "'NoneType' object has no attribute 'groupdict'"
  | .noSuchTime fault => fault.message
  | .wideOffset minutes =>
    "offset must be a timedelta strictly between -timedelta(hours=24) and timedelta(hours=24), not "
      ++ spanText (minutes * 60) ++ "."
  | .noSuchCharacter => "chr() arg not in range(0x110000)"
  | .nothing => "string index out of range"

/-- Why a text gives no value. -/
inductive Fault where
  /-- The text is not YAML, or it does not follow the rules of the basic tags. -/
  | invalid
  | scalar (fault : ScalarFault)
deriving DecidableEq, Repr

end CrateAtlas.Yaml
