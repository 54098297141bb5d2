import TreeScript.Calendar
import TreeScript.Numeric.Numeral

/-! # Why a text holds no document

Most texts that hold no document are not in the notation at all. A few are, but a scalar in them is
spelled like a number, a date or a character code and stands for none; this is reported by its
cause.
-/

namespace TreeScript.Yaml

/-- A scalar that is spelled right and stands for nothing. -/
inductive BadScalar where
  /-- A text that is no integer of a base, after its sign and the mark of the base. -/
  | notInteger (base : Nat) (text : String)
  | notDouble (text : String)
  /-- A text without any digits where a number is asked for. -/
  | noDigits
  | notTruth (text : String)
  | notTime
  | calendar (cause : CalendarError)
  /-- A code beyond the last character. -/
  | noCharacter
  /-- A code that does not even fit into a signed word of 32 bits. -/
  | codeTooLarge
  deriving DecidableEq

def BadScalar.message : BadScalar → String
  | notInteger base text => Numeral.refusal base text
  | notDouble text => "could not convert string to float: " ++ SourceText.quote text
  | noDigits => "string index out of range"
  | notTruth text => SourceText.quote text
  | notTime => "'NoneType' object has no attribute 'groupdict'"
  | calendar cause => cause.message
  | noCharacter => "chr() arg not in range(0x110000)"
  | codeTooLarge => "Python int too large to convert to C int"

/-- Whether a cause is not met as an unfit value, so that it ends a whole run. -/
def BadScalar.isFatal : BadScalar → Bool
  | noDigits | notTruth _ | notTime | codeTooLarge => true
  | notInteger _ _ | notDouble _ | calendar _ | noCharacter => false

inductive Problem where
  | malformed
  | badScalar (cause : BadScalar)
  deriving DecidableEq

end TreeScript.Yaml
