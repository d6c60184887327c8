import SchemaCheck.Format.Email
import SchemaCheck.Format.DateTime
import SchemaCheck.Uri.Basic

/-! The string formats that are checked. -/
namespace SchemaCheck

inductive Format where
  | email
  | uri
  | dateTime
deriving DecidableEq, Repr

namespace Format

/-- Other names name no format. -/
def ofName? : String → Option Format
  | "email" => some email
  | "uri" => some uri
  | "date-time" => some dateTime
  | _ => none

def message : Format → String
  | email => "Value must be a valid email"
  | uri => "Value must be a valid URI"
  | dateTime => "Value must be a valid date-time string"

def accepts : Format → String → Bool
  | email, text => Email.accepts text
  | uri, text => Uri.accepts text
  | dateTime, text => DateTime.accepts text

end Format
end SchemaCheck
