import SchemaCheck.Input.Error

/-! Why a command fails. -/
namespace SchemaCheck

inductive CommandError where
  | configurationUnreadable (file : String)
  | configurationMalformed (file : String)
  | schemaNotLoaded (file : String) (error : InputError)
  | schemaNotUnderstood (file : String) (error : NotASchema)
  | documentNotLoaded (file : String) (error : InputError)
  | directoryNotMade (directory : String)
  | fileNotWritten (file : String)

namespace CommandError

/-- What the command was doing. -/
def context : CommandError → String
  | configurationUnreadable file => "cannot read config file " ++ file
  | configurationMalformed file => "invalid config file " ++ file
  | schemaNotLoaded file _ => "loading schema " ++ file
  | schemaNotUnderstood file _ => "interpreting schema " ++ file
  | documentNotLoaded file _ => "loading document " ++ file
  | directoryNotMade directory => "cannot create " ++ directory
  | fileNotWritten file => "cannot write " ++ file

/-- What stood in the way, the nearest cause first. -/
def causes : CommandError → List String
  | configurationUnreadable _ => ["the file cannot be read"]
  | configurationMalformed _ => ["the content is no configuration"]
  | schemaNotLoaded _ error => [error.message]
  | schemaNotUnderstood _ error => [error.message, error.cause]
  | documentNotLoaded _ error => [error.message]
  | directoryNotMade _ => ["the directory cannot be made"]
  | fileNotWritten _ => ["the file cannot be written"]

end CommandError
end SchemaCheck
