/-! What stops a run. The fate of a single record is never an error; it is a verdict. -/
namespace RegistrySeeding

inductive Error where
  | sourceUnreadable (detail : String)
  | sourceMalformed (collection message : String)
  | registry (detail : String)
  | cancelled
  | invalidConfigValue (detail : String)
  | unexpected (detail : String)
  deriving DecidableEq, Repr

namespace Error

def message : Error → String
  | sourceUnreadable detail => "Failed to read record source: " ++ detail
  | sourceMalformed collection message =>
    "Failed to parse " ++ collection ++ " records: " ++ message
  | registry detail => "Registry request failed: " ++ detail
  | cancelled => "Operation cancelled"
  | invalidConfigValue detail => "Invalid configuration value: " ++ detail
  | unexpected detail => "Unexpected error: " ++ detail

def isCancelled : Error → Bool
  | cancelled => true
  | _ => false

end Error
end RegistrySeeding
