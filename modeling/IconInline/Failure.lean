/-!
# Failures

What makes an operation fail as a whole, and how each failure is worded.
-/

namespace IconInline

/-- The causes for which an operation fails. -/
inductive Failure where
  | io (message : String)
  | config (message : String)
  | pattern (glob message : String)
  | dataset (package message : String)
  | fileNotFound (path : String)
  | invalidFormat (message : String)
  deriving DecidableEq, Repr

/-- The text of a failure. -/
def Failure.display : Failure → String
  | .io message => "IO error: " ++ message
  | .config message => "Configuration error: " ++ message
  | .pattern glob message => "Invalid include pattern '" ++ glob ++ "': " ++ message
  | .dataset package message => "Dataset error in " ++ package ++ ": " ++ message
  | .fileNotFound path => "File not found: " ++ path
  | .invalidFormat message => "Invalid format: " ++ message

end IconInline
