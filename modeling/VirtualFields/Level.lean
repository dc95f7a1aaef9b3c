/-!
# Message levels
-/

namespace VirtualFields

/-- The level of a message. -/
inductive Level where
  | debug
  | trace
  deriving DecidableEq

/-- The name of a level. -/
def Level.name : Level → String
  | debug => "DEBUG"
  | trace => "TRACE"

/-- The line that shows a message: its level and its text. -/
def Level.line (level : Level) (text : String) : String :=
  level.name ++ " " ++ text

end VirtualFields
