/-!
# Log records

What the stages of an analysis have to say while they work.  A stage notes a level and a message;
where it runs — the operation, the image — is context that the record gets from outside.
-/

namespace ImageImports.Log

/-- How grave a record is. -/
inductive Level where
  | debug
  | info
  | warning
  | error
  | critical
  deriving DecidableEq, Inhabited

/-- The word a level is written as. -/
def Level.word : Level → String
  | debug => "DEBUG"
  | info => "INFO"
  | warning => "WARNING"
  | error => "ERROR"
  | critical => "CRITICAL"

/-- The rank by which levels are compared with a threshold. -/
def Level.rank : Level → Nat
  | debug => 10
  | info => 20
  | warning => 30
  | error => 40
  | critical => 50

/-- A record with the operation it was noted in, the image left to whoever collects it. -/
structure Record where
  level : Level
  operation : Option String := none
  message : String
  deriving DecidableEq, Inhabited

/-- A record noted inside an operation. -/
def Record.within (operation : String) (r : Record) : Record := { r with operation := some operation }

end ImageImports.Log
