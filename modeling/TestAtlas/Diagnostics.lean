/-!
What a run has to say about itself. An entry is a message of some severity;
diagnostics of the symbol search are for those who ask for them, and remarks on
the settings carry nothing but their text.
-/

namespace TestAtlas

inductive Severity where
  | info
  | warning
  | error
  deriving DecidableEq, Repr

/-- What an entry is about. -/
inductive Topic where
  /-- Something every user should know. -/
  | general
  /-- A detail of the symbol search. -/
  | search
  /-- A setting that cannot be used. -/
  | settings
  deriving DecidableEq, Repr

/-- A message, with what was being worked on when it was made. -/
structure Entry where
  topic : Topic
  severity : Severity
  message : String
  context : List (String × String) := []
  deriving DecidableEq, Repr

namespace Entry

def warning (message : String) : Entry := ⟨.general, .warning, message, []⟩

def error (message : String) : Entry := ⟨.general, .error, message, []⟩

def searchInfo (message : String) : Entry := ⟨.search, .info, message, []⟩

def searchWarning (message : String) : Entry := ⟨.search, .warning, message, []⟩

def searchError (message : String) : Entry := ⟨.search, .error, message, []⟩

def settingsWarning (message : String) : Entry := ⟨.settings, .warning, message, []⟩

/-- The entry as made while working on something. -/
def within (context : List (String × String)) (entry : Entry) : Entry :=
  { entry with context := entry.context ++ context }

end Entry
end TestAtlas
