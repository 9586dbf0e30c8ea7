import TestAtlas.Text.Split

/-!
The user database. It has an account on each line, as seven fields with colons
between them.
-/

namespace TestAtlas

structure Account where
  user : String
  /-- The user's number, as it is written. -/
  number : String
  home : String
  deriving DecidableEq, Repr

namespace Account

def ofLine? (line : String) : Option Account :=
  match Text.pieces ':' line with
  | [user, _, number, _, _, home, _] => some { user, number, home }
  | _ => none

/-- The accounts of a database. Lines that are none are passed over. -/
def all (database : String) : List Account :=
  (Text.pieces '\n' database).filterMap ofLine?

end Account
end TestAtlas
