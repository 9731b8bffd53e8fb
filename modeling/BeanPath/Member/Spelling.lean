import BeanPath.Member.Policy
import BeanPath.Text.Letter

/-!
# Spellings of property names

A property may be asked for in camel case, and its getters and setters may carry a customary word
in front of it.  By convention a name stands for several candidates, tried in this order:

| role | candidates for `firstName` |
| --- | --- |
| field | `firstName`, `first_name` |
| getter | those, `get_first_name`, and for truth values `is_first_name`, `has_first_name` |
| setter | those, `set_first_name`, and for truth values `set_is_first_name`, `set_has_first_name` |

A mode without conventions tries the name alone.  No candidate is tried twice.
-/

namespace BeanPath

/-- A name under which a member is looked for. -/
structure Candidate where
  name : String
  /-- Only members with truth values count. -/
  truthOnly : Bool := false
  deriving DecidableEq, Repr, Inhabited

namespace Spelling

/-- Spells a name in snake case: every capital is put in lower case, and a low line comes between
it and a small letter or a digit in front of it.  The first argument says whether there is one in
front. -/
def snakeFrom : Bool → List Char → List Char
  | _, [] => []
  | afterSmall, c :: cs =>
    if Text.isUpper c then
      (if afterSmall then ['_'] else []) ++ Text.lowered c ++ snakeFrom false cs
    else c :: snakeFrom (Text.isLower c || c.isDigit) cs

/-- A name in snake case. -/
def snake (name : String) : String := String.ofList (snakeFrom false name.toList)

/-- The words in front of a property name, and whether they are for truth values only. -/
def affixes : Role → List (String × Bool)
  | .field => []
  | .getter => [("get_", false), ("is_", true), ("has_", true)]
  | .setter => [("set_", false), ("set_is_", true), ("set_has_", true)]

/-- Adds a candidate at the end unless its name is there already. -/
def addCandidate (cs : List Candidate) (c : Candidate) : List Candidate :=
  if cs.any (·.name == c.name) then cs else cs ++ [c]

/-- All spellings of a name, repetitions included. -/
def spellings (role : Role) (mode : Mode) (name : String) : List Candidate :=
  { name } ::
    if mode.usesConventions then
      { name := snake name } ::
        (affixes role).map fun (affix, truthOnly) => ⟨affix ++ snake name, truthOnly⟩
    else []

/-- The candidates for a name, each name once. -/
def candidates (role : Role) (mode : Mode) (name : String) : List Candidate :=
  (spellings role mode name).foldl addCandidate []

end Spelling
end BeanPath
