/-!
# Short names of types

A type path is made of delimiters and of runs between them, and each run may be qualified by
modules.  The short name keeps the delimiters and, of every run, what follows the last `::`;
colons are paired from the left.
-/

namespace BeanPath
namespace ShortName

/-- The characters that end a run in a type path. -/
def isDelimiter (c : Char) : Bool :=
  ['<', '>', ',', ' ', '(', ')', '[', ']', ';', '&', '*'].contains c

/-- Drops the modules of every run.  The first argument is the current run so far, last character
first: it is forgotten at a pair of colons and written at a delimiter. -/
def strip : List Char → List Char → List Char
  | run, [] => run.reverse
  | _, ':' :: ':' :: cs => strip [] cs
  | run, c :: cs =>
    if isDelimiter c then run.reverse ++ c :: strip [] cs else strip (c :: run) cs

end ShortName

/-- The type path without module names. -/
def shortName (path : String) : String := String.ofList (ShortName.strip [] path.toList)

end BeanPath
