import BeanPath.Text.Blank

/-!
# Names in paths

One navigation step is a name: a text, perhaps a type qualifier in front of it (`Type=text`), and
the mark of the wildcard `*`.  In a path a backslash makes the next character literal.  A raw name
is split at the first equals sign that is not escaped; the qualifier is trimmed and must not be
empty, and then the backslashes are taken out of both parts.
-/

namespace BeanPath

/-- One navigation step. -/
structure Name where
  /-- The text, without qualifier and escapes. -/
  text : String
  /-- The type name before the equals sign. -/
  qualifier : Option String := none
  /-- A star that is not escaped. -/
  wild : Bool := false
  /-- The byte position in the path. -/
  offset : Nat := 0
  deriving DecidableEq, Repr, Inhabited

/-- What is wrong with a malformed path. -/
inductive Malformation where
  | danglingEscape
  | unclosedParenthesis
  | unclosedBracket
  | unexpectedParenthesis
  | unmatchedParenthesis
  | unmatchedBracket
  | missingSeparator
  | emptyQualifier
  deriving DecidableEq, Repr

/-- The wording of a malformation. -/
def Malformation.reason : Malformation → String
  | .danglingEscape => "dangling escape"
  | .unclosedParenthesis => "unclosed `(`"
  | .unclosedBracket => "unclosed `[`"
  | .unexpectedParenthesis => "unexpected `(`"
  | .unmatchedParenthesis => "unmatched `)`"
  | .unmatchedBracket => "unmatched `]`"
  | .missingSeparator => "expected a separator"
  | .emptyQualifier => "empty type qualifier"

/-- A malformation at a byte position. -/
structure Mistake where
  offset : Nat
  cause : Malformation
  deriving DecidableEq, Repr

/-- The number of bytes of characters. -/
def byteLength : List Char → Nat
  | [] => 0
  | c :: cs => c.utf8Size + byteLength cs

@[simp] theorem byteLength_nil : byteLength [] = 0 := rfl

@[simp] theorem byteLength_cons (c : Char) (cs : List Char) :
    byteLength (c :: cs) = c.utf8Size + byteLength cs := rfl

@[simp] theorem byteLength_append (cs ds : List Char) :
    byteLength (cs ++ ds) = byteLength cs + byteLength ds := by
  induction cs with
  | nil => exact (Nat.zero_add _).symm
  | cons c cs ih => simp only [List.cons_append, byteLength_cons, ih, Nat.add_assoc]

namespace Name

/-- The wildcard. -/
def wildcard : Name := { text := "*", wild := true }

/-- A name whose text is taken as it is: a star is no wildcard. -/
def literal (text : String) : Name := { text }

/-- The empty name, which navigation passes over. -/
def skip (n : Name) : Bool := !n.wild && n.qualifier.isNone && n.text.isEmpty

/-- The name as it is shown in messages. -/
def shown (n : Name) : String :=
  match n.qualifier with
  | some q => q ++ "=" ++ n.text
  | none => n.text

/-- Takes the backslashes out: each makes way for the character after it. -/
def unescape : List Char → List Char
  | [] => []
  | ['\\'] => []
  | '\\' :: c :: cs => c :: unescape cs
  | c :: cs => c :: unescape cs

/-- Splits a raw name at the first equals sign that is not escaped. -/
def splitQualifier : List Char → Option (List Char × List Char)
  | [] => none
  | ['\\'] => none
  | '\\' :: c :: cs => (splitQualifier cs).map fun (q, t) => ('\\' :: c :: q, t)
  | c :: cs =>
    if c = '=' then some ([], cs) else (splitQualifier cs).map fun (q, t) => (c :: q, t)

/-- Reads a raw name that starts at a byte position. -/
def read (offset : Nat) (raw : List Char) : Except Mistake Name :=
  match splitQualifier raw with
  | none => .ok ⟨String.ofList (unescape raw), none, raw == ['*'], offset⟩
  | some (q, t) =>
    let q := Text.trim q
    if q.isEmpty then .error ⟨offset, .emptyQualifier⟩
    else .ok ⟨String.ofList (unescape t), some (String.ofList (unescape q)), t == ['*'], offset⟩

end Name
end BeanPath
