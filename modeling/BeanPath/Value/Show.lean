import BeanPath.Number.Shortest
import BeanPath.Schema
import BeanPath.Text.Printable

/-!
# The text of values

Values are shown in messages.  A value is first outlined: a word, or brackets around items that may
be labelled.  An outline is then laid out on one line, or with one item per line, indented by four
blanks and followed by a comma.

Quoted text escapes the quote around it, the backslash and the characters that show nothing by
themselves or extend the one before.
-/

namespace BeanPath

namespace Text

/-- The escape of a character by its code point. -/
def codePoint (c : Char) : List Char :=
  ['\\', 'u', '\x7b'] ++ Nat.toDigits 16 c.toNat ++ ['\x7d']

/-- A character inside quotes. -/
def quotedChar (quote c : Char) : List Char :=
  if c = '\x00' then ['\\', '0']
  else if c = '\t' then ['\\', 't']
  else if c = '\r' then ['\\', 'r']
  else if c = '\n' then ['\\', 'n']
  else if c = '\\' || c = quote then ['\\', c]
  else if isExtender c || !isPrintable c then codePoint c
  else [c]

/-- A text between quotes. -/
def quoted (quote : Char) (cs : List Char) : String :=
  String.ofList (quote :: cs.flatMap (quotedChar quote) ++ [quote])

end Text

/-- The layout of floating-point numbers inside values: the positional form reaches from one
ten-thousandth to below ten to the sixteenth. -/
def Value.floatLayout : FloatLayout := ⟨-4, 15, "NaN", "inf"⟩

/-- The brackets around the parts of a shown value. -/
inductive Bracket where
  | round | square | curly
  /-- Braces around named fields, set off from the name in front of them. -/
  | fields
  deriving DecidableEq, Repr

namespace Bracket

/-- The opening bracket on a line with its items. -/
def openFlat : Bracket → String
  | round => "("
  | square => "["
  | curly => "\x7b"
  | fields => " \x7b "

/-- The closing bracket on a line with its items. -/
def closeFlat : Bracket → String
  | round => ")"
  | square => "]"
  | curly => "\x7d"
  | fields => " \x7d"

/-- The opening bracket at the end of a line. -/
def openLine : Bracket → String
  | round => "("
  | square => "["
  | curly => "\x7b"
  | fields => " \x7b"

/-- The closing bracket on a line of its own. -/
def closeLine : Bracket → String
  | round => ")"
  | square => "]"
  | curly | fields => "\x7d"

/-- The brackets around nothing: fields leave none. -/
def empty : Bracket → String
  | round => "()"
  | square => "[]"
  | curly => "\x7b\x7d"
  | fields => ""

end Bracket

/-- The outline of a shown value. -/
inductive Outline where
  | word (text : String)
  /-- A label, a colon and what is labelled. -/
  | entry (label content : Outline)
  | group (head : String) (bracket : Bracket) (items : List Outline)

namespace Outline

mutual

/-- The outline on one line. -/
def flat : Outline → String
  | word text => text
  | entry label content => label.flat ++ ": " ++ content.flat
  | group head bracket [] => head ++ bracket.empty
  | group head bracket (item :: items) =>
    head ++ bracket.openFlat ++ String.intercalate ", " (item.flat :: flatItems items)
      ++ bracket.closeFlat
termination_by structural o => o

/-- The items on one line. -/
def flatItems : List Outline → List String
  | [] => []
  | item :: items => item.flat :: flatItems items

end

/-- Puts two runs of lines together, with a text between the last line of the first and the first
line of the second. -/
def joinLines (front : List String) (mid : String) (back : List String) : List String :=
  front.dropLast ++ (front.getLastD "" ++ mid ++ back.headD "") :: back.tail

/-- Indents lines and puts a comma behind the last. -/
def asItem (lines : List String) : List String :=
  (joinLines lines "," []).map ("    " ++ ·)

mutual

/-- The lines of the outline with one item per line. -/
def lines : Outline → List String
  | word text => [text]
  | entry label content => joinLines label.lines ": " content.lines
  | group head bracket [] => [head ++ bracket.empty]
  | group head bracket (item :: items) =>
    (head ++ bracket.openLine) :: (asItem item.lines ++ itemLines items) ++ [bracket.closeLine]
termination_by structural o => o

/-- The lines of the items. -/
def itemLines : List Outline → List String
  | [] => []
  | item :: items => asItem item.lines ++ itemLines items

end

/-- The outline with one item per line. -/
def pretty (o : Outline) : String := String.intercalate "\n" o.lines

end Outline

/-- The outline of an atom. -/
def Atom.outline : Atom → Outline
  | .bool b => .word (if b then "true" else "false")
  | .char c => .word (Text.quoted '\'' [c])
  | .int _ n => .word (toString n)
  | .float k bits => .word (Value.floatLayout.write k bits)
  | .text s => .word (Text.quoted '"' s.toList)
  | .typeRef t => .group "TypeRef" .round [.word (Text.quoted '"' t.path.toList)]

namespace Schema

variable (S : Schema)

mutual

/-- The outline of a value.  A bean shows the declared fields that it has, in the order of their
declaration. -/
def outline : Value → Outline
  | .atom a => a.outline
  | .sealed path _ => .word ("Reflect(" ++ path ++ ")")
  | .absent _ => .word "None"
  | .present v => .group "Some" .round [outline v]
  | .seq _ vs => .group "" .square (outlineList vs)
  | .map _ es => .group "" .curly (outlineEntries es)
  | .set _ vs => .group "" .curly (outlineList vs)
  | .bean path fields _ =>
    let shown := outlineFields fields
    let names := ((S.bean? path).map (·.fields.map (·.name))).getD []
    .group (shortName path) .fields
      (names.filterMap fun n => (shown.lookup n).map (.entry (.word n)))
termination_by structural v => v

/-- The outlines of a list of values. -/
def outlineList : List Value → List Outline
  | [] => []
  | v :: vs => outline v :: outlineList vs

/-- The outlines of entries. -/
def outlineEntries : List (Value × Value) → List Outline
  | [] => []
  | (k, v) :: es => .entry (outline k) (outline v) :: outlineEntries es

/-- The outlines of fields. -/
def outlineFields : List (String × Value) → List (String × Outline)
  | [] => []
  | (n, v) :: fs => (n, outline v) :: outlineFields fs

end

/-- A value on one line. -/
def render (v : Value) : String := (S.outline v).flat

/-- A value with one part per line. -/
def renderPretty (v : Value) : String := (S.outline v).pretty

end Schema
end BeanPath
