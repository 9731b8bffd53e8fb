import BeanPath.Samples.Declare

/-!
# Small records

Beans that mostly hold a few fields: an address, an item, a version that is written as text, types
that share a short name, and a pair of two values of one type.
-/

namespace BeanPath
namespace Sample

/-- A city, and perhaps a code of the district. -/
def address : Sample :=
  declare "Address" [("city", .text ""), ("zip", .absent .text)] []

/-- A single number, ordered by it. -/
def item : Sample := declare "Item" [("value", .int .i32 0)] []

/-- A single number. -/
def base : Sample := declare "Base" [("value", .int .i32 0)] []

/-- No fields at all. -/
def empty : Sample := declare "Empty" [] []

/-- A type that registers itself. -/
def selfRegistered : Sample := declare "Auto" [("flag", .truth false)] []

/-- The first of three types with the same short name. -/
def idA : Sample := declare "a::Id" [("value", .int .u8 0)] []

/-- The second of three types with the same short name. -/
def idB : Sample := declare "b::Id" [("value", .int .u16 0)] []

/-- The third of three types with the same short name. -/
def idC : Sample := declare "c::Id" [("value", .int .u32 0)] []

/-- Reads two numbers around the first point of a text. -/
def readVersion (s : String) : Option (Int × Int) := do
  let cs := s.toList
  let major := cs.takeWhile (· != '.')
  match cs.dropWhile (· != '.') with
  | [] => none
  | _ :: minor =>
    let read (ds : List Char) := (Numeral.readDigits .u32 10 ds).toOption
    return (← read major, ← read minor)

/-- A version, ordered by its numbers and written as text with a point between them. -/
def version : Sample :=
  (declare "Version" [("major", .int .u32 0), ("minor", .int .u32 0)] []).withText fun s =>
    match readVersion s with
    | some (major, minor) =>
      .ok (.bean (home ++ "Version")
        [("major", .int .u32 major), ("minor", .int .u32 minor)] [])
    | none => .error ⟨.unknown, "not a version", []⟩

/-- Two values of one type. -/
def pair (blank : Value) : Sample :=
  declare ("Pair<" ++ blank.ty.path ++ ">") [("left", blank), ("right", blank)]
    [.readingField "get_first" blank.ty "left", .storingField "set_first" blank.ty "left"]

/-- A field that is shown and one that only methods see. -/
def skipper : Sample :=
  (declare "Skipper" [("shown", .int .u32 0)]
    [.readingField "get_secret" (.int .u32) "secret",
      .storingField "set_secret" (.int .u32) "secret"]).withHidden [("secret", .int .u32 0)]

end Sample
end BeanPath
