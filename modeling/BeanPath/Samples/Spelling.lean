import BeanPath.Samples.Records

/-!
# Names that fit in several ways

A bean whose members differ only by spelling and convention, and a bean whose getters and setters
have different types.
-/

namespace BeanPath
namespace Sample

/-- Members that differ by spelling and convention. -/
def naming : Sample :=
  declare "Naming"
    [("first_name", .text ""), ("value2_text", .text ""), ("r#type", .text ""),
      ("été_long", .int .i32 0), ("is_open", .truth false), ("url", .text ""),
      ("parse_urlfast", .int .i32 0), ("htmlBody", .int .i32 0), ("html_body", .int .i64 0),
      ("lock", .absent .truth)]
    [.reading "title" .text fun r => .text ("t:" ++ r.text "first_name"),
      .reading "get_title" .text fun r => .text ("g:" ++ r.text "first_name"),
      .reading "is_title" .truth fun r => .truth (!(r.text "first_name").isEmpty),
      .readingField "is_num" (.int .i32) "htmlBody",
      .reading "has_lock" (.option .truth) fun r =>
        .ofOption .truth ((r.get "lock").content?.map fun b => .truth !b.asTruth),
      .readingField "is_lock" (.option .truth) "lock",
      .readingField "flag" .truth "is_open",
      .storingField "set_title" .text "first_name",
      .storingField "title_of" .text "value2_text",
      .storingField "set_is_num" (.int .i32) "htmlBody",
      .storingField "set_is_lock" (.option .truth) "lock",
      .storing "set_has_lock" .truth fun r v => r.put "lock" (.present (.truth !v.asTruth))]

/-- Adds a line to the log of a record. -/
def logged (r : Record) (line : String) : Record :=
  r.put "log" (.seq (.list .vec .text) ((r.get "log").asItems ++ [.text line]))

/-- Getters and setters of different types, with a log of some calls. -/
def mixed : Sample :=
  declare "Mixed"
    [("hold", .absent address.ty), ("raw", .int .i64 0),
      ("nums", .seq (.list .vec (.int .i32)) []), ("log", .seq (.list .vec .text) [])]
    [.readingField "spare" (.option address.ty) "hold",
      .readingField "get_amount" (.int .i64) "raw",
      .readingField "copy" (.list .vec (.int .i32)) "nums",
      .reading "read_only" address.ty fun r => (r.get "hold").content?.getD address.value,
      .reading "get_back" address.ty fun r => (r.get "hold").content?.getD address.value,
      .storing "set_spare" address.ty fun r v =>
        (logged r ("spare=" ++ (v.fieldOf "city").asText)).put "hold" (.present v),
      .storing "set_amount" (.int .i32) fun r v => r.put "raw" (.int .i64 v.asInt),
      .storing "set_copy" (.list .vec (.int .i32)) fun r v =>
        (logged r ("copy#" ++ toString v.asItems.length)).put "nums" v,
      .storing "set_only" (.option (.int .i32)) fun r v =>
        logged r (match v.content? with
          | some n => "only=Some(" ++ toString n.asInt ++ ")"
          | none => "only=None"),
      .storing "set_back" (.option address.ty) fun r v => r.put "hold" v]

end Sample
end BeanPath
