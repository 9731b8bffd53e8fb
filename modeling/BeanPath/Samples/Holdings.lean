import BeanPath.Samples.Records

/-!
# Beans with containers and with methods that do something

Beans whose fields are containers of every kind, and beans whose setters count, clamp, refuse or
change what they store.
-/

namespace BeanPath
namespace Sample

/-- A person with an address, things and names. -/
def person : Sample :=
  declare "Person"
    [("name", .text ""), ("home", address.value),
      ("items", .seq (.list .vec item.ty) []),
      ("tags", .set (.table .tree .text) []),
      ("scores", .map (.table .tree .text (.int .i64)) []),
      ("nickname", .absent .text), ("previous", .absent address.ty)]
    [.readingField "get_name" .text "name",
      .readingField "address" address.ty "home",
      .storingField "set_name" .text "name",
      .storingField "set_address" address.ty "home"]

/-- Containers of every kind. -/
def store : Sample :=
  declare "Store"
    [("grid", .seq (.list .vec (.list .vec (.int .i32))) []),
      ("slots", .seq (.array (.option (.int .i32))) [.absent (.int .i32), .absent (.int .i32)]),
      ("bag", .set (.table .tree item.ty) []),
      ("by_id", .map (.table .tree (.int .i32) item.ty) []),
      ("opt_list", .absent (.list .vec (.int .i32))),
      ("dyn_list", .seq .dyn []), ("dyn_map", .map .dyn []), ("dyn_set", .set .dyn [])]
    []

/-- The error of a locked account. -/
def locked : ExternalError := ⟨.unknown, "account is locked", []⟩

/-- An account that refuses to be read or changed while it is locked. -/
def account : Sample :=
  declare "Account"
    [("age", .int .u32 0), ("locked", .truth false), ("code", .int .u16 0)]
    [.reading "get_pin" .text fun r => .text (toString (r.int "code")),
      .tryReading "get_age" (.int .u32) fun r =>
        if r.truth "locked" then .error locked else .ok (r.get "age"),
      .tryStoring "set_age" (.int .u32) fun r v =>
        if r.truth "locked" || v.asInt > 150 then .error locked else .ok (r.put "age" v),
      .tryStoring "set_pin" .text fun r v =>
        match Numeral.readDigits .u16 10 v.asText.toList with
        | .ok n => .ok (r.put "code" (.int .u16 n))
        | .error e => .error ⟨.unknown, "bad pin", [e.message]⟩]

/-- A level of at most one hundred. -/
def gauge : Sample :=
  declare "Gauge" [("level", .int .u8 0)]
    [.readingField "get_level" (.int .u8) "level",
      .storing "set_level" (.int .u8) fun r v => r.put "level" (.int .u8 (min v.asInt 100))]

/-- A holder that counts how often its label is set. -/
def holder : Sample :=
  declare "Holder"
    [("base", .absent base.ty), ("label", .text ""), ("items", .seq (.list .vec base.ty) []),
      ("names", .map (.table .tree .text .text) []), ("hits", .int .u32 0),
      ("meter", gauge.value)]
    [.readingField "get_label" .text "label",
      .reading "total" (.int .i32) fun r =>
        let values := (r.get "items").asItems.map fun b => (b.fieldOf "value").asInt
        .int .i32 (IntKind.i32.wrap (values.foldl (· + ·) 0)),
      .readingField "gauge" gauge.ty "meter",
      .storing "set_label" .text fun r v =>
        (r.put "hits" (.int .u32 (IntKind.u32.wrap (r.int "hits" + 1)))).put "label" v,
      .storingField "set_gauge" gauge.ty "meter"]

/-- A shelf that counts how often its stock is set. -/
def shelf : Sample :=
  declare "Shelf" [("stock", .truth false), ("restocks", .int .u32 0)]
    [.readingField "has_stock" .truth "stock",
      .storing "set_has_stock" .truth fun r v =>
        (r.put "restocks" (.int .u32 (IntKind.u32.wrap (r.int "restocks" + 1)))).put "stock" v]

/-- A page whose title is read in capitals. -/
def page : Sample :=
  declare "Page"
    [("title", .text ""), ("tags", .set (.table .tree .text) []), ("number", .absent (.int .u32))]
    [.reading "get_title" .text fun r =>
        .text (String.ofList ((r.text "title").toList.map Char.toUpper)),
      .storingField "set_title" .text "title"]

/-- A basin that clamps its depth and frames its mark. -/
def basin : Sample :=
  declare "Basin"
    [("depth", .int .i32 0), ("mark", .absent .text), ("gauge", gauge.value)]
    [.readingField "dial" gauge.ty "gauge",
      .reading "pick" (.option gauge.ty) fun r =>
        .ofOption gauge.ty (if r.int "depth" > 0 then some (r.get "gauge") else none),
      .storing "set_depth" (.int .i32) fun r v =>
        r.put "depth" (.int .i32 (max (-100) (min v.asInt 100))),
      .storing "set_pick" (.option gauge.ty) fun r v =>
        (r.put "depth" (.int .i32 (if v.content?.isSome then 1 else 0))).put "gauge"
          (v.content?.getD gauge.value),
      .storing "set_mark" (.option .text) fun r v =>
        r.put "mark" (.ofOption .text
          (v.content?.map fun mark => .text ("<" ++ mark.asText ++ ">")))]

end Sample
end BeanPath
