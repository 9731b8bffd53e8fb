import BeanPath.Samples.Declare

/-!
# Chains of parents

A bean, a bean that embeds it as its parent, and one that embeds that; a bean whose parent may be
absent; and a bean that declares a parent which its instances do not have.
-/

namespace BeanPath
namespace Sample

/-- The number of bytes of a text. -/
def bytesOf (s : String) : Int := s.utf8ByteSize

/-- The bean at the root of the chain. -/
def entity : Sample :=
  declare "Entity"
    [("id", .int .i64 0), ("label", .text ""), ("active", .truth false), ("count", .int .i32 0)]
    [.readingField "get_label" .text "label",
      .readingField "is_active" .truth "active",
      .reading "size" (.int .usize) fun r => .int .usize (bytesOf (r.text "label")),
      .storingField "set_label" .text "label",
      .storingField "set_is_active" .truth "active"]

/-- A bean that embeds an entity. -/
def derived : Sample :=
  (declare "Derived"
    [("base", entity.value), ("label", .absent .text), ("count", .int .i64 0)]
    [.readingField "get_count" (.int .i64) "count"]).withParent "base"

/-- A bean that embeds a derived one. -/
def third : Sample :=
  (declare "Third" [("extra", .int .u8 0), ("derived", derived.value)]
    [.reading "get_size" .text fun r => .text ("size-" ++ toString (r.int "extra")),
      .storing "set_size" .text fun r v =>
        r.put "extra" (.int .u8 (IntKind.u8.wrap (bytesOf v.asText)))]).withParent "derived"

/-- A bean whose parent may be absent. -/
def orphan : Sample :=
  (declare "Orphan" [("inner", .absent entity.ty), ("own", .int .i32 0)] []).withParent "inner"

/-- A bean that declares more than its instances have, its parent included. -/
def manual : Sample :=
  ((declare "Manual" [("real", .int .i32 0)] []).withPhantoms
    [⟨"ghost", .text⟩, ⟨"up", entity.ty⟩]).withParent "up"

end Sample
end BeanPath
