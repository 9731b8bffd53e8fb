import BeanPath.Registry
import BeanPath.Samples.Holdings
import BeanPath.Samples.Lineage
import BeanPath.Samples.Spelling

/-!
# The sample schema

All sample beans as one schema, a table of types over them, and the registries made from it.
-/

namespace BeanPath
namespace Sample

/-- The sample beans. -/
def all : List Sample :=
  [address, item, entity, derived, third, orphan, person, store, account, base, gauge, holder,
    shelf, page, naming, mixed, pair (.int .i32 0), pair (.text ""), pair (.absent (.int .i32)),
    skipper, version, selfRegistered, empty, basin, manual, idA, idB, idC]

/-- The measure of the sample beans: what embeds a bean, at whatever depth, is larger. -/
def extent (path : String) : Nat :=
  if path = third.bean.path || path = orphan.bean.path then 2
  else if path = derived.bean.path || path = manual.bean.path then 1
  else 0

/-- The schema of the sample beans. -/
def schema : Schema where
  beans := all.map (·.bean)
  extent := extent
  parent_lt := by decide +kernel

/-- A type that offers nothing but its path. -/
def handle : Ty := .sealed (home ++ "Handle")

/-- Integers. -/
private def i32 : Ty := .int .i32

/-- The table of types. -/
def types : List Ty :=
  [.truth, .scalar .char, .int .u8, .int .u16, .int .u32, .int .u64, .int .u128, .int .usize,
    .int .i8, .int .i16, i32, .int .i64, .int .i128, .int .isize, .scalar (.float .f32),
    .scalar (.float .f64), .text, .scalar .typeRef]
  ++ [.truth, i32, .int .u8, .int .u32, .scalar (.float .f64), .scalar .char, .text, .option i32,
      .scalar .typeRef, version.ty, address.ty, base.ty, entity.ty, person.ty, .list .vec i32,
      holder.ty].map Ty.option
  ++ [i32, .int .u8, .scalar (.float .f64), .text, .option i32, .list .vec i32, item.ty, base.ty,
      .option item.ty, .set .tree i32, .map .tree .text (.int .i64), person.ty].map
        (Ty.list .vec)
  ++ [.int .u8, i32, .text].map (Ty.list .deque)
  ++ [.array (.int .u8) 3, .array i32 0, .array item.ty 2, .array (.option i32) 2,
      .array (.array i32 2) 2]
  ++ [(.text, .text), (.text, .int .i64), (.text, item.ty), (.text, .list .vec i32),
      (.int .i64, .text), (i32, .int .u8), (i32, item.ty), (i32, .option .text),
      (.int .i16, .int .u8), (.int .i8, .int .u8), (.int .u64, .int .u8), (.int .u128, .int .u8),
      (.truth, .int .u8), (.scalar .char, .int .u8), (.scalar .typeRef, .int .u8),
      (version.ty, .int .u8), (.option i32, .int .u8),
      (.text, .map .tree .text (.int .i64))].map (fun (k, v) => Ty.map .tree k v)
  ++ [.map .hash .text (.int .i64), .map .hash i32 item.ty, .map .fixedHash (.int .i16) .text]
  ++ [.text, i32, .scalar .char, .truth, item.ty, version.ty, .option i32, .scalar .typeRef,
      .list .vec i32].map (Ty.set .tree)
  ++ [.set .hash (.int .i64), .set .hash .text, .set .fixedHash (.scalar .char)]
  ++ [.dynList, .dynMap, .dynSet]
  ++ [address, item, entity, derived, third, orphan, person, store, account, base, gauge, holder,
      shelf, page, naming, mixed, pair (.int .i32 0), pair (.text ""),
      pair (.absent (.int .i32)), skipper, version, selfRegistered, empty, basin].map ty
  ++ [handle, manual.ty, idA.ty, idB.ty, idC.ty, .any]

/-- A fresh registry over the sample schema. -/
def freshRegistry : Registry := Registry.fresh schema [selfRegistered.ty]

/-- A fresh registry with all types of the table. -/
def fullRegistry : Registry := freshRegistry.registerAll schema types

end Sample
end BeanPath
