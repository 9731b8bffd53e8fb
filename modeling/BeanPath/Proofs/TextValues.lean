import BeanPath.Conversion.OfText
import BeanPath.Proofs.Adaptation
import BeanPath.Samples.Records

/-!
# Values made from text

What a text is read as has the wanted type, by the case of the type; the only thing taken on trust
is that a constructor from text makes values of the type that it belongs to (`Schema.MakesOwn`).  An
optional is read as its content, and because that has the content type, the layer can always be put
over it (`Scope.ofText_option`).  So any number of layers goes through reading unchanged
(`Scope.ofText_wrapped`), none of them is absent, and adapting to the wanted type finds nothing to
do.
-/

namespace BeanPath

/-- The constructors from text make values of the types that they belong to. -/
structure Schema.MakesOwn (S : Schema) : Prop where
  bean : ∀ b ∈ S.beans, ∀ make ∈ b.fromText, ∀ text v, make text = .ok v → v.ty = .bean b.path
  sealed : ∀ path, ∀ make ∈ S.sealedFromText path, ∀ text v, make text = .ok v →
    v.ty = .sealed path

/-- Layers over a type do not change what is under them. -/
theorem Ty.core_wrapped (t : Ty) (n : Nat) : (t.wrapped n).core = t.core := by
  induction n with
  | zero => rfl
  | succ n ih => exact ih

/-- Under all optional layers there are no more. -/
theorem Ty.core_core (t : Ty) : t.core.core = t.core := by
  induction t with
  | option t ih => exact ih
  | _ => rfl

/-- What a scalar type reads from a text is of that type. -/
theorem Scalar.ty_of_ofText? {s : Scalar} {make : TextConstructor} (h : s.ofText? = some make)
    {text : String} {v : Value} (hv : make text = .ok v) : v.ty = .scalar s := by
  cases s with
  | bool =>
    cases h
    dsimp only at hv
    split at hv
    · cases hv; rfl
    · split at hv <;> cases hv
      rfl
  | char =>
    cases h
    dsimp only at hv
    match text.toList, hv with
    | [_], hv => cases hv; rfl
  | int k =>
    cases h
    obtain ⟨n, -, rfl⟩ := map_eq_ok_iff.1 (mapError_eq_ok_iff.1 hv)
    rfl
  | float k =>
    cases h
    obtain ⟨bits, -, rfl⟩ := map_eq_ok_iff.1 (mapError_eq_ok_iff.1 hv)
    rfl
  | text => cases h; cases hv; rfl
  | typeRef => cases h

/-- What a type makes from a text is of that type, if its constructor makes values of its own. -/
theorem Schema.ty_of_construct? {S : Schema} (hS : S.MakesOwn) {t : Ty} {text : String} {v : Value}
    (h : S.construct? t text = some (.ok v)) : v.ty = t := by
  obtain ⟨make, hmake, hv⟩ := Option.map_eq_some_iff.1 h
  have made : make text = .ok v := mapError_eq_ok_iff.1 hv
  cases t with
  | scalar s => exact Scalar.ty_of_ofText? hmake made
  | sealed path => exact hS.sealed path make hmake text v made
  | bean path =>
    obtain ⟨b, hb, hfrom⟩ := Option.bind_eq_some_iff.1 hmake
    have hpath : b.path = path := by simpa using List.find?_some hb
    exact hpath ▸ hS.bean b (List.mem_of_find?_eq_some hb) make hfrom text v made
  | _ => cases hmake

namespace Scope

variable {C : Scope} {text : String}

/-- A text that is read as a scalar gives a value of that type. -/
theorem ty_of_scalarOfText {s : Scalar} {v : Value} (h : C.scalarOfText text s = .ok v) :
    v.ty = .scalar s := by
  cases s with
  | text => cases h; rfl
  | bool => cases h; rfl
  | int k =>
    obtain ⟨n, -, rfl⟩ := map_eq_ok_iff.1 h
    rfl
  | float k =>
    obtain ⟨bits, -, rfl⟩ := map_eq_ok_iff.1 (mapError_eq_ok_iff.1 h)
    rfl
  | char =>
    rw [scalarOfText] at h
    split at h <;> cases h
    rfl
  | typeRef =>
    obtain ⟨t, -, rfl⟩ := map_eq_ok_iff.1 h
    rfl

/-- What is made where a constructor is called if there is one. -/
theorem ty_of_made (hC : C.schema.MakesOwn) (text : String) {t : Ty} {v : Value}
    (h : (match C.schema.construct? t text with
      | some result => Fault.lift result
      | none => .error (Problem.noTextConstructor t).failure) = .ok v) : v.ty = t := by
  cases hc : C.schema.construct? t text with
  | none => rw [hc] at h; cases h
  | some result =>
    rw [hc] at h
    cases mapError_eq_ok_iff.1 h
    exact Schema.ty_of_construct? hC hc

section
variable (hC : C.schema.MakesOwn) {t : Ty} (ht : t.core ≠ .any)
include hC ht

/-- What a text is read as has the wanted type. -/
theorem ty_of_ofText {v : Value} (h : C.ofText text t = .ok v) : v.ty = t := by
  induction t generalizing v with
  | any => exact absurd rfl ht
  | scalar s => exact ty_of_scalarOfText (mapError_eq_ok_iff.1 h)
  | option t ih =>
    obtain ⟨w, hw, hv⟩ := bind_eq_ok_iff.1 h
    obtain ⟨-, rfl⟩ := Value.inOption_eq_ok_iff.1 (liftFault_eq_ok_iff.1 hv)
    exact congrArg Ty.option (ih ht hw)
  | _ => exact ty_of_made hC text h

/-- An optional is read as its content, and the layer can always be put over it. -/
theorem ofText_option : C.ofText text (.option t) = (C.ofText text t).map .present := by
  show (do let v ← C.ofText text t; Fault.lift (v.inOption t)) = _
  cases h : C.ofText text t with
  | error e => rfl
  | ok v => rw [bind_ok, Value.inOption, if_pos (ty_of_ofText hC ht h)]; rfl

/-- Reading as a type with layers is reading as the type under them, and putting the layers over
what was read; a failure is the same. -/
theorem ofText_wrapped (n : Nat) :
    C.ofText text (t.wrapped n) = (C.ofText text t).map (Value.wrapped · n) := by
  induction n with
  | zero => cases h : C.ofText text t <;> simp [Ty.wrapped, h, Except.map, Value.wrapped]
  | succ n ih =>
    rw [Ty.wrapped, ofText_option hC (by rwa [Ty.core_wrapped]), ih]
    cases C.ofText text t <;> rfl

/-- No layer of what a text is read as is absent: it is the number of layers of the wanted type over
what the text is read as without them. -/
theorem payload?_of_ofText {v : Value} (h : C.ofText text t = .ok v) : v.payload? ≠ none := by
  have core : t.core.core ≠ .any := by rwa [Ty.core_core]
  rw [← t.wrapped_core_layers, ofText_wrapped hC core] at h
  obtain ⟨x, hx, rfl⟩ := map_eq_ok_iff.1 h
  have plain : x.ty.kind ≠ .optional := ty_of_ofText hC core hx ▸ t.kind_core
  rw [Value.payload?_wrapped, Value.payload?_of_kind plain]
  nofun

end

/-- **A text gives a value of the wanted type, or nothing.**  What a text is read as is of the
wanted type (a text, where any value is wanted), has no absent layer, and is left as it is by
adapting it to that type.  A number of optional layers over a type other than that of all values
goes through reading: the text is read as before, failures included, and the layers are put over the
result.  So putting a layer over what was read never fails. -/
theorem text_gives_the_wanted_type (C : Scope) (hC : C.schema.MakesOwn) (text : String) {t : Ty}
    (ht : t.Proper) :
    (∀ v, C.ofText text t = .ok v →
      v.ty = (if t = .any then .text else t) ∧ v.payload? ≠ none ∧
        Value.adapt? (some v) t = .ok v) ∧
    (t ≠ .any →
      (∀ n, C.ofText text (t.wrapped n) = (C.ofText text t).map (Value.wrapped · n)) ∧
      ∀ v, C.ofText text t = .ok v → v.inOption t = .ok (.present v)) := by
  refine ⟨fun v h => ?_, fun hne => ?_⟩
  · by_cases hne : t = .any
    · subst hne
      cases h
      exact ⟨rfl, nofun, rfl⟩
    · have core := ht.core_ne_any hne
      have hty : v.ty = t := ty_of_ofText hC core h
      refine ⟨by rw [if_neg hne, hty], payload?_of_ofText hC core h, ?_⟩
      exact hty ▸ v.adapt_self
  · have core := ht.core_ne_any hne
    exact ⟨ofText_wrapped hC core, fun v h =>
      Value.inOption_eq_ok_iff.2 ⟨ty_of_ofText hC core h, rfl⟩⟩

end Scope

namespace Sample

/-- The schema of a bean and a sealed type that are written as text. -/
def written : Schema where
  beans := [version.bean]
  sealedFromText path :=
    if path = home ++ "Handle" then
      some fun s => (Numeral.readDigits .u32 10 s.toList).map (fun n => .sealed path n.toNat)
        |>.mapError IntegerError.external
    else none
  extent _ := 0
  parent_lt := by decide +kernel

/-- The constructors of the sample make values of their own types. -/
theorem written_makesOwn : written.MakesOwn where
  bean b hb make hmake text v hv := by
    cases List.mem_singleton.1 hb
    cases hmake
    dsimp only at hv
    split at hv <;> cases hv
    rfl
  sealed path make hmake text v hv := by
    dsimp only [written] at hmake
    split at hmake <;> cases hmake
    obtain ⟨n, -, rfl⟩ := map_eq_ok_iff.1 (mapError_eq_ok_iff.1 hv)
    rfl

end Sample

/-- Two layers over a bean that its own constructor makes, and one over a sealed type. -/
theorem Scope.text_gives_the_wanted_type_of_version :
    let C : Scope := ⟨Sample.written, Registry.empty⟩
    let version : Value :=
      .bean Sample.version.bean.path [("major", .int .u32 1), ("minor", .int .u32 2)] []
    let handle : Ty := .sealed (Sample.home ++ "Handle")
    C.ofText "1.2" (Sample.version.ty.wrapped 2) = .ok (version.wrapped 2) ∧
      Value.adapt? (some (version.wrapped 2)) (Sample.version.ty.wrapped 2) =
        .ok (version.wrapped 2) ∧
      C.ofText "x" (handle.wrapped 1) =
        .error (Fault.invocation "from_str" IntegerError.invalidDigit.external).failure := by
  intro C version handle
  have read_version : C.ofText "1.2" Sample.version.ty = .ok version := by decide +kernel
  have read_handle : C.ofText "x" handle =
      .error (Fault.invocation "from_str" IntegerError.invalidDigit.external).failure := by
    decide +kernel
  have at_version := text_gives_the_wanted_type C Sample.written_makesOwn "1.2"
    (t := Sample.version.ty) (by decide)
  have at_layers := text_gives_the_wanted_type C Sample.written_makesOwn "1.2"
    (t := Sample.version.ty.wrapped 2) (by decide)
  have at_handle := text_gives_the_wanted_type C Sample.written_makesOwn "x" (t := handle)
    (by decide)
  have layered : C.ofText "1.2" (Sample.version.ty.wrapped 2) = .ok (version.wrapped 2) := by
    rw [(at_version.2 nofun).1 2, read_version]
    rfl
  refine ⟨layered, (at_layers.1 _ layered).2.2, ?_⟩
  rw [(at_handle.2 nofun).1 1, read_handle]
  rfl

end BeanPath
