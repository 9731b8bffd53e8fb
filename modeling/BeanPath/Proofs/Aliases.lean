import BeanPath.Proofs.Resolution
import BeanPath.Proofs.Runs

/-!
# Names that are given to types

An alias is looked up before anything else, so it takes effect whatever else its name could stand
for, and only another alias of the same name takes it back (`Registry.byAlias?_run`).

A name is trimmed where it is looked up and not where it is given.  So an alias whose name has white
space at an end is in the table, but no name leads to it.  Registries that differ in such aliases
only are not told apart by any name, and no call brings the difference to light
(`Registry.AlikeTrimmed.run`).
-/

namespace BeanPath
namespace Registry

variable {S : Schema} {r r' : Registry} {t : Ty} {name : String} {call : Call} {calls : List Call}

/-! ### The table of aliases -/

/-- The name that a call makes stand for a type. -/
def Call.aliasName? : Call → Option String
  | .addAlias name _ => some name
  | .register _ | .addNamespace _ => none

/-- Registering a type gives no aliases. -/
theorem aliases_register (r : Registry) (S : Schema) (t : Ty) :
    (r.register S t).2.aliases = r.aliases :=
  (grows_registerAll r S [t]).aliases

/-- Adding an alias is registering the type and putting it into the table under the name as it is
given. -/
theorem addAlias_eq (r : Registry) (S : Schema) (given : String) (t : Ty) :
    r.addAlias S given t = { (r.register S t).2 with aliases := r.aliases.put given t } := by
  rw [← aliases_register r S t]
  rfl

/-- The table has a new alias under its name, and under every other name what it had. -/
theorem byAlias?_addAlias (r : Registry) (S : Schema) (given : String) (t : Ty) (name : String) :
    (r.addAlias S given t).byAlias? name = if name = given then some t else r.byAlias? name := by
  unfold byAlias?
  rw [addAlias_eq, Index.lookup_put]

/-- A call leaves the aliases of other names alone. -/
theorem byAlias?_after (h : call.aliasName? ≠ some name) :
    (after S r call).byAlias? name = r.byAlias? name := by
  cases call with
  | register t =>
    unfold after byAlias?
    rw [aliases_register]
  | addAlias given t =>
    have hne : name ≠ given := fun hn => h (by rw [hn]; rfl)
    unfold after
    rw [byAlias?_addAlias, if_neg hne]
  | addNamespace modules =>
    unfold after addNamespace byAlias?
    dsimp only
    split <;> rfl

/-- Calls leave an alias alone as long as none of them gives the same name to a type. -/
theorem byAlias?_run (h : ∀ call ∈ calls, call.aliasName? ≠ some name) :
    (calls.foldl (after S) r).byAlias? name = r.byAlias? name := by
  induction calls generalizing r with
  | nil => rfl
  | cons call calls ih =>
    obtain ⟨hcall, hcalls⟩ := List.forall_mem_cons.1 h
    rw [List.foldl_cons, ih hcalls, byAlias?_after hcall]

/-- An alias of the trimmed name decides what a name stands for. -/
theorem resolve?_of_byAlias? (h : r.byAlias? (Text.trimmed name) = some t) :
    r.resolve? name = some t :=
  resolve?_eq_some_iff.2 ⟨.ofAlias, h, fun s hs => absurd hs s.not_before_ofAlias⟩

/-! ### Aliases that no name leads to -/

/-- Registries differ in their aliases only, and in none of a trimmed name. -/
structure AlikeTrimmed (r r' : Registry) : Prop where
  rest : r' = { r with aliases := r'.aliases }
  aliases : ∀ name, Text.trimmed name = name → r'.byAlias? name = r.byAlias? name

/-- Entering a type does not look at aliases. -/
theorem enter_withAliases (r : Registry) (t : Ty) (aliases : Index Ty) :
    ({ r with aliases } : Registry).enter t = { r.enter t with aliases } := by
  unfold enter
  dsimp only
  split
  · rfl
  · split <;> rfl

/-- A registration goes the same way with other aliases. -/
theorem Walk.withAliases {ts : List Ty} (h : Walk S r ts r') (aliases : Index Ty) :
    Walk S { r with aliases } ts { r' with aliases } := by
  induction h with
  | done r => exact .done _
  | known ht _ ih => exact .known ht ih
  | new ht _ _ ihi ihr =>
    refine .new ht ?_ ihr
    rw [enter_withAliases]
    exact ihi

/-- Registration does not look at aliases. -/
theorem register_withAliases (r : Registry) (S : Schema) (t : Ty) (aliases : Index Ty) :
    (({ r with aliases } : Registry).register S t).2 = { (r.register S t).2 with aliases } :=
  (walk_register _ S t).unique ((walk_register r S t).withAliases aliases)

/-- Registering a type does not tell such registries apart. -/
theorem AlikeTrimmed.register (h : AlikeTrimmed r r') (S : Schema) (t : Ty) :
    AlikeTrimmed (r.register S t).2 (r'.register S t).2 := by
  refine ⟨?_, fun name hn => ?_⟩
  · rw [aliases_register, h.rest, register_withAliases]
  · unfold byAlias?
    rw [aliases_register, aliases_register]
    exact h.aliases name hn

/-- Neither does giving both of them the same alias. -/
theorem AlikeTrimmed.addAlias (h : AlikeTrimmed r r') (S : Schema) (given : String) (t : Ty) :
    AlikeTrimmed (r.addAlias S given t) (r'.addAlias S given t) := by
  refine ⟨?_, fun name hn => ?_⟩
  · rw [addAlias_eq, addAlias_eq, h.rest, register_withAliases]
  · rw [byAlias?_addAlias, byAlias?_addAlias, h.aliases name hn]

/-- No call tells such registries apart. -/
theorem AlikeTrimmed.after (h : AlikeTrimmed r r') (call : Call) :
    AlikeTrimmed (after S r call) (after S r' call) := by
  cases call with
  | register t => exact h.register S t
  | addAlias given t => exact h.addAlias S given t
  | addNamespace modules =>
    unfold Registry.after addNamespace
    have hsame : r'.namespaces = r.namespaces := by rw [h.rest]
    dsimp only
    rw [hsame]
    split
    · exact h
    · refine ⟨?_, h.aliases⟩
      rw [h.rest]

/-- No sequence of calls tells them apart. -/
theorem AlikeTrimmed.run (h : AlikeTrimmed r r') (calls : List Call) :
    AlikeTrimmed (calls.foldl (Registry.after S) r) (calls.foldl (Registry.after S) r') := by
  induction calls generalizing r r' with
  | nil => exact h
  | cons call calls ih => exact ih (h.after call)

/-- No name tells them apart, because names are trimmed before they are looked up. -/
theorem AlikeTrimmed.resolve?_eq (h : AlikeTrimmed r r') (name : String) :
    r'.resolve? name = r.resolve? name := by
  unfold resolve?
  dsimp only
  rw [h.aliases _ (Text.trimmed_trimmed name), h.rest]
  rfl

/-- An alias of a name that is not trimmed makes no difference but this: the type is registered. -/
theorem alikeTrimmed_addAlias (r : Registry) (S : Schema) (t : Ty) (h : Text.trimmed name ≠ name) :
    AlikeTrimmed (r.register S t).2 (r.addAlias S name t) := by
  refine ⟨rfl, fun other ho => ?_⟩
  have hne : other ≠ name := fun hn => h (hn ▸ ho)
  rw [byAlias?_addAlias, if_neg hne]
  unfold byAlias?
  rw [aliases_register]

/-- **Aliases of trimmed names take effect**, in any registry.  From then on each spelling of the
name stands for the type, whatever it stood for before and whatever is registered, aliased to other
names or added as a namespace later.  An alias of a name with white space at an end has no effect
ever: every name stands for what it would stand for if the type had only been registered. -/
theorem aliases_take_effect_when_trimmed (S : Schema) (r : Registry) (name : String) (t : Ty)
    (later : List Call) :
    let r' := later.foldl (after S) (r.addAlias S name t)
    (Text.trimmed name = name → (∀ call ∈ later, call.aliasName? ≠ some name) →
      ∀ spelling, Text.trimmed spelling = name → r'.resolve? spelling = some t) ∧
    (Text.trimmed name ≠ name → ∀ other,
      r'.resolve? other = (later.foldl (after S) (r.register S t).2).resolve? other) := by
  intro r'
  refine ⟨fun _ hlater spelling hs => resolve?_of_byAlias? ?_, fun hn other => ?_⟩
  · rw [hs, byAlias?_run hlater, byAlias?_addAlias, if_pos rfl]
  · exact ((alikeTrimmed_addAlias r S t hn).run later).resolve?_eq other

end Registry

/-- The alias of a short name hides the types of that name that come later, and an alias of the name
with a blank behind it does not take it back. -/
theorem aliases_take_effect_when_trimmed_before_short_names :
    let r := Registry.ofCalls Sample.ids [.register Sample.idA.ty]
    let later : List Registry.Call :=
      [.register Sample.idC.ty, .addNamespace "oracle_driver::fx::b", .addAlias "Id " Sample.idC.ty]
    (later.foldl (Registry.after Sample.ids)
        (r.addAlias Sample.ids "Id" Sample.idB.ty)).resolve? " Id" = some Sample.idB.ty ∧
      (r.addAlias Sample.ids "Key " Sample.idB.ty).resolve? "Key" =
        (r.register Sample.ids Sample.idB.ty).2.resolve? "Key" := by
  intro r later
  obtain ⟨htrimmed, -⟩ := Registry.aliases_take_effect_when_trimmed Sample.ids r "Id" Sample.idB.ty
    later
  obtain ⟨-, hblank⟩ := Registry.aliases_take_effect_when_trimmed Sample.ids r "Key " Sample.idB.ty
    []
  exact ⟨htrimmed (by decide +kernel) (by decide) " Id" (by decide +kernel),
    hblank (by decide +kernel) "Key"⟩

/-- A name between blanks stands for nothing right after it was given to a type. -/
theorem alias_between_blanks_is_never_found :
    let r := Registry.empty.addAlias Sample.ids " n " (.int .i32)
    r.byAlias? " n " = some (.int .i32) ∧ r.resolve? " n " = none := by
  intro r
  have hregister : (Registry.empty.register Sample.ids (.int .i32)).2 =
      Registry.empty.enter (.int .i32) :=
    (Registry.walk_register _ _ _).unique (.new rfl (.done _) (.done _))
  have hr : r = { Registry.empty.enter (.int .i32) with aliases := [(" n ", .int .i32)] } := by
    show ({ (Registry.empty.register Sample.ids (.int .i32)).2 with aliases := _ } : Registry) = _
    rw [hregister]
    rfl
  rw [hr]
  decide +kernel

end BeanPath
