import BeanPath.Failure

/-!
# Failures on their way out

A failure passes boundaries one after the other, each with a style of its own.  What a boundary does
to a failure depends on nothing but the kind of the failure: a kind that may not be wrapped stops
all further boundaries, also where a boundary has asked for that kind.  So it is known beforehand
which boundaries act (`Boundary.acting`).

One boundary adds at most one link (`Failure.depth_pass`), keeps the invocation target unless it
asks for a kind of its own (`Failure.invocationTarget?_pass`), and leaves the root cause alone,
except that it may put a text in front of a failure that has no cause yet
(`Failure.rootCause_pass`).  The same is true of any number of boundaries
(`failures_keep_their_origin`).
-/

namespace BeanPath

/-- A boundary that failures pass. -/
structure Boundary where
  style : WrapStyle
  /-- The kind that the boundary asks for. -/
  kind : FailureKind
  message : String
  deriving DecidableEq, Repr

namespace Boundary

/-- Whether a boundary puts a new link in front of a failure. -/
def addsLink (b : Boundary) : Bool := b.style == .inherited || b.style == .wrapped

/-- The text that a boundary merges into a failure. -/
def mergedText? (b : Boundary) : Option String :=
  if b.style = .merged then some b.message else none

/-- The kind of a failure behind a boundary, by its kind in front of it. -/
def kindAfter (b : Boundary) (k : FailureKind) : FailureKind :=
  if k.wrappable && b.style == .wrapped then b.kind else k

/-- The boundaries that act on a failure of a kind: those that it comes to as long as its kind may
be wrapped. -/
def acting : FailureKind → List Boundary → List Boundary
  | _, [] => []
  | k, b :: bs => if k.wrappable then b :: acting (b.kindAfter k) bs else []

/-- The texts that are merged before the first new link. -/
def leadingTexts (bs : List Boundary) : List String :=
  (bs.takeWhile fun b => !b.addsLink).filterMap mergedText?

variable {b : Boundary} {bs : List Boundary} {k : FailureKind}

/-- No boundary acts on a failure whose kind may not be wrapped. -/
theorem acting_of_frozen (hk : k.wrappable = false) : acting k bs = [] := by
  cases bs with
  | nil => rfl
  | cons b bs => rw [acting, hk]; rfl

/-- A boundary acts on a failure that may be wrapped, and the ones behind it act on what it makes of
that failure. -/
theorem acting_cons (hk : k.wrappable = true) :
    acting k (b :: bs) = b :: acting (b.kindAfter k) bs := by
  rw [acting, if_pos hk]

/-- Only a boundary of the wrapping style changes the kind. -/
theorem kindAfter_of_style_ne (hb : b.style ≠ .wrapped) : b.kindAfter k = k := by
  simp [kindAfter, hb]

/-- A boundary that adds no link leaves the kind as it is. -/
theorem kindAfter_of_no_link (hb : b.addsLink = false) : b.kindAfter k = k :=
  kindAfter_of_style_ne fun h => by simp [addsLink, h] at hb

/-- No text is merged before a first new link that comes at once. -/
theorem leadingTexts_of_link (hb : b.addsLink = true) : leadingTexts (b :: bs) = [] := by
  simp [leadingTexts, hb]

/-- A boundary that adds no link may merge its text before the ones behind it. -/
theorem leadingTexts_of_no_link (hb : b.addsLink = false) :
    leadingTexts (b :: bs) = b.mergedText?.toList ++ leadingTexts bs := by
  unfold leadingTexts
  rw [List.takeWhile_cons_of_pos (by rw [hb]; rfl), List.filterMap_cons]
  cases b.mergedText? <;> rfl

end Boundary

namespace Failure

variable {f : Failure} {b : Boundary} {bs : List Boundary}

/-- The failure behind a boundary. -/
def pass (f : Failure) (b : Boundary) : Failure := f.wrap b.style b.kind b.message

/-- The failure behind several boundaries, passed one after the other. -/
def through (f : Failure) (bs : List Boundary) : Failure := bs.foldl pass f

/-- A message with texts in front of it, the last one foremost. -/
def prefixed (texts : List String) (message : String) : String :=
  texts.foldl (fun message text => text ++ ": " ++ message) message

/-- The number of links of the chain that are failures. -/
def failureLinks (f : Failure) : Nat := f.chain.countP (·.kind.isSome)

/-- The links of a chain that are failures are as many as the failure is deep. -/
theorem failureLinks_eq_depth (f : Failure) : f.failureLinks = f.depth := by
  induction f with
  | plain k m => rfl
  | external k m e => simp [failureLinks, chain, depth, List.countP_map, Function.comp_def]
  | linked k m f ih => simpa [failureLinks, chain, depth] using ih

/-! ### Merged texts -/

/-- A text in front of the message leaves the kind as it is. -/
@[simp] theorem kind_prepend (text : String) (f : Failure) : (f.prepend text).kind = f.kind := by
  cases f <;> rfl

/-- A text in front of the message leaves the cause as it is. -/
@[simp] theorem cause?_prepend (text : String) (f : Failure) :
    (f.prepend text).cause? = f.cause? := by
  cases f <;> rfl

/-- A text in front of the message is set off by a colon. -/
@[simp] theorem message_prepend (text : String) (f : Failure) :
    (f.prepend text).message = text ++ ": " ++ f.message := by
  cases f <;> rfl

/-- A text in front of the message adds no link. -/
@[simp] theorem depth_prepend (text : String) (f : Failure) : (f.prepend text).depth = f.depth := by
  cases f <;> rfl

/-- A text in front of the message leaves the invocation target as it is. -/
@[simp] theorem invocationTarget?_prepend (text : String) (f : Failure) :
    (f.prepend text).invocationTarget? = f.invocationTarget? := by
  cases f <;> rfl

/-! ### One boundary -/

/-- What a boundary can do to a failure. -/
theorem pass_cases (f : Failure) (b : Boundary) :
    (f.kind.wrappable = false ∧ f.pass b = f) ∨
    (f.kind.wrappable = true ∧ b.addsLink = true ∧
      f.pass b = linked (b.kindAfter f.kind) b.message f) ∨
    (f.kind.wrappable = true ∧ b.addsLink = false ∧ b.mergedText? = some b.message ∧
      f.pass b = f.prepend b.message) ∨
    (f.kind.wrappable = true ∧ b.addsLink = false ∧ b.mergedText? = none ∧ f.pass b = f) := by
  obtain ⟨style, kind, message⟩ := b
  unfold pass wrap Boundary.kindAfter
  cases hk : f.kind.wrappable with
  | false => exact .inl ⟨rfl, rfl⟩
  | true =>
    right
    cases style with
    | inherited => exact .inl ⟨rfl, rfl, rfl⟩
    | merged => exact .inr (.inl ⟨rfl, rfl, rfl, rfl⟩)
    | unwrapped => exact .inr (.inr ⟨rfl, rfl, rfl, rfl⟩)
    | wrapped => exact .inl ⟨rfl, rfl, rfl⟩

/-- A failure whose kind may not be wrapped passes a boundary as it is. -/
theorem pass_of_frozen (hf : f.kind.wrappable = false) : f.pass b = f := by
  simp [pass, wrap, hf]

/-- The kind of a failure behind a boundary is known from its kind in front of it. -/
theorem kind_pass (f : Failure) (b : Boundary) : (f.pass b).kind = b.kindAfter f.kind := by
  obtain ⟨style, kind, message⟩ := b
  unfold pass wrap Boundary.kindAfter
  cases f.kind.wrappable with
  | false => rfl
  | true =>
    cases style with
    | merged => exact kind_prepend message f
    | _ => rfl

/-- A failure that may be wrapped gets deeper by one at a boundary that adds a link, and only
there. -/
theorem depth_pass (hf : f.kind.wrappable = true) :
    (f.pass b).depth = f.depth + if b.addsLink then 1 else 0 := by
  obtain ⟨hk, -⟩ | ⟨-, hb, h⟩ | ⟨-, hb, -, h⟩ | ⟨-, hb, -, h⟩ := f.pass_cases b
  · rw [hk] at hf
    cases hf
  · rw [h, hb]
    rfl
  · rw [h, hb, depth_prepend]
    rfl
  · rw [h, hb]
    rfl

/-- Only failed invocations have an invocation target. -/
theorem invocationTarget?_of_kind_ne (hf : f.kind ≠ .invocation) : f.invocationTarget? = none := by
  cases f with
  | plain => rfl
  | external => exact if_neg hf
  | linked => exact if_neg hf

/-- A boundary that asks for no kind of its own keeps the invocation target. -/
theorem invocationTarget?_pass (hb : b.style ≠ .wrapped) :
    (f.pass b).invocationTarget? = f.invocationTarget? := by
  obtain ⟨-, h⟩ | ⟨-, -, h⟩ | ⟨-, -, -, h⟩ | ⟨-, -, -, h⟩ := f.pass_cases b <;> rw [h]
  · -- The new link has the kind of the failure, so the walk goes past it or stops at both.
    rw [Boundary.kindAfter_of_style_ne hb, invocationTarget?]
    split
    · rfl
    · next hk => exact (invocationTarget?_of_kind_ne hk).symm
  · exact invocationTarget?_prepend b.message f

/-- A failure without a cause is a plain one. -/
theorem eq_plain_of_no_cause (hf : f.cause? = none) : f = plain f.kind f.message := by
  cases f with
  | plain => rfl
  | external => cases hf
  | linked => cases hf

/-- A failure without a cause is its own root cause. -/
theorem rootCause_of_no_cause (hf : f.cause? = none) :
    f.rootCause = .failure (plain f.kind f.message) := by
  rw [eq_plain_of_no_cause hf]
  rfl

/-- A failure with a cause keeps its root cause. -/
theorem rootCause_pass (hf : f.cause? ≠ none) :
    (f.pass b).cause? ≠ none ∧ (f.pass b).rootCause = f.rootCause := by
  obtain ⟨-, h⟩ | ⟨-, -, h⟩ | ⟨-, -, -, h⟩ | ⟨-, -, -, h⟩ := f.pass_cases b <;> rw [h]
  · exact ⟨hf, rfl⟩
  · exact ⟨nofun, rfl⟩
  · rw [cause?_prepend]
    refine ⟨hf, ?_⟩
    cases f with
    | plain => exact absurd rfl hf
    | external => rfl
    | linked => rfl
  · exact ⟨hf, rfl⟩

/-! ### Any number of boundaries -/

/-- Boundaries are passed one after the other. -/
theorem through_cons (f : Failure) (b : Boundary) (bs : List Boundary) :
    f.through (b :: bs) = (f.pass b).through bs := rfl

/-- A failure whose kind may not be wrapped passes any number of boundaries as it is. -/
theorem through_of_frozen (hf : f.kind.wrappable = false) : f.through bs = f := by
  induction bs with
  | nil => rfl
  | cons b bs ih => rw [through_cons, pass_of_frozen hf, ih]

/-- Boundaries that ask for no kind of their own keep both the kind and the invocation target,
however many there are. -/
theorem keeps_kind_and_target (h : ∀ b ∈ bs, b.style ≠ .wrapped) :
    (f.through bs).kind = f.kind ∧ (f.through bs).invocationTarget? = f.invocationTarget? := by
  induction bs generalizing f with
  | nil => exact ⟨rfl, rfl⟩
  | cons b bs ih =>
    obtain ⟨hb, h⟩ := List.forall_mem_cons.1 h
    obtain ⟨hkind, htarget⟩ := ih (f := f.pass b) h
    rw [through_cons, hkind, htarget]
    exact ⟨(f.kind_pass b).trans (Boundary.kindAfter_of_style_ne hb), invocationTarget?_pass hb⟩

/-- Every acting boundary that adds a link adds one failure. -/
theorem depth_through (f : Failure) (bs : List Boundary) :
    (f.through bs).depth = f.depth + (Boundary.acting f.kind bs).countP Boundary.addsLink := by
  induction bs generalizing f with
  | nil => rfl
  | cons b bs ih =>
    cases hf : f.kind.wrappable with
    | false =>
      rw [through_of_frozen hf, Boundary.acting_of_frozen hf]
      rfl
    | true =>
      rw [through_cons, ih, depth_pass hf, kind_pass, Boundary.acting_cons hf, List.countP_cons]
      omega

/-- A failure with a cause keeps its root cause through any number of boundaries. -/
theorem rootCause_through_of_cause (hf : f.cause? ≠ none) :
    (f.through bs).rootCause = f.rootCause := by
  induction bs generalizing f with
  | nil => rfl
  | cons b bs ih =>
    obtain ⟨hcause, hroot⟩ := rootCause_pass (b := b) hf
    rw [through_cons, ih hcause, hroot]

/-- A failure without a cause is its own root cause until it gets a link in front, and takes up the
texts that are merged until then. -/
theorem rootCause_through_of_no_cause (hf : f.cause? = none) :
    (f.through bs).rootCause = .failure (plain f.kind
      (prefixed (Boundary.leadingTexts (Boundary.acting f.kind bs)) f.message)) := by
  induction bs generalizing f with
  | nil => exact rootCause_of_no_cause hf
  | cons b bs ih =>
    obtain ⟨hk, -⟩ | ⟨hk, hb, h⟩ | ⟨hk, hb, ht, h⟩ | ⟨hk, hb, ht, h⟩ := f.pass_cases b
    · rw [through_of_frozen hk, Boundary.acting_of_frozen hk]
      exact rootCause_of_no_cause hf
    · have hcause : (f.pass b).cause? ≠ none := by
        rw [h]
        exact Option.some_ne_none _
      rw [through_cons, rootCause_through_of_cause hcause, h, Boundary.acting_cons hk,
        Boundary.leadingTexts_of_link hb]
      exact rootCause_of_no_cause hf
    · rw [through_cons, h, ih (by rw [cause?_prepend, hf]), kind_prepend, message_prepend,
        Boundary.acting_cons hk, Boundary.kindAfter_of_no_link hb,
        Boundary.leadingTexts_of_no_link hb, ht]
      rfl
    · rw [through_cons, h, ih hf, Boundary.acting_cons hk, Boundary.kindAfter_of_no_link hb,
        Boundary.leadingTexts_of_no_link hb, ht]
      rfl

end Failure

/-- **Failures keep their origin**, whatever boundaries they pass.  A support failure stays as it
is.  If no boundary asks for a kind of its own, the kind and the invocation target stay.  Exactly
those acting boundaries that add a link each add one failure to the chain.  A root cause stays the
same; only a failure that has no cause and so is its own root cause takes up the texts that are
merged before it gets a link in front. -/
theorem failures_keep_their_origin (f : Failure) (bs : List Boundary) :
    let g := f.through bs
    let acting := Boundary.acting f.kind bs
    (f.kind = .support → g = f) ∧
    ((∀ b ∈ bs, b.style ≠ .wrapped) →
      g.kind = f.kind ∧ g.invocationTarget? = f.invocationTarget?) ∧
    g.failureLinks = f.failureLinks + acting.countP Boundary.addsLink ∧
    (f.cause? ≠ none → g.rootCause = f.rootCause) ∧
    (f.cause? = none → f.rootCause = .failure f ∧ g.rootCause = .failure
      (.plain f.kind (Failure.prefixed (Boundary.leadingTexts acting) f.message))) := by
  intro g acting
  refine ⟨fun hf => ?_, Failure.keeps_kind_and_target, ?_, Failure.rootCause_through_of_cause,
    fun hf => ⟨?_, Failure.rootCause_through_of_no_cause hf⟩⟩
  · exact Failure.through_of_frozen (by rw [hf]; rfl)
  · rw [Failure.failureLinks_eq_depth, Failure.failureLinks_eq_depth, Failure.depth_through]
  · rw [Failure.rootCause_of_no_cause hf, ← Failure.eq_plain_of_no_cause hf]

/-- A refusal keeps what refused it behind boundaries that ask for no kind.  A problem without a
cause takes up the first of the merged texts only, and the boundary behind the one that turns it
into a support failure does nothing any more. -/
theorem failures_keep_their_origin_on_two_ways :
    let locked : ExternalError := ⟨.unknown, "account is locked", []⟩
    let refusal := Failure.through (.external .invocation "invocation of `set_age` failed" locked)
      [⟨.inherited, .access, "write `age`"⟩, ⟨.merged, .access, "in `owner`"⟩]
    let problem := Failure.through (.plain .argument "no such key")
      [⟨.merged, .access, "read `a`"⟩, ⟨.inherited, .access, "read `b`"⟩,
        ⟨.merged, .access, "read `c`"⟩, ⟨.wrapped, .support, "read"⟩, ⟨.inherited, .access, ""⟩]
    refusal.kind = .invocation ∧ refusal.invocationTarget? = some locked ∧
      refusal.rootCause = .external locked ∧ problem.failureLinks = 3 ∧
        problem.rootCause = .failure (.plain .argument "read `a`: no such key") := by
  intro locked refusal problem
  obtain ⟨-, hkind, -, hroot, -⟩ := failures_keep_their_origin
    (.external .invocation "invocation of `set_age` failed" locked)
    [⟨.inherited, .access, "write `age`"⟩, ⟨.merged, .access, "in `owner`"⟩]
  obtain ⟨-, -, hlinks, -, hroot'⟩ := failures_keep_their_origin (.plain .argument "no such key")
    [⟨.merged, .access, "read `a`"⟩, ⟨.inherited, .access, "read `b`"⟩,
      ⟨.merged, .access, "read `c`"⟩, ⟨.wrapped, .support, "read"⟩, ⟨.inherited, .access, ""⟩]
  obtain ⟨hkind, htarget⟩ := hkind (by decide)
  exact ⟨hkind, htarget, hroot (by decide), hlinks, (hroot' rfl).2.trans (by decide)⟩

end BeanPath
