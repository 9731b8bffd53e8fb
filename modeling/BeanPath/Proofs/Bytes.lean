import BeanPath.Proofs.Offsets

/-!
# Bytes of a path

A path is also read by its bytes, and then a slice of it can go wrong: it has to start and to end
at boundaries between characters, and not to end before it starts.  The characters that mean
something in a path have one byte each, and no byte of any other character is one of those
(`Path.mem_ascii_iff`).  So a look at the byte at a cursor tells as much about them as a look
at the character there (`Path.Cursor.In.byte?_eq_ascii_iff`), and so does a look at a byte inside a
character, which is none of them (`Path.Cursor.In.bytes_ne`).
-/

namespace BeanPath
namespace Path

/-- Why reading by byte positions stops. -/
inductive Halt where
  | malformed (e : Malformed)
  /-- A slice does not go from one boundary between characters to another further on. -/
  | cut
  deriving DecidableEq

namespace Bytes

/-- The byte of a character that has only one. -/
def ascii (c : Char) : UInt8 := UInt8.ofNat c.toNat

/-- The byte at a position. -/
def byte? (s : String) (i : Nat) : Option UInt8 := s.toByteArray[i]?

/-- The text from one byte position to another. -/
def slice (s : String) (start stop : Nat) : Except Halt String :=
  if Boundary s start ∧ Boundary s stop ∧ start ≤ stop then
    .ok (String.Pos.Raw.extract s ⟨start⟩ ⟨stop⟩)
  else .error .cut

/-- Where there is a byte, the text has not ended. -/
theorem lt_of_byte? {s : String} {i : Nat} {b : UInt8} (h : byte? s i = some b) :
    i < s.utf8ByteSize := by
  by_contra hle
  rw [byte?, getElem?_neg _ _ (by simpa using hle)] at h
  cases h

end Bytes

open Bytes

variable {path : String} {offset : Nat} {a c : Char} {b : UInt8} {cs rest marks : List Char}

/-! ### Bytes of characters -/

/-- The bytes of a text are those of its characters, one character after the other. -/
theorem byte?_eq (s : String) (i : Nat) :
    byte? s i = (s.toList.flatMap String.utf8EncodeChar)[i]? := by
  have hs : s.toByteArray = (s.toList.flatMap String.utf8EncodeChar).toByteArray := by
    rw [← String.utf8Encode_toList, List.utf8Encode]
  have hsize : s.toByteArray.size = (s.toList.flatMap String.utf8EncodeChar).length := by
    rw [hs, List.size_toByteArray]
  rw [byte?]
  by_cases hi : i < s.toByteArray.size
  · rw [getElem?_pos s.toByteArray i hi, List.getElem?_eq_getElem (hsize ▸ hi)]
    simp only [hs, List.getElem_toByteArray]
  · rw [getElem?_neg s.toByteArray i hi, List.getElem?_eq_none (by omega)]

/-- Characters take up as many bytes as their lengths add up to. -/
theorem length_bytes (cs : List Char) :
    (cs.flatMap String.utf8EncodeChar).length = byteLength cs := by
  induction cs with
  | nil => rfl
  | cons c cs ih =>
    rw [List.flatMap_cons, List.length_append, String.length_utf8EncodeChar, ih, byteLength_cons]

/-- The first 128 characters have one byte each, their own number. -/
theorem utf8EncodeChar_of_lt (ha : a.toNat < 128) : String.utf8EncodeChar a = [ascii a] :=
  if_pos (Nat.le_of_lt_succ ha)

/-- The first 128 characters are one byte long. -/
theorem utf8Size_of_lt (ha : a.toNat < 128) : a.utf8Size = 1 := by
  rw [← String.length_utf8EncodeChar, utf8EncodeChar_of_lt ha, List.length_singleton]

/-- A byte of a character that has only one occurs in no other character. -/
theorem eq_of_ascii_mem (ha : a.toNat < 128) (h : ascii a ∈ String.utf8EncodeChar c) : c = a := by
  have hbyte {n : Nat} (hn : ascii a = UInt8.ofNat n) : n % 256 = a.toNat := by
    have := congrArg UInt8.toNat hn
    rw [ascii, UInt8.toNat_ofNat', UInt8.toNat_ofNat'] at this
    omega
  unfold String.utf8EncodeChar at h
  dsimp only at h
  split at h
  · next hc =>
    have := hbyte (List.mem_singleton.1 h)
    exact Char.toNat_inj.1 (by change c.val.toNat = _; omega)
  · exfalso
    split at h
    · simp only [List.mem_cons, List.not_mem_nil, or_false] at h
      rcases h with h | h <;> have := hbyte h <;> omega
    · split at h <;> simp only [List.mem_cons, List.not_mem_nil, or_false] at h
      · rcases h with h | h | h <;> have := hbyte h <;> omega
      · rcases h with h | h | h | h <;> have := hbyte h <;> omega

/-- A byte of a character is that of a mark exactly if the character is the mark. -/
theorem eq_ascii_iff (ha : a.toNat < 128) (hb : b ∈ String.utf8EncodeChar c) :
    b = ascii a ↔ c = a := by
  constructor
  · rintro rfl
    exact eq_of_ascii_mem ha hb
  · rintro rfl
    rw [utf8EncodeChar_of_lt ha] at hb
    exact List.mem_singleton.1 hb

/-- A byte of a character is that of one of some marks exactly if the character is one of them. So
the marks can be looked for byte by byte. -/
theorem mem_ascii_iff (hm : ∀ a ∈ marks, a.toNat < 128) (hb : b ∈ String.utf8EncodeChar c) :
    b ∈ marks.map ascii ↔ c ∈ marks := by
  rw [List.mem_map]
  constructor
  · rintro ⟨a, ha, rfl⟩
    exact eq_of_ascii_mem (hm a ha) hb ▸ ha
  · exact fun hc => ⟨c, hc, ((eq_ascii_iff (hm c hc) hb).2 rfl).symm⟩

/-! ### Bytes at a cursor -/

/-- A cursor that has nothing left stands where there is no byte. -/
theorem Cursor.In.byte?_nil (h : (Cursor.mk offset []).In path) : byte? path offset = none := by
  obtain ⟨before, hp, ho⟩ := h
  dsimp only at hp ho
  rw [byte?_eq, hp, List.append_nil, List.getElem?_eq_none]
  rw [length_bytes, ho]

/-- From a cursor on, the bytes are those of the character there, as far as that character goes. -/
theorem Cursor.In.byte?_cons (h : (Cursor.mk offset (c :: rest)).In path) {j : Nat}
    (hj : j < c.utf8Size) :
    ∃ b ∈ String.utf8EncodeChar c, byte? path (offset + j) = some b := by
  obtain ⟨before, hp, ho⟩ := h
  dsimp only at hp ho
  have hlen : j < (String.utf8EncodeChar c).length := by rwa [String.length_utf8EncodeChar]
  refine ⟨_, List.getElem_mem hlen, ?_⟩
  rw [byte?_eq, hp, List.flatMap_append, List.flatMap_cons, ← ho, ← length_bytes,
    List.getElem?_append_right (Nat.le_add_right _ _), Nat.add_sub_cancel_left,
    List.getElem?_append_left hlen, List.getElem?_eq_getElem hlen]

/-- The byte at a cursor belongs to the character there. -/
theorem Cursor.In.byte?_head (h : (Cursor.mk offset (c :: rest)).In path) :
    ∃ b ∈ String.utf8EncodeChar c, byte? path offset = some b :=
  h.byte?_cons c.utf8Size_pos

/-- The byte of a mark is at a cursor exactly if the mark is. -/
theorem Cursor.In.byte?_eq_ascii_iff (ha : a.toNat < 128) (h : (Cursor.mk offset cs).In path) :
    byte? path offset = some (ascii a) ↔ cs.head? = some a := by
  cases cs with
  | nil => rw [h.byte?_nil]; exact ⟨nofun, nofun⟩
  | cons c rest =>
    obtain ⟨b, hb, hbyte⟩ := h.byte?_head
    rw [hbyte, Option.some_inj, eq_ascii_iff ha hb, List.head?_cons, Option.some_inj]

/-- What has been read and what is left take up the whole path. -/
theorem Cursor.In.byteLength_rest {c : Cursor} (h : c.In path) :
    c.offset + byteLength c.rest = path.utf8ByteSize := by
  obtain ⟨before, hp, ho⟩ := h
  rw [← byteLength_toList, hp, byteLength_append, ho]

/-- A slice that starts behind some characters and ends behind some more is made of the latter. -/
theorem slice_eq {s : String} (before mid after : List Char)
    (h : s.toList = before ++ (mid ++ after)) :
    slice s (byteLength before) (byteLength before + byteLength mid) =
      .ok (String.ofList mid) := by
  have hstart : Boundary s (byteLength before) := boundary_iff.2 ⟨_, _, h, rfl⟩
  have hstop : Boundary s (byteLength before + byteLength mid) :=
    boundary_iff.2 ⟨before ++ mid, after, by rw [h, List.append_assoc], byteLength_append _ _⟩
  rw [slice, if_pos ⟨hstart, hstop, Nat.le_add_right _ _⟩, ← String.ofList_toList (s := s), h,
    ← List.append_assoc, byteLength_eq_utf8Len, byteLength_eq_utf8Len]
  exact congrArg _ (String.extract_of_valid before mid after)

-- The other slices fail, as one that starts inside a character.
example : slice "é" 1 2 = .error .cut := by decide

/-- No byte of a character is that of a mark unless the character is. -/
theorem Cursor.In.bytes_ne (h : (Cursor.mk offset (c :: rest)).In path)
    (hm : ∀ a ∈ marks, a.toNat < 128) (hc : c ∉ marks) :
    ∀ j < c.utf8Size, ∃ b, byte? path (offset + j) = some b ∧ b ∉ marks.map ascii := by
  intro j hj
  obtain ⟨b, hb, hbyte⟩ := h.byte?_cons hj
  exact ⟨b, hbyte, mt (mem_ascii_iff hm hb).1 hc⟩

/-- A search that passes over every byte but those of marks passes over several of them. -/
theorem skip_bytes {α : Type} {f : Nat → α} {s : String} {k : Nat}
    (hf : ∀ i b, byte? s i = some b → b ∉ marks.map ascii → f i = f (i + 1))
    (h : ∀ j < k, ∃ b, byte? s (offset + j) = some b ∧ b ∉ marks.map ascii) :
    f offset = f (offset + k) := by
  induction k with
  | zero => rfl
  | succ k ih =>
    obtain ⟨b, hb, hne⟩ := h k (Nat.lt_succ_self k)
    exact (ih fun j hj => h j (Nat.lt_succ_of_lt hj)).trans (hf _ b hb hne)

end Path
end BeanPath
