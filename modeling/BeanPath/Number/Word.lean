import BeanPath.Number.Power

/-!
# Words and how they are mixed

A hash is a word of 64 bits.  Words are taken into a state two by two: the low word of a pair is
combined with the state, the high word with a key, and the product of both is folded to one word,
the next state.

This mixing stands in for a hash function that is not part of the library.  The three constants are
fixed here once and for all, and how a text is taken in (its length, then its characters one by one)
is a choice of this module.  So the number that a hash comes out as means nothing: what may be asked
of two hashes is whether they are equal, and no result about paths, conversions, members or
registries rests on the answer.
-/

namespace BeanPath

/-- A word of 64 bits. -/
abbrev Word := BitVec 64

namespace Word

/-- The lowest 64 bits of a number. -/
def low (n : Nat) : Word := BitVec.ofNat 64 n

/-- The bits of a number above the lowest 64, up to the 128th. -/
def high (n : Nat) : Word := BitVec.ofNat 64 (n / twoTo 64)

/-- The product of two words, its low half combined with its high half. -/
def fold (x y : Word) : Word := low (x.toNat * y.toNat) ^^^ high (x.toNat * y.toNat)

/-- The state that a hash starts from. -/
def start : Word := 0x5989C6970E9AF7E8#64

/-- The key of the high words. -/
def highKey : Word := 0x452821E638D01377#64

/-- The key that closes a text. -/
def textKey : Word := 0xBE5466CF34E90C6C#64

/-- The state after a pair of words. -/
def mixPair (state low high : Word) : Word := fold (low ^^^ state) (high ^^^ highKey)

/-- The state after a run of words; a pair that is left open is closed with the word 0. -/
def mix (state : Word) : List Word → Word
  | [] => state
  | [w] => mixPair state w 0#64
  | v :: w :: ws => mix (mixPair state v w) ws

/-- The state after a text: its length, then its characters, closed by a key of its own. -/
def mixText (state : Word) (s : String) : Word :=
  fold (mix state (low s.length :: s.toList.map fun c => low c.toNat)) textKey

/-- The hash of a number of at most 128 bits. -/
def hashNat (n : Nat) : Word := mixPair start (low n) (high n)

end Word
end BeanPath
