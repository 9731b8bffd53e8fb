import BeanPath.Number.Word
import BeanPath.Schema

/-!
# Digests

The hash of a value.  Numbers of all widths are hashed as the bits that hold them, so equal numbers
of different types have one digest, and so do a present optional and its content.  An absent
optional has the digest 0.  A sequence is hashed as its length and the digests of its parts; a bean
as its type path and then the length of that path and the digests of the fields.  Maps, sets and
sealed values have no digest, nor has anything that contains one of them.

Which values have a digest and which parts of a value enter it are properties of values.  How the
parts are mixed is not: `Word.mix` and `Word.mixText` stand in for a hash function from outside this
library, and so does the path of a type for its identity.  A digest is therefore good for two
questions only, whether there is one and whether two of them are equal.
-/

namespace BeanPath

/-- The bits that hold an integer: negative numbers are held by two's complement. -/
def IntKind.pattern (k : IntKind) (n : Int) : Nat := (n % twoTo k.bits).toNat

/-- The digest of a type: its path stands for it, as one word. -/
def Ty.digest (t : Ty) : Word := Word.mix Word.start [Word.mixText Word.start t.path]

/-- The digest of an atom. -/
def Atom.digest : Atom → Word
  | .bool b => Word.hashNat b.toNat
  | .char c => Word.hashNat c.toNat
  | .int k n => Word.hashNat (k.pattern n)
  | .float _ bits => Word.hashNat bits
  | .text s => Word.mixText Word.start s
  | .typeRef t => t.digest

namespace Schema

variable (S : Schema)

mutual

/-- The digest of a value, if it has one. -/
def digest? : Value → Option Word
  | .atom a => some a.digest
  | .absent _ => some 0#64
  | .present v => digest? v
  | .seq _ vs => do
    let parts ← (digestList vs).mapM id
    return Word.mix Word.start (Word.low vs.length :: parts)
  | .bean path fields _ => do
    let digests := digestFields fields
    let names := ((S.bean? path).map (·.fields.map (·.name))).getD []
    let parts ← names.mapM fun n => (digests.lookup n).join
    return Word.mix (Word.mixText Word.start path) (Word.low path.utf8ByteSize :: parts)
  | .sealed _ _ | .map _ _ | .set _ _ => none
termination_by structural v => v

/-- The digests of a list of values. -/
def digestList : List Value → List (Option Word)
  | [] => []
  | v :: vs => digest? v :: digestList vs

/-- The digests of fields. -/
def digestFields : List (String × Value) → List (String × Option Word)
  | [] => []
  | (n, v) :: fs => (n, digest? v) :: digestFields fs

end

end Schema
end BeanPath
