import RoverDispatch.Wire.Field

/-!
# Values in Fields

Typed values as the data of a field.

Numbers are words of a fixed width, a text is its byte length followed by its
bytes, and a list is its count followed by its words. Reading is strict: the
data has to be exactly what writing produces, so neither a value of another
width nor a trailing byte is let through, and what is wrong is named.

## Main definitions

* `Value.int`, `Value.readInt`: A signed number of a given width.
* `Value.single`, `Value.readSingle`: A single-precision number.
* `Value.bool`, `Value.readBool`: A truth value.
* `Value.text`, `Value.readText`: A text with its length.
* `Value.ints`, `Value.readInts`: A list of four-byte numbers with its count.
-/

namespace RoverDispatch

namespace Value

/-- A signed number in `w` bytes. -/
def int (w : Nat) (i : Int) : Bytes := Word.be w (Word.ofSigned w i)

/-- A single-precision number. -/
def single (x : Single) : Bytes := Word.be 4 x.bits.toNat

/-- A truth value. -/
def bool (b : Bool) : Bytes := [if b then 1 else 0]

/-- A text after its length in bytes. -/
def text (s : String) : Bytes := Word.be 4 s.utf8ByteSize ++ textBytes s

/-- A list of four-byte numbers after its count. -/
def ints (is : List Int) : Bytes := Word.be 4 is.length ++ is.flatMap (int 4)

/-- The data, if it is `w` bytes long. -/
def ofWidth (w : Nat) (data : Bytes) : Except Defect Bytes :=
  if data.length = w then .ok data else .error .width

/-- The signed number in `w` bytes of data. -/
def readInt (w : Nat) (data : Bytes) : Except Defect Int := do
  let word ← ofWidth w data
  return Word.toSigned w (Word.ofBe word)

/-- The single-precision number in four bytes of data. -/
def readSingle (data : Bytes) : Except Defect Single := do
  let word ← ofWidth 4 data
  return ⟨UInt32.ofNat (Word.ofBe word)⟩

/-- The truth value in one byte of data. -/
def readBool (data : Bytes) : Except Defect Bool := do
  let word ← ofWidth 1 data
  match word with
  | [0] => return false
  | [1] => return true
  | _ => .error .notBoolean

/-- The length or count that data starts with, and the data after it. -/
def readCount (data : Bytes) : Except Defect (Nat × Bytes) :=
  let word := data.take 4
  if word.length < 4 then .error .prefixMissing
  else
    let n := Word.toSigned 4 (Word.ofBe word)
    if n < 0 then .error .prefixNegative else .ok (n.toNat, data.drop 4)

/-- The text in data that starts with its length. -/
def readText (data : Bytes) : Except Defect String := do
  let (length, bytes) ← readCount data
  if bytes.length ≠ length then .error .textLength
  else
    match textOfBytes? bytes with
    | some s => return s
    | none => .error .notText

/-- The four-byte numbers that bytes hold one after another. -/
def splitInts : Bytes → List Int
  | a :: b :: c :: d :: rest => Word.toSigned 4 (Word.ofBe [a, b, c, d]) :: splitInts rest
  | _ => []

/-- The list in data that starts with its count. -/
def readInts (data : Bytes) : Except Defect (List Int) := do
  let (count, bytes) ← readCount data
  if bytes.length ≠ count * 4 then .error .listLength
  else return splitInts bytes

end Value

namespace Field

/-- A field holding a four-byte number. -/
def int32 (name : String) (i : Int) : Field := ⟨name, Value.int 4 i, 0, 1⟩

/-- A field holding an eight-byte number. -/
def int64 (name : String) (i : Int) : Field := ⟨name, Value.int 8 i, 0, 1⟩

/-- A field holding a single-precision number. -/
def single (name : String) (x : Single) : Field := ⟨name, Value.single x, 0, 1⟩

/-- A field holding a truth value. -/
def bool (name : String) (b : Bool) : Field := ⟨name, Value.bool b, 0, 1⟩

/-- A field holding a text. -/
def text (name : String) (s : String) : Field := ⟨name, Value.text s, 0, 1⟩

/-- A field holding a list of four-byte numbers. -/
def ints (name : String) (is : List Int) : Field := ⟨name, Value.ints is, 0, 1⟩

end Field

end RoverDispatch
