/-!
# Bytes as characters

UTF-8 is read by a machine that takes one byte a step. Every well-formed
sequence yields its character and every maximal ill-formed piece yields one
gap, so strict reading (no gap allowed) and lenient reading (a replacement
character for each gap) are two views of the same list of cells.
-/

namespace CertSteward.Text

set_option autoImplicit false

/-- One cell of a text read from bytes: a character, or a gap where the bytes form none. -/
abbrev Cell := Option Char

namespace Utf8

/-- What is still expected inside a sequence: `missing + 1` bytes, the next one within
`low … high`, on top of the bits gathered so far. -/
structure Pending where
  gathered : Nat
  missing : Nat
  low : UInt8
  high : UInt8
deriving DecidableEq, Repr

/-- The start of a sequence. Second bytes are narrowed so that overlong forms, surrogates
and numbers beyond the last character end the sequence at once. -/
def opening (byte : UInt8) : List Cell × Option Pending :=
  let bits := byte.toNat
  if bits < 0x80 then ([some (Char.ofNat bits)], none)
  else if bits < 0xC2 then ([none], none)
  else if bits < 0xE0 then ([], some ⟨bits - 0xC0, 0, 0x80, 0xBF⟩)
  else if bits = 0xE0 then ([], some ⟨0, 1, 0xA0, 0xBF⟩)
  else if bits = 0xED then ([], some ⟨0x0D, 1, 0x80, 0x9F⟩)
  else if bits < 0xF0 then ([], some ⟨bits - 0xE0, 1, 0x80, 0xBF⟩)
  else if bits = 0xF0 then ([], some ⟨0, 2, 0x90, 0xBF⟩)
  else if bits < 0xF4 then ([], some ⟨bits - 0xF0, 2, 0x80, 0xBF⟩)
  else if bits = 0xF4 then ([], some ⟨4, 2, 0x80, 0x8F⟩)
  else ([none], none)

/-- One byte. A byte that cannot continue the open sequence closes it with a gap and is
looked at again as a start. -/
def step (pending : Option Pending) (byte : UInt8) : List Cell × Option Pending :=
  match pending with
  | none => opening byte
  | some open_ =>
      if open_.low ≤ byte ∧ byte ≤ open_.high then
        let gathered := open_.gathered * 64 + (byte.toNat - 0x80)
        match open_.missing with
        | 0 => ([some (Char.ofNat gathered)], none)
        | missing + 1 => ([], some ⟨gathered, missing, 0x80, 0xBF⟩)
      else
        let (cells, next) := opening byte
        (none :: cells, next)

def readFrom (pending : Option Pending) : List UInt8 → List Cell
  | [] => if pending.isSome then [none] else []
  | byte :: rest =>
      let (cells, next) := step pending byte
      cells ++ readFrom next rest

/-- The cells of a byte sequence. -/
def read (bytes : List UInt8) : List Cell :=
  readFrom none bytes

/-- The text of bytes that are well formed throughout. -/
def decode? (bytes : List UInt8) : Option String :=
  ((read bytes).mapM id).map String.ofList

/-- The text of any bytes, with U+FFFD for every gap. -/
def decodeLossy (bytes : List UInt8) : String :=
  String.ofList ((read bytes).map fun cell => cell.getD '\uFFFD')

def encode (text : String) : List UInt8 :=
  text.toList.flatMap String.utf8EncodeChar

end Utf8

/-- The cells of a text that is already in characters. -/
def cells (text : String) : List Cell :=
  text.toList.map some

end CertSteward.Text
