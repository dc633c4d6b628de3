/-!
UTF-8 over lists of bytes. `encode` writes a text, `decode` reads one back and says where and how
badly ill-formed bytes fail, and `clip` cuts a text to a number of bytes without splitting a
character.
-/

set_option autoImplicit false

namespace RowStore.Utf8

/-! ### Writing -/

def encodeChars (characters : List Char) : List UInt8 :=
  characters.flatMap String.utf8EncodeChar

def encode (text : String) : List UInt8 :=
  encodeChars text.toList

/-! ### Ill-formed bytes -/

/-- Why bytes are not UTF-8. `start` is the index of the first byte that belongs to no complete
character. -/
inductive Fault where
  /-- `length` bytes from `start` on are ruled out by the byte after them. -/
  | invalid (start length : Nat)
  /-- The bytes end inside a character that began at `start`. -/
  | incomplete (start : Nat)
  deriving DecidableEq, Repr

def Fault.message : Fault → String
  | .invalid start length =>
      "invalid utf-8 sequence of " ++ toString length ++ " bytes from index " ++ toString start
  | .incomplete start =>
      "incomplete utf-8 byte sequence from index " ++ toString start

structure ByteRange where
  low : UInt8
  high : UInt8
  deriving DecidableEq, Repr

def ByteRange.admits (range : ByteRange) (byte : UInt8) : Bool :=
  range.low ≤ byte && byte ≤ range.high

def continuation : ByteRange := ⟨0x80, 0xBF⟩

/-- The bytes that may follow a leading byte, in order. The bounds on the second byte keep out
overlong forms, surrogates and numbers above `0x10FFFF`; a byte that leads nothing has none. -/
def tailRanges (lead : UInt8) : List ByteRange :=
  if ByteRange.admits ⟨0xC2, 0xDF⟩ lead then [continuation]
  else if lead = 0xE0 then [⟨0xA0, 0xBF⟩, continuation]
  else if lead = 0xED then [⟨0x80, 0x9F⟩, continuation]
  else if ByteRange.admits ⟨0xE1, 0xEF⟩ lead then [continuation, continuation]
  else if lead = 0xF0 then [⟨0x90, 0xBF⟩, continuation, continuation]
  else if ByteRange.admits ⟨0xF1, 0xF3⟩ lead then [continuation, continuation, continuation]
  else if lead = 0xF4 then [⟨0x80, 0x8F⟩, continuation, continuation]
  else []

/-- Follows the expected ranges along the bytes after a leading byte: `none` when the bytes end
while all of them still fit, otherwise the number of bytes that did fit. -/
def fittingTail : List ByteRange → List UInt8 → Option Nat
  | [], _ => some 0
  | _ :: _, [] => none
  | range :: ranges, byte :: bytes =>
      if range.admits byte then (fittingTail ranges bytes).map (· + 1) else some 0

/-- The fault of bytes that do not begin with a complete character: the longest start of a
character is what is reported. -/
def faultAt (start : Nat) : List UInt8 → Fault
  | [] => .incomplete start
  | lead :: bytes =>
      match fittingTail (tailRanges lead) bytes with
      | some fitting => .invalid start (fitting + 1)
      | none => .incomplete start

/-! ### Reading -/

def leading? (bytes : List UInt8) : Option Char :=
  (bytes.take 4).toByteArray.utf8DecodeChar? 0

def decodeFrom (start : Nat) (bytes : List UInt8) : Except Fault (List Char) :=
  match bytes with
  | [] => .ok []
  | byte :: rest =>
      match leading? (byte :: rest) with
      | none => .error (faultAt start (byte :: rest))
      | some character =>
          (decodeFrom (start + character.utf8Size) (rest.drop (character.utf8Size - 1))).map
            (character :: ·)
termination_by bytes.length
decreasing_by
  simp only [List.length_drop, List.length_cons]
  omega

def decode (bytes : List UInt8) : Except Fault String :=
  (decodeFrom 0 bytes).map String.ofList

/-! ### Cutting -/

def clipChars (room : Nat) : List Char → List Char
  | [] => []
  | character :: rest =>
      if character.utf8Size ≤ room then
        character :: clipChars (room - character.utf8Size) rest
      else []

def clip (room : Nat) (text : String) : String :=
  String.ofList (clipChars room text.toList)

end RowStore.Utf8
