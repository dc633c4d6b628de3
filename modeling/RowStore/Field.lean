import RowStore.Bytes.BigEndian
import RowStore.Fault

/-!
Fields: the single typed values of a row, and their stored form. An integer is four bytes; a string
is the length of its content in four bytes, then the content, then zeros up to the reserved room.
-/

set_option autoImplicit false

namespace RowStore

inductive Field where
  | int (value : Int32)
  | string (text : String)
  deriving DecidableEq, Repr

namespace Field

def type : Field → FieldType
  | .int _ => .int
  | .string _ => .string

def render : Field → String
  | .int value => toString value.toInt
  | .string text => text

/-- What is stored of a string: as many leading characters as the reserved room takes. -/
def content (text : String) : List UInt8 :=
  Utf8.encode (Utf8.clip FieldType.contentRoom text)

def encode : Field → List UInt8
  | .int value => BigEndian.encode value.toUInt32
  | .string text =>
      BigEndian.encode (UInt32.ofNat (content text).length) ++ content text ++
        List.replicate (FieldType.contentRoom - (content text).length) 0

end Field

namespace FieldType

def decodeContent (length : Nat) (bytes : List UInt8) : Except Fault Field :=
  if contentRoom < length then .error (.corrupt (.stringLength length))
  else
    match Utf8.decode (bytes.take length) with
    | .ok text => .ok (.string text)
    | .error fault => .error (.corrupt (.invalidText fault))

def decode (type : FieldType) (bytes : List UInt8) : Except Fault Field :=
  if bytes.length < type.width then .error (.corrupt (.shortField type bytes.length))
  else
    match type with
    | .int => .ok (.int (BigEndian.decode bytes).toInt32)
    | .string => decodeContent (BigEndian.decode bytes).toNat (bytes.drop 4)

end FieldType

end RowStore
