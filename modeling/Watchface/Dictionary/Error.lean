import Watchface.LittleEndian

/-!
Why a dictionary cannot be read or written.
-/

namespace Watchface.Dictionary

inductive Error where
  | empty
  /-- A record runs past the end of the payload. -/
  | truncated
  | unknownType (byte : UInt8)
  | notAnInteger
  | notByteArray
  /-- An integer that is not 1, 2 or 4 bytes wide. -/
  | invalidWidth (width : UInt16)
  | bufferTooSmall
  /-- The count byte cannot announce more than 255 tuples. -/
  | tooManyTuples
  deriving DecidableEq, Repr

namespace Error

def name : Error → String
  | .empty => "Empty"
  | .truncated => "Truncated"
  | .unknownType _ => "UnknownType"
  | .notAnInteger => "NotAnInteger"
  | .notByteArray => "NotByteArray"
  | .invalidWidth _ => "InvalidWidth"
  | .bufferTooSmall => "BufferTooSmall"
  | .tooManyTuples => "TooManyTuples"

def message (error : Error) : String :=
  match error with
  | .unknownType byte => error.name ++ "(" ++ Nat.repr byte.toNat ++ ")"
  | .invalidWidth width => error.name ++ "(" ++ Nat.repr width.toNat ++ ")"
  | _ => error.name

end Error

end Watchface.Dictionary
