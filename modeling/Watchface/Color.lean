/-!
Colors of the 64-color palette and the screens that show them.

A color is one byte: two bits each of alpha, red, green and blue.
-/

namespace Watchface

structure Color where
  argb : UInt8
  deriving DecidableEq, Repr

namespace Color

def black : Color := ⟨0xC0⟩
def white : Color := ⟨0xFF⟩
def darkGray : Color := ⟨0xD5⟩
def lightGray : Color := ⟨0xEA⟩
def jaegerGreen : Color := ⟨0xC9⟩
def yellow : Color := ⟨0xFC⟩
def orange : Color := ⟨0xF4⟩
def red : Color := ⟨0xF0⟩
def vividCerulean : Color := ⟨0xCB⟩

def isOpaque (color : Color) : Bool := color.argb &&& 0xC0 == 0xC0

end Color

structure Platform where
  color : Bool
  round : Bool
  deriving DecidableEq, Repr

namespace Platform

def blackWhite : Platform := ⟨false, false⟩
def blackWhiteRound : Platform := ⟨false, true⟩
def colorRect : Platform := ⟨true, false⟩
def colorRound : Platform := ⟨true, true⟩

instance : Inhabited Platform := ⟨colorRect⟩

def colorOr (platform : Platform) (color fallback : Color) : Color :=
  if platform.color then color else fallback

def roundOr (platform : Platform) (round rect : Color) : Color :=
  if platform.round then round else rect

end Platform

end Watchface
