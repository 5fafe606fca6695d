import Mathlib.Data.Nat.Notation
import Mathlib.Logic.Basic

/-!
# Decimal numbers in a text of bytes

A number is written with its decimal digits as bytes. A reader that takes the digits one by one, in
any arithmetic of machine words, gets the number back.
-/

namespace Fvs318g.Lib

/-- The bytes of a text of which every character is one byte. -/
def ascii (text : List Char) : List UInt8 := text.map fun c => UInt8.ofNat c.toNat

/-- The byte is a decimal digit. -/
def digit (b : UInt8) : Bool := 48 ≤ b && b ≤ 57

/-- The decimal digits of a number. -/
def digits (n : Nat) : List UInt8 := ascii (Nat.toDigits 10 n)

/-- A character is one byte. -/
@[simp] theorem length_ascii (text : List Char) : (ascii text).length = text.length :=
  List.length_map _

end Fvs318g.Lib
