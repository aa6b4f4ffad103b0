/-!
# Lower case

The lower-case form of a text, character by character, for the scripts whose case pairs sit at
a fixed distance: ASCII, Latin-1, the paired letters of Latin Extended-A, Greek and Cyrillic.
Other characters stay as they are.
-/

namespace CodeGraph.Text

def lowerChar (c : Char) : Char :=
  let n := c.toNat
  let shift (k : Nat) : Char := Char.ofNat (n + k)
  if 0x41 ≤ n && n ≤ 0x5A then shift 32
  else if 0xC0 ≤ n && n ≤ 0xDE && n != 0xD7 then shift 32
  else if 0x100 ≤ n && n ≤ 0x137 && n % 2 == 0 && n != 0x130 then shift 1
  else if 0x139 ≤ n && n ≤ 0x148 && n % 2 == 1 then shift 1
  else if 0x14A ≤ n && n ≤ 0x177 && n % 2 == 0 then shift 1
  else if n == 0x178 then Char.ofNat 0xFF
  else if 0x179 ≤ n && n ≤ 0x17E && n % 2 == 1 then shift 1
  else if n == 0x386 then Char.ofNat 0x3AC
  else if 0x388 ≤ n && n ≤ 0x38A then shift 37
  else if n == 0x38C then Char.ofNat 0x3CC
  else if n == 0x38E || n == 0x38F then shift 63
  else if 0x391 ≤ n && n ≤ 0x3AB && n != 0x3A2 then shift 32
  else if 0x400 ≤ n && n ≤ 0x40F then shift 80
  else if 0x410 ≤ n && n ≤ 0x42F then shift 32
  else c

/-- The lower-case form of a text. -/
def toLower (s : String) : String := String.ofList (s.toList.map lowerChar)

end CodeGraph.Text
