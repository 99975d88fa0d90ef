/-! Texts as bytes. -/

namespace Courier.Text

def encodeChar (c : Char) : List UInt8 :=
  let n := c.toNat
  if n < 0x80 then [n.toUInt8]
  else if n < 0x800 then [(0xc0 + n / 64).toUInt8, (0x80 + n % 64).toUInt8]
  else if n < 0x10000 then
    [(0xe0 + n / 4096).toUInt8, (0x80 + n / 64 % 64).toUInt8, (0x80 + n % 64).toUInt8]
  else
    [(0xf0 + n / 262144).toUInt8, (0x80 + n / 4096 % 64).toUInt8,
      (0x80 + n / 64 % 64).toUInt8, (0x80 + n % 64).toUInt8]

def encode (text : List Char) : List UInt8 :=
  text.flatMap encodeChar

def isContinuation (b : UInt8) : Bool :=
  0x80 ≤ b && b < 0xc0

/-- Whether `b` may follow the leading byte `lead`. The bounds keep out long forms, surrogates and
numbers beyond the last code point. -/
def maySecond (lead b : UInt8) : Bool :=
  isContinuation b &&
    (if lead = 0xe0 then 0xa0 ≤ b
    else if lead = 0xed then b < 0xa0
    else if lead = 0xf0 then 0x90 ≤ b
    else if lead = 0xf4 then b < 0x90
    else true)

def low6 (b : UInt8) : Nat := b.toNat % 64

/-- The character that starts with the byte `lead`, and the bytes after it. Where there is none,
the bytes skipped are the longest beginning of a character that stands there, at least one. -/
def next (lead : UInt8) (tail : List UInt8) : Option Char × List UInt8 :=
  if lead < 0x80 then (some (Char.ofNat lead.toNat), tail)
  else if lead < 0xc2 then (none, tail)
  else if lead < 0xe0 then
    match tail with
    | b :: tail₁ =>
        if isContinuation b then
          (some (Char.ofNat (lead.toNat % 32 * 64 + low6 b)), tail₁)
        else (none, tail)
    | [] => (none, [])
  else if lead < 0xf0 then
    match tail with
    | b :: tail₁ =>
        if maySecond lead b then
          match tail₁ with
          | c :: tail₂ =>
              if isContinuation c then
                (some (Char.ofNat (lead.toNat % 16 * 4096 + low6 b * 64 + low6 c)), tail₂)
              else (none, tail₁)
          | [] => (none, [])
        else (none, tail)
    | [] => (none, [])
  else if lead < 0xf5 then
    match tail with
    | b :: tail₁ =>
        if maySecond lead b then
          match tail₁ with
          | c :: tail₂ =>
              if isContinuation c then
                match tail₂ with
                | d :: tail₃ =>
                    if isContinuation d then
                      (some (Char.ofNat
                        (lead.toNat % 8 * 262144 + low6 b * 4096 + low6 c * 64 + low6 d)), tail₃)
                    else (none, tail₂)
                | [] => (none, [])
              else (none, tail₁)
          | [] => (none, [])
        else (none, tail)
    | [] => (none, [])
  else (none, tail)

theorem next_length_le (lead : UInt8) (tail : List UInt8) :
    (next lead tail).2.length ≤ tail.length := by
  unfold next
  repeat' split
  all_goals simp <;> omega

def decode? : List UInt8 → Option (List Char)
  | [] => some []
  | lead :: tail =>
      match (next lead tail).1 with
      | some c => (decode? (next lead tail).2).map (c :: ·)
      | none => none
termination_by bytes => bytes.length
decreasing_by exact Nat.lt_succ_of_le (next_length_le lead tail)

/-- The text that the bytes spell, with U+FFFD for each malformed stretch. -/
def decodeLossy : List UInt8 → List Char
  | [] => []
  | lead :: tail =>
      (next lead tail).1.getD '\uFFFD' :: decodeLossy (next lead tail).2
termination_by bytes => bytes.length
decreasing_by exact Nat.lt_succ_of_le (next_length_le lead tail)

def validLength (bytes : List UInt8) : Nat :=
  match bytes with
  | [] => 0
  | lead :: tail =>
      match (next lead tail).1 with
      | some c => (encodeChar c).length + validLength (next lead tail).2
      | none => 0
termination_by bytes.length
decreasing_by exact Nat.lt_succ_of_le (next_length_le lead tail)

def bytesOf (text : String) : List UInt8 :=
  encode text.toList

def lossy (bytes : List UInt8) : String :=
  String.ofList (decodeLossy bytes)

end Courier.Text
