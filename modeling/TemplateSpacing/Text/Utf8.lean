import TemplateSpacing.Text.Quoted

/-! # Reading UTF-8

Bytes to text, refusing overlong forms, surrogates and code points past the last plane.  A refusal
names the bytes at fault and what is wrong with them.
-/

set_option autoImplicit false

namespace TemplateSpacing.Text

inductive Utf8Flaw
  | startByte
  | continuationByte
  | endOfData
deriving DecidableEq, Repr

def Utf8Flaw.message : Utf8Flaw → String
  | .startByte => "invalid start byte"
  | .continuationByte => "invalid continuation byte"
  | .endOfData => "unexpected end of data"

/-- A refusal: the flaw, the position and value of the first byte at fault, and how many bytes are
at fault. -/
structure Utf8Error where
  flaw : Utf8Flaw
  position : Nat
  byte : UInt8
  count : Nat
deriving DecidableEq, Repr

def Utf8Error.message (e : Utf8Error) : String :=
  let place :=
    if e.count = 1 then
      "byte 0x" ++ String.ofList (hexDigits 2 e.byte.toNat) ++ " in position " ++
        toString e.position
    else
      "bytes in position " ++ toString e.position ++ "-" ++ toString (e.position + e.count - 1)
  "'utf-8' codec can't decode " ++ place ++ ": " ++ e.flaw.message

/-- The bounds of the second byte after a first one that starts a longer sequence, and how many
continuation bytes the sequence has. -/
def sequenceShape (first : Nat) : Option (Nat × Nat × Nat) :=
  if 0xC2 ≤ first && first ≤ 0xDF then some (0x80, 0xBF, 1)
  else if first = 0xE0 then some (0xA0, 0xBF, 2)
  else if first = 0xED then some (0x80, 0x9F, 2)
  else if 0xE1 ≤ first && first ≤ 0xEF then some (0x80, 0xBF, 2)
  else if first = 0xF0 then some (0x90, 0xBF, 3)
  else if 0xF1 ≤ first && first ≤ 0xF3 then some (0x80, 0xBF, 3)
  else if first = 0xF4 then some (0x80, 0x8F, 3)
  else none

def leadBits (first continuations : Nat) : Nat :=
  first % Nat.pow 2 (6 - continuations)

structure Pending where
  /-- Bits gathered so far. -/
  bits : Nat
  /-- Bounds of the next byte. -/
  low : Nat
  high : Nat
  /-- How many bytes are missing, this one counted. -/
  missing : Nat
  /-- The first byte of the sequence, its position, and the bytes seen. -/
  first : UInt8
  position : Nat
  seen : Nat

/-- Decodes from a position on, inside a sequence or between two; `decoded` is reversed. -/
def decodeFrom : Nat → Option Pending → List Char → List UInt8 → Except Utf8Error (List Char)
  | _, none, decoded, [] => .ok decoded.reverse
  | _, some p, _, [] => .error ⟨.endOfData, p.position, p.first, p.seen⟩
  | position, none, decoded, b :: rest =>
    if b.toNat < 0x80 then
      decodeFrom (position + 1) none (Char.ofNat b.toNat :: decoded) rest
    else
      match sequenceShape b.toNat with
      | none => .error ⟨.startByte, position, b, 1⟩
      | some (low, high, missing) =>
        decodeFrom (position + 1)
          (some ⟨leadBits b.toNat missing, low, high, missing, b, position, 1⟩) decoded rest
  | position, some p, decoded, b :: rest =>
    if p.low ≤ b.toNat && b.toNat ≤ p.high then
      let bits := p.bits * 64 + b.toNat % 64
      if p.missing ≤ 1 then
        decodeFrom (position + 1) none (Char.ofNat bits :: decoded) rest
      else
        decodeFrom (position + 1)
          (some ⟨bits, 0x80, 0xBF, p.missing - 1, p.first, p.position, p.seen + 1⟩) decoded rest
    else .error ⟨.continuationByte, p.position, p.first, p.seen⟩

def decodeUtf8 (bytes : List UInt8) : Except Utf8Error String :=
  (decodeFrom 0 none [] bytes).map String.ofList

/-- Puts the characters, with every line ending of one or two characters written as a line feed,
in reverse before the reversed ones. -/
def unifyOnto : List Char → List Char → List Char
  | done, [] => done
  | done, '\r' :: '\n' :: rest => unifyOnto ('\n' :: done) rest
  | done, '\r' :: rest => unifyOnto ('\n' :: done) rest
  | done, c :: rest => unifyOnto (c :: done) rest

def unifyLineEndings (s : String) : String :=
  String.ofList (unifyOnto [] s.toList).reverse

def readText (bytes : List UInt8) : Except Utf8Error String :=
  (decodeUtf8 bytes).map unifyLineEndings

end TemplateSpacing.Text
