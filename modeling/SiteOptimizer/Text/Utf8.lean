import SiteOptimizer.Text.Basic

/-!
# UTF-8

Files hold bytes; texts are read from them and written to them as UTF-8. Reading is strict: overlong
forms, surrogates and code points beyond U+10FFFF are refused. A refusal names the offending bytes:
the lead byte together with the continuation bytes that were still right.
-/

namespace SiteOptimizer
namespace Utf8

inductive Reason where
  | invalidStart
  /-- The byte after the offending ones does not continue the character. -/
  | invalidContinuation
  | unexpectedEnd
  deriving DecidableEq, Repr

/-- The first bytes of a file that are not UTF-8. -/
structure Flaw where
  reason : Reason
  lead : Nat
  /-- How many bytes stand before it. -/
  start : Nat
  /-- How many bytes are offending. -/
  length : Nat
  deriving DecidableEq, Repr

def Reason.message : Reason → Text
  | .invalidStart => "invalid start byte".toList
  | .invalidContinuation => "invalid continuation byte".toList
  | .unexpectedEnd => "unexpected end of data".toList

def hexByte (n : Nat) : Text :=
  [Nat.digitChar (n / 16), Nat.digitChar (n % 16)]

def Flaw.message (f : Flaw) : Text :=
  if f.length = 1 then
    "'utf-8' codec can't decode byte 0x".toList ++ hexByte f.lead ++ " in position ".toList ++
      Text.ofNat f.start ++ ": ".toList ++ f.reason.message
  else
    "'utf-8' codec can't decode bytes in position ".toList ++ Text.ofNat f.start ++ "-".toList ++
      Text.ofNat (f.start + f.length - 1) ++ ": ".toList ++ f.reason.message

/-- What a lead byte announces: its own bits, how many bytes follow, and the
range of the first of them. -/
structure Lead where
  bits : Nat
  more : Nat
  low : Nat
  high : Nat

def lead? (b : Nat) : Option Lead :=
  if b < 0x80 then some ⟨b, 0, 0x80, 0xBF⟩
  -- Continuation bytes, and the two bytes that would only lead overlong forms.
  else if b < 0xC2 then none
  else if b < 0xE0 then some ⟨b - 0xC0, 1, 0x80, 0xBF⟩
  -- What the first byte behind may not be: overlong behind E0 and F0, a surrogate behind ED, beyond
  -- the last code point behind F4.
  else if b = 0xE0 then some ⟨0, 2, 0xA0, 0xBF⟩
  else if b = 0xED then some ⟨0xD, 2, 0x80, 0x9F⟩
  else if b < 0xF0 then some ⟨b - 0xE0, 2, 0x80, 0xBF⟩
  else if b = 0xF0 then some ⟨0, 3, 0x90, 0xBF⟩
  else if b < 0xF4 then some ⟨b - 0xF0, 3, 0x80, 0xBF⟩
  else if b = 0xF4 then some ⟨4, 3, 0x80, 0x8F⟩
  else none

/-- Reads `more` continuation bytes behind `taken` bytes of a character
whose bits so far are `bits`. -/
def continuation (bits low high taken : Nat) :
    Nat → List UInt8 → Except (Reason × Nat) (Nat × List UInt8)
  | 0, bytes => .ok (bits, bytes)
  | _ + 1, [] => .error (.unexpectedEnd, taken)
  | more + 1, b :: bytes =>
    if low ≤ b.toNat && b.toNat ≤ high then
      -- Only the first byte behind the lead byte has a range of its own.
      continuation (bits * 64 + b.toNat % 64) 0x80 0xBF (taken + 1) more bytes
    else .error (.invalidContinuation, taken)

theorem length_le_of_continuation {bits low high taken more n : Nat} {bytes rest : List UInt8}
    (h : continuation bits low high taken more bytes = .ok (n, rest)) :
    rest.length ≤ bytes.length := by
  induction more generalizing bits low high taken bytes with
  | zero => simp only [continuation, Except.ok.injEq, Prod.mk.injEq] at h; simp [h.2]
  | succ more ih =>
    cases bytes with
    | nil => simp [continuation] at h
    | cons b bytes =>
      simp only [continuation] at h
      split at h
      · exact Nat.le_succ_of_le (ih h)
      · simp at h

/-- Reads the characters of a file from its byte number `start` on. -/
def decodeFrom (start : Nat) : List UInt8 → Except Flaw Text
  | [] => .ok []
  | b :: bytes =>
    match lead? b.toNat with
    | none => .error ⟨.invalidStart, b.toNat, start, 1⟩
    | some lead =>
      match _h : continuation lead.bits lead.low lead.high 1 lead.more bytes with
      | .error (reason, length) => .error ⟨reason, b.toNat, start, length⟩
      | .ok (n, rest) =>
        match decodeFrom (start + 1 + lead.more) rest with
        | .error flaw => .error flaw
        | .ok s => .ok (Char.ofNat n :: s)
termination_by bytes => bytes.length
decreasing_by
  have := length_le_of_continuation _h
  simp only [List.length_cons]
  omega

def decode (bytes : List UInt8) : Except Flaw Text :=
  decodeFrom 0 bytes

def encode (s : Text) : List UInt8 :=
  s.flatMap String.utf8EncodeChar

end Utf8
end SiteOptimizer
