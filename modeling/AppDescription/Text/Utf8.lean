import AppDescription.Text.Quoted

namespace AppDescription

abbrev Octets := List UInt8

inductive Utf8Reason where
  | invalidStart | invalidContinuation | unexpectedEnd
  deriving Repr, DecidableEq

namespace Utf8Reason

def text : Utf8Reason → Text
  | invalidStart => "invalid start byte"
  | invalidContinuation => "invalid continuation byte"
  | unexpectedEnd => "unexpected end of data"

end Utf8Reason

/-- Octets that are no text: where they start, the octets that belong together up to the first one
that is out of place, and why. -/
structure Utf8Fault where
  position : Nat
  octets : Octets
  reason : Utf8Reason
  deriving Repr, DecidableEq

namespace Utf8Fault

def text (fault : Utf8Fault) : Text :=
  let first := Text.ofNat fault.position
  match fault.octets with
  | [octet] =>
    "'utf-8' codec can't decode byte 0x" ++ hexDigits 2 octet.toNat ++ " in position " ++ first ++
      ": " ++ fault.reason.text
  | octets =>
    "'utf-8' codec can't decode bytes in position " ++ first ++ "-" ++
      Text.ofNat (fault.position + octets.length - 1) ++ ": " ++ fault.reason.text

end Utf8Fault

namespace Utf8

/-- The range of each octet that has to follow a lead octet, or nothing for an octet that leads
no character. -/
def tailRanges? (lead : UInt8) : Option (List (Nat × Nat)) :=
  let n := lead.toNat
  let second := if n = 0xE0 then (0xA0, 0xBF) else if n = 0xED then (0x80, 0x9F)
    else if n = 0xF0 then (0x90, 0xBF) else if n = 0xF4 then (0x80, 0x8F) else (0x80, 0xBF)
  if n < 0x80 then some []
  else if n < 0xC2 then none
  else if n < 0xE0 then some [second]
  else if n < 0xF0 then some [second, (0x80, 0xBF)]
  else if n < 0xF5 then some [second, (0x80, 0xBF), (0x80, 0xBF)]
  else none

/-- The octets at the start that lie in their ranges, up to the first that does not. -/
def matching : List (Nat × Nat) → Octets → Octets
  | range :: ranges, octet :: rest =>
    if range.1 ≤ octet.toNat ∧ octet.toNat ≤ range.2 then octet :: matching ranges rest else []
  | _, _ => []

/-- The character of a lead octet and its tail, which add six bits each. -/
def character (lead : UInt8) (tail : Octets) : Char :=
  let bits := if tail.isEmpty then lead.toNat else lead.toNat % (64 / Nat.pow 2 tail.length)
  Char.ofNat (tail.foldl (fun n octet => n * 64 + octet.toNat % 64) bits)

/-- Reads octets that start at a position of a file. -/
def decodeFrom (position : Nat) : Octets → Except Utf8Fault Text
  | [] => .ok []
  | lead :: rest =>
    match tailRanges? lead with
    | none => .error ⟨position, [lead], .invalidStart⟩
    | some ranges =>
      let tail := matching ranges rest
      if tail.length = ranges.length then
        (decodeFrom (position + 1 + ranges.length) (rest.drop ranges.length)).map
          (character lead tail :: ·)
      else if tail.length = rest.length then .error ⟨position, lead :: tail, .unexpectedEnd⟩
      else .error ⟨position, lead :: tail, .invalidContinuation⟩
termination_by octets => octets.length
decreasing_by
  simp only [List.length_drop, List.length_cons]
  omega

def decode (octets : Octets) : Except Utf8Fault Text :=
  decodeFrom 0 octets

def encode (text : Text) : Octets :=
  text.flatMap String.utf8EncodeChar

end Utf8

end AppDescription
