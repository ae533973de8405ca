import ChipEight.Bytes

/-! The source of random bytes. -/

namespace ChipEight

/-- What a source has ready for a request: a byte, or the reason why there is none. -/
abbrev Offer : Type := Except String UInt8

/-- A source of random bytes, each answer of which is used up once. -/
structure Entropy where
  /-- The answer to each request by its number. -/
  answers : Nat → Offer
  /-- How many requests were made. -/
  requests : Nat := 0

namespace Entropy

/-- The source that hands out the bytes of a sequence and fails for a reason from then on. -/
def ofBytes (bytes : Bytes) (reason : String) : Entropy where
  answers := fun request =>
    match bytes.get? request with
    | some byte => .ok byte
    | none => .error reason

/-- The source that never has a byte. -/
def missing : Entropy := { answers := fun _ => .error "there is no random source" }

/-- The answer to the next request. -/
def next (entropy : Entropy) : Offer := entropy.answers entropy.requests

/-- The source after one more request. -/
def advance (entropy : Entropy) : Entropy := { entropy with requests := entropy.requests + 1 }

end Entropy

end ChipEight
