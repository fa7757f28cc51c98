/-!
# `AnswerDesk.Text.Utf8`: the bytes of the characters of an interval

UTF-8 writes a character as one to four bytes. The characters of an interval are cut
into parts (`boxes`) for which every byte runs over an interval of its own, whatever
the other bytes are. A part ends where the number of bytes grows, at the surrogates,
which are no characters, and where the bytes behind the first would not run over all
their values.
-/

set_option autoImplicit false

namespace AnswerDesk.Text.Utf8

/-- For each byte of some characters, the interval that it runs over. -/
abbrev Box := List (Nat × Nat)

/-- The bytes of a code point. -/
def bytes (n : Nat) : List Nat :=
  (String.utf8EncodeChar (Char.ofNat n)).map UInt8.toNat

/-- Where an interval is cut so that its characters have equally many bytes. -/
def lengthCut? (first last : Nat) : Option Nat :=
  ([0x7F, 0x7FF, 0xFFFF].find? fun n => first ≤ n && n < last).map (· + 1)

/-- Where an interval is cut so that the last bytes, which have `block` values together,
run over all of them or stand behind the same bytes. -/
def blockCut? (first last block : Nat) : Option Nat :=
  if first / block = last / block then none
  else if first % block ≠ 0 then some ((first / block + 1) * block)
  else if last % block ≠ block - 1 then some (last / block * block)
  else none

/-- Where an interval is cut first, as the start of its second part. -/
def cut? (first last : Nat) : Option Nat :=
  if first < 0xD800 ∧ 0xD800 ≤ last then some 0xD800
  else if first < 0xE000 ∧ 0xE000 ≤ last then some 0xE000
  else if last ≤ 0x7F then none
  else (lengthCut? first last).or ([64, 64 * 64, 64 * 64 * 64].findSome? (blockCut? first last))

/-- The parts of an interval, in order. -/
def boxes (first last : Nat) : List Box :=
  match cut? first last with
  | some n =>
    if _ : first < n ∧ n ≤ last then boxes first (n - 1) ++ boxes n last else []
  | none =>
    if 0xD800 ≤ first ∧ last ≤ 0xDFFF then [] else [(bytes first).zip (bytes last)]
termination_by last - first

end AnswerDesk.Text.Utf8
