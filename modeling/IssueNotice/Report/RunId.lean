/-!
# Run ids

The id of a run: 16 random bytes in hexadecimal, in groups of 4, 2, 2, 2 and 6 bytes. Two marks tell
that they are random: the version, in the upper half of the seventh byte, and the variant, in the
two upper bits of the ninth.
-/

namespace IssueNotice.RunId

/-- A byte as two hexadecimal digits. -/
def hex (byte : Nat) : String :=
  String.ofList [Nat.digitChar (byte / 16 % 16), Nat.digitChar (byte % 16)]

/-- The byte at a place, with the mark that belongs there. -/
def marked (place byte : Nat) : Nat :=
  if place = 6 then 4 * 16 + byte % 16
  else if place = 8 then 128 + byte % 64
  else byte % 256

/-- The id that some random bytes amount to; missing ones count as zero. -/
def ofBytes (bytes : List Nat) : String :=
  let group (first count : Nat) : String :=
    String.join ((List.range count).map fun k =>
      hex (marked (first + k) (bytes.getD (first + k) 0)))
  "-".intercalate [group 0 4, group 4 2, group 6 2, group 8 2, group 10 6]

end IssueNotice.RunId
