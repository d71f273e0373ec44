/-!
# Blank characters and words

Command lines are split at the Unicode `White_Space` characters. A word is a maximal run of
other characters.
-/

namespace PidOne.Text

/-- The 25 characters with the Unicode property `White_Space`. -/
def isBlank (c : Char) : Bool :=
  (9 ≤ c.val && c.val ≤ 13) || c.val == 0x20 || c.val == 0x85 || c.val == 0xa0 ||
  c.val == 0x1680 || (0x2000 ≤ c.val && c.val ≤ 0x200a) || c.val == 0x2028 ||
  c.val == 0x2029 || c.val == 0x202f || c.val == 0x205f || c.val == 0x3000

def prepend (c : Char) (rest : List Char) (words : List (List Char)) : List (List Char) :=
  match rest, words with
  | d :: _, w :: ws => if isBlank d then [c] :: w :: ws else (c :: w) :: ws
  | _, ws => [c] :: ws

def words : List Char → List (List Char)
  | [] => []
  | c :: rest => if isBlank c then words rest else prepend c rest (words rest)

end PidOne.Text
