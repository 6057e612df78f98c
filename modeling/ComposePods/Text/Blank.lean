/-!
# White space

The characters with the Unicode property White_Space, and the text that is left when they are cut
off its ends.

* `Text.isBlank`: the character is white space;
* `Text.trim`, `Text.trimStart`, `Text.trimEnd`;
* `Text.words`: the parts between runs of white space;
* `Text.startsWith`: how a text begins.
-/

namespace ComposePods

namespace Text

/-- The character has the property White_Space. -/
def isBlank (c : Char) : Bool :=
  let n := c.toNat
  (9 ≤ n && n ≤ 13) || n == 0x20 || n == 0x85 || n == 0xA0 || n == 0x1680 ||
    (0x2000 ≤ n && n ≤ 0x200A) || n == 0x2028 || n == 0x2029 || n == 0x202F ||
    n == 0x205F || n == 0x3000

/-- The characters of a text without the trailing ones that satisfy `p`. -/
def dropEnd (p : Char → Bool) (cs : List Char) : List Char := (cs.reverse.dropWhile p).reverse

def trimStart (s : String) : String := String.ofList (s.toList.dropWhile isBlank)

def trimEnd (s : String) : String := String.ofList (dropEnd isBlank s.toList)

def trim (s : String) : String := String.ofList (dropEnd isBlank (s.toList.dropWhile isBlank))

/-- Split at every character that satisfies `p`; there is always at least one part. -/
def splitAt (p : Char → Bool) : List Char → List (List Char)
  | [] => [[]]
  | c :: cs =>
    if p c then [] :: splitAt p cs
    else match splitAt p cs with
      | [] => [[c]]
      | part :: parts => (c :: part) :: parts

/-- The parts between runs of white space. -/
def words (s : String) : List String :=
  ((splitAt isBlank s.toList).filter (!·.isEmpty)).map String.ofList

/-- The text before and after the first `c`, if there is one. -/
def splitOnce (c : Char) (s : String) : Option (String × String) :=
  let cs := s.toList
  match cs.dropWhile (· != c) with
  | [] => none
  | _ :: rest => some (String.ofList (cs.takeWhile (· != c)), String.ofList rest)

/-- The parts of a list separated by every occurrence of `sep`, for a separator that is not
empty. -/
def splitOn (sep : List Char) (cs : List Char) : List (List Char) :=
  let rec go (skip : Nat) : List Char → List (List Char)
    | [] => [[]]
    | c :: rest =>
      match skip with
      | k + 1 => go k rest
      | 0 =>
        if sep.isPrefixOf (c :: rest) then [] :: go (sep.length - 1) rest
        else match go 0 rest with
          | [] => [[c]]
          | part :: parts => (c :: part) :: parts
  go 0 cs

/-- The text starts with `part`. -/
def startsWith (part s : String) : Bool := part.toList.isPrefixOf s.toList

theorem startsWith_iff {part s : String} : startsWith part s = true ↔ ∃ rest, s = part ++ rest := by
  rw [startsWith, List.isPrefixOf_iff_prefix]
  constructor
  · rintro ⟨rest, h⟩
    exact ⟨String.ofList rest,
      String.toList_injective (by rw [← h, String.toList_append, String.toList_ofList])⟩
  · rintro ⟨rest, rfl⟩
    exact ⟨rest.toList, String.toList_append.symm⟩

/-- `part` occurs in `cs`. -/
def occurs (part : List Char) : List Char → Bool
  | [] => part.isEmpty
  | c :: cs => part.isPrefixOf (c :: cs) || occurs part cs

end Text

end ComposePods
