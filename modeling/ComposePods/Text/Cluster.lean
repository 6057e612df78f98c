import ComposePods.Text.Word

/-!
# Characters as readers see them

What a reader sees as one character may be several: a letter and its marks, the parts of a syllable
that is written in one block, the two letters of a flag, pictures that a joiner holds together, or
the two characters that end a line.

* `Text.Jamo`: the parts of syllables in blocks;
* `Text.clusters`: the characters of a text in such groups.
-/

namespace ComposePods

namespace Text

/-- The character adds to the one before it: a mark, a joiner or a skin tone. -/
def isExtending (c : Char) : Bool :=
  (isUnprintable c && isWordChar c) || (0x1F3FB ≤ c.toNat && c.toNat ≤ 0x1F3FF)

set_option maxRecDepth 10000 in
/-- The first and last code point of each range of marks that take room of their own, ascending. -/
def spacingMarkRanges : List (Nat × Nat) := [
  (2307, 2307), (2363, 2363), (2366, 2368), (2377, 2380), (2382, 2383), (2434, 2435),
  (2495, 2496), (2503, 2504), (2507, 2508), (2563, 2563), (2622, 2624), (2691, 2691),
  (2750, 2752), (2761, 2761), (2763, 2764), (2818, 2819), (2880, 2880), (2887, 2888),
  (2891, 2892), (3007, 3007), (3009, 3010), (3014, 3016), (3018, 3020), (3073, 3075),
  (3137, 3140), (3202, 3203), (3262, 3262), (3264, 3265), (3267, 3268), (3271, 3272),
  (3274, 3275), (3330, 3331), (3391, 3392), (3398, 3400), (3402, 3404), (3458, 3459),
  (3536, 3537), (3544, 3550), (3570, 3571), (3635, 3635), (3763, 3763), (3902, 3903),
  (3967, 3967), (4145, 4145), (4155, 4156), (4182, 4183), (4228, 4228), (5909, 5909),
  (5940, 5940), (6070, 6070), (6078, 6085), (6087, 6088), (6435, 6438), (6441, 6443),
  (6448, 6449), (6451, 6456), (6681, 6682), (6741, 6741), (6743, 6743), (6765, 6770),
  (6916, 6916), (6971, 6971), (6973, 6977), (6979, 6980), (7042, 7042), (7073, 7073),
  (7078, 7079), (7082, 7082), (7143, 7143), (7146, 7148), (7150, 7150), (7154, 7155),
  (7204, 7211), (7220, 7221), (7393, 7393), (7415, 7415), (43043, 43044), (43047, 43047),
  (43136, 43137), (43188, 43203), (43346, 43347), (43395, 43395), (43444, 43445), (43450, 43451),
  (43454, 43456), (43567, 43568), (43571, 43572), (43597, 43597), (43755, 43755), (43758, 43759),
  (43765, 43765), (44003, 44004), (44006, 44007), (44009, 44010), (44012, 44012), (69632, 69632),
  (69634, 69634), (69762, 69762), (69808, 69810), (69815, 69816), (69932, 69932), (69957, 69958),
  (70018, 70018), (70067, 70069), (70079, 70080), (70094, 70094), (70188, 70190), (70194, 70195),
  (70197, 70197), (70368, 70370), (70402, 70403), (70463, 70463), (70465, 70468), (70471, 70472),
  (70475, 70477), (70498, 70499), (70709, 70711), (70720, 70721), (70725, 70725), (70833, 70834),
  (70841, 70841), (70843, 70844), (70846, 70846), (70849, 70849), (71088, 71089), (71096, 71099),
  (71102, 71102), (71216, 71218), (71227, 71228), (71230, 71230), (71340, 71340), (71342, 71343),
  (71350, 71350), (71462, 71462), (71724, 71726), (71736, 71736), (71985, 71989), (71991, 71992),
  (71997, 71997), (72000, 72000), (72002, 72002), (72145, 72147), (72156, 72159), (72164, 72164),
  (72249, 72249), (72279, 72280), (72343, 72343), (72751, 72751), (72766, 72766), (72873, 72873),
  (72881, 72881), (72884, 72884), (73098, 73102), (73107, 73108), (73110, 73110), (73461, 73462),
  (94033, 94087), (94192, 94193), (119142, 119142), (119149, 119149)]

/-- The first and last code point of each range of signs that stand before the character to which
they belong. -/
def prependedRanges : List (Nat × Nat) := [
  (1536, 1541), (1757, 1757), (1807, 1807), (2274, 2274), (3406, 3406), (69821, 69821),
  (70082, 70083), (72250, 72250), (72326, 72329), (73030, 73030)]

/-- A part of a syllable that is written in one block, or such a syllable. -/
inductive Jamo where
  | lead
  | vowel
  | tail
  /-- A syllable without a tail. -/
  | opened
  /-- A syllable with a tail. -/
  | closed
  deriving DecidableEq

/-- The part of a syllable that a character is. -/
def Jamo.of? (c : Char) : Option Jamo :=
  let n := c.toNat
  if (0x1100 ≤ n && n ≤ 0x115F) || (0xA960 ≤ n && n ≤ 0xA97C) then some .lead
  else if (0x1160 ≤ n && n ≤ 0x11A7) || (0xD7B0 ≤ n && n ≤ 0xD7C6) then some .vowel
  else if (0x11A8 ≤ n && n ≤ 0x11FF) || (0xD7CB ≤ n && n ≤ 0xD7FB) then some .tail
  else if 0xAC00 ≤ n && n ≤ 0xD7A3 then some (if (n - 0xAC00) % 28 = 0 then .opened else .closed)
  else none

/-- The second part goes on with the syllable of the first. -/
def Jamo.joins : Jamo → Jamo → Bool
  | .lead, k => k != .tail
  | .vowel, k | .opened, k => k == .vowel || k == .tail
  | .tail, k | .closed, k => k == .tail

/-- Both characters belong to one syllable. -/
def inSyllable (b c : Char) : Bool :=
  match Jamo.of? b, Jamo.of? c with
  | some j, some k => j.joins k
  | _, _ => false

/-- The character is a letter of a flag. -/
def isFlagLetter (c : Char) : Bool := 0x1F1E6 ≤ c.toNat && c.toNat ≤ 0x1F1FF

/-- The character is a picture. -/
def isPicture (c : Char) : Bool :=
  (0x2190 ≤ c.toNat && c.toNat ≤ 0x2BFF) || (0x1F000 ≤ c.toNat && c.toNat ≤ 0x1FAFF)

/-- The character belongs to the group of those before it, given in reverse. -/
def continues (before : List Char) (c : Char) : Bool :=
  match before with
  | [] => false
  | b :: more =>
    if b = '\r' then c == '\n'
    else if b = '\n' || b.toNat < 32 || c.toNat < 32 then false
    else isExtending c || inRanges c.toNat spacingMarkRanges || inRanges b.toNat prependedRanges ||
      inSyllable b c || (b == '\u200d' && isPicture c && more.any isPicture) ||
      (isFlagLetter b && isFlagLetter c && more.isEmpty)

/-- The groups of the characters, where `before` is the group begun, reversed. -/
def clustersFrom (before : List Char) : List Char → List (List Char)
  | [] => if before.isEmpty then [] else [before.reverse]
  | c :: cs =>
    if before.isEmpty || continues before c then clustersFrom (c :: before) cs
    else before.reverse :: clustersFrom [c] cs

/-- The characters of a text in groups. -/
def clusters (s : String) : List (List Char) := clustersFrom [] s.toList

end Text

end ComposePods
