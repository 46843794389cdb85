import LogHarvest.Text.Code

/-!
# Likeness of texts

Two texts are alike as far as they have codes in common: those of their longest common block,
and those that the parts before it and the parts after it have in common. A word that is not
known is answered with the known words that are much like it.
-/

namespace LogHarvest.Text

/-- The length of the longest common beginning. -/
def sharedStart : Text → Text → Nat
  | a :: s, b :: t => if a = b then sharedStart s t + 1 else 0
  | _, _ => 0

/-- A block that two texts have in common: where it starts in each, and its length. -/
structure Block where
  left : Nat
  right : Nat
  length : Nat

/-- The longer of two blocks; of two of one length the first. -/
def Block.max (a b : Block) : Block := if b.length > a.length then b else a

/-- The longest common block, the leftmost in the first text if there are several, and then the
leftmost in the second. -/
def longestBlock (s t : Text) : Block :=
  (List.range s.length).foldl (fun best i =>
    (List.range t.length).foldl (fun best j =>
      best.max ⟨i, j, sharedStart (s.drop i) (t.drop j)⟩) best) ⟨0, 0, 0⟩

/-- The number of codes that two texts have in common. -/
def common (s t : Text) : Nat :=
  match longestBlock s t with
  | ⟨i, j, n⟩ =>
    if _ : 0 < n ∧ i + n ≤ s.length then
      n + common (s.take i) (t.take j) + common (s.drop (i + n)) (t.drop (j + n))
    else 0
termination_by s.length
decreasing_by
  all_goals simp only [List.length_take, List.length_drop]; omega

/-- At least six tenths of the codes of both texts are common. -/
def alike (s t : Text) : Bool := 10 * common s t ≥ 3 * (s.length + t.length)

/-- Whether one text is more like a word than another; of two that are like it in the same
measure, the later in code point order. -/
def moreAlike (word s t : Text) : Bool :=
  let ofS := common s word * (t.length + word.length)
  let ofT := common t word * (s.length + word.length)
  ofS > ofT || (ofS = ofT && le t s)

/-- The known words that are much like a word, three at most, in code point order. -/
def wordsLike (word : Text) (known : List Text) : List Text :=
  (((known.filter fun s => alike s word).mergeSort (moreAlike word)).take 3).mergeSort le

end LogHarvest.Text
