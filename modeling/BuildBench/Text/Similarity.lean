import BuildBench.Text.Pieces

/-!
# Similar names

Two texts are similar when they share much of their characters in the same order: a longest block
that stands in both, and what is shared before it and behind it.
-/

namespace BuildBench.Text

/-- How many characters two texts have in common at the beginning. -/
def commonStart : List Char → List Char → Nat
  | a :: as, b :: bs => if a == b then commonStart as bs + 1 else 0
  | _, _ => 0

/-- A block that stands in two texts: where it begins in each of them, and how long it is. -/
structure Block where
  first : Nat
  second : Nat
  size : Nat
  deriving Repr, DecidableEq

/-- The longer of two blocks; of equally long ones the one that is already there. -/
def Block.longer (old new : Block) : Block := if old.size < new.size then new else old

/-- The longest block that stands in both texts, and of several the one that comes first. -/
def longestBlock (as bs : List Char) : Block :=
  (List.range as.length).foldl (fun best i =>
    (List.range bs.length).foldl (fun best j =>
      best.longer ⟨i, j, commonStart (as.drop i) (bs.drop j)⟩) best) ⟨0, 0, 0⟩

/-- How many characters two texts share. Every step takes away a block that is not empty, so there
are at most as many steps as characters. -/
def sharedCount : Nat → List Char → List Char → Nat
  | 0, _, _ => 0
  | steps + 1, as, bs =>
    let b := longestBlock as bs
    if b.size = 0 then 0
    else
      sharedCount steps (as.take b.first) (bs.take b.second) + b.size +
        sharedCount steps (as.drop (b.first + b.size)) (bs.drop (b.second + b.size))

/-- The shared characters of two texts as a share of all their characters, in units of which a
thousand million make the whole. -/
def similarity (a b : String) : Nat :=
  let total := a.length + b.length
  if total = 0 then 1000000000
  else 2 * sharedCount a.length a.toList b.toList * 1000000000 / total

/-- From this similarity on a name is worth mentioning. -/
def worthMentioning : Nat := 600000000

/-- At most three names that are most similar to a given one. -/
def similarNames (name : String) (names : List String) : List String :=
  let scored := (names.map fun n => (similarity n name, n)).filter (worthMentioning ≤ ·.1)
  let before (a b : Nat × String) : Bool := b.1 < a.1 || (a.1 = b.1 && decide (b.2 ≤ a.2))
  ((scored.mergeSort before).take 3).map (·.2)

end BuildBench.Text
