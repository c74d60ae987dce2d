/-!
# Similar texts

How alike two texts are, from 0 to 1: the part of each that the other has nearby, and how much of
that stands in the same order.
-/

namespace MarkupChain.Text

/-- The places of `b` that the characters of `a` are paired with, in the order of `a`. A character is
paired with the first equal one that is free and at most `reach` places away. -/
def pairedPlaces (reach : Nat) (b a : List Char) : List Nat :=
  a.zipIdx.foldl (fun taken (c, i) =>
    let free := fun j =>
      i ≤ j + reach && j ≤ i + reach && b[j]? == some c && !taken.contains j
    taken ++ ((List.range b.length).find? free).toList) []

/-- How many of the paired places hold another character once they are put in order. -/
def displaced (b : List Char) (places : List Nat) : Nat :=
  let ordered := (List.range b.length).filter places.contains
  (places.zip ordered).countP fun (i, j) => b[i]? != b[j]?

/-- The mean of the paired part of `a`, the paired part of `b` and the part of the pairs that stand in
order, where two displaced characters are one exchange. -/
def similarity (a b : List Char) : Float :=
  let places := pairedPlaces (max a.length b.length / 2 - 1) b a
  let pairs := places.length
  if a.isEmpty && b.isEmpty then 1
  else if pairs = 0 then 0
  else
    let inOrder := pairs - displaced b places / 2
    (pairs.toFloat / a.length.toFloat + pairs.toFloat / b.length.toFloat +
      inOrder.toFloat / pairs.toFloat) / 3

end MarkupChain.Text
