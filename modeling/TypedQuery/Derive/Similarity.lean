/-!
# `similarity` — how much two names are alike

Two characters match when they are equal and not too far apart. The similarity grows with the
share of matched characters on either side, shrinks with matched characters that are out of
order, and grows again with a common beginning. It is computed in floating point, since it is
compared with a bound and with other similarities.
-/

set_option autoImplicit false

namespace TypedQuery.Derive

namespace Similarity

/-- The places of the second text that match a character at place `i` of the first: free, within
    the window, equal; the first of them. -/
def partner? (window : Nat) (taken : List Nat) (b : List Char) (i : Nat) (c : Char) : Option Nat :=
  (List.range b.length).find? fun j =>
    i ≤ j + window && j ≤ i + window && !taken.contains j && b[j]? == some c

/-- The matched characters of the first text in order, and the matched places of the second. -/
def matched (window : Nat) (b : List Char) (i : Nat) (taken : List Nat) :
    List Char → List Char × List Nat
  | [] => ([], taken)
  | c :: rest =>
    match partner? window taken b i c with
    | none => matched window b (i + 1) taken rest
    | some j =>
      let (cs, places) := matched window b (i + 1) (j :: taken) rest
      (c :: cs, places)

/-- The share of matched characters, and of those in order. -/
def base (a b : List Char) : Float :=
  if a.isEmpty && b.isEmpty then 1
  else if a.isEmpty || b.isEmpty then 0
  else
    let window := max a.length b.length / 2 - 1
    let (ours, places) := matched window b 0 [] a
    if ours.isEmpty then 0
    else
      let theirs := (List.range b.length).filter places.contains |>.filterMap (b[·]?)
      let outOfOrder := ((ours.zip theirs).filter fun (x, y) => x != y).length / 2
      let m := ours.length
      (m.toFloat / a.length.toFloat + m.toFloat / b.length.toFloat +
        (m - outOfOrder).toFloat / m.toFloat) / 3

/-- The length of the common beginning, up to four characters. -/
def commonStart (a b : List Char) : Nat :=
  (((a.take 4).zip b).takeWhile fun (x, y) => x == y).length

end Similarity

/-- How much two names are alike, from 0 to 1. -/
def similarity (a b : String) : Float :=
  let s := Similarity.base a.toList b.toList
  if s > 0.7 then s + 0.1 * (Similarity.commonStart a.toList b.toList).toFloat * (1 - s) else s

/-- The first of the names that is most like the given one, if it is alike enough. -/
def closest? (name : String) (known : List String) : Option String :=
  (known.foldl
    (fun best other =>
      let s := similarity name other
      if s > 0.8 && best.all (fun (b : Float × String) => b.1 < s) then some (s, other) else best)
    none).map (·.2)

end TypedQuery.Derive
