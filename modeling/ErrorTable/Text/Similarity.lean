/-
How alike two words are.

The measure is the similarity of Jaro. Two equal characters are paired if they stand at
about the same position in their words, the first free partner winning. With `m` pairs in
words of `a` and `b` characters, of which `t` would have to change places, the similarity
is the mean of `m / a`, `m / b` and `(m - t) / m`. It lies between zero for words without
a pair and one for equal words. Sums and quotients are rounded to double precision, which
decides between words that are almost equally similar.
-/

namespace ErrorTable.Text

/-- How far apart paired characters may stand. -/
def pairingRange (a b : List Char) : Nat :=
  max a.length b.length / 2 - 1

/-- The characters of the second word that are paired, in the order of their partners in
the first word. Each character comes with its position. -/
def pairings (range : Nat) : List (Char × Nat) → List (Char × Nat) → List (Char × Nat)
  | [], _ => []
  | (c, i) :: word, free =>
    match free.find? fun (d, j) => d = c && i ≤ j + range && j ≤ i + range with
    | some partner => partner :: pairings range word (free.erase partner)
    | none => pairings range word free

/-- The similarity of two words. -/
def similarity (first second : String) : Float :=
  let a := first.toList
  let b := second.toList
  let paired := pairings (pairingRange a b) a.zipIdx b.zipIdx
  let inPlace := b.zipIdx.filter paired.contains
  let displaced := (paired.zip inPlace).countP fun (p, q) => p.1 ≠ q.1
  let m := paired.length
  let t := displaced / 2
  if m = 0 then 0
  else (m.toFloat / a.length.toFloat + m.toFloat / b.length.toFloat + (m - t).toFloat / m.toFloat) / 3

/-- Only words that are more alike than this are taken for one another. -/
def similarityThreshold : Float := 0.7

/-- The item whose name is most similar to a word, if one is similar enough. Of several
equally similar ones it is the last. -/
def mostSimilar? {α : Type} (name : α → String) (word : String) (items : List α) : Option α :=
  items.foldl (fun best item =>
    let score := similarity word (name item)
    let notWorse := best.all fun other => similarity word (name other) ≤ score
    if similarityThreshold < score && notWorse then some item else best) none

end ErrorTable.Text
