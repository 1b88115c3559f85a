namespace RouteDocs.Text

/-- A run of characters that two texts share: where it starts in each, and its length. -/
structure SharedRun where
  left : Nat
  right : Nat
  length : Nat
  deriving DecidableEq, Repr

def commonStart : List Char → List Char → Nat
  | a :: as, b :: bs => if a = b then commonStart as bs + 1 else 0
  | _, _ => 0

/-- The longest shared run; of several the one that starts first in `as`, and then in `bs`. -/
def longestCommon (as bs : List Char) : SharedRun :=
  let starts := (List.range as.length).flatMap fun i =>
    (List.range bs.length).map fun j => SharedRun.mk i j (commonStart (as.drop i) (bs.drop j))
  starts.foldl (fun best run => if best.length < run.length then run else best) ⟨0, 0, 0⟩

/-- The number of characters in the shared runs: the longest one, and those before and after it in
both texts. `n` bounds the number of runs. -/
def sharedFrom : Nat → List Char → List Char → Nat
  | 0, _, _ => 0
  | n + 1, as, bs =>
    let run := longestCommon as bs
    if run.length = 0 then 0
    else
      sharedFrom n (as.take run.left) (bs.take run.right) + run.length +
        sharedFrom n (as.drop (run.left + run.length)) (bs.drop (run.right + run.length))

def sharedLength (s t : String) : Nat := sharedFrom s.length s.toList t.toList

/-- Whether three fifths of the characters of two texts, or more, are shared. -/
def resembles (s t : String) : Bool := 3 * (s.length + t.length) ≤ 10 * sharedLength s t

/-- Whether `s` resembles `word` more than `t` does; of two that are equal in that, the later in
alphabetical order goes first. -/
def isCloser (word s t : String) : Bool :=
  let a := sharedLength s word * (t.length + word.length)
  let b := sharedLength t word * (s.length + word.length)
  b < a || (a == b && t ≤ s)

/-- The three texts that resemble `word` most, of those that do. -/
def similar (word : String) (candidates : List String) : List String :=
  ((candidates.filter fun s => resembles s word).mergeSort (isCloser word)).take 3

end RouteDocs.Text
