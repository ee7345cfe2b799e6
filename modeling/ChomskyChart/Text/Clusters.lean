import ChomskyChart.Unicode.ClusterBreak

/-!
# Clusters

A text falls into clusters, each of which a reader takes for one character: a letter with its
marks, a syllable of Hangul, a conjunct, a flag, a picture made of several. Whether a character
joins the cluster before it depends on the end of that cluster, so clusters are read from the
left, and `flatten_clusters` says that nothing is lost.
-/
namespace ChomskyChart.Text

open Unicode

/-- The text that ends in `before`, last character first, ends in a consonant and marks on it,
one of which is a linker. -/
def isLinked (before : List Char) : Bool :=
  let isMark c := (ClusterBreak.of c = .extend && c ≠ zeroWidthNonJoiner) || c = zeroWidthJoiner
  (before.takeWhile isMark).any isConjunctLinker &&
    (before.dropWhile isMark).head?.any isConjunctConsonant

/-- The text ends in a pictograph and marks on it. -/
def isPictured (before : List Char) : Bool :=
  (before.dropWhile (ClusterBreak.of · = .extend)).head?.any isPictograph

/-- The text ends in an odd number of regional letters, so that the last of them has no partner. -/
def isHalfFlag (before : List Char) : Bool :=
  (before.takeWhile isRegional).length % 2 = 1

/-- No cluster ends between the cluster `before`, last character first, and the character `c`. -/
def joins (before : List Char) (c : Char) : Bool :=
  match before with
  | [] => false
  | last :: earlier =>
    let a := ClusterBreak.of last
    let b := ClusterBreak.of c
    if a.standsAlone || b.standsAlone then a = .carriageReturn && b = .lineFeed
    else if b.isMark || a = .prepend then true
    else
      match a, b with
      | .hangul x, .hangul y => x.joins y
      | _, .consonant => isLinked before
      | .joiner, .pictograph => isPictured earlier
      | .regional, .regional => isHalfFlag before
      | _, _ => false

/-- The clusters of a text of which the first has begun with `before`. -/
def clustersAfter (before : List Char) : List Char → List (List Char)
  | [] => [before.reverse]
  | c :: rest =>
    if joins before c then clustersAfter (c :: before) rest
    else before.reverse :: clustersAfter [c] rest

def clusters : List Char → List (List Char)
  | [] => []
  | c :: rest => clustersAfter [c] rest

theorem flatten_clustersAfter (before text : List Char) :
    (clustersAfter before text).flatten = before.reverse ++ text := by
  induction text generalizing before with
  | nil => simp [clustersAfter]
  | cons c rest ih => by_cases h : joins before c <;> simp [clustersAfter, h, ih]

theorem flatten_clusters (text : List Char) : (clusters text).flatten = text := by
  cases text with
  | nil => rfl
  | cons c rest => simp [clusters, flatten_clustersAfter]

end ChomskyChart.Text
