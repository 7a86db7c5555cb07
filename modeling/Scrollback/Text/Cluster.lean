import Scrollback.Text.BreakClass
/-!
# Clusters

What a reader takes for one character may be written with several: a letter with its accents, a
flag, a family of pictographs. Such a stretch is a cluster. A text is cut into clusters by the
extended rules for grapheme clusters.

## Main definitions

* `Text.clusters` — the clusters of a text.
-/

namespace Scrollback.Text

/-! ## Cutting -/

/-- How a run of pictographs stands. -/
inductive PictureRun where
  /-- There is none. -/
  | absent
  /-- It ends in a pictograph and what continues it. -/
  | picture
  /-- A joiner follows that. -/
  | joined
deriving DecidableEq, Repr

/-- How a run of linked consonants stands. -/
inductive ConsonantRun where
  /-- There is none. -/
  | absent
  /-- It ends in a consonant and what continues it. -/
  | consonant
  /-- A linker follows that. -/
  | linked
deriving DecidableEq, Repr

/-- What the rules for cutting remember of a cluster. -/
structure ClusterEnd where
  /-- The class of its last character. -/
  last : BreakClass
  /-- It ends in a regional sign that has no partner yet. -/
  halfFlag : Bool
  /-- The pictographs at its end. -/
  pictures : PictureRun
  /-- The linked consonants at its end. -/
  consonants : ConsonantRun
deriving DecidableEq, Repr

namespace PictureRun

/-- The run after one more character. -/
def next (r : PictureRun) (c : Char) (k : BreakClass) : PictureRun :=
  if isPictograph c then .picture
  else match r, k with
    | .picture, .extend => .picture
    | .picture, .joiner => .joined
    | _, _ => .absent

end PictureRun

namespace ConsonantRun

/-- The run after one more character. -/
def next (r : ConsonantRun) (c : Char) (k : BreakClass) : ConsonantRun :=
  if isConsonant c then .consonant
  else if r = .absent then .absent
  else if isLinker c then .linked
  else if (k = .extend ∧ c ≠ '\u200c') ∨ k = .joiner then r
  else .absent

end ConsonantRun

namespace ClusterEnd

/-- The end of a cluster of one character. -/
def ofChar (c : Char) : ClusterEnd :=
  let k := breakClass c
  ⟨k, k == .regional, PictureRun.absent.next c k, ConsonantRun.absent.next c k⟩

/-- The end of a cluster after one more character. -/
def next (e : ClusterEnd) (c : Char) : ClusterEnd :=
  let k := breakClass c
  ⟨k, k == .regional && !e.halfFlag, e.pictures.next c k, e.consonants.next c k⟩

/-- Two characters of Hangul belong to one syllable. -/
def sameSyllable : BreakClass → BreakClass → Bool
  | .leading, .leading | .leading, .vowel | .leading, .openSyllable
  | .leading, .closedSyllable => true
  | .openSyllable, .vowel | .openSyllable, .trailing | .vowel, .vowel
  | .vowel, .trailing => true
  | .closedSyllable, .trailing | .trailing, .trailing => true
  | _, _ => false

/-- The class stands apart from both its neighbours. -/
def standsApart (k : BreakClass) : Bool :=
  k == .control || k == .carriageReturn || k == .lineFeed

/-- A character belongs to the cluster before it. -/
def joins (e : ClusterEnd) (c : Char) : Bool :=
  let k := breakClass c
  if e.last = .carriageReturn ∧ k = .lineFeed then true
  else if standsApart e.last || standsApart k then false
  else if sameSyllable e.last k then true
  else if k = .extend ∨ k = .joiner ∨ k = .spacingMark then true
  else if e.last = .prepended then true
  else if e.consonants = .linked ∧ isConsonant c then true
  else if e.pictures = .joined ∧ isPictograph c then true
  else e.halfFlag && k == .regional

end ClusterEnd

/-- The clusters of a text, where a first one has begun; its characters come in reverse. -/
def clustersFrom (begun : List Char) (e : ClusterEnd) : List Char → List (List Char)
  | [] => [begun.reverse]
  | c :: cs =>
    if e.joins c then clustersFrom (c :: begun) (e.next c) cs
    else begun.reverse :: clustersFrom [c] (.ofChar c) cs

/-- The clusters of a text. -/
def clusters : List Char → List (List Char)
  | [] => []
  | c :: cs => clustersFrom [c] (.ofChar c) cs

end Scrollback.Text
