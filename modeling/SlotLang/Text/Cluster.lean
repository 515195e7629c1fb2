import SlotLang.Text.ClusterClass

/-!
# Clusters

A text falls into clusters, each of which a reader takes for one character. A character joins the
cluster before it or starts a new one; which of the two is decided by its class and by that cluster,
read backwards. Nothing before the cluster matters, because whatever would matter belongs to it.
-/

namespace SlotLang.Text

/-- Whether a cluster, read backwards, ends in a consonant that waits for another: after it there
are only signs of a conjunct, and one of them links. -/
def awaitsConsonant (cluster : List Char) : Bool :=
  let signs := cluster.takeWhile (ClusterClass.of · |>.staysInConjunct)
  let rest := cluster.dropWhile (ClusterClass.of · |>.staysInConjunct)
  signs.any (ClusterClass.of · == .linker) && rest.head?.any (ClusterClass.of · == .consonant)

/-- Whether a cluster, read backwards, ends in a pictograph, what extends it, and a joiner. -/
def awaitsPictograph : List Char → Bool
  | [] => false
  | last :: before =>
    ClusterClass.of last == .joiner &&
      (before.dropWhile (ClusterClass.of · |>.staysInPicture)).head?.any
        (ClusterClass.of · == .pictograph)

/-- Whether a cluster, read backwards, ends in one half of a flag. -/
def awaitsRegional (cluster : List Char) : Bool :=
  (cluster.takeWhile (ClusterClass.of · == .regional)).length % 2 == 1

/-- Whether a character joins a cluster, which is given backwards. -/
def joins (cluster : List Char) (c : Char) : Bool :=
  match cluster with
  | [] => false
  | last :: _ =>
    let before := ClusterClass.of last
    let after := ClusterClass.of c
    if before == .carriageReturn && after == .lineFeed then true
    else if before.standsAlone || after.standsAlone then false
    else if after.joinsAny || before == .leading || before.formSyllable after then true
    else match after with
      | .consonant => awaitsConsonant cluster
      | .pictograph => awaitsPictograph cluster
      | .regional => awaitsRegional cluster
      | _ => false

/-- Add a character to clusters that are given backwards, like the characters of each. -/
def addToClusters (done : List (List Char)) (c : Char) : List (List Char) :=
  match done with
  | cluster :: rest => if joins cluster c then (c :: cluster) :: rest else [c] :: cluster :: rest
  | [] => [[c]]

/-- The text of clusters that are given backwards. -/
def textOfClusters (done : List (List Char)) : List Char :=
  (done.reverse.map List.reverse).flatten

/-- The clusters of a text. -/
def clusters (text : List Char) : List (List Char) :=
  (text.foldl addToClusters []).reverse.map List.reverse

/-! ## Nothing is lost -/

/-- A character that is added comes last, whether it joins a cluster or not. -/
theorem textOfClusters_addToClusters (done : List (List Char)) (c : Char) :
    textOfClusters (addToClusters done c) = textOfClusters done ++ [c] := by
  cases done with
  | nil => rfl
  | cons cluster rest =>
    by_cases joined : joins cluster c <;> simp [textOfClusters, addToClusters, joined]

/-- Clusters that are extended by a text have that text after their own. -/
theorem textOfClusters_foldl (text : List Char) (done : List (List Char)) :
    textOfClusters (text.foldl addToClusters done) = textOfClusters done ++ text := by
  induction text generalizing done with
  | nil => simp
  | cons c rest extended =>
    rw [List.foldl_cons, extended, textOfClusters_addToClusters, List.append_assoc]
    rfl

/-- The clusters of a text, one after the other, are the text. -/
theorem flatten_clusters (text : List Char) : (clusters text).flatten = text :=
  textOfClusters_foldl text []

end SlotLang.Text
