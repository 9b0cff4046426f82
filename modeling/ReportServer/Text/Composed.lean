import ReportServer.Text.CombiningClass
import ReportServer.Text.Decomposition

/-!
# The composed form of a text

Texts that mean the same may be written in several ways. The composed form (Normalization Form C)
picks one: everything is taken apart, marks are put in the order of their classes, and then what can
be put together is put together from left to right.
-/

namespace ReportServer.Text

/-- A character with the marks behind it. -/
structure Cluster where
  /-- What begins it; nothing if a text begins with marks. -/
  head : Option Char
  marks : List Char

/-- The clusters of a text. -/
def clusters : List Char → List Cluster
  | [] => []
  | c :: rest =>
    if combiningClass c = 0 then
      match clusters rest with
      | ⟨none, marks⟩ :: more => ⟨some c, marks⟩ :: more
      | more => ⟨some c, []⟩ :: more
    else
      match clusters rest with
      | ⟨none, marks⟩ :: more => ⟨none, c :: marks⟩ :: more
      | more => ⟨none, [c]⟩ :: more

/-- A cluster with its marks in the order of their classes; those of one class stay as they are. -/
def Cluster.ordered (k : Cluster) : List Char :=
  k.head.toList ++ k.marks.mergeSort fun a b => combiningClass a ≤ combiningClass b

/-- A text taken apart, with marks in order. -/
def decomposed (s : List Char) : List Char :=
  (clusters (s.flatMap (decomposedChar decompositionDepth))).flatMap Cluster.ordered

/-- Put together what follows `head`. The marks `kept` have stayed apart, the last one first; a
character can join the head only if its class is above theirs. -/
def joined (head : Char) (kept : List Char) : List Char → List Char
  | [] => head :: kept.reverse
  | c :: rest =>
    let free := kept.head?.all fun k => combiningClass k < combiningClass c
    match if free then paired? head c else none with
    | some head => joined head kept rest
    | none =>
      if combiningClass c = 0 then head :: kept.reverse ++ joined c [] rest
      else joined head (c :: kept) rest

/-- A text in composed form. -/
def composed (s : List Char) : List Char :=
  if s.all (·.toNat < 0x300) then s
  else
    let parts := decomposed s
    let marks := parts.takeWhile (combiningClass · != 0)
    marks ++ match parts.drop marks.length with
      | head :: rest => joined head [] rest
      | [] => []

end ReportServer.Text
