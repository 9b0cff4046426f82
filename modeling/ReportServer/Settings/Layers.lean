import ReportServer.Settings.Tree

/-!
# Layers of settings

Settings come from several sources, and a later source wins. Sources are laid over each other key
by key: a table is merged into the table below it, anything else replaces what is below. An empty
table changes nothing but makes sure that there is something. A key may also be a path, with dots
between names and indices in brackets; a key that cannot be read as a path is one name. What is
changed from above keeps its origin, because errors about it name the source it began in.
-/

namespace ReportServer.Settings

namespace Tree

/-- The member of a name. -/
def member? (name : String) : List (String × Tree) → Option Tree
  | [] => none
  | (n, t) :: rest => if n = name then some t else member? name rest

/-- Members with the one of a name set. -/
def setMember (name : String) (value : Tree) (members : List (String × Tree)) :
    List (String × Tree) :=
  Json.insertMember name value members

/-- The tree without members that comes about where there is no table yet. -/
def empty : Tree := table none []

/-- The members of a tree, none if it is not a table. -/
def members : Tree → List (String × Tree)
  | table _ ms => ms
  | _ => []

/-- The tree with other members. A table keeps its origin, and what is no table gives way. -/
def withMembers (ms : List (String × Tree)) : Tree → Tree
  | table o _ => table o ms
  | _ => table none ms

/-- The tree with other items. A list keeps its origin, and what is no list gives way. -/
def withItems (items : List Tree) : Tree → Tree
  | list o _ => list o items
  | _ => list none items

/-- The items of a tree, none if it is not a list. -/
def items : Tree → List Tree
  | list _ ts => ts
  | _ => []

mutual

/-- Lay a value over the tree at a name. -/
def laidOver (base : Option Tree) : Tree → Tree
  | table _ incoming =>
    match incoming with
    | [] => base.getD empty
    | _ :: _ =>
      let below := base.getD empty
      below.withMembers (laidOverAll below.members incoming)
  | t => t

/-- Lay members over members, one after the other. -/
def laidOverAll (ms : List (String × Tree)) : List (String × Tree) → List (String × Tree)
  | [] => ms
  | (name, t) :: rest => laidOverAll (setMember name (laidOver (member? name ms) t) ms) rest

end

end Tree

/-! ## Paths -/

/-- One step of a path. -/
inductive Step where
  | name (n : String)
  | index (i : Int)
deriving DecidableEq, Repr

/-- The characters of a name in a path. -/
def isNameChar (c : Char) : Bool := c.isAlphanum || c == ' ' || c == '_' || c == '-'

/-- Blanks and tabs may stand around an index. -/
def isPad (c : Char) : Bool := c == ' ' || c == '\t'

/-- An index of 64 bits at the front, up to its closing bracket. -/
def readIndex (s : List Char) : Option (Int × List Char) :=
  let (negative, s) := match s.dropWhile isPad with
    | '-' :: rest => (true, rest)
    | s => (false, s)
  let ds := s.takeWhile Char.isDigit
  match ds, (s.drop ds.length).dropWhile isPad with
  | [], _ => none
  | _, ']' :: rest =>
    let n : Int := ds.foldl (fun n c => n * 10 + (c.toNat - 48)) (0 : Nat)
    let i := if negative then -n else n
    if Int64.minValue.toInt ≤ i ∧ i ≤ Int64.maxValue.toInt then some (i, rest) else none
  | _, _ => none

/-- The steps after the first name, with `fuel` for the length of the text. -/
def readSteps : Nat → List Char → Option (List Step)
  | _, [] => some []
  | 0, _ => none
  | fuel + 1, '.' :: rest =>
    let n := rest.takeWhile isNameChar
    if n.isEmpty then none
    else (readSteps fuel (rest.drop n.length)).map (Step.name (String.ofList n) :: ·)
  | fuel + 1, '[' :: rest => do
    let (i, rest) ← readIndex rest
    let more ← readSteps fuel rest
    return Step.index i :: more
  | _, _ => none

/-- A key as a path. -/
def pathOf (key : String) : List Step :=
  let s := key.toList
  let n := s.takeWhile isNameChar
  let steps := if n.isEmpty then none
    else (readSteps s.length (s.drop n.length)).map (Step.name (String.ofList n) :: ·)
  steps.getD [.name key]

/-- A list with the item at an index set; a negative index counts from the end. -/
def setItem (items : List Tree) (i : Int) (f : Option Tree → Tree) : List Tree :=
  let at_ := if 0 ≤ i then i.toNat else items.length - (-i).toNat
  let padded := items ++ List.replicate (at_ + 1 - items.length) (Tree.leaf none .null)
  padded.set at_ (f items[at_]?)

/-- Lay a value over a tree at the end of a path. What is in the way gives way. -/
def setPath (value : Tree) : List Step → Option Tree → Tree
  | [], base => Tree.laidOver base value
  | .name n :: rest, base =>
    let below := base.getD .empty
    below.withMembers
      (Tree.setMember n (setPath value rest (Tree.member? n below.members)) below.members)
  | .index i :: rest, base =>
    let below := base.getD .empty
    -- an item at the end of a path is replaced, never merged
    below.withItems (setItem below.items i fun item =>
      if rest.isEmpty then value else setPath value rest item)

/-- A source: keys with values, in the order in which they are set. -/
abbrev Layer := List (String × Tree)

/-- Lay a source over what is there. -/
def addLayer (base : Tree) (layer : Layer) : Tree :=
  layer.foldl (fun t (key, value) => setPath value (pathOf key) (some t)) base

/-- All sources laid over each other, the last on top. -/
def merged (layers : List Layer) : Tree := layers.foldl addLayer .empty

end ReportServer.Settings
