import ReportServer.Proofs.Json.Members
import ReportServer.Settings.Load

/-!
# Laying sources over each other

What a key holds when all sources have been laid over each other is what the last source holds there that holds
anything. A key is known by the names on the way to it. On the way there have to be tables only, and no table at the
end of it: a number on the way would take away all that is below it, and of a table at the end every source could
hold a part. It is enough that this is so in each source (`Says`), as it is so then in everything that is laid over
each other.
-/

namespace ReportServer.Settings

open Json (InOrder Value canonicalMembers lookup?)

variable {V : Type} {n : String} {p : List String}

/-! ## What a key holds -/

/--
`Finds table? p v x`: on the way of the names `p` into `v` there are tables only, and `x` is found at the end of it. It
may end early, as there may be nothing.
-/
inductive Finds (table? : V → Option (List (String × V))) : List String → Option V → Option V → Prop
  | absent {p : List String} : Finds table? p none none
  | here {v : V} : table? v = none → Finds table? [] (some v) (some v)
  | inside {n : String} {p : List String} {v : V} {ms : List (String × V)} {x : Option V} : table? v = some ms →
    Finds table? p (lookup? n ms) x → Finds table? (n :: p) (some v) x

/-- What there is at the end of names. -/
def atEnd? (table? : V → Option (List (String × V))) : List String → V → Option V
  | [], v => some v
  | n :: p, v => (table? v).bind fun ms => (lookup? n ms).bind (atEnd? table? p)

theorem atEnd?_cons {table? : V → Option (List (String × V))} {v : V} {ms : List (String × V)}
    (h : table? v = some ms) : atEnd? table? (n :: p) v = (lookup? n ms).bind (atEnd? table? p) := by
  rw [atEnd?, h, Option.bind_some]

/-- What it is for nothing to be in the way: wherever the names lead before their end, and there is something, it is a
table, and what is at their end is none. -/
theorem finds_iff {table? : V → Option (List (String × V))} {v : V} {x : Option V} :
    Finds table? p (some v) x ↔
      (∀ q, q <+: p → q ≠ p → ∀ w, atEnd? table? q v = some w → (table? w).isSome) ∧
        (∀ w, atEnd? table? p v = some w → table? w = none) ∧ x = atEnd? table? p v := by
  induction p generalizing v x with
  | nil =>
    constructor
    · intro h
      cases h with
      | here hv => exact ⟨fun q hq hne => absurd (List.prefix_nil.mp hq) hne, fun w hw => Option.some.inj hw ▸ hv, rfl⟩
    · rintro ⟨-, hend, rfl⟩
      exact .here (hend v rfl)
  | cons n p ih =>
    constructor
    · intro h
      obtain ⟨ms, hms, hx⟩ : ∃ ms, table? v = some ms ∧ Finds table? p (lookup? n ms) x := by
        cases h with
        | inside hms hx => exact ⟨_, hms, hx⟩
      -- behind the first name it is what it is for the member, if there is one
      have hmember : (∀ q, q <+: p → q ≠ p → ∀ w, (lookup? n ms).bind (atEnd? table? q) = some w →
          (table? w).isSome) ∧ (∀ w, (lookup? n ms).bind (atEnd? table? p) = some w → table? w = none) ∧
            x = (lookup? n ms).bind (atEnd? table? p) := by
        cases hn : lookup? n ms with
        | none =>
          rw [hn] at hx
          cases hx
          simp
        | some w =>
          rw [hn] at hx
          exact ih.mp hx
      obtain ⟨hway, hend, rfl⟩ := hmember
      refine ⟨fun q hq hne w hw => ?_, fun w hw => hend w (atEnd?_cons hms ▸ hw), (atEnd?_cons hms).symm⟩
      cases q with
      | nil =>
        obtain rfl := Option.some.inj hw
        rw [hms, Option.isSome_some]
      | cons m q =>
        obtain ⟨rfl, hrest⟩ := List.cons_prefix_cons.mp hq
        rw [atEnd?_cons hms] at hw
        exact hway q hrest (by simpa using hne) w hw
    · rintro ⟨hway, hend, rfl⟩
      obtain ⟨ms, hms⟩ := Option.isSome_iff_exists.mp (hway [] List.nil_prefix (by simp) v rfl)
      rw [atEnd?_cons hms] at hend ⊢
      refine .inside hms ?_
      cases hn : lookup? n ms with
      | none => exact .absent
      | some w =>
        rw [hn] at hend
        refine ih.mpr ⟨fun q hq hne u hu => ?_, hend, rfl⟩
        refine hway (n :: q) ((List.prefix_cons_inj n).mpr hq) (by simpa using hne) u ?_
        rw [atEnd?_cons hms, hn]
        exact hu

/-- The members of a tree that is a table. -/
def Tree.table? : Tree → Option (List (String × Tree))
  | .table _ ms => some ms
  | _ => none

/-- The members of a value that is a table, with their names in lower case, in order. -/
def valueTable? : Value → Option (List (String × Value))
  | .obj ms => some (canonicalMembers ((canonicalMembers ms).map fun m => (Text.lowercase m.1, m.2)))
  | _ => none

/-! ## Trees and values -/

/-- The tree that comes of a value that was found in a source. -/
def Tree.ofValue (origin : String) (v : Value) : Tree := (Tree.ofJson origin v.canonical).sorted

variable {origin : String} {v : Value}

theorem canonicalEach_eq (ms : List (String × Value)) :
    Json.canonicalEach ms = ms.map fun m => (m.1, m.2.canonical) := by
  induction ms with
  | nil => rfl
  | cons m ms ih => rw [Json.canonicalEach, ih, List.map_cons]

theorem membersOfJson_eq (ms : List (String × Value)) :
    membersOfJson origin ms = ms.map fun m => (Text.lowercase m.1, Tree.ofJson origin m.2) := by
  induction ms with
  | nil => rfl
  | cons m ms ih => rw [membersOfJson, ih, List.map_cons]

theorem sortedTables_eq (ms : List (String × Tree)) : sortedTables ms = ms.map fun m => (m.1, m.2.sorted) := by
  induction ms with
  | nil => rfl
  | cons m ms ih => rw [sortedTables, ih, List.map_cons]

/-- The members of the tree are the trees of the members. -/
theorem Tree.table?_ofValue (origin : String) (v : Value) : (Tree.ofValue origin v).table?
    = (valueTable? v).map fun ms => ms.map fun m => (m.1, Tree.ofValue origin m.2) := by
  cases v with
  | obj ms =>
    simp only [Tree.ofValue, Value.canonical, Tree.ofJson, Tree.sorted, Tree.table?, valueTable?, Option.map_some]
    rw [canonicalEach_eq, Json.canonicalMembers_map Value.canonical, membersOfJson_eq, sortedTables_eq]
    have hmap := Json.canonicalMembers_map (fun v => (Tree.ofJson origin v.canonical).sorted)
      ((canonicalMembers ms).map fun m => (Text.lowercase m.1, m.2))
    simp only [List.map_map, Function.comp_def] at hmap ⊢
    rw [hmap]
  | null | bool | int | float | str | arr => rfl

theorem inOrder_of_valueTable? {ms : List (String × Value)} (h : valueTable? v = some ms) : InOrder ms := by
  cases v with
  | obj => exact Option.some.inj h ▸ Json.inOrder_canonicalMembers _
  | null | bool | int | float | str | arr => cases h

/-! ## One value over a tree -/

theorem member?_eq (n : String) (ms : List (String × Tree)) : Tree.member? n ms = lookup? n ms := by
  induction ms with
  | nil => rfl
  | cons m ms ih => rw [Tree.member?, ih, Json.lookup?_cons]

theorem Tree.members_of_table? {t : Tree} {ms : List (String × Tree)} (h : t.table? = some ms) : t.members = ms := by
  cases t with
  | table => exact Option.some.inj h
  | leaf | list => cases h

theorem Tree.table?_withMembers {t : Tree} {ms : List (String × Tree)} : (t.withMembers ms).table? = some ms := by
  cases t <;> rfl

/-- What there is when there may be a value that is laid over what there may be. -/
def overlaid (origin : String) (base : Option Tree) : Option Value → Option Tree
  | none => base
  | some v => some (Tree.laidOver base (.ofValue origin v))

theorem lookup?_laidOverAll (origin n : String) {ms : List (String × Value)} (h : InOrder ms) (below : List (String × Tree)) :
    lookup? n (Tree.laidOverAll below (ms.map fun m => (m.1, .ofValue origin m.2)))
      = overlaid origin (lookup? n below) (lookup? n ms) := by
  induction h generalizing below with
  | nil => rfl
  | @cons m ms hm hms ih =>
    rw [List.map_cons, Tree.laidOverAll, ih, Tree.setMember, Json.lookup?_insertMember, Json.lookup?_cons, member?_eq]
    by_cases hn : m.1 = n
    · -- nothing more is laid over the member, as its name does not come again
      have hrest : lookup? n ms = none := hn ▸ InOrder.lookup?_tail (.cons hm hms)
      rw [if_pos hn, if_pos hn, hrest, hn]
      rfl
    · rw [if_neg hn, if_neg hn]

/-- Where the way to a key is clear there is a table, or an empty one may be put there. -/
theorem Finds.exists_below {base y : Option Tree} (h : Finds Tree.table? (n :: p) base y) :
    ∃ below, (base.getD .empty).table? = some below ∧ Finds Tree.table? p (lookup? n below) y := by
  cases h with
  | absent => exact ⟨[], rfl, .absent⟩
  | inside htable hy => exact ⟨_, htable, hy⟩

/-- A table over a table is a table, and its members are laid over each other. -/
theorem lookup?_laidOver (origin : String) {ms : List (String × Value)} {base : Option Tree} {y : Option Tree}
    (hms : valueTable? v = some ms) (hbase : Finds Tree.table? (n :: p) base y) :
    ∃ below merged : List (String × Tree), Finds Tree.table? p (lookup? n below) y ∧
      (Tree.laidOver base (.ofValue origin v)).table? = some merged ∧
      lookup? n merged = overlaid origin (lookup? n below) (lookup? n ms) := by
  obtain ⟨below, hbelow, hy⟩ := hbase.exists_below
  have htable := Tree.table?_ofValue origin v
  rw [hms, Option.map_some] at htable
  cases ht : Tree.ofValue origin v with
  | leaf | list => rw [ht] at htable; cases htable
  | table o incoming =>
    rw [ht] at htable
    obtain rfl : incoming = _ := Option.some.inj htable
    have hlookup := lookup?_laidOverAll origin n (inOrder_of_valueTable? hms) below
    cases ms with
    | nil =>
      -- an empty table leaves what is below as it is
      exact ⟨below, below, hy, hbelow, rfl⟩
    | cons m ms =>
      refine ⟨below, _, hy, ?_, hlookup⟩
      rw [List.map_cons, Tree.laidOver, Tree.table?_withMembers, Tree.members_of_table? hbelow]

theorem Tree.laidOver_of_table?_eq_none {t : Tree} (h : t.table? = none) (base : Option Tree) : laidOver base t = t := by
  cases t with
  | table => cases h
  | leaf | list => simp [laidOver]

/-- **A value over a tree**: a key holds what the value holds there, or else what the tree held. -/
theorem Finds.overlaid {w : Option Value} {x : Option Value} {base y : Option Tree}
    (hw : Finds valueTable? p w x) (hbase : Finds Tree.table? p base y) :
    Finds Tree.table? p (overlaid origin base w) ((x.map (.ofValue origin)).or y) := by
  induction hw generalizing base with
  | absent => exact hbase
  | @here v hv =>
    have htree : (Tree.ofValue origin v).table? = none := by rw [Tree.table?_ofValue, hv, Option.map_none]
    rw [Settings.overlaid, Tree.laidOver_of_table?_eq_none htree]
    exact .here htree
  | inside hv _ ih =>
    obtain ⟨below, merged, hy, hmerged, hlookup⟩ := lookup?_laidOver origin hv hbase
    refine .inside hmerged ?_
    rw [hlookup]
    exact ih hy

/-! ## A value at the end of a path -/

/--
`Puts q p v x`: to set the path `q` to `v` is to set the key of the names `p` to `x`, or to leave it alone if `x` is
none. The path must not lead through a list, nor to something below the key.
-/
inductive Puts : List Step → List String → Value → Option Value → Prop
  | here {p : List String} {v : Value} {x : Option Value} : Finds valueTable? p (some v) x → Puts [] p v x
  | aside {a n : String} {q : List Step} {p : List String} {v : Value} : a ≠ n → Puts (.name a :: q) (n :: p) v none
  | inside {n : String} {q : List Step} {p : List String} {v : Value} {x : Option Value} : Puts q p v x →
    Puts (.name n :: q) (n :: p) v x

/-- Setting a name of a tree leaves the way to a key clear if what is set does. -/
theorem Finds.withMember {a : String} {set : Option Tree → Tree} {base x y : Option Tree}
    (hbase : Finds Tree.table? (n :: p) base y)
    (hset : ∀ below : Option Tree, Finds Tree.table? p below y →
      Finds Tree.table? p (if a = n then some (set below) else below) x) :
    Finds Tree.table? (n :: p) (some ((base.getD .empty).withMembers
      (Tree.setMember a (set (Tree.member? a (base.getD .empty).members)) (base.getD .empty).members))) x := by
  obtain ⟨ms, hms, hy⟩ := hbase.exists_below
  rw [Tree.members_of_table? hms]
  refine .inside Tree.table?_withMembers ?_
  rw [Tree.setMember, Json.lookup?_insertMember, member?_eq]
  have hfinds := hset _ hy
  by_cases ha : a = n
  · rw [if_pos ha] at hfinds ⊢
    rwa [ha]
  · rwa [if_neg ha] at hfinds ⊢

/-- **A path set in a tree**: a key holds what is put there, or else what it held. -/
theorem Puts.setPath {q : List Step} {x : Option Value} {base y : Option Tree} (h : Puts q p v x)
    (hbase : Finds Tree.table? p base y) :
    Finds Tree.table? p (some (setPath (.ofValue origin v) q base)) ((x.map (.ofValue origin)).or y) := by
  induction h generalizing base with
  | here hv => exact hv.overlaid hbase
  | aside ha =>
    rw [Settings.setPath]
    exact hbase.withMember fun below hbelow => by rwa [if_neg ha]
  | inside _ ih =>
    rw [Settings.setPath]
    exact hbase.withMember fun below hbelow => by
      rw [if_pos rfl]
      exact ih hbelow

/-! ## Sources -/

/-- What a source says, as it was found there: keys, which may be paths, with values. -/
structure Source where
  origin : String
  entries : List (String × Value)

/-- The keys of a source with the trees they are set to. -/
def Source.layer (s : Source) : Layer := s.entries.map fun e => (e.1, .ofValue s.origin e.2)

/-- `Says es p x`: the entries set the key of the names `p` to `x`, or do not set it. The last of them counts. -/
inductive Says : List (String × Value) → List String → Option Value → Prop
  | nil {p : List String} : Says [] p none
  | cons {key : String} {v : Value} {es : List (String × Value)} {p : List String} {x y : Option Value} :
    Puts (pathOf key) p v x → Says es p y → Says ((key, v) :: es) p (y.or x)

/-- `s.Tells p x`: the source says that the key of the names `p` is `x`, or says nothing of it. -/
def Source.Tells (s : Source) (p : List String) (x : Option Tree) : Prop :=
  ∃ w, Says s.entries p w ∧ x = w.map (.ofValue s.origin)

/-- **A source over a tree**: a key holds what the source says, or else what it held. -/
theorem Source.Tells.addLayer {s : Source} {x y : Option Tree} {base : Tree} (h : s.Tells p x)
    (hbase : Finds Tree.table? p (some base) y) : Finds Tree.table? p (some (addLayer base s.layer)) (x.or y) := by
  obtain ⟨w, hw, rfl⟩ := h
  rw [Settings.addLayer, layer]
  generalize s.entries = es at hw
  induction hw generalizing base y with
  | nil => exact hbase
  | cons hput _ ih =>
    rw [List.map_cons, List.foldl_cons, Option.map_or, Option.or_assoc]
    exact ih (hput.setPath hbase)

/-- `LastWord ss p x`: what sources say of the key of the names `p`, the last word counting. -/
inductive LastWord : List Source → List String → Option Tree → Prop
  | nil {p : List String} : LastWord [] p none
  | cons {s : Source} {ss : List Source} {p : List String} {x y : Option Tree} : s.Tells p x → LastWord ss p y →
    LastWord (s :: ss) p (y.or x)

theorem LastWord.append {ss ss' : List Source} {x y : Option Tree} (h : LastWord ss p x) (h' : LastWord ss' p y) :
    LastWord (ss ++ ss') p (y.or x) := by
  induction h with
  | nil => rwa [Option.or_none]
  | cons htells _ ih =>
    rw [← Option.or_assoc]
    exact .cons htells (ih h')

theorem Source.Tells.lastWord {s : Source} {x : Option Tree} (h : s.Tells p x) : LastWord [s] p x := by
  have hcons := LastWord.cons h .nil
  rwa [Option.none_or] at hcons

/-- **Sources over each other**: a key holds the last word on it. -/
theorem LastWord.merged {ss : List Source} {x : Option Tree} (h : LastWord ss (n :: p) x) :
    Finds Tree.table? (n :: p) (some (merged (ss.map Source.layer))) x := by
  suffices hover : ∀ (base : Tree) (y : Option Tree), Finds Tree.table? (n :: p) (some base) y →
      Finds Tree.table? (n :: p) (some ((ss.map Source.layer).foldl addLayer base)) (x.or y) by
    have hmerged := hover .empty none (.inside rfl .absent)
    rwa [Option.or_none] at hmerged
  generalize n :: p = q at h
  induction h with
  | nil => exact fun base y hbase => hbase
  | cons htells _ ih =>
    intro base y hbase
    rw [List.map_cons, List.foldl_cons, Option.or_assoc]
    exact ih _ _ (htells.addLayer hbase)

end ReportServer.Settings
