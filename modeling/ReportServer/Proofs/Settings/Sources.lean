import Mathlib.Data.List.Infix
import ReportServer.Proofs.Settings.Layering

/-!
# What documents and the environment say

A document is a table, and what it says of a key is what is found there (`Document.Clear.tells`). The environment is a
list of names with texts. The variable of a key is called by the names on the way to the key, with two underscores in
front of each (`EnvironmentClear.tells`). Names that differ only in case are the same name, and the last variable of a
name counts. Both are only true of plain names: the names at the root of a document and the names of variables are read
as paths, and a dot or a bracket in them leads somewhere else.
-/

namespace ReportServer.Settings

open Json (InOrder Value canonicalMembers lookup?)

variable {n key : String} {p ns : List String} {es : List (String × Value)}

/-- Where one key alone sets what is asked for, a source says what that key says. -/
theorem Says.of_key (key : String) {x : Option Value} (hes : InOrder es)
    (hothers : ∀ e ∈ es, e.1 ≠ key → Puts (pathOf e.1) p e.2 none)
    (hkey : ∀ v, lookup? key es = some v → Puts (pathOf key) p v x) (hnone : lookup? key es = none → x = none) :
    Says es p x := by
  induction hes generalizing x with
  | nil => exact hnone rfl ▸ .nil
  | @cons e es he hes ih =>
    have hrest := fun e' he' => hothers e' (List.mem_cons_of_mem e he')
    simp only [Json.lookup?_cons] at hkey hnone
    by_cases hk : e.1 = key
    · rw [if_pos hk] at hkey
      -- the key does not come again, so the others leave what it says
      have habsent : lookup? key es = none := hk ▸ InOrder.lookup?_tail (.cons he hes)
      have hsays : Says es p none :=
        ih hrest (fun v hv => absurd (habsent.symm.trans hv) (by simp)) fun _ => rfl
      exact .cons (hk ▸ hkey e.2 rfl) hsays
    · rw [if_neg hk] at hkey hnone
      have hcons := Says.cons (hothers e List.mem_cons_self hk) (ih hrest hkey hnone)
      rwa [Option.or_none] at hcons

/-! ## Documents -/

/-- A document as a source, if it is a table. -/
def Document.source? (d : Document) : Option Source := (valueTable? d.content).map (⟨d.origin, ·⟩)

theorem Document.layer_eq_ok_iff {d : Document} {l : Layer} :
    d.layer = .ok l ↔ ∃ s, d.source? = some s ∧ s.layer = l := by
  have hlayer : d.layer = .ok l ↔ (Tree.ofValue d.origin d.content).table? = some l := by
    unfold Document.layer Tree.ofValue
    cases (Tree.ofJson d.origin d.content.canonical).sorted <;> simp [Tree.table?]
  rw [hlayer, Tree.table?_ofValue, source?]
  cases valueTable? d.content <;> simp [Source.layer]

/-- What a document says of a key. -/
def Document.Tells (d : Document) (p : List String) (x : Option Tree) : Prop := ∃ s, d.source? = some s ∧ s.Tells p x

/-- What is found at a key of a document. -/
def Document.at? (d : Document) (p : List String) : Option Value := atEnd? valueTable? p d.content

/-- In a plain name there is nothing that separates the steps of a path. -/
def PlainName (n : String) : Prop := '.' ∉ n.toList ∧ '[' ∉ n.toList

instance (n : String) : Decidable (PlainName n) := inferInstanceAs (Decidable (_ ∧ _))

/-- The names at the root of a document are plain. -/
def Document.Plain (d : Document) : Prop := ∀ ms ∈ valueTable? d.content, ∀ m ∈ ms, PlainName m.1

instance (d : Document) : Decidable d.Plain := inferInstanceAs (Decidable (∀ ms ∈ _, _))

/-- The way to a key is clear in a document. -/
structure Document.Clear (d : Document) (p : List String) : Prop where
  /-- What there is on the way is a table, -/
  above : ∀ q, q <+: p → q ≠ p → ∀ v ∈ d.at? q, (valueTable? v).isSome
  /-- and at the end there is none. -/
  here : ∀ v ∈ d.at? p, valueTable? v = none

instance (d : Document) (p : List String) : Decidable (d.Clear p) :=
  decidable_of_iff ((∀ q ∈ p.inits, q ≠ p → ∀ v ∈ d.at? q, (valueTable? v).isSome) ∧ ∀ v ∈ d.at? p, valueTable? v = none)
    ⟨fun h => ⟨fun q hq => h.1 q ((List.mem_inits q p).mpr hq), h.2⟩,
      fun h => ⟨fun q hq => h.above q ((List.mem_inits q p).mp hq), h.here⟩⟩

/-! ## Keys that are paths -/

/-- The names on the way to a key, each with a dot in front of it. -/
def dottedNames (ns : List String) : List Char := ns.flatMap fun n => '.' :: n.toList

theorem dottedNames_cons : dottedNames (n :: ns) = '.' :: n.toList ++ dottedNames ns := List.flatMap_cons

theorem takeWhile_append_drop (f : Char → Bool) (s : List Char) : s.takeWhile f ++ s.drop (s.takeWhile f).length = s :=
  List.prefix_iff_eq_append.mp (List.takeWhile_prefix f)

theorem readSteps_eq_some {fuel : Nat} {s : List Char} {steps : List Step} (hs : '[' ∉ s)
    (h : readSteps fuel s = some steps) : ∃ ns : List String, steps = ns.map .name ∧ s = dottedNames ns := by
  fun_induction readSteps fuel s generalizing steps with
  | case1 => exact ⟨[], (Option.some.inj h).symm, rfl⟩
  | case2 => cases h
  | case3 => cases h
  | case4 fuel rest name hname =>
    rename_i ih
    obtain ⟨more, hmore, rfl⟩ := Option.map_eq_some_iff.mp h
    have hrest : '[' ∉ rest.drop name.length := fun hmem => hs (.tail _ (List.mem_of_mem_drop hmem))
    obtain ⟨ns, rfl, hns⟩ := ih hrest hmore
    refine ⟨String.ofList name :: ns, rfl, ?_⟩
    rw [dottedNames_cons, String.toList_ofList, ← hns, List.cons_append, takeWhile_append_drop]
  | case5 => exact absurd List.mem_cons_self hs
  | case6 => cases h

/-- **A key without brackets is a path of names** with dots between them. -/
theorem pathOf_of_notMem (h : '[' ∉ key.toList) :
    ∃ ns : List String, pathOf key = ns.map .name ∧ '.' :: key.toList = dottedNames ns := by
  have hwhole : ∃ ns : List String, [Step.name key] = ns.map .name ∧ '.' :: key.toList = dottedNames ns :=
    ⟨[key], rfl, by simp [dottedNames]⟩
  rw [pathOf]
  by_cases hempty : (key.toList.takeWhile isNameChar).isEmpty = true
  · rwa [if_pos hempty]
  · rw [if_neg hempty]
    cases hsteps : readSteps key.toList.length (key.toList.drop (key.toList.takeWhile isNameChar).length) with
    | none => exact hwhole
    | some steps =>
      obtain ⟨ns, rfl, hns⟩ := readSteps_eq_some (fun hmem => h (List.mem_of_mem_drop hmem)) hsteps
      refine ⟨String.ofList (key.toList.takeWhile isNameChar) :: ns, rfl, ?_⟩
      rw [dottedNames_cons, String.toList_ofList, ← hns, List.cons_append, takeWhile_append_drop]

/-- A plain name is read as itself. -/
theorem PlainName.path (h : PlainName key) : pathOf key = [.name key] := by
  obtain ⟨ns, hpath, hns⟩ := pathOf_of_notMem h.2
  cases ns with
  | nil => cases hns
  | cons n ns =>
    rw [dottedNames_cons, List.cons_append, List.cons.injEq] at hns
    cases ns with
    | nil =>
      obtain rfl : key = n := by rw [← String.toList_inj, hns.2, dottedNames, List.flatMap_nil, List.append_nil]
      exact hpath
    | cons m ns =>
      -- there would be a dot in front of the second name
      refine absurd ?_ h.1
      rw [hns.2, dottedNames_cons]
      simp

/-- **A document says of a key what is found there.** -/
theorem Document.Clear.tells {d : Document} (h : d.Clear (n :: p)) (hplain : d.Plain) :
    d.Tells (n :: p) ((d.at? (n :: p)).map (.ofValue d.origin)) := by
  have hfinds : Finds valueTable? (n :: p) (some d.content) (d.at? (n :: p)) := finds_iff.mpr ⟨h.above, h.here, rfl⟩
  generalize d.at? (n :: p) = x at hfinds
  cases hfinds with
  | @inside _ _ _ ms _ hms hx =>
    refine ⟨⟨d.origin, ms⟩, by rw [source?, hms, Option.map_some], x, ?_, rfl⟩
    refine .of_key n (inOrder_of_valueTable? hms) (fun m hm hne => ?_) (fun v hv => ?_) fun hnone => ?_
    · rw [(hplain ms hms m hm).path]
      exact .aside hne
    · rw [hv] at hx
      rw [(hplain ms hms _ (Json.mem_of_lookup?_eq_some hv)).path]
      exact .inside (.here hx)
    · rw [hnone] at hx
      cases hx
      rfl

/-- Names that can be read in a path. -/
def IsName (n : String) : Prop := n.toList ≠ [] ∧ ∀ c ∈ n.toList, isNameChar c = true

theorem isName_iff : IsName n ↔ (!n.toList.isEmpty && n.toList.all isNameChar) = true := by simp [IsName]

theorem takeWhile_dottedNames (hn : IsName n) : (n.toList ++ dottedNames ns).takeWhile isNameChar = n.toList := by
  have hrest : (dottedNames ns).takeWhile isNameChar = [] := by
    cases ns with
    | nil => rfl
    | cons m ns => exact List.takeWhile_cons_of_neg (by decide)
  rw [List.takeWhile_append_of_pos hn.2, hrest, List.append_nil]

theorem readSteps_dottedNames (h : ∀ n ∈ ns, IsName n) {fuel : Nat} (hfuel : (dottedNames ns).length ≤ fuel) :
    readSteps fuel (dottedNames ns) = some (ns.map .name) := by
  induction ns generalizing fuel with
  | nil => simp [dottedNames, readSteps]
  | cons n ns ih =>
    have hn := h n List.mem_cons_self
    rw [dottedNames_cons, List.cons_append] at hfuel ⊢
    cases fuel with
    | zero => exact absurd hfuel (by simp)
    | succ fuel =>
      have hrest : (dottedNames ns).length ≤ fuel := by
        simp only [List.length_cons, List.length_append] at hfuel
        omega
      rw [readSteps, takeWhile_dottedNames hn, if_neg (by simpa using hn.1), List.drop_left,
        ih (fun m hm => h m (.tail _ hm)) hrest, String.ofList_toList]
      rfl

/-- The key of names as it is written. -/
def keyOf (p : List String) : String := String.ofList (dottedNames p).tail

/-- **Names with dots between them are read as the path of these names.** -/
theorem pathOf_keyOf (hp : p ≠ []) (h : ∀ n ∈ p, IsName n) : pathOf (keyOf p) = p.map .name := by
  obtain ⟨n, ns, rfl⟩ := List.exists_cons_of_ne_nil hp
  have hn := h n List.mem_cons_self
  rw [keyOf, dottedNames_cons, List.cons_append, List.tail_cons, pathOf, String.toList_ofList]
  simp only [takeWhile_dottedNames hn, List.drop_left]
  rw [if_neg (by simpa using hn.1), readSteps_dottedNames (fun m hm => h m (.tail _ hm)) (by simp),
    String.ofList_toList]
  rfl

/-- A path that ends neither on the way to a key nor below it sets the key if it is its path, and nothing of it if not. -/
theorem puts_names {v : Value} (hv : valueTable? v = none) (habove : ns <+: p → ns = p) (hbelow : p <+: ns → ns = p) :
    Puts (ns.map .name) p v (if ns = p then some v else none) := by
  induction ns generalizing p with
  | nil =>
    obtain rfl := habove List.nil_prefix
    exact .here (.here hv)
  | cons a ns ih =>
    cases p with
    | nil => exact absurd (hbelow List.nil_prefix) (by simp)
    | cons n p =>
      by_cases ha : a = n
      · subst ha
        have hput := ih (p := p) (fun h => (List.cons.inj (habove ((List.prefix_cons_inj a).mpr h))).2)
          fun h => (List.cons.inj (hbelow ((List.prefix_cons_inj a).mpr h))).2
        simp only [List.cons.injEq, true_and]
        exact .inside hput
      · rw [if_neg fun h => ha (List.cons.inj h).1]
        exact .aside ha

/-! ## The names of variables -/

/-- A dot is written as two underscores. -/
def underscored (c : Char) : List Char := if c = '.' then ['_', '_'] else [c]

/-- The names on the way to a key, each with two underscores in front of it. -/
def underscoredNames (ns : List String) : List Char := ns.flatMap fun n => '_' :: '_' :: n.toList

/-- The name of the variable that sets a key, in lower case. -/
def variableOf (ns : List String) : String := String.ofList ('r' :: 's' :: underscoredNames ns)

theorem underscored_of_notMem {c : Char} {s : List Char} (h : '.' ∉ c :: s) : underscored c = [c] :=
  if_neg (by rintro rfl; exact h List.mem_cons_self)

theorem flatMap_underscored {s : List Char} (h : '.' ∉ s) : s.flatMap underscored = s := by
  induction s with
  | nil => rfl
  | cons c s ih =>
    rw [List.flatMap_cons, underscored_of_notMem h, ih fun hmem => h (.tail _ hmem), List.singleton_append]

theorem flatMap_dottedNames (h : ∀ n ∈ ns, '.' ∉ n.toList) :
    (dottedNames ns).flatMap underscored = underscoredNames ns := by
  induction ns with
  | nil => rfl
  | cons n ns ih =>
    rw [dottedNames_cons, List.flatMap_append, ih fun m hm => h m (.tail _ hm), List.flatMap_cons,
      flatMap_underscored (h n List.mem_cons_self)]
    rfl

/-- Where there was no dot before, the underscores can be told from the dots that are written for them. -/
theorem flatMap_dotted {s : List Char} (h : '.' ∉ s) : (dotted s).flatMap underscored = s := by
  fun_induction dotted s with
  | case1 rest ih => rw [List.flatMap_cons, ih fun hmem => h (.tail _ (.tail _ hmem))]; rfl
  | case2 c rest _ ih =>
    rw [List.flatMap_cons, underscored_of_notMem h, ih fun hmem => h (.tail _ hmem), List.singleton_append]
  | case3 => rfl

theorem mem_of_mem_dotted {c : Char} {s : List Char} (h : c ∈ dotted s) (hc : c ≠ '.') : c ∈ s := by
  fun_induction dotted s with
  | case1 rest ih => exact .tail _ (.tail _ (ih ((List.mem_cons.mp h).resolve_left hc)))
  | case2 _ rest _ ih => exact (List.mem_cons.mp h).elim (fun hcd => hcd ▸ List.mem_cons_self) fun h => .tail _ (ih h)
  | case3 => exact h

/-- A variable that sets a key. -/
theorem keyOfVariable_eq_some_iff {name : String} : keyOfVariable name = some key ↔
    ∃ s, (Text.lowercase name).toList = 'r' :: 's' :: '_' :: '_' :: s ∧ dotted s = key.toList := by
  have hkey : ∀ s : List Char, String.ofList s = key ↔ s = key.toList := fun s => by
    rw [← String.toList_inj, String.toList_ofList]
  simp only [keyOfVariable, Option.ite_none_right_eq_some, Option.some.injEq, List.isPrefixOf_iff_prefix, hkey]
  constructor
  · rintro ⟨⟨s, hs⟩, hdotted⟩
    rw [← hs, List.drop_left] at hdotted
    exact ⟨s, hs.symm, hdotted⟩
  · rintro ⟨s, hs, hdotted⟩
    rw [hs]
    exact ⟨⟨s, rfl⟩, hdotted⟩

/-! ## The environment -/

/-- The environment as a source. -/
def environmentSource (env : List (String × String)) : Source :=
  ⟨environmentOrigin, canonicalMembers (env.filterMap fun v => (keyOfVariable v.1).map fun key => (key, .str v.2))⟩

theorem layer_environmentSource (env : List (String × String)) : (environmentSource env).layer = environmentLayer env := by
  rw [Source.layer, environmentSource, environmentLayer, ← Json.canonicalMembers_map, List.map_filterMap]
  simp only [Option.map_map]
  rfl

/-- The names of the variables that set something are plain. -/
def PlainVariables (env : List (String × String)) : Prop :=
  ∀ v ∈ env, ['r', 's', '_', '_'] <+: (Text.lowercase v.1).toList → PlainName (Text.lowercase v.1)

instance (env : List (String × String)) : Decidable (PlainVariables env) := inferInstanceAs (Decidable (∀ v ∈ env, _))

/-- A key that can be written as the name of a variable. -/
structure Spelled (p : List String) : Prop where
  ne_nil : p ≠ []
  names : ∀ n ∈ p, IsName n
  dotted : dotted (underscoredNames p) = dottedNames p

theorem Spelled.path {p : List String} (h : Spelled p) : pathOf (keyOf p) = p.map .name := pathOf_keyOf h.ne_nil h.names

theorem Spelled.dotless {p : List String} (h : Spelled p) : ∀ n ∈ p, '.' ∉ n.toList := fun n hn hdot =>
  absurd ((h.names n hn).2 _ hdot) (by decide)

/-- The way to a key is clear in the environment. -/
structure EnvironmentClear (env : List (String × String)) (p : List String) : Prop where
  /-- No variable sets what is on the way to the key, -/
  above : ∀ v ∈ env, ∀ q, q <+: p → q ≠ [] → q ≠ p → Text.lowercase v.1 ≠ variableOf q
  /-- and none what would be below it. -/
  below : ∀ v ∈ env, ¬(variableOf p).toList ++ ['_', '_'] <+: (Text.lowercase v.1).toList

instance (env : List (String × String)) (p : List String) : Decidable (EnvironmentClear env p) :=
  decidable_of_iff ((∀ v ∈ env, ∀ q ∈ p.inits, q ≠ [] → q ≠ p → Text.lowercase v.1 ≠ variableOf q) ∧
      ∀ v ∈ env, ¬(variableOf p).toList ++ ['_', '_'] <+: (Text.lowercase v.1).toList)
    ⟨fun h => ⟨fun v hv q hq => h.1 v hv q ((List.mem_inits q p).mpr hq), h.2⟩,
      fun h => ⟨fun v hv q hq => h.above v hv q ((List.mem_inits q p).mp hq), h.below⟩⟩

/-- The text of the last variable that is called after a key. -/
def variableText? (env : List (String × String)) (p : List String) : Option String :=
  (env.reverse.find? fun v => Text.lowercase v.1 == variableOf p).map Prod.snd

variable {env : List (String × String)} {v : String × String}

/-- The names on the way to the key that a variable sets can be read off its name. -/
theorem PlainVariables.exists_names (h : PlainVariables env) (hv : v ∈ env) (hkey : keyOfVariable v.1 = some key) :
    ∃ ns : List String, pathOf key = ns.map .name ∧ '.' :: key.toList = dottedNames ns ∧
      (Text.lowercase v.1).toList = 'r' :: 's' :: (dottedNames ns).flatMap underscored := by
  obtain ⟨s, hs, hdotted⟩ := keyOfVariable_eq_some_iff.mp hkey
  obtain ⟨hdot, hbracket⟩ := h v hv ⟨s, hs.symm⟩
  rw [hs] at hdot hbracket
  have hnone : '[' ∉ key.toList := fun hmem =>
    hbracket (.tail _ (.tail _ (.tail _ (.tail _ (mem_of_mem_dotted (hdotted ▸ hmem) (by decide))))))
  obtain ⟨ns, hpath, hns⟩ := pathOf_of_notMem hnone
  refine ⟨ns, hpath, hns, ?_⟩
  -- the key is written with dots for underscores only, so the underscores can be put back
  have hback := flatMap_dotted (s := '_' :: '_' :: s) fun hmem => hdot (.tail _ (.tail _ hmem))
  rw [dotted, hdotted, hns] at hback
  rw [hs, hback]

theorem eq_keyOf_iff {p : List String} (hp : Spelled p) (hpath : pathOf key = ns.map .name)
    (hns : '.' :: key.toList = dottedNames ns) : key = keyOf p ↔ ns = p := by
  constructor
  · rintro rfl
    exact (List.map_inj_right fun _ _ h => Step.name.inj h).mp (hpath.symm.trans hp.path)
  · rintro rfl
    rw [keyOf, ← hns, List.tail_cons, String.ofList_toList]

/-- What a variable does to a key. -/
theorem EnvironmentClear.puts (h : EnvironmentClear env p) (hplain : PlainVariables env) (hp : Spelled p) (hv : v ∈ env)
    (hkey : keyOfVariable v.1 = some key) :
    Puts (pathOf key) p (.str v.2) (if key = keyOf p then some (.str v.2) else none) := by
  obtain ⟨ns, hpath, hns, hname⟩ := hplain.exists_names hv hkey
  rw [hpath, if_congr (eq_keyOf_iff hp hpath hns) rfl rfl]
  refine puts_names rfl (fun habove => ?_) fun hbelow => ?_
  · by_contra hne
    refine h.above v hv ns habove (by rintro rfl; cases hns) hne ?_
    rw [flatMap_dottedNames fun n hn => hp.dotless n (habove.subset hn)] at hname
    rw [← String.toList_inj, hname, variableOf, String.toList_ofList]
  · obtain ⟨more, rfl⟩ := hbelow
    cases more with
    | nil => exact List.append_nil p
    | cons n more =>
      refine absurd ?_ (h.below v hv)
      rw [hname, variableOf, String.toList_ofList, dottedNames, List.flatMap_append, ← dottedNames, List.flatMap_append,
        flatMap_dottedNames hp.dotless]
      exact ⟨_, by simp [underscored]; rfl⟩

/-- A variable sets a key exactly if it is called after it. -/
theorem PlainVariables.keyOfVariable_eq_iff (h : PlainVariables env) (hp : Spelled p) (hv : v ∈ env) :
    keyOfVariable v.1 = some (keyOf p) ↔ Text.lowercase v.1 = variableOf p := by
  constructor
  · intro hkey
    obtain ⟨ns, hpath, hns, hname⟩ := h.exists_names hv hkey
    obtain rfl := (eq_keyOf_iff hp hpath hns).mp rfl
    rw [flatMap_dottedNames hp.dotless] at hname
    rw [← String.toList_inj, hname, variableOf, String.toList_ofList]
  · intro hname
    obtain ⟨n, rest, rfl⟩ := List.exists_cons_of_ne_nil hp.ne_nil
    have hdotted := hp.dotted
    rw [underscoredNames, List.flatMap_cons, List.cons_append, List.cons_append, Settings.dotted] at hdotted
    refine keyOfVariable_eq_some_iff.mpr ⟨_, by rw [hname, variableOf, String.toList_ofList, underscoredNames,
      List.flatMap_cons, List.cons_append, List.cons_append], ?_⟩
    rw [keyOf, String.toList_ofList, ← hdotted, List.tail_cons]

/-- What the variables set a key to, if they are called after it. -/
theorem lookup?_filterMap {vs : List (String × String)} {name : String}
    (h : ∀ v ∈ vs, keyOfVariable v.1 = some key ↔ Text.lowercase v.1 = name) :
    lookup? key (vs.filterMap fun v => (keyOfVariable v.1).map fun key => (key, Value.str v.2))
      = (vs.find? fun v => Text.lowercase v.1 == name).map fun v => .str v.2 := by
  induction vs with
  | nil => rfl
  | cons v vs ih =>
    have hrest := ih fun v' hv' => h v' (.tail _ hv')
    have hv := h v List.mem_cons_self
    rw [List.find?_cons]
    by_cases hname : Text.lowercase v.1 = name
    · have hkey := hv.mpr hname
      rw [List.filterMap_cons_some (b := (key, .str v.2)) (by rw [hkey]; rfl), Json.lookup?_cons, if_pos rfl,
        beq_iff_eq.mpr hname]
      rfl
    · rw [beq_eq_false_iff_ne.mpr hname, ← hrest]
      cases hkey : keyOfVariable v.1 with
      | none => rw [List.filterMap_cons_none (by rw [hkey]; rfl)]
      | some other =>
        have hne : other ≠ key := fun heq => hname (hv.mp (heq ▸ hkey))
        rw [List.filterMap_cons_some (b := (other, .str v.2)) (by rw [hkey]; rfl), Json.lookup?_cons, if_neg hne]

/-- **The environment says of a key what the last variable says that is called after it.** -/
theorem EnvironmentClear.tells (h : EnvironmentClear env p) (hplain : PlainVariables env) (hp : Spelled p) :
    (environmentSource env).Tells p (((variableText? env p).map .str).map (.ofValue environmentOrigin)) := by
  have hputs : ∀ e ∈ (environmentSource env).entries,
      Puts (pathOf e.1) p e.2 (if e.1 = keyOf p then some e.2 else none) := by
    intro e he
    obtain ⟨v, hv, hve⟩ := List.mem_filterMap.mp (Json.mem_of_mem_canonicalMembers he)
    obtain ⟨key, hkey, rfl⟩ := Option.map_eq_some_iff.mp hve
    exact h.puts hplain hp hv hkey
  have hlookup : lookup? (keyOf p) (environmentSource env).entries = (variableText? env p).map .str := by
    have hnames : ∀ v ∈ env.reverse, keyOfVariable v.1 = some (keyOf p) ↔ Text.lowercase v.1 = variableOf p :=
      fun v hv => hplain.keyOfVariable_eq_iff hp (List.mem_reverse.mp hv)
    rw [environmentSource, Json.lookup?_canonicalMembers, ← List.filterMap_reverse, lookup?_filterMap hnames, variableText?,
      Option.map_map]
    rfl
  rw [← hlookup]
  refine ⟨_, .of_key (keyOf p) (Json.inOrder_canonicalMembers _) (fun e he hne => ?_) (fun v hv => ?_) id, rfl⟩
  · have hput := hputs e he
    rwa [if_neg hne] at hput
  · have hput := hputs _ (Json.mem_of_lookup?_eq_some hv)
    rwa [if_pos rfl, ← hv] at hput

end ReportServer.Settings
