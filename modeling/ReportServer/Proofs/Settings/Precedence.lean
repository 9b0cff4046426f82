import ReportServer.Proofs.Settings.Keys
import ReportServer.Proofs.Settings.Sources
import ReportServer.Proofs.Settings.Starting

/-!
# Which source decides

The value of a setting is read from what the last source says of its key, and if no source says anything it is the
value that the setting has when nobody sets it. So it does not matter for a setting what the sources say of any other,
and a list is the list of one source, whatever lists the others have there.

All names have to be plain for that. A name with a dot or a bracket in it is read as a path, so that a variable can set
a key that it is not called after.
-/

namespace ReportServer.Settings

open Json (Value)

/-! ## Loading -/

/-- The names on the way to a setting. -/
def keyNames (k : String × Setting Settings) : List String := [k.1, k.2.name]

/-- The key of every setting can be written as the name of a variable. -/
theorem spelled_keyNames : ∀ k ∈ allSettings, Spelled (keyNames k) := by
  have hnames : allSettings.all (fun k => (keyNames k).all fun n => !n.toList.isEmpty && n.toList.all isNameChar) = true := by
    decide +kernel
  have hdotted : allSettings.all (fun k => dotted (underscoredNames (keyNames k)) == dottedNames (keyNames k)) = true := by
    decide +kernel
  simp only [List.all_eq_true, ← isName_iff, beq_iff_eq] at hnames hdotted
  exact fun k hk => ⟨by simp [keyNames], hnames k hk, hdotted k hk⟩

/-- The word on a key: of the last variable that is called after it, or else what is found there in the local document, or
else what is found there in the default one. -/
def lastWord (default : Document) (local_ : Option Document) (env : List (String × String)) (p : List String) :
    Option Value :=
  ((variableText? env p).map .str).or ((local_.bind (·.at? p)).or (default.at? p))

/-- The way to a key is clear in all sources. -/
structure Clear (default : Document) (local_ : Option Document) (env : List (String × String)) (p : List String) :
    Prop where
  default : default.Clear p
  local_ : ∀ d ∈ local_, d.Clear p
  environment : EnvironmentClear env p

instance (default : Document) (local_ : Option Document) (env : List (String × String)) (p : List String) :
    Decidable (Clear default local_ env p) :=
  decidable_of_iff (default.Clear p ∧ (∀ d ∈ local_, d.Clear p) ∧ EnvironmentClear env p)
    ⟨fun h => ⟨h.1, h.2.1, h.2.2⟩, fun h => ⟨h.default, h.local_, h.environment⟩⟩

/-- The names in all sources are plain. -/
structure Plain (default : Document) (local_ : Option Document) (env : List (String × String)) : Prop where
  default : default.Plain
  local_ : ∀ d ∈ local_, d.Plain
  environment : PlainVariables env

instance (default : Document) (local_ : Option Document) (env : List (String × String)) :
    Decidable (Plain default local_ env) :=
  decidable_of_iff (default.Plain ∧ (∀ d ∈ local_, d.Plain) ∧ PlainVariables env)
    ⟨fun h => ⟨h.1, h.2.1, h.2.2⟩, fun h => ⟨h.default, h.local_, h.environment⟩⟩

variable {default : Document} {local_ : Option Document} {env : List (String × String)} {s : Settings}

/-- `ReadsAs default local_ env s`: the documents are tables, and `s` is read of all sources laid over each other. -/
def ReadsAs (default : Document) (local_ : Option Document) (env : List (String × String)) (s : Settings) : Prop :=
  ∃ bottom middle, default.layer = .ok bottom ∧ optionalLayer local_ = .ok middle ∧
    Settings.read Tree.format (merged ([bottom] ++ middle ++ [environmentLayer env])) = .ok s

/-- **Settings are loaded exactly if they can be read and make sense.** -/
theorem load_eq_ok_iff : load (some default) local_ env = .ok s ↔ ReadsAs default local_ env s ∧ s.Sensible := by
  rw [← check_eq_ok_iff]
  constructor
  · intro h
    obtain ⟨bottom, hbottom, h⟩ := bind_eq_ok.mp h
    obtain ⟨middle, hmiddle, h⟩ := bind_eq_ok.mp h
    dsimp only at h
    cases hread : Settings.read Tree.format (merged ([bottom] ++ middle ++ [environmentLayer env])) with
    | error e => rw [hread] at h; cases h
    | ok read =>
      rw [hread] at h
      obtain ⟨settings, hsettings, h⟩ := bind_eq_ok.mp h
      obtain rfl := Except.ok.inj hsettings
      cases hcheck : read.check with
      | error f => rw [hcheck] at h; cases h
      | ok =>
        rw [hcheck] at h
        obtain rfl := Except.ok.inj h
        exact ⟨⟨bottom, middle, hbottom, hmiddle, hread⟩, hcheck⟩
  · rintro ⟨⟨bottom, middle, hbottom, hmiddle, hread⟩, hcheck⟩
    simp only [load, hbottom, hmiddle, hread, hcheck, bind, Except.bind]
    rfl

/-- What is said by a document that may be missing. -/
theorem exists_lastWord {n : String} {p : List String} {ls : List Layer} (hclear : ∀ d ∈ local_, d.Clear (n :: p))
    (hplain : ∀ d ∈ local_, d.Plain) (hls : optionalLayer local_ = .ok ls) :
    ∃ ss : List Source, ss.map Source.layer = ls ∧
      LastWord ss (n :: p) (local_.bind fun d => (d.at? (n :: p)).map (.ofValue d.origin)) := by
  cases local_ with
  | none => exact ⟨[], Except.ok.inj hls, .nil⟩
  | some d =>
    obtain ⟨source, hsource, htells⟩ := (hclear d rfl).tells (hplain d rfl)
    refine ⟨[source], ?_, htells.lastWord⟩
    rw [optionalLayer, Document.layer_eq_ok_iff.mpr ⟨source, hsource, rfl⟩] at hls
    exact Except.ok.inj hls

/-- The last word as it is found in the tree: it comes of one of the sources. -/
theorem exists_origin (default : Document) (local_ : Option Document) (env : List (String × String)) (p : List String) :
    ∃ origin, (((variableText? env p).map Value.str).map (.ofValue environmentOrigin)).or
        ((local_.bind fun d => (d.at? p).map (.ofValue d.origin)).or ((default.at? p).map (.ofValue default.origin)))
      = (lastWord default local_ env p).map (Tree.ofValue origin) := by
  unfold lastWord
  cases variableText? env p with
  | some text => exact ⟨environmentOrigin, rfl⟩
  | none =>
    cases local_ with
    | none => exact ⟨default.origin, rfl⟩
    | some d =>
      cases hd : d.at? p with
      | some v => exact ⟨d.origin, by simp [hd]⟩
      | none => exact ⟨default.origin, by simp [hd]⟩

/-- The last word on a key is what is found when the sources have been laid over each other. -/
theorem Clear.finds {n : String} {p : List String} {bottom : Layer} {middle : List Layer}
    (h : Clear default local_ env (n :: p)) (hplain : Plain default local_ env) (hp : Spelled (n :: p))
    (hbottom : default.layer = .ok bottom) (hmiddle : optionalLayer local_ = .ok middle) :
    ∃ origin, Finds Tree.table? (n :: p) (some (merged ([bottom] ++ middle ++ [environmentLayer env])))
      ((lastWord default local_ env (n :: p)).map (.ofValue origin)) := by
  obtain ⟨source, hsource, htells⟩ := h.default.tells hplain.default
  obtain ⟨ss, rfl, hss⟩ := exists_lastWord h.local_ hplain.local_ hmiddle
  have hlayer := Document.layer_eq_ok_iff.mpr ⟨source, hsource, rfl⟩
  obtain rfl := Except.ok.inj (hlayer.symm.trans hbottom)
  have hall := (htells.lastWord.append hss).append (h.environment.tells hplain.environment hp).lastWord
  have hmerged := hall.merged
  obtain ⟨origin, horigin⟩ := exists_origin default local_ env (n :: p)
  rw [horigin, List.map_append, List.map_append, List.map_singleton, List.map_singleton, layer_environmentSource] at hmerged
  exact ⟨origin, hmerged⟩

/-- **A setting that was loaded has the value of the last word on its key.** -/
theorem made_of_load {k : String × Setting Settings} (hplain : Plain default local_ env)
    (hload : load (some default) local_ env = .ok s) (hk : k ∈ allSettings)
    (hclear : Clear default local_ env (keyNames k)) : k.2.Made (lastWord default local_ env (keyNames k)) s := by
  obtain ⟨⟨bottom, middle, hbottom, hmiddle, hread⟩, -⟩ := load_eq_ok_iff.mp hload
  obtain ⟨origin, hfinds⟩ := hclear.finds hplain (spelled_keyNames k hk) hbottom hmiddle
  exact (has_of_read hread hk hfinds).made

/-- An empty document says nothing. -/
theorem load_empty (default : Document) (env : List (String × String)) (origin : String) :
    load (some default) (some ⟨origin, .obj []⟩) env = load (some default) none env := by
  rw [load, load]
  cases default.layer <;> rfl

/-- What can be counted on when settings are loaded from a default document, a local one and the environment. -/
structure Layered (default : Document) (local_ : Option Document) (env : List (String × String)) : Prop where
  /-- Settings are loaded exactly if they can be read and make sense. -/
  loaded : ∀ s, load (some default) local_ env = .ok s ↔ ReadsAs default local_ env s ∧ s.Sensible
  /-- A setting has the value of the last word on its key, or without one the value it has when nobody sets it. -/
  decided : ∀ s, Plain default local_ env → load (some default) local_ env = .ok s →
    ∀ k ∈ allSettings, Clear default local_ env (keyNames k) → k.2.Made (lastWord default local_ env (keyNames k)) s
  /-- So it has the same value wherever that word is the same, whatever is said of other keys; -/
  undisturbed : ∀ s default' local' env' s', Plain default local_ env → load (some default) local_ env = .ok s →
    Plain default' local' env' → load (some default') local' env' = .ok s' →
    ∀ k ∈ allSettings, Clear default local_ env (keyNames k) → Clear default' local' env' (keyNames k) →
      lastWord default' local' env' (keyNames k) = lastWord default local_ env (keyNames k) → k.2.of s' = k.2.of s
  /-- and settings are the same if the words on all keys are. -/
  whole : ∀ s default' local' env' s', Plain default local_ env → load (some default) local_ env = .ok s →
    Plain default' local' env' → load (some default') local' env' = .ok s' →
    (∀ k ∈ allSettings, Clear default local_ env (keyNames k) ∧ Clear default' local' env' (keyNames k) ∧
      lastWord default' local' env' (keyNames k) = lastWord default local_ env (keyNames k)) → s' = s
  /-- A local document may be missing: that is the same as an empty one. -/
  missingLocal : ∀ origin, load (some default) (some ⟨origin, .obj []⟩) env = load (some default) none env
  /-- The default document may not. -/
  missingDefault : load none local_ env = .error (.missingDocument defaultDocument)

/-- **The environment has the last word on a key before the local document, and that before the default one.** -/
theorem layered (default : Document) (local_ : Option Document) (env : List (String × String)) :
    Layered default local_ env := by
  have hsame : ∀ s default' local' env' s', Plain default local_ env → load (some default) local_ env = .ok s →
      Plain default' local' env' → load (some default') local' env' = .ok s' →
      ∀ k ∈ allSettings, Clear default local_ env (keyNames k) → Clear default' local' env' (keyNames k) →
        lastWord default' local' env' (keyNames k) = lastWord default local_ env (keyNames k) → k.2.of s' = k.2.of s := by
    intro s default' local' env' s' hplain hload hplain' hload' k hk hclear hclear' hword
    have hmade' := made_of_load hplain' hload' hk hclear'
    rw [hword] at hmade'
    exact hmade'.unique (made_of_load hplain hload hk hclear)
  constructor
  case loaded => exact fun s => load_eq_ok_iff
  case decided => exact fun s hplain hload k hk hclear => made_of_load hplain hload hk hclear
  case undisturbed => exact hsame
  case whole =>
    intro s default' local' env' s' hplain hload hplain' hload' hwords
    refine eq_of_allSettings fun k hk => ?_
    obtain ⟨hclear, hclear', hword⟩ := hwords k hk
    exact hsame s default' local' env' s' hplain hload hplain' hload' k hk hclear hclear' hword
  case missingLocal => exact load_empty default env
  case missingDefault => rfl

/-- A document with a port, a number of connections and two origins, -/
def sampleDefault : Document :=
  ⟨"config/default.toml", .obj [("server", .obj [("port", .int 8080)]),
    ("database", .obj [("url", .str "postgres://db/reports"), ("max_connections", .int 20)]), ("logging", .obj []),
    ("security", .obj [("cors_origins", .arr [.str "https://a", .str "https://b"])]), ("directory", .obj [])]⟩

/-- one with another number and another origin, -/
def sampleLocal : Document :=
  ⟨"config/local.toml", .obj [("database", .obj [("max_connections", .int 50)]),
    ("security", .obj [("cors_origins", .arr [.str "https://c"])])]⟩

/-- variables for the port and for what is beside the origins, -/
def sampleEnvironment : List (String × String) := [("RS__SERVER__PORT", "9000"), ("RS__SECURITY__HSTS_ENABLED", "true")]

/-- and what comes of them. -/
def sampleSettings : Settings :=
  ⟨{ Server.unset with port := 9000 }, { Database.unset "postgres://db/reports" with maxConnections := 50 }, .unset,
    ⟨["https://c"], true⟩, .unset, .unset⟩

/-- The port is that of the variable. The number of connections and the origins are those of the local document, although
there are others in the default one. The time limit is in none of them. -/
theorem layered_sample :
    Plain sampleDefault (some sampleLocal) sampleEnvironment ∧
      load (some sampleDefault) (some sampleLocal) sampleEnvironment = .ok sampleSettings ∧
      AsNumber (.str "9000") sampleSettings.server.port.toNat ∧
      AsNumber (.int 50) sampleSettings.database.maxConnections.toNat ∧
      AsTexts (.arr [.str "https://c"]) sampleSettings.security.corsOrigins ∧
      sampleSettings.server.requestTimeoutSecs = 30 := by
  have hplain : Plain sampleDefault (some sampleLocal) sampleEnvironment := by decide +kernel
  have hload : load (some sampleDefault) (some sampleLocal) sampleEnvironment = .ok sampleSettings := by decide +kernel
  have hclear : ∀ p ∈ [["server", "port"], ["database", "max_connections"], ["security", "cors_origins"],
      ["server", "request_timeout_secs"]], Clear sampleDefault (some sampleLocal) sampleEnvironment p := by
    decide +kernel
  have hmade : ∀ k ∈ allSettings, ∀ text, Clear sampleDefault (some sampleLocal) sampleEnvironment (keyNames k) →
      variableText? sampleEnvironment (keyNames k) = text → k.2.Made
        ((text.map .str).or ((sampleLocal.at? (keyNames k)).or (sampleDefault.at? (keyNames k)))) sampleSettings := by
    rintro k hk text hclear rfl
    exact (layered _ _ _).decided _ hplain hload k hk hclear
  have hset : variableText? sampleEnvironment ["server", "port"] = some "9000" := by decide +kernel
  have hunset : ∀ p ∈ [["database", "max_connections"], ["security", "cors_origins"], ["server", "request_timeout_secs"]],
      variableText? sampleEnvironment p = none := by decide +kernel
  refine ⟨hplain, hload, ?_, ?_, ?_, ?_⟩
  · exact hmade ("server", .within Settings.server ⟨UInt16, "port", .uint16, some 8080, Server.port⟩)
      (by simp [allSettings, inSection, Server.settings]) _ (hclear ["server", "port"] (by simp)) hset
  · exact hmade ("database", .within Settings.database
        ⟨UInt32, "max_connections", .uint32, some 20, Database.maxConnections⟩)
      (by simp [allSettings, inSection, Database.settings]) _ (hclear ["database", "max_connections"] (by simp))
      (hunset ["database", "max_connections"] (by simp))
  · exact hmade ("security", .within Settings.security
        ⟨List String, "cors_origins", .texts, some [], Security.corsOrigins⟩)
      (by simp [allSettings, inSection, Security.settings]) _ (hclear ["security", "cors_origins"] (by simp))
      (hunset ["security", "cors_origins"] (by simp))
  · have htimeout : some 30 = some sampleSettings.server.requestTimeoutSecs := hmade ("server", .within Settings.server
        ⟨UInt64, "request_timeout_secs", .uint64, some 30, Server.requestTimeoutSecs⟩)
      (by simp [allSettings, inSection, Server.settings]) _ (hclear ["server", "request_timeout_secs"] (by simp))
      (hunset ["server", "request_timeout_secs"] (by simp))
    exact (Option.some.inj htimeout).symm

/-- A document with a port, -/
def portDefault : Document :=
  ⟨"config/default.toml", .obj [("server", .obj [("port", .int 8080)]),
    ("database", .obj [("url", .str "postgres://db/reports")]), ("logging", .obj []), ("directory", .obj [])]⟩

/-- and a variable that is not called after its key. -/
def dottedVariable : List (String × String) := [("RS__SERVER.PORT", "9")]

/-- **A variable with a dot in its name** sets a key that it is not called after. So it is not enough that the names of
all variables differ and have the prefix. -/
theorem not_layered_dotted :
    ¬∀ (default : Document) (local_ : Option Document) (env : List (String × String)) (s : Settings),
      (env.map fun v => Text.lowercase v.1).Nodup → (∀ v ∈ env, ['R', 'S', '_', '_'] <+: v.1.toList) →
        load (some default) local_ env = .ok s → ∀ k ∈ allSettings, Clear default local_ env (keyNames k) →
          k.2.Made (lastWord default local_ env (keyNames k)) s := by
  intro h
  have hload : load (some portDefault) none dottedVariable
      = .ok ⟨{ Server.unset with port := 9 }, .unset "postgres://db/reports", .unset, .unset, .unset, .unset⟩ := by
    decide +kernel
  have hclear : Clear portDefault none dottedVariable ["server", "port"] := by decide +kernel
  have hnone : variableText? dottedVariable ["server", "port"] = none := by decide +kernel
  -- the key is said to be the one in the document
  have hword : lastWord portDefault none dottedVariable ["server", "port"] = some (.int 8080) := by
    rw [lastWord, hnone]
    rfl
  have hmade := h portDefault none dottedVariable _ (List.nodup_singleton _) (List.forall_mem_singleton.mpr (by decide))
    hload ("server", .within Settings.server ⟨UInt16, "port", .uint16, some 8080, Server.port⟩)
    (by simp [allSettings, inSection, Server.settings]) hclear
  change Setting.Made _ (lastWord _ _ _ ["server", "port"]) _ at hmade
  rw [hword] at hmade
  have hnumber : AsNumber (.int 8080) 9 := hmade
  cases hnumber with
  | wide hwide => exact hwide (by unfold Fits; decide)

end ReportServer.Settings
