import GatewayClient.CommandLine.Trial
import GatewayClient.Proofs.Files.Tree
import GatewayClient.Proofs.Settings.RoundTrip
/-!
# Settings in files

The file that `init-config` writes is one that `connect` reads, and what it reads there is what
the file was made from.

Main statement: `settings_survive`.
-/

namespace GatewayClient.CommandLine

/-! ## Trial runs -/

variable {ε ε' α β : Type} {act : ExceptT ε Trial α} {next : α → ExceptT ε Trial β}
  {lines lines' : List Line} {tree tree' : Tree}

/-- What comes of an act, given what was printed and which files there are before it. -/
def outcome (act : ExceptT ε Trial α) (lines : List Line) (tree : Tree) :
    (Except ε α × List Line) × Tree :=
  (act.run.run lines).run tree

/-- An act that fails is the end; one that does not is followed by the next. -/
theorem outcome_bind : outcome (act >>= next) lines tree =
    match outcome act lines tree with
    | ((.ok a, between), files) => outcome (next a) between files
    | ((.error e, between), files) => ((.error e, between), files) := by
  have hbind : outcome (act >>= next) lines tree
      = outcome (ExceptT.mk (ExceptT.bindCont next (outcome act lines tree).1.1))
          (outcome act lines tree).1.2 (outcome act lines tree).2 := rfl
  rw [hbind]
  rcases outcome act lines tree with ⟨⟨result, between⟩, files⟩
  cases result <;> rfl

theorem outcome_bind_eq_ok {b : β}
    (h : outcome (act >>= next) lines tree = ((.ok b, lines'), tree')) :
    ∃ a between files, outcome act lines tree = ((.ok a, between), files)
      ∧ outcome (next a) between files = ((.ok b, lines'), tree') := by
  rw [outcome_bind] at h
  split at h
  · next a between files hact => exact ⟨a, between, files, hact, h⟩
  · cases h

theorem outcome_adapt (f : ε → ε') : outcome (act.adapt f) lines tree =
    (((outcome act lines tree).1.1.mapError f, (outcome act lines tree).1.2),
      (outcome act lines tree).2) := by
  rfl

theorem outcome_adapt_eq_ok {f : ε → ε'} {a : α} :
    outcome (act.adapt f) lines tree = ((.ok a, lines'), tree')
      ↔ outcome act lines tree = ((.ok a, lines'), tree') := by
  rw [outcome_adapt]
  rcases outcome act lines tree with ⟨⟨result, between⟩, files⟩
  cases result <;> simp [Except.mapError]

theorem outcome_liftM (result : Except ε α) :
    outcome (liftM result) lines tree = ((result, lines), tree) := by
  rfl

/-- What comes of an act may be looked at, whether it failed or not. -/
theorem outcome_run (act : ExceptT ε Trial α) :
    outcome (liftM act.run : ExceptT ε' Trial (Except ε α)) lines tree =
      ((.ok (outcome act lines tree).1.1, (outcome act lines tree).1.2),
        (outcome act lines tree).2) := by
  rfl

/-! ## Files -/

variable {environment : List (String × String)} {path : Path} {mode : Nat} {text : String}

/-- A request to the files in memory prints nothing, and changes them unless it fails. -/
theorem outcome_request (f : Tree → Except FileError (α × Tree)) :
    outcome (ExceptT.mk (StateT.lift (Tree.request f)) : ExceptT FileError Trial α) lines tree =
      match f tree with
      | .ok (a, files) => ((.ok a, lines), files)
      | .error e => ((.error e, lines), tree) := by
  have hrequest : outcome (ExceptT.mk (StateT.lift (Tree.request f)) : ExceptT FileError Trial α)
      lines tree = (((Tree.request f tree).1, lines), (Tree.request f tree).2) := rfl
  rw [hrequest, Tree.request]
  rcases f tree with e | ⟨a, files⟩ <;> rfl

theorem outcome_readText (h : tree.read path = .ok (Utf8.encode text)) :
    outcome ((trialHost environment).files.readText path) lines tree = ((.ok text, lines), tree) := by
  have hread : outcome ((trialHost environment).files.read path) lines tree
      = ((.ok (Utf8.encode text), lines), tree) := by
    refine (outcome_request _).trans ?_
    simp only [h, bind, Except.bind]
    rfl
  rw [FileSystem.readText, outcome_bind, hread]
  simp only [Utf8.decode?_encode]
  rfl

/-- A text that was written is in the file. -/
theorem read_of_outcome_writeText
    (h : outcome ((trialHost environment).files.writeText path mode text) lines tree
      = ((.ok (), lines'), tree')) : tree'.read path = .ok (Utf8.encode text) := by
  obtain ⟨location, between, files, hcreate, hwrite⟩ := outcome_bind_eq_ok h
  have hcreated := (outcome_request fun tree => tree.create path mode).symm.trans hcreate
  have hwritten := (outcome_request fun tree => .ok ((), tree.change location fun mode content =>
    .file mode (content ++ Utf8.encode text))).symm.trans hwrite
  split at hcreated
  · next created hopened =>
    cases hcreated
    cases hwritten
    exact Tree.read_of_write hopened
  · cases hcreated

/-! ## Settings -/

variable {output : Path} {url : String}

theorem inRange_of_baseUrl (url : String) : ({ baseUrl := url } : Settings).InRange where
  initialDelay := by simp
  maxDelay := by simp
  maxAttempts := by simp
  timeoutMultiplier := by simp

theorem exists_of_isOk {result : Except ε α} (h : result.isOk = true) : ∃ a, result = .ok a := by
  cases result with
  | error e => cases h
  | ok a => exact ⟨a, rfl⟩

section

variable [Idna]

/-- Settings that `init-config` writes are valid, and stand in the file afterwards. -/
theorem read_of_initConfig
    (h : outcome ((trialHost environment).initConfig output url) lines tree
      = ((.ok (), lines'), tree')) :
    ∃ text, ({ baseUrl := url } : Settings).validate = .ok ()
      ∧ ({ baseUrl := url } : Settings).render = .ok text
      ∧ tree'.read output = .ok (Utf8.encode text) := by
  unfold Host.initConfig at h
  obtain ⟨_, lines₁, tree₁, hvalidate, h⟩ := outcome_bind_eq_ok h
  rw [outcome_adapt_eq_ok, outcome_liftM] at hvalidate
  extract_lets write at h
  -- whatever directories are made first, they come before the text
  obtain ⟨lines₂, tree₂, hwrite⟩ :
      ∃ lines₂ tree₂, outcome (write ()) lines₂ tree₂ = ((.ok (), lines'), tree') := by
    split at h
    · split at h
      · obtain ⟨_, lines₂, tree₂, -, h⟩ := outcome_bind_eq_ok h
        exact ⟨lines₂, tree₂, h⟩
      · exact ⟨lines₁, tree₁, h⟩
    · exact ⟨lines₁, tree₁, h⟩
  obtain ⟨text, lines₃, tree₃, hrender, hwrite⟩ := outcome_bind_eq_ok hwrite
  rw [outcome_adapt_eq_ok, outcome_liftM] at hrender
  obtain ⟨_, lines₄, tree₄, htext, hsay⟩ := outcome_bind_eq_ok hwrite
  rw [outcome_adapt_eq_ok] at htext
  have hprinted : ((Except.ok (), _), tree₄) = ((Except.ok (), lines'), tree') := hsay
  cases hprinted
  exact ⟨text, congrArg (·.1.1) hvalidate, congrArg (·.1.1) hrender, read_of_outcome_writeText htext⟩

/-- Settings are loaded from a file that has a text of them. -/
theorem outcome_settings {settings : Settings} {fallback : Option String}
    (hread : tree.read path = .ok (Utf8.encode text)) (hparse : Settings.parse text = .ok settings) :
    outcome ((trialHost environment).settings (some path) fallback) lines tree
      = ((.ok settings, lines), tree) := by
  refine outcome_adapt_eq_ok.2 ?_
  rw [Settings.load, outcome_bind, outcome_run, outcome_readText hread]
  simp only [hparse]
  rfl

/-- A session that is opened with a token of its own needs nothing but the settings. -/
theorem outcome_connect {settings : Settings} {endpoint : Endpoint} {fallback : Option String}
    {token sessionPath : String} (hread : tree.read path = .ok (Utf8.encode text))
    (hparse : Settings.parse text = .ok settings) (hendpoint : settings.endpoint = .ok endpoint) :
    outcome ((trialHost environment).connect (some path) fallback (some token) sessionPath) lines tree
      = ((.ok (some { settings, endpoint, tokens := .given ⟨some token⟩, path := sessionPath }),
          lines ++ [.log .info target "starting spherical client" [("url", toString endpoint)]]),
        tree) := by
  have hloaded : outcome (ExceptT.adapt Failure.ofSettings (liftM settings.endpoint)
      : ExceptT Failure Trial Endpoint) lines tree = ((.ok endpoint, lines), tree) :=
    outcome_adapt_eq_ok.2 ((outcome_liftM _).trans (by rw [hendpoint]))
  rw [Host.connect, outcome_bind, outcome_settings hread hparse]
  dsimp only
  rw [outcome_bind, hloaded]
  rfl

theorem outcome_trial (environment : List (String × String)) (action : Action) (tree : Tree) :
    outcome ((trialHost environment).run action) [] tree
      = (((trial environment action tree).result, (trial environment action tree).lines),
        (trial environment action tree).tree) := rfl

/-- Settings survive being written and read: as texts, whatever is in them, and in the file that
`init-config` makes of an address and `connect` loads. -/
theorem settings_survive :
    (∀ settings : Settings, settings.InRange → settings.validate = .ok () →
      ∀ text, settings.render = .ok text → Settings.parse text = .ok settings)
    ∧ ∀ (environment : List (String × String)) (output : Path) (url : String) (tree : Tree),
      (trial environment (.initConfig output url) tree).result.isOk = true →
      ∀ (environment' : List (String × String)) (fallback : Option String),
        (∀ lines, outcome ((trialHost environment').settings (some output) fallback) lines
            (trial environment (.initConfig output url) tree).tree
          = ((.ok { baseUrl := url }, lines), (trial environment (.initConfig output url) tree).tree))
        ∧ ∀ token path, ∃ plan,
          (trial environment' (.connect (some output) fallback (some token) path)
            (trial environment (.initConfig output url) tree).tree).result = .ok (some plan)
          ∧ plan.settings = { baseUrl := url } := by
  refine ⟨fun settings hrange hvalid text => Settings.parse_render hrange hvalid, ?_⟩
  intro environment output url tree haccepted environment' fallback
  have htrial := outcome_trial environment (.initConfig output url) tree
  obtain ⟨_, hresult⟩ := exists_of_isOk haccepted
  rw [hresult] at htrial
  obtain ⟨_, lines₁, tree₁, hinit, hreturn⟩ := outcome_bind_eq_ok htrial
  have htree : tree₁ = (trial environment (.initConfig output url) tree).tree :=
    congrArg Prod.snd hreturn
  obtain ⟨text, hvalid, hrender, hread⟩ := read_of_initConfig hinit
  have hparse := Settings.parse_render (inRange_of_baseUrl url) hvalid hrender
  obtain ⟨endpoint, hendpoint⟩ := (Settings.of_validate hvalid).1
  rw [← htree]
  refine ⟨fun lines => outcome_settings hread hparse, fun token path => ?_⟩
  have hconnect := outcome_trial environment' (.connect (some output) fallback (some token) path) tree₁
  have hplan := hconnect.symm.trans (outcome_connect hread hparse hendpoint)
  exact ⟨_, congrArg (·.1.1) hplan, rfl⟩

end

/-- Names without tables, but for one domain that is not written in ASCII. -/
@[reducible] def bookshop : Idna where
  toAscii? text :=
    if text = "bücher.example".toList then some "xn--bcher-kva.example".toList
    else Idna.asciiName? text

attribute [local instance] bookshop

/-- An address with a space in front and a tab and a line break at its end, of a domain that is not
written in ASCII, a path with both marks, a backslash, a line break, a control character and one
that is not ASCII, and a multiplier of seventeen digits. -/
def crooked : Settings where
  baseUrl := " https://bücher.example\t/\n"
  tokenPath := some "a\"\"b\x27\x27\x27c\\d\ne\x01é"
  retry := { initialDelay := 7, maxDelay := 9, multiplier := ⟨false, 0x3ff <<< 52 + 1⟩,
             maxAttempts := some 5 }

theorem settings_survive_crooked :
    (∃ text, crooked.render = .ok text ∧ Settings.parse text = .ok crooked)
    ∧ ∃ plan, (trial [] (.connect (some ⟨"a/c.toml"⟩) none (some "t") "/")
        (trial [] (.initConfig ⟨"a/c.toml"⟩ crooked.baseUrl) {}).tree).result = .ok (some plan)
      ∧ plan.settings = { baseUrl := crooked.baseUrl } := by
  obtain ⟨text, hrender⟩ := exists_of_isOk (show crooked.render.isOk = true by decide +kernel)
  refine ⟨⟨text, hrender, settings_survive.1 crooked ?_ (by decide +kernel) text hrender⟩, ?_⟩
  · exact ⟨by decide, by decide, by decide, by decide⟩
  · exact (settings_survive.2 [] ⟨"a/c.toml"⟩ crooked.baseUrl {} (by decide +kernel) [] none).2 "t" "/"

end GatewayClient.CommandLine
