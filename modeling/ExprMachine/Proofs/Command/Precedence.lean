import ExprMachine.Command.Run
import ExprMachine.Proofs.Manifest.Nearest

/-!
Options and settings that ask for different things.

That runs are traced, that chunks are listed and that they are kept can be asked for by a
switch and by the settings of the project; so can how much is logged. A command does what
either asks for. An option that is given decides alone only where the settings do not ask for
more.

* `assignments`, `given?`: the values that words give to options; the last one counts.
* `Options.cases_of_give`, `Options.of_giveAll`: what one value changes, and many of them.
* `Options.switch_of_parse`, `Options.verbosity_of_parse`: what options are set to, by the
  values that they are given.
* `Setup.switch`: whether a switch or the settings ask for something. `Setup.traces_session` and
  `Setup.store?_session` tell the session by it.
* `Setup.agreed`, `Setup.work_agreed`: a command does the same work where both ask for this.
* `Setup.outcome`, `run_eq_outcome`, `Setup.logging_work`: what a command leaves, and how much
  it logs.
* `run_takes_more`: **a command does what its options or its settings ask for**.
-/

namespace ExprMachine

/-- Whether settings ask for what a switch asks for. -/
def Manifest.switch (m : Manifest) : Command.Flag → Bool
  | .cache => m.cacheEnabled
  | .disasm => m.disassemble
  | .trace => m.trace
  | _ => false

namespace Command

variable {words rest : List String} {f : Flag} {v : String}

/-! ### Values of options -/

/-- The values that words give to options, in their order. A switch without a value is given
that it is true. -/
def assignments : List String → List (Flag × String)
  | [] => []
  | word :: rest =>
      match Word.of word with
      | .named name value? =>
          match Flag.ofName? name with
          | none => []
          | some f =>
              match value?, rest with
              | some value, rest => (f, value) :: assignments rest
              | none, rest =>
                  if f.isSwitch then (f, "true") :: assignments rest
                  else
                    match rest with
                    | [] => []
                    | value :: rest => (f, value) :: assignments rest
      | _ => []

/-- The value that words give to an option, if there is one: the last. -/
def given? (words : List String) (f : Flag) : Option String :=
  (assignments words).reverse.lookup f

namespace Options

variable {o o' : Options}

/-- What a switch is set to. -/
def switch (o : Options) : Flag → Bool
  | .cache => o.cache
  | .disasm => o.disasm
  | .lsp => o.lsp
  | .trace => o.trace
  | _ => false

lemma switch_setSwitch (hf : f.isSwitch = true) (b : Bool) (g : Flag) :
    (o.setSwitch f b).switch g = if g = f then b else o.switch g := by
  cases f <;> cases g <;> first | rfl | cases hf

lemma verbosity_setSwitch (f : Flag) (b : Bool) : (o.setSwitch f b).verbosity = o.verbosity := by
  cases f <;> rfl

lemma give_of_isSwitch (hf : f.isSwitch = true) (v : String) :
    o.give f v =
      match boolean? v with
      | some b => .ok (o.setSwitch f b)
      | none => .error (.badSwitch v f.name) := by
  cases f <;> first | rfl | cases hf

lemma give_true (hf : f.isSwitch = true) : o.give f "true" = .ok (o.setSwitch f true) := by
  have htrue : boolean? "true" = some true := by decide
  rw [give_of_isSwitch hf, htrue]

/-- A value sets a switch if it is a truth value, the verbosity if it is an integer, and any
other option. -/
lemma cases_of_give (h : o.give f v = .ok o') :
    (f.isSwitch = true ∧ ∃ b, boolean? v = some b ∧ o' = o.setSwitch f b) ∨
    (f = .verbosity ∧ ∃ n, Number.integer? v.toList = .ok n ∧ o' = { o with verbosity := n }) ∨
    (f = .format ∧ o' = { o with format := v }) ∨ (f = .output ∧ o' = { o with output := v }) := by
  by_cases hf : f.isSwitch = true
  · rw [give_of_isSwitch hf] at h
    cases hb : boolean? v with
    | none =>
        rw [hb] at h
        cases h
    | some b =>
        rw [hb] at h
        exact .inl ⟨hf, b, rfl, (Except.ok.inj h).symm⟩
  · cases f with
    | format => exact .inr (.inr (.inl ⟨rfl, (Except.ok.inj h).symm⟩))
    | output => exact .inr (.inr (.inr ⟨rfl, (Except.ok.inj h).symm⟩))
    | verbosity =>
        rw [give] at h
        cases hn : Number.integer? v.toList with
        | error fault =>
            rw [hn] at h
            cases h
        | ok n =>
            rw [hn] at h
            exact .inr (.inl ⟨rfl, n, rfl, (Except.ok.inj h).symm⟩)
    | _ => exact absurd rfl hf

/-- A switch that is given a value is set to its truth value. -/
lemma boolean?_of_give (hf : f.isSwitch = true) (h : o.give f v = .ok o') :
    boolean? v = some (o'.switch f) := by
  obtain ⟨-, b, hb, rfl⟩ | ⟨rfl, -⟩ | ⟨rfl, -⟩ | ⟨rfl, -⟩ := cases_of_give h
  · rw [switch_setSwitch hf, if_pos rfl, hb]
  all_goals cases hf

/-- An option that is given a value leaves the other switches alone. -/
lemma switch_of_give {g : Flag} (hne : g ≠ f) (h : o.give g v = .ok o') :
    o'.switch f = o.switch f := by
  obtain ⟨hg, b, -, rfl⟩ | ⟨-, n, -, rfl⟩ | ⟨-, rfl⟩ | ⟨-, rfl⟩ := cases_of_give h
  · rw [switch_setSwitch hg, if_neg hne.symm]
  all_goals cases f <;> rfl

/-- A verbosity that is given is an integer. -/
lemma integer?_of_give (h : o.give .verbosity v = .ok o') :
    Number.integer? v.toList = .ok o'.verbosity := by
  obtain ⟨hf, -⟩ | ⟨-, n, hn, rfl⟩ | ⟨hf, -⟩ | ⟨hf, -⟩ := cases_of_give h
  · cases hf
  · exact hn
  all_goals cases hf

lemma verbosity_of_give {g : Flag} (hne : g ≠ .verbosity) (h : o.give g v = .ok o') :
    o'.verbosity = o.verbosity := by
  obtain ⟨-, b, -, rfl⟩ | ⟨hg, -⟩ | ⟨-, rfl⟩ | ⟨-, rfl⟩ := cases_of_give h
  · exact verbosity_setSwitch g b
  · exact absurd hg hne
  all_goals rfl

/-- The options with values given to them, one after the other. -/
def giveAll (o : Options) (as : List (Flag × String)) : Except FlagFault Options :=
  as.foldlM (fun o a => o.give a.1 a.2) o

lemma giveAll_concat (as : List (Flag × String)) (g : Flag) (v : String) :
    o.giveAll (as ++ [(g, v)]) = o.giveAll as >>= fun mid => mid.give g v := by
  simp only [giveAll, List.foldlM_append, List.foldlM_cons, List.foldlM_nil, bind_pure]

/-- What is read of the options, if only the values of one option change it: it is as the last
of them says, or as it was. -/
lemma of_giveAll {α : Type} (read : Options → α) (Says : String → α → Prop)
    (hgive : ∀ {o o' : Options} {v}, o.give f v = .ok o' → Says v (read o'))
    (hother : ∀ {o o' : Options} {g v}, g ≠ f → o.give g v = .ok o' → read o' = read o)
    {as : List (Flag × String)} (h : o.giveAll as = .ok o') :
    match as.reverse.lookup f with
    | none => read o' = read o
    | some v => Says v (read o') := by
  induction as using List.reverseRecOn generalizing o' with
  | nil =>
      rw [← Except.ok.inj h]
      rfl
  | append_singleton as a ih =>
      obtain ⟨g, v⟩ := a
      rw [giveAll_concat] at h
      cases hmid : o.giveAll as with
      | error fault =>
          rw [hmid] at h
          cases h
      | ok mid =>
          rw [hmid] at h
          have hlast : mid.give g v = .ok o' := h
          rw [List.reverse_concat, List.lookup_cons]
          by_cases hg : g = f
          · rw [hg] at hlast ⊢
            rw [beq_self_eq_true]
            exact hgive hlast
          · have hne : (f == g) = false := beq_eq_false_iff_ne.mpr (Ne.symm hg)
            rw [hne, hother hg hlast]
            exact ih hmid

/-- Options are set to the values that are given to them, one after the other. -/
lemma giveAll_of_parse (h : o.parse words = .ok (o', rest)) :
    o.giveAll (assignments words) = .ok o' := by
  fun_induction Options.parse o words with
  | case1 o =>
      obtain ⟨rfl, -⟩ := Prod.mk.inj (Except.ok.inj h)
      rfl
  | case2 o word more hword =>
      obtain ⟨rfl, -⟩ := Prod.mk.inj (Except.ok.inj h)
      rw [assignments, hword]
      rfl
  | case3 o word more hword =>
      obtain ⟨rfl, -⟩ := Prod.mk.inj (Except.ok.inj h)
      rw [assignments, hword]
      rfl
  | case4 o word more hword => cases h
  | case5 o word more name value? hword hname hhelp => cases h
  | case6 o word more name value? hword hname hhelp => cases h
  | case7 o word name f hname value more next hgive hword ih =>
      simp only [assignments, hword, hname, giveAll, List.foldlM_cons, hgive]
      exact ih h
  | case8 o word name f hname value more fault hgive hword => cases h
  | case9 o word name f hname more hswitch hword ih =>
      simp only [assignments, hword, hname, hswitch, if_true, giveAll, List.foldlM_cons,
        give_true hswitch]
      exact ih h
  | case10 o word name f hname hswitch hword => cases h
  | case11 o word name f hname hswitch value more next hgive hword ih =>
      simp only [assignments, hword, hname, hswitch, Bool.false_eq_true, if_false, giveAll,
        List.foldlM_cons, hgive]
      exact ih h
  | case12 o word name f hname hswitch value more fault hgive hword => cases h

/-- A switch is set to the truth value that it is given, and is off unless it is given one. -/
lemma switch_of_parse (hf : f.isSwitch = true) (h : Options.default.parse words = .ok (o, rest)) :
    match given? words f with
    | none => o.switch f = false
    | some v => boolean? v = some (o.switch f) := by
  have hdefault : Options.default.switch f = false := by cases f <;> rfl
  rw [← hdefault]
  exact of_giveAll (fun o => o.switch f) (fun v b => boolean? v = some b)
    (boolean?_of_give hf) switch_of_give (giveAll_of_parse h)

/-- The verbosity is the integer that is given, and nothing unless one is given. -/
lemma verbosity_of_parse (h : Options.default.parse words = .ok (o, rest)) :
    match given? words .verbosity with
    | none => o.verbosity = 0
    | some v => Number.integer? v.toList = .ok o.verbosity :=
  of_giveAll Options.verbosity (fun v n => Number.integer? v.toList = .ok n)
    integer?_of_give verbosity_of_give (giveAll_of_parse h)

end Options

/-! ### What a command goes by -/

namespace Setup

variable {s : Setup}

/-- Whether the options ask for what a switch stands for, or the settings. -/
def switch (s : Setup) (f : Flag) : Bool :=
  s.options.switch f || s.manifest.switch f

/-- The same command, where the options and the settings ask for the same. -/
def agreed (s : Setup) : Setup where
  world := s.world
  options := { s.options with
    trace := s.switch .trace
    disasm := s.switch .disasm
    cache := s.switch .cache
    verbosity := s.logging.verbosity }
  manifest := { s.manifest with
    trace := s.switch .trace
    disassemble := s.switch .disasm
    cacheEnabled := s.switch .cache
    verbosity := s.logging.verbosity }

lemma logging_agreed : s.agreed.logging = s.logging := by
  simp only [logging, agreed, max_self]
  rfl

lemma lists_agreed : s.agreed.lists = s.lists := Bool.or_self _

lemma session_agreed : s.agreed.session = s.session := by
  simp only [session, lists_agreed]
  simp only [agreed, Bool.or_self]
  rfl

lemma ending_agreed : s.agreed.ending = s.ending := by
  funext files exit out err
  rw [ending, ending, logging_agreed]

lemma failing_agreed : s.agreed.failing = s.failing := by
  funext files out f
  rw [failing, failing, ending_agreed]

lemma listsYaml_agreed : s.agreed.listsYaml = s.listsYaml := by
  rw [listsYaml, listsYaml, lists_agreed]
  rfl

lemma converse_agreed : s.agreed.converse = s.converse := by
  funext session files
  simp only [converse, ending_agreed]
  rfl

lemma compileTo_agreed : s.agreed.compileTo = s.compileTo := by
  funext files path output
  simp only [compileTo, failing_agreed, ending_agreed]
  rfl

lemma runFile_agreed : s.agreed.runFile = s.runFile := by
  funext session files path
  simp only [runFile, failing_agreed, ending_agreed, listsYaml_agreed]
  rfl

/-- Runs are traced if this is asked for. -/
lemma traces_session : s.session.1.traces = s.switch .trace := by
  simp only [session]
  split
  · split <;> rfl
  · rfl

/-- A store is opened if this is asked for. -/
lemma store?_session :
    s.session.1.store? =
      if s.switch .cache then
        (Store.openAt s.world.files s.world.cwd s.manifest.cacheFile).2.toOption.map (·.1)
      else none := by
  have hswitch : s.switch .cache = (s.options.cache || s.manifest.cacheEnabled) := rfl
  rw [hswitch]
  simp only [session]
  by_cases hcache : (s.options.cache || s.manifest.cacheEnabled) = true
  · rw [if_pos hcache, if_pos hcache]
    rcases Store.openAt s.world.files s.world.cwd s.manifest.cacheFile with ⟨files, r⟩
    cases r <;> rfl
  · rw [if_neg hcache, if_neg hcache]

/-- A command does the same work where its options and its settings agree on what either asks
for. -/
lemma work_agreed (words : List String) : s.agreed.work words = s.work words := by
  simp only [work, serve, session_agreed, ending_agreed, converse_agreed, compileTo_agreed,
    runFile_agreed]
  rfl

/-- What a command leaves: what its work leaves, with a line before for each key that stands
for no setting. Of what is logged, there is what the verbosity lets through. -/
def outcome (s : Setup) (words : List String) : Outcome :=
  let o := (s.work words).after s.unknownKeys
  { o with log := Log.visible o.logging.verbosity o.log }

lemma outcome_agreed (words : List String) : s.agreed.outcome words = s.outcome words := by
  rw [outcome, outcome, work_agreed]
  rfl

/-! ### How much is logged -/

lemma logging_runFile (session : Session) (files : FileTree) (path : String) :
    (s.runFile session files path).logging = s.logging := by
  rcases hload : s.load session files path with ⟨loaded, log, session'⟩
  simp only [runFile, hload]
  cases loaded with
  | error f => rfl
  | ok c =>
      rcases hrun : session'.runChunk (some c) with ⟨r, shown⟩
      cases r <;> simp only [hrun] <;> rfl

lemma logging_compileTo (files : FileTree) (path output : String) :
    (s.compileTo files path output).logging = s.logging := by
  simp only [compileTo]
  cases files.read s.world.cwd path with
  | error e => rfl
  | ok bytes =>
      simp only
      cases (Source.mk bytes).compile with
      | error ds => rfl
      | ok c =>
          simp only
          cases files.write s.world.cwd output (c.encode ⟨bytes⟩) <;> rfl

/-- So much is logged, whatever is done. -/
lemma logging_work (words : List String) : (s.work words).logging = s.logging := by
  unfold work
  split_ifs with hlsp hdirect
  · rfl
  · match words with
    | _ :: _ :: _ => rfl
    | [] => rfl
    | [path] => exact logging_runFile _ _ path
  · match words with
    | _ :: _ :: _ => rfl
    | [] => rfl
    | [path] => exact logging_compileTo _ path _

end Setup

/-! ### Commands -/

variable {w : World} {o : Options} {m : Manifest}

/-- Settings ask for no negative verbosity. -/
lemma verbosity_of_settings (h : settings w = .ok m) : 0 ≤ m.verbosity := by
  rw [settings] at h
  cases hfind : Manifest.find w.files w.cwd with
  | error e =>
      rw [hfind] at h
      cases h
  | ok found? =>
      rw [hfind] at h
      obtain rfl := Except.ok.inj h
      cases found? with
      | none => exact le_rfl
      | some found =>
          obtain ⟨dir, hload⟩ := Manifest.exists_load_of_find hfind
          exact Manifest.verbosity_of_load hload

/-- A command whose options and settings are read does its work. -/
lemma run_eq_outcome (hargs : Options.default.parse w.args = .ok (o, words))
    (hformat : o.format = "text" ∨ o.format = "yaml") (hsettings : settings w = .ok m) :
    run w = Setup.outcome ⟨w, o, m⟩ words := by
  have hknown : ¬ (o.format ≠ "text" ∧ o.format ≠ "yaml") := by
    rw [not_and_or, not_not, not_not]
    exact hformat
  simp only [run, hargs, if_neg hknown, hsettings]
  rfl

/-- **A command does what its options or its settings ask for.** It does the same as if both
agreed: it traces, lists and keeps chunks if a switch or the settings ask for it, and it logs
as much as the greater verbosity asks for. What is not given is taken from the settings. A
value that is given, the last one for its option, is what the command goes by only if the
settings ask for no more: a switch that is turned off, and a verbosity below that of the
settings, are read and have no effect. -/
theorem run_takes_more (hargs : Options.default.parse w.args = .ok (o, words))
    (hformat : o.format = "text" ∨ o.format = "yaml") (hsettings : settings w = .ok m) :
    let s : Setup := ⟨w, o, m⟩
    (run w = s.agreed.outcome words ∧ s.session.1.traces = s.switch .trace ∧
      s.lists = s.switch .disasm ∧
      s.session.1.store? =
        if s.switch .cache then
          (Store.openAt w.files w.cwd m.cacheFile).2.toOption.map (·.1)
        else none) ∧
    (∀ f, f.isSwitch = true →
      (given? w.args f = none → s.switch f = m.switch f) ∧
      ∀ v, given? w.args f = some v → ∃ b, boolean? v = some b ∧
        s.switch f = (b || m.switch f) ∧ (s.switch f = b ↔ b = true ∨ m.switch f = false)) ∧
    (given? w.args .verbosity = none → (run w).logging.verbosity = m.verbosity) ∧
    ∀ v, given? w.args .verbosity = some v → ∃ n, Number.integer? v.toList = .ok n ∧
      (run w).logging.verbosity = max n m.verbosity ∧
      ((run w).logging.verbosity = n ↔ m.verbosity ≤ n) := by
  intro s
  have hrun : run w = s.outcome words := run_eq_outcome hargs hformat hsettings
  have hlogging : (run w).logging.verbosity = max o.verbosity m.verbosity := by
    have hwork : (s.outcome words).logging = s.logging := Setup.logging_work words
    rw [hrun, hwork]
    rfl
  refine ⟨⟨hrun.trans (Setup.outcome_agreed words).symm, Setup.traces_session, rfl,
    Setup.store?_session⟩, fun f hf => ?_, ?_⟩
  · have hgiven := Options.switch_of_parse hf hargs
    refine ⟨fun hnone => ?_, fun v hv => ⟨o.switch f, ?_, rfl, ?_⟩⟩
    · rw [hnone] at hgiven
      have hoff : o.switch f = false := hgiven
      rw [Setup.switch, hoff, Bool.false_or]
    · rwa [hv] at hgiven
    · rw [Setup.switch]
      cases o.switch f <;> cases m.switch f <;> simp
  · have hgiven := Options.verbosity_of_parse hargs
    rw [hlogging]
    refine ⟨fun hnone => ?_, fun v hv => ⟨o.verbosity, ?_, rfl, max_eq_left_iff⟩⟩
    · rw [hnone] at hgiven
      have hzero : o.verbosity = 0 := hgiven
      rw [hzero, max_eq_right (verbosity_of_settings hsettings)]
    · rwa [hv] at hgiven

/-- A trace and log lines that the settings ask for, and the command line does not want. -/
theorem run_takes_more_unwanted :
    let content := (Source.ofString "[run]\ntrace = true\n[log]\nverbosity = 2\n").bytes
    let w : World := ⟨["-trace=false", "-v", "0", "a.lox"],
      ⟨[(["glox.toml"], .file content), (["a.lox"], .file [0x31])]⟩, [], none, [], 0⟩
    let m : Manifest := { Manifest.default with
      trace := true, verbosity := 2, dir? := some "/" }
    let s : Setup := ⟨w, .default, m⟩
    settings w = .ok m ∧ given? w.args .trace = some "false" ∧
      given? w.args .verbosity = some "0" ∧ run w = s.agreed.outcome ["a.lox"] ∧
      s.session.1.traces = true ∧ (run w).logging.verbosity = 2 := by
  intro content w m s
  have hargs : Options.default.parse w.args = .ok (.default, ["a.lox"]) := by decide +kernel
  have hsettings : settings w = .ok m := by decide +kernel
  have htrace : given? w.args .trace = some "false" := by decide +kernel
  have hverbosity : given? w.args .verbosity = some "0" := by decide +kernel
  obtain ⟨⟨hrun, hsession, -, -⟩, hswitch, -, hlogged⟩ :=
    run_takes_more hargs (.inl rfl) hsettings
  obtain ⟨b, -, hb, -⟩ := (hswitch .trace rfl).2 "false" htrace
  have htraced : s.switch .trace = true := by
    rw [hb]
    exact Bool.or_true b
  obtain ⟨n, hn, hmax, -⟩ := hlogged "0" hverbosity
  have hzero : Number.integer? "0".toList = .ok 0 := by decide +kernel
  obtain rfl := Except.ok.inj (hzero.symm.trans hn)
  exact ⟨hsettings, htrace, hverbosity, hrun, hsession.trans htraced, hmax⟩

end Command

end ExprMachine
