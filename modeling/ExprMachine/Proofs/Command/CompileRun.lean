import ExprMachine.Command.Run
import ExprMachine.Proofs.Command.Output
import ExprMachine.Proofs.Files.WriteRead
import ExprMachine.Proofs.Manifest.Nearest
import ExprMachine.Proofs.Wire.Compiled

/-!
Running a source, and compiling it to a file first.

A source can be run as it is, or compiled to a file that is run then. Both ways lead
to the same chunk, one through memory and one through the bytes of the file, and what
a command shows depends on the chunk alone.

* `Source.kind_of_evaluate`: the code of a compiled chunk is never to blame.
* `Watches`: flags that ask for nothing but a trace and a listing. A path behind them
  is left for the command (`Options.parse_append`).
* `World.Finds`: a command finds a file, and no settings. A compiled chunk is found
  where it was written (`World.Finds.of_write`).
* `shown`, `refused`: what a command shows of a chunk that it runs, and of a source
  that does not compile. How it ends is told by the run (`ending`), and so is whether
  the code is to blame (`blame`).
* `run_eq_of_load`: a file that is loaded is shown, whatever its chunk is.
* `run_source`, `run_compiled`, `run_compileTo`: what each of the three commands does.
* `run_compiled_eq_run_source`: **compiling first makes no difference**.
-/

namespace ExprMachine

/-- The run of a compiled chunk fails only where an operator is not defined for its
operands. -/
lemma Source.kind_of_evaluate {s : Source} {c : Chunk} (hc : s.compile = .ok c)
    {e : Machine.Error} (he : c.evaluate = .error e) : e.kind = .runtime := by
  obtain ⟨tree, htree, rfl⟩ := Source.compile_eq_ok_iff.mp hc
  obtain ⟨-, hderives, hcount, -⟩ := Expr.parseAll_eq_ok_iff.mp htree
  have hfits : tree.literals.length ≤ Chunk.maxConstants := by
    rw [Expr.length_literals hderives]
    exact hcount
  have hrun := Expr.run_assemble tree (Expr.endToken (tokenize s.text)).line [] hfits
  cases hv : tree.eval with
  | ok v =>
      rw [hv] at hrun
      have hok : Except.error e = Except.ok v := he.symm.trans hrun.1
      cases hok
  | error f =>
      rw [hv] at hrun
      obtain rfl := Except.error.inj (he.symm.trans hrun)
      rfl

namespace Command

/-! ### Words -/

/-- The options of a command that runs a file, or compiles it if there is a path for
that, and may trace and list. -/
def Options.watching (trace disasm : Bool) (output : String) : Options :=
  { Options.default with trace, disasm, output }

/-- Words that set no options but those to trace and to list. -/
def Watches (flags : List String) : Prop :=
  ∃ trace disasm, Options.default.parse flags = .ok (.watching trace disasm "", [])

/-- A word that is no option is left behind words that leave nothing. -/
lemma Options.parse_append {o o' : Options} {flags : List String} {word : String}
    (hword : Word.of word = .plain) (h : o.parse flags = .ok (o', [])) :
    o.parse (flags ++ [word]) = .ok (o', [word]) := by
  fun_induction Options.parse o flags with
  | case1 o =>
      obtain rfl : o = o' := by simpa using h
      simp [parse, hword]
  | case2 o first rest hfirst => simp at h
  | case3 o first rest hfirst =>
      obtain ⟨rfl, rfl⟩ : o = o' ∧ rest = [] := by simpa using h
      simp [parse, hfirst]
  | case4 o first rest hfirst => cases h
  | case5 o first rest name value? hfirst hname hhelp => cases h
  | case6 o first rest name value? hfirst hname hhelp => cases h
  | case7 o first name f hname value rest next hgive hfirst ih =>
      simpa [parse, hfirst, hname, hgive] using ih h
  | case8 o first name f hname value rest fault hgive hfirst => cases h
  | case9 o first name f hname rest hswitch hfirst ih =>
      simpa [parse, hfirst, hname, hswitch] using ih h
  | case10 o first name f hname hswitch hfirst => cases h
  | case11 o first name f hname hswitch value rest next hgive hfirst ih =>
      simpa [parse, hfirst, hname, hswitch, hgive] using ih h
  | case12 o first name f hname hswitch value rest fault hgive hfirst => cases h

/-- The words that ask for a file to be compiled to another. -/
lemma Options.parse_output {source : String} (hsource : Word.of source = .plain)
    (output : String) :
    Options.default.parse ["-o", output, source] =
      .ok (.watching false false output, [source]) := by
  have hword : Word.of "-o" = .named "o" none := by decide
  have hflag : Flag.ofName? "o" = some .output := by decide
  simp [parse, hword, hflag, Flag.isSwitch, give, hsource, Options.watching, Options.default]

/-! ### Files -/

/-- A command finds a file with some bytes, and no settings at the place where it
stands or above. -/
structure World.Finds (w : World) (path : String) (bytes : List UInt8) : Prop where
  settings : ∀ l ∈ Manifest.upward w.cwd, w.files.node? (l ++ [Manifest.fileName]) = none
  content : w.files.read w.cwd path = .ok bytes

lemma World.Finds.settings_eq {w : World} {path : String} {bytes : List UInt8}
    (h : w.Finds path bytes) : Command.settings w = .ok .default := by
  have hnone : Manifest.find w.files w.cwd = .ok none := by
    refine Manifest.find_of_forall_prefix fun l hl => ?_
    simp [FileTree.has, h.settings l (Manifest.mem_upward.mpr hl)]
  rw [Command.settings, hnone]
  rfl

/-- A compiled chunk is not kept where settings are. -/
lemma fileName_ne_name {output : String} (h : isCompiled output = true) :
    Manifest.fileName ≠ Path.name output := by
  intro heq
  have hsuffix := Path.suffix_name (by decide) (List.isSuffixOf_iff_suffix.mp h)
  rw [← heq] at hsuffix
  exact absurd hsuffix (by decide)

/-- A compiled chunk has a name. -/
lemma isEmpty_of_isCompiled {output : String} (h : isCompiled output = true) :
    output.isEmpty = false := by
  rw [Bool.eq_false_iff]
  intro hempty
  rw [String.isEmpty_iff.mp hempty] at h
  exact absurd h (by decide)

/-- A compiled chunk is found where it was written. -/
lemma World.Finds.of_write {w l : World} {path output : String} {bytes content : List UInt8}
    (h : w.Finds path bytes) (houtput : isCompiled output = true) (hcwd : l.cwd = w.cwd)
    (hwrite : w.files.write w.cwd output content = .ok l.files) : l.Finds output content where
  settings := by
    intro k hk
    rw [hcwd] at hk
    rw [FileTree.node?_write hwrite (fileName_ne_name houtput)]
    exact h.settings k hk
  content := by
    rw [hcwd]
    exact FileTree.read_write hwrite

/-! ### What a command shows -/

/-- How a command logs that was told nothing about it. -/
def unlogged : Logging := ⟨0, none⟩

/-- What a command shows of a chunk that it runs: the listing and the trace if they
are asked for, and then the value and the line of the result, or how the run failed. -/
def shown (w : World) (trace disasm : Bool) (c : Chunk) : Outcome :=
  let listing := if disasm then c.disassemble "chunk" else ""
  let traced := if trace then (Machine.run (some c) []).trace (some c) else ""
  match c.evaluate with
  | .ok v =>
      .plain w.files unlogged .ok
        (listing ++ traced ++ (v.text ++ "\n") ++ ("Result: " ++ v.text ++ "\n")) ""
  | .error e => .plain w.files unlogged .failed (listing ++ traced) (e.text ++ "\n")

/-- Nothing is changed or logged by a command that runs a chunk. -/
lemma exists_shown_eq (w : World) (trace disasm : Bool) (c : Chunk) :
    ∃ exit out err, shown w trace disasm c = .plain w.files unlogged exit out err := by
  simp only [shown]
  cases c.evaluate with
  | ok v => exact ⟨_, _, _, rfl⟩
  | error e => exact ⟨_, _, _, rfl⟩

/-- The session of a command that traces and lists. -/
def watchingSession (trace disasm : Bool) : Session :=
  ⟨trace, if disasm then .shown else .nowhere, none, "glox.interpreter", 0⟩

section Watching

variable {w : World} {trace disasm : Bool} {path : String} {bytes : List UInt8} {c : Chunk}

/-- What is settled before a command that traces, lists or compiles does its work. -/
def Setup.watching (w : World) (trace disasm : Bool) (output : String) : Setup :=
  ⟨w, .watching trace disasm output, .default⟩

lemma Setup.session_watching (output : String) :
    (Setup.watching w trace disasm output).session =
      (watchingSession trace disasm, w.files, []) := by
  cases disasm <;> simp [Setup.session, Setup.watching, Options.watching, Options.default,
    Manifest.default, Setup.lists, watchingSession]

/-- A command without settings does its work, and of what it logs only what is grave
is kept. -/
lemma run_eq_of_work {output : String}
    (hargs : Options.default.parse w.args = .ok (.watching trace disasm output, [path]))
    (hsettings : settings w = .ok .default) {files : FileTree} {exit : Exit} {out err : String}
    {log : List Log.Entry}
    (hwork : (Setup.watching w trace disasm output).work [path] =
      { Outcome.plain files unlogged exit out err with log := log }) :
    run w = { Outcome.plain files unlogged exit out err with log := Log.visible 0 log } := by
  have hunknown : (Setup.watching w trace disasm output).unknownKeys = [] := rfl
  have hformat : (Options.watching trace disasm output).format = "text" := rfl
  have hverbosity : unlogged.verbosity = 0 := rfl
  rw [Setup.watching] at hwork hunknown
  simp only [run, hargs, hformat, ne_eq, not_true_eq_false, false_and, if_false, hsettings, hwork,
    hunknown, Outcome.after, List.nil_append, Outcome.plain, hverbosity]

/-- A command without settings does its work, and nothing is logged that is not
grave. -/
lemma run_of_work {output : String}
    (hargs : Options.default.parse w.args = .ok (.watching trace disasm output, [path]))
    (hsettings : settings w = .ok .default) {files : FileTree} {exit : Exit} {out err : String}
    (log : List Log.Entry)
    (hwork : (Setup.watching w trace disasm output).work [path] =
      { Outcome.plain files unlogged exit out err with log := log })
    (hlog : Log.visible 0 log = []) :
    run w = .plain files unlogged exit out err := by
  rw [run_eq_of_work hargs hsettings hwork, hlog]
  rfl

/-- A session without a store compiles a source itself. -/
lemma load_source (trace disasm : Bool) (hsource : isCompiled path = false)
    (hread : w.files.read w.cwd path = .ok bytes) :
    ∃ n, (Setup.watching w trace disasm "").load (watchingSession trace disasm) w.files path =
      ((Source.mk bytes).compile.mapError .compile, [],
        { watchingSession trace disasm with compiles := n }) := by
  have hlookup (o : Session.Outage) (src : Source) :
      (watchingSession trace disasm).lookup o src = (none, []) := rfl
  have hcwd : (Setup.watching w trace disasm "").world.cwd = w.cwd := rfl
  simp only [Setup.load, hcwd, hread, hsource, Bool.false_eq_true, if_false, Session.compile,
    hlookup]
  cases hc : (Source.mk bytes).compile with
  | error ds => exact ⟨0, rfl⟩
  | ok c => exact ⟨1, rfl⟩

/-- A compiled chunk is read. -/
lemma load_compiled (trace disasm : Bool) (hcompiled : isCompiled path = true)
    (hread : w.files.read w.cwd path = .ok bytes) :
    (Setup.watching w trace disasm "").load (watchingSession trace disasm) w.files path =
      ((Chunk.ofBytes bytes).mapError .chunk, [], watchingSession trace disasm) := by
  have hcwd : (Setup.watching w trace disasm "").world.cwd = w.cwd := rfl
  simp only [Setup.load, hcwd, hread, hcompiled, if_true]

/-- What is seen of a run whose trace goes to a place of its own. -/
lemma fst_evaluate_new (c : Chunk) (trace : Bool) :
    ((Machine.new (some c)).evaluate ⟨true, if trace then .separate else .off⟩).1 =
      ⟨c.evaluate, (Machine.run (some c) []).printed,
        if trace then (Machine.run (some c) []).trace (some c) else ""⟩ := by
  cases trace <;> simp [Machine.evaluate, Machine.new, Chunk.evaluate]

/-- What is logged about a chunk that is run: that its code is to blame, if it is. -/
def blame (c : Chunk) : List Log.Entry :=
  match c.evaluate with
  | .ok _ => []
  | .error e =>
      if e.kind.blamesCode then [⟨.error, "glox.interpreter", "malformed chunk: " ++ e.text⟩]
      else []

/-- How a command ends that runs a chunk. -/
def ending (c : Chunk) : Exit :=
  match c.evaluate with
  | .ok _ => .ok
  | .error e => (Failure.session (.run e)).exit

/-- What a session that traces and lists shows of a chunk. -/
lemma runChunk_watching (c : Chunk) (n : ℕ) :
    Session.runChunk { watchingSession trace disasm with compiles := n } (some c) =
      (c.evaluate.mapError .run,
        ⟨(Machine.run (some c) []).printed,
          if trace then (Machine.run (some c) []).trace (some c) else "",
          if disasm then c.disassemble "chunk" else "", blame c⟩) := by
  have hseen := fst_evaluate_new c trace
  cases he : c.evaluate with
  | ok v =>
      rw [he] at hseen
      cases disasm <;> simp [Session.runChunk, watchingSession, hseen, Except.mapError, blame, he]
  | error e =>
      rw [he] at hseen
      cases disasm <;> simp [Session.runChunk, watchingSession, hseen, Except.mapError, blame, he,
        Session.entry]

/-- What a command shows of a file depends only on the chunk that is in it. -/
lemma runFile_eq_of_load {n : ℕ}
    (hload : (Setup.watching w trace disasm "").load (watchingSession trace disasm) w.files path =
      (.ok c, [], { watchingSession trace disasm with compiles := n })) :
    (Setup.watching w trace disasm "").runFile (watchingSession trace disasm) w.files path =
      { shown w trace disasm c with exit := ending c, log := blame c } := by
  have hyaml : (Setup.watching w trace disasm "").listsYaml = false := by
    simp [Setup.listsYaml, Setup.watching, Options.watching, Options.default]
  simp only [Setup.runFile, hload, hyaml, runChunk_watching, Bool.false_eq_true, if_false]
  have hresult : (Machine.run (some c) []).result = c.evaluate := rfl
  cases he : c.evaluate with
  | ok v =>
      have hprinted : (Machine.run (some c) []).printed = v.text ++ "\n" := by
        rw [Machine.Run.printed, hresult, he]
      simp only [shown, ending, he, hprinted, Except.mapError, Session.Shown.text,
        String.empty_append, Outcome.after, Setup.ending, Outcome.plain, List.nil_append,
        List.append_nil]
      rfl
  | error e =>
      have hprinted : (Machine.run (some c) []).printed = "" := by
        rw [Machine.Run.printed, hresult, he]
      simp only [shown, ending, he, hprinted, Except.mapError, Session.Shown.text,
        String.empty_append, String.append_empty, Outcome.after, Setup.failing, Setup.ending,
        Outcome.plain, List.nil_append, List.append_nil]
      rfl

/-! ### The commands -/

/-- What a command shows of a source that does not compile. -/
def refused (w : World) (ds : List Diagnostic) : Outcome :=
  .plain w.files unlogged .badData "" (Diagnostic.textOfList ds ++ "\n")

lemma work_watching (output : String) :
    (Setup.watching w trace disasm output).work [path] =
      if output.isEmpty then
        (Setup.watching w trace disasm output).runFile (watchingSession trace disasm) w.files path
      else (Setup.watching w trace disasm output).compileTo w.files path output := by
  have hlsp : (Setup.watching w trace disasm output).options.lsp = false := rfl
  have houtput : (Setup.watching w trace disasm output).options.output = output := rfl
  simp only [Setup.work, hlsp, Bool.false_eq_true, if_false, Setup.session_watching, houtput]
  rfl

/-- A file that is loaded is shown. -/
lemma run_eq_of_load {n : ℕ}
    (hargs : Options.default.parse w.args = .ok (.watching trace disasm "", [path]))
    (hsettings : settings w = .ok .default)
    (hload : (Setup.watching w trace disasm "").load (watchingSession trace disasm) w.files path =
      (.ok c, [], { watchingSession trace disasm with compiles := n })) :
    run w =
      { shown w trace disasm c with exit := ending c, log := Log.visible 0 (blame c) } := by
  obtain ⟨exit, out, err, hshown⟩ := exists_shown_eq w trace disasm c
  have hwork := (work_watching "").trans (runFile_eq_of_load hload)
  rw [hshown] at hwork ⊢
  exact run_eq_of_work hargs hsettings hwork

/-- A run that fails for its operands alone ends a command as failed, and its code is
not to blame. -/
lemma run_of_load {n : ℕ}
    (hargs : Options.default.parse w.args = .ok (.watching trace disasm "", [path]))
    (hsettings : settings w = .ok .default)
    (hkind : ∀ e, c.evaluate = .error e → e.kind = .runtime)
    (hload : (Setup.watching w trace disasm "").load (watchingSession trace disasm) w.files path =
      (.ok c, [], { watchingSession trace disasm with compiles := n })) :
    run w = shown w trace disasm c := by
  rw [run_eq_of_load hargs hsettings hload]
  simp only [shown, ending, blame]
  cases he : c.evaluate with
  | ok v => rfl
  | error e =>
      have hexit : (Failure.session (.run e)).exit = .failed := by
        simp [Failure.exit, hkind e he]
      have hblame : e.kind.blamesCode = false := by
        rw [hkind e he]
        rfl
      simp [Outcome.plain, hexit, hblame, Log.visible]

/-- A source that is run is compiled, and its chunk is shown. -/
lemma run_source
    (hargs : Options.default.parse w.args = .ok (.watching trace disasm "", [path]))
    (hfinds : w.Finds path bytes) (hsource : isCompiled path = false) :
    run w =
      match (Source.mk bytes).compile with
      | .ok c => shown w trace disasm c
      | .error ds => refused w ds := by
  obtain ⟨n, hload⟩ := load_source trace disasm hsource hfinds.content
  cases hc : (Source.mk bytes).compile with
  | ok c =>
      rw [hc] at hload
      exact run_of_load hargs hfinds.settings_eq (fun e => Source.kind_of_evaluate hc) hload
  | error ds =>
      rw [hc] at hload
      have hrun : (Setup.watching w trace disasm "").runFile (watchingSession trace disasm)
          w.files path = refused w ds := by
        simp only [Setup.runFile, hload]
        rfl
      exact run_of_work hargs hfinds.settings_eq [] ((work_watching "").trans hrun) rfl

/-- A compiled chunk that is run is shown. -/
lemma run_compiled {s : Source}
    (hargs : Options.default.parse w.args = .ok (.watching trace disasm "", [path]))
    (hc : s.compile = .ok c) (hsize : c.code.size ≤ Cbor.maxEntries)
    (hfinds : w.Finds path (c.encode s)) (hcompiled : isCompiled path = true) :
    run w = shown w trace disasm c := by
  have hread : Chunk.ofBytes (c.encode s) = .ok c := by
    rw [Chunk.ofBytes_encode (Source.validate_of_compile hc), if_pos hsize,
      Source.carried_of_compile hc]
  have hload := load_compiled trace disasm hcompiled hfinds.content
  rw [hread] at hload
  exact run_of_load hargs hfinds.settings_eq (fun e => Source.kind_of_evaluate hc) hload

/-- A source is compiled to a file if it compiles and the file can be written. -/
lemma run_compileTo {output : String}
    (hargs : Options.default.parse w.args = .ok (.watching false false output, [path]))
    (houtput : output.isEmpty = false) (hfinds : w.Finds path bytes) :
    run w =
      match (Source.mk bytes).compile with
      | .error ds => refused w ds
      | .ok c =>
          match w.files.write w.cwd output (c.encode ⟨bytes⟩) with
          | .error e => .plain w.files unlogged .ioError "" s!"Error: {e.message}\n"
          | .ok files => .plain files unlogged .ok "" "" := by
  have hwork : (Setup.watching w false false output).work [path] =
      (Setup.watching w false false output).compileTo w.files path output := by
    rw [work_watching, houtput]
    rfl
  have hcwd : (Setup.watching w false false output).world.cwd = w.cwd := rfl
  simp only [Setup.compileTo, hcwd, hfinds.content] at hwork
  cases hc : (Source.mk bytes).compile with
  | error ds =>
      simp only [hc] at hwork
      exact run_of_work hargs hfinds.settings_eq [] hwork rfl
  | ok c =>
      simp only [hc] at hwork
      cases hwrite : w.files.write w.cwd output (c.encode ⟨bytes⟩) with
      | error e =>
          simp only [hwrite] at hwork ⊢
          exact run_of_work hargs hfinds.settings_eq [] hwork rfl
      | ok files =>
          simp only [hwrite] at hwork ⊢
          exact run_of_work hargs hfinds.settings_eq _ hwork rfl

end Watching

/-! ### The two ways to run a source -/

/-- What is seen of a command: its exit code, what it prints, also about errors, and
what it logs. -/
def Outcome.seen (o : Outcome) : ℕ × String × String × List Log.Entry :=
  (o.exit.code, o.out, o.err, o.log)

/-- What is seen of a chunk depends on the chunk alone. -/
lemma seen_shown (w l : World) (trace disasm : Bool) (c : Chunk) :
    (shown w trace disasm c).seen = (shown l trace disasm c).seen := by
  simp only [shown]
  cases c.evaluate <;> rfl

/-- The exit code tells whether a run ended with a value. -/
lemma code_shown (w : World) (trace disasm : Bool) (c : Chunk) :
    (shown w trace disasm c).exit.code = if c.evaluate.isOk then 0 else 70 := by
  simp only [shown]
  cases c.evaluate <;> rfl

/-- The line of a result is printed by those runs that end with a value. -/
lemma printsResult_shown (w : World) (trace disasm : Bool) (c : Chunk) :
    PrintsResult (shown w trace disasm c).out ↔ c.evaluate.isOk = true := by
  simp only [shown]
  cases c.evaluate with
  | ok v =>
      refine iff_of_true ?_ rfl
      simpa only [Outcome.plain, String.append_assoc] using
        printsResult_append (_ ++ _ ++ v.text) v.oneLine_text
  | error e =>
      refine iff_of_false (Quiet.not_printsResult (.append ?_ ?_)) Bool.false_ne_true
      · split_ifs
        · exact quiet_disassemble c
        · exact .empty
      · split_ifs
        · exact quiet_trace _ c
        · exact .empty

/-- How a source is run is told by the exit code, and the line of a result stands for
a run that ended well. -/
lemma code_run_source {d : World} {trace disasm : Bool} {source : Source}
    (hrun : run d =
      match source.compile with
      | .ok c => shown d trace disasm c
      | .error ds => refused d ds) :
    ((run d).exit.code = 0 ↔ ∃ c v, source.compile = .ok c ∧ c.evaluate = .ok v) ∧
    ((run d).exit.code = 65 ↔ ∃ ds, source.compile = .error ds) ∧
    ((run d).exit.code = 70 ↔ ∃ c e, source.compile = .ok c ∧ c.evaluate = .error e) ∧
    (PrintsResult (run d).out ↔ (run d).exit.code = 0) ∧ (run d).files = d.files := by
  rw [hrun]
  cases hc : source.compile with
  | error ds =>
      have hcode : (refused d ds).exit.code = 65 := rfl
      have hout : ¬PrintsResult (refused d ds).out := Quiet.not_printsResult .empty
      have hfiles : (refused d ds).files = d.files := rfl
      simp [hcode, hout, hfiles]
  | ok c =>
      obtain ⟨exit, out, err, hshown⟩ := exists_shown_eq d trace disasm c
      have hfiles : (shown d trace disasm c).files = d.files := by
        rw [hshown]
        rfl
      simp only [code_shown, printsResult_shown, hfiles]
      cases he : c.evaluate with
      | ok v => simp [Except.isOk, Except.toBool, he]
      | error e => simp [Except.isOk, Except.toBool, he]

/-- **Compiling first makes no difference.** A source is compiled to a file and the
file is run, or it is run itself, with the same flags and wherever the same bytes are
found. A source that does not compile is refused alike, and no file is written. If it
compiles, and the file can be written and is not too long to be read, compiling shows
nothing and both runs show the same. How a source is run is told by the exit code, and
the line of the result is printed only where there is one. -/
theorem run_compiled_eq_run_source {w d l : World} {flags : List String} {source output : String}
    {bytes : List UInt8} (hflags : Watches flags)
    (hsource : Word.of source = .plain) (houtput : Word.of output = .plain)
    (hext : isCompiled source = false) (hext' : isCompiled output = true)
    (hw : w.args = ["-o", output, source]) (hd : d.args = flags ++ [source])
    (hl : l.args = flags ++ [output]) (hcwd : l.cwd = w.cwd) (hfiles : l.files = (run w).files)
    (hfinds : w.Finds source bytes) (hfinds' : d.Finds source bytes) :
    (∀ ds, (Source.mk bytes).compile = .error ds →
      (run w).exit.code = 65 ∧ (run w).out = "" ∧ (run w).seen = (run d).seen ∧
        (run w).files = w.files) ∧
    (∀ c, (Source.mk bytes).compile = .ok c → c.code.size ≤ 131072 →
      (∃ place, w.files.target w.cwd output = .ok place) →
        (run w).seen = (0, "", "", []) ∧ (run l).seen = (run d).seen) ∧
    ((run d).exit.code = 0 ↔
      ∃ c v, (Source.mk bytes).compile = .ok c ∧ c.evaluate = .ok v) ∧
    ((run d).exit.code = 65 ↔ ∃ ds, (Source.mk bytes).compile = .error ds) ∧
    ((run d).exit.code = 70 ↔
      ∃ c e, (Source.mk bytes).compile = .ok c ∧ c.evaluate = .error e) ∧
    (PrintsResult (run d).out ↔ (run d).exit.code = 0) ∧ (run d).files = d.files := by
  obtain ⟨trace, disasm, hflags⟩ := hflags
  have hwrun := run_compileTo (hw ▸ Options.parse_output hsource output)
    (isEmpty_of_isCompiled hext') hfinds
  have hdrun := run_source (hd ▸ Options.parse_append hsource hflags) hfinds' hext
  refine ⟨fun ds hc => ?_, fun c hc hsize ⟨place, hplace⟩ => ?_, code_run_source hdrun⟩
  · rw [hc] at hwrun hdrun
    rw [hwrun, hdrun]
    exact ⟨rfl, rfl, rfl, rfl⟩
  · rw [hc] at hwrun hdrun
    have hwrite : w.files.write w.cwd output (c.encode ⟨bytes⟩) =
        .ok (w.files.set place (.file (c.encode ⟨bytes⟩))) := by
      rw [FileTree.write, hplace]
    simp only [hwrite] at hwrun
    refine ⟨by rw [hwrun]; rfl, ?_⟩
    -- what was written is what the run of the compiled file finds
    rw [hwrun] at hfiles
    have hwritten : w.files.write w.cwd output (c.encode ⟨bytes⟩) = .ok l.files := by
      rw [hwrite, hfiles]
      rfl
    have hlrun := run_compiled (hl ▸ Options.parse_append houtput hflags) hc hsize
      (hfinds.of_write hext' hcwd hwritten) hext'
    rw [hlrun, hdrun]
    exact seen_shown l d trace disasm c

/-- A negation, traced and listed. -/
theorem run_compiled_eq_run_source_negation :
    let w : World := ⟨["-o", "out.gloxc", "a.lox"],
      ⟨[(["a.lox"], .file (Source.ofString "!false").bytes)]⟩, [], none, [], 0⟩
    let d : World := { w with args := ["-trace", "-disasm", "a.lox"] }
    let l : World := { w with args := ["-trace", "-disasm", "out.gloxc"], files := (run w).files }
    (run w).seen = (0, "", "", []) ∧ (run l).seen = (run d).seen ∧ (run d).exit.code = 0 ∧
      PrintsResult (run d).out := by
  intro w d l
  have hflags : Watches ["-trace", "-disasm"] := ⟨true, true, by decide⟩
  have hfinds : w.Finds "a.lox" (Source.ofString "!false").bytes := ⟨by decide, by decide⟩
  have hfinds' : d.Finds "a.lox" (Source.ofString "!false").bytes := ⟨by decide, by decide⟩
  have hc : (Source.ofString "!false").compile =
      .ok ⟨#[1, 0, 13, 0], #[1, 1, 1, 1], #[.boolean false]⟩ := by decide +kernel
  have hplace : w.files.target w.cwd "out.gloxc" = .ok ["out.gloxc"] := by decide
  have hvalue : (Chunk.mk #[1, 0, 13, 0] #[1, 1, 1, 1] #[.boolean false]).evaluate =
      .ok (.boolean true) := by decide +kernel
  obtain ⟨-, hcompiled, hok, -, -, hresult, -⟩ :=
    run_compiled_eq_run_source (w := w) (d := d) (l := l) hflags (by decide) (by decide)
      (by decide) (by decide) rfl rfl rfl rfl rfl hfinds hfinds'
  have hcode : (run d).exit.code = 0 := hok.mpr ⟨_, _, hc, hvalue⟩
  obtain ⟨hseen, hsame⟩ := hcompiled _ hc (by decide) ⟨_, hplace⟩
  exact ⟨hseen, hsame, hcode, hresult.mpr hcode⟩

end Command

end ExprMachine
