import ChipEight.Host.Assembler
import ChipEight.Proofs.Assembly.Errors
import ChipEight.Proofs.Host.FileTree
import ChipEight.Proofs.Text.Lines

/-!
# What the assembler command does to files

The command reads all sources, assembles them and then writes the program. The files change in the
last part only, so that a command that fails has changed none of them.
-/

namespace ChipEight.Host

/-- Whether a path leads to a text whose module this is. The module has the name of the file without
    its suffix, and a line feed for each of its line ends. -/
def IsModuleOf (t : FileTree) (p : Path) (m : Assembly.Module) : Prop :=
  ∃ bytes text unified, t.read p = .ok bytes ∧ Text.Utf8.decode bytes = .ok text ∧
    Text.Lines.Unified text unified ∧ m = { name := p.stem, text := String.ofList unified }

theorem collect_eq_ok_iff (t : FileTree) (p : Path) (m : Assembly.Module) :
    collect t p = .ok m ↔ IsModuleOf t p m := by
  rw [collect, readText, readBytes, IsModuleOf]
  cases t.read p with
  | error e => exact iff_of_false nofun nofun
  | ok bytes =>
    change (do return { name := p.stem, text := ← (do
      return String.ofList (Text.Lines.unify
        (← (Text.Utf8.decode bytes).mapError Failure.undecodable)))} :
        Except Failure Assembly.Module) = _ ↔ _
    cases decoded : Text.Utf8.decode bytes with
    | error e =>
      refine iff_of_false nofun ?_
      rintro ⟨_, text, _, read, other, _⟩
      obtain rfl := Except.ok.inj read
      rw [decoded] at other
      cases other
    | ok text =>
      change Except.ok _ = _ ↔ _
      simp [decoded, Text.Lines.unified_iff, eq_comm]

namespace Assembler

/-! ## Parts of the command -/

theorem tell_apply (level : Level) (text : String) (s : Session) :
    tell level text s = .ok () { s with journal := s.journal.add level text } := rfl

/-- Telling lines changes no file. -/
theorem forM_tell (line : Assembly.Note → Level × String) (notes : List Assembly.Note)
    (s : Session) :
    ∃ s', (notes.forM fun note => tell (line note).1 (line note).2) s = .ok () s' ∧
      s'.tree = s.tree := by
  induction notes generalizing s with
  | nil => exact ⟨s, rfl, rfl⟩
  | cons note notes ih => exact ih { s with journal := s.journal.add (line note).1 (line note).2 }

theorem collectTelling_apply (p : Path) (s : Session) :
    ∃ s', s'.tree = s.tree ∧ collectTelling p s =
      match collect s.tree p with
      | .ok m => .ok m s'
      | .error f => .error (.failed f) s' := by
  refine ⟨{ s with journal := s.journal.add .debug s!"Collecting file {p.toText}" }, rfl, ?_⟩
  change attempt (collect s.tree p) _ = _
  cases collect s.tree p <;> rfl

/-- Sources are collected if each of them is a text, and no file changes. -/
theorem collectAll_outcome (sources : List Path) (s : Session) :
    match collectAll sources s with
    | .ok modules s' => s'.tree = s.tree ∧ List.Forall₂ (IsModuleOf s.tree) sources modules
    | .error stop s' => s'.tree = s.tree ∧ (∃ f, stop = .failed f) ∧
        ∀ modules, ¬ List.Forall₂ (IsModuleOf s.tree) sources modules := by
  induction sources generalizing s with
  | nil => exact ⟨rfl, .nil⟩
  | cons p sources ih =>
    obtain ⟨s₁, same, told⟩ := collectTelling_apply p s
    rw [collectAll, List.mapM_cons, bind_apply, told]
    cases collected : collect s.tree p with
    | error f =>
      refine ⟨same, ⟨f, rfl⟩, ?_⟩
      rintro _ (_ | ⟨first, _⟩)
      rw [(collect_eq_ok_iff s.tree p _).mpr first] at collected
      cases collected
    | ok m =>
      have first := (collect_eq_ok_iff s.tree p m).mp collected
      have rest := ih s₁
      rw [collectAll, same] at rest
      dsimp only
      rw [bind_apply]
      cases others : sources.mapM collectTelling s₁ with
      | ok modules s' =>
        rw [others] at rest
        exact ⟨rest.1, .cons first rest.2⟩
      | error stop s' =>
        rw [others] at rest
        refine ⟨rest.1, rest.2.1, ?_⟩
        rintro _ (_ | ⟨_, all⟩)
        exact rest.2.2 _ all

theorem assembleTelling_apply (modules : List Assembly.Module) (s : Session) :
    ∃ s', s'.tree = s.tree ∧ assembleTelling modules s =
      match Assembly.assemble modules with
      | .ok program => .ok program s'
      | .error .numberTooLong => .error (.failed .numberTooLong) s'
      | .error e => .error (.rejected e) s' := by
  rw [Assembly.assemble, assembleTelling]
  generalize Assembly.assembleNoting modules = noted
  obtain ⟨result, ⟨notes⟩⟩ := noted
  obtain ⟨s', told, same⟩ := forM_tell (fun note => (noteLevel note, note.message)) notes s
  refine ⟨s', same, ?_⟩
  dsimp only
  rw [bind_apply, List.forM_toArray' notes _ rfl, told]
  cases result with
  | ok program => rfl
  | error e => cases e <;> rfl

/-- What is told about modules that are assembled changes no file, and an error about the program is
    told as such. -/
theorem assembleTelling_outcome (modules : List Assembly.Module) (s : Session) :
    match assembleTelling modules s with
    | .ok program s' => s'.tree = s.tree ∧ Assembly.assemble modules = .ok program
    | .error stop s' => s'.tree = s.tree ∧ (∀ program, Assembly.assemble modules ≠ .ok program) ∧
        ∀ e, stop = .rejected e → Assembly.assemble modules = .error e ∧ e.isOwn := by
  obtain ⟨s', same, told⟩ := assembleTelling_apply modules s
  rw [told]
  cases assembled : Assembly.assemble modules with
  | ok program => exact ⟨same, rfl⟩
  | error e =>
    obtain own | rfl := Assembly.isOwn_of_assemble modules e assembled
    · cases e with
      | numberTooLong => cases own
      | _ =>
        refine ⟨same, nofun, ?_⟩
        rintro _ ⟨⟩
        exact ⟨rfl, own⟩
    · exact ⟨same, nofun, nofun⟩

/-! ## The whole command -/

/-- Whether the files at these paths are texts that are assembled to this program. -/
def Builds (t : FileTree) (sources : List Path) (program : List UInt8) : Prop :=
  ∃ modules, List.Forall₂ (IsModuleOf t) sources modules ∧
    Assembly.assemble modules = .ok program

/-- Whether the files at these paths are texts that are refused with this error. -/
def Refuses (t : FileTree) (sources : List Path) (e : Assembly.Error) : Prop :=
  ∃ modules, List.Forall₂ (IsModuleOf t) sources modules ∧
    Assembly.assemble modules = .error e

theorem isModuleOf_unique {t : FileTree} {p : Path} {m m' : Assembly.Module}
    (first : IsModuleOf t p m) (second : IsModuleOf t p m') : m = m' :=
  Except.ok.inj (((collect_eq_ok_iff t p m).mpr first).symm.trans
    ((collect_eq_ok_iff t p m').mpr second))

theorem modules_unique {t : FileTree} {sources : List Path}
    {modules modules' : List Assembly.Module}
    (first : List.Forall₂ (IsModuleOf t) sources modules)
    (second : List.Forall₂ (IsModuleOf t) sources modules') : modules = modules' := by
  induction first generalizing modules' with
  | nil => cases second; rfl
  | cons head _ ih =>
    cases second with
    | cons head' rest => rw [isModuleOf_unique head head', ih rest]

theorem builds_unique {t : FileTree} {sources : List Path} {program program' : List UInt8}
    (first : Builds t sources program) (second : Builds t sources program') :
    program = program' := by
  obtain ⟨modules, all, assembled⟩ := first
  obtain ⟨modules', all', assembled'⟩ := second
  obtain rfl := modules_unique all all'
  exact Except.ok.inj (assembled.symm.trans assembled')

/-- The command fails without a change of a file, or succeeds where it can. -/
theorem assembleFiles_outcome (sources : List Path) (binary : Path) (s : Session) :
    match assembleFiles sources binary s with
    | .ok () s' => ∃ program, Builds s.tree sources program ∧ s.tree.IsWritable binary ∧
        s'.tree.read binary = .ok program ∧
        ∀ place, s'.tree.file? place =
          if place = binary.place then some program else s.tree.file? place
    | .error stop s' => s'.tree.files = s.tree.files ∧
        (∀ program, Builds s.tree sources program → ¬ s.tree.IsWritable binary) ∧
        ∀ e, stop = .rejected e → Refuses s.tree sources e ∧ e.isOwn := by
  rw [assembleFiles, bind_apply, tell_apply]
  dsimp only
  rw [bind_apply]
  have collecting := collectAll_outcome sources
    { s with journal := s.journal.add .info "CHIP8 ASM" }
  cases collected : collectAll sources { s with journal := s.journal.add .info "CHIP8 ASM" } with
  | error stop s' =>
    rw [collected] at collecting
    obtain ⟨same, ⟨f, rfl⟩, none⟩ := collecting
    exact ⟨congrArg FileTree.files same, fun program ⟨modules, all, _⟩ => absurd all (none modules),
      nofun⟩
  | ok modules s₁ =>
    rw [collected] at collecting
    obtain ⟨same₁, all⟩ := collecting
    have assembling := assembleTelling_outcome modules s₁
    dsimp only
    rw [bind_apply]
    cases told : assembleTelling modules s₁ with
    | error stop s₂ =>
      rw [told] at assembling
      obtain ⟨same₂, none, rejected⟩ := assembling
      refine ⟨congrArg FileTree.files (same₂.trans same₁), ?_, fun e stopped => ?_⟩
      · rintro program ⟨modules', all', assembled⟩
        rw [modules_unique all' all] at assembled
        exact absurd assembled (none program)
      · obtain ⟨failed, own⟩ := rejected e stopped
        exact ⟨⟨modules, all, failed⟩, own⟩
    | ok program s₂ =>
      rw [told] at assembling
      obtain ⟨same₂, assembled⟩ := assembling
      have same : s₂.tree = s.tree := same₂.trans same₁
      have writing := s.tree.writeWithDirectories_outcome binary program
      dsimp only
      rw [bind_apply, change, same]
      cases written : FileTree.writeWithDirectories binary program s.tree with
      | error e t =>
        rw [written] at writing
        exact ⟨writing.2, fun _ _ => writing.1, nofun⟩
      | ok _ t =>
        rw [written] at writing
        obtain ⟨writable, reads, files⟩ := writing
        exact ⟨program, ⟨modules, all, assembled⟩, writable, reads, files⟩

/-- Words behind two dashes are taken as they are. -/
theorem foldlM_take_verbatim (a : Arguments) (free : a.pending = none) (verbatim : a.verbatim)
    (words : List String) :
    words.foldlM (Arguments.take specs) a =
      .ok { a with positional := a.positional ++ words } := by
  induction words generalizing a with
  | nil => simp; rfl
  | cons word words ih =>
    have taken : Arguments.take specs a word =
        .ok { a with positional := a.positional ++ [word] } := by
      simp [Arguments.take, free, verbatim]
    rw [List.foldlM_cons, taken]
    have rest := ih { a with positional := a.positional ++ [word] } free verbatim
    rwa [List.append_assoc, List.singleton_append] at rest

theorem read_of_verbatim (flags words : List String) (a : Arguments)
    (flagged : flags.foldlM (Arguments.take specs) {} = .ok a) (free : a.pending = none)
    (verbatim : a.verbatim) :
    Arguments.read specs (flags ++ words) = .ok { a with positional := a.positional ++ words } := by
  rw [Arguments.read, List.foldlM_append, flagged]
  change (List.foldlM _ a words >>= _) = _
  rw [foldlM_take_verbatim a free verbatim]
  change (if a.pending.isSome then _ else _) = _
  rw [free]
  rfl

/-- The command can be given any paths, with and without a wish for details. -/
theorem exists_words (verbose : Bool) (sources : List String) (binary : String) :
    ∃ words a, Arguments.read specs words = .ok a ∧ a.positional = sources ++ [binary] ∧
      a.has 'v' = verbose := by
  cases verbose with
  | false =>
    have flagged : ["--"].foldlM (Arguments.take specs) {} = .ok { verbatim := true } := by cbv
    exact ⟨_, _, read_of_verbatim _ (sources ++ [binary]) _ flagged rfl rfl, rfl, rfl⟩
  | true =>
    have flagged : ["-v", "--"].foldlM (Arguments.take specs) {} =
        .ok { options := [('v', "")], verbatim := true } := by cbv
    exact ⟨_, _, read_of_verbatim _ (sources ++ [binary]) _ flagged rfl rfl, rfl, rfl⟩

theorem run_of_read (t : FileTree) (words sources : List String) (binary : String)
    (a : Arguments) (read : Arguments.read specs words = .ok a)
    (positional : a.positional = sources ++ [binary]) :
    run t words = .ok (runOn t (a.has 'v') (sources.map .ofString) (.ofString binary)) := by
  have taken : Arguments.read specs words = pure a := read
  have reversed : a.positional.reverse = binary :: sources.reverse := by simp [positional]
  rw [run, taken, pure_bind, reversed]
  dsimp only
  rw [List.reverse_reverse]
  rfl

/-- The command writes all or nothing. It succeeds exactly if its sources are texts that are
    assembled to a program and the last path is one at which a file can be written. Then that file
    has the bytes of the program, whether or not it was a source, and no other file has changed.
    If it does not succeed, then no file has changed at all; and unless something else than the
    program was at fault, its last line tells what was wrong with that. -/
theorem run_all_or_nothing (t : FileTree) (words sources : List String) (binary : String)
    (a : Arguments) (read : Arguments.read specs words = .ok a)
    (positional : a.positional = sources ++ [binary]) :
    ∃ report, run t words = .ok report ∧
      (report.exitCode = 0 ↔
        ∃ program, Builds t (sources.map .ofString) program ∧ t.IsWritable (.ofString binary)) ∧
      (∀ program, Builds t (sources.map .ofString) program → t.IsWritable (.ofString binary) →
        report.failure = none ∧ report.tree.read (.ofString binary) = .ok program ∧
        ∀ place, place ≠ (Path.ofString binary).place → report.tree.file? place = t.file? place) ∧
      (report.exitCode ≠ 0 →
        report.exitCode = 1 ∧ (∀ place, report.tree.file? place = t.file? place) ∧
        (report.failure.isSome ∨ ∃ e, Refuses t (sources.map .ofString) e ∧ e.isOwn ∧
          report.lines.getLast? = some ⟨.error, s!"Compilation failed: {e.message}"⟩)) := by
  refine ⟨_, run_of_read t words sources binary a read positional, ?_⟩
  have outcome := assembleFiles_outcome (sources.map .ofString) (.ofString binary)
    ⟨⟨a.has 'v', #[]⟩, t⟩
  rw [runOn]
  cases done : assembleFiles (sources.map .ofString) (.ofString binary) ⟨⟨a.has 'v', #[]⟩, t⟩ with
  | ok _ s =>
    rw [done] at outcome
    obtain ⟨program, builds, writable, reads, files⟩ := outcome
    refine ⟨iff_of_true rfl ⟨program, builds, writable⟩, ?_, fun failed => absurd rfl failed⟩
    intro program' builds' _
    obtain rfl := builds_unique builds builds'
    exact ⟨rfl, reads, fun place other => (files place).trans (if_neg other)⟩
  | error stop s =>
    rw [done] at outcome
    obtain ⟨files, cannot, rejected⟩ := outcome
    have same (place : Place) : s.tree.file? place = t.file? place :=
      congrArg (List.lookup place) files
    have never : ¬ ∃ program, Builds t (sources.map .ofString) program ∧
        t.IsWritable (.ofString binary) := fun ⟨program, builds, writable⟩ =>
      cannot program builds writable
    cases stop with
    | failed f =>
      refine ⟨iff_of_false Nat.one_ne_zero never, ?_, fun _ => ⟨rfl, same, .inl rfl⟩⟩
      exact fun program builds writable => (never ⟨program, builds, writable⟩).elim
    | rejected e =>
      obtain ⟨refuses, own⟩ := rejected e rfl
      refine ⟨iff_of_false Nat.one_ne_zero never, ?_, fun _ => ⟨rfl, same, .inr ?_⟩⟩
      · exact fun program builds writable => (never ⟨program, builds, writable⟩).elim
      · exact ⟨e, refuses, own, by simp [report, Journal.add]⟩

/-- A source that is also where the program goes: it is replaced by its own program. In the source, a
    carriage return ends a comment. -/
theorem run_all_or_nothing_itself :
    ∃ report,
      run { files := [(⟨.above 0, ["a"]⟩, [67, 76, 83, 32, 47, 47, 13, 82, 69, 84])] }
          ["-v", "a", "a"] = .ok report ∧
        report.exitCode = 0 ∧
        report.tree.read (.ofString "a") = .ok [0x00, 0xE0, 0x00, 0xEE] := by
  have read : Arguments.read specs ["-v", "a", "a"] =
      .ok { options := [('v', "")], positional := ["a", "a"] } := by cbv
  obtain ⟨report, ran, succeeds, written, _⟩ := run_all_or_nothing
    { files := [(⟨.above 0, ["a"]⟩, [67, 76, 83, 32, 47, 47, 13, 82, 69, 84])] } ["-v", "a", "a"]
    ["a"] "a" _ read rfl
  have path : Path.ofString "a" = { parts := ["a"] } := by cbv
  have decoded : Text.Utf8.decode [67, 76, 83, 32, 47, 47, 13, 82, 69, 84] =
      .ok "CLS //\rRET".toList := by cbv
  have unified : Text.Lines.Unified "CLS //\rRET".toList "CLS //\nRET".toList :=
    Text.Lines.unified_iff.mpr (by cbv)
  have builds : Builds
      { files := [(⟨.above 0, ["a"]⟩, [67, 76, 83, 32, 47, 47, 13, 82, 69, 84])] } [.ofString "a"]
      [0x00, 0xE0, 0x00, 0xEE] := by
    refine ⟨[{ name := "a", text := "CLS //\nRET" }],
      .cons ⟨_, _, _, ?_, decoded, unified, ?_⟩ .nil, by cbv⟩
    all_goals rw [path]; cbv
  have writable : FileTree.IsWritable
      { files := [(⟨.above 0, ["a"]⟩, [67, 76, 83, 32, 47, 47, 13, 82, 69, 84])] }
      (.ofString "a") := by
    rw [path]
    refine ⟨⟨⟨by cbv, by cbv, by decide⟩, fun i bound => .inl ?_⟩, by decide, fun i bound => ?_⟩
    all_goals
      obtain rfl : i = 0 := by simpa using bound
      decide
  exact ⟨report, ran, succeeds.mpr ⟨_, builds, writable⟩, (written _ builds writable).2.1⟩

end Assembler

end ChipEight.Host
