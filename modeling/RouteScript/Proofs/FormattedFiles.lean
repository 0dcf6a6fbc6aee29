import RouteScript.Command.Run
import RouteScript.Proofs.ParsedScripts

/-!
# What a run does to the files

A run of the program leaves all files as they are, with one exception: formatting in place replaces
the content of the named file by its canonical form, and only if the run ends without an error
(`run_files`). Replacing a file makes no other file or directory appear, vanish or change
(`rewritten_write`). Nothing can fail between reading the file and replacing it: the path leads to the
same file again, and the writer accepts what was parsed.

Runs are those of the commands in `RouteScript.Command.Name`. What a shell asks for to complete a
command line is not among them.
-/

namespace RouteScript

open Text

namespace FileTree

variable {t t' : FileTree} {p : Place} {content : Text}

def fileAt (t : FileTree) (p : Place) : Option (Place × Text) := t.files.find? fun f => f.1 == p

theorem entry?_eq (t : FileTree) (p : Place) : t.entry? p = match t.fileAt p with
    | some f => some (.file f.2)
    | none => if p = [] ∨ p ∈ t.directories then some .directory else none := rfl

theorem fileAt_of_entry? {old : Text} (h : t.entry? p = some (.file old)) :
    ∃ f, t.fileAt p = some f := by
  rw [entry?_eq] at h
  cases hf : t.fileAt p with
  | some f => exact ⟨f, rfl⟩
  | none =>
    rw [hf] at h
    dsimp only at h
    split at h <;> simp at h

theorem fst_of_fileAt {f : Place × Text} (h : t.fileAt p = some f) : f.1 = p := by
  simpa using List.find?_some h

/-- Only the file at the place differs, and only in its content. -/
structure Rewritten (t t' : FileTree) (p : Place) (content : Text) : Prop where
  files : t'.files.map Prod.fst = t.files.map Prod.fst
  directories : t'.directories = t.directories
  home : t'.home = t.home
  entry : ∀ q, t'.entry? q = if q = p then some (.file content) else t.entry? q

theorem rewritten_setFile {old : Text} (h : t.entry? p = some (.file old)) (content : Text) :
    t.Rewritten (t.setFile p content) p content := by
  obtain ⟨f, hf⟩ := fileAt_of_entry? h
  have hany : (t.files.any fun f => f.1 == p) = true :=
    List.any_eq_true.2 ⟨f, List.mem_of_find?_eq_some hf, by simp [fst_of_fileAt hf]⟩
  let put (f : Place × Text) : Place × Text := if f.1 = p then (p, content) else f
  have hset : t.setFile p content = { t with files := t.files.map put } := by
    rw [setFile, if_pos hany]
  have hput : ∀ f, (put f).1 = f.1 := by
    intro f
    by_cases hp : f.1 = p <;> simp [put, hp]
  have hat : ∀ q, (t.setFile p content).fileAt q = (t.fileAt q).map put := by
    intro q
    rw [hset, fileAt, fileAt, List.find?_map]
    simp only [Function.comp_def, hput]
  refine ⟨?_, by rw [hset], by rw [hset], ?_⟩
  · simp [hset, Function.comp_def, hput]
  · intro q
    rw [entry?_eq, hat]
    by_cases hq : q = p
    · subst hq
      simp [hf, put, fst_of_fileAt hf]
    · rw [if_neg hq, entry?_eq, hset]
      cases hg : t.fileAt q with
      | none => rfl
      | some g =>
        have hne : g.1 ≠ p := fst_of_fileAt hg ▸ hq
        simp [put, hne]

/-- Where a path leads after the file at `p` got its new content. -/
def Target.after (p : Place) (content : Text) : Target → Target
  | .found q (.file old) => .found q (.file (if q = p then content else old))
  | target => target

theorem entry?_of_walk {names : List Text} {dir q : Place} {old : Text}
    (h : t.walk dir names = .ok (.found q (.file old))) : t.entry? q = some (.file old) := by
  induction names generalizing dir with
  | nil => simp [walk] at h
  | cons name rest ih =>
    rw [walk] at h
    split at h
    · exact ih h
    split at h
    · exact ih h
    split at h
    · simp at h
    split at h
    · exact ih h
    · next content he =>
      split at h
      · simp only [Except.ok.injEq, Target.found.injEq, Entry.file.injEq] at h
        rw [← h.1, he, h.2]
      · simp at h
    · split at h <;> simp at h

theorem Rewritten.walk {old : Text} (hp : t.entry? p = some (.file old))
    (h : t.Rewritten t' p content) (dir : Place) (names : List Text) :
    t'.walk dir names = (t.walk dir names).map (Target.after p content) := by
  induction names generalizing dir with
  | nil => rfl
  | cons name rest ih =>
    rw [FileTree.walk, FileTree.walk, h.entry, ih, ih, ih]
    split
    · rfl
    split
    · rfl
    split
    · rfl
    by_cases he : dir ++ [name] = p
    · rw [if_pos he, he, hp]
      dsimp only
      split
      · simp [Except.map, Target.after]
      · rfl
    · rw [if_neg he]
      rcases t.entry? (dir ++ [name]) with _ | ⟨old' | _⟩
      · dsimp only
        split <;> rfl
      · dsimp only
        split
        · simp [Except.map, Target.after, he]
        · rfl
      · rfl

theorem Rewritten.resolve {old : Text} (hp : t.entry? p = some (.file old))
    (h : t.Rewritten t' p content) (path : Text) :
    t'.resolve path = (t.resolve path).map (Target.after p content) := by
  rw [FileTree.resolve, FileTree.resolve, h.home, h.walk hp]
  split
  · rfl
  split
  · rfl
  split
  · rfl
  · rfl

theorem read_eq_ok_iff {path old : Text} :
    t.read path = .ok old ↔ ∃ q, t.resolve path = .ok (.found q (.file old)) := by
  unfold read
  rcases t.resolve path with f | ⟨q, old' | _⟩ | ⟨q, slashed⟩ <;> simp

theorem entry?_of_resolve {path old : Text} (h : t.resolve path = .ok (.found p (.file old))) :
    t.entry? p = some (.file old) := by
  unfold FileTree.resolve at h
  split at h
  · simp at h
  split at h
  · simp at h
  split at h
  · simp at h
  · exact entry?_of_walk h

/-- A file that can be read can be replaced, and is read with its new content then. -/
theorem rewritten_write {path old : Text} (h : t.resolve path = .ok (.found p (.file old)))
    (content : Text) : ∃ t', t.write path content = .ok t' ∧ t.Rewritten t' p content ∧
      t'.read path = .ok content := by
  have hp := entry?_of_resolve h
  have hr := rewritten_setFile hp content
  refine ⟨t.setFile p content, by rw [write, h], hr, ?_⟩
  rw [read_eq_ok_iff, hr.resolve hp, h]
  exact ⟨p, by simp [Except.map, Target.after]⟩

end FileTree

namespace Outcome

@[simp] theorem logged_tree (before : Text) (o : Outcome) : (o.logged before).tree = o.tree := rfl

@[simp] theorem logged_error (before : Text) (o : Outcome) : (o.logged before).error = o.error := rfl

end Outcome

namespace Work

variable {w : Work} {arguments : List Text}

@[simp] theorem fail_tree (e : CommandError) : (w.fail e).tree = w.invocation.tree := rfl

@[simp] theorem fail_error (e : CommandError) : (w.fail e).error = some e := rfl

@[simp] theorem print_tree (t : Text) (wrap : Text → Text) :
    (w.print t wrap).tree = w.invocation.tree := by
  unfold print
  split <;> rfl

/-- A command goes on with the script it reads, or fails and leaves the files alone. -/
theorem withScript_cases (w : Work) (arguments : List Text) (next : Script → Text → Outcome) :
    ((∀ content file script, w.source arguments = .ok (content, file) →
        Script.parse (w.config.parseOptions file) content ≠ .ok script) ∧
      (w.withScript arguments next).error ≠ none ∧
      (w.withScript arguments next).tree = w.invocation.tree) ∨
    ∃ content file script, w.source arguments = .ok (content, file) ∧
      Script.parse (w.config.parseOptions file) content = .ok script ∧
      (w.withScript arguments next).error = (next script file).error ∧
      (w.withScript arguments next).tree = (next script file).tree := by
  cases hs : w.source arguments with
  | error e =>
    refine .inl ⟨by simp, ?_⟩
    simp [withScript, hs]
  | ok found =>
    obtain ⟨content, file⟩ := found
    have hp : (Script.traceText (w.config.parseOptions file) content).2 =
      Script.parse (w.config.parseOptions file) content := rfl
    cases hr : Script.parse (w.config.parseOptions file) content with
    | error d =>
      refine .inl ⟨?_, ?_⟩
      · intro c f script h
        cases h
        simp [hr]
      · simp [withScript, hs, hp, hr]
    | ok script =>
      refine .inr ⟨content, file, script, rfl, hr, ?_⟩
      simp [withScript, hs, hp, hr]

theorem withScript_tree {next : Script → Text → Outcome}
    (h : ∀ script file, (next script file).tree = w.invocation.tree) :
    (w.withScript arguments next).tree = w.invocation.tree := by
  rcases withScript_cases w arguments next with ⟨-, -, ht⟩ | ⟨content, file, script, -, -, -, ht⟩
  · exact ht
  · rw [ht, h]

theorem runParse_tree : (w.runParse arguments).tree = w.invocation.tree := by
  apply withScript_tree
  intro script file
  generalize w.values.output.getD _ = form
  dsimp only
  split
  · apply print_tree
  split
  · apply print_tree
  · rfl

theorem runLint_tree : (w.runLint arguments).tree = w.invocation.tree := by
  apply withScript_tree
  intro script file
  rfl

theorem runWatch_tree (dir : Text) : (w.runWatch dir).tree = w.invocation.tree := by
  unfold runWatch
  split
  · rfl
  split <;> rfl

theorem runHelp_tree (topics : List Text) : (w.runHelp topics).tree = w.invocation.tree := by
  unfold runHelp
  split <;> rfl

theorem runFmt_tree (hw : w.values.write = false) :
    (w.runFmt arguments).tree = w.invocation.tree := by
  rw [runFmt, hw]
  apply withScript_tree
  intro script file
  simp only [Bool.false_eq_true, ↓reduceIte]
  split <;> rfl

theorem source_file {path : Text} (h : path ≠ [dash]) :
    w.source [path] = match w.invocation.tree.read path with
      | .ok content => .ok (content, path)
      | .error e => .error (.unreadFile e) := by
  unfold source
  split
  · next h' => simp at h'
  · next h' => simp_all
  · next h' => cases h'; rfl

structure Reads (w : Work) (path : Text) (place : Place) (old : Text) (script : Script) : Prop where
  named : path ≠ [dash]
  found : w.invocation.tree.resolve path = .ok (.found place (.file old))
  parsed : Script.parse (w.config.parseOptions path) old = .ok script

/-- Formatting in place replaces a file whose script is read by its canonical form. -/
theorem runFmt_of_reads (hw : w.values.write = true) {path old : Text} {place : Place}
    {script : Script} (h : w.Reads path place old script) :
    (w.runFmt [path]).error = none ∧ ∃ new, script.format w.config.format = .ok new ∧
      w.invocation.tree.Rewritten (w.runFmt [path]).tree place new ∧
      (w.runFmt [path]).tree.read path = .ok new := by
  have hsource : w.source [path] = .ok (old, path) := by
    rw [source_file h.named, FileTree.read_eq_ok_iff.2 ⟨place, h.found⟩]
  obtain ⟨tree, hwrite, hrew, hread⟩ := FileTree.rewritten_write h.found
    (Line.ended (script.writtenLines w.config.format))
  have hformat := Script.format_of_parse w.config.format h.parsed
  rw [runFmt, if_neg (by simp [h.named])]
  rcases withScript_cases w [path] _ with ⟨hno, -⟩ | ⟨content, file, script', hs, hp, he, ht⟩
  · exact absurd h.parsed (hno old path script hsource)
  · rw [hsource] at hs
    cases hs
    rw [h.parsed] at hp
    cases hp
    rw [he, ht]
    simp [hw, hformat, hwrite, hrew, hread]

/-- Formatting in place fails and leaves the files alone unless it is given one file and reads its
script. -/
theorem runFmt_of_error (hw : w.values.write = true) (hl : arguments.length ≤ 1)
    (h : ∀ path place old script, arguments = [path] → ¬ w.Reads path place old script) :
    (w.runFmt arguments).error ≠ none ∧ (w.runFmt arguments).tree = w.invocation.tree := by
  by_cases hd : arguments = [] ∨ arguments.head? = some [dash]
  · rw [runFmt, if_pos (by simpa [hw] using hd)]
    simp
  · obtain ⟨path, rfl⟩ : ∃ path, arguments = [path] := by
      match arguments, hl with
      | [], _ => simp at hd
      | [path], _ => exact ⟨path, rfl⟩
    have hne : path ≠ [dash] := by simpa using hd
    rw [runFmt, if_neg (by simp [hne])]
    rcases withScript_cases w [path] _ with ⟨-, he, ht⟩ | ⟨old, file, script, hs, hp, -⟩
    · exact ⟨he, ht⟩
    · rw [source_file hne] at hs
      cases hr : w.invocation.tree.read path with
      | error e => simp [hr] at hs
      | ok content =>
        obtain ⟨place, hplace⟩ := FileTree.read_eq_ok_iff.1 hr
        rw [hr] at hs
        cases hs
        exact absurd ⟨hne, hplace, hp⟩ (h path place old script rfl)

end Work

namespace Invocation

variable {i : Invocation} {c : Command} {v : FlagValues} {arguments : List Text}

theorem length_of_plan (h : i.plan = .ok (.run .fmt v arguments)) : arguments.length ≤ 1 := by
  unfold plan at h
  split at h
  · simp at h
  split at h
  · simp at h
  split at h
  · simp at h
  split at h
  · simp at h
  · next hcount =>
    simp only [Except.ok.injEq, Plan.run.injEq] at h
    obtain ⟨rfl, -, rfl⟩ := h
    simpa [countError?] using hcount

/-- What the commands work with under the given settings of the configuration file. -/
def workWith (i : Invocation) (v : FlagValues) (c : Config) : Work :=
  ⟨i, v, settings c v, v.debug || i.debugWanted⟩

theorem run_of_plan (h : i.plan = .ok (.run c v arguments)) :
    (∃ e, Config.load i.tree v.config = .error e ∧ i.run = i.fail (.config e)) ∨
    ∃ conf before, Config.load i.tree v.config = .ok conf ∧
      i.run = (runCommand (i.workWith v conf) arguments c).logged before := by
  rw [run, h]
  dsimp only
  rw [withSettings, work]
  cases hc : Config.load i.tree v.config with
  | error e => exact .inl ⟨e, rfl, rfl⟩
  | ok conf => exact .inr ⟨conf, _, rfl, rfl⟩

/-- Whatever does not format in place leaves the files alone. -/
theorem runCommand_tree (w : Work) (arguments : List Text)
    (h : c = .fmt → w.values.write = false) :
    (runCommand w arguments c).tree = w.invocation.tree := by
  cases c with
  | parse => exact w.runParse_tree
  | fmt => exact w.runFmt_tree (h rfl)
  | lint => exact w.runLint_tree
  | watch => exact w.runWatch_tree _
  | help => exact w.runHelp_tree _
  | root => rfl
  | completion => rfl

theorem run_tree (h : ∀ v arguments, i.plan = .ok (.run .fmt v arguments) → v.write = false) :
    i.run.tree = i.tree := by
  cases hp : i.plan with
  | error e => rw [run, hp]; rfl
  | ok plan =>
    cases plan with
    | help c => rw [run, hp]; rfl
    | run c v arguments =>
      rcases run_of_plan hp with ⟨e, -, hr⟩ | ⟨conf, before, -, hr⟩
      · rw [hr]
        rfl
      · rw [hr, Outcome.logged_tree]
        apply runCommand_tree
        rintro rfl
        exact h v arguments hp

/-- The file that `path` leads to holds `script`, read under the settings `conf` of the configuration
file with those of the flags added. -/
def ReadsFile (i : Invocation) (v : FlagValues) (path : Text) (place : Place) (conf : Config)
    (script : Script) : Prop :=
  path ≠ [dash] ∧ Config.load i.tree v.config = .ok conf ∧ ∃ old,
    i.tree.resolve path = .ok (.found place (.file old)) ∧
    Script.parse {
      file := path
      operators := conf.operators
      extraOperators := conf.extraOperators ++ v.operators
      allowTab := v.tabIndent.getD conf.tabIndent } old = .ok script

theorem ReadsFile.reads {path : Text} {place : Place} {conf : Config} {script : Script}
    (h : i.ReadsFile v path place conf script) :
    ∃ old, (i.workWith v conf).Reads path place old script := by
  obtain ⟨hne, -, old, hfound, hparse⟩ := h
  exact ⟨old, hne, hfound, hparse⟩

theorem run_of_readsFile {path : Text} {place : Place} {conf : Config} {script : Script}
    (hp : i.plan = .ok (.run .fmt v [path])) (hw : v.write = true)
    (h : i.ReadsFile v path place conf script) :
    i.run.error = none ∧ ∃ new, script.format conf.format = .ok new ∧
      i.tree.Rewritten i.run.tree place new ∧ i.run.tree.read path = .ok new := by
  obtain ⟨old, hreads⟩ := h.reads
  rcases run_of_plan hp with ⟨e, hload, -⟩ | ⟨conf', before, hload, hr⟩
  · rw [h.2.1] at hload
    cases hload
  · rw [h.2.1] at hload
    cases hload
    rw [hr]
    exact Work.runFmt_of_reads hw hreads

theorem run_of_not_readsFile (hp : i.plan = .ok (.run .fmt v arguments)) (hw : v.write = true)
    (h : ∀ path place conf script, arguments = [path] → ¬ i.ReadsFile v path place conf script) :
    i.run.error ≠ none ∧ i.run.tree = i.tree := by
  rcases run_of_plan hp with ⟨e, -, hr⟩ | ⟨conf, before, hload, hr⟩
  · rw [hr]
    exact ⟨by simp [fail], rfl⟩
  · rw [hr]
    apply Work.runFmt_of_error (w := i.workWith v conf) hw (length_of_plan hp)
    rintro path place old script harg ⟨hne, hfound, hparse⟩
    exact h path place conf script harg ⟨hne, hload, old, hfound, hparse⟩

end Invocation
end RouteScript
