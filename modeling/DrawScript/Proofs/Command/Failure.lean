import DrawScript.Command.Run
import DrawScript.Proofs.Command.FileTree

set_option autoImplicit false

namespace DrawScript.Command

section

variable {α β : Type} {t : FileTree}

def Ends (session : Session (StateM FileTree) α) (t : FileTree)
    (post : Except CompileError α → FileTree → Prop) : Prop :=
  ∀ output, post ((session.run.run output).run t).1.1 ((session.run.run output).run t).2

theorem Ends.bind {session : Session (StateM FileTree) α} {next : α → Session (StateM FileTree) β}
    {post : Except CompileError β → FileTree → Prop}
    (first : Ends session t fun
      | .ok value, u => Ends (next value) u post
      | .error error, u => post (.error error) u) :
    Ends (session >>= next) t post := by
  intro output
  have ended := first output
  have opened : ((session >>= next).run.run output).run t =
      match (session.run.run output).run t with
      | ((result, printed), u) => ((ExceptT.bindCont next result).run printed).run u := rfl
  rw [opened]
  generalize (session.run.run output).run t = ran at ended ⊢
  obtain ⟨⟨result, printed⟩, u⟩ := ran
  cases result with
  | ok value => exact ended printed
  | error error => exact ended

def Gives (session : Session (StateM FileTree) α) (t : FileTree) (result : Except CompileError α) :
    Prop :=
  Ends session t fun ended u => ended = result ∧ u = t

theorem ofResult_gives (result : Except CompileError α) : Gives (ofResult result) t result :=
  fun _ => ⟨rfl, rfl⟩

theorem read_gives (path : String) :
    Gives (onFiles (Files.ofTree.read path)) t ((t.read path).mapError .file) :=
  fun _ => ⟨rfl, rfl⟩

theorem Gives.bind {γ : Type} {session : Session (StateM FileTree) α}
    {next : α → Session (StateM FileTree) β} {result : Except CompileError α}
    {more : α → Except CompileError γ}
    {post : Except CompileError γ → Except CompileError β → FileTree → Prop}
    (gives : Gives session t result) (stops : ∀ error, post (.error error) (.error error) t)
    (goes : ∀ value, Ends (next value) t (post (more value))) :
    Ends (session >>= next) t (post (result >>= more)) := by
  apply Ends.bind
  intro output
  obtain ⟨ended, unchanged⟩ := gives output
  rw [ended, unchanged]
  cases result with
  | ok value => exact goes value
  | error error => exact stops error

theorem Ends.say {line : String} {next : Unit → Session (StateM FileTree) β}
    {post : Except CompileError β → FileTree → Prop} (goes : Ends (next ()) t post) :
    Ends (Command.say line >>= next) t post :=
  fun output => goes (output ++ line ++ "\n")

theorem Ends.showing {shown : Bool} {first second : String}
    {next : Unit → Session (StateM FileTree) β} {post : Except CompileError β → FileTree → Prop}
    (goes : Ends (next ()) t post) :
    Ends (if shown then Command.say first >>= fun _ => Command.say second >>= next else next ()) t
      post := by
  cases shown with
  | true => exact Ends.say (Ends.say goes)
  | false => exact goes

theorem Ends.change {attempt : FileTree → Except FileError FileTree}
    {next : Unit → Session (StateM FileTree) β} {post : Except CompileError β → FileTree → Prop}
    (failed : ∀ error, attempt t = .error error → post (.error (.file error)) t)
    (changed : ∀ u, attempt t = .ok u → Ends (next ()) u post) :
    Ends (onFiles (FileTree.change attempt) >>= next) t post := by
  apply Ends.bind
  intro output
  have opened : ((onFiles (FileTree.change attempt)).run.run output).run t =
      match FileTree.change attempt t with
      | (ended, u) => ((ended.mapError CompileError.file, output), u) := rfl
  rw [opened, FileTree.change]
  cases tried : attempt t with
  | ok u => exact changed u tried
  | error error => exact failed error tried

end

def templateText (t : FileTree) : Option String → Except CompileError String
  | some path => (t.read path).mapError .file
  | none => .ok Template.bundled

def texts (options : CompileOptions) (t : FileTree) : Except CompileError (String × String) := do
  let target ← Target.named options.target
  let script ← (t.read options.input).mapError .file
  let program ← checkScript script
  let code ← generateFor target options.surface program
  let template ← templateText t options.template
  let body ← spliceInto template code
  return (body, Template.headerFile code.header)

def bodyPath (options : CompileOptions) : String :=
  Path.join (outputDirectory options) bodyFile

def headerPath (options : CompileOptions) : String :=
  Path.join (outputDirectory options) headerFile

/-- How the delivery of two texts ends, and the files that it leaves. -/
inductive Delivers (options : CompileOptions) (t : FileTree) :
    Except CompileError (String × String) → Except CompileError Unit → FileTree → Prop where
  | refused (error : CompileError) : Delivers options t (.error error) (.error error) t
  | noDirectory {body header : String} {error : FileError}
      (failed : t.makeDirectories (outputDirectory options) = .error error) :
      Delivers options t (.ok (body, header)) (.error (.file error)) t
  | noBody {body header : String} {made : FileTree} {error : FileError}
      (isMade : t.makeDirectories (outputDirectory options) = .ok made)
      (failed : made.write (bodyPath options) body = .error error) :
      Delivers options t (.ok (body, header)) (.error (.file error)) made
  | noHeader {body header : String} {made u : FileTree} {error : FileError}
      (isMade : t.makeDirectories (outputDirectory options) = .ok made)
      (written : made.write (bodyPath options) body = .ok u)
      (failed : u.write (headerPath options) header = .error error) :
      Delivers options t (.ok (body, header)) (.error (.file error)) u
  | done {body header : String} {made u v : FileTree}
      (isMade : t.makeDirectories (outputDirectory options) = .ok made)
      (written : made.write (bodyPath options) body = .ok u)
      (completed : u.write (headerPath options) header = .ok v) :
      Delivers options t (.ok (body, header)) (.ok ()) v

theorem readTemplate_gives (t : FileTree) (template : Option String) :
    Gives (readTemplate Files.ofTree template) t (templateText t template) := by
  cases template with
  | none => exact fun _ => ⟨rfl, rfl⟩
  | some path => exact read_gives path

theorem runCompile_ends (options : CompileOptions) (t : FileTree) :
    Ends (runCompile Files.ofTree options) t (Delivers options t (texts options t)) := by
  apply Ends.say
  refine Gives.bind (ofResult_gives _) .refused fun target => ?_
  refine Gives.bind (read_gives _) .refused fun script => ?_
  refine Gives.bind (ofResult_gives _) .refused fun program => ?_
  apply Ends.showing
  refine Gives.bind (ofResult_gives _) .refused fun code => ?_
  refine Gives.bind (readTemplate_gives t _) .refused fun template => ?_
  refine Gives.bind (ofResult_gives _) .refused fun body => ?_
  refine Ends.change (fun _ => .noDirectory) fun made isMade => ?_
  refine Ends.change (fun _ => .noBody isMade) fun u written => ?_
  refine Ends.change (fun _ => .noHeader isMade written) fun v completed => ?_
  apply Ends.say
  apply Ends.say
  apply Ends.say
  exact fun _ => .done isMade written completed

theorem run_compile_delivers (options : CompileOptions) (t : FileTree) :
    ∃ result, Delivers options t (texts options t) result
        ((run Files.ofTree (.compile options)).run t).2 ∧
      (((run Files.ofTree (.compile options)).run t).1.exitCode = 1 ↔
        ∃ error, result = .error error) := by
  have ended := runCompile_ends options t ""
  simp only [run, perform, StateT.run_bind]
  generalize ((runCompile Files.ofTree options).run.run "").run t = ran at ended ⊢
  obtain ⟨⟨result, output⟩, u⟩ := ran
  cases result with
  | ok value =>
    refine ⟨.ok value, ended, fun exit => ?_, by rintro ⟨_, ⟨⟩⟩⟩
    exact absurd exit (show (0 : UInt32) ≠ 1 by decide)
  | error error => exact ⟨.error error, ended, fun _ => ⟨error, rfl⟩, fun _ => rfl⟩

theorem bodyFile_isName : FileTree.IsName bodyFile := ⟨by decide, by decide, by decide⟩

theorem headerFile_isName : FileTree.IsName headerFile := ⟨by decide, by decide, by decide⟩

/-- Nothing is wrong and the body can be written, but the header's place is a directory's. -/
def HeaderTaken (options : CompileOptions) (t : FileTree) (names : List String) (body : String) :
    Prop :=
  ∃ header made, texts options t = .ok (body, header) ∧
    t.makeDirectories (outputDirectory options) = .ok made ∧
    made.resolve (bodyPath options) = .ok names ∧ made.entry? names ≠ some .directory ∧
    made.isDirectory (headerPath options)

theorem Delivers.sameFiles {options : CompileOptions} {before after : FileTree}
    {error : CompileError} (delivers : Delivers options before (texts options before)
      (.error error) after)
    (untaken : ∀ names body, ¬HeaderTaken options before names body) :
    before.SameFiles after := by
  generalize ready : texts options before = outcome at delivers
  cases delivers with
  | refused => exact fun _ => rfl
  | noDirectory => exact fun _ => rfl
  | noBody isMade => exact FileTree.makeDirectories_files isMade
  | @noHeader body header made _ _ isMade written failed =>
    have taken := (FileTree.write_beside bodyFile_isName headerFile_isName (by decide) written
      header).mp ⟨_, failed⟩
    obtain ⟨names, found, noDirectory, -⟩ := FileTree.write_eq_ok_iff.mp written
    exact (untaken names body ⟨header, made, ready, isMade, found, noDirectory, taken⟩).elim

theorem Delivers.of_taken {options : CompileOptions} {before after : FileTree}
    {result : Except CompileError Unit} {names : List String} {body : String}
    (delivers : Delivers options before (texts options before) result after)
    (taken : HeaderTaken options before names body) :
    (∃ error, result = .error error) ∧ ∀ other, after.text? other =
      if other = names then some (some body) else before.text? other := by
  obtain ⟨header, made, ready, isMade, found, noDirectory, isTaken⟩ := taken
  have written : made.write (bodyPath options) body = .ok (made.put names (.file (some body))) :=
    FileTree.write_eq_ok_iff.mpr ⟨names, found, noDirectory, rfl⟩
  obtain ⟨error, failed⟩ := (FileTree.write_beside bodyFile_isName headerFile_isName (by decide)
    written header).mpr isTaken
  -- Every other way to end contradicts one of these.
  rw [ready] at delivers
  cases delivers with
  | noDirectory unmade => cases isMade.symm.trans unmade
  | noBody remade unwritten =>
    cases isMade.symm.trans remade
    cases written.symm.trans unwritten
  | noHeader remade rewritten =>
    cases isMade.symm.trans remade
    cases written.symm.trans rewritten
    refine ⟨⟨_, rfl⟩, fun other => ?_⟩
    rw [FileTree.text?_put_file made _ (FileTree.ne_nil_of_notDirectory noDirectory),
      FileTree.makeDirectories_files isMade other]
  | done remade rewritten completed =>
    cases isMade.symm.trans remade
    cases written.symm.trans rewritten
    cases failed.symm.trans completed

theorem compile_failed_files (options : CompileOptions) (before : FileTree) :
    let (transcript, after) := (run Files.ofTree (.compile options)).run before
    (transcript.exitCode = 1 → (∀ names body, ¬HeaderTaken options before names body) →
      before.SameFiles after) ∧
    ∀ names body, HeaderTaken options before names body →
      transcript.exitCode = 1 ∧
      ∀ other, after.text? other =
        if other = names then some (some body) else before.text? other := by
  obtain ⟨result, delivers, failed⟩ := run_compile_delivers options before
  generalize (run Files.ofTree (.compile options)).run before = ran at delivers failed ⊢
  obtain ⟨transcript, after⟩ := ran
  refine ⟨fun exit untaken => ?_, fun names body taken => ?_⟩
  next =>
    obtain ⟨error, rfl⟩ := failed.mp exit
    exact delivers.sameFiles untaken
  next =>
    obtain ⟨isError, changed⟩ := delivers.of_taken taken
    exact ⟨failed.mpr isError, changed⟩

def blocked (name : String) : FileTree :=
  FileTree.withFile (FileTree.withFile (FileTree.withFile {} "a.dpp" (some ""))
    "short.c" (some "// INSERT VARIABLES\n// INSERT DRAWINGS\n")) (name ++ "/x") (some "y")

def shortTemplate : CompileOptions := { input := "a.dpp", template := some "short.c" }

theorem compile_failed_files_blocked :
    ((run Files.ofTree (.compile shortTemplate)).run (blocked "main.c")).1.exitCode = 1 ∧
    (blocked "main.c").SameFiles
      ((run Files.ofTree (.compile shortTemplate)).run (blocked "main.c")).2 ∧
    HeaderTaken shortTemplate (blocked "globals.h") ["main.c"]
      "// INSERT VARIABLES\n// INSERT DRAWINGS\n" ∧
    ∀ other,
      ((run Files.ofTree (.compile shortTemplate)).run (blocked "globals.h")).2.text? other =
        if other = ["main.c"] then some (some "// INSERT VARIABLES\n// INSERT DRAWINGS\n")
        else (blocked "globals.h").text? other := by
  have directory : outputDirectory shortTemplate = "" := by decide +kernel
  have body : bodyPath shortTemplate = "main.c" := by decide +kernel
  have header : headerPath shortTemplate = "globals.h" := by decide +kernel
  have exit : ((run Files.ofTree (.compile shortTemplate)).run (blocked "main.c")).1.exitCode = 1 :=
    by decide +kernel
  have untaken (names : List String) (text : String) :
      ¬HeaderTaken shortTemplate (blocked "main.c") names text := by
    rintro ⟨_, made, -, isMade, found, noDirectory, -⟩
    rw [directory] at isMade
    cases isMade
    rw [body] at found
    cases found
    exact noDirectory rfl
  have taken : HeaderTaken shortTemplate (blocked "globals.h") ["main.c"]
      "// INSERT VARIABLES\n// INSERT DRAWINGS\n" := by
    refine ⟨_, blocked "globals.h", rfl, ?_⟩
    rw [directory, body, header]
    exact ⟨rfl, rfl, by decide +kernel, by decide +kernel⟩
  exact ⟨exit, (compile_failed_files shortTemplate (blocked "main.c")).1 exit untaken, taken,
    ((compile_failed_files shortTemplate (blocked "globals.h")).2 _ _ taken).2⟩

theorem compile_failed_body :
    ((run Files.ofTree (.compile shortTemplate)).run (blocked "globals.h")).1.exitCode = 1 ∧
      (blocked "globals.h").text? ["main.c"] = none ∧
      ((run Files.ofTree (.compile shortTemplate)).run (blocked "globals.h")).2.text? ["main.c"] =
        some (some "// INSERT VARIABLES\n// INSERT DRAWINGS\n") := by
  decide +kernel

end DrawScript.Command
