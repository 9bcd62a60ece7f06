import DrawScript.Command.FileTree

set_option autoImplicit false

namespace DrawScript

theorem ok_of_bind {ε α β : Type} {first : Except ε α} {next : α → Except ε β} {result : β}
    (whole : first >>= next = .ok result) :
    ∃ value, first = .ok value ∧ next value = .ok result := by
  cases first with
  | error error => cases whole
  | ok value => exact ⟨value, rfl, whole⟩

namespace FileTree

variable {t u : FileTree} {names other : List String} {path text : String}

def text? (t : FileTree) (names : List String) : Option (Option String) :=
  match t.entry? names with
  | some (.file text) => some text
  | _ => none

theorem lookup_filter_ne (entries : List (List String × Entry)) (different : other ≠ names) :
    (entries.filter (·.1 ≠ names)).lookup other = entries.lookup other := by
  induction entries with
  | nil => rfl
  | cons head rest ih =>
    obtain ⟨key, entry⟩ := head
    by_cases dropped : key = names
    next =>
      have skipped : (other == key) = false := by simpa [dropped] using different
      rw [List.filter_cons_of_neg (by simpa using dropped), List.lookup_cons, skipped, ih]
    next =>
      rw [List.filter_cons_of_pos (by simpa using dropped), List.lookup_cons, List.lookup_cons, ih]

theorem entry?_put (t : FileTree) (entry : Entry) (someName : names ≠ []) (other : List String) :
    FileTree.entry? (t.put names entry) other =
      if other = names then some entry else t.entry? other := by
  by_cases same : other = names
  next => simp [put, entry?, same, someName]
  next =>
    have skipped : (other == names) = false := by simpa using same
    simp only [put, entry?, List.lookup_cons, skipped, lookup_filter_ne _ same, same, if_false]

theorem text?_put_file (t : FileTree) (text : Option String) (someName : names ≠ [])
    (other : List String) :
    (t.put names (.file text)).text? other =
      if other = names then some text else t.text? other := by
  simp only [text?, entry?_put t _ someName]
  by_cases same : other = names <;> simp [same]

def SameFiles (t u : FileTree) : Prop := ∀ names, u.text? names = t.text? names

theorem SameFiles.trans {v : FileTree} (first : t.SameFiles u) (second : u.SameFiles v) :
    t.SameFiles v :=
  fun names => (second names).trans (first names)

theorem makeDirectory_files (made : t.makeDirectory path = .ok u) : t.SameFiles u := by
  rw [makeDirectory] at made
  obtain ⟨around, -, made⟩ := ok_of_bind made
  split at made
  next => cases made
  next => cases made
  next => cases made
  next name _ _ =>
    split at made
    next => cases made
    next =>
      split at made
      next => cases made
      next absent =>
        -- The directory takes a place where there was nothing.
        cases made
        intro names
        have someName : around ++ [name] ≠ [] := by simp
        simp only [text?, entry?_put t _ someName]
        by_cases same : names = around ++ [name]
        next => simp [same, absent]
        next => simp [same]

theorem ensureDirectory_files (made : t.ensureDirectory path = .ok u) : t.SameFiles u := by
  rw [ensureDirectory] at made
  split at made
  next =>
    split at made
    next =>
      cases made
      exact fun _ => rfl
    next => cases made
  next => exact makeDirectory_files made

theorem makeDirectoriesWithin_files {bound : List String}
    (made : t.makeDirectoriesWithin bound path = .ok u) : t.SameFiles u := by
  induction bound generalizing path u with
  | nil =>
    cases made
    exact fun _ => rfl
  | cons _ bound ih =>
    rw [makeDirectoriesWithin] at made
    split at made
    next =>
      cases made
      exact fun _ => rfl
    next =>
      split at made
      next =>
        split at made
        next => cases made
        next =>
          obtain ⟨around, inner, made⟩ := ok_of_bind made
          exact (ih inner).trans (ensureDirectory_files made)
      next => exact ensureDirectory_files made

theorem makeDirectories_files (made : t.makeDirectories path = .ok u) : t.SameFiles u :=
  makeDirectoriesWithin_files made

structure IsName (file : String) : Prop where
  noSlash : '/' ∉ file.toList
  counts : Path.counts file
  noParent : file ≠ ".."

theorem segments_join (directory : String) :
    ∃ parts, ∀ file, IsName file → Path.segments (Path.join directory file) = parts ++ [file] := by
  have cut (around : List Char) {file : String} (isName : IsName file) :
      ((around ++ '/' :: file.toList).splitOn '/').map String.ofList =
        (around.splitOn '/').map String.ofList ++ [file] := by
    simp [List.splitOn_append_cons_self, List.splitOn_eq_singleton isName.noSlash]
  by_cases empty : directory = ""
  next =>
    refine ⟨[], fun file isName => ?_⟩
    simp [Path.segments, Path.join, empty, List.splitOn_eq_singleton isName.noSlash]
  next =>
    by_cases slash : directory.endsWith "/"
    next =>
      have ends : "/".toList <:+ directory.toList := by
        simpa using String.Slice.endsWith_string_iff.mp slash
      obtain ⟨around, whole⟩ := ends
      refine ⟨(around.splitOn '/').map String.ofList, fun file isName => ?_⟩
      simp only [Path.segments, Path.join, slash, Bool.or_true, if_true, String.toList_append,
        ← whole]
      simpa using cut around isName
    next =>
      refine ⟨(directory.toList.splitOn '/').map String.ofList, fun file isName => ?_⟩
      simp only [Path.segments, Path.join, empty, slash]
      simpa using cut directory.toList isName

theorem walk_name {file : String} (isName : IsName file) {around : List String}
    (reached : t.walk around [file] = .ok names) : names = around ++ [file] := by
  simp only [walk, isName.noParent, isName.counts, if_false, if_true] at reached
  split at reached
  next => cases reached
  next => cases reached
  next => exact (Except.ok.inj reached).symm

theorem walk_append (t : FileTree) (start parts others : List String) :
    t.walk start (parts ++ others) = t.walk start parts >>= fun names => t.walk names others := by
  induction parts generalizing start with
  | nil => rfl
  | cons segment parts ih =>
    simp only [List.cons_append, walk]
    split
    next => rfl
    next => rfl
    next =>
      split
      next => exact ih _
      next =>
        split
        next => exact ih _
        next => exact ih _

/-- A way through directories does not go through what is none, so that may change. -/
theorem walk_put {start parts around : List String} (found : t.walk start parts = .ok around)
    (someName : names ≠ []) (noDirectory : t.entry? names ≠ some .directory) (entry : Entry) :
    (t.put names entry).walk start parts = .ok around := by
  induction parts generalizing start with
  | nil => exact found
  | cons segment parts ih =>
    simp only [walk] at found ⊢
    split at found
    next => cases found
    next => cases found
    next here =>
      have different : start ≠ names := by
        rintro rfl
        exact noDirectory here
      have kept := entry?_put t entry someName start
      rw [if_neg different, here] at kept
      rw [kept]
      split at found
      next up =>
        rw [if_pos up]
        exact ih found
      next stay =>
        rw [if_neg stay]
        split at found
        next counted =>
          rw [if_pos counted]
          exact ih found
        next uncounted =>
          rw [if_neg uncounted]
          exact ih found

theorem resolve_beside {directory file beside : String} (isName : IsName file)
    (besideIsName : IsName beside) (found : t.resolve (Path.join directory file) = .ok names) :
    ∃ around, names = around ++ [file] ∧
      t.resolve (Path.join directory beside) = .ok (around ++ [beside]) := by
  obtain ⟨parts, cut⟩ := segments_join directory
  rw [resolve, cut file isName, walk_append] at found
  obtain ⟨around, way, last⟩ := ok_of_bind found
  have whole := walk_name isName last
  subst whole
  refine ⟨around, rfl, ?_⟩
  rw [resolve, cut beside besideIsName, walk_append, way]
  have inside : t.entry? around = some .directory := by
    simp only [walk] at last
    split at last
    next => cases last
    next => cases last
    next inside => exact inside
  simp only [walk, inside, besideIsName.noParent, besideIsName.counts, if_false, if_true, bind,
    Except.bind]

theorem write_eq_ok_iff :
    t.write path text = .ok u ↔
      ∃ names, t.resolve path = .ok names ∧ t.entry? names ≠ some .directory ∧
        u = t.put names (.file (some text)) := by
  rw [write]
  constructor
  next =>
    intro written
    obtain ⟨names, found, written⟩ := ok_of_bind written
    split at written
    next => cases written
    next noDirectory => exact ⟨names, found, noDirectory, (Except.ok.inj written).symm⟩
  next =>
    rintro ⟨names, found, noDirectory, rfl⟩
    simp only [found, bind, Except.bind]

theorem ne_nil_of_notDirectory (noDirectory : t.entry? names ≠ some .directory) : names ≠ [] := by
  rintro rfl
  exact noDirectory rfl

theorem write_beside {directory file beside : String} (isName : IsName file)
    (besideIsName : IsName beside) (different : beside ≠ file)
    (written : t.write (Path.join directory file) text = .ok u) (other : String) :
    (∃ error, u.write (Path.join directory beside) other = .error error) ↔
      t.isDirectory (Path.join directory beside) := by
  obtain ⟨names, found, noDirectory, rfl⟩ := write_eq_ok_iff.mp written
  have someName := ne_nil_of_notDirectory noDirectory
  obtain ⟨around, rfl, besideFound⟩ := resolve_beside isName besideIsName found
  have stillFound : (t.put (around ++ [file]) (.file (some text))).resolve
      (Path.join directory beside) = .ok (around ++ [beside]) :=
    walk_put besideFound someName noDirectory _
  have apart : around ++ [beside] ≠ around ++ [file] := by simpa using different
  simp only [isDirectory, besideFound, write, stillFound, bind, Except.bind,
    entry?_put t _ someName, if_neg apart]
  cases t.entry? (around ++ [beside]) with
  | none => simp
  | some entry => cases entry <;> simp

end FileTree

end DrawScript
