import DrawScript.Template.Splice

set_option autoImplicit false

namespace DrawScript.Template

/-- From this offset on, the bytes of the whole are those of the text. -/
def StandsAt (text whole : String) (offset : Nat) : Prop :=
  whole.toByteArray.extract offset (offset + text.utf8ByteSize) = text.toByteArray

def Contains (text whole : String) : Prop := ∃ offset, StandsAt text whole offset

structure FirstFrom (text whole : String) (start offset : Nat) : Prop where
  behind : start ≤ offset
  stands : StandsAt text whole offset
  least : ∀ other, start ≤ other → StandsAt text whole other → offset ≤ other

/-- Right behind the first newline that follows the first occurrence of the marker. -/
def InsertsAt (marker : Marker) (whole : String) (offset : Nat) : Prop :=
  ∃ start stop, FirstFrom marker.text whole 0 start ∧
    FirstFrom "\n" whole (start + marker.text.utf8ByteSize) stop ∧ offset = stop + 1

def Completes (whole template : String) : Prop :=
  ((∃ lines, template = lines ++ "\n") ∧ whole = template) ∨
    ((¬∃ lines, template = lines ++ "\n") ∧ whole = template ++ "\n")

/-- Two texts stand at their offsets in the whole, the first one first where these are the same. -/
inductive Inserted (whole first second : String) : (upper lower : Nat) → (result : String) → Prop
  | inOrder {a b c : String} (split : whole = a ++ b ++ c) :
      Inserted whole first second a.utf8ByteSize (a ++ b).utf8ByteSize
        (a ++ first ++ b ++ second ++ c)
  | crossed {a b c : String} (split : whole = a ++ b ++ c) (apart : b ≠ "") :
      Inserted whole first second (a ++ b).utf8ByteSize a.utf8ByteSize
        (a ++ second ++ b ++ first ++ c)

theorem toByteArray_of_append {front back whole : String} (split : whole = front ++ back) :
    whole.toByteArray.extract 0 front.utf8ByteSize = front.toByteArray := by
  rw [split, String.toByteArray_append]
  exact ByteArray.extract_append_eq_left front.size_toByteArray.symm

theorem standsAt_iff {text whole : String} (present : text ≠ "") {offset : Nat} :
    StandsAt text whole offset ↔
      ∃ before after, whole = before ++ text ++ after ∧ before.utf8ByteSize = offset := by
  constructor
  next =>
    intro stands
    have bytes := congrArg ByteArray.size stands
    have positive : text.utf8ByteSize ≠ 0 := mt String.utf8ByteSize_eq_zero_iff.mp present
    rw [ByteArray.size_extract, String.size_toByteArray, String.size_toByteArray] at bytes
    -- Between the two offsets the bytes are valid, so both are ends of characters.
    have valid := text.isValidUTF8
    rw [← stands] at valid
    obtain same | ⟨starts, stops⟩ := (String.Pos.Raw.isValidUTF8_extract_iff (s := whole) ⟨offset⟩
      ⟨offset + text.utf8ByteSize⟩ (Nat.le_add_right _ _)
      (by change offset + text.utf8ByteSize ≤ whole.utf8ByteSize; omega)).mp valid
    next => exact absurd (String.Pos.Raw.mk.inj same) (by omega)
    next =>
      obtain ⟨before, rest, split, start⟩ := String.Pos.Raw.isValid_iff_exists_append.mp starts
      obtain ⟨through, after, cut, stop⟩ := String.Pos.Raw.isValid_iff_exists_append.mp stops
      have start : offset = before.utf8ByteSize := String.Pos.Raw.mk.inj start
      have stop : offset + text.utf8ByteSize = through.utf8ByteSize := String.Pos.Raw.mk.inj stop
      have joined : through = before ++ text := by
        rw [← String.toByteArray_inj, String.toByteArray_append, ← toByteArray_of_append cut,
          ← toByteArray_of_append split, ← stop, ← start, ← stands]
        exact ByteArray.extract_eq_extract_append_extract offset (Nat.zero_le _)
          (Nat.le_add_right _ _)
      exact ⟨before, after, by rw [cut, joined], start.symm⟩
  next =>
    rintro ⟨before, after, rfl, rfl⟩
    rw [StandsAt, String.append_assoc, String.toByteArray_append, String.toByteArray_append]
    have behind := ByteArray.extract_append_size_add (a := before.toByteArray)
      (b := text.toByteArray ++ after.toByteArray) (i := 0) (j := text.utf8ByteSize)
    rw [String.size_toByteArray, Nat.add_zero] at behind
    rw [behind]
    exact ByteArray.extract_append_eq_left text.size_toByteArray.symm

theorem append_of_utf8ByteSize_le {front back other rest : String}
    (same : front ++ back = other ++ rest) (shorter : front.utf8ByteSize ≤ other.utf8ByteSize) :
    ∃ more, other = front ++ more ∧ back = more ++ rest := by
  have characters := congrArg String.toList same
  simp only [String.toList_append] at characters
  rcases List.append_eq_append_iff.mp characters with ⟨more, longer, left⟩ | ⟨more, longer, left⟩
  next =>
    refine ⟨String.ofList more, String.toList_inj.mp ?_, String.toList_inj.mp ?_⟩
    next => simp [longer]
    next => simp [left]
  next =>
    have longer : front = other ++ String.ofList more := String.toList_inj.mp (by simp [longer])
    have left : rest = String.ofList more ++ back := String.toList_inj.mp (by simp [left])
    rw [longer, String.utf8ByteSize_append] at shorter
    have nothing : String.ofList more = "" := String.utf8ByteSize_eq_zero_iff.mp (by omega)
    rw [nothing] at longer left
    exact ⟨"", by simp [longer], by simp [left]⟩

theorem contains_iff {text whole : String} (present : text ≠ "") :
    Contains text whole ↔ ∃ before after, whole = before ++ text ++ after := by
  simp only [Contains, standsAt_iff present]
  constructor
  next =>
    rintro ⟨_, before, after, split, -⟩
    exact ⟨before, after, split⟩
  next =>
    rintro ⟨before, after, split⟩
    exact ⟨_, before, after, split, rfl⟩

theorem find?_isSome {text before after : List Char} :
    (find? text (before ++ text ++ after)).isSome := by
  induction before with
  | nil =>
    cases text with
    | nil => cases after <;> simp [find?]
    | cons c text => simp [find?]
  | cons c before ih =>
    simp only [List.cons_append, find?]
    split
    next => rfl
    next => simpa using ih

theorem exists_of_find? {text whole : List Char} {n : Nat} (found : find? text whole = some n) :
    ∃ before after, whole = before ++ text ++ after ∧ before.length = n ∧
      ∀ earlier later, whole = earlier ++ text ++ later → n ≤ earlier.length := by
  induction whole generalizing n with
  | nil =>
    by_cases empty : text = []
    next =>
      simp only [find?, empty, if_true, Option.some.injEq] at found
      exact ⟨[], [], by simp [empty], found, fun _ _ _ => by omega⟩
    next => simp [find?, empty] at found
  | cons c whole ih =>
    by_cases here : text.isPrefixOf (c :: whole)
    next =>
      simp only [find?, here, if_true, Option.some.injEq] at found
      obtain ⟨after, split⟩ := List.isPrefixOf_iff_prefix.mp here
      exact ⟨[], after, split.symm, found, fun _ _ _ => by omega⟩
    next =>
      simp only [find?, here, Bool.false_eq_true, if_false, Option.map_eq_some_iff] at found
      obtain ⟨m, later, rfl⟩ := found
      obtain ⟨before, after, rfl, rfl, first⟩ := ih later
      refine ⟨c :: before, after, rfl, rfl, ?_⟩
      intro earlier rest split
      cases earlier with
      | nil => exact absurd (List.isPrefixOf_iff_prefix.mpr ⟨rest, split.symm⟩) here
      | cons d earlier =>
        have shorter := first earlier rest (List.cons.inj split).2
        simpa using shorter

theorem lineLength_append {line : List Char} (oneLine : '\n' ∉ line) (rest : List Char) :
    lineLength (line ++ '\n' :: rest) = line.length + 1 := by
  induction line with
  | nil => rfl
  | cons c line ih =>
    simp only [List.mem_cons, not_or] at oneLine
    simp [lineLength, Ne.symm oneLine.1, ih oneLine.2]

theorem Marker.text_ne_empty (marker : Marker) : marker.text ≠ "" := by
  cases marker <;> decide

theorem Marker.newline_notMem_text (marker : Marker) : '\n' ∉ marker.text.toList := by
  cases marker <;> decide

theorem getLast?_behind {before text after : List Char} (present : text ≠ [])
    (oneLine : '\n' ∉ text) (ends : (before ++ text ++ after).getLast? = some '\n') :
    after.getLast? = some '\n' := by
  rw [List.getLast?_append, List.getLast?_append, List.getLast?_eq_some_getLast present,
    Option.some_or] at ends
  cases last : after.getLast? with
  | some c => rwa [last, Option.some_or] at ends
  | none =>
    rw [last, Option.none_or, Option.some.injEq] at ends
    exact absurd (ends ▸ List.getLast_mem present) oneLine

theorem exists_of_lineAfter? {marker : Marker} {whole : String} {n : Nat}
    (ends : whole.toList.getLast? = some '\n')
    (found : lineAfter? marker.text.toList whole.toList = some n) :
    ∃ before line rest : String, whole = before ++ marker.text ++ line ++ "\n" ++ rest ∧
      '\n' ∉ line.toList ∧ (before ++ marker.text ++ line ++ "\n").length = n ∧
      ∀ earlier later : String, whole = earlier ++ marker.text ++ later →
        before.length ≤ earlier.length := by
  have present : marker.text.toList ≠ [] := by simpa using marker.text_ne_empty
  obtain ⟨start, occurs, rfl⟩ := Option.map_eq_some_iff.mp found
  obtain ⟨before, after, split, rfl, first⟩ := exists_of_find? occurs
  have last := getLast?_behind present marker.newline_notMem_text (split ▸ ends)
  obtain ⟨line, rest, rfl, oneLine⟩ := List.eq_append_cons_of_mem (List.mem_of_getLast? last)
  refine ⟨String.ofList before, String.ofList line, String.ofList rest,
    String.toList_inj.mp (by simp [split]), by simpa using oneLine, ?_, ?_⟩
  next =>
    have behind : whole.toList.drop before.length =
        (marker.text.toList ++ line) ++ '\n' :: rest := by simp [split]
    have noNewline : '\n' ∉ marker.text.toList ++ line := by
      simp [marker.newline_notMem_text, oneLine]
    have one : "\n".toList.length = 1 := by decide
    rw [behind, lineLength_append noNewline, ← String.length_toList]
    simp only [String.toList_append, String.toList_ofList, List.length_append, one]
    omega
  next =>
    intro earlier later other
    have shorter := first earlier.toList later.toList (by simp [other])
    simpa [String.length_toList] using shorter

theorem utf8ByteSize_le_of_length_le {front back other rest : String}
    (same : front ++ back = other ++ rest) (shorter : front.length ≤ other.length) :
    front.utf8ByteSize ≤ other.utf8ByteSize := by
  rcases Nat.le_total front.utf8ByteSize other.utf8ByteSize with fewer | more
  next => exact fewer
  next =>
    obtain ⟨between, rfl, -⟩ := append_of_utf8ByteSize_le same.symm more
    rw [String.length_append] at shorter
    have nothing : between = "" := String.length_eq_zero_iff.mp (by omega)
    simp [nothing]

theorem firstFrom_marker {marker : Marker} {whole before after : String}
    (split : whole = before ++ marker.text ++ after)
    (first : ∀ earlier later : String, whole = earlier ++ marker.text ++ later →
      before.length ≤ earlier.length) :
    FirstFrom marker.text whole 0 before.utf8ByteSize where
  behind := Nat.zero_le _
  stands := (standsAt_iff marker.text_ne_empty).mpr ⟨before, after, split, rfl⟩
  least := by
    intro other _ stands
    obtain ⟨earlier, later, cut, rfl⟩ := (standsAt_iff marker.text_ne_empty).mp stands
    have shorter := first earlier later cut
    rw [String.append_assoc] at split cut
    exact utf8ByteSize_le_of_length_le (split.symm.trans cut) shorter

theorem firstFrom_newline {whole front line rest : String}
    (split : whole = front ++ line ++ "\n" ++ rest) (oneLine : '\n' ∉ line.toList) :
    FirstFrom "\n" whole front.utf8ByteSize (front ++ line).utf8ByteSize where
  behind := by simp
  stands := (standsAt_iff (by decide)).mpr ⟨front ++ line, rest, split, rfl⟩
  least := by
    intro other behind stands
    obtain ⟨earlier, later, cut, rfl⟩ := (standsAt_iff (by decide)).mp stands
    rcases Nat.lt_or_ge earlier.utf8ByteSize (front ++ line).utf8ByteSize with less | enough
    next =>
      -- A newline before this one would be a newline in the line.
      have same : earlier ++ ("\n" ++ later) = front ++ line ++ ("\n" ++ rest) := by
        rw [← String.append_assoc, ← String.append_assoc, ← cut, split]
      obtain ⟨more, longer, left⟩ := append_of_utf8ByteSize_le same (Nat.le_of_lt less)
      obtain ⟨middle, -, rfl⟩ := append_of_utf8ByteSize_le longer behind
      cases characters : more.toList with
      | nil =>
        rw [longer, String.toList_eq_nil_iff.mp characters, String.append_empty] at less
        omega
      | cons c others =>
        have begins := congrArg String.toList left
        simp only [String.toList_append, characters] at begins
        have newline : '\n' = c := (List.cons.inj begins).1
        exact absurd (by simp [characters, ← newline]) oneLine
    next => exact enough

theorem exists_completes (template : String) :
    ∃ whole, Completes whole template ∧ withFinalNewline template.toList = whole.toList ∧
      whole.toList.getLast? = some '\n' := by
  have ends : (∃ lines, template = lines ++ "\n") ↔ template.toList.getLast? = some '\n' := by
    constructor
    next =>
      rintro ⟨lines, rfl⟩
      simp
    next =>
      intro last
      obtain ⟨lines, split⟩ := List.getLast?_eq_some_iff.mp last
      exact ⟨String.ofList lines, String.toList_inj.mp (by simp [split])⟩
  by_cases last : template.toList.getLast? = some '\n'
  next =>
    refine ⟨template, .inl ⟨ends.mpr last, rfl⟩, ?_, last⟩
    rw [withFinalNewline, if_pos last]
  next =>
    refine ⟨template ++ "\n", .inr ⟨mt ends.mp last, rfl⟩, ?_, by simp⟩
    rw [withFinalNewline, if_neg last]
    simp

theorem Completes.contains_iff {whole template : String} (completes : Completes whole template)
    (marker : Marker) : Contains marker.text whole ↔ Contains marker.text template := by
  rw [Template.contains_iff marker.text_ne_empty, Template.contains_iff marker.text_ne_empty]
  rcases completes with ⟨-, rfl⟩ | ⟨-, rfl⟩
  next => rfl
  next =>
    constructor
    next =>
      rintro ⟨before, after, split⟩
      have characters := congrArg String.toList split
      simp only [String.toList_append] at characters
      have present : marker.text.toList ≠ [] := by simpa using marker.text_ne_empty
      have last := getLast?_behind present marker.newline_notMem_text
        (characters ▸ List.getLast?_concat)
      obtain ⟨shorter, cut⟩ := List.getLast?_eq_some_iff.mp last
      rw [cut, ← List.append_assoc] at characters
      refine ⟨before, String.ofList shorter, String.toList_inj.mp ?_⟩
      simpa using List.append_cancel_right characters
    next =>
      rintro ⟨before, after, rfl⟩
      exact ⟨before, after ++ "\n", by simp [String.append_assoc]⟩

theorem place_cases (marker : Marker) {whole : String} (ends : whole.toList.getLast? = some '\n') :
    (¬Contains marker.text whole ∧ place whole.toList marker = .error ⟨marker⟩) ∨
    (Contains marker.text whole ∧ ∃ front back, whole = front ++ back ∧
      place whole.toList marker = .ok front.length ∧
      InsertsAt marker whole front.utf8ByteSize) := by
  rw [contains_iff marker.text_ne_empty]
  cases found : lineAfter? marker.text.toList whole.toList with
  | none =>
    refine .inl ⟨?_, by rw [place, found]⟩
    rintro ⟨before, after, rfl⟩
    have present := @find?_isSome marker.text.toList before.toList after.toList
    rw [← String.toList_append, ← String.toList_append,
      Option.map_eq_none_iff.mp found] at present
    cases present
  | some n =>
    obtain ⟨before, line, rest, split, oneLine, rfl, first⟩ := exists_of_lineAfter? ends found
    have occurs : whole = before ++ marker.text ++ (line ++ "\n" ++ rest) := by
      simp [split, String.append_assoc]
    refine .inr ⟨⟨before, _, occurs⟩, _, rest, split, by rw [place, found], _, _,
      firstFrom_marker occurs first, ?_, String.utf8ByteSize_append⟩
    rw [← String.utf8ByteSize_append]
    exact firstFrom_newline split oneLine

theorem insertBoth_append (a b c first second : String) :
    String.ofList (insertBoth (a ++ b ++ c).toList a.length first.toList (a ++ b).length
      second.toList) = a ++ first ++ b ++ second ++ c := by
  apply String.toList_inj.mp
  simp [insertBoth, ← List.drop_drop, ← String.length_toList]

theorem inserted_of_split {whole front back other rest : String} (split : whole = front ++ back)
    (cut : whole = other ++ rest) (first second : String) :
    Inserted whole first second front.utf8ByteSize other.utf8ByteSize
      (String.ofList (if front.length ≤ other.length then
        insertBoth whole.toList front.length first.toList other.length second.toList
      else insertBoth whole.toList other.length second.toList front.length first.toList)) := by
  have same : front ++ back = other ++ rest := split.symm.trans cut
  rcases Nat.lt_or_ge other.utf8ByteSize front.utf8ByteSize with behind | before
  next =>
    obtain ⟨between, rfl, -⟩ := append_of_utf8ByteSize_le same.symm (Nat.le_of_lt behind)
    have apart : between ≠ "" := by
      rintro rfl
      simp at behind
    have longer : ¬(other ++ between).length ≤ other.length := by
      simpa [Nat.pos_iff_ne_zero] using apart
    rw [if_neg longer, split, insertBoth_append]
    exact .crossed rfl apart
  next =>
    obtain ⟨between, rfl, -⟩ := append_of_utf8ByteSize_le same before
    have shorter : front.length ≤ (front ++ between).length := by simp
    rw [if_pos shorter, cut, insertBoth_append]
    exact .inOrder rfl

theorem isValid_of_stands {marker : Marker} {whole : String} {offset : Nat}
    (stands : StandsAt marker.text whole offset) : String.Pos.Raw.IsValid whole ⟨offset⟩ := by
  obtain ⟨before, after, split, rfl⟩ := (standsAt_iff marker.text_ne_empty).mp stands
  exact String.Pos.Raw.isValid_iff_exists_append.mpr
    ⟨before, marker.text ++ after, by rw [split, String.append_assoc], rfl⟩

theorem InsertsAt.isValid {marker : Marker} {whole : String} {offset : Nat}
    (inserts : InsertsAt marker whole offset) : String.Pos.Raw.IsValid whole ⟨offset⟩ := by
  obtain ⟨start, stop, -, line, rfl⟩ := inserts
  obtain ⟨before, after, split, rfl⟩ := (standsAt_iff (by decide)).mp line.stands
  refine String.Pos.Raw.isValid_iff_exists_append.mpr ⟨before ++ "\n", after, split, ?_⟩
  rw [String.rawEndPos, String.utf8ByteSize_append]
  rfl

theorem splice_inserts (template : String) (code : GeneratedCode) :
    (¬Contains Marker.declarations.text template ∧
      splice template code = .error ⟨.declarations⟩) ∨
    (Contains Marker.declarations.text template ∧ ¬Contains Marker.operations.text template ∧
      splice template code = .error ⟨.operations⟩) ∨
    (Contains Marker.declarations.text template ∧ Contains Marker.operations.text template ∧
      ∃ whole upper lower result, Completes whole template ∧
        InsertsAt .declarations whole upper ∧ InsertsAt .operations whole lower ∧
        (∀ marker offset, StandsAt marker.text whole offset ∨ InsertsAt marker whole offset →
          String.Pos.Raw.IsValid whole ⟨offset⟩) ∧
        Inserted whole code.declarations code.operations upper lower result ∧
        splice template code = .ok result) := by
  obtain ⟨whole, completes, text, ends⟩ := exists_completes template
  simp only [← completes.contains_iff Marker.declarations,
    ← completes.contains_iff Marker.operations, splice, text]
  rcases place_cases .declarations ends with ⟨missing, place⟩ | ⟨present, found⟩
  next => exact .inl ⟨missing, by rw [place]; rfl⟩
  next =>
    obtain ⟨front, back, split, place, inserts⟩ := found
    rcases place_cases .operations ends with ⟨missing, placeLower⟩ | ⟨presentLower, foundLower⟩
    next => exact .inr (.inl ⟨present, missing, by rw [place, placeLower]; rfl⟩)
    next =>
      obtain ⟨other, rest, cut, placeLower, insertsLower⟩ := foundLower
      refine .inr (.inr ⟨present, presentLower, whole, _, _, _, completes, inserts, insertsLower,
        ?_, inserted_of_split split cut _ _, by rw [place, placeLower]; rfl⟩)
      rintro marker offset (stands | point)
      next => exact isValid_of_stands stands
      next => exact point.isValid

-- Both markers stand on the last line, which has no newline, and the inserted text holds a marker.
example : splice "é // INSERT DRAWINGS // INSERT VARIABLES" ⟨"// INSERT DRAWINGS\n", "o", ""⟩ =
    .ok "é // INSERT DRAWINGS // INSERT VARIABLES\n// INSERT DRAWINGS\no" := rfl

end DrawScript.Template
