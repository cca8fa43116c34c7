import ResourceRoutes.Input.Path
import ResourceRoutes.Proofs.Text.Pieces
set_option autoImplicit false

/- On one line the extension of a file name and the ending that is taken off the text of its path are the same. -/
namespace ResourceRoutes.Input

theorem file_name_of_pieces (path last : List Char) (earlier : List (List Char))
    (cut : Text.pieces '/' path = earlier ++ [last]) (present : last ≠ []) (no_stay : last ≠ ['.']) :
    fileName? path = if last = ['.', '.'] then none else some last := by
  have ends : ((Text.pieces '/' path).filter fun piece => piece ≠ [] ∧ piece ≠ ['.']).getLast? = some last := by
    rw [cut, List.filter_append]
    simp [present, no_stay]
  rw [fileName?, ends]
  split
  · rename_i up
    cases up
    rfl
  · rename_i no_up
    rw [if_neg fun up => no_up (congrArg some up)]

theorem file_name_cases (path name : List Char) (named : fileName? path = some name) :
    '/' ∉ name ∧ name ≠ [] ∧ name ≠ ['.'] := by
  have last : ((Text.pieces '/' path).filter fun piece => piece ≠ [] ∧ piece ≠ ['.']).getLast? = some name := by
    unfold fileName? at named
    split at named
    · cases named
    · exact named
  obtain ⟨listed, kept⟩ := List.mem_filter.mp (List.mem_of_getLast? last)
  exact ⟨Text.separator_not_in_pieces '/' path name listed, of_decide_eq_true kept⟩

theorem file_name_replaced (dir name other : List Char) (named : fileName? (dir ++ name) = some name)
    (solid : '/' ∉ other) (present : other ≠ []) (no_stay : other ≠ ['.']) (no_up : other ≠ ['.', '.']) :
    fileName? (dir ++ other) = some other := by
  obtain ⟨name_solid, name_present, name_no_stay⟩ := file_name_cases _ _ named
  obtain ⟨earlier, last, alone, whole⟩ := Text.pieces_append '/' dir name name_solid
  have last_present : last ++ name ≠ [] := fun empty => name_present (List.append_eq_nil_iff.mp empty).2
  have last_no_stay : last ++ name ≠ ['.'] := by
    intro stay
    obtain ⟨-, same⟩ | ⟨-, empty⟩ := List.append_eq_singleton_iff.mp stay
    · exact name_no_stay same
    · exact name_present empty
  have closed : last = [] := by
    rw [file_name_of_pieces _ _ _ whole last_present last_no_stay] at named
    split at named
    · cases named
    · exact List.append_left_eq_self.mp (Option.some.inj named)
  obtain ⟨others, rest, same_dir, renamed⟩ := Text.pieces_append '/' dir other solid
  obtain ⟨-, same_rest⟩ := List.append_inj' (same_dir.symm.trans alone) rfl
  rw [List.singleton_inj.mp same_rest, closed, List.nil_append] at renamed
  rw [file_name_of_pieces _ _ _ renamed present no_stay, if_neg no_up]

theorem split_last_dot_none_iff (cs : List Char) : splitLastDot? cs = none ↔ '.' ∉ cs := by
  induction cs with
  | nil => exact iff_of_true rfl List.not_mem_nil
  | cons c rest ih =>
    rw [splitLastDot?, List.mem_cons, not_or, ← ih]
    cases splitLastDot? rest with
    | some parts => simp
    | none => simp [eq_comm]

theorem split_last_dot_behind (before after : List Char) (absent : '.' ∉ after) :
    splitLastDot? (before ++ '.' :: after) = some (before, after) := by
  induction before with
  | nil => rw [List.nil_append, splitLastDot?, (split_last_dot_none_iff after).mpr absent, if_pos rfl]
  | cons c rest ih => rw [List.cons_append, splitLastDot?, ih]

theorem split_last_dot_splits (cs before after : List Char) (split : splitLastDot? cs = some (before, after)) :
    cs = before ++ '.' :: after ∧ '.' ∉ after := by
  induction cs generalizing before with
  | nil => cases split
  | cons c rest ih =>
    rw [splitLastDot?] at split
    cases found : splitLastDot? rest with
    | some parts =>
      rw [found] at split
      cases split
      obtain ⟨same, absent⟩ := ih parts.1 found
      exact ⟨congrArg (c :: ·) same, absent⟩
    | none =>
      simp only [found] at split
      by_cases dot : c = '.'
      · rw [if_pos dot] at split
        cases split
        exact ⟨congrArg (· :: after) dot, (split_last_dot_none_iff after).mp found⟩
      · rw [if_neg dot] at split
        cases split

theorem last_dot_unique (before after front back : List Char) (absent : '.' ∉ after) (absent_back : '.' ∉ back)
    (same : before ++ '.' :: after = front ++ '.' :: back) : after = back := by
  have parts := split_last_dot_behind before after absent
  rw [same, split_last_dot_behind front back absent_back] at parts
  exact (Prod.mk.inj (Option.some.inj parts)).2.symm

theorem split_extension_parts (name extension : List Char) (ended : (splitExtension name).2 = some extension) :
    name = (splitExtension name).1 ++ '.' :: extension ∧ '.' ∉ extension ∧ (splitExtension name).1 ≠ [] := by
  unfold splitExtension at ended ⊢
  cases found : splitLastDot? name with
  | none => simp [found] at ended
  | some parts =>
    obtain ⟨before, after⟩ := parts
    obtain ⟨same, absent⟩ := split_last_dot_splits name before after found
    cases before with
    | nil => simp [found] at ended
    | cons c rest =>
      simp only [found, Option.some.injEq] at ended ⊢
      exact ⟨ended ▸ same, ended ▸ absent, List.cons_ne_nil c rest⟩

theorem ending_dotted (ending : List Char) (replaced : ending ∈ replacedEndings) :
    ∃ extension, ending = '.' :: extension ∧ '.' ∉ extension := by
  have dotted : ∀ ending ∈ replacedEndings, ending.head? = some '.' ∧ '.' ∉ ending.tail := by decide
  obtain ⟨lead, absent⟩ := dotted ending replaced
  obtain ⟨extension, rfl⟩ := List.head?_eq_some_iff.mp lead
  exact ⟨extension, rfl, absent⟩

theorem extension_replaced_iff (extension : List Char) :
    (Kind.ofExtension? extension).isSome ↔ '.' :: extension ∈ replacedEndings := by
  have of_text (text : String) : String.ofList extension = text ↔ extension = text.toList :=
    ⟨fun same => same ▸ String.toList_ofList.symm, fun same => same ▸ String.ofList_toList⟩
  have listed : '.' :: extension ∈ replacedEndings ↔ String.ofList extension ∈ ["rs", "json", "yaml", "yml"] := by
    simp [replacedEndings, of_text]
  rw [listed, Kind.ofExtension?]
  split
  all_goals simp_all

theorem without_ending_replaced (front extension : List Char) (replaced : '.' :: extension ∈ replacedEndings)
    (line : '\n' ∉ front ++ '.' :: extension) : withoutEnding (front ++ '.' :: extension) = front := by
  have found : replacedEndings.find? (·.isSuffixOf (front ++ '.' :: extension)) = some ('.' :: extension) := by
    cases found : replacedEndings.find? (·.isSuffixOf (front ++ '.' :: extension)) with
    | none =>
      have missed := List.find?_eq_none.mp found _ replaced
      exact absurd (List.isSuffixOf_iff_suffix.mpr (List.suffix_append front _)) missed
    | some ending =>
      obtain ⟨other, rfl, absent_other⟩ := ending_dotted ending (List.mem_of_find?_eq_some found)
      obtain ⟨own, same, absent⟩ := ending_dotted _ replaced
      have ends := List.find?_some found
      obtain ⟨before, whole⟩ := List.isSuffixOf_iff_suffix.mp ends
      cases same
      rw [last_dot_unique before other front extension absent_other absent whole]
  rw [withoutEnding, if_neg (fun broken => line (List.contains_iff_mem.mp broken)), found]
  simp

theorem without_ending_broken (path : List Char) (broken : '\n' ∈ path) : withoutEnding path = path :=
  if_pos (List.contains_iff_mem.mpr broken)

theorem accepted_extension (path : String) (accepted : (Kind.ofPath? path).isSome) :
    ∃ extension, extension? path.toList = some extension ∧ '.' :: extension ∈ replacedEndings := by
  obtain ⟨kind, found⟩ := Option.isSome_iff_exists.mp accepted
  obtain ⟨extension, extended, known⟩ := Option.bind_eq_some_iff.mp found
  exact ⟨extension, extended, (extension_replaced_iff extension).mp (Option.isSome_of_eq_some known)⟩

theorem accepted_parts (path : String) (name : List Char) (accepted : (Kind.ofPath? path).isSome)
    (named : fileName? path.toList = some name) :
    ∃ stem extension, stem? path.toList = some stem ∧ extension? path.toList = some extension ∧
      name = stem ++ '.' :: extension ∧ '.' ∉ extension ∧ '.' :: extension ∈ replacedEndings := by
  obtain ⟨extension, extended, replaced⟩ := accepted_extension path accepted
  have split : (splitExtension name).2 = some extension := by
    rw [extension?, named] at extended
    exact extended
  obtain ⟨parts, absent, -⟩ := split_extension_parts name extension split
  have stemmed : stem? path.toList = some (splitExtension name).1 := by rw [stem?, named]; rfl
  exact ⟨_, extension, stemmed, extended, parts, absent, replaced⟩

def reportName (stem : List Char) (format : DocumentFormat) : List Char :=
  stem ++ "_resources.".toList ++ format.name.toList

theorem report_name_behind (dir stem : List Char) (format : DocumentFormat) :
    reportName (dir ++ stem) format = dir ++ reportName stem format := by
  simp [reportName]

theorem report_name_not_extended (stem extension : List Char) (format : DocumentFormat) :
    reportName stem format ≠ stem ++ '.' :: extension := by
  intro same
  rw [reportName, List.append_assoc] at same
  cases List.append_cancel_left same

theorem report_name_of_file (dir name stem : List Char) (format : DocumentFormat) (solid : '/' ∉ stem)
    (named : fileName? (dir ++ name) = some name) :
    fileName? (dir ++ reportName stem format) = some (reportName stem format) := by
  have format_solid : '/' ∉ "_resources.".toList ++ format.name.toList := by cases format <;> decide
  have format_long : 2 < ("_resources.".toList ++ format.name.toList).length := by cases format <;> decide
  have long : 2 < (reportName stem format).length := by
    rw [reportName, List.append_assoc, List.length_append]
    omega
  refine file_name_replaced dir name _ named ?_ ?_ ?_ ?_
  · rw [reportName, List.append_assoc, List.mem_append, not_or]
    exact ⟨solid, format_solid⟩
  all_goals
    intro short
    rw [short] at long
    revert long
    decide

theorem default_output_text (path : String) (format : DocumentFormat) :
    (defaultOutput path format).toList = reportName (withoutEnding path.toList) format := by
  simp [defaultOutput, reportName]

theorem default_output_line (path : String) (format : DocumentFormat) (front extension : List Char)
    (whole : path.toList = front ++ '.' :: extension) (replaced : '.' :: extension ∈ replacedEndings)
    (line : '\n' ∉ path.toList) : (defaultOutput path format).toList = reportName front format := by
  rw [default_output_text, whole, without_ending_replaced front extension replaced (whole ▸ line)]

theorem default_output_broken (path : String) (format : DocumentFormat) (broken : '\n' ∈ path.toList) :
    (defaultOutput path format).toList = reportName path.toList format := by
  rw [default_output_text, without_ending_broken _ broken]

theorem default_output_beside_iff (path : String) (format : DocumentFormat) (dir name : List Char)
    (accepted : (Kind.ofPath? path).isSome) (named : fileName? path.toList = some name)
    (ends : path.toList = dir ++ name) :
    ∃ stem extension, stem? path.toList = some stem ∧ extension? path.toList = some extension ∧
      name = stem ++ '.' :: extension ∧ '.' ∉ extension ∧
      ((defaultOutput path format).toList = dir ++ reportName stem format ↔ '\n' ∉ path.toList) ∧
      ('\n' ∉ path.toList → fileName? (defaultOutput path format).toList = some (reportName stem format)) ∧
      ('\n' ∈ path.toList → defaultOutput path format = path ++ "_resources." ++ format.name) ∧
      defaultOutput path format ≠ path := by
  obtain ⟨stem, extension, stemmed, extended, parts, absent, replaced⟩ := accepted_parts path name accepted named
  have whole : path.toList = (dir ++ stem) ++ '.' :: extension := by rw [ends, parts, List.append_assoc]
  have beside := default_output_line path format (dir ++ stem) extension whole replaced
  have behind := default_output_broken path format
  refine ⟨stem, extension, stemmed, extended, parts, absent, ⟨?_, ?_⟩, ?_, ?_, ?_⟩
  · intro same broken
    -- The ending is still there, so the text is longer.
    have longer := congrArg List.length ((behind broken).symm.trans same)
    rw [← report_name_behind, whole, reportName, reportName] at longer
    simp only [List.length_append, List.length_cons] at longer
    omega
  · intro line
    rw [beside line, report_name_behind]
  · intro line
    rw [ends] at named
    have solid : '/' ∉ stem := fun found => (file_name_cases _ _ named).1 (parts ▸ List.mem_append_left _ found)
    rw [beside line, report_name_behind]
    exact report_name_of_file dir name stem format solid named
  · intro broken
    rw [← String.toList_inj, behind broken]
    simp [reportName]
  · intro same
    by_cases broken : '\n' ∈ path.toList
    · have longer := congrArg List.length (behind broken)
      rw [same, reportName] at longer
      simp at longer
    · have texts := beside broken
      rw [same, whole] at texts
      exact report_name_not_extended (dir ++ stem) extension format texts.symm

theorem dotted_path_output :
    (Kind.ofPath? "my.rs.d/.todos.v1.yml").isSome ∧
      fileName? "my.rs.d/.todos.v1.yml".toList = some ".todos.v1.yml".toList ∧
      (defaultOutput "my.rs.d/.todos.v1.yml" .json).toList = "my.rs.d/".toList ++ reportName ".todos.v1".toList .json ∧
      defaultOutput "my.rs.d/.todos.v1.yml" .json ≠ "my.rs.d/.todos.v1.yml" := by
  have known : (Kind.ofPath? "my.rs.d/.todos.v1.yml").isSome := by decide
  have named : fileName? "my.rs.d/.todos.v1.yml".toList = some ".todos.v1.yml".toList := by decide
  obtain ⟨stem, extension, stemmed, -, -, -, beside, -, -, other⟩ :=
    default_output_beside_iff "my.rs.d/.todos.v1.yml" .json "my.rs.d/".toList ".todos.v1.yml".toList known named (by decide)
  have same : some ".todos.v1".toList = some stem := Eq.trans (by decide) stemmed
  cases same
  exact ⟨known, named, beside.mpr (by decide), other⟩

theorem broken_path_keeps_ending :
    Kind.ofPath? "a\nb.rs" = some .source ∧ fileName? "a\nb.rs".toList = some "a\nb.rs".toList ∧
      stem? "a\nb.rs".toList = some "a\nb".toList ∧ defaultOutput "a\nb.rs" .json = "a\nb.rs_resources.json" ∧
      (defaultOutput "a\nb.rs" .json).toList ≠ reportName "a\nb".toList .json := by decide

end ResourceRoutes.Input
