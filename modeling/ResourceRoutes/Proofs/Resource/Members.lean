import Mathlib.Data.List.Sort
import ResourceRoutes.Resource
set_option autoImplicit false

namespace ResourceRoutes

theorem lookup_entry (name query : String) (callable : Callable) (entries : List (String × Callable)) :
    ((name, callable) :: entries).lookup query = if query = name then some callable else entries.lookup query := by
  by_cases own : query = name
  · simp [own]
  · simp [List.lookup_cons, beq_eq_false_iff_ne.mpr own, own]

theorem lookup_insertMember (name query : String) (callable : Callable) (entries : List (String × Callable)) :
    (insertMember name callable entries).lookup query =
      if query = name then some callable else entries.lookup query := by
  induction entries with
  | nil => exact lookup_entry name query callable []
  | cons head rest ih =>
    obtain ⟨key, held⟩ := head
    by_cases before : name < key
    · rw [insertMember, if_pos before, lookup_entry]
    · by_cases same : name = key
      · subst same
        rw [insertMember, if_neg before, if_pos rfl, lookup_entry, lookup_entry]
        by_cases own : query = name <;> simp [own]
      · rw [insertMember, if_neg before, if_neg same, lookup_entry, lookup_entry, ih]
        by_cases here : query = key
        · have other : ¬ key = name := fun own => same own.symm
          simp [here, other]
        · simp [here]

theorem lookup_iff_mem (name : String) (callable : Callable) (entries : List (String × Callable))
    (ascending : Ascending entries) : entries.lookup name = some callable ↔ (name, callable) ∈ entries := by
  induction entries with
  | nil => simp
  | cons head rest ih =>
    obtain ⟨key, held⟩ := head
    obtain ⟨above, rest_ascending⟩ := List.pairwise_cons.mp ascending
    rw [lookup_entry, List.mem_cons]
    by_cases here : name = key
    · subst here
      have beyond : (name, callable) ∉ rest := fun member => String.lt_irrefl name (above _ member)
      simp [beyond, eq_comm]
    · simp [here, ih rest_ascending]

theorem Ascending.eq_of_lookup {a b : List (String × Callable)} (ascending_a : Ascending a) (ascending_b : Ascending b)
    (same : ∀ name, a.lookup name = b.lookup name) : a = b := by
  have antisymm : Std.Antisymm fun x y : String × Callable => x.1 < y.1 :=
    ⟨fun x y less greater => absurd (String.lt_trans less greater) (String.lt_irrefl x.1)⟩
  have irrefl : Std.Irrefl fun x y : String × Callable => x.1 < y.1 := ⟨fun x => String.lt_irrefl x.1⟩
  refine List.Pairwise.eq_of_mem_iff ascending_a ascending_b fun entry => ?_
  obtain ⟨name, callable⟩ := entry
  rw [← lookup_iff_mem name callable a ascending_a, ← lookup_iff_mem name callable b ascending_b, same]

theorem insertMember_last (name : String) (callable : Callable) (entries : List (String × Callable))
    (below : ∀ entry ∈ entries, entry.1 < name) :
    insertMember name callable entries = entries ++ [(name, callable)] := by
  induction entries with
  | nil => rfl
  | cons head rest ih =>
    obtain ⟨key, held⟩ := head
    have less : key < name := below (key, held) (List.mem_cons_self ..)
    have other : ¬ name = key := by
      rintro rfl
      exact String.lt_irrefl name less
    rw [insertMember, if_neg (String.lt_asymm less), if_neg other,
      ih fun entry member => below entry (List.mem_cons_of_mem _ member)]
    rfl

namespace Descriptor

@[simp] theorem get_empty (name : String) : empty.get? name = none := rfl

@[simp] theorem get_insert (d : Descriptor) (name query : String) (callable : Callable) :
    (d.insert name callable).get? query = if query = name then some callable else d.get? query :=
  lookup_insertMember name query callable d.methods

theorem eq_of_get {a b : Descriptor} (same : ∀ name, a.get? name = b.get? name) : a = b := by
  obtain ⟨entries_a, ascending_a⟩ := a
  obtain ⟨entries_b, ascending_b⟩ := b
  obtain rfl : entries_a = entries_b := ascending_a.eq_of_lookup ascending_b same
  rfl

theorem inserted_methods (d : Descriptor) (members : List (String × Callable))
    (ascending : Ascending (d.methods ++ members)) :
    (members.foldl (fun d member => d.insert member.1 member.2) d).methods = d.methods ++ members := by
  induction members generalizing d with
  | nil => simp
  | cons member members ih =>
    have below (entry : String × Callable) (held : entry ∈ d.methods) : entry.1 < member.1 :=
      (List.pairwise_append.mp ascending).2.2 entry held member (List.mem_cons_self ..)
    have inserted : (d.insert member.1 member.2).methods = d.methods ++ [member] :=
      insertMember_last member.1 member.2 d.methods below
    rw [List.foldl_cons, ih, inserted, List.append_assoc, List.singleton_append]
    rw [inserted, List.append_assoc, List.singleton_append]
    exact ascending

theorem of_list_methods (d : Descriptor) : ofList d.methods = d := by
  have methods : (ofList d.methods).methods = d.methods := inserted_methods empty d.methods d.ascending
  exact eq_of_get fun name => congrArg (List.lookup name) methods

end Descriptor

end ResourceRoutes
