import ResourceRoutes.Signature
set_option autoImplicit false

namespace ResourceRoutes

def Ascending (entries : List (String × Callable)) : Prop := entries.Pairwise fun a b => a.1 < b.1

def insertMember (name : String) (callable : Callable) : List (String × Callable) → List (String × Callable)
  | [] => [(name, callable)]
  | (key, held) :: rest =>
    if name < key then (name, callable) :: (key, held) :: rest
    else if name = key then (name, callable) :: rest
    else (key, held) :: insertMember name callable rest

theorem mem_insertMember {name : String} {callable : Callable} {entries : List (String × Callable)}
    {entry : String × Callable} (h : entry ∈ insertMember name callable entries) :
    entry = (name, callable) ∨ entry ∈ entries := by
  induction entries with
  | nil => simpa [insertMember] using h
  | cons head rest ih =>
    rcases head with ⟨key, held⟩
    simp only [insertMember] at h
    split at h
    · simpa using h
    · split at h
      · simp only [List.mem_cons] at h ⊢
        rcases h with h | h
        · exact .inl h
        · exact .inr (.inr h)
      · simp only [List.mem_cons] at h ⊢
        rcases h with h | h
        · exact .inr (.inl h)
        · rcases ih h with h | h
          · exact .inl h
          · exact .inr (.inr h)

theorem ascending_insertMember {name : String} {callable : Callable} {entries : List (String × Callable)}
    (h : Ascending entries) : Ascending (insertMember name callable entries) := by
  induction entries with
  | nil => simp [insertMember, Ascending]
  | cons head rest ih =>
    rcases head with ⟨key, held⟩
    have hrest : Ascending rest := (List.pairwise_cons.1 h).2
    have hhead := (List.pairwise_cons.1 h).1
    simp only [insertMember]
    split
    · rename_i hlt
      refine List.pairwise_cons.2 ⟨?_, h⟩
      intro entry hentry
      rcases List.mem_cons.1 hentry with rfl | hentry
      · exact hlt
      · exact String.lt_trans hlt (hhead entry hentry)
    · rename_i hlt
      split
      · rename_i heq
        subst heq
        exact List.pairwise_cons.2 ⟨hhead, hrest⟩
      · rename_i hne
        refine List.pairwise_cons.2 ⟨?_, ih hrest⟩
        intro entry hentry
        rcases mem_insertMember hentry with rfl | hentry
        · rcases String.le_total key name with hle | hle
          · exact Decidable.byContradiction fun hnot =>
              hne (String.le_antisymm (String.not_lt.1 hnot) hle)
          · exact absurd (Decidable.byContradiction fun hnot =>
              hne (String.le_antisymm hle (String.not_lt.1 hnot))) hlt
        · exact hhead entry hentry

structure Descriptor where
  methods : List (String × Callable) := []
  ascending : Ascending methods := by exact List.Pairwise.nil
deriving DecidableEq

namespace Descriptor

def empty : Descriptor := {}

def insert (d : Descriptor) (name : String) (callable : Callable) : Descriptor :=
  ⟨insertMember name callable d.methods, ascending_insertMember d.ascending⟩

def ofList (members : List (String × Callable)) : Descriptor :=
  members.foldl (fun d member => d.insert member.1 member.2) empty

def get? (d : Descriptor) (name : String) : Option Callable := d.methods.lookup name

end Descriptor

structure Resource where
  name : String
  descriptor : Descriptor
deriving DecidableEq

end ResourceRoutes
