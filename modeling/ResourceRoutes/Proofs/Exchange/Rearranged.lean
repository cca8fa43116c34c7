import Mathlib.Data.List.Perm.Basic
import ResourceRoutes.Exchange.Readable
set_option autoImplicit false

namespace ResourceRoutes

variable {ν α : Type}

inductive Rearranged (names : List String) (written dropped entries : List (String × ν)) : Prop where
  | intro (kept added : List (String × ν)) (parted : (kept ++ dropped).Perm written)
      (mixed : entries.Perm (kept ++ added)) (unknown : ∀ entry ∈ added, entry.1 ∉ names)

namespace Rearranged

theorem refl (names : List String) (written : List (String × ν)) : Rearranged names written [] written :=
  .intro written [] (by rw [List.append_nil]) (by rw [List.append_nil]) nofun

variable {names : List String} {written dropped entries : List (String × ν)}

theorem dropped_written (moved : Rearranged names written dropped entries) (entry : String × ν)
    (member : entry ∈ dropped) : entry ∈ written := by
  obtain ⟨kept, added, parted, -, -⟩ := moved
  exact parted.mem_iff.mp (List.mem_append_right kept member)

theorem filter_named (name : String) (value : ν) (distinct : (written.map (·.1)).Nodup) (member : (name, value) ∈ written) :
    written.filter (·.1 == name) = [(name, value)] := by
  induction written with
  | nil => cases member
  | cons entry written ih =>
    obtain ⟨key, held⟩ := entry
    obtain ⟨fresh, others⟩ := List.nodup_cons.mp distinct
    by_cases own : key = name
    · subst own
      have absent (entry : String × ν) (listed : entry ∈ written) : entry.1 ≠ key := by
        rintro rfl
        exact fresh (List.mem_map.mpr ⟨entry, listed, rfl⟩)
      have none : written.filter (·.1 == key) = [] :=
        List.filter_eq_nil_iff.mpr fun entry listed same => absent entry listed (beq_iff_eq.mp same)
      have same : (key, value) = (key, held) := (List.mem_cons.mp member).resolve_right fun later => absent _ later rfl
      simp [none, same]
    · have later : (name, value) ∈ written := by
        refine (List.mem_cons.mp member).resolve_left fun same => own ?_
        rw [(Prod.mk.inj same).1]
      simp [own, ih others later]

theorem once_cases (moved : Rearranged names written dropped entries) (distinct : (written.map (·.1)).Nodup)
    (name : String) (value : ν) (known : name ∈ names) (member : (name, value) ∈ written) :
    (Fields.once ⟨entries, true⟩ name = .ok (some value) ∧ ∀ entry ∈ dropped, entry.1 ≠ name) ∨
      (Fields.once ⟨entries, true⟩ name = .ok none ∧ (name, value) ∈ dropped) := by
  obtain ⟨kept, added, parted, mixed, unknown⟩ := moved
  have alone : added.filter (·.1 == name) = [] := by
    refine List.filter_eq_nil_iff.mpr fun entry listed same => unknown entry listed ?_
    rwa [beq_iff_eq.mp same]
  have found : (entries.filter (·.1 == name)).Perm (kept.filter (·.1 == name)) := by
    have filtered := mixed.filter (·.1 == name)
    rwa [List.filter_append, alone, List.append_nil] at filtered
  have split := parted.filter (·.1 == name)
  rw [filter_named name value distinct member, List.filter_append, List.perm_singleton] at split
  cases held : kept.filter (·.1 == name) with
  | nil =>
    rw [held, List.nil_append] at split
    rw [held, List.perm_nil] at found
    refine .inr ⟨by rw [Fields.once, found], ?_⟩
    exact List.mem_of_mem_filter (split ▸ List.mem_singleton_self _)
  | cons entry others =>
    rw [held, List.cons_append, List.cons.injEq, List.append_eq_nil_iff] at split
    obtain ⟨rfl, rfl, rest⟩ := split
    rw [held, List.perm_singleton] at found
    refine .inl ⟨by rw [Fields.once, found], fun entry listed same => ?_⟩
    exact List.filter_eq_nil_iff.mp rest entry listed (beq_iff_eq.mpr same)

theorem required_kept (moved : Rearranged names written dropped entries) (distinct : (written.map (·.1)).Nodup)
    (name : String) (value : ν) (read : ν → Except ReadFault α) (known : name ∈ names) (member : (name, value) ∈ written)
    (kept : ∀ entry ∈ dropped, entry.1 ≠ name) : Fields.required ⟨entries, true⟩ name read = read value := by
  cases moved.once_cases distinct name value known member with
  | inl found =>
    rw [Fields.required, found.1]
    rfl
  | inr missing => exact absurd rfl (kept _ missing.2)

theorem required_dropped (moved : Rearranged names written dropped entries) (distinct : (written.map (·.1)).Nodup)
    (name : String) (value : ν) (read : ν → Except ReadFault α) (known : name ∈ names) (member : (name, value) ∈ written)
    (lost : ∃ entry ∈ dropped, entry.1 = name) : Fields.required ⟨entries, true⟩ name read = .error .malformed := by
  cases moved.once_cases distinct name value known member with
  | inl found =>
    obtain ⟨entry, listed, same⟩ := lost
    exact absurd same (found.2 entry listed)
  | inr missing =>
    rw [Fields.required, missing.1]
    rfl

theorem optional_kept (moved : Rearranged names written dropped entries) (distinct : (written.map (·.1)).Nodup)
    (name : String) (value : ν) (default : α) (read : ν → Except ReadFault α) (known : name ∈ names)
    (member : (name, value) ∈ written) (spare : (name, value) ∈ dropped → read value = .ok default) :
    Fields.optional ⟨entries, true⟩ name default read = read value := by
  cases moved.once_cases distinct name value known member with
  | inl found =>
    rw [Fields.optional, found.1]
    rfl
  | inr missing =>
    rw [Fields.optional, missing.1, spare missing.2]
    rfl

end Rearranged

end ResourceRoutes
