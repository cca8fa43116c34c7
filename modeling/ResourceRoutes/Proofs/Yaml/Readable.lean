import ResourceRoutes.Proofs.Exchange.Record
import ResourceRoutes.Proofs.Yaml.Node.Grammar
import ResourceRoutes.Proofs.Yaml.Scalar
import ResourceRoutes.Proofs.Yaml.Token.Document
import ResourceRoutes.Yaml.Readable
set_option autoImplicit false

namespace ResourceRoutes.Yaml

mutual
theorem shows_of_node (document : Document) (fits : document.Fits) (view : View) :
    Shows document (view.of (nodeOf document)) := by
  cases document with
  | text content => exact congrArg some String.ofList_toList
  | nat n =>
    have bound : n < natBound := fits
    show (Meaning.unsigned? (Nat.toDigits 10 n)).filter _ = some n
    simp [Meaning.unsigned_digits, bound]
  | flag value => exact Meaning.flag_text value
  | list items => exact ⟨_, rfl, shows_of_nodes items fits (view.of (nodeOf (.list items)))⟩
  | record fields =>
    obtain ⟨entries, named, shown⟩ := shows_of_entries fields fits (view.of (nodeOf (.record fields)))
    refine ⟨entries, fun names => ?_, shown⟩
    show some (Fields.mk _ _) = some (Fields.mk entries true)
    rw [named, taken_entries]
    simp

theorem shows_of_nodes (items : List Document) (fits : FitItems items) (view : View) :
    ShowsItems items ((nodesOf items).map view.of) := by
  cases items with
  | nil => trivial
  | cons item items => exact ⟨shows_of_node item fits.1 view, shows_of_nodes items fits.2 view⟩

theorem shows_of_entries (fields : List (String × Document)) (fits : FitFields fields) (view : View) :
    ∃ entries : List (String × View),
      (entriesOf fields).map (fun entry => (view.of entry.1).text?.map (·, view.of entry.2)) = entries.map some ∧
        ShowsFields fields entries := by
  cases fields with
  | nil => exact ⟨[], rfl, trivial⟩
  | cons field fields =>
    obtain ⟨name, value⟩ := field
    obtain ⟨entries, named, shown⟩ := shows_of_entries fields fits.2 view
    refine ⟨(name, view.of (nodeOf value)) :: entries, ?_, rfl, shows_of_node value fits.1 view, shown⟩
    rw [entriesOf, List.map_cons, named]
    simp [View.text?, View.target?, View.of]
end

theorem named_items_map {α : Type} (document : α → Document) (xs : List α) (each : ∀ x ∈ xs, Named (document x)) :
    NamedItems (xs.map document) :=
  said_of_map trivial (fun _ _ first others => ⟨first, others⟩) document xs each

theorem read_render (items : List Document) (extra : List Char) (named : NamedItems items)
    (breaks : ∀ c ∈ extra, isPlainBreak c = true) :
    read? ((render (.list items)).toList ++ extra) = some (Tree.ofNode (nodeOf (padded extra (.list items)))) := by
  rw [render, String.toList_ofList, read?, tokens_written items extra named breaks, Option.bind_eq_bind, Option.bind_some,
    padded, tree_of_tokens]

theorem shows_of_tree (document : Document) (fits : document.Fits) :
    Shows document (View.ofTree (Tree.ofNode (nodeOf document))) :=
  shows_of_node document fits (View.ofTree (Tree.ofNode (nodeOf document)))

end ResourceRoutes.Yaml
