import ResourceRoutes.Json.Printer
import ResourceRoutes.Json.Token
set_option autoImplicit false

namespace ResourceRoutes.Json

structure Layout where
  line : Nat → List Char
  gap : List Char
  line_blank : ∀ depth, ∀ c ∈ line depth, Token.isBlank c = true
  gap_blank : ∀ c ∈ gap, Token.isBlank c = true

namespace Layout

def manyLines : Layout where
  line depth := '\n' :: indentation depth
  gap := [' ']
  line_blank depth c member := by
    rcases List.mem_cons.mp member with rfl | member
    · rfl
    · rw [List.eq_of_mem_replicate member]
      rfl
  gap_blank := List.forall_mem_singleton.mpr rfl

def oneLine : Layout where
  line _ := []
  gap := []
  line_blank _ _ member := nomatch member
  gap_blank _ member := nomatch member

end Layout

mutual
def laid (layout : Layout) (depth : Nat) : Json → List Char
  | .null => "null".toList
  | .bool value => if value then "true".toList else "false".toList
  | .number spelling => spelling
  | .string spelling => inQuotes spelling
  | .array [] => "[]".toList
  | .array (item :: rest) =>
    '[' :: laidItems layout (depth + 1) (item :: rest) ++ layout.line depth ++ [']']
  | .object [] => [Char.ofNat 0x7B, Char.ofNat 0x7D]
  | .object (member :: rest) =>
    Char.ofNat 0x7B :: laidMembers layout (depth + 1) (member :: rest) ++ layout.line depth ++ [Char.ofNat 0x7D]

def laidItems (layout : Layout) (depth : Nat) : List Json → List Char
  | [] => []
  | [item] => layout.line depth ++ laid layout depth item
  | item :: rest => layout.line depth ++ laid layout depth item ++ ',' :: laidItems layout depth rest

def laidMembers (layout : Layout) (depth : Nat) : List (List Char × Json) → List Char
  | [] => []
  | [(key, value)] => layout.line depth ++ inQuotes key ++ ':' :: layout.gap ++ laid layout depth value
  | (key, value) :: rest =>
    layout.line depth ++ inQuotes key ++ ':' :: layout.gap ++ laid layout depth value
      ++ ',' :: laidMembers layout depth rest
end

mutual
theorem pretty_laid (depth : Nat) (value : Json) : pretty depth value = laid .manyLines depth value := by
  cases value with
  | null | bool | number | string => rfl
  | array items =>
    cases items with
    | nil => rfl
    | cons item rest => simp [pretty, laid, pretty_items_laid, Layout.manyLines]
  | object members =>
    cases members with
    | nil => rfl
    | cons member rest => simp [pretty, laid, pretty_members_laid, Layout.manyLines]

theorem pretty_items_laid (depth : Nat) (items : List Json) :
    prettyItems depth items = laidItems .manyLines depth items := by
  match items with
  | [] => rfl
  | [item] => simp [prettyItems, laidItems, pretty_laid, Layout.manyLines]
  | item :: next :: others =>
    simp [prettyItems, laidItems, pretty_laid, pretty_items_laid depth (next :: others), Layout.manyLines]

theorem pretty_members_laid (depth : Nat) (members : List (List Char × Json)) :
    prettyMembers depth members = laidMembers .manyLines depth members := by
  match members with
  | [] => rfl
  | [(key, value)] => simp [prettyMembers, laidMembers, pretty_laid, Layout.manyLines]
  | (key, value) :: next :: others =>
    simp [prettyMembers, laidMembers, pretty_laid, pretty_members_laid depth (next :: others), Layout.manyLines]
end

mutual
theorem compact_laid (depth : Nat) (value : Json) : compact value = laid .oneLine depth value := by
  cases value with
  | null | bool | number | string => rfl
  | array items =>
    cases items with
    | nil => rfl
    | cons item rest => simp [compact, laid, compact_items_laid (depth + 1), Layout.oneLine]
  | object members =>
    cases members with
    | nil => rfl
    | cons member rest => simp [compact, laid, compact_members_laid (depth + 1), Layout.oneLine]

theorem compact_items_laid (depth : Nat) (items : List Json) :
    compactItems items = laidItems .oneLine depth items := by
  match items with
  | [] => rfl
  | [item] => simp [compactItems, laidItems, compact_laid depth, Layout.oneLine]
  | item :: next :: others =>
    simp [compactItems, laidItems, compact_laid depth, compact_items_laid depth (next :: others), Layout.oneLine]

theorem compact_members_laid (depth : Nat) (members : List (List Char × Json)) :
    compactMembers members = laidMembers .oneLine depth members := by
  match members with
  | [] => rfl
  | [(key, value)] => simp [compactMembers, laidMembers, compact_laid depth, Layout.oneLine]
  | (key, value) :: next :: others =>
    simp [compactMembers, laidMembers, compact_laid depth, compact_members_laid depth (next :: others), Layout.oneLine]
end

end ResourceRoutes.Json
