import ResourceRoutes.Proofs.Source.Token.Tidied
import ResourceRoutes.Source.Type.Parser
set_option autoImplicit false

/- Types without functions, macros, expressions and binders, of which a type keeps only the tokens, and without bounds
   that stand by themselves or have a plus sign behind the last one. -/
namespace ResourceRoutes.Source

def pathWords : List (List Char) := ["super", "self", "Self", "crate"].map String.toList

def PathWord (name : List Char) : Prop := name ∉ keywords ∨ name ∈ pathWords

def ArgumentWord (name : List Char) : Prop := name ∉ keywords ∨ name = "Self".toList

theorem PathWord.apart {name : List Char} (own : PathWord name) (word : List Char) (keyword : word ∈ keywords)
    (other : word ∉ pathWords) : name ≠ word := by
  rintro rfl
  cases own with
  | inl free => exact free keyword
  | inr listed => exact other listed

theorem ArgumentWord.path_word {name : List Char} (own : ArgumentWord name) : PathWord name := by
  cases own with
  | inl free => exact .inl free
  | inr same => exact .inr (by rw [same]; decide)

def TypeExpr.Single : TypeExpr → Prop
  | .traitObject _ bounds _ => bounds.length = 1
  | .implTrait bounds _ => bounds.length = 1
  | _ => True

inductive SingleLength : Tree → Prop where
  | ident (name : List Char) : SingleLength (.ident name)
  | literal (text : List Char) (kept : Unglued text) : SingleLength (.literal text)

mutual
inductive TypeExpr.Ordinary : TypeExpr → Prop where
  | path (isGlobal : Bool) (segments : List Segment) (present : segments ≠ [])
      (each : ∀ segment ∈ segments, segment.Ordinary) : TypeExpr.Ordinary (.path isGlobal segments)
  | qualified (self : TypeExpr) (rest : List Segment) (own : self.Ordinary) (present : rest ≠ [])
      (each : ∀ segment ∈ rest, segment.Ordinary) : TypeExpr.Ordinary (.qualified self false [] rest)
  | ofTrait (self : TypeExpr) (isGlobal : Bool) (traitPath rest : List Segment) (own : self.Ordinary)
      (named : traitPath ≠ []) (eachNamed : ∀ segment ∈ traitPath, segment.Ordinary) (present : rest ≠ [])
      (each : ∀ segment ∈ rest, segment.Ordinary) : TypeExpr.Ordinary (.qualified self isGlobal traitPath rest)
  | reference (lifetime : Option (List Char)) (mutable : Bool) (referent : TypeExpr) (own : referent.Ordinary)
      (single : referent.Single) : TypeExpr.Ordinary (.reference lifetime mutable referent)
  | pointer (mutable : Bool) (target : TypeExpr) (own : target.Ordinary) (single : target.Single) :
      TypeExpr.Ordinary (.pointer mutable target)
  | paren (inner : TypeExpr) (own : inner.Ordinary) : TypeExpr.Ordinary (.paren inner)
  | unit : TypeExpr.Ordinary (.tuple [] false)
  | tuple (first : TypeExpr) (others : List TypeExpr) (trailing : Bool) (own : first.Ordinary)
      (each : ∀ t ∈ others, t.Ordinary) (alone : others = [] → trailing = true) :
      TypeExpr.Ordinary (.tuple (first :: others) trailing)
  | slice (element : TypeExpr) (own : element.Ordinary) : TypeExpr.Ordinary (.slice element)
  | array (element : TypeExpr) (length : Tree) (own : element.Ordinary) (single : SingleLength length) :
      TypeExpr.Ordinary (.array element [length])
  | dynamic (bounds : List Bound) (each : ∀ bound ∈ bounds, bound.Ordinary) (named : Parser.namesTrait bounds = true) :
      TypeExpr.Ordinary (.traitObject true bounds false)
  | implemented (bounds : List Bound) (each : ∀ bound ∈ bounds, bound.Ordinary)
      (named : Parser.namesTrait bounds = true) : TypeExpr.Ordinary (.implTrait bounds false)
  | never : TypeExpr.Ordinary (.other (Tree.op "!"))
  | inferred : TypeExpr.Ordinary (.other [.word "_"])

inductive Segment.Ordinary : Segment → Prop where
  | bare (name : List Char) (own : PathWord name) : Segment.Ordinary (.mk name .none)
  | angled (name : List Char) (separated : Bool) (lifetimes : List (List Char)) (others : List Argument)
      (trailing : Bool) (own : ArgumentWord name) (each : ∀ argument ∈ others, argument.Ordinary)
      (alone : lifetimes = [] → others = [] → trailing = true) :
      Segment.Ordinary (.mk name (.angled separated (lifetimes.map .lifetime ++ others) trailing))

inductive Argument.Ordinary : Argument → Prop where
  | type (t : TypeExpr) (own : t.Ordinary) : Argument.Ordinary (.type t)
  | literal (text : List Char) (kept : Unglued text) : Argument.Ordinary (.other [.literal text])
  | binding (named : Segment) (t : TypeExpr) (ownName : named.Ordinary) (own : t.Ordinary) :
      Argument.Ordinary (.other (TypeExpr.treesOfSegment named ++ Tree.op "=" ++ t.trees))

inductive Bound.Ordinary : Bound → Prop where
  | lifetime (name : List Char) : Bound.Ordinary (.lifetime name)
  | trait (inParens relaxed isGlobal : Bool) (segments : List Segment) (own : TraitPath segments) :
      Bound.Ordinary (.trait inParens (if relaxed then Tree.op "?" else []) isGlobal segments)

inductive TraitPath : List Segment → Prop where
  | plain (segments : List Segment) (present : segments ≠ []) (each : ∀ segment ∈ segments, segment.Ordinary) :
      TraitPath segments
  | called (leading : List Segment) (name : List Char) (inputs : List TypeExpr) (trailing : Bool)
      (each : ∀ segment ∈ leading, segment.Ordinary) (own : PathWord name) (eachInput : ∀ t ∈ inputs, t.Ordinary)
      (alone : inputs = [] → trailing = true) : TraitPath (leading ++ [.mk name (.called inputs trailing)])
  | returning (leading : List Segment) (name : List Char) (inputs : List TypeExpr) (trailing : Bool)
      (output : TypeExpr) (each : ∀ segment ∈ leading, segment.Ordinary) (own : PathWord name)
      (eachInput : ∀ t ∈ inputs, t.Ordinary) (alone : inputs = [] → trailing = true) (ownOutput : output.Ordinary)
      (single : output.Single) : TraitPath (leading ++ [.mk name (.returning inputs trailing output)])
end

-- Words that no type begins with, although they may stand where one is looked for.
def wordsBefore : List (List Char) := ["for", "mut", "true", "false"].map String.toList

inductive BeginsType : Tree → Prop where
  | word (name : List Char) (apart : name ∉ wordsBefore) : BeginsType (.ident name)
  | parens (content : List Tree) : BeginsType (.group .parens content)
  | brackets (content : List Tree) : BeginsType (.group .brackets content)
  | sign (c : Char) (joint : Bool) (listed : c ∈ "<&*!:".toList) : BeginsType (.punct c joint)

theorem PathWord.begins {name : List Char} (own : PathWord name) : BeginsType (.ident name) := by
  refine .word name ?_
  have each : ∀ word ∈ wordsBefore, word ∈ keywords ∧ word ∉ pathWords := by decide
  intro listed
  obtain ⟨keyword, other⟩ := each name listed
  exact own.apart name keyword other rfl

theorem Segment.Ordinary.named {segment : Segment} (own : segment.Ordinary) :
    ∃ name rest, TypeExpr.treesOfSegment segment = .ident name :: rest ∧ PathWord name := by
  cases own with
  | bare name own => exact ⟨name, [], rfl, own⟩
  | angled name separated lifetimes others trailing own each alone => exact ⟨name, _, rfl, own.path_word⟩

theorem Segment.Ordinary.word {segment : Segment} (own : segment.Ordinary) : PathWord segment.name := by
  cases own with
  | bare name own => exact own
  | angled name separated lifetimes others trailing own each alone => exact own.path_word

theorem TypeExpr.Ordinary.begins {t : TypeExpr} (own : t.Ordinary) :
    ∃ tree rest, t.trees = tree :: rest ∧ BeginsType tree := by
  cases own with
  | path isGlobal segments present each =>
    cases isGlobal with
    | true => exact ⟨.punct ':' true, _, rfl, .sign ':' true (by decide)⟩
    | false =>
      cases segments with
      | nil => exact absurd rfl present
      | cons first others =>
        obtain ⟨name, rest, same, own⟩ := (each first (List.mem_cons_self ..)).named
        cases others with
        | nil => exact ⟨.ident name, rest, same, own.begins⟩
        | cons second others =>
          refine ⟨.ident name, rest ++ (Tree.op "::" ++ TypeExpr.treesOfPath (second :: others)), ?_, own.begins⟩
          rw [TypeExpr.trees, TypeExpr.treesOfPath, same]
          · simp [TypeExpr.separator]
          · nofun
  | qualified | ofTrait => exact ⟨.punct '<' false, _, rfl, .sign '<' false (by decide)⟩
  | reference => exact ⟨.punct '&' false, _, rfl, .sign '&' false (by decide)⟩
  | pointer => exact ⟨.punct '*' false, _, rfl, .sign '*' false (by decide)⟩
  | paren | unit | tuple => exact ⟨.group .parens _, [], rfl, .parens _⟩
  | slice | array => exact ⟨.group .brackets _, [], rfl, .brackets _⟩
  | dynamic => exact ⟨.word "dyn", _, rfl, .word _ (by decide)⟩
  | implemented => exact ⟨.word "impl", _, rfl, .word _ (by decide)⟩
  | never => exact ⟨.punct '!' false, [], rfl, .sign '!' false (by decide)⟩
  | inferred => exact ⟨.word "_", [], rfl, .word _ (by decide)⟩

end ResourceRoutes.Source
