import BlockScript.Block.Kind

/-!
# Vocabularies

Which block types are understood, and as which kinds. The names of the kinds themselves are, and an
editor may have further names for them. A later name takes the place of an earlier one, also of
the name of a kind; a name for something that is no kind is passed over.
-/

set_option autoImplicit false

namespace BlockScript

/-- The block types that are understood. -/
structure Vocabulary where
  /-- Names for kinds, latest first. -/
  aliases : List (String × Block.Kind)
  deriving DecidableEq

namespace Vocabulary

/-- The names of the kinds themselves. -/
def standard : Vocabulary := ⟨[]⟩

/-- The kind of a block type. -/
def kind? (vocabulary : Vocabulary) (type : String) : Option Block.Kind :=
  (vocabulary.aliases.lookup type).or (Block.Kind.ofTypeName? type)

/-- The vocabulary with a further name for the kind that is called `kindName`. -/
def addAlias (vocabulary : Vocabulary) (name kindName : String) : Vocabulary :=
  match Block.Kind.ofTypeName? kindName with
  | some kind => ⟨(name, kind) :: vocabulary.aliases⟩
  | none => vocabulary

end Vocabulary

end BlockScript
