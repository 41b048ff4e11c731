import Dispatchers.Go.Declaration
import Dispatchers.Text.Literal
import Dispatchers.Go.TokenReader

namespace Dispatchers.Go.Grammar

/-- The grammar refers to itself through a record of its nested rules. Rules for source nested one
level deeper are built from those for the level below, so a source with `n` tokens needs at most
`n` levels. -/
structure Rules where
  type : TokenReader TypeExpr
  expression : TokenReader Unit
  elements : TokenReader Unit
  statement : TokenReader Unit

def Rules.none : Rules :=
  ⟨failure, failure, failure, failure⟩

end Dispatchers.Go.Grammar
