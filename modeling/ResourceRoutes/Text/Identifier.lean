import ResourceRoutes.Text.Ranges
import ResourceRoutes.Text.Identifier.Table
set_option autoImplicit false

namespace ResourceRoutes.Text

def isIdentStart (c : Char) : Bool := c == '_' || within c.toNat identifierStartRanges

def isIdentContinue (c : Char) : Bool := within c.toNat identifierContinueRanges

end ResourceRoutes.Text
