import ResourceRoutes.Text.Ranges
import ResourceRoutes.Text.Printable.Table
set_option autoImplicit false

namespace ResourceRoutes.Text

def isPrintable (c : Char) : Bool := !within c.toNat unprintableRanges

-- The character attaches to the one before it, so it cannot be shown alone.
def isGraphemeExtend (c : Char) : Bool := within c.toNat graphemeExtendRanges

end ResourceRoutes.Text
