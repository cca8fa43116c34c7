import ResourceRoutes.Text.Ranges
import ResourceRoutes.Text.Alphanumeric.Table
set_option autoImplicit false

namespace ResourceRoutes.Text

def isAlphanumeric (c : Char) : Bool := within c.toNat alphanumericRanges

end ResourceRoutes.Text
