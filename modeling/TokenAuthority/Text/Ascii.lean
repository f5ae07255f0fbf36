/-!
# Characters of configuration files

## Main definitions

* `isGap` — the blanks within a line.
* `isNameChar` — the characters of names that stand without quotation marks.
-/

set_option autoImplicit false

namespace TokenAuthority

/-- Spaces and tabs. -/
def isGap (c : Char) : Bool := c == ' ' || c == '\t'

/-- ASCII letters and digits, underlines and hyphens. -/
def isNameChar (c : Char) : Bool := c.isAlphanum || c == '_' || c == '-'

end TokenAuthority
