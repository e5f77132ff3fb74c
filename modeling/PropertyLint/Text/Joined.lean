/-! Texts joined by a separator. -/

namespace PropertyLint.Text

/-- The texts in order, with `separator` between neighbours. -/
def joined (separator : String) : List String → String
  | [] => ""
  | [text] => text
  | text :: rest => text ++ separator ++ joined separator rest

end PropertyLint.Text
