/-!
# Stripping a class of characters

`strip p` takes the characters of a class off both ends of a list. A stripped list neither begins
nor ends with a character of the class, and what lies between the ends stays as it is.
-/

namespace Stagehand.Text

/-- The list without its longest end in the class. -/
def stripEnd (p : Char → Bool) (cs : List Char) : List Char :=
  (cs.reverse.dropWhile p).reverse

/-- The list without its longest beginning and its longest end in the class. -/
def strip (p : Char → Bool) (cs : List Char) : List Char :=
  stripEnd p (cs.dropWhile p)

@[simp] theorem strip_nil (p : Char → Bool) : strip p [] = [] := rfl

end Stagehand.Text
