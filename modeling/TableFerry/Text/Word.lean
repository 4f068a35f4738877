import TableFerry.Text.Ranges
import TableFerry.Text.WordTable
/-!
Word characters: letters and numbers of every script, and the underscore.
-/
namespace TableFerry.Text

def isWordChar (c : Char) : Bool := c = '_' || inRanges c.toNat letterOrNumberRanges

end TableFerry.Text
