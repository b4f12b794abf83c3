/-!
# Powers and words

Powers of two and of ten, and the bounds of words of 64 bits.
-/

namespace TemplateDebug

def twoTo (n : Nat) : Nat := Nat.pow 2 n

def tenTo (n : Nat) : Nat := Nat.pow 10 n

/-- Words of 64 bits are below this number. -/
def wordBound : Nat := 18446744073709551616

/-- The integer fits a signed word of 64 bits. -/
def fitsSigned (n : Int) : Bool := -9223372036854775808 ≤ n && n < 9223372036854775808

end TemplateDebug
