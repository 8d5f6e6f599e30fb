import JsonDesk.Text

/-!
Lower case, as far as ASCII words can tell.  Besides the Latin capitals only two code points have
an ASCII letter in their lower case form: the Kelvin sign, and the dotted capital I, whose form is
an i followed by a combining dot.
-/

set_option autoImplicit false

namespace JsonDesk

def CodePoint.lower (c : CodePoint) : Text :=
  if 0x41 ≤ c.val ∧ c.val ≤ 0x5A then [CodePoint.ofNat (c.val + 0x20)]
  else if c.val = 0x212A then [CodePoint.ofChar 'k']
  else if c.val = 0x130 then [CodePoint.ofChar 'i', CodePoint.ofNat 0x307]
  else [c]

/-- Lower case with every other letter left alone: a comparison with an ASCII word has the same
answer as on the full lower case. -/
def Text.lower (t : Text) : Text := t.flatMap CodePoint.lower

end JsonDesk
