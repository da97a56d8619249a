import ScanRules.Proofs.Text.Escaped
import ScanRules.Token

/-!
# Tokens as text

A token is shown with its name as it is and its text in escaped form, each between quotes. Names may
have anything in them, also what looks like the end of a name and the start of a text.

- `Token.opening`, `Token.toList_display`: what is shown, with the quote in front of the text set off.
- `Token.display_eq_display_iff`: what is shown tells name and text.
-/

namespace ScanRules

namespace Token

/-- What is shown in front of the quote that opens the text. -/
def opening (t : Token) : String := "Token('" ++ t.name ++ "', "

theorem toList_display (t : Token) :
    t.display.toList =
      t.opening.toList ++ '\'' :: t.text.toList.flatMap escapeChar ++ "')".toList := by
  simp [display, opening, escape, toString]

/-- This quote does not come behind a backslash, even if the name ends in one. -/
theorem getLast?_opening_ne (t : Token) : t.opening.toList.getLast? ≠ some '\\' := by
  have hspace : t.opening.toList.getLast? = some ' ' := by
    rw [opening, String.toList_append, List.getLast?_append]
    simp
  rw [hspace]
  decide

theorem opening_inj {t u : Token} (h : t.opening = u.opening) : t.name = u.name := by
  simpa [opening] using h

/-- **Tokens are told apart**: two tokens are shown alike iff they have the same name and the same
text, although only the text is escaped. -/
theorem display_eq_display_iff (t u : Token) :
    t.display = u.display ↔ t.name = u.name ∧ t.text = u.text := by
  constructor
  · intro h
    have hshown := congrArg String.toList h
    rw [toList_display, toList_display] at hshown
    obtain ⟨hopening, htext⟩ := append_quote_inj t.getLast?_opening_ne u.getLast?_opening_ne
      (List.append_cancel_right hshown)
    exact ⟨opening_inj (String.toList_inj.1 hopening), String.toList_inj.1 htext⟩
  · rintro ⟨hname, htext⟩
    rw [display, display, hname, htext]

/-- The name ends in a backslash, and name and text both have in them what stands between them. -/
example : display ⟨"a', '\\", "b', '\\é", .origin⟩ =
    "Token('a', '\\', 'b\\', \\'\\\\\\u\x7be9\x7d')" := by
  decide +kernel

end Token

end ScanRules
